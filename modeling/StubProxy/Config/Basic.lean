import StubProxy.Address.Socket

/-!
# Session configuration

The options of a session, their defaults, and how to change one.
-/

namespace StubProxy

/-- The options of a session. -/
structure Options where
  /-- Closing fails if a directive was never served. -/
  assertAllFired : Bool
  /-- Directives are served in the order of registration only. -/
  strictOrder : Bool
  /-- Closing fails if a request matched nothing. -/
  failOnUnmatched : Bool
  /-- The proxy is exported to the environment while the session lives. -/
  exportProxyEnv : Bool
  /-- Where the proxy listens. -/
  listenAddr : SocketAddress
  logRequests : Bool
  logResponses : Bool
  deriving DecidableEq

/-- The options that nothing overrides. -/
def Options.default : Options where
  assertAllFired := true
  strictOrder := false
  failOnUnmatched := true
  exportProxyEnv := false
  listenAddr := .loopback
  logRequests := true
  logResponses := true

/-- The configuration of a mocking scope. -/
structure Config where
  /-- Nothing is intercepted at all. -/
  bypass : Bool
  engine : Options
  deriving DecidableEq

namespace Config

/-- The configuration that nothing overrides. -/
def default : Config := ⟨false, .default⟩

/-- The configuration that intercepts nothing. -/
def bypassed : Config := { default with bypass := true }

def withBypass (c : Config) (b : Bool) : Config := { c with bypass := b }

def withStrictOrder (c : Config) (b : Bool) : Config :=
  { c with engine := { c.engine with strictOrder := b } }

def withAssertAllFired (c : Config) (b : Bool) : Config :=
  { c with engine := { c.engine with assertAllFired := b } }

def withFailOnUnmatched (c : Config) (b : Bool) : Config :=
  { c with engine := { c.engine with failOnUnmatched := b } }

def withExportProxyEnv (c : Config) (b : Bool) : Config :=
  { c with engine := { c.engine with exportProxyEnv := b } }

def withListenAddr (c : Config) (a : SocketAddress) : Config :=
  { c with engine := { c.engine with listenAddr := a } }

end Config

end StubProxy
