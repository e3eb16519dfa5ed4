import StubProxy.Rule.File
import StubProxy.Rule.Writer
import StubProxy.Rule.Parts
import StubProxy.Rule.Outline
import StubProxy.Rule.Block
import StubProxy.Config.Layer
import StubProxy.Directive.Json
import StubProxy.Json.Reader
import StubProxy.Json.Grammar
import StubProxy.Url.Basic
import StubProxy.Route.Queue
import StubProxy.Session.Run
import StubProxy.Session.Scope
import StubProxy.Session.History
import StubProxy.Proxy.Client
import StubProxy.Proxy.Wire
import StubProxy.Main
import StubProxy.Proofs.Fifo
import StubProxy.Proofs.Escape
import StubProxy.Proofs.Written
import StubProxy.Proofs.TextBytes
import StubProxy.Proofs.Parts
import StubProxy.Proofs.LooseVerdict
import StubProxy.Proofs.Conservation
import StubProxy.Proofs.StrictPrefix
import StubProxy.Proofs.Lossy
import StubProxy.Proofs.Indentation
import StubProxy.Proofs.BodyFrame
import StubProxy.Proofs.OrdersAgree
import StubProxy.Proofs.WaysOut
import StubProxy.Proofs.Loading
import StubProxy.Proofs.Widening
import StubProxy.Proofs.OpenedHost
import StubProxy.Proofs.RequestForms
import StubProxy.Proofs.StubResponse
import StubProxy.Proofs.RuleFiles
import StubProxy.Proofs.Writable
import StubProxy.Proofs.HeaderBlock
import StubProxy.Proofs.LongestMargin
import StubProxy.Proofs.LineEndings
import StubProxy.Proofs.NestedGuards
import StubProxy.Proofs.PrintedDirectives
import StubProxy.Proofs.ByteSearch
import StubProxy.Proofs.LayeredConfig
