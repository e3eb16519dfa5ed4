import StubProxy.Directive
import StubProxy.Json.Printer

/-!
# Directives as JSON

A text body is a string and a binary one an array of numbers. What a directive may lack is `null` if
it does: no headers are not an empty object. `Directive.ofJson?` reads back what `Directive.toJson`
writes.
-/

namespace StubProxy

open Text

namespace Json

/-- A natural number. -/
def nat (n : Nat) : Json := .number (String.ofList (decimal n))

/-- The natural number that a value writes. -/
def nat? : Json → Option Nat
  | .number numeral => if numeral = "" then none else readDigits 10 digit? 0 numeral.toList
  | _ => none

/-- A value, or `null` if there is none. -/
def ofOption {α : Type} (f : α → Json) : Option α → Json
  | none => .null
  | some x => f x

/-- What `ofOption` writes. -/
def option? {α : Type} (g : Json → Option α) : Json → Option (Option α)
  | .null => some none
  | v => (g v).map some

end Json

namespace Body

/-- A string or an array of bytes. -/
def toJson : Body → Json
  | text s => .string s
  | binary b => .array (b.map fun x => Json.nat x.toNat)

/-- What `toJson` writes. -/
def ofJson? : Json → Option Body
  | .string s => some (.text s)
  | .array items => (items.mapM fun (j : Json) => j.nat?.map UInt8.ofNat).map .binary
  | _ => none

end Body

namespace Headers

/-- An object with the headers in order. -/
def toJson (h : Headers) : Json := .object (h.map fun p => (p.1, .string p.2))

/-- What `toJson` writes. -/
def ofJson? : Json → Option Headers
  | .object members => members.mapM fun (m : String × Json) => m.2.string?.map (m.1, ·)
  | _ => none

end Headers

namespace Directive

/-- The directive as an object. -/
def toJson (d : Directive) : Json :=
  .object [("method", .string d.method), ("url", .string d.url), ("status", Json.nat d.status),
    ("body", d.body.toJson), ("headers", Json.ofOption Headers.toJson d.headers),
    ("content_type", Json.ofOption .string d.contentType)]

/-- What `toJson` writes. -/
def ofJson? : Json → Option Directive
  | .object [("method", method), ("url", url), ("status", status), ("body", body),
      ("headers", headers), ("content_type", contentType)] => do
    return ⟨← method.string?, ← url.string?, ← status.nat?, ← Body.ofJson? body,
      ← headers.option? Headers.ofJson?, ← contentType.option? Json.string?⟩
  | _ => none

/-- Directives as an array. -/
def listToJson (ds : List Directive) : Json := .array (ds.map toJson)

/-- What `listToJson` writes. -/
def listOfJson? (j : Json) : Option (List Directive) := j.items?.bind (·.mapM ofJson?)

end Directive

end StubProxy
