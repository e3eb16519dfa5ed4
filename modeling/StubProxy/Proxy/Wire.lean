import StubProxy.Proxy.Client

/-!
# Messages on the wire

A message is a first line, headers, an empty line and a body. The body of a request has an announced
length, or it comes in chunks, or there is none.

* `Wire.readRequest` reads a request of which a part may be missing yet.
* `Wire.writeResponse` writes a response behind which its connection ends.
-/

namespace StubProxy

open Text

/-- What the bytes that are there say of something that is being sent. -/
inductive Arrival (α : Type) where
  | incomplete
  | malformed
  /-- It is there, and other bytes behind it. -/
  | complete (a : α) (rest : List UInt8)

namespace Arrival

variable {α β : Type}

/-- Goes on behind what is there. -/
def andThen (a : Arrival α) (f : α → List UInt8 → Arrival β) : Arrival β :=
  match a with
  | incomplete => incomplete
  | malformed => malformed
  | complete a rest => f a rest

/-- Makes something of what is there. -/
def map (f : α → β) (a : Arrival α) : Arrival β := a.andThen fun a => complete (f a)

end Arrival

namespace Wire

/-! ### Lines -/

/-- The bytes of a text. -/
def bytes (s : String) : List UInt8 := Utf8.encode s.toList

/-- The text of bytes. -/
def text (b : List UInt8) : String := String.ofList (Utf8.decodeLossy b)

def lineFeed : UInt8 := 10

def carriageReturn : UInt8 := 13

def space : UInt8 := 32

def colon : UInt8 := 58

/-- The lines in front of the first empty one. -/
def takeHead (b : List UInt8) : Arrival (List (List UInt8)) :=
  match _h : splitFirst [lineFeed] b with
  | none => .incomplete
  | some (line, rest) =>
    let line := dropLastIf carriageReturn line
    if line = [] then .complete [] rest else (takeHead rest).map (line :: ·)
termination_by b.length
decreasing_by exact length_lt_of_splitFirst ‹_›

/-- The header that a line holds. -/
def readField (line : List UInt8) : Option Field :=
  (splitFirst [colon] line).bind fun (name, value) =>
    Field.read (text name) (trim (fun b => b = space || b = 9) value)

/-- The versions in which requests are understood. -/
def versions : List (List UInt8) := [bytes "HTTP/1.0", bytes "HTTP/1.1"]

/-- Method and target in the first line of a request. -/
def readRequestLine (line : List UInt8) : Option (String × String) :=
  match pieces space line with
  | [method, target, version] => if version ∈ versions then some (text method, text target) else none
  | _ => none

/-! ### Bodies -/

/-- Where a body ends. -/
inductive Framing where
  | chunked
  | length (n : Nat)

/-- Where a body ends by the headers in front of it. -/
def Framing.ofFields (fs : Fields) : Option Framing :=
  match fs.lookup "transfer-encoding", fs.lookup "content-length" with
  | some coding, _ =>
    if (text coding).toList.map Char.toLower = "chunked".toList then some chunked else none
  | none, some n => if n = [] then none else (readDigits 10 digit? 0 (text n).toList).map length
  | none, none => some (length 0)

/-- The length of a chunk by the line in front of it, of which only the number matters. -/
def chunkLength (line : List UInt8) : Option Nat :=
  let s := (text (dropLastIf carriageReturn line)).toList
  let (n, rest) := readHex 0 s
  if rest.length < s.length ∧ rest.head? ∈ [none, some ';', some ' ', some '\t'] then some n
  else none

/-- The contents of chunks up to an empty one and the lines behind it. -/
def takeChunks (b : List UInt8) : Arrival (List UInt8) :=
  match _h : splitFirst [lineFeed] b with
  | none => .incomplete
  | some (line, rest) =>
    match chunkLength line with
    | none => .malformed
    | some 0 => (takeHead rest).map fun _ => []
    | some n =>
      if rest.length < n + 2 then .incomplete
      else if (rest.drop n).take 2 = [carriageReturn, lineFeed] then
        (takeChunks (rest.drop (n + 2))).map (rest.take n ++ ·)
      else .malformed
termination_by b.length
decreasing_by
  have := length_lt_of_splitFirst ‹_›
  grind

/-- A body. -/
def takeBody (b : List UInt8) : Framing → Arrival (List UInt8)
  | .chunked => takeChunks b
  | .length n => if b.length < n then .incomplete else .complete (b.take n) (b.drop n)

/-! ### Messages -/

/-- The request of a head and what follows it. -/
def readBehind (lines : List (List UInt8)) (rest : List UInt8) : Arrival RawRequest :=
  let head := do
    let (method, target) ← lines.head?.bind readRequestLine
    let fields ← lines.tail.mapM readField
    let framing ← Framing.ofFields fields
    some (method, target, fields, framing)
  match head with
  | none => .malformed
  | some (method, target, fields, framing) =>
    (takeBody rest framing).map fun body => ⟨method, target, fields, body⟩

/-- Reads a request. -/
def readRequest (b : List UInt8) : Arrival RawRequest := (takeHead b).andThen readBehind

/-- A line with its end. -/
def writeLine (b : List UInt8) : List UInt8 := b ++ [carriageReturn, lineFeed]

/-- The line of a header. -/
def writeField (f : Field) : List UInt8 := writeLine (bytes f.1 ++ [colon, space] ++ f.2)

/-- Writes the response to a request of a method. -/
def writeResponse (r : Response) (method : String) : List UInt8 :=
  let length := Utf8.encode (decimal r.body.length)
  let fields := Fields.insert ("connection", bytes "close") (.insert ("content-length", length) r.fields)
  writeLine (bytes ("HTTP/1.1 " ++ String.ofList (decimal r.status) ++ " "))
    ++ fields.flatMap writeField ++ writeLine [] ++ (r.received method).body

end Wire

end StubProxy
