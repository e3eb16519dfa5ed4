import StubProxy.Toml.Lexeme
import StubProxy.Toml.Numeral
import StubProxy.Toml.Moment
import StubProxy.Toml.Table

/-!
# Reading TOML

`Toml.parse` reads a document line by line: headers say where the members that follow belong.
-/

namespace StubProxy.Toml

/-- A word in front. -/
def readWord (word : String) (v : Toml) (s : List Char) : Option (Toml × List Char) :=
  if word.toList.isPrefixOf s then some (v, s.drop word.toList.length) else none

/-- A value that holds no others. -/
def readScalar (s : List Char) : Option (Toml × List Char) :=
  match s with
  | '"' :: r => (readString '"' r).map fun (t, r) => (.text t, r)
  | '\'' :: r => (readString '\'' r).map fun (t, r) => (.text t, r)
  | 't' :: _ => readWord "true" (.bool true) s
  | 'f' :: _ => readWord "false" (.bool false) s
  | _ =>
    if beginsMoment s then
      (readMoment s).map fun (m, r) => (.moment (String.ofList m.toText), r)
    else readNumber s

mutual

/-- A value in front. Each step into an array or braces costs one of `depth`. -/
def readValue (fuel depth : Nat) (s : List Char) : Option (Toml × List Char) :=
  match fuel with
  | 0 => none
  | fuel + 1 =>
    match s with
    | '[' :: r =>
      if depth = 0 then none
      else (readItems fuel (depth - 1) r).map fun (vs, r) => (.array vs, r)
    | '{' :: r =>
      if depth = 0 then none
      else match skipBlanks r with
        | '}' :: r => some (.table [], r)
        | r => (readMembers fuel (depth - 1) [] r).map fun (ms, r) => (.table ms, r)
    | s => readScalar s

/-- The items up to the closing bracket; a comma may follow the last one. -/
def readItems (fuel depth : Nat) (s : List Char) : Option (List Toml × List Char) :=
  match fuel with
  | 0 => none
  | fuel + 1 =>
    match skipSpace (s.length + 1) s with
    | none => none
    | some (']' :: s) => some ([], s)
    | some s =>
      match readValue fuel depth s with
      | none => none
      | some (v, s) =>
        match skipSpace (s.length + 1) s with
        | some (']' :: s) => some ([v], s)
        | some (',' :: s) => (readItems fuel depth s).map fun (vs, s) => (v :: vs, s)
        | _ => none

/-- The members up to the closing brace, added to those before. -/
def readMembers (fuel depth : Nat) (ms : Members) (s : List Char) :
    Option (List (String × Toml) × List Char) :=
  match fuel with
  | 0 => none
  | fuel + 1 =>
    match readKey s with
    | some (key, '=' :: s) =>
      match readValue fuel depth (skipBlanks s) with
      | none => none
      | some (v, s) =>
        match Members.assign key v .defined ms with
        | none => none
        | some ms =>
          match skipBlanks s with
          | '}' :: s => some (finishMembers ms, s)
          | ',' :: s => readMembers fuel depth ms s
          | _ => none
    | _ => none

end

/-- The members read so far, and the path that the last header gave. -/
structure Document where
  members : Members
  header : List String

/-- A header of a table behind its bracket, with the rest of its line. -/
def readHeader (d : Document) (s : List Char) : Option (Document × List Char) := do
  match ← readKey s with
  | (path, ']' :: s) => some (⟨← d.members.define path, path⟩, ← readLineRest s)
  | _ => none

/-- A header of a list of tables behind its brackets, with the rest of its line. -/
def readListHeader (d : Document) (s : List Char) : Option (Document × List Char) := do
  match ← readKey s with
  | (path, ']' :: ']' :: s) => some (⟨← d.members.append path, path⟩, ← readLineRest s)
  | _ => none

/-- A key with its value and the rest of its line. -/
def readAssignment (d : Document) (s : List Char) : Option (Document × List Char) := do
  match ← readKey s with
  | (key, '=' :: s) =>
    let s := skipBlanks s
    let (v, s) ← readValue (2 * s.length + 2) maxDepth s
    some ({ d with members := ← d.members.assignUnder d.header key v }, ← readLineRest s)
  | _ => none

/-- The lines of a document; at most `fuel` of them. -/
def readLines : Nat → Document → List Char → Option Document
  | 0, _, _ => none
  | fuel + 1, d, s =>
    match skipBlanks s with
    | [] => some d
    | '[' :: '[' :: s => (readListHeader d s).bind fun (d, s) => readLines fuel d s
    | '[' :: s => (readHeader d s).bind fun (d, s) => readLines fuel d s
    | s =>
      match s.head? with
      | some '#' | some '\n' | some '\r' => (readLineRest s).bind fun s => readLines fuel d s
      | _ => (readAssignment d s).bind fun (d, s) => readLines fuel d s

/-- The members of the table that a document writes, behind a byte order mark if there is one. -/
def parse (s : List Char) : Option (List (String × Toml)) :=
  let s := if s.head? = some '\uFEFF' then s.drop 1 else s
  (readLines (s.length + 1) ⟨[], []⟩ s).map fun d => finishMembers d.members

end StubProxy.Toml
