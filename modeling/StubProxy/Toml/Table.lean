import StubProxy.Toml.Value

/-!
# Building tables

Tables come about in three ways, and the way decides what may be done to a table later:

* a header or braces define it, once only, and no dotted key may reach into it;
* a header of a table inside implies it, and it may still be defined;
* a dotted key opens it, and no header may define it any more.

A name that a header gives in double brackets stands for a list of tables, and a path through it
goes on in the last of them.
-/

namespace StubProxy.Toml

/-- How a table came about. -/
inductive TableKind where
  | defined
  | implied
  | dotted
  deriving DecidableEq

/-- A value, or a table that is not finished yet. -/
inductive Node where
  | value (v : Toml)
  | table (kind : TableKind) (members : List (String × Node))
  | tables (items : List (List (String × Node)))

/-- The members of a table under construction. -/
abbrev Members := List (String × Node)

namespace Members

/-- Sets a member: in its place if there is one of this name, else at the end. -/
def put (name : String) (n : Node) : Members → Members
  | [] => [(name, n)]
  | m :: ms => if m.1 = name then (name, n) :: ms else m :: put name n ms

/-- A change of a table's members, which may be forbidden. -/
abbrev Change := TableKind → Members → Option Members

/-- The kind of the tables that a path opens on its way. -/
def openedKind (byKey : Bool) : TableKind := if byKey then .dotted else .implied

/-- Changes the table at the end of a path, opening the tables that are missing on the way. -/
def changeAt (byKey : Bool) (change : Change) : List String → Change
  | [], kind, ms => change kind ms
  | name :: path, _, ms =>
    match ms.lookup name with
    | none =>
      (changeAt byKey change path (openedKind byKey) []).map fun sub =>
        ms.put name (.table (openedKind byKey) sub)
    | some (.value _) => none
    | some (.table kind sub) =>
      if byKey ∧ kind = .defined then none
      else (changeAt byKey change path kind sub).map fun sub => ms.put name (.table kind sub)
    | some (.tables items) =>
      (changeAt byKey change path .defined (items.getLastD [])).map fun sub =>
        ms.put name (.tables (items.dropLast ++ [sub]))

/-- Adds a new member; a table that a dotted key reached must have been opened by one. -/
def addNew (dotted : Bool) (name : String) (v : Toml) : Change := fun kind ms =>
  if dotted ≠ (kind = .dotted) then none
  else match ms.lookup name with
    | some _ => none
    | none => some (ms.put name (.value v))

/-- Gives a key a value. -/
def assign (key : List String) (v : Toml) : Change :=
  let path := key.dropLast
  changeAt true (addNew (path ≠ []) (key.getLastD "") v) path

/-- Defines a table by its header. -/
def define (path : List String) (ms : Members) : Option Members :=
  let name := path.getLastD ""
  changeAt false (fun _ ms =>
    match ms.lookup name with
    | none => some (ms.put name (.table .defined []))
    | some (.table .implied sub) => some (ms.put name (.table .defined sub))
    | _ => none) path.dropLast .defined ms

/-- Adds a table to a list of tables by its header. -/
def append (path : List String) (ms : Members) : Option Members :=
  let name := path.getLastD ""
  changeAt false (fun _ ms =>
    match ms.lookup name with
    | none => some (ms.put name (.tables [[]]))
    | some (.tables items) => some (ms.put name (.tables (items ++ [[]])))
    | _ => none) path.dropLast .defined ms

/-- Gives a key a value in the table that the last header named. -/
def assignUnder (header key : List String) (v : Toml) (ms : Members) : Option Members :=
  changeAt false (assign key v) header .defined ms

end Members

mutual

/-- The value of a finished node. -/
def Node.finish : Node → Toml
  | .value v => v
  | .table _ members => .table (finishMembers members)
  | .tables items => .array (finishItems items)

/-- The members of a finished table. -/
def finishMembers : List (String × Node) → List (String × Toml)
  | [] => []
  | (name, n) :: ms => (name, n.finish) :: finishMembers ms

/-- The tables of a finished list. -/
def finishItems : List (List (String × Node)) → List Toml
  | [] => []
  | ms :: items => .table (finishMembers ms) :: finishItems items

end

end StubProxy.Toml
