import StubProxy.Number.Double
import StubProxy.Text.Lower
import StubProxy.Text.Split

/-!
# Settings

Settings from several places are gathered in one tree, later ones over earlier ones. A name is
always in small letters. A table is merged into the table that is there already, anything else
replaces what was there (`Setting.assign`); what a path leads through becomes a table or a list
(`Setting.put`).
-/

namespace StubProxy

open Text

/-- Where a setting was given. -/
inductive Origin where
  | unknown
  | environment
  | file (name : String)
  deriving DecidableEq

/-- A setting that holds no others. -/
inductive Scalar where
  | nil
  | bool (b : Bool)
  | integer (i : Int)
  | float (x : Double)
  | text (s : String)
  deriving DecidableEq

/-- A setting. -/
inductive Setting where
  | scalar (origin : Origin) (v : Scalar)
  | list (origin : Origin) (items : List Setting)
  | table (members : List (String × Setting))

namespace Setting

mutual

/-- Whether two settings are the same. -/
def decEq : (s t : Setting) → Decidable (s = t)
  | scalar o v, scalar o' v' => decidable_of_iff (o = o' ∧ v = v') (by simp)
  | list o vs, list o' vs' =>
    have := decEqItems vs vs'
    decidable_of_iff (o = o' ∧ vs = vs') (by simp)
  | table ms, table ms' =>
    have := decEqMembers ms ms'
    decidable_of_iff (ms = ms') (by simp)
  | scalar _ _, list _ _ | scalar _ _, table _ | list _ _, scalar _ _ | list _ _, table _
  | table _, scalar _ _ | table _, list _ _ => isFalse (by simp)

/-- Whether two lists have the same items. -/
def decEqItems : (vs vs' : List Setting) → Decidable (vs = vs')
  | [], [] => isTrue rfl
  | v :: vs, v' :: vs' =>
    have := decEq v v'
    have := decEqItems vs vs'
    decidable_of_iff (v = v' ∧ vs = vs') (by simp)
  | [], _ :: _ | _ :: _, [] => isFalse (by simp)

/-- Whether two tables have the same members. -/
def decEqMembers : (ms ms' : List (String × Setting)) → Decidable (ms = ms')
  | [], [] => isTrue rfl
  | (name, v) :: ms, (name', v') :: ms' =>
    have := decEq v v'
    have := decEqMembers ms ms'
    decidable_of_iff (name = name' ∧ v = v' ∧ ms = ms') (by simp [and_assoc])
  | [], _ :: _ | _ :: _, [] => isFalse (by simp)

end

instance : DecidableEq Setting := decEq

end Setting

/-- The name of a setting in small letters. -/
def settingName (s : String) : String := String.ofList (lower s.toList)

namespace Setting

/-- A setting that is not there. -/
def nil : Setting := scalar .unknown .nil

/-- The members of a table; anything else has none. -/
def members : Setting → List (String × Setting)
  | table ms => ms
  | _ => []

/-- The items of a list; anything else has none. -/
def items : Setting → List Setting
  | list _ vs => vs
  | _ => []

/-- Sets a member: in its place if there is one of this name, else at the end. -/
def putMember (name : String) (v : Setting) : List (String × Setting) → List (String × Setting)
  | [] => [(name, v)]
  | m :: ms => if m.1 = name then (name, v) :: ms else m :: putMember name v ms

/-- Changes the member of a name, which is `absent` if there is none. -/
def update (name : String) (s absent : Setting) (f : Setting → Setting) : Setting :=
  table (putMember name (f ((s.members.lookup name).getD absent)) s.members)

/-- A list with the item at a position changed; it grows as far as it has to. -/
def updateItem (i : Nat) (f : Setting → Setting) (s : Setting) : Setting :=
  let origin := match s with
    | list origin _ => origin
    | _ => .unknown
  let items := s.items ++ List.replicate (i + 1 - s.items.length) nil
  list origin (items.modify i f)

mutual

/-- Gives a member a value; a table is merged with what is there. -/
def assign (name : String) (s v : Setting) : Setting :=
  match v with
  | table ms => s.update (settingName name) (table []) (assignAll ms)
  | scalar origin x => s.update (settingName name) nil fun _ => scalar origin x
  | list origin vs => s.update (settingName name) nil fun _ => list origin vs

/-- Gives several members their values. -/
def assignAll : List (String × Setting) → Setting → Setting
  | [], s => s
  | (name, v) :: ms, s => assignAll ms (s.assign name v)

end

/-- A step on the way to a setting. -/
inductive Step where
  | member (name : String)
  /-- Positions below zero count from the end. -/
  | item (i : Int)
  deriving DecidableEq

/-- The position that a number means in a list of some length. -/
def position (i : Int) (length : Nat) : Nat :=
  if 0 ≤ i then i.toNat else length - i.natAbs

/-- Gives the setting at the end of a path a value. -/
def put : List Step → Setting → Setting → Setting
  | [], _, v => v
  | [.member name], s, v => s.assign name v
  | .member name :: path, s, v => s.update (settingName name) nil (put path · v)
  | .item i :: path, s, v => s.updateItem (position i s.items.length) (put path · v)

/-! ### Paths -/

/-- What the names in a path consist of. -/
def isNameChar (c : Char) : Bool := c.isAlphanum || c = ' ' || c = '_' || c = '-'

/-- The number between brackets; blanks around it do not matter. -/
def readPosition (s : List Char) : Option Int :=
  match trim (fun c => c = ' ' || c = '\t') s with
  | '-' :: ds => if ds = [] then none else (readDigits 10 digit? 0 ds).map fun n => -(n : Int)
  | ds => if ds = [] then none else (readDigits 10 digit? 0 ds).map Int.ofNat

/-- The steps behind the first name; at most `fuel` of them. -/
def readSteps : Nat → List Char → Option (List Step)
  | _, [] => some []
  | 0, _ => none
  | fuel + 1, '.' :: s =>
    let name := s.takeWhile isNameChar
    if name = [] then none
    else (readSteps fuel (s.drop name.length)).map (.member (String.ofList name) :: ·)
  | fuel + 1, '[' :: s =>
    match splitFirst [']'] s with
    | some (inside, s) =>
      (readPosition inside).bind fun i => (readSteps fuel s).map (.item i :: ·)
    | none => none
  | _, _ => none

/-- The path that a key writes: names after points, positions in brackets. -/
def readPath (key : String) : Option (List Step) := readSteps key.length ('.' :: key.toList)

/-- Gives the setting that a key means a value; a key that is no path is a name. -/
def putKey (key : String) (s v : Setting) : Setting :=
  put ((readPath key).getD [.member key]) s v

end Setting

end StubProxy
