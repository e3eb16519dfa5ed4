import StubProxy.Config.Error
import StubProxy.Directory
import StubProxy.Json.Reader
import StubProxy.Toml.Reader

/-!
# Configuration files

The format of a configuration file is known by the end of its name, which may be left out if there
is no file of the bare name. Its outermost value is a table.

TOML and JSON are read here. How the other formats are read is left open, and so is the order in
which the ends of names are tried: `Formats` holds what is chosen for them.
-/

namespace StubProxy

open Text

/-! ### Values as settings -/

mutual

/-- The setting that a TOML value gives. -/
def Setting.ofToml (origin : Origin) : Toml → Setting
  | .text s => .scalar origin (.text s)
  | .integer i => .scalar origin (.integer i)
  | .float x => .scalar origin (.float x)
  | .bool b => .scalar origin (.bool b)
  | .moment shown => .scalar origin (.text shown)
  | .array vs => .list origin (itemsOfToml origin vs)
  | .table ms => .table (membersOfToml origin ms)

/-- The settings that the items of an array give. -/
def itemsOfToml (origin : Origin) : List Toml → List Setting
  | [] => []
  | v :: vs => Setting.ofToml origin v :: itemsOfToml origin vs

/-- The settings that the members of a table give. -/
def membersOfToml (origin : Origin) : List (String × Toml) → List (String × Setting)
  | [] => []
  | (name, v) :: ms => (name, Setting.ofToml origin v) :: membersOfToml origin ms

end

/-- A JSON number: an integer of 64 bits, or the double nearest to it, unless it is beyond all. -/
def Scalar.ofNumeral (numeral : String) : Option Scalar :=
  let s := numeral.toList
  let (negative, ds) := Double.splitSign s
  let whole := if numeral = "-0" then none else readDigits 10 digit? 0 ds
  match whole.map fun n => if negative then -(n : Int) else n with
  | some i => if isWord64 i then some (.integer i) else floating s
  | none => floating s
where
  /-- The double that a numeral writes, unless it is beyond all. -/
  floating (s : List Char) : Option Scalar :=
    match Double.read s with
    | some (.infinite _) => none
    | x => x.map .float

mutual

/-- The setting that a JSON value gives. -/
def Setting.ofJson (origin : Origin) : Json → Option Setting
  | .null => some (.scalar origin .nil)
  | .bool b => some (.scalar origin (.bool b))
  | .number n => (Scalar.ofNumeral n).map (.scalar origin)
  | .string s => some (.scalar origin (.text s))
  | .array vs => (itemsOfJson origin vs).map (.list origin)
  | .object ms => (membersOfJson origin [] ms).map .table

/-- The settings that the items of an array give. -/
def itemsOfJson (origin : Origin) : List Json → Option (List Setting)
  | [] => some []
  | v :: vs => do
    let s ← Setting.ofJson origin v
    let ss ← itemsOfJson origin vs
    some (s :: ss)

/-- The settings that the members of an object give; of two with one name the second counts. -/
def membersOfJson (origin : Origin) (done : List (String × Setting)) :
    List (String × Json) → Option (List (String × Setting))
  | [] => some done
  | (name, v) :: ms => do
    let s ← Setting.ofJson origin v
    membersOfJson origin (Setting.putMember name s done) ms

end

/-! ### Formats -/

/-- The formats of configuration files. -/
inductive FileFormat where
  | toml
  | json
  | yaml
  | ini
  | ron
  | json5
  deriving DecidableEq

namespace FileFormat

/-- All formats. -/
def all : List FileFormat := [toml, json, yaml, ini, ron, json5]

theorem mem_all (f : FileFormat) : f ∈ all := by cases f <;> decide

/-- How the names of files of a format end. -/
def suffixes : FileFormat → List String
  | toml => ["toml"]
  | json => ["json"]
  | yaml => ["yaml", "yml"]
  | ini => ["ini"]
  | ron => ["ron"]
  | json5 => ["json5"]

/-- The end of a file name behind its last point, if something stands in front of the point. -/
def extension? (name : String) : Option String :=
  let base := ((Directory.pathParts name).getLastD []).reverse
  let suffix := base.takeWhile (· ≠ '.')
  if (base.drop suffix.length).length ≤ 1 then none else some (String.ofList suffix.reverse)

/-- The format of a file by its name. -/
def ofName (name : String) : Option FileFormat :=
  (extension? name).bind fun suffix => all.find? fun f => suffix ∈ f.suffixes

end FileFormat

/-- Reads the settings in the outermost table of a text. -/
abbrev SettingReader := Origin → List Char → Option (List (String × Setting))

namespace SettingReader

/-- Reads TOML. -/
def toml : SettingReader := fun origin s => (Toml.parse s).map (membersOfToml origin)

/-- Reads JSON. -/
def json : SettingReader := fun origin s =>
  match Json.parse s with
  | some (.object ms) => membersOfJson origin [] ms
  | _ => none

end SettingReader

/-- The order in which formats are tried, and the readers of those that are not read here. -/
structure Formats where
  tried : List FileFormat
  mem_tried : ∀ f, f ∈ tried
  yaml : SettingReader
  ini : SettingReader
  ron : SettingReader
  json5 : SettingReader

namespace Formats

/-- Only what is read here can be read. -/
def builtIn : Formats where
  tried := FileFormat.all
  mem_tried := FileFormat.mem_all
  yaml := fun _ _ => none
  ini := fun _ _ => none
  ron := fun _ _ => none
  json5 := fun _ _ => none

/-- The reader of a format. -/
def reader (formats : Formats) : FileFormat → SettingReader
  | .toml => .toml
  | .json => .json
  | .yaml => formats.yaml
  | .ini => formats.ini
  | .ron => formats.ron
  | .json5 => formats.json5

end Formats

/-! ### Files -/

/-- Bytes without the mark that may stand in front of UTF-8 text. -/
def dropByteOrderMark : List UInt8 → List UInt8
  | 0xEF :: 0xBB :: 0xBF :: b => b
  | b => b

/-- A configuration file: its name, its format and its bytes. -/
structure ConfigFile where
  name : String
  format : FileFormat
  bytes : List UInt8

namespace ConfigFile

/-- The file that is meant by `name` if there is none of this name. -/
def completed (name suffix : String) : String := name ++ "." ++ suffix

/-- All paths at which the file that is meant by `name` may be. -/
def paths (name : String) : List String :=
  name :: (FileFormat.all.flatMap FileFormat.suffixes).map (completed name)

/-- Finds a configuration file. -/
def find (formats : Formats) (files : FileSystem) (name : String) : Except ConfigError ConfigFile :=
  match files name with
  | .ok bytes =>
    match FileFormat.ofName name with
    | some format => .ok ⟨name, format, bytes⟩
    | none => .error (.unknownFormat name)
  | .error _ =>
    let found := formats.tried.findSome? fun format => format.suffixes.findSome? fun suffix =>
      let name := completed name suffix
      (files name).toOption.map fun bytes => ⟨name, format, bytes⟩
    match found with
    | some file => .ok file
    | none => .error (.fileNotFound name)

/-- The settings of a file. -/
def settings (formats : Formats) (file : ConfigFile) :
    Except ConfigError (List (String × Setting)) :=
  let name := Directory.plainPath file.name
  match formats.reader file.format (.file name)
      (Utf8.decodeLossy (dropByteOrderMark file.bytes)) with
  | some ms => .ok ms
  | none => .error (.malformedFile name)

end ConfigFile

/-- The settings of a file over those that are there. -/
def Setting.addMembers (ms : List (String × Setting)) (s : Setting) : Setting :=
  ms.foldl (fun s m => s.putKey m.1 m.2) s

end StubProxy
