import StubProxy.Text.Split
import StubProxy.Text.Blank
import StubProxy.Text.Utf8
import StubProxy.Directive

/-!
# The two scripts of rules

A rule is a text or a byte string. A `Script` is what the rule grammar needs to know of either:
which symbols are blank, where lines end, and how a part of the rule is read as text.
-/

namespace StubProxy

open Text

/-- What rules are written in. -/
structure Script (α : Type) where
  /-- The symbols that write a text. -/
  write : List Char → List α
  lineFeed : α
  space : α
  colon : α
  isBlank : α → Bool
  /-- The lines of a part of a rule. -/
  lines : List α → List (List α)
  /-- The text that symbols write. -/
  read : List α → List Char
  /-- The body that symbols make. -/
  body : List α → Body

namespace Script

variable {α : Type}

/-- Without blanks at both ends. -/
def trim (S : Script α) : List α → List α := Text.trim S.isBlank

/-- The text that symbols write. -/
def toString (S : Script α) (s : List α) : String := String.ofList (S.read s)

variable [DecidableEq α]

/-- The two sides of the first occurrence of a text. -/
def split (S : Script α) (mark : List Char) (s : List α) : Option (List α × List α) :=
  splitFirst (S.write mark) s

/-- The two sides of the first colon; without one, everything is on the left. -/
def splitAtColon (S : Script α) (s : List α) : List α × List α := splitAtSymbol S.colon s

/-- The pieces between single spaces, trimmed, without the empty ones. -/
def words (S : Script α) (s : List α) : List (List α) :=
  ((pieces S.space s).map S.trim).filter (· ≠ [])

end Script

/-- Rules in text: all white space is blank. -/
def textScript : Script Char where
  write s := s
  lineFeed := '\n'
  space := ' '
  colon := ':'
  isBlank := isBlank
  lines := lines '\n' '\r'
  read s := s
  body s := .text (String.ofList s)

/-- Rules in bytes: the blanks of ASCII, and text wherever it is valid UTF-8. -/
def byteScript : Script UInt8 where
  write := Utf8.encode
  lineFeed := 10
  space := 32
  colon := 58
  isBlank := isBlankByte
  lines := allLines 10 13
  read := Utf8.decodeLossy
  body := .binary

end StubProxy
