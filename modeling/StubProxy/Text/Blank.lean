/-!
# Blank symbols

What counts as white space: in texts every character with the White_Space property, in bytes the
five blanks of ASCII (space, tab, line feed, form feed, carriage return).
-/

namespace StubProxy.Text

/-- The characters with the White_Space property. -/
def isBlank (c : Char) : Bool :=
  let n := c.toNat
  (9 ≤ n && n ≤ 13) || n = 32 || n = 0x85 || n = 0xA0 || n = 0x1680
    || (0x2000 ≤ n && n ≤ 0x200A) || n = 0x2028 || n = 0x2029 || n = 0x202F || n = 0x205F
    || n = 0x3000

/-- The blanks of ASCII. The vertical tab is not one of them. -/
def isBlankByte (b : UInt8) : Bool :=
  b = 9 || b = 10 || b = 12 || b = 13 || b = 32

/-- The characters that indent a line. -/
def isIndent (c : Char) : Bool := c = ' ' || c = '\t'

end StubProxy.Text
