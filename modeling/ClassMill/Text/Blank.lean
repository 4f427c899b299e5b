import ClassMill.Text.Interval

/-!
# Blank characters

The code points of the Unicode property `White_Space`, and text without blanks at its ends.
-/

namespace ClassMill.Text

/-- The intervals of blank code points, in order. -/
def blankIntervals : List Interval := [
  (0x9, 0xD), (0x20, 0x20), (0x85, 0x85), (0xA0, 0xA0), (0x1680, 0x1680), (0x2000, 0x200A),
  (0x2028, 0x2029), (0x202F, 0x202F), (0x205F, 0x205F), (0x3000, 0x3000)]

/-- Whether a character is blank. -/
def isBlank (c : Char) : Bool := inIntervals blankIntervals c.toNat

/-- Drops the blanks at the start of a text. -/
def trimStart (text : List Char) : List Char := text.dropWhile isBlank

/-- Drops the blanks at both ends of a text. -/
def trim (text : List Char) : List Char := (trimStart (trimStart text).reverse).reverse

end ClassMill.Text
