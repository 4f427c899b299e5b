import ClassMill.Text.GraphemeExtend
import ClassMill.Text.Unprintable

/-!
# Quoted text

Quoted text shows every character visibly: five controls, quotes and the backslash have short
escapes, characters that cannot be shown on their own are spelt by their code points in
hexadecimal, and all other characters stand for themselves.
-/

namespace ClassMill.Text

/-- The escape that spells a code point. -/
def codePointEscape (c : Char) : List Char :=
  '\\' :: 'u' :: '\x7b' :: (Nat.toDigits 16 c.toNat ++ ['\x7d'])

/-- A character as it is written between double quotes; `single` says whether single quotes
are escaped too. -/
def escaped (single : Bool) (c : Char) : List Char :=
  if c = '\x00' then ['\\', '0']
  else if c = '\t' then ['\\', 't']
  else if c = '\r' then ['\\', 'r']
  else if c = '\n' then ['\\', 'n']
  else if c = '"' then ['\\', '"']
  else if c = '\\' then ['\\', '\\']
  else if c = '\x27' && single then ['\\', '\x27']
  else if isHalfwidthMark c then [c]
  else if isGraphemeExtend c || isUnprintable c then codePointEscape c
  else [c]

/-- A text between double quotes, with its characters escaped. -/
def quoted (single : Bool) (text : List Char) : List Char :=
  '"' :: (text.flatMap (escaped single) ++ ['"'])

/-- A text as a message shows it: in double quotes, single quotes standing for themselves. -/
def shown (text : String) : String := String.ofList (quoted false text.toList)

/-- Several texts as a message shows them: in brackets, separated by commas. -/
def shownList (texts : List String) : String :=
  "[" ++ ", ".intercalate (texts.map shown) ++ "]"

end ClassMill.Text
