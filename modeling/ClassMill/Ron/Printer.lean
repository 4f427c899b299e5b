import ClassMill.Ron.Value
import ClassMill.Text.Escape

/-!
# Writing values

Records and mappings take one line for each field or entry, indented by four spaces for each
level, with a comma after each; lists do so for their items. Tuples and optional values stay on
one line.
-/

namespace ClassMill.Ron

/-- The spaces in front of a line at a level. -/
def indentation (level : Nat) : List Char := List.replicate (4 * level) ' '

/-- A word as it is spelt. -/
def Word.spelling (w : Word) : List Char :=
  if w.raw then 'r' :: '#' :: w.letters.toList else w.letters.toList

/-- A name in front of parentheses, if there is one. -/
def nameText : Option Word → List Char
  | none => []
  | some name => name.spelling

mutual

/-- The text of a value at a level. -/
def Value.render (level : Nat) : Value → List Char
  | .boolean b => (if b then "true" else "false").toList
  | .number spelling => spelling.toList
  | .character c => '\x27' :: (Text.escaped true c ++ ['\x27'])
  | .text content => Text.quoted true content.toList
  | .absent => "None".toList
  | .present v => "Some(".toList ++ v.render level ++ [')']
  | .word name => name.spelling
  | .tuple name items => nameText name ++ '(' :: (renderItems level items ++ [')'])
  | .record name fields =>
    nameText name ++ '(' :: '\n' :: (renderFields (level + 1) fields ++ indentation level ++ [')'])
  | .sequence [] => "[]".toList
  | .sequence items =>
    '[' :: '\n' :: (renderLines (level + 1) items ++ indentation level ++ [']'])
  | .mapping [] => "\x7b\x7d".toList
  | .mapping entries =>
    '\x7b' :: '\n' :: (renderEntries (level + 1) entries ++ indentation level ++ ['\x7d'])

/-- The text of items on one line, separated by commas. -/
def renderItems (level : Nat) : List Value → List Char
  | [] => []
  | [v] => v.render level
  | v :: items => v.render level ++ ',' :: ' ' :: renderItems level items

/-- The text of items on lines of their own. -/
def renderLines (level : Nat) : List Value → List Char
  | [] => []
  | v :: items => indentation level ++ v.render level ++ ',' :: '\n' :: renderLines level items

/-- The text of fields on lines of their own. -/
def renderFields (level : Nat) : List (Word × Value) → List Char
  | [] => []
  | (name, v) :: fields =>
    indentation level ++ name.spelling ++ ':' :: ' ' :: (v.render level ++ ',' :: '\n' ::
      renderFields level fields)

/-- The text of entries on lines of their own. -/
def renderEntries (level : Nat) : List (Value × Value) → List Char
  | [] => []
  | (key, v) :: entries =>
    indentation level ++ key.render level ++ ':' :: ' ' :: (v.render level ++ ',' :: '\n' ::
      renderEntries level entries)

end

/-- The text of a value on its own. -/
def Value.toText (v : Value) : String := String.ofList (v.render 0)

end ClassMill.Ron
