/-!
# Values of the object notation

A value is a literal, an optional value, a word, a tuple or record with or without a name, a
list or a mapping. Numbers are kept as they are spelt, since the type that is read decides
what a spelling means.
-/

namespace ClassMill.Ron

/-- A word; a raw one is spelt with a mark in front and may hold further characters. -/
structure Word where
  raw : Bool
  letters : String
  deriving DecidableEq

/-- A word without the mark. -/
def Word.plain (letters : String) : Word := ⟨false, letters⟩

/-- What a text in the notation denotes. -/
inductive Value
  | boolean (value : Bool)
  | number (spelling : String)
  | character (value : Char)
  | text (content : String)
  | absent
  | present (value : Value)
  | word (name : Word)
  | tuple (name : Option Word) (items : List Value)
  | record (name : Option Word) (fields : List (Word × Value))
  | sequence (items : List Value)
  | mapping (entries : List (Value × Value))

end ClassMill.Ron
