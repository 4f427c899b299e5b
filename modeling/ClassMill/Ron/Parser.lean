import ClassMill.Ron.Lexer

/-!
# Reading values from tokens

A document may start with attributes that switch extensions on; one value follows and nothing
else. Lists of all kinds separate their items by commas and admit one comma after the last.
Values may be nested up to a fixed depth, which bounds the recursion.
-/

namespace ClassMill.Ron

namespace Parser

/-- Items up to a closing mark, read in at most `count` steps. -/
def separated {α : Type} (item : List Token → Option (α × List Token)) (close : Char) :
    (count : Nat) → List Token → Option (List α × List Token)
  | 0, _ => none
  | count + 1, tokens =>
    if tokens.head? = some (.mark close) then some ([], tokens.tail)
    else
      match item tokens with
      | none => none
      | some (a, rest) =>
        if rest.head? = some (.mark ',') then
          (separated item close count rest.tail).map fun (items, rest) => (a :: items, rest)
        else if rest.head? = some (.mark close) then some ([a], rest.tail)
        else none

/-- Items up to a closing mark. -/
def list {α : Type} (item : List Token → Option (α × List Token)) (close : Char)
    (tokens : List Token) : Option (List α × List Token) :=
  separated item close tokens.length tokens

/-- A value after a colon. -/
def afterColon (value : List Token → Option (Value × List Token)) :
    List Token → Option (Value × List Token)
  | .mark ':' :: rest => value rest
  | _ => none

/-- A field of a record: a word, a colon and a value. -/
def field (value : List Token → Option (Value × List Token)) :
    List Token → Option ((Word × Value) × List Token)
  | .word name :: rest => (afterColon value rest).map fun (v, rest) => ((name, v), rest)
  | _ => none

/-- An entry of a mapping: a value, a colon and a value. -/
def entry (value : List Token → Option (Value × List Token)) (tokens : List Token) :
    Option ((Value × Value) × List Token) :=
  match value tokens with
  | none => none
  | some (key, rest) => (afterColon value rest).map fun (v, rest) => ((key, v), rest)

/-- Whether the content of parentheses is a record. -/
def startsRecord : List Token → Bool
  | .word _ :: .mark ':' :: _ => true
  | _ => false

/-- The content of parentheses, as a tuple or record of the given name. -/
def body (item : List Token → Option (Value × List Token)) (name : Option Word)
    (tokens : List Token) : Option (Value × List Token) :=
  if startsRecord tokens then
    (list (field item) ')' tokens).map fun (fields, rest) => (.record name fields, rest)
  else (list item ')' tokens).map fun (items, rest) => (.tuple name items, rest)

/-- The value that a word denotes on its own; the word for a present value does not. -/
def wordValue (name : Word) : Option Value :=
  if name = .plain "true" then some (.boolean true)
  else if name = .plain "false" then some (.boolean false)
  else if name = .plain "None" then some .absent
  else if name = .plain "inf" || name = .plain "NaN" then some (.number name.letters)
  else if name = .plain "Some" then none
  else some (.word name)

/-- The only value in parentheses, as one that is present. -/
def presence (value : List Token → Option (Value × List Token)) (tokens : List Token) :
    Option (Value × List Token) :=
  match list value ')' tokens with
  | some ([v], rest) => some (.present v, rest)
  | _ => none

/-- What the word for a present value and the tokens after it denote; if parentheses may be
left out, any value may follow instead of them. -/
def present (implicit : Bool) (value : List Token → Option (Value × List Token)) :
    List Token → Option (Value × List Token)
  | .mark '(' :: rest => presence value rest
  | .unit :: _ => none
  | tokens =>
    if implicit then (value tokens).map fun (v, rest) => (.present v, rest) else none

/-- What any other word and the tokens after it denote. -/
def named (item : List Token → Option (Value × List Token)) (name : Word) (tokens : List Token) :
    Option (Value × List Token) :=
  match wordValue name, tokens with
  | some (.word name), .mark '(' :: rest => body item (some name) rest
  | some (.word name), .unit :: rest => some (.tuple (some name) [], rest)
  | some v, rest => some (v, rest)
  | none, _ => none

mutual

/-- A value of at most the given depth. A present value is one deeper than its content; a
list, tuple, record or mapping is one deeper than its items, and an item is one deeper than the
value it holds. Empty parentheses on their own have no depth. -/
def value (implicit : Bool) : (depth : Nat) → List Token → Option (Value × List Token)
  | _, .number spelling :: rest => some (.number spelling, rest)
  | _, .character c :: rest => some (.character c, rest)
  | _, .text content :: rest => some (.text content, rest)
  | _, .unit :: rest => some (.tuple none [], rest)
  | depth + 1, .mark '(' :: rest => body (item implicit depth) none rest
  | depth + 1, .mark '[' :: rest =>
    (list (item implicit depth) ']' rest).map fun (items, rest) => (.sequence items, rest)
  | depth + 1, .mark '\x7b' :: rest =>
    (list (entry (item implicit depth)) '\x7d' rest).map fun (entries, rest) =>
      (.mapping entries, rest)
  | depth + 1, .word name :: rest =>
    if name = .plain "Some" then present implicit (value implicit depth) rest
    else named (item implicit depth) name rest
  | 0, .word name :: rest => (wordValue name).map fun v => (v, rest)
  | _, _ => none

/-- An item of a list, tuple, record or mapping. -/
def item (implicit : Bool) : (depth : Nat) → List Token → Option (Value × List Token)
  | 0, _ => none
  | depth + 1, tokens => value implicit depth tokens

end

/-- The greatest depth. -/
def maxDepth : Nat := 128

/-- Which extensions a document switches on; the other known ones change nothing here. -/
structure Extensions where
  /-- Whether a value may stand for an optional value that is present. -/
  implicitPresence : Bool
  deriving DecidableEq

/-- A word that names an extension. -/
def extension : List Token → Option (Word × List Token)
  | .word name :: rest =>
    if ["implicit_some", "unwrap_newtypes", "unwrap_variant_newtypes"].contains name.letters then
      some (name, rest)
    else none
  | _ => none

/-- The extensions of the leading attributes, read in at most `count` steps, and the rest. -/
def attributes : (count : Nat) → Extensions → List Token → Option (Extensions × List Token)
  | count + 1, known,
    .mark '#' :: .mark '!' :: .mark '[' :: .word ⟨false, "enable"⟩ :: .mark '(' :: rest =>
    match list extension ')' rest with
    | some (name :: names, .mark ']' :: rest) =>
      let implicit := (name :: names).any fun name => name.letters = "implicit_some"
      attributes count ⟨known.implicitPresence || implicit⟩ rest
    | _ => none
  | _, known, tokens => if tokens.head? = some (.mark '#') then none else some (known, tokens)

/-- A document: attributes, one value and nothing else. -/
def document (tokens : List Token) : Option (Extensions × Value) :=
  match attributes tokens.length ⟨false⟩ tokens with
  | none => none
  | some (extensions, tokens) =>
    match value extensions.implicitPresence maxDepth tokens with
    | some (v, []) => some (extensions, v)
    | _ => none

end Parser

/-- The value that a text denotes, with the extensions it switches on. -/
def parse (text : String) : Option (Parser.Extensions × Value) :=
  (tokens text.toList).bind Parser.document

end ClassMill.Ron
