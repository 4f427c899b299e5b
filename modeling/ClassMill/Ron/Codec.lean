import ClassMill.Decimal.Layout
import ClassMill.Ron.Parser
import ClassMill.Ron.Printer
import ClassMill.Statistics.Counter

/-!
# Types that are written in the object notation

A codec turns the values of a type into values of the notation and back. Reading is lenient in
the order of fields, in fields it does not know and in the spelling of numbers; it is strict in
names, in missing and repeated fields and in ranges.
-/

namespace ClassMill.Ron

/-- How a type is written and read. -/
class Codec (α : Type) where
  encode : α → Value
  decode : Parser.Extensions → Value → Option α
  /-- What a record means that leaves a field of the type out, if it may. -/
  missing : Option α := none

/-- The text of a value of a type. -/
def write {α : Type} [Codec α] (a : α) : String := (Codec.encode a).toText

/-- The value of a type that a text denotes. -/
def read (α : Type) [Codec α] (text : String) : Option α :=
  match parse text with
  | some (extensions, v) => Codec.decode extensions v
  | none => none

/-- The largest count that is read. -/
def maxCount : Nat := UInt64.size - 1

/-- A natural number. -/
def encodeNat (n : Nat) : Value := .number (toString n)

/-- A natural number up to a limit. -/
def decodeUpTo (limit : Nat) : Value → Option Nat
  | .number spelling => Number.readUpTo limit spelling.toList
  | _ => none

instance : Codec Nat where
  encode := encodeNat
  decode _ := decodeUpTo maxCount

instance : Codec UInt64 where
  encode n := encodeNat n.toNat
  decode _ v := (decodeUpTo (UInt64.size - 1) v).map UInt64.ofNat

instance : Codec UInt32 where
  encode n := encodeNat n.toNat
  decode _ v := (decodeUpTo (UInt32.size - 1) v).map UInt32.ofNat

instance : Codec Int32 where
  encode n := .number (toString n.toInt)
  decode _
    | .number spelling =>
      (Number.readBetween Int32.minValue.toInt Int32.maxValue.toInt spelling.toList).map
        Int32.ofInt
    | _ => none

instance : Codec Float where
  encode x := .number (String.ofList (Decimal.plainText x))
  decode _
    | .number spelling => Number.readReal spelling.toList
    | _ => none

instance : Codec String where
  encode s := .text s
  decode _
    | .text content => some content
    | _ => none

/-- The number that directly follows the letters for a present value in a word. -/
def numberIn? (name : Word) : Option Value :=
  if !name.raw && "Some".toList.isPrefixOf name.letters.toList then
    some (.number (String.ofList (name.letters.toList.drop 4)))
  else none

/-- The value that stands for an optional value that is present. -/
def contentOf? (extensions : Parser.Extensions) : Value → Option Value
  | .present v => some v
  | .word name => if extensions.implicitPresence then numberIn? name else none
  | v => if extensions.implicitPresence then some v else none

instance {α : Type} [Codec α] : Codec (Option α) where
  encode
    | none => .absent
    | some a => .present (Codec.encode a)
  decode extensions
    | .absent => some none
    | v => ((contentOf? extensions v).bind (Codec.decode extensions)).map some
  missing := some none

instance {α β : Type} [Codec α] [Codec β] : Codec (α × β) where
  encode p := .tuple none [Codec.encode p.1, Codec.encode p.2]
  decode extensions
    | .tuple none [a, b] =>
      match Codec.decode extensions a, Codec.decode extensions b with
      | some a, some b => some (a, b)
      | _, _ => none
    | _ => none

/-- The word of a labelled constant. -/
def encodeLabel (label : String) : Value := .word (.plain label)

/-- The constant whose label a word spells. -/
def decodeLabel {α : Type} (all : List α) (label : α → String) : Value → Option α
  | .word name => all.find? fun a => label a = name.letters
  | _ => none

/-- The codec of constants that are written by their labels. -/
@[reducible] def Codec.ofLabels {α : Type} (all : List α) (label : α → String) : Codec α where
  encode a := encodeLabel (label a)
  decode _ := decodeLabel all label

/-- The count of a kind that an entry gives. -/
def decodeEntry {κ : Type} [Codec κ] (extensions : Parser.Extensions) (entry : Value × Value) :
    Option (κ × Nat) :=
  match Codec.decode extensions entry.1, decodeUpTo maxCount entry.2 with
  | some k, some n => some (k, n)
  | _, _ => none

instance {κ : Type} [Kind κ] [Codec κ] : Codec (Counter κ) where
  encode c := .mapping (c.toList.map fun entry => (Codec.encode entry.1, encodeNat entry.2))
  decode extensions
    | .mapping entries => (entries.mapM (decodeEntry extensions)).map Counter.ofList
    | _ => none

/-- A field of a record. -/
def encodeField {α : Type} [Codec α] (label : String) (a : α) : Word × Value :=
  (.plain label, Codec.encode a)

/-- The fields of a record of the given name, which may be left out. -/
def fieldsOf? (name : String) : Value → Option (List (Word × Value))
  | .record given fields => if given.all fun w => w.letters = name then some fields else none
  | _ => none

/-- The only field with a label. -/
def decodeField {α : Type} [Codec α] (extensions : Parser.Extensions)
    (fields : List (Word × Value)) (label : String) : Option α :=
  match fields.filter fun field => field.1.letters = label with
  | [] => Codec.missing
  | [(_, v)] => Codec.decode extensions v
  | _ => none

end ClassMill.Ron
