import ClassMill.Proofs.Lines.Split
import ClassMill.Proofs.Text.Trim

/-!
# Outlines of source text

The outline of a text is read line by line, by counting braces and looking at how trimmed lines
begin. It knows nothing of trees: a method is what stands between a line that begins with
`function ` at the level of class members and the line that leads back to that level. Text
whose braces do not balance has no outline.
-/

namespace ClassMill

/-- What an outline keeps of a method. -/
structure MethodOutline where
  /-- The trimmed lines of the body, without blank lines and lines of one closing brace. -/
  statements : List (List Char)
  /-- The greatest number of open braces after a line of the method. -/
  deepest : Nat

/-- What is kept of the source of a class. -/
structure Outline where
  /-- The trimmed lines that begin like the head of a class, at any level. -/
  classHeads : List (List Char)
  /-- The trimmed lines that begin like a property, at the level of class members. -/
  properties : List (List Char)
  methods : List MethodOutline

namespace Outline

/-- How the head of a class begins. -/
def classMark : List Char := "public class ".toList

/-- How a property begins. -/
def propertyMark : List Char := "var _property".toList

/-- How a method begins. -/
def methodMark : List Char := "function ".toList

/-- How the statement begins that ends a method. -/
def returnMark : List Char := "return ".toList

/-- The number of braces that a line opens. -/
def opened (line : List Char) : Nat := line.count '\x7b'

/-- The number of braces that a line closes. -/
def closed (line : List Char) : Nat := line.count '\x7d'

/-- Whether a trimmed line of a body is kept. -/
def isStatement (text : List Char) : Bool := text != [] && text != ['\x7d']

/-- What is known after some lines. -/
structure Reading where
  found : Outline
  /-- The number of open braces. -/
  depth : Nat
  /-- The greatest number of open braces in the current method, zero outside of methods. -/
  deepest : Nat
  /-- The statements of the current method. -/
  current : Option (List (List Char))

namespace Reading

/-- Nothing read yet. -/
def start : Reading := ⟨⟨[], [], []⟩, 0, 0, none⟩

/-- Takes note of a trimmed line, before its braces are counted. -/
def note (text : List Char) (r : Reading) : Reading where
  found := {
    r.found with
    classHeads :=
      if classMark.isPrefixOf text then r.found.classHeads ++ [text] else r.found.classHeads
    properties :=
      if r.depth = 1 ∧ propertyMark.isPrefixOf text then r.found.properties ++ [text]
      else r.found.properties }
  depth := r.depth
  deepest := r.deepest
  current :=
    if r.depth = 1 ∧ methodMark.isPrefixOf text then some []
    else r.current.map fun body =>
      if 2 ≤ r.depth ∧ isStatement text then body ++ [text] else body

/-- Goes on with another number of open braces, which ends the current method if it leads back
to the level of class members. -/
def goTo (depth : Nat) (r : Reading) : Reading :=
  match r.current with
  | none => { r with depth }
  | some body =>
    if depth = 1 then
      { found :=
          { r.found with methods := r.found.methods ++ [⟨body, max r.deepest depth⟩] }
        depth
        deepest := 0
        current := none }
    else { r with depth, deepest := max r.deepest depth }

/-- Reads one line, unless it closes more braces than are open. -/
def step (line : List Char) (r : Reading) : Option Reading :=
  if r.depth + opened line < closed line then none
  else some ((r.note (Text.trim line)).goTo (r.depth + opened line - closed line))

/-- Reads lines one after the other. -/
def run (r : Reading) : List (List Char) → Option Reading
  | [] => some r
  | line :: rest => (r.step line).bind fun r => r.run rest

theorem run_append (r : Reading) (ls ms : List (List Char)) :
    r.run (ls ++ ms) = (r.run ls).bind fun s => s.run ms := by
  induction ls generalizing r with
  | nil => rfl
  | cons l ls ih =>
    rw [List.cons_append, run, run, Option.bind_assoc]
    simp only [ih]

end Reading

/-- The outline of a source text whose braces balance. -/
def read (source : String) : Option Outline :=
  (Reading.start.run (Text.lines source.toList)).bind fun r =>
    if r.depth = 0 then some r.found else none

end Outline

end ClassMill
