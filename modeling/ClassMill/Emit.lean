import ClassMill.Dialect.Lines
import ClassMill.Fault

/-!
# Writing trees as text

An emitter holds the text written so far and the current indentation. Every tree appends its
lines and leaves the indentation as it was; the body of a block is indented by two spaces
more than its head.
-/

namespace ClassMill

/-- The text written so far and the indentation of the next line. -/
structure Emitter where
  text : String
  indent : Nat
  deriving DecidableEq

namespace Emitter

/-- The number of spaces by which a block is indented. -/
def step : Nat := 2

/-- Nothing written yet, at the given indentation. -/
def start (indent : Nat) : Emitter := ⟨"", indent⟩

/-- Spaces in front of a line. -/
def margin (width : Nat) : String := String.ofList (List.replicate width ' ')

/-- Appends one line. -/
def line (content : String) (e : Emitter) : Emitter :=
  { e with text := e.text ++ margin e.indent ++ content ++ "\n" }

/-- Appends an empty line. -/
def blank (e : Emitter) : Emitter := { e with text := e.text ++ "\n" }

/-- Enters a block. -/
def enter (e : Emitter) : Emitter := { e with indent := e.indent + step }

/-- Leaves a block. -/
def leave (e : Emitter) : Emitter := { e with indent := e.indent - step }

end Emitter

mutual

/-- Appends a section. -/
def Section.emit (dialect : Dialect) : Section → Emitter → Emitter
  | .leaf statement, e => e.line (dialect.leafLine statement)
  | .branch chain, e => (chain.emit dialect true e).line dialect.blockEnd
  | .loop counter start stop body, e =>
    (body.emit dialect (e.line (dialect.loopHead counter start stop)).enter).leave.line
      dialect.blockEnd

/-- Appends the branches of an if chain; `first` tells whether no branch precedes them. -/
def Chain.emit (dialect : Dialect) : Chain → (first : Bool) → Emitter → Emitter
  | .empty, _, e => e
  | .otherwise body, _, e => (body.emit dialect (e.line dialect.elseHead).enter).leave
  | .conditional condition body rest, first, e =>
    let head := if first then dialect.ifHead condition else dialect.elseIfHead condition
    rest.emit dialect false (body.emit dialect (e.line head).enter).leave

end

namespace Emitter

/-- Appends the declarations of local variables in order. -/
def locals (dialect : Dialect) (items : List Local) (e : Emitter) : Emitter :=
  items.foldl (fun e item => e.line (dialect.localLine item)) e

/-- Appends sections in order. -/
def sections (dialect : Dialect) (items : List Section) (e : Emitter) : Emitter :=
  items.foldl (fun e item => item.emit dialect e) e

/-- Appends the declarations of properties in order. -/
def properties (dialect : Dialect) (items : List Property) (e : Emitter) : Emitter :=
  items.foldl (fun e item => e.line (dialect.propertyLine item)) e

/-- Appends a method: its locals, its sections and its result, with blank lines between. -/
def method (dialect : Dialect) (m : Method) (e : Emitter) : Emitter :=
  let e := (e.line (dialect.methodHead m.name)).enter
  let e := (e.locals dialect m.locals).blank
  let e := (e.sections dialect m.sections).blank
  (e.line (dialect.returnLine m.result)).leave.line dialect.blockEnd

/-- Appends methods in order, each after a blank line. -/
def methods (dialect : Dialect) (items : List Method) (e : Emitter) : Emitter :=
  items.foldl (fun e item => e.blank.method dialect item) e

/-- Appends a class. -/
def classDecl (dialect : Dialect) (c : ClassDecl) (e : Emitter) : Emitter :=
  let e := (e.line (dialect.packageLine c.package)).blank
  let e := (e.line (dialect.classHead c.name)).enter
  let e := (e.properties dialect c.properties).methods dialect c.methods
  e.leave.line dialect.blockEnd

end Emitter

/-- The source text of a class. -/
def ClassDecl.source (c : ClassDecl) (dialect : Dialect) : String :=
  ((Emitter.start 0).classDecl dialect c).text

namespace Section

/-- The text of a section at an indentation. -/
def source (s : Section) (dialect : Dialect) (indent : Nat) : String :=
  (s.emit dialect (.start indent)).text

/-- The text of a section at an indentation that must fit into storage. -/
def sourceAt (s : Section) (dialect : Dialect) (indent : UInt64) : Except Fault String := do
  reserve indent.toNat 1
  return s.source dialect indent.toNat

end Section

end ClassMill
