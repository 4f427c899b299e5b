import ClassMill.Proofs.Lines.Content
import ClassMill.Proofs.Walk.Balanced

/-!
# Statements as they are walked and written

Writing a tree and walking it are two traversals of their own. Both are compared with one list, the
statements of the tree in source order, each with the number of scopes around it: the walk reports
a statement while that many scopes are open, and the text has a line for it that is indented by two
spaces for each of them. The other lines of the text are told apart by how they begin.
-/

namespace ClassMill

/-- What takes a line of its own and is reported by a walk. -/
inductive Statement
  | property (p : Property)
  | declaration (l : Local)
  | result (value : UInt64)
  | leaf (statement : Leaf)
  /-- The head of a conditional branch, which is the first of its chain or a later one. -/
  | head (first : Bool) (condition : Condition)
  deriving DecidableEq

/-- The event that reports a statement. -/
def Statement.event : Statement → Event
  | .property p => .property p
  | .declaration l => .declaration l
  | .result value => .result value
  | .leaf statement => .leaf statement
  | .head _ condition => .condition condition

/-- The line of a statement. -/
def Dialect.statementLine (dialect : Dialect) : Statement → String
  | .property p => dialect.propertyLine p
  | .declaration l => dialect.localLine l
  | .result value => dialect.returnLine value
  | .leaf statement => dialect.leafLine statement
  | .head true condition => dialect.ifHead condition
  | .head false condition => dialect.elseIfHead condition

mutual

/-- The statements of a section inside a number of scopes, each with the number of scopes around
it. -/
def Section.statements : Section → (depth : Nat) → List (Nat × Statement)
  | .leaf statement, depth => [(depth, .leaf statement)]
  | .branch chain, depth => chain.statements true depth
  | .loop _ _ _ body, depth => body.statements (depth + 1)

/-- The statements of the branches of an if chain. -/
def Chain.statements : Chain → (first : Bool) → (depth : Nat) → List (Nat × Statement)
  | .empty, _, _ => []
  | .otherwise body, _, depth => body.statements (depth + 1)
  | .conditional condition body rest, first, depth =>
    (depth, .head first condition) ::
      (body.statements (depth + 1) ++ rest.statements false depth)

end

/-- The statements of a method. -/
def Method.statements (m : Method) (depth : Nat) : List (Nat × Statement) :=
  m.locals.map (fun item => (depth + 1, .declaration item)) ++
    m.sections.flatMap (fun item => item.statements (depth + 1)) ++ [(depth + 1, .result m.result)]

/-- The statements of a class. -/
def ClassDecl.statements (c : ClassDecl) : List (Nat × Statement) :=
  c.properties.map (fun p => (1, .property p)) ++ c.methods.flatMap (fun m => m.statements 1)

/-! ## Walked statements -/

namespace Event

/-- The events other than those of scopes, each with the number of scopes that are open then. -/
def placed (depth : Nat) : List Event → List (Nat × Event)
  | [] => []
  | event :: rest =>
    let others := placed (event.depthAfter depth) rest
    if event.isScope then others else (depth, event) :: others

/-- The events report the statements, and the scopes that they enter are left. -/
def Report (events : List Event) (depth : Nat) (statements : List (Nat × Statement)) : Prop :=
  ∀ rest, placed depth (events ++ rest) =
    statements.map (fun s => (s.1, s.2.event)) ++ placed depth rest

theorem report_nil (depth : Nat) : Report [] depth [] := fun _ => rfl

theorem report_single (s : Statement) (depth : Nat) : Report [s.event] depth [(depth, s)] := by
  intro rest
  cases s <;> rfl

theorem Report.append {events more : List Event} {depth : Nat}
    {statements others : List (Nat × Statement)} (h : Report events depth statements)
    (hmore : Report more depth others) : Report (events ++ more) depth (statements ++ others) := by
  intro rest
  rw [List.append_assoc, h, hmore, List.map_append, List.append_assoc]

theorem Report.scope {inner : List Event} {depth : Nat} {statements : List (Nat × Statement)}
    (h : Report inner (depth + 1) statements) : Report (Event.scope inner) depth statements := by
  intro rest
  have hscope : Event.scope inner ++ rest = .enter :: (inner ++ .exit :: rest) := by
    simp [Event.scope]
  rw [hscope]
  exact h (.exit :: rest)

theorem report_map {α : Type} (statement : α → Statement) (items : List α) (depth : Nat) :
    Report (items.map fun item => (statement item).event) depth
      (items.map fun item => (depth, statement item)) := by
  induction items with
  | nil => exact report_nil depth
  | cons item items ih => exact (report_single (statement item) depth).append ih

theorem report_flatMap {α : Type} {events : α → List Event}
    {statements : α → List (Nat × Statement)} {depth : Nat}
    (h : ∀ a, Report (events a) depth (statements a)) (items : List α) :
    Report (items.flatMap events) depth (items.flatMap statements) := by
  induction items with
  | nil => exact report_nil depth
  | cons item items ih => exact (h item).append ih

end Event

mutual

theorem Section.events_report : ∀ (s : Section) (depth : Nat),
    Event.Report s.events depth (s.statements depth)
  | .leaf statement, depth => by
    rw [Section.events, Section.statements]
    exact Event.report_single (.leaf statement) depth
  | .branch chain, depth => by
    rw [Section.events, Section.statements]
    exact chain.events_report true depth
  | .loop _ _ _ body, depth => by
    rw [Section.events, Section.statements]
    exact (body.events_report (depth + 1)).scope

theorem Chain.events_report : ∀ (c : Chain) (first : Bool) (depth : Nat),
    Event.Report c.events depth (c.statements first depth)
  | .empty, _, depth => by
    rw [Chain.events, Chain.statements]
    exact Event.report_nil depth
  | .otherwise body, _, depth => by
    rw [Chain.events, Chain.statements]
    exact (body.events_report (depth + 1)).scope
  | .conditional condition body rest, first, depth => by
    rw [Chain.events, Chain.statements]
    exact (Event.report_single (.head first condition) depth).append
      ((body.events_report (depth + 1)).scope.append (rest.events_report false depth))

end

theorem Method.events_report (m : Method) (depth : Nat) :
    Event.Report m.events depth (m.statements depth) := by
  have hlocals := Event.report_map .declaration m.locals (depth + 1)
  have hsections := Event.report_flatMap (fun s => s.events_report (depth + 1)) m.sections
  exact ((hlocals.append hsections).append (Event.report_single (.result m.result) _)).scope

theorem ClassDecl.events_report (c : ClassDecl) : Event.Report c.events 0 c.statements := by
  have hproperties := Event.report_map .property c.properties 1
  have hmethods := Event.report_flatMap (fun m => m.events_report 1) c.methods
  exact (hproperties.append hmethods).scope

/-! ## Written statements -/

namespace Line

/-- How the lines of statements begin. -/
def openings : List String := ["var ", "return ", "print(", "throw ", "if( ", "\x7d else if( "]

/-- Whether a line begins as the line of a statement does. -/
def isStatement (l : Line) : Bool :=
  openings.any fun opening => opening.toList.isPrefixOf l.content.toList

/-- The line of a statement with a number of scopes around it. -/
def ofStatement (dialect : Dialect) (s : Nat × Statement) : Line :=
  ⟨2 * s.1, dialect.statementLine s.2⟩

variable (dialect : Dialect) (indent : Nat)

theorem isStatement_statementLine (s : Statement) :
    isStatement ⟨indent, dialect.statementLine s⟩ = true := by
  cases s with
  | property p => simp [isStatement, openings, Dialect.statementLine, Dialect.propertyLine]
  | declaration l => simp [isStatement, openings, Dialect.statementLine, Dialect.localLine]
  | result value => simp [isStatement, openings, Dialect.statementLine, Dialect.returnLine]
  | leaf statement =>
    cases statement <;> simp [isStatement, openings, Dialect.statementLine, Dialect.leafLine]
  | head first condition =>
    cases first <;>
      simp [isStatement, openings, Dialect.statementLine, Dialect.ifHead, Dialect.elseIfHead]

theorem isStatement_blank : isStatement blank = false := by decide

theorem isStatement_packageLine (package : String) :
    isStatement ⟨indent, dialect.packageLine package⟩ = false := by
  cases dialect <;> simp [isStatement, openings, Dialect.packageLine, List.isPrefixOf]

theorem isStatement_classHead (name : String) :
    isStatement ⟨indent, dialect.classHead name⟩ = false := by
  simp [isStatement, openings, Dialect.classHead, List.isPrefixOf]

theorem isStatement_methodHead (name : String) :
    isStatement ⟨indent, dialect.methodHead name⟩ = false := by
  simp [isStatement, openings, Dialect.methodHead, List.isPrefixOf]

theorem isStatement_elseHead : isStatement ⟨indent, dialect.elseHead⟩ = false := by
  simp [isStatement, openings, Dialect.elseHead, List.isPrefixOf]

theorem isStatement_loopHead (counter : String) (start stop : UInt64) :
    isStatement ⟨indent, dialect.loopHead counter start stop⟩ = false := by
  simp [isStatement, openings, Dialect.loopHead, List.isPrefixOf]

theorem isStatement_blockEnd : isStatement ⟨indent, dialect.blockEnd⟩ = false := by
  simp [isStatement, openings, Dialect.blockEnd, List.isPrefixOf]

/-- The lines that begin as statements do are those of the given statements. -/
def Show (dialect : Dialect) (ls : List Line) (statements : List (Nat × Statement)) : Prop :=
  ls.filter isStatement = statements.map (ofStatement dialect)

theorem show_nil : Show dialect [] [] := rfl

variable {ls ms : List Line} {statements others : List (Nat × Statement)}

theorem show_statement (s : Statement) (depth : Nat) (h : Show dialect ls statements) :
    Show dialect (⟨Emitter.step * depth, dialect.statementLine s⟩ :: ls)
      ((depth, s) :: statements) := by
  rw [Show, List.filter_cons_of_pos (isStatement_statementLine dialect _ s), h]
  rfl

theorem show_other {l : Line} (hl : isStatement l = false) (h : Show dialect ls statements) :
    Show dialect (l :: ls) statements := by
  rw [Show, List.filter_cons_of_neg (by rw [hl]; exact Bool.false_ne_true), h]

theorem Show.append (h : Show dialect ls statements) (hms : Show dialect ms others) :
    Show dialect (ls ++ ms) (statements ++ others) := by
  rw [Show, List.filter_append, h, hms, List.map_append]

theorem Show.append_other {l : Line} (h : Show dialect ls statements)
    (hl : isStatement l = false) : Show dialect (ls ++ [l]) statements := by
  have happend := h.append dialect (show_other dialect hl (show_nil dialect))
  rwa [List.append_nil] at happend

theorem show_map {α : Type} (statement : α → Statement) (items : List α) (depth : Nat) :
    Show dialect
      (items.map fun item => ⟨Emitter.step * depth, dialect.statementLine (statement item)⟩)
      (items.map fun item => (depth, statement item)) := by
  induction items with
  | nil => exact show_nil dialect
  | cons item items ih => exact show_statement dialect (statement item) depth ih

theorem show_flatMap {α : Type} {lines : α → List Line}
    {statements : α → List (Nat × Statement)}
    (h : ∀ a, Show dialect (lines a) (statements a)) (items : List α) :
    Show dialect (items.flatMap lines) (items.flatMap statements) := by
  induction items with
  | nil => exact show_nil dialect
  | cons item items ih => exact (h item).append dialect ih

end Line

mutual

theorem Section.lines_show (dialect : Dialect) : ∀ (s : Section) (depth : Nat),
    Line.Show dialect (s.lines dialect (Emitter.step * depth)) (s.statements depth)
  | .leaf statement, depth => by
    rw [Section.lines, Section.statements]
    exact Line.show_statement dialect (.leaf statement) depth (Line.show_nil dialect)
  | .branch chain, depth => by
    rw [Section.lines, Section.statements]
    exact (chain.lines_show dialect true depth).append_other dialect
      (Line.isStatement_blockEnd dialect _)
  | .loop counter start stop body, depth => by
    rw [Section.lines, Section.statements]
    exact Line.show_other dialect (Line.isStatement_loopHead dialect _ counter start stop)
      ((body.lines_show dialect (depth + 1)).append_other dialect
        (Line.isStatement_blockEnd dialect _))

theorem Chain.lines_show (dialect : Dialect) : ∀ (c : Chain) (first : Bool) (depth : Nat),
    Line.Show dialect (c.lines dialect first (Emitter.step * depth)) (c.statements first depth)
  | .empty, first, depth => by
    rw [Chain.lines, Chain.statements]
    exact Line.show_nil dialect
  | .otherwise body, first, depth => by
    rw [Chain.lines, Chain.statements]
    exact Line.show_other dialect (Line.isStatement_elseHead dialect _)
      (body.lines_show dialect (depth + 1))
  | .conditional condition body rest, first, depth => by
    rw [Chain.lines, Chain.statements]
    have hinner := (body.lines_show dialect (depth + 1)).append dialect
      (rest.lines_show dialect false depth)
    cases first with
    | true => exact Line.show_statement dialect (.head true condition) depth hinner
    | false => exact Line.show_statement dialect (.head false condition) depth hinner

end

theorem Method.lines_show (dialect : Dialect) (m : Method) (depth : Nat) :
    Line.Show dialect (m.lines dialect (Emitter.step * depth)) (m.statements depth) := by
  have hlocals := Line.show_map dialect .declaration m.locals (depth + 1)
  have hsections :=
    Line.show_flatMap dialect (fun s => s.lines_show dialect (depth + 1)) m.sections
  have hend := Line.show_other dialect Line.isStatement_blank
    (Line.show_statement dialect (.result m.result) (depth + 1)
      (Line.show_other dialect (Line.isStatement_blockEnd dialect (Emitter.step * depth))
        (Line.show_nil dialect)))
  rw [Method.lines, Method.statements, List.append_assoc]
  exact Line.show_other dialect (Line.isStatement_methodHead dialect _ m.name)
    (hlocals.append dialect
      (Line.show_other dialect Line.isStatement_blank (hsections.append dialect hend)))

theorem ClassDecl.lines_show (dialect : Dialect) (c : ClassDecl) :
    Line.Show dialect (c.lines dialect) c.statements := by
  have hproperties := Line.show_map dialect .property c.properties 1
  have hmethods := Line.show_flatMap dialect
    (fun m => Line.show_other dialect Line.isStatement_blank (m.lines_show dialect 1)) c.methods
  have hbody := hproperties.append dialect
    (hmethods.append_other dialect (Line.isStatement_blockEnd dialect 0))
  exact Line.show_other dialect (Line.isStatement_packageLine dialect 0 c.package)
    (Line.show_other dialect Line.isStatement_blank
      (Line.show_other dialect (Line.isStatement_classHead dialect 0 c.name) hbody))

/-- The walk and the written form of a class whose strings have no line break visit the same
statements. The scopes of the walk are balanced: none is left that was not entered, and none stays
open. The walk reports the statements of the class in order, each with as many open scopes as are
around it, and the lines of statements in the text are theirs, in the same order and indented by
two spaces for each of these scopes. -/
theorem ClassDecl.walk_agrees (dialect : Dialect) (c : ClassDecl) (h : OneLine c.texts) :
    Event.Balanced c.events ∧
      (∀ before, before <+: c.events → before.count .exit ≤ before.count .enter) ∧
      c.events.foldl Event.depthAfter 0 = 0 ∧
      Event.placed 0 c.events = c.statements.map (fun s => (s.1, s.2.event)) ∧
      (Line.read (c.source dialect)).filter Line.isStatement =
        c.statements.map fun s => ⟨2 * s.1, dialect.statementLine s.2⟩ := by
  have hbalanced := c.balanced_events
  refine ⟨hbalanced, fun _ => hbalanced.count_le_of_prefix, hbalanced.foldl_depthAfter 0, ?_, ?_⟩
  · have hreport := c.events_report []
    rwa [List.append_nil, Event.placed, List.append_nil] at hreport
  · rw [source_eq_textOf, Line.read_textOf (c.tidy_lines dialect h)]
    exact c.lines_show dialect

/-- A class with a chain inside a loop, and with strings that begin as statements do. -/
def ClassDecl.nested : ClassDecl where
  package := "return"
  name := "throw "
  properties := [⟨1, .long, true, .ordinal 1⟩]
  methods := [⟨"if( ", [⟨"print(", .quotedName "var x"⟩],
    [.loop "var " 0 9 (.branch (.conditional ⟨⟨false, .literal true⟩, []⟩ (.leaf .print)
      (.conditional ⟨⟨true, .literal false⟩, []⟩ (.leaf .throw) .empty)))], 7⟩]

theorem ClassDecl.walk_agrees_nested :
    OneLine nested.texts ∧ nested.events.foldl Event.depthAfter 0 = 0 ∧
      (Event.placed 0 nested.events).map Prod.fst = [1, 2, 3, 4, 3, 4, 2] ∧
      (Line.read (nested.source .extended)).filter Line.isStatement =
        [⟨2, "var _property1 : long as readonly Property1 = 1 as long"⟩,
          ⟨4, "var print( = \"var x\""⟩, ⟨6, "if( true ) \x7b"⟩, ⟨8, "print(\"Hello World\")"⟩,
          ⟨6, "\x7d else if( not false ) \x7b"⟩, ⟨8, "throw \"Error\""⟩, ⟨4, "return 7"⟩] := by
  have htexts : OneLine nested.texts := by decide
  obtain ⟨-, -, hdepth, hwalked, hwritten⟩ := walk_agrees .extended nested htexts
  refine ⟨htexts, hdepth, ?_, ?_⟩
  · rw [hwalked]
    decide
  · rw [hwritten]
    decide

end ClassMill
