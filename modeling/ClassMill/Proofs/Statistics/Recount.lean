import ClassMill.Proofs.Statistics.Counter
import ClassMill.Statistics.OfClass

/-!
# The survey of a class and a recount of its tree

A survey counts in one pass and knows the depth from the number of open blocks. The recount
lists the sections and conditions of the tree by recursion and takes the depth of sections by
recursion too. Both agree on every tree, also with empty chains and without members.
-/

namespace ClassMill

mutual

/-- A section and all sections within it, in source order. -/
def Section.nodes : Section → List Section
  | .leaf statement => [.leaf statement]
  | .branch chain => .branch chain :: chain.nodes
  | .loop counter start stop body => .loop counter start stop body :: body.nodes

/-- All sections within the branches of a chain. -/
def Chain.nodes : Chain → List Section
  | .empty => []
  | .otherwise body => body.nodes
  | .conditional _ body rest => body.nodes ++ rest.nodes

end

mutual

/-- The conditions within a section, in source order. -/
def Section.conditions : Section → List Condition
  | .leaf _ => []
  | .branch chain => chain.conditions
  | .loop _ _ _ body => body.conditions

/-- The conditions of a chain and those within its branches. -/
def Chain.conditions : Chain → List Condition
  | .empty => []
  | .otherwise body => body.conditions
  | .conditional condition body rest => condition :: (body.conditions ++ rest.conditions)

end

/-- The sections within a chain are those of its bodies. -/
theorem Chain.nodes_eq (chain : Chain) : chain.nodes = chain.bodies.flatMap Section.nodes := by
  fun_induction Chain.bodies chain with
  | case1 => rfl
  | case2 body => simp [Chain.nodes]
  | case3 condition body rest ih => simp [Chain.nodes, ih]

namespace Survey

/-- The survey after more sections and conditions, with blocks open down to a further depth. -/
def meet (nodes : List Section) (conditions : List Condition) (depth : Nat) (v : Survey) :
    Survey where
  statistics := {
    v.statistics with
    clauses := v.statistics.clauses + (conditions.map Condition.size).sum
    sections := v.statistics.sections.bumpAll (nodes.map Section.kind)
    maxDepth := max v.statistics.maxDepth (v.openBlocks + depth) }
  openBlocks := v.openBlocks

theorem meet_meet (nodes nodes' : List Section) (conditions conditions' : List Condition)
    (depth depth' : Nat) (v : Survey) :
    (v.meet nodes conditions depth).meet nodes' conditions' depth' =
      v.meet (nodes ++ nodes') (conditions ++ conditions') (max depth depth') := by
  have hdepth : max (max v.statistics.maxDepth (v.openBlocks + depth)) (v.openBlocks + depth') =
      max v.statistics.maxDepth (v.openBlocks + max depth depth') := by
    omega
  simp only [meet, List.map_append, Counter.bumpAll_append, List.sum_append, Nat.add_assoc]
  rw [hdepth]

/-- No more blocks are open than the greatest depth that was met. -/
def Bounded (v : Survey) : Prop := v.openBlocks ≤ v.statistics.maxDepth

theorem Bounded.meet {v : Survey} (h : v.Bounded) (nodes : List Section)
    (conditions : List Condition) (depth : Nat) : (v.meet nodes conditions depth).Bounded := by
  have hbound := h
  unfold Bounded at hbound ⊢
  simp only [Survey.meet]
  omega

theorem meet_nil {v : Survey} (h : v.Bounded) : v.meet [] [] 0 = v := by
  have hdepth : max v.statistics.maxDepth (v.openBlocks + 0) = v.statistics.maxDepth := by
    unfold Bounded at h
    omega
  simp only [meet, hdepth]
  rfl

/-- Surveying a block is surveying its content one level deeper. -/
theorem leave_meet_enter (s : Section) (nodes : List Section) (conditions : List Condition)
    (depth : Nat) (v : Survey) :
    ((v.kind s.kind).enter.meet nodes conditions depth).leave =
      v.meet (s :: nodes) conditions (depth + 1) := by
  have hdepth : max (max v.statistics.maxDepth (v.openBlocks + 1)) (v.openBlocks + 1 + depth) =
      max v.statistics.maxDepth (v.openBlocks + (depth + 1)) := by
    omega
  simp only [meet, leave, enter, kind, record, hdepth, Nat.add_sub_cancel]
  rfl

theorem bounded_enter (v : Survey) : v.enter.Bounded := by
  unfold Bounded enter
  dsimp only
  omega

end Survey

mutual

/-- Surveying a section meets its sections and conditions, and leaves as many blocks open as
before. -/
theorem Section.survey_eq_meet : ∀ (s : Section) {v : Survey}, v.Bounded →
    s.survey v = v.meet s.nodes s.conditions s.depth
  | .leaf statement, v, hv => by
    rw [Section.survey, Section.nodes, Section.conditions, Section.depth]
    conv_lhs => rw [← Survey.meet_nil hv]
    rfl
  | .branch chain, v, _ => by
    rw [Section.survey, Chain.survey_eq_meet chain (Survey.bounded_enter _)]
    exact Survey.leave_meet_enter (.branch chain) _ _ _ v
  | .loop counter start stop body, v, _ => by
    rw [Section.survey, Section.survey_eq_meet body (Survey.bounded_enter _)]
    exact Survey.leave_meet_enter (.loop counter start stop body) _ _ _ v

/-- Surveying the branches of a chain meets their sections and conditions. -/
theorem Chain.survey_eq_meet : ∀ (c : Chain) {v : Survey}, v.Bounded →
    c.survey v = v.meet c.nodes c.conditions c.depth
  | .empty, v, hv => by
    rw [Chain.survey, Chain.nodes, Chain.conditions, Chain.depth, Survey.meet_nil hv]
  | .otherwise body, v, hv => by
    rw [Chain.survey, Chain.nodes, Chain.conditions, Chain.depth, Section.survey_eq_meet body hv]
  | .conditional condition body rest, v, hv => by
    have hcondition : v.condition condition = v.meet [] [condition] 0 := by
      conv_lhs => rw [← Survey.meet_nil hv]
      rfl
    have hfirst := hv.meet [] [condition] 0
    rw [Chain.survey, hcondition, Section.survey_eq_meet body hfirst,
      Chain.survey_eq_meet rest (hfirst.meet _ _ _), Survey.meet_meet, Survey.meet_meet]
    rw [Chain.nodes, Chain.conditions, Chain.depth, Nat.zero_max]
    rfl

end

mutual

/-- A survey leaves as many blocks open after a section as before, wherever it starts. -/
theorem Section.openBlocks_survey : ∀ (s : Section) (v : Survey),
    (s.survey v).openBlocks = v.openBlocks
  | .leaf statement, v => by
    rw [Section.survey]
    rfl
  | .branch chain, v => by
    have hchain := Chain.openBlocks_survey chain (v.kind .branch).enter
    rw [Section.survey]
    simp only [Survey.leave, hchain]
    rfl
  | .loop counter start stop body, v => by
    have hbody := Section.openBlocks_survey body (v.kind .loop).enter
    rw [Section.survey]
    simp only [Survey.leave, hbody]
    rfl

theorem Chain.openBlocks_survey : ∀ (c : Chain) (v : Survey),
    (c.survey v).openBlocks = v.openBlocks
  | .empty, v => by
    rw [Chain.survey]
  | .otherwise body, v => by
    rw [Chain.survey, Section.openBlocks_survey body]
  | .conditional condition body rest, v => by
    rw [Chain.survey, Chain.openBlocks_survey rest, Section.openBlocks_survey body]
    rfl

end

/-! ## Members -/

/-- All sections of a method, in source order. -/
def Method.nodes (m : Method) : List Section := m.sections.flatMap Section.nodes

/-- All conditions of a method, in source order. -/
def Method.conditions (m : Method) : List Condition := m.sections.flatMap Section.conditions

namespace ClassDecl

/-- The sections that the methods of a class list themselves. -/
def topSections (c : ClassDecl) : List Section := c.methods.flatMap Method.sections

/-- All sections of a class, in source order. -/
def nodes (c : ClassDecl) : List Section := c.methods.flatMap Method.nodes

/-- All conditions of a class, in source order. -/
def conditions (c : ClassDecl) : List Condition := c.methods.flatMap Method.conditions

end ClassDecl

/-- The greatest depth of the sections of a list, zero without sections. -/
def Section.greatestDepth (sections : List Section) : Nat :=
  (sections.map Section.depth).foldr max 0

theorem Section.greatestDepth_append (ss ts : List Section) :
    greatestDepth (ss ++ ts) = max (greatestDepth ss) (greatestDepth ts) := by
  induction ss with
  | nil => simp [greatestDepth]
  | cons s ss ih =>
    have hstep : ∀ more, greatestDepth (s :: more) = max s.depth (greatestDepth more) :=
      fun _ => rfl
    rw [List.cons_append, hstep, hstep, ih]
    omega

namespace Survey

/-- Counts methods and local variables. -/
def declare (methods locals : Nat) : Survey → Survey :=
  record fun s => { s with methods := s.methods + methods, locals := s.locals + locals }

theorem Bounded.declare {v : Survey} (h : v.Bounded) (methods locals : Nat) :
    (v.declare methods locals).Bounded := h

/-- Surveying sections one after the other meets what is in any of them. -/
theorem foldl_survey (items : List Section) {v : Survey} (hv : v.Bounded) :
    items.foldl (fun v item => item.survey v) v =
      v.meet (items.flatMap Section.nodes) (items.flatMap Section.conditions)
        (Section.greatestDepth items) := by
  induction items generalizing v with
  | nil => exact (meet_nil hv).symm
  | cons item items ih =>
    rw [List.foldl_cons, Section.survey_eq_meet item hv, ih (hv.meet _ _ _), meet_meet,
      ← List.flatMap_cons, ← List.flatMap_cons]
    rfl

theorem foldl_declaration (items : List Local) (v : Survey) :
    items.foldl declaration v = v.declare 0 items.length := by
  induction items generalizing v with
  | nil => rfl
  | cons item items ih =>
    rw [List.foldl_cons, ih, List.length_cons, Nat.add_comm items.length]
    simp [declaration, declare, record, Nat.add_assoc]

theorem method_eq {v : Survey} (hv : v.Bounded) (m : Method) :
    v.method m = (v.declare 1 m.locals.length).meet m.nodes m.conditions
      (Section.greatestDepth m.sections) := by
  have hdeclare : m.locals.foldl declaration
      (v.record fun s => { s with methods := s.methods + 1 }) = v.declare 1 m.locals.length := by
    rw [foldl_declaration]
    rfl
  rw [method, hdeclare, foldl_survey _ (hv.declare _ _)]
  rfl

/-- Surveying methods counts them and their local variables and meets their sections. -/
theorem foldl_method (items : List Method) {v : Survey} (hv : v.Bounded) :
    items.foldl method v =
      (v.declare items.length (items.map (·.locals.length)).sum).meet
        (items.flatMap Method.nodes) (items.flatMap Method.conditions)
        (Section.greatestDepth (items.flatMap Method.sections)) := by
  induction items generalizing v with
  | nil => exact (meet_nil hv).symm
  | cons m items ih =>
    have hdeclare : ∀ (nodes : List Section) (conditions : List Condition) (depth n k : Nat),
        ((v.declare 1 m.locals.length).meet nodes conditions depth).declare n k =
          (v.declare (n + 1) (m.locals.length + k)).meet nodes conditions depth := by
      intro nodes conditions depth n k
      simp [declare, record, meet, Nat.add_assoc, Nat.add_comm 1]
    rw [List.foldl_cons, ih (by rw [method_eq hv]; exact (hv.declare _ _).meet _ _ _),
      method_eq hv, hdeclare, meet_meet, ← List.flatMap_cons, ← List.flatMap_cons,
      ← Section.greatestDepth_append, ← List.flatMap_cons]
    rfl

theorem foldl_property (items : List Property) (v : Survey) :
    items.foldl property v = v.record fun s =>
      { s with
        properties := s.properties + items.length
        propertyTypes := s.propertyTypes.bumpAll (items.map Property.type) } := by
  induction items generalizing v with
  | nil => rfl
  | cons p items ih =>
    rw [List.foldl_cons, ih, List.length_cons, Nat.add_comm items.length]
    simp [property, record, Nat.add_assoc, Counter.bumpAll]

end Survey

/-- The statistics that a recount of the tree gives. Counters hold the kinds that occur and no
other. -/
structure ClassDecl.Recount (c : ClassDecl) (s : ClassStatistics) : Prop where
  properties : s.properties = c.properties.length
  methods : s.methods = c.methods.length
  locals : s.locals = (c.methods.map (·.locals.length)).sum
  clauses : s.clauses = (c.conditions.map Condition.size).sum
  sections : ∀ k, s.sections.get? k = Counter.presence ((c.nodes.map Section.kind).count k)
  propertyTypes : ∀ t,
    s.propertyTypes.get? t = Counter.presence ((c.properties.map Property.type).count t)
  totalSections : s.totalSections = .ok c.nodes.length
  maxDepth : s.maxDepth = Section.greatestDepth c.topSections

namespace ClassDecl

/-- The statistics of a class from the parts that a survey meets. -/
theorem statistics_eq (c : ClassDecl) :
    c.statistics = {
      properties := c.properties.length
      methods := c.methods.length
      locals := (c.methods.map (·.locals.length)).sum
      clauses := (c.conditions.map Condition.size).sum
      sections := Counter.empty.bumpAll (c.nodes.map Section.kind)
      propertyTypes := Counter.empty.bumpAll (c.properties.map Property.type)
      maxDepth := Section.greatestDepth c.topSections } := by
  have hbound : (c.properties.foldl Survey.property .start).Bounded := by
    rw [Survey.foldl_property]
    exact Nat.le_refl 0
  rw [statistics, Survey.foldl_method _ hbound, Survey.foldl_property]
  simp [Survey.meet, Survey.declare, Survey.record, Survey.start, ClassStatistics.zero, nodes,
    conditions, topSections]

/-- The survey of a class and a recount of its tree agree, as long as the number of sections
fits into 64 bits, and no section changes how many blocks are open. -/
theorem recount_statistics (c : ClassDecl) (h : c.nodes.length < UInt64.size) :
    c.Recount c.statistics ∧
      ∀ (s : Section) (v : Survey), (s.survey v).openBlocks = v.openBlocks := by
  refine ⟨?_, Section.openBlocks_survey⟩
  rw [statistics_eq]
  refine ⟨rfl, rfl, rfl, rfl, fun k => ?_, fun t => ?_, ?_, rfl⟩
  · have hempty : ∀ l : SectionKind, Counter.empty.get? l =
        Counter.presence (([] : List SectionKind).count l) := fun l => Counter.get?_empty l
    exact Counter.get?_bumpAll hempty _ k
  · have hempty : ∀ l : PropertyType, Counter.empty.get? l =
        Counter.presence (([] : List PropertyType).count l) := fun l => Counter.get?_empty l
    exact Counter.get?_bumpAll hempty _ t
  · rw [ClassStatistics.totalSections, Counter.total_bumpAll, Counter.total_empty, checkedSum,
      List.length_map, Nat.zero_add, Nat.zero_add, if_pos h]

/-- A class of two methods, one with an empty chain and one with a loop in a later branch. -/
def twoShapes : ClassDecl where
  package := "shapes"
  name := "Sample"
  properties := [⟨1, .int, false, .ordinal 1⟩, ⟨2, .int, true, .ordinal 2⟩]
  methods := [
    ⟨"empty_method", [], [.branch .empty, .leaf .throw], 0⟩,
    ⟨"deep_method", [⟨"flag", .quotedBoolean true⟩],
      [.branch (.conditional ⟨⟨false, .literal true⟩, []⟩ (.leaf .print)
        (.otherwise (.loop "i" 0 9 (.leaf .print))))], 1⟩]

/-- Six sections, nested two levels deep at most. -/
theorem recount_twoShapes :
    twoShapes.nodes.length < UInt64.size ∧ twoShapes.statistics.totalSections = .ok 6 ∧
      twoShapes.statistics.maxDepth = 2 ∧
      twoShapes.statistics.sections.get? .branch = some 2 := by
  have hbound : twoShapes.nodes.length < UInt64.size := by decide
  obtain ⟨hrecount, -⟩ := recount_statistics twoShapes hbound
  exact ⟨hbound, hrecount.totalSections, hrecount.maxDepth, hrecount.sections .branch⟩

end ClassDecl

end ClassMill
