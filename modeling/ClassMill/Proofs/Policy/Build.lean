import ClassMill.Proofs.Decimal.Finite
import ClassMill.Proofs.Policy.Accepted
import ClassMill.Proofs.Random.Range
import ClassMill.Proofs.Statistics.Totals

/-!
# Building a policy

Values are given to a draft one after another, and the last one given to a field counts. A draft
reports the first field without a value before it looks at any rule; when all fields have values,
it is the policy with just these values, provided that the policy is sensible. What is sensible is
said here in numbers, apart from the rules as they are checked.
-/

namespace ClassMill

/-! ## Sensible policies -/

/-- The ends of a distribution are in order and lie between two numbers. -/
structure Distribution.Between (d : Distribution) (least greatest : Nat) : Prop where
  ordered : d.low.toNat ≤ d.high.toNat
  least_le : least ≤ d.low.toNat
  le_greatest : d.high.toNat ≤ greatest

namespace Policy

/-- A float is a number from zero to one. -/
structure IsChance (x : Float) : Prop where
  isNaN : x.isNaN = false
  nonneg : 0.0 ≤ x
  le_one : x ≤ 1.0

/-- The numbers of a policy suit the generation of classes. -/
structure Sensible (p : Policy) : Prop where
  maxDepth : p.maxDepth.toInt ≤ 8
  branchCount : p.branchCount.Between 1 3
  localCount : p.localCount.Between 1 4
  sectionCount : p.sectionCount.Between 1 4
  clauseCount : p.clauseCount.low.toNat ≤ p.clauseCount.high.toNat ∧ 1 ≤ p.clauseCount.low.toNat
  loopStart : p.loopStart.Between 1 1000000
  loopSpan : p.loopSpan.Between 1 1000000
  integerLiteral : p.integerLiteral.Between 1 1000000
  lengths : p.typeLength ≠ 0 ∧ p.variableLength ≠ 0 ∧ p.loopVariableLength ≠ 0 ∧
    p.methodLength ≠ 0
  realLiteral : p.realLiteral.1.isFinite = true ∧ p.realLiteral.2.isFinite = true ∧
    p.realLiteral.1 < p.realLiteral.2
  negation : IsChance p.negation
  truth : IsChance p.truth
  readonlyChance : IsChance p.readonlyChance

end Policy

theorem Distribution.within_iff_between {d : Distribution} {low high : UInt64} :
    d.within low high = true ↔ d.Between low.toNat high.toNat := by
  rw [within_iff, UInt64.le_iff_toNat_le, UInt64.le_iff_toNat_le, UInt64.le_iff_toNat_le]
  constructor
  · rintro ⟨hordered, hlow, hhigh⟩
    exact ⟨hordered, hlow, hhigh⟩
  · intro h
    exact ⟨h.ordered, h.least_le, h.le_greatest⟩

namespace Policy

/-- Comparisons with what is not a number fail, so the bounds leave numbers only. -/
theorem isProbability_iff {x : Float} : Rule.isProbability x = true ↔ IsChance x := by
  rw [Rule.isProbability, Bool.and_eq_true, decide_eq_true_eq, decide_eq_true_eq]
  constructor
  · rintro ⟨hnonneg, hle⟩
    have hfinite : x.isFinite = true :=
      Decimal.isFinite_of_between hnonneg hle (by decide) (by decide)
    exact ⟨Decimal.isNaN_of_isFinite hfinite, hnonneg, hle⟩
  · intro h
    exact ⟨h.nonneg, h.le_one⟩

/-- The rules accept the sensible policies and no others. -/
theorem accepted_iff_sensible {p : Policy} : p.Accepted ↔ p.Sensible := by
  have hdepth : Rule.depth.holds p = true ↔ p.maxDepth.toInt ≤ 8 := by
    rw [Rule.holds, decide_eq_true_eq, Int32.le_iff_toInt_le]
    rfl
  have hclauses : Rule.clauseCount.holds p = true ↔
      p.clauseCount.low.toNat ≤ p.clauseCount.high.toNat ∧ 1 ≤ p.clauseCount.low.toNat := by
    have hhigh := p.clauseCount.high.toNat_lt
    rw [Rule.holds, Distribution.within_iff_between]
    exact ⟨fun h => ⟨h.ordered, h.least_le⟩, fun h => ⟨h.1, h.2, Nat.le_of_lt_succ hhigh⟩⟩
  have hlengths : Rule.nameLengths.holds p = true ↔ p.typeLength ≠ 0 ∧ p.variableLength ≠ 0 ∧
      p.loopVariableLength ≠ 0 ∧ p.methodLength ≠ 0 := by
    simp [Rule.holds, NameKind.all, nameLength]
  constructor
  · intro h
    obtain ⟨hnegation, htruth, hreadonly⟩ :
        IsChance p.negation ∧ IsChance p.truth ∧ IsChance p.readonlyChance := by
      have hchances := h .probabilities
      simpa only [Rule.holds, Bool.and_eq_true, isProbability_iff, and_assoc] using hchances
    exact {
      maxDepth := hdepth.mp (h .depth)
      branchCount := Distribution.within_iff_between.mp h.branchCount
      localCount := Distribution.within_iff_between.mp h.localCount
      sectionCount := Distribution.within_iff_between.mp h.sectionCount
      clauseCount := hclauses.mp (h .clauseCount)
      loopStart := Distribution.within_iff_between.mp h.loopStart
      loopSpan := Distribution.within_iff_between.mp h.loopSpan
      integerLiteral := Distribution.within_iff_between.mp h.integerLiteral
      lengths := hlengths.mp (h .nameLengths)
      realLiteral := h.realLiteral
      negation := hnegation
      truth := htruth
      readonlyChance := hreadonly }
  · intro h rule
    cases rule with
    | depth => exact hdepth.mpr h.maxDepth
    | branchCount => exact Distribution.within_iff_between.mpr h.branchCount
    | clauseCount => exact hclauses.mpr h.clauseCount
    | loopStart => exact Distribution.within_iff_between.mpr h.loopStart
    | loopSpan => exact Distribution.within_iff_between.mpr h.loopSpan
    | integerLiterals => exact Distribution.within_iff_between.mpr h.integerLiteral
    | methodCounts =>
      have hlocals : p.localCount.within 1 4 = true :=
        Distribution.within_iff_between.mpr h.localCount
      have hsections : p.sectionCount.within 1 4 = true :=
        Distribution.within_iff_between.mpr h.sectionCount
      exact Bool.and_eq_true_iff.mpr ⟨hlocals, hsections⟩
    | nameLengths => exact hlengths.mpr h.lengths
    | realLiterals =>
      simpa only [Rule.holds, Bool.and_eq_true, decide_eq_true_eq, and_assoc] using h.realLiteral
    | probabilities =>
      simpa only [Rule.holds, Bool.and_eq_true, isProbability_iff, and_assoc] using
        And.intro h.negation (And.intro h.truth h.readonlyChance)

/-! ## Fields and their values -/

/-- The field that a value is for. -/
def Assignment.field : Assignment → Field
  | .name _ => .name
  | .maxDepth _ => .maxDepth
  | .sectionCount _ => .sectionCount
  | .branchCount _ => .branchCount
  | .clauseCount _ => .clauseCount
  | .negation _ => .negation
  | .loopStart _ => .loopStart
  | .loopSpan _ => .loopSpan
  | .integerLiteral _ => .integerLiteral
  | .realLiteral _ => .realLiteral
  | .truth _ => .truth
  | .localCount _ => .localCount
  | .readonlyChance _ => .readonlyChance
  | .typeLength _ => .typeLength
  | .variableLength _ => .variableLength
  | .loopVariableLength _ => .loopVariableLength
  | .methodLength _ => .methodLength

/-- The value that a policy has for a field. -/
def value (p : Policy) : Field → Assignment
  | .name => .name p.name
  | .maxDepth => .maxDepth p.maxDepth
  | .sectionCount => .sectionCount p.sectionCount
  | .branchCount => .branchCount p.branchCount
  | .clauseCount => .clauseCount p.clauseCount
  | .negation => .negation p.negation
  | .loopStart => .loopStart p.loopStart
  | .loopSpan => .loopSpan p.loopSpan
  | .integerLiteral => .integerLiteral p.integerLiteral
  | .realLiteral => .realLiteral p.realLiteral
  | .truth => .truth p.truth
  | .localCount => .localCount p.localCount
  | .readonlyChance => .readonlyChance p.readonlyChance
  | .typeLength => .typeLength p.typeLength
  | .variableLength => .variableLength p.variableLength
  | .loopVariableLength => .loopVariableLength p.loopVariableLength
  | .methodLength => .methodLength p.methodLength

/-- The value that a draft has for a field, if it has one. -/
def Draft.value? (d : Draft) : Field → Option Assignment
  | .name => d.name.map .name
  | .maxDepth => d.maxDepth.map .maxDepth
  | .sectionCount => d.sectionCount.map .sectionCount
  | .branchCount => d.branchCount.map .branchCount
  | .clauseCount => d.clauseCount.map .clauseCount
  | .negation => d.negation.map .negation
  | .loopStart => d.loopStart.map .loopStart
  | .loopSpan => d.loopSpan.map .loopSpan
  | .integerLiteral => d.integerLiteral.map .integerLiteral
  | .realLiteral => d.realLiteral.map .realLiteral
  | .truth => d.truth.map .truth
  | .localCount => d.localCount.map .localCount
  | .readonlyChance => d.readonlyChance.map .readonlyChance
  | .typeLength => d.typeLength.map .typeLength
  | .variableLength => d.variableLength.map .variableLength
  | .loopVariableLength => d.loopVariableLength.map .loopVariableLength
  | .methodLength => d.methodLength.map .methodLength

theorem Field.mem_all (field : Field) : field ∈ all := by
  cases field <;> decide

/-- The values of its fields make up a policy. -/
theorem foldl_assign_value (p q : Policy) : (Field.all.map p.value).foldl assign q = p := by
  simp only [Field.all, List.map, List.foldl, assign, value]

theorem eq_of_value_eq {p q : Policy} (h : ∀ field, p.value field = q.value field) : p = q := by
  rw [← foldl_assign_value p p, funext h, foldl_assign_value]

namespace Draft

theorem value?_ofPolicy (p : Policy) (field : Field) :
    (ofPolicy p).value? field = some (p.value field) := by
  cases field <;> rfl

/-! ## Giving values -/

/-- A value is given to its field and to no other. -/
theorem value?_assign (d : Draft) (a : Assignment) (field : Field) :
    (d.assign a).value? field = if a.field = field then some a else d.value? field := by
  by_cases h : a.field = field
  · rw [if_pos h, ← h]
    cases a <;> rfl
  · rw [if_neg h]
    cases a <;> cases field <;> first | rfl | exact absurd rfl h

/-- What a field has after values were given: the last of those for the field, or else what the
draft had before. -/
def given (d : Draft) (values : List Assignment) (field : Field) : Option Assignment :=
  (values.reverse.find? fun a => a.field = field).or (d.value? field)

/-- Of the values given to a field the last one counts, whatever is given to others. -/
theorem value?_foldl_assign (d : Draft) (values : List Assignment) (field : Field) :
    (values.foldl assign d).value? field = d.given values field := by
  induction values generalizing d with
  | nil => rfl
  | cons a values ih =>
    have hlast : [a].find? (fun b => b.field = field) =
        if a.field = field then some a else none := by
      by_cases h : a.field = field <;> simp [h]
    rw [List.foldl_cons, ih, given, given, value?_assign, List.reverse_cons, List.find?_append,
      hlast, Option.or_assoc]
    by_cases h : a.field = field
    · rw [if_pos h, if_pos h, Option.some_or]
    · rw [if_neg h, if_neg h, Option.none_or]

/-! ## Building -/

/-- The first field, in order, that has no value. -/
def firstUnset? (d : Draft) (fields : List Field) : Option Field :=
  fields.find? fun field => (d.value? field).isNone

/-- A result is the report of the first of the fields without a value or, if all have values, the
policy with the values of the draft. -/
def Reports (d : Draft) (fields : List Field) (result : Except Rejection Policy) : Prop :=
  match d.firstUnset? fields with
  | some field => result = .error (.unset field)
  | none => ∃ p, result = .ok p ∧ d = ofPolicy p

/-- Asking for the value of a field before the others keeps the reports in order. -/
theorem Reports.require {d : Draft} {field : Field} {fields : List Field} {α : Type}
    {value : Option α} {wrap : α → Assignment} {next : α → Except Rejection Policy}
    (hvalue : d.value? field = value.map wrap)
    (h : ∀ a, value = some a → d.Reports fields (next a)) :
    d.Reports (field :: fields) (require field value >>= next) := by
  cases value with
  | none =>
    have hfirst : d.firstUnset? (field :: fields) = some field := by
      simp [firstUnset?, hvalue]
    rw [Reports, hfirst]
    rfl
  | some a =>
    have hfirst : d.firstUnset? (field :: fields) = d.firstUnset? fields := by
      simp [firstUnset?, hvalue]
    rw [Reports, hfirst]
    exact h a rfl

/-- A draft asks for the values of all fields in order. -/
theorem reports_complete (d : Draft) : d.Reports Field.all d.complete := by
  refine .require rfl fun name hname => ?_
  refine .require rfl fun maxDepth hmaxDepth => ?_
  refine .require rfl fun sectionCount hsectionCount => ?_
  refine .require rfl fun branchCount hbranchCount => ?_
  refine .require rfl fun clauseCount hclauseCount => ?_
  refine .require rfl fun negation hnegation => ?_
  refine .require rfl fun loopStart hloopStart => ?_
  refine .require rfl fun loopSpan hloopSpan => ?_
  refine .require rfl fun integerLiteral hintegerLiteral => ?_
  refine .require rfl fun realLiteral hrealLiteral => ?_
  refine .require rfl fun truth htruth => ?_
  refine .require rfl fun localCount hlocalCount => ?_
  refine .require rfl fun readonlyChance hreadonlyChance => ?_
  refine .require rfl fun typeLength htypeLength => ?_
  refine .require rfl fun variableLength hvariableLength => ?_
  refine .require rfl fun loopVariableLength hloopVariableLength => ?_
  refine .require rfl fun methodLength hmethodLength => ?_
  refine ⟨_, rfl, ?_⟩
  rw [ofPolicy, ← hname, ← hmaxDepth, ← hsectionCount, ← hbranchCount, ← hclauseCount, ← hnegation,
    ← hloopStart, ← hloopSpan, ← hintegerLiteral, ← hrealLiteral, ← htruth, ← hlocalCount,
    ← hreadonlyChance, ← htypeLength, ← hvariableLength, ← hloopVariableLength, ← hmethodLength]

/-- A draft without a value for some field is not checked. -/
theorem build_of_firstUnset? {d : Draft} {field : Field}
    (h : d.firstUnset? Field.all = some field) : d.build = .error (.unset field) := by
  have hreports := d.reports_complete
  rw [Reports, h] at hreports
  rw [build, hreports]
  rfl

/-- A draft with values for all fields is that of a policy. -/
theorem exists_eq_ofPolicy {d : Draft} (h : d.firstUnset? Field.all = none) :
    ∃ p, d = ofPolicy p := by
  have hreports := d.reports_complete
  rw [Reports, h] at hreports
  obtain ⟨p, -, hp⟩ := hreports
  exact ⟨p, hp⟩

end Draft

theorem accept_eq_ok_iff_sensible {p q : Policy} : p.accept = .ok q ↔ q = p ∧ p.Sensible := by
  rw [accept_eq_ok_iff, accepted_iff_sensible, and_comm, eq_comm]

/-- A policy that is not sensible breaks a rule, which is reported. -/
theorem exists_accept_eq_broken_iff {p : Policy} :
    (∃ rule, p.accept = .error (.broken rule)) ↔ ¬ p.Sensible := by
  rw [← accepted_iff_sensible, ← brokenRule?_eq_none_iff, ← ne_eq, Option.ne_none_iff_exists']
  constructor
  · rintro ⟨rule, h⟩
    obtain ⟨broken, hbroken, -⟩ := accept_eq_error_iff.mp h
    exact ⟨broken, hbroken⟩
  · rintro ⟨rule, hbroken⟩
    exact ⟨rule, accept_eq_error_iff.mpr ⟨rule, hbroken, rfl⟩⟩

theorem ofText_eq_ok_iff {text : String} {p : Policy} :
    ofText text = .ok p ↔ Ron.read Policy text = some p ∧ p.Sensible := by
  unfold ofText
  cases Ron.read Policy text with
  | none => simp
  | some q =>
    have hbuild : (Draft.ofPolicy q).build.mapError Refusal.rejectedPolicy = .ok p ↔
        p = q ∧ q.Sensible := by
      rw [Except.mapError_eq_ok, Draft.build_ofPolicy, accept_eq_ok_iff_sensible]
    rw [hbuild, Option.some_inj]
    constructor
    · rintro ⟨rfl, h⟩
      exact ⟨rfl, h⟩
    · rintro ⟨rfl, h⟩
      exact ⟨rfl, h⟩

namespace Draft

/-- What a draft comes to after values were given to it, in any order and any number of times. If
some field has no value then, the first such field is reported. Otherwise there is one policy with
just these values; it is returned exactly if it is sensible, and if it is not, a broken rule is
reported. So a text is accepted exactly if it denotes a sensible policy, which is returned as it
is. -/
theorem build_given (d : Draft) (values : List Assignment) :
    ((∃ field, d.given values field = none) →
      ∃ field, Field.all.find? (fun f => (d.given values f).isNone) = some field ∧
        (values.foldl assign d).build = .error (.unset field)) ∧
    ((∀ field, d.given values field ≠ none) →
      ∃ p : Policy, (∀ q, (∀ field, d.given values field = some (q.value field)) ↔ q = p) ∧
        (∀ q, (values.foldl assign d).build = .ok q ↔ q = p ∧ p.Sensible) ∧
        ((∃ rule, (values.foldl assign d).build = .error (.broken rule)) ↔ ¬ p.Sensible)) ∧
    ∀ text p, ofText text = .ok p ↔ Ron.read Policy text = some p ∧ p.Sensible := by
  have hfirst : (values.foldl assign d).firstUnset? Field.all =
      Field.all.find? fun f => (d.given values f).isNone := by
    simp only [firstUnset?, value?_foldl_assign]
  refine ⟨?_, fun hall => ?_, fun text p => ofText_eq_ok_iff⟩
  · rintro ⟨field, hfield⟩
    have hsome : (Field.all.find? fun f => (d.given values f).isNone).isSome = true :=
      List.find?_isSome.mpr ⟨field, field.mem_all, by rw [hfield]; rfl⟩
    obtain ⟨first, hfound⟩ := Option.isSome_iff_exists.mp hsome
    exact ⟨first, hfound, build_of_firstUnset? (hfirst.trans hfound)⟩
  · have hnone : (values.foldl assign d).firstUnset? Field.all = none := by
      simp [hfirst, hall]
    obtain ⟨p, hp⟩ := exists_eq_ofPolicy hnone
    have hgiven (field : Field) : d.given values field = some (p.value field) := by
      rw [← value?_foldl_assign, hp, value?_ofPolicy]
    refine ⟨p, fun q => ⟨fun hq => ?_, ?_⟩, ?_⟩
    · apply eq_of_value_eq
      intro field
      exact Option.some.inj ((hq field).symm.trans (hgiven field))
    · rintro rfl
      exact hgiven
    · rw [hp, build_ofPolicy]
      exact ⟨fun q => accept_eq_ok_iff_sensible, exists_accept_eq_broken_iff⟩

/-- The text of a policy that is flat up to its depth, with fields and numbers in another spelling
than that in which they are written. -/
def spelled (depth : String) : String :=
  "(" ++ ",".intercalate ["max_depth: " ++ depth, "name: \"flat\"",
    "if_branch_dist: Uniform(1, 3)", "num_clauses_dist: Uniform(1, 3)",
    "num_sections_dist: Uniform(1, 4)", "num_locals_dist: Uniform(1, 4)",
    "for_start_dist: Uniform(1, 9)", "for_span_dist: Uniform(1, 9)",
    "int_literal_dist: Uniform(1, 0x63)", "float_literal_range: (1, 1e2)",
    "negation_prob: .5", "bool_true_prob: .5", "readonly_prob: .5", "type_name_len: 8",
    "variable_name_len: 8", "short_variable_name_len: 4", "method_name_len: 8"] ++ ")"

/-- A depth that is given twice, and two texts that are read: the policy of one is returned, and
that of the other is rejected because of its depth. -/
theorem build_given_spelled :
    ([.maxDepth 9, .maxDepth 0].foldl assign (ofPolicy flat)).build = .ok flat ∧
      ofText (spelled "0") = .ok flat ∧
      Ron.read Policy (spelled "9") = some { flat with maxDepth := 9 } ∧
      ∀ p, ofText (spelled "9") ≠ .ok p := by
  have hread : ∀ depth ∈ [("0", (0 : Int32)), ("9", 9)],
      Ron.read Policy (spelled depth.1) = some { flat with maxDepth := depth.2 } := by
    intro depth hdepth
    -- The text is taken apart first, since short pieces are evaluated much faster.
    rw [Ron.read, Ron.parse, spelled, String.toList_append, String.toList_append,
      String.toList_intercalate]
    revert depth
    decide +kernel
  have hshallow : Ron.read Policy (spelled "0") = some flat := hread ("0", 0) (by decide)
  have hdeep : Ron.read Policy (spelled "9") = some { flat with maxDepth := 9 } :=
    hread ("9", 9) (by decide)
  have hflat : flat.Sensible := accepted_iff_sensible.mp (accepted_of_mem_named (by decide +kernel))
  have hgiven : ∀ field, (ofPolicy flat).given [.maxDepth 9, .maxDepth 0] field =
      some (flat.value field) := by
    intro field
    cases field <;> rfl
  obtain ⟨-, hcomplete, htext⟩ := build_given (ofPolicy flat) [.maxDepth 9, .maxDepth 0]
  obtain ⟨p, hp, hbuild, -⟩ := hcomplete fun field => by simp [hgiven]
  obtain rfl : flat = p := (hp flat).mp hgiven
  refine ⟨(hbuild flat).mpr ⟨rfl, hflat⟩, (htext _ _).mpr ⟨hshallow, hflat⟩, hdeep, ?_⟩
  intro q hq
  obtain ⟨hsame, hsensible⟩ := (htext _ _).mp hq
  rw [hdeep, Option.some_inj] at hsame
  subst hsame
  exact absurd hsensible.maxDepth (by decide)

/-- The depth is not looked at as long as the name is missing. -/
example : ([.maxDepth 9].foldl assign empty).build = .error (.unset .name) := rfl

end Draft

end Policy

end ClassMill
