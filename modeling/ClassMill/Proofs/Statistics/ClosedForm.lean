import ClassMill.Proofs.Statistics.CounterSum
import ClassMill.Proofs.Statistics.Recount

/-!
# The totals of a batch in closed form

Adding classes to the totals one after another gives sums, extremes and sums of counters, as long
as these totals fit into 64 bits, and it faults as soon as they do not. Sums only grow, so where
a fault occurs depends on the order of the classes but whether one occurs does not.
-/

namespace ClassMill

namespace BatchStatistics

/-- The totals over classes: sums, extremes that are absent if there is no class, and the sums of
the counters. -/
def totals (list : List ClassStatistics) : BatchStatistics where
  classes := list.length
  properties := (list.map (·.properties)).sum
  methods := (list.map (·.methods)).sum
  sections := (list.map (·.sections.total)).sum
  minMethods := (list.map (·.methods)).min?
  maxMethods := (list.map (·.methods)).max?
  minProperties := (list.map (·.properties)).min?
  maxProperties := (list.map (·.properties)).max?
  maxDepth := (list.map (·.maxDepth)).max?.getD 0
  sectionKinds := .sum (list.map (·.sections))
  propertyTypes := .sum (list.map (·.propertyTypes))

/-- Everything that is summed up fits into 64 bits. The numbers of sections by kind are not
listed, since none of them exceeds the number of all sections. -/
structure Fits (b : BatchStatistics) : Prop where
  classes : b.classes < UInt64.size
  properties : b.properties < UInt64.size
  methods : b.methods < UInt64.size
  sections : b.sections < UInt64.size
  propertyTypes : b.propertyTypes.Fits

/-! ## Extremes -/

theorem min?_concat (values : List Nat) (n : Nat) :
    (values ++ [n]).min? = extreme min values.min? n := by
  cases values with
  | nil => rfl
  | cons m values => simp [List.min?, extreme, List.foldl_append]

theorem max?_concat (values : List Nat) (n : Nat) :
    (values ++ [n]).max? = extreme max values.max? n := by
  cases values with
  | nil => rfl
  | cons m values => simp [List.max?, extreme, List.foldl_append]

theorem min?_perm {values other : List Nat} (h : values.Perm other) : values.min? = other.min? := by
  refine Option.ext fun n => ?_
  simp only [List.min?_eq_some_iff, h.mem_iff]

theorem max?_perm {values other : List Nat} (h : values.Perm other) : values.max? = other.max? := by
  refine Option.ext fun n => ?_
  simp only [List.max?_eq_some_iff, h.mem_iff]

theorem totals_nil : totals [] = zero := by
  simp [totals, zero, Counter.sum_nil]

/-- The totals do not depend on the order of the classes. -/
theorem totals_perm {list other : List ClassStatistics} (h : list.Perm other) :
    totals list = totals other := by
  simp only [totals, h.length_eq, (h.map _).sum_nat, min?_perm (h.map _), max?_perm (h.map _),
    Counter.sum_perm (h.map _)]

/-- The sections counted by kind are all sections. -/
theorem total_sectionKinds (list : List ClassStatistics) :
    (totals list).sectionKinds.total = (totals list).sections := by
  rw [totals, Counter.total_sum, List.map_map]
  rfl

/-! ## One class after the other -/

/-- The totals with one more class, without regard to their size. -/
def plus (b : BatchStatistics) (s : ClassStatistics) : BatchStatistics where
  classes := b.classes + 1
  properties := b.properties + s.properties
  methods := b.methods + s.methods
  sections := b.sections + s.sections.total
  minMethods := extreme min b.minMethods s.methods
  maxMethods := extreme max b.maxMethods s.methods
  minProperties := extreme min b.minProperties s.properties
  maxProperties := extreme max b.maxProperties s.properties
  maxDepth := max b.maxDepth s.maxDepth
  sectionKinds := b.sectionKinds.plus s.sections
  propertyTypes := b.propertyTypes.plus s.propertyTypes

theorem getD_extreme_max (known : Option Nat) (n : Nat) :
    (extreme max known n).getD 0 = max (known.getD 0) n := by
  cases known <;> simp [extreme]

theorem totals_concat (seen : List ClassStatistics) (s : ClassStatistics) :
    totals (seen ++ [s]) = (totals seen).plus s := by
  simp only [totals, plus, List.map_append, List.map_singleton, List.length_append,
    List.length_singleton, List.sum_append, List.sum_singleton, min?_concat, max?_concat,
    getD_extreme_max, Counter.sum_concat]

/-- Totals that fit did so before the last class was added. -/
theorem Fits.of_plus {b : BatchStatistics} {s : ClassStatistics} (h : (b.plus s).Fits) :
    b.Fits where
  classes := Nat.lt_of_le_of_lt (Nat.le_add_right _ _) h.classes
  properties := Nat.lt_of_le_of_lt (Nat.le_add_right _ _) h.properties
  methods := Nat.lt_of_le_of_lt (Nat.le_add_right _ _) h.methods
  sections := Nat.lt_of_le_of_lt (Nat.le_add_right _ _) h.sections
  propertyTypes t := by
    have ht := h.propertyTypes t
    rw [plus, Counter.getD_plus] at ht
    omega

theorem Fits.of_append {seen more : List ClassStatistics} (h : (totals (seen ++ more)).Fits) :
    (totals seen).Fits := by
  induction more using List.reverseRecOn with
  | nil => rwa [List.append_nil] at h
  | append_singleton more s ih =>
    rw [← List.append_assoc, totals_concat] at h
    exact ih h.of_plus

/-- If the sections counted by kind are all sections, none of their numbers is too large. -/
theorem Fits.sectionKinds {b : BatchStatistics} (h : b.Fits)
    (hkinds : b.sectionKinds.total = b.sections) : b.sectionKinds.Fits := by
  intro k
  have hk := b.sectionKinds.getD_le_total k
  rw [hkinds] at hk
  exact Nat.lt_of_le_of_lt hk h.sections

/-- A class is added exactly if the totals with it fit. -/
theorem add_eq_ok_iff {b sum : BatchStatistics} {s : ClassStatistics} (hb : b.Fits)
    (hkinds : b.sectionKinds.total = b.sections) :
    b.add s = .ok sum ↔ (b.plus s).Fits ∧ sum = b.plus s := by
  simp only [add, Except.bind_eq_ok, checkedSum_eq_ok_iff, ClassStatistics.totalSections,
    Counter.add_eq_ok_iff (hb.sectionKinds hkinds), Counter.add_eq_ok_iff hb.propertyTypes]
  constructor
  · rintro ⟨classes, ⟨hclasses, rfl⟩, properties, ⟨hproperties, rfl⟩, methods, ⟨hmethods, rfl⟩,
      ofClass, ⟨-, rfl⟩, sections, ⟨hsections, rfl⟩, sectionKinds, ⟨-, rfl⟩, propertyTypes,
      ⟨hpropertyTypes, rfl⟩, hsum⟩
    rw [Nat.zero_add] at hsections hsum
    cases hsum
    exact ⟨⟨hclasses, hproperties, hmethods, hsections, hpropertyTypes⟩, rfl⟩
  · rintro ⟨hfits, rfl⟩
    have hclass : 0 + s.sections.total < UInt64.size := by
      rw [Nat.zero_add]
      exact Nat.lt_of_le_of_lt (Nat.le_add_left _ _) hfits.sections
    have hplus : (b.plus s).sectionKinds.total = (b.plus s).sections := by
      simp only [plus, Counter.total_plus, hkinds]
    refine ⟨_, ⟨hfits.classes, rfl⟩, _, ⟨hfits.properties, rfl⟩, _, ⟨hfits.methods, rfl⟩, _,
      ⟨hclass, rfl⟩, _, ⟨?_, rfl⟩, _, ⟨hfits.sectionKinds hplus, rfl⟩, _,
      ⟨hfits.propertyTypes, rfl⟩, ?_⟩
    · rw [Nat.zero_add]
      exact hfits.sections
    · rw [Nat.zero_add]
      rfl

/-- Adding a class fails only if a sum leaves 64 bits. -/
theorem eq_addOverflow_of_add {b : BatchStatistics} {s : ClassStatistics} {reason : Fault}
    (h : b.add s = .error reason) : reason = .addOverflow := by
  simp only [add, Except.bind_eq_error] at h
  obtain h | ⟨classes, -, h⟩ := h
  · exact eq_addOverflow_of_checkedSum h
  obtain h | ⟨properties, -, h⟩ := h
  · exact eq_addOverflow_of_checkedSum h
  obtain h | ⟨methods, -, h⟩ := h
  · exact eq_addOverflow_of_checkedSum h
  obtain h | ⟨ofClass, -, h⟩ := h
  · exact eq_addOverflow_of_checkedSum h
  obtain h | ⟨sections, -, h⟩ := h
  · exact eq_addOverflow_of_checkedSum h
  obtain h | ⟨sectionKinds, -, h⟩ := h
  · exact Counter.eq_addOverflow_of_addList h
  obtain h | ⟨propertyTypes, -, h⟩ := h
  · exact Counter.eq_addOverflow_of_addList h
  · cases h

/-- After the classes seen so far, adding more succeeds exactly if the totals over all fit. -/
theorem addAll_eq_ok_iff {seen more : List ClassStatistics} {sum : BatchStatistics}
    (hseen : (totals seen).Fits) :
    (totals seen).addAll more = .ok sum ↔
      (totals (seen ++ more)).Fits ∧ sum = totals (seen ++ more) := by
  induction more generalizing seen with
  | nil => simp [addAll, hseen, eq_comm]
  | cons s more ih =>
    simp only [addAll_cons_eq_ok_iff, add_eq_ok_iff hseen (total_sectionKinds seen),
      ← totals_concat]
    have hall : seen ++ s :: more = seen ++ [s] ++ more := List.append_cons _ _ _
    rw [hall]
    constructor
    · rintro ⟨mid, ⟨hmid, rfl⟩, hrest⟩
      exact (ih hmid).mp hrest
    · intro h
      exact ⟨_, ⟨h.1.of_append, rfl⟩, (ih h.1.of_append).mpr h⟩

theorem eq_addOverflow_of_addAll {b : BatchStatistics} {list : List ClassStatistics}
    {reason : Fault} (h : b.addAll list = .error reason) : reason = .addOverflow := by
  induction list generalizing b with
  | nil => cases h
  | cons s list ih =>
    obtain hadd | ⟨mid, -, hrest⟩ := Except.bind_eq_error.mp h
    · exact eq_addOverflow_of_add hadd
    · exact ih hrest

theorem fits_zero : zero.Fits :=
  ⟨by decide, by decide, by decide, by decide, fun t => by simp [zero, Counter.getD_eq]⟩

theorem addAll_zero_eq_ok_iff {list : List ClassStatistics} {sum : BatchStatistics} :
    zero.addAll list = .ok sum ↔ (totals list).Fits ∧ sum = totals list := by
  have hzero : (totals []).Fits := by
    rw [totals_nil]
    exact fits_zero
  have hall : (totals []).addAll list = .ok sum ↔ _ := addAll_eq_ok_iff hzero
  rwa [totals_nil, List.nil_append] at hall

theorem addAll_zero_eq_error_iff {list : List ClassStatistics} {reason : Fault} :
    zero.addAll list = .error reason ↔ ¬ (totals list).Fits ∧ reason = .addOverflow := by
  cases h : zero.addAll list with
  | ok sum => simp [(addAll_zero_eq_ok_iff.mp h).1]
  | error other =>
    have hfits : ¬ (totals list).Fits := fun hfits => by
      rw [addAll_zero_eq_ok_iff.mpr ⟨hfits, rfl⟩] at h
      cases h
    rw [eq_addOverflow_of_addAll h, Except.error.injEq]
    simp [hfits, eq_comm]

/-- Neither the totals nor a fault depend on the order of the classes. -/
theorem addAll_zero_perm {list other : List ClassStatistics} (h : list.Perm other) :
    zero.addAll other = zero.addAll list := by
  cases hlist : zero.addAll list with
  | ok sum =>
    rw [addAll_zero_eq_ok_iff, totals_perm h] at hlist
    exact addAll_zero_eq_ok_iff.mpr hlist
  | error reason =>
    rw [addAll_zero_eq_error_iff, totals_perm h] at hlist
    exact addAll_zero_eq_error_iff.mpr hlist

/-- The properties of a surveyed class are those counted by type. -/
theorem total_propertyTypes_statistics (c : ClassDecl) :
    c.statistics.propertyTypes.total = c.statistics.properties := by
  rw [ClassDecl.statistics_eq, Counter.total_bumpAll, Counter.total_empty, List.length_map,
    Nat.zero_add]

/-- If all classes were surveyed, the properties counted by type are all properties. -/
theorem total_propertyTypes {list : List ClassStatistics}
    (h : ∀ s ∈ list, ∃ c : ClassDecl, s = c.statistics) :
    (totals list).propertyTypes.total = (totals list).properties := by
  rw [totals, Counter.total_sum, List.map_map]
  congr 1
  refine List.map_congr_left fun s hs => ?_
  obtain ⟨c, rfl⟩ := h s hs
  exact total_propertyTypes_statistics c

/-- Classes added to the totals one after another end in a fault exactly if one of the sums
leaves 64 bits, and the fault is that of an addition; otherwise they give the sums, the extremes
and the sums of the counters. The sections counted by kind are all sections, the order of the
classes does not matter, and for classes that were surveyed the properties counted by type are all
properties. -/
theorem addAll_zero (list : List ClassStatistics) :
    (∀ reason, zero.addAll list = .error reason ↔
      ¬ (totals list).Fits ∧ reason = .addOverflow) ∧
    ((totals list).Fits → zero.addAll list = .ok (totals list)) ∧
    (totals list).sectionKinds.total = (totals list).sections ∧
    (∀ other, list.Perm other → zero.addAll other = zero.addAll list) ∧
    ((∀ s ∈ list, ∃ c : ClassDecl, s = c.statistics) →
      (totals list).propertyTypes.total = (totals list).properties) := by
  refine ⟨fun reason => addAll_zero_eq_error_iff, fun hfits => ?_, total_sectionKinds list,
    fun other h => addAll_zero_perm h, total_propertyTypes⟩
  exact addAll_zero_eq_ok_iff.mpr ⟨hfits, rfl⟩

/-- A class without methods. -/
def record : ClassDecl := { ClassDecl.twoShapes with methods := [] }

/-- The statistics of a class with methods and of one without. -/
def shapes : List ClassStatistics := [ClassDecl.twoShapes.statistics, record.statistics]

theorem addAll_zero_shapes :
    (totals shapes).Fits ∧ zero.addAll shapes.reverse = .ok (totals shapes) ∧
      (totals shapes).minMethods = some 0 ∧ (totals shapes).sectionKinds.total = 6 ∧
      (totals shapes).propertyTypes.total = 4 := by
  have hfits : (totals shapes).Fits :=
    ⟨by decide, by decide, by decide, by decide, fun t => by cases t <;> decide⟩
  have hcollected : ∀ s ∈ shapes, ∃ c : ClassDecl, s = c.statistics := by
    simp only [shapes, List.mem_cons, List.not_mem_nil, or_false]
    rintro s (rfl | rfl)
    · exact ⟨_, rfl⟩
    · exact ⟨_, rfl⟩
  obtain ⟨-, hsum, hkinds, hperm, htypes⟩ := addAll_zero shapes
  refine ⟨hfits, ?_, by decide, ?_, ?_⟩
  · rw [hperm _ (List.reverse_perm shapes).symm, hsum hfits]
  · rw [hkinds]
    decide
  · rw [htypes hcollected]
    decide

end BatchStatistics

end ClassMill
