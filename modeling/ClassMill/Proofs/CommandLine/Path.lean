import ClassMill.CommandLine.Path
import ClassMill.Proofs.Tree.Regular

/-!
# Paths to the entries of a directory

A relative path that is joined to the path of a directory adds its steps at the end, however the
paths are spelt, and changes nothing about where the path starts. An ordinary name is one part of a
path and adds a step of its own.
-/

namespace ClassMill.CommandLine.Path

/-- A name that is one part of a path and no part of one or two dots. -/
structure IsOrdinary (name : String) : Prop where
  ne_empty : name ≠ ""
  no_slash : '/' ∉ name.toList
  ne_dot : name ≠ "."
  ne_dots : name ≠ ".."

instance (name : String) : Decidable (IsOrdinary name) :=
  decidable_of_iff (name ≠ "" ∧ '/' ∉ name.toList ∧ name ≠ "." ∧ name ≠ "..")
    ⟨fun ⟨hne, hslash, hdot, hdots⟩ => ⟨hne, hslash, hdot, hdots⟩,
      fun h => ⟨h.ne_empty, h.no_slash, h.ne_dot, h.ne_dots⟩⟩

/-! ## Parts -/

theorem parts_ne_nil (text : List Char) : parts text ≠ [] := by
  cases text with
  | nil => simp [parts]
  | cons c text =>
    rw [parts]
    split
    · simp
    · split <;> simp

/-- A slash separates the parts before it from the parts after it. -/
theorem parts_append_slash (text more : List Char) :
    parts (text ++ '/' :: more) = parts text ++ parts more := by
  induction text with
  | nil => simp [parts]
  | cons c text ih =>
    rw [List.cons_append, parts, parts, ih]
    by_cases hc : c = '/'
    · rw [if_pos hc, if_pos hc, List.cons_append]
    · obtain ⟨part, rest, hparts⟩ := List.exists_cons_of_ne_nil (parts_ne_nil text)
      rw [if_neg hc, if_neg hc, hparts]
      rfl

theorem parts_of_not_mem {text : List Char} (h : '/' ∉ text) : parts text = [text] := by
  induction text with
  | nil => rfl
  | cons c text ih =>
    obtain ⟨hc, htext⟩ := List.ne_and_not_mem_of_not_mem_cons h
    rw [parts, if_neg (Ne.symm hc), ih htext]

/-! ## Steps -/

theorem ofPart_of_isOrdinary {name : String} (h : IsOrdinary name) :
    Step.ofPart name.toList = some (.name name) := by
  unfold Step.ofPart
  split
  · next hlist => exact absurd (String.toList_eq_nil_iff.mp hlist) h.ne_empty
  · next hlist => exact absurd (String.toList_injective hlist) h.ne_dot
  · next hlist => exact absurd (String.toList_injective hlist) h.ne_dots
  · rw [String.ofList_toList]

theorem isAbsolute_eq_false {name : String} (h : IsOrdinary name) : isAbsolute name = false := by
  unfold isAbsolute
  rw [decide_eq_false_iff_not]
  intro hhead
  exact h.no_slash (List.mem_of_head? hhead)

/-- Joining a relative path puts it after the other one and, where it is needed, a slash. -/
theorem toList_join (base : String) {path : String} (h : isAbsolute path = false) :
    (join base path).toList = path.toList ∧ base = "" ∨
      ∃ front, (join base path).toList = front ++ '/' :: path.toList ∧
        (base.toList = front ++ ['/'] ∨ base.toList = front ∧ front ≠ []) := by
  unfold join
  rw [h, if_neg Bool.false_ne_true]
  by_cases hempty : base = ""
  · left
    subst hempty
    simp
  · right
    by_cases hend : endsInSlash base = true
    · obtain ⟨front, hfront⟩ := List.getLast?_eq_some_iff.mp (of_decide_eq_true hend)
      refine ⟨front, ?_, .inl hfront⟩
      simp [hend, hfront]
    · refine ⟨base.toList, ?_, .inr ⟨rfl, by simpa using hempty⟩⟩
      simp [hempty, hend]

/-- Joining a relative path adds its steps. -/
theorem steps_join_of_relative (base : String) {path : String} (h : isAbsolute path = false) :
    steps (join base path) = steps base ++ steps path := by
  unfold steps
  rcases toList_join base h with ⟨hjoin, rfl⟩ | ⟨front, hjoin, hbase⟩
  · rw [hjoin]
    rfl
  · have hfront : (parts base.toList).filterMap Step.ofPart =
        (parts front).filterMap Step.ofPart := by
      rcases hbase with hbase | ⟨hbase, -⟩
      · have hempty : (parts []).filterMap Step.ofPart = [] := rfl
        rw [hbase, parts_append_slash, List.filterMap_append, hempty, List.append_nil]
      · rw [hbase]
    rw [hjoin, parts_append_slash, List.filterMap_append, hfront]

theorem moves_join_of_relative (base : String) {path : String} (h : isAbsolute path = false) :
    moves (join base path) = moves base ++ moves path := by
  rw [moves, steps_join_of_relative base h, List.filter_append, moves, moves]

theorem isAbsolute_join_of_relative (base : String) {path : String}
    (h : isAbsolute path = false) : isAbsolute (join base path) = isAbsolute base := by
  rcases toList_join base h with ⟨hjoin, rfl⟩ | ⟨front, hjoin, hbase⟩
  · unfold isAbsolute at h ⊢
    rw [hjoin, h]
    rfl
  · unfold isAbsolute
    rw [hjoin]
    rcases hbase with hbase | ⟨hbase, hne⟩
    · rw [hbase]
      cases front <;> rfl
    · obtain ⟨c, front, rfl⟩ := List.exists_cons_of_ne_nil hne
      rw [hbase]
      rfl

/-- Joining an ordinary name to a path adds a step. -/
theorem steps_join (base : String) {name : String} (h : IsOrdinary name) :
    steps (join base name) = steps base ++ [.name name] := by
  have hname : steps name = [.name name] := by
    simp [steps, parts_of_not_mem h.no_slash, ofPart_of_isOrdinary h]
  rw [steps_join_of_relative base (isAbsolute_eq_false h), hname]

theorem endsInSlash_join (base : String) {name : String} (h : IsOrdinary name) :
    endsInSlash (join base name) = false := by
  have hne : name.toList ≠ [] := by simpa using h.ne_empty
  have hname : name.toList.getLast? ≠ some '/' := fun hlast =>
    h.no_slash (List.mem_of_getLast? hlast)
  unfold endsInSlash
  rw [decide_eq_false_iff_not]
  rcases toList_join base (isAbsolute_eq_false h) with ⟨hjoin, -⟩ | ⟨front, hjoin, -⟩
  · rwa [hjoin]
  · obtain ⟨c, letters, hlist⟩ := List.exists_cons_of_ne_nil hne
    rw [hlist] at hname hjoin
    rw [hjoin]
    simpa using hname

/-- A path that ends in an ordinary name may be that of a file. -/
theorem fileSteps_join (base : String) {name : String} (h : IsOrdinary name) :
    fileSteps (join base name) = steps base ++ [.name name] := by
  rw [fileSteps, endsInSlash_join base h, if_neg Bool.false_ne_true, steps_join base h]

theorem moves_join (base : String) {name : String} (h : IsOrdinary name) :
    moves (join base name) = moves base ++ [.name name] := by
  rw [moves, steps_join base h, List.filter_append]
  rfl

/-! ## File names of classes -/

/-- A word with an ending is an ordinary name. -/
theorem isOrdinary_fileName {name : String} (h : Name.IsWord name) :
    IsOrdinary (name ++ ".gs") := by
  obtain ⟨hne, hletters⟩ := h
  have hlist : (name ++ ".gs").toList = name.toList ++ ['.', 'g', 's'] := by
    rw [String.toList_append]
    rfl
  have hlong : ∀ short : String, short.toList.length ≤ 3 → name ++ ".gs" ≠ short := by
    rintro short hshort rfl
    have hletter : name.toList ≠ [] := by simpa using hne
    have hpos := List.length_pos_iff.mpr hletter
    rw [hlist, List.length_append, List.length_cons, List.length_cons, List.length_cons] at hshort
    omega
  have hslash : '/' ∉ name.toList ++ ['.', 'g', 's'] := by
    rw [List.mem_append, not_or]
    constructor
    · intro hmem
      exact absurd (hletters '/' hmem) (by decide)
    · decide
  constructor
  · exact hlong "" (by decide)
  · rwa [hlist]
  · exact hlong "." (by decide)
  · exact hlong ".." (by decide)

end ClassMill.CommandLine.Path
