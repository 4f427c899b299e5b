import ClassMill.Proofs.CommandLine.Disk

/-!
# Vacant output directories

Nothing lies below a vacant place, and no directory below it is made on the way to it. A place
with nothing below it is vacant if its path can be followed.
-/

namespace ClassMill.CommandLine.Disk

open ClassMill.CommandLine.Path

/-- Nothing lies below the place to which a path leads, and the path does not lead there through
a place below it. -/
structure Vacant (d : Disk) (path : String) : Prop where
  empty : ∀ name l, d.find? (d.place path ++ name :: l) = none
  direct : ∀ before, before <+: moves path → ∀ name l,
    walk (d.start path) before ≠ d.place path ++ name :: l

/-! ## Vacant places -/

/-- Nothing lies below a place that holds nothing. -/
theorem find?_below_eq_none {d : Disk} {place : Location} (h : d.find? place = none)
    (name : String) (l : Location) : d.find? (place ++ name :: l) = none := by
  by_contra hsome
  have hdirectory : d.find? place = some .directory :=
    FileTree.find?_eq_directory (List.cons_ne_nil name l) hsome
  rw [h] at hdirectory
  cases hdirectory

/-- A path that can be followed passes directories until it is where it leads. -/
theorem find?_walk_of_follow {d : Disk} {l target : Location} {steps : List Step}
    (h : d.follow l steps = .ok target) :
    walk l steps = target ∧ ∀ before, before <+: steps.filter (· ≠ .here) →
      walk l before = target ∨ d.find? (walk l before) = some .directory := by
  induction steps generalizing l with
  | nil =>
    cases h
    refine ⟨rfl, ?_⟩
    intro before hbefore
    rw [List.prefix_nil.mp hbefore]
    exact .inl rfl
  | cons step rest ih =>
    obtain ⟨hdirectory, next, hnext, hrest⟩ := follow_cons h
    obtain ⟨hwalk, hpassed⟩ := ih hrest
    refine ⟨by rw [walk_of_advance hnext, hwalk], ?_⟩
    intro before hbefore
    by_cases hhere : step = .here
    · subst hhere
      cases hnext
      exact hpassed before (by simpa using hbefore)
    · rw [List.filter_cons_of_pos (by simpa using hhere)] at hbefore
      cases before with
      | nil => exact .inr hdirectory
      | cons move before =>
        obtain ⟨rfl, hmore⟩ := List.cons_prefix_cons.mp hbefore
        rw [walk_of_advance hnext]
        exact hpassed before hmore

/-- A path that can be followed is vacant if nothing lies below the place it leads to. -/
theorem vacant_of_follow {d : Disk} {path : String} {place : Location}
    (h : d.follow (d.start path) (steps path) = .ok place)
    (hempty : ∀ name l, d.find? (place ++ name :: l) = none) : d.Vacant path := by
  obtain ⟨hwalk, hpassed⟩ := find?_walk_of_follow h
  have hplace : d.place path = place := by rw [Disk.place, walk_moves, hwalk]
  rw [← hplace] at hempty hpassed
  refine ⟨hempty, ?_⟩
  intro before hbefore name l heq
  rcases hpassed before hbefore with hlast | hdirectory
  · rw [hlast] at heq
    simp at heq
  · rw [heq, hempty] at hdirectory
    cases hdirectory

theorem walk_append (l : Location) (steps more : List Step) :
    walk l (steps ++ more) = walk (walk l steps) more := by
  induction steps generalizing l with
  | nil => rfl
  | cons step rest ih => cases step <;> exact ih _

/-! ## Making directories -/

/-- Paths start at a directory if the current directory is there. -/
theorem find?_start {d : Disk} (h : d.find? d.current = some .directory) (path : String) :
    d.find? (d.start path) = some .directory := by
  unfold start
  split
  · by_cases hcurrent : d.current = []
    · rwa [hcurrent] at h
    · apply FileTree.find?_eq_directory hcurrent
      change d.find? d.current ≠ none
      rw [h]
      exact Option.some_ne_none _
  · exact h

/-- Making the directory of an ordinary name in a vacant place leaves the two directories and
nothing else there. -/
theorem find?_of_makeDirectories {d d' : Disk} {path name : String} (hname : IsOrdinary name)
    (hcurrent : d.find? d.current = some .directory) (hvacant : d.Vacant path)
    (h : d.makeDirectories (join path name) = (d', true)) :
    Keeps d d' ∧ d'.follow (d.start path) (steps path) = .ok (d.place path) ∧
      ∀ l, d'.find? (d.place path ++ l) =
        if l = [] ∨ l = [name] then some .directory else none := by
  obtain ⟨hkeeps, hfollow, hplace, hmade, hother⟩ :=
    makeDirectories_join hname (find?_start hcurrent path) h
  refine ⟨hkeeps, hfollow, ?_⟩
  intro l
  cases l with
  | nil => simpa using hplace
  | cons first l =>
    by_cases hl : first :: l = [name]
    · rw [hl, hmade, if_pos (.inr rfl)]
    · have hne : d.place path ++ first :: l ≠ d.place path ++ [name] := by simpa using hl
      rw [hother _ hne fun before hbefore => hvacant.direct before hbefore first l,
        hvacant.empty first l]
      simp [hl]

end ClassMill.CommandLine.Disk
