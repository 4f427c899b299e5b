import ClassMill.Proofs.CommandLine.Vacant

/-!
# Changes to a disk

Two disks are compared by the places where they hold different entries. Making a directory changes
missing places on the way to it only, whether or not it succeeds, and writing a file changes the
place of the file only.
-/

namespace ClassMill.CommandLine

open ClassMill.CommandLine.Path

namespace Disk

/-- The only changes between two disks are at places where something may be written, and at
missing places on the way that are directories now. All directories stay. -/
structure ModifiesOnly (way written : Location → Prop) (d d' : Disk) : Prop where
  keeps : Keeps d d'
  changed : ∀ l, d'.find? l ≠ d.find? l →
    written l ∨ way l ∧ d.find? l = none ∧ d'.find? l = some .directory

namespace ModifiesOnly

variable {way written : Location → Prop} {d d' d'' : Disk}

theorem refl (d : Disk) : ModifiesOnly way written d d :=
  ⟨.refl d, fun _ hne => absurd rfl hne⟩

theorem trans (h : ModifiesOnly way written d d') (h' : ModifiesOnly way written d' d'') :
    ModifiesOnly way written d d'' where
  keeps := h.keeps.trans h'.keeps
  changed l hne := by
    by_cases hfirst : d'.find? l = d.find? l
    · rw [← hfirst] at hne ⊢
      exact h'.changed l hne
    · rcases h.changed l hfirst with hwritten | ⟨hway, hnone, hdirectory⟩
      · exact .inl hwritten
      · exact .inr ⟨hway, hnone, h'.keeps.directory l hdirectory⟩

theorem mono {way' written' : Location → Prop} (h : ModifiesOnly way written d d')
    (hway : ∀ l, way l → way' l) (hwritten : ∀ l, written l → written' l) :
    ModifiesOnly way' written' d d' where
  keeps := h.keeps
  changed l hne := (h.changed l hne).imp (hwritten l) (.imp_left (hway l))

end ModifiesOnly

end Disk

/-! ## Directories -/

/-- An entry that is put in place of none or of a file leaves all directories alone, also where
it is put below places that are missing. -/
theorem FileTree.find?_put_of_directory {e : Entry} {t : FileTree} {l l' : Location}
    (hold : t.find? l ≠ some .directory) (h : t.find? l' = some .directory) :
    (t.put e l).find? l' = some .directory := by
  induction l generalizing t l' with
  | nil =>
    cases t with
    | directory children => exact absurd rfl hold
    | file text => cases l' <;> simp [find?, at?, entry, child?] at h
  | cons name l ih =>
    cases t with
    | file text => exact h
    | directory children =>
      cases l' with
      | nil => rfl
      | cons n r =>
        rw [find?_cons] at hold h
        rw [put, find?_cons, child?_setChild]
        by_cases hn : n = name
        · subst hn
          obtain ⟨u, hu, hr⟩ := Option.bind_eq_some_iff.mp h
          rw [hu] at hold
          rw [if_pos rfl, hu]
          exact ih hold hr
        · rw [if_neg hn]
          exact h

/-- Putting a directory into the tree that holds nothing makes the directories above it. -/
theorem FileTree.find?_put_empty (l l' : Location) :
    (empty.put .directory l).find? l' = if l' <+: l then some .directory else none := by
  induction l generalizing l' with
  | nil => cases l' <;> simp [put, find?_ofEntry]
  | cons name l ih =>
    cases l' with
    | nil => rfl
    | cons n r =>
      have hchild : ((empty.put .directory (name :: l)).child? n) =
          if n = name then some (empty.put .directory l) else none :=
        child?_setChild [] name n (empty.put .directory l)
      rw [find?_cons, hchild]
      by_cases hn : n = name
      · simp [hn, ih, List.cons_prefix_cons]
      · simp [hn, List.cons_prefix_cons]

/-- Putting a directory at a missing place makes it and the missing directories above it. -/
theorem FileTree.find?_put_of_missing {t : FileTree} {l l' : Location} (h : t.find? l = none)
    (hne : (t.put .directory l).find? l' ≠ t.find? l') :
    l' <+: l ∧ t.find? l' = none ∧ (t.put .directory l).find? l' = some .directory := by
  induction l generalizing t l' with
  | nil => cases t <;> cases h
  | cons name l ih =>
    cases t with
    | file text => exact absurd rfl hne
    | directory children =>
      cases l' with
      | nil => exact absurd rfl hne
      | cons n r =>
        rw [put, find?_cons, find?_cons, child?_setChild] at hne ⊢
        by_cases hn : n = name
        · subst hn
          rw [find?_cons] at h
          rw [if_pos rfl, Option.bind_some] at hne ⊢
          rw [List.cons_prefix_cons]
          cases hchild : (directory children).child? n with
          | none =>
            rw [hchild, Option.getD_none, Option.bind_none, find?_put_empty] at hne
            rw [Option.getD_none, Option.bind_none, find?_put_empty]
            split at hne
            · next habove => exact ⟨⟨rfl, habove⟩, rfl, if_pos habove⟩
            · exact absurd rfl hne
          | some u =>
            rw [hchild] at h hne
            obtain ⟨habove, hnone, hmade⟩ := ih h hne
            exact ⟨⟨rfl, habove⟩, hnone, hmade⟩
        · exact absurd (by rw [if_neg hn]) hne

namespace Disk

variable {written : Location → Prop}

theorem keeps_put {d : Disk} {l : Location} (e : Entry) (hold : d.find? l ≠ some .directory) :
    Keeps d (d.put l e) :=
  ⟨rfl, fun _ h => FileTree.find?_put_of_directory hold h⟩

theorem keeps_ensureDirectory (d : Disk) (l : Location) : Keeps d (d.ensureDirectory l).1 := by
  unfold ensureDirectory
  split
  · next hnone => exact keeps_put .directory (by simp [hnone])
  · exact .refl d

theorem modifiesOnly_ensureDirectory (d : Disk) (l : Location) :
    ModifiesOnly (· <+: l) written d (d.ensureDirectory l).1 where
  keeps := d.keeps_ensureDirectory l
  changed l' hne := by
    unfold ensureDirectory at hne ⊢
    split at hne
    · next hnone => exact .inr (FileTree.find?_put_of_missing hnone hne)
    · exact absurd rfl hne

/-- Making directories along moves changes missing places on the way only, also where it fails
midway. -/
theorem modifiesOnly_makeAlong (d : Disk) (l : Location) (moves : List Step) :
    ModifiesOnly (fun place => ∃ before, before <+: moves ∧ place <+: walk l before) written d
      (d.makeAlong l moves).1 := by
  induction moves generalizing d l with
  | nil => exact .refl d
  | cons move rest ih =>
    rw [makeAlong]
    split
    · exact .refl d
    · next next hnext =>
      have hfirst : ModifiesOnly
          (fun place => ∃ before, before <+: move :: rest ∧ place <+: walk l before) written d
          (d.ensureDirectory next).1 := by
        refine (d.modifiesOnly_ensureDirectory next).mono ?_ fun _ => id
        intro place hplace
        refine ⟨[move], List.cons_prefix_cons.mpr ⟨rfl, List.nil_prefix⟩, ?_⟩
        rwa [walk_of_advance hnext]
      split
      · next mid heq =>
        rw [heq] at hfirst
        refine hfirst.trans ((ih mid next).mono ?_ fun _ => id)
        rintro place ⟨before, hbefore, hplace⟩
        refine ⟨move :: before, List.cons_prefix_cons.mpr ⟨rfl, hbefore⟩, ?_⟩
        rwa [walk_of_advance hnext]
      · next mid heq =>
        rw [heq] at hfirst
        exact hfirst

/-- A location is at or above a place that a path leads through. -/
def OnWay (d : Disk) (path : String) (l : Location) : Prop :=
  ∃ before, before <+: moves path ∧ l <+: walk (d.start path) before

theorem Keeps.onWay_iff {d d' : Disk} (h : d.Keeps d') {path : String} {l : Location} :
    d'.OnWay path l ↔ d.OnWay path l := by
  rw [OnWay, OnWay, h.start]

theorem modifiesOnly_makeLast (d : Disk) (path : String) :
    ModifiesOnly (d.OnWay path) written d (d.makeLast (d.start path) (steps path)).1 := by
  unfold makeLast
  split
  · next l hfollow =>
    refine (d.modifiesOnly_ensureDirectory l).mono ?_ fun _ => id
    intro place hplace
    refine ⟨moves path, List.prefix_refl _, ?_⟩
    rwa [walk_moves, (find?_walk_of_follow hfollow).1]
  · exact .refl d

/-- Making the directory of a path changes missing places on the way only, also where it fails
midway. -/
theorem modifiesOnly_makeDirectories (d : Disk) (path : String) :
    ModifiesOnly (d.OnWay path) written d (d.makeDirectories path).1 := by
  unfold makeDirectories
  split
  · have halong : ModifiesOnly (d.OnWay path) written d
        (d.makeAlong (d.start path) (moves path).dropLast).1 := by
      refine (d.modifiesOnly_makeAlong _ _).mono ?_ fun _ => id
      rintro place ⟨before, hbefore, hplace⟩
      exact ⟨before, hbefore.trans (List.dropLast_prefix _), hplace⟩
    split
    · next mid heq =>
      rw [heq] at halong
      have hlast : ModifiesOnly (mid.OnWay path) written mid _ := mid.modifiesOnly_makeLast path
      exact halong.trans (hlast.mono (fun _ => halong.keeps.onWay_iff.mp) fun _ => id)
    · next mid heq =>
      rw [heq] at halong
      exact halong
  · exact .refl d

/-! ## Files -/

theorem modifiesOnly_write?_join {way : Location → Prop} {d d' : Disk} {base name text : String}
    (hname : IsOrdinary name) (h : d.write? (join base name) text = some d') :
    ModifiesOnly way (· = d.place base ++ [name]) d d' := by
  obtain ⟨hkeeps, hfind⟩ := write?_join hname h
  refine ⟨hkeeps, ?_⟩
  intro l hne
  left
  by_contra hother
  rw [hfind, if_neg hother] at hne
  exact hne rfl

end Disk

end ClassMill.CommandLine
