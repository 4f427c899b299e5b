import ClassMill.CommandLine.Disk
import ClassMill.Proofs.CommandLine.Path
import Mathlib.Tactic.Common

/-!
# What writing does to a disk

Writing a file changes the entry of the file and no other, and making directories changes only
places that the path leads through. Where a path leads is known before its directories are made.
-/

namespace ClassMill.CommandLine

open ClassMill.CommandLine.Path

/-! ## Trees -/

namespace FileTree

/-- Whatever holds an entry is a directory. -/
theorem find?_eq_directory {t : FileTree} {l r : Location} (hr : r ≠ [])
    (h : t.find? (l ++ r) ≠ none) : t.find? l = some .directory := by
  induction l generalizing t with
  | nil =>
    cases t with
    | directory children => rfl
    | file text =>
      obtain ⟨name, r, rfl⟩ := List.exists_cons_of_ne_nil hr
      rw [List.nil_append, find?_cons] at h
      exact absurd rfl h
  | cons name l ih =>
    rw [List.cons_append, find?_cons] at h
    rw [find?_cons]
    cases hchild : t.child? name with
    | none =>
      rw [hchild] at h
      exact absurd rfl h
    | some u =>
      rw [hchild] at h
      exact ih h

end FileTree

namespace Disk

/-- An entry that is put into a directory, in place of none or of a file, is the only change. -/
theorem find?_put {d : Disk} {l : Location} {name : String} (e : Entry)
    (h : d.find? l = some .directory) (hold : d.find? (l ++ [name]) ≠ some .directory)
    (other : Location) :
    (d.put (l ++ [name]) e).find? other =
      if other = l ++ [name] then some e else d.find? other := by
  have hput := FileTree.find?_put e name l d.tree other h
  have hbelow : l ++ [name] <+: other → other ≠ l ++ [name] → d.find? other = none := by
    rintro ⟨r, rfl⟩ hne
    have hr : r ≠ [] := by
      rintro rfl
      exact hne (List.append_nil _)
    by_contra hsome
    exact hold (FileTree.find?_eq_directory hr hsome)
  change (d.tree.put e (l ++ [name])).find? other = _
  rw [hput]
  split
  · rfl
  · next hne =>
    split
    · next hprefix => rw [hbelow hprefix hne]
    · rfl

/-- The current directory and whatever is a directory stay as they are. -/
structure Keeps (d d' : Disk) : Prop where
  current : d'.current = d.current
  directory : ∀ l, d.find? l = some .directory → d'.find? l = some .directory

namespace Keeps

variable {d d' d'' : Disk}

theorem refl (d : Disk) : Keeps d d := ⟨rfl, fun _ h => h⟩

theorem trans (h : Keeps d d') (h' : Keeps d' d'') : Keeps d d'' :=
  ⟨h'.current.trans h.current, fun l hl => h'.directory l (h.directory l hl)⟩

/-- An entry that changes in place of none or of a file keeps all directories. -/
theorem of_change {e : Entry} {place : Location} (hcurrent : d'.current = d.current)
    (hplace : d.find? place ≠ some .directory)
    (hfind : ∀ l, d'.find? l = if l = place then some e else d.find? l) : Keeps d d' := by
  refine ⟨hcurrent, ?_⟩
  intro l hl
  rw [hfind, if_neg, hl]
  rintro rfl
  exact hplace hl

end Keeps

/-! ## Places -/

/-- Where steps lead from a location, whether or not there are directories on the way. -/
def walk (l : Location) : List Step → Location
  | [] => l
  | .here :: rest => walk l rest
  | .up :: rest => walk l.dropLast rest
  | .name letters :: rest => walk (l ++ [letters]) rest

/-- The place to which a path leads once the directories on the way are there. -/
def place (d : Disk) (path : String) : Location := walk (d.start path) (moves path)

theorem start_join_of_relative (d : Disk) (base : String) {path : String}
    (h : isAbsolute path = false) : d.start (join base path) = d.start base := by
  rw [start, start, isAbsolute_join_of_relative base h]

theorem start_join (d : Disk) (base : String) {name : String} (hname : IsOrdinary name) :
    d.start (join base name) = d.start base :=
  d.start_join_of_relative base (isAbsolute_eq_false hname)

theorem walk_append_name (l : Location) (steps : List Step) (name : String) :
    walk l (steps ++ [.name name]) = walk l steps ++ [name] := by
  induction steps generalizing l with
  | nil => rfl
  | cons step rest ih => cases step <;> exact ih _

theorem place_join (d : Disk) (base : String) {name : String} (hname : IsOrdinary name) :
    d.place (join base name) = d.place base ++ [name] := by
  rw [place, start_join d base hname, moves_join base hname, walk_append_name, place]

theorem Keeps.start {d d' : Disk} (h : Keeps d d') (path : String) :
    d'.start path = d.start path := by
  rw [Disk.start, Disk.start, h.current]

theorem Keeps.place {d d' : Disk} (h : Keeps d d') (path : String) :
    d'.place path = d.place path := by
  rw [Disk.place, Disk.place, h.start]

/-- Steps that stay where they are lead nowhere. -/
theorem walk_moves (l : Location) (path : String) : walk l (moves path) = walk l (steps path) := by
  unfold moves
  induction steps path generalizing l with
  | nil => rfl
  | cons step rest ih => cases step <;> simpa [walk] using ih _

theorem walk_of_advance {l next : Location} {step : Step} (h : advance l step = .ok next)
    (rest : List Step) : walk l (step :: rest) = walk next rest := by
  cases step with
  | here =>
    cases h
    rfl
  | up =>
    cases h
    rfl
  | name letters =>
    rw [advance] at h
    split at h
    · cases h
      rfl
    · cases h

/-- The first of several steps is taken from a directory. -/
theorem follow_cons {d : Disk} {l target : Location} {step : Step} {rest : List Step}
    (h : d.follow l (step :: rest) = .ok target) :
    d.find? l = some .directory ∧
      ∃ next, advance l step = .ok next ∧ d.follow next rest = .ok target := by
  rw [follow] at h
  split at h
  · cases h
  · cases h
  · next hdirectory =>
    split at h
    · next next hnext => exact ⟨hdirectory, next, hnext, h⟩
    · cases h

theorem follow_of_cons {d : Disk} {l next : Location} {step : Step}
    (h : d.find? l = some .directory) (hnext : advance l step = .ok next) (rest : List Step) :
    d.follow l (step :: rest) = d.follow next rest := by
  rw [follow, h]
  simp only [hnext]

/-- A path that is followed can still be followed if all directories stay. -/
theorem Keeps.follow {d d' : Disk} (h : Keeps d d') {l target : Location} {steps : List Step}
    (hfollow : d.follow l steps = .ok target) : d'.follow l steps = .ok target := by
  induction steps generalizing l with
  | nil => exact hfollow
  | cons step rest ih =>
    obtain ⟨hdirectory, next, hnext, hrest⟩ := follow_cons hfollow
    rw [follow_of_cons (h.directory l hdirectory) hnext]
    exact ih hrest

/-- Steps that end in a name lead into the directory of the steps before. -/
theorem follow_append_name {d : Disk} {l target : Location} {steps : List Step} {name : String}
    (h : d.follow l (steps ++ [.name name]) = .ok target) :
    d.follow l steps = .ok (walk l steps) ∧ d.find? (walk l steps) = some .directory ∧
      target = walk l steps ++ [name] := by
  induction steps generalizing l with
  | nil =>
    obtain ⟨hdirectory, next, hnext, hlast⟩ := follow_cons h
    refine ⟨rfl, hdirectory, ?_⟩
    have hwalk := walk_of_advance hnext []
    cases hlast
    exact hwalk.symm
  | cons step rest ih =>
    obtain ⟨hdirectory, next, hnext, hrest⟩ := follow_cons h
    rw [walk_of_advance hnext, follow_of_cons hdirectory hnext]
    exact ih hrest

/-! ## Files -/

/-- Writing a file under a name finds the directory and changes the entry of the file only. -/
theorem write?_join {d d' : Disk} {base name text : String} (hname : IsOrdinary name)
    (h : d.write? (join base name) text = some d') :
    Keeps d d' ∧ ∀ l, d'.find? l =
      if l = d.place base ++ [name] then some (.file text) else d.find? l := by
  unfold write? locate at h
  rw [fileSteps_join base hname] at h
  rw [start_join d base hname] at h
  split at h
  · next l hlocate =>
    split at hlocate
    · obtain ⟨-, hdirectory, rfl⟩ := follow_append_name hlocate
      rw [← walk_moves] at h hdirectory
      split at h
      · cases h
      · next hold =>
        cases h
        have hput := find?_put (.file text) hdirectory hold
        exact ⟨.of_change rfl hold hput, hput⟩
    · cases hlocate
  · cases h

/-! ## Directories -/

/-- The directory above one is a directory. -/
theorem find?_dropLast {d : Disk} {l : Location} (h : d.find? l = some .directory) :
    d.find? l.dropLast = some .directory := by
  rcases List.eq_nil_or_concat l with rfl | ⟨front, name, rfl⟩
  · exact h
  · rw [List.concat_eq_append] at h ⊢
    rw [List.dropLast_concat]
    apply FileTree.find?_eq_directory (List.cons_ne_nil name [])
    change d.find? (front ++ [name]) ≠ none
    rw [h]
    exact Option.some_ne_none _

/-- A directory that is there already is not made again. -/
theorem ensureDirectory_of_directory {d : Disk} {l : Location}
    (h : d.find? l = some .directory) : d.ensureDirectory l = (d, true) := by
  rw [ensureDirectory, h]
  simp

/-- Making a directory in another one makes no change elsewhere. -/
theorem ensureDirectory_name {d d' : Disk} {l : Location} {name : String}
    (h : d.find? l = some .directory) (hmade : d.ensureDirectory (l ++ [name]) = (d', true)) :
    Keeps d d' ∧ d'.find? (l ++ [name]) = some .directory ∧
      ∀ other, other ≠ l ++ [name] → d'.find? other = d.find? other := by
  unfold ensureDirectory at hmade
  split at hmade
  · next hnone =>
    cases hmade
    have hold : d.find? (l ++ [name]) ≠ some .directory := by simp [hnone]
    have hput := find?_put .directory h hold
    refine ⟨.of_change rfl hold hput, ?_, ?_⟩
    · rw [hput, if_pos rfl]
    · intro other hother
      rw [hput, if_neg hother]
  · next e hsome =>
    obtain ⟨rfl, he⟩ := Prod.mk.inj hmade
    rw [of_decide_eq_true he] at hsome
    exact ⟨.refl d, hsome, fun _ _ => rfl⟩

/-- Making the directory of the next step makes no change elsewhere. -/
theorem ensureDirectory_advance {d d' : Disk} {l next : Location} {step : Step}
    (h : d.find? l = some .directory) (hnext : advance l step = .ok next)
    (hmade : d.ensureDirectory next = (d', true)) :
    Keeps d d' ∧ d'.find? next = some .directory ∧
      ∀ other, other ≠ next → d'.find? other = d.find? other := by
  have hthere : d.find? next = some .directory →
      Keeps d d' ∧ d'.find? next = some .directory ∧
        ∀ other, other ≠ next → d'.find? other = d.find? other := by
    intro hdirectory
    rw [ensureDirectory_of_directory hdirectory] at hmade
    cases hmade
    exact ⟨.refl d, hdirectory, fun _ _ => rfl⟩
  cases step with
  | here =>
    cases hnext
    exact hthere h
  | up =>
    cases hnext
    exact hthere (find?_dropLast h)
  | name letters =>
    rw [advance] at hnext
    split at hnext
    · cases hnext
      exact ensureDirectory_name h hmade
    · cases hnext

theorem makeAlong_cons {d d' : Disk} {l : Location} {move : Step} {rest : List Step}
    (h : d.makeAlong l (move :: rest) = (d', true)) :
    ∃ next mid, advance l move = .ok next ∧ d.ensureDirectory next = (mid, true) ∧
      mid.makeAlong next rest = (d', true) := by
  rw [makeAlong] at h
  split at h
  · cases h
  · next next hnext =>
    split at h
    · next mid hmade => exact ⟨next, mid, hnext, hmade, h⟩
    · cases h

/-- Making the directories along moves makes no change but where the moves lead. -/
theorem find?_of_makeAlong {d d' : Disk} {l : Location} {moves : List Step}
    (hl : d.find? l = some .directory) (h : d.makeAlong l moves = (d', true)) :
    Keeps d d' ∧
      ∀ other, (∀ before, before <+: moves → walk l before ≠ other) →
        d'.find? other = d.find? other := by
  induction moves generalizing d l with
  | nil =>
    cases h
    exact ⟨.refl _, fun _ _ => rfl⟩
  | cons move rest ih =>
    obtain ⟨next, mid, hnext, hmade, hrest⟩ := makeAlong_cons h
    obtain ⟨hkeeps, hdirectory, hother⟩ := ensureDirectory_advance hl hnext hmade
    obtain ⟨hkeeps', hother'⟩ := ih hdirectory hrest
    refine ⟨hkeeps.trans hkeeps', ?_⟩
    intro other havoid
    have hrestAvoid : ∀ before, before <+: rest → walk next before ≠ other := by
      intro before hbefore
      rw [← walk_of_advance hnext]
      exact havoid _ (List.cons_prefix_cons.mpr ⟨rfl, hbefore⟩)
    have hne : other ≠ next := by
      rintro rfl
      exact hrestAvoid [] List.nil_prefix rfl
    rw [hother' other hrestAvoid, hother other hne]

/-- Making the directory of an ordinary name in a place finds or makes both, so that the path of
the place can be followed, and makes no change but where this path leads. -/
theorem makeDirectories_join {d d' : Disk} {base name : String} (hname : IsOrdinary name)
    (hstart : d.find? (d.start base) = some .directory)
    (h : d.makeDirectories (join base name) = (d', true)) :
    Keeps d d' ∧ d'.follow (d.start base) (steps base) = .ok (d.place base) ∧
      d'.find? (d.place base) = some .directory ∧
      d'.find? (d.place base ++ [name]) = some .directory ∧
      ∀ other, other ≠ d.place base ++ [name] →
        (∀ before, before <+: moves base → walk (d.start base) before ≠ other) →
          d'.find? other = d.find? other := by
  unfold makeDirectories at h
  rw [start_join d base hname, moves_join base hname, steps_join base hname,
    List.dropLast_concat] at h
  split at h
  · split at h
    · next mid hmade =>
      obtain ⟨hkeeps, hother⟩ := find?_of_makeAlong hstart hmade
      rw [start_join mid base hname, hkeeps.start, makeLast] at h
      split at h
      · next l hlast =>
        obtain ⟨hfollow, hplace, rfl⟩ := follow_append_name hlast
        rw [← walk_moves, ← place] at h hplace hfollow
        obtain ⟨hkeeps', hdirectory, hother'⟩ := ensureDirectory_name hplace h
        refine ⟨hkeeps.trans hkeeps', hkeeps'.follow hfollow, hkeeps'.directory _ hplace,
          hdirectory, ?_⟩
        intro other hne havoid
        rw [hother' other hne, hother other havoid]
      · cases h
    · cases h
  · cases h

end Disk

end ClassMill.CommandLine
