/-!
# Trees of files

A directory holds files and directories under names, so whatever exists lies in a directory. There
are no links: a file has one name, and no name stands for another place.
A location is the list of names that leads to a place from the top. Putting an entry somewhere
leaves all places alone that are not at or below that location.
-/

namespace ClassMill.CommandLine

/-- The names on the way from the top. -/
abbrev Location := List String

/-- What a location holds. -/
inductive Entry
  | directory
  | file (text : String)
  deriving DecidableEq

/-- A file, or a directory with what it holds under each name. -/
inductive FileTree
  | file (text : String)
  | directory (children : List (String × FileTree))

namespace FileTree

/-- A directory that holds nothing. -/
def empty : FileTree := .directory []

/-- The tree that holds nothing below an entry. -/
def ofEntry : Entry → FileTree
  | .directory => empty
  | .file text => .file text

/-- The entry at the top of a tree. -/
def entry : FileTree → Entry
  | .directory _ => .directory
  | .file text => .file text

/-- What a directory holds under a name; a file holds nothing. -/
def child? (t : FileTree) (name : String) : Option FileTree :=
  match t with
  | .directory children => children.lookup name
  | .file _ => none

/-- The tree below a location. -/
def at? (t : FileTree) : Location → Option FileTree
  | [] => some t
  | name :: l =>
    match t.child? name with
    | some t => t.at? l
    | none => none

/-- The entry at a location. -/
def find? (t : FileTree) (l : Location) : Option Entry := (t.at? l).map entry

/-- The directory with a tree under a name, in place of what it held there. -/
def setChild (t : FileTree) (name : String) (child : FileTree) : FileTree :=
  match t with
  | .directory children =>
    .directory ((name, child) :: children.filter fun c => !(c.1 == name))
  | .file text => .file text

/-- Puts an entry at a location in place of what it holds. -/
def put (e : Entry) (t : FileTree) : Location → FileTree
  | [] => ofEntry e
  | name :: l => t.setChild name (((t.child? name).getD empty).put e l)

mutual

/-- The entries at and below a location that holds a tree, each with its location. -/
def toListFrom (l : Location) : FileTree → List (Location × Entry)
  | .file text => [(l, .file text)]
  | .directory children => (l, .directory) :: childrenFrom l children

/-- The entries that a directory at a location holds. -/
def childrenFrom (l : Location) : List (String × FileTree) → List (Location × Entry)
  | [] => []
  | (name, t) :: children => t.toListFrom (l ++ [name]) ++ childrenFrom l children

end

/-- All entries with their locations. -/
def toList (t : FileTree) : List (Location × Entry) := t.toListFrom []

/-- The entry below a name is found in what the name stands for. -/
theorem find?_cons (t : FileTree) (name : String) (l : Location) :
    t.find? (name :: l) = (t.child? name).bind fun t => t.find? l := by
  cases h : t.child? name <;> simp [find?, at?, h]

/-- Only directories hold anything. -/
theorem exists_eq_directory {t : FileTree} (h : t.find? [] = some .directory) :
    ∃ children, t = .directory children := by
  cases t with
  | directory children => exact ⟨children, rfl⟩
  | file text => simp [find?, at?, entry] at h

/-- Nothing lies below an entry that was just put. -/
theorem find?_ofEntry (e : Entry) (l : Location) :
    (ofEntry e).find? l = if l = [] then some e else none := by
  cases e <;> cases l <;> simp [ofEntry, empty, find?_cons, child?] <;> rfl

/-- Leaving out one name does not change what stands under the others. -/
theorem lookup_filter_ne {name other : String} (h : other ≠ name)
    (children : List (String × FileTree)) :
    (children.filter fun c => !(c.1 == name)).lookup other = children.lookup other := by
  induction children with
  | nil => rfl
  | cons c children ih =>
    obtain ⟨n, t⟩ := c
    by_cases hn : n = name
    · subst hn
      simp [ih, List.lookup_cons, beq_eq_false_iff_ne.2 h]
    · simp [hn, List.lookup_cons, ih]

/-- A name that is set stands for the new tree, and the others for what they stood for. -/
theorem child?_setChild (children : List (String × FileTree)) (name other : String)
    (t : FileTree) :
    ((directory children).setChild name t).child? other =
      if other = name then some t else (directory children).child? other := by
  by_cases h : other = name
  · simp [setChild, child?, h]
  · simp [setChild, child?, List.lookup_cons, h, beq_eq_false_iff_ne.2 h, lookup_filter_ne h]

/-- An entry that is put into a directory is found there, nothing is below it, and all other
places are left alone. -/
theorem find?_put (e : Entry) (name : String) (l : Location) :
    ∀ (t : FileTree) (l' : Location), t.find? l = some .directory →
      (t.put e (l ++ [name])).find? l' =
        if l' = l ++ [name] then some e
        else if l ++ [name] <+: l' then none else t.find? l' := by
  induction l with
  | nil =>
    intro t l' h
    obtain ⟨children, rfl⟩ := exists_eq_directory h
    cases l' with
    | nil => simp [put, setChild, find?, at?, entry]
    | cons n r =>
      by_cases hn : n = name
      · subst hn
        simp [put, find?_cons, child?_setChild, find?_ofEntry]
      · simp [put, find?_cons, child?_setChild, hn, Ne.symm hn]
  | cons a l ih =>
    intro t l' h
    cases t with
    | file text => simp [find?_cons, child?] at h
    | directory children =>
      obtain ⟨u, hu, hl⟩ : ∃ u, (directory children).child? a = some u ∧
          u.find? l = some .directory := by
        simpa [find?_cons, Option.bind_eq_some_iff] using h
      cases l' with
      | nil => simp [put, setChild, find?, at?, entry]
      | cons n r =>
        by_cases hn : n = a
        · subst hn
          simp [put, find?_cons, child?_setChild, hu, ih u r hl]
        · simp [put, find?_cons, child?_setChild, hn, Ne.symm hn]

end FileTree

end ClassMill.CommandLine
