import ClassMill.Proofs.Generation.Identifier
import ClassMill.Proofs.Random.Sequence
import ClassMill.Tree.Property

/-!
# The stem that an identifier takes

The letters of an identifier and of the stems rejected before it are drawn in a row, and the
identifier takes the first stem that no reserved word spells. Its first letter and its ending
tell what it names, so names of different kinds differ.
-/

namespace ClassMill.Name

open ClassMill.Random

/-! ## Letters in a row -/

/-- The alphabets of the letters of a stem, in order. -/
def alphabets (kind : NameKind) : (length : Nat) → List (List Char)
  | 0 => []
  | length + 1 => leadingLetters kind :: List.replicate length (smallLetters ++ capitalLetters)

/-- A stem consists of one letter from each of its alphabets. -/
theorem stem_eq_letters (kind : NameKind) (length : Nat) :
    stem kind length = do
      let letters ← Draw.forEach letter (alphabets kind (length + 1))
      return String.ofList letters := by
  simp only [stem, alphabets, Draw.forEach, Draw.times_eq_forEach, bind_assoc, pure_bind]

/-- The letters of stems in a row are letters in a row. -/
theorem letters_times_stem (kind : NameKind) (length count : Nat) :
    (do
      let stems ← Draw.times (stem kind length) count
      return stems.flatMap String.toList) =
      Draw.forEach letter (List.replicate count (alphabets kind (length + 1))).flatten := by
  induction count with
  | zero => rfl
  | succ count ih =>
    rw [List.replicate_succ, List.flatten_cons, Draw.forEach_append, ← ih]
    simp only [Draw.times, stem_eq_letters, bind_assoc, pure_bind, List.flatMap_cons,
      String.toList_ofList]

/-- An identifier is the first stem in a row that is not reserved, with the ending of its kind. -/
theorem exists_stems_of_identifier {kind : NameKind} {length : UInt64} {attempts : Nat}
    {source rest : Source} {name : String}
    (h : identifier kind length attempts source = .ok (name, rest)) :
    ∃ rejected last, name = last ++ ending kind ∧
      (∀ word ∈ rejected ++ [last], IsStem kind (max length.toNat 1) word) ∧
      (∀ word ∈ rejected, SpellsReserved word) ∧ ¬ SpellsReserved last ∧
      Draw.times (stem kind (max length.toNat 1 - 1)) (rejected.length + 1) attempts source =
        .ok (rejected ++ [last], rest) := by
  obtain ⟨_, start, hreserve, h⟩ := Draw.bind_eq_ok.mp h
  obtain ⟨last, after, hredraw, hname⟩ := Draw.bind_eq_ok.mp h
  have hstart : start = source := by
    cases hfits : reserveStem (max length 1) with
    | error reason =>
      rw [hfits] at hreserve
      cases hreserve
    | ok u =>
      rw [hfits] at hreserve
      cases hreserve
      rfl
  obtain ⟨rejected, mid, candidate, -, hrejected, htimes, hlast, hkeep⟩ :=
    Draw.redraw_eq_ok_iff.mp hredraw
  have hkept : isReserved candidate = false ∧ candidate = last := by
    split at hkeep
    · cases hkeep
    · next hfree => exact ⟨by simpa using hfree, Option.some.inj hkeep⟩
  obtain ⟨hfree, rfl⟩ := hkept
  rw [Draw.pure_apply] at hname
  cases hname
  subst hstart
  rw [toNat_max_one] at htimes hlast
  have hrow : Draw.times (stem kind (max length.toNat 1 - 1)) (rejected.length + 1) attempts
      start = .ok (rejected ++ [candidate], rest) := by
    rw [Draw.times_add]
    refine Draw.bind_eq_ok.mpr ⟨rejected, mid, htimes, ?_⟩
    refine Draw.bind_eq_ok.mpr ⟨[candidate], rest, ?_, rfl⟩
    exact Draw.times_succ_eq_ok_iff.mpr ⟨candidate, rest, [], rest, hlast, rfl, rfl⟩
  have hlength : max length.toNat 1 - 1 + 1 = max length.toNat 1 := by omega
  have hstems := ((stem_yields kind _).times _ _ _ _ _ hrow).2
  rw [hlength] at hstems
  refine ⟨rejected, candidate, rfl, hstems, ?_, ?_, hrow⟩
  · intro word hword
    by_contra hnot
    rw [← isReserved_iff] at hnot
    simpa [hnot] using hrejected word hword
  · rw [← isReserved_iff, hfree]
    exact Bool.false_ne_true

/-! ## Kinds -/

theorem ending_eq (kind : NameKind) : ending kind = if kind = .method then "_method" else "" := by
  cases kind <;> rfl

/-- A name begins with the first letter of its stem. -/
theorem IsStem.exists_head {kind : NameKind} {length : Nat} {stem : String}
    (h : IsStem kind length stem) (hlength : 0 < length) (more : String) :
    ∃ c, (stem ++ more).toList.head? = some c ∧ c.isAlpha = true ∧
      c.isUpper = kind.capitalised := by
  have hne : stem.toList ≠ [] := by simpa using (h.isWord hlength).1
  obtain ⟨c, letters, hlist⟩ := List.exists_cons_of_ne_nil hne
  refine ⟨c, ?_, h.letters c (by simp [hlist]), (h.leading c (by simp [hlist])).1⟩
  rw [String.toList_append, hlist]
  rfl

/-- Only the names of methods have an underscore. -/
theorem IsStem.underscore_mem_iff {kind : NameKind} {length : Nat} {stem : String}
    (h : IsStem kind length stem) : '_' ∈ (stem ++ ending kind).toList ↔ kind = .method := by
  have hstem : '_' ∉ stem.toList := fun hmem => absurd (h.letters _ hmem) (by decide)
  have hending : '_' ∈ (ending kind).toList ↔ kind = .method := by
    cases kind <;> decide
  simp [hstem, hending]

/-- Equal names are of one kind, or both name variables. -/
theorem IsStem.kind_of_eq {kind other : NameKind} {m n : Nat} {s t : String}
    (hs : IsStem kind m s) (ht : IsStem other n t) (hm : 0 < m) (hn : 0 < n)
    (h : s ++ ending kind = t ++ ending other) :
    other = kind ∨ kind.capitalised = false ∧ other.capitalised = false := by
  have hcase : kind.capitalised = other.capitalised := by
    obtain ⟨c, hc, -, hkind⟩ := hs.exists_head hm (ending kind)
    obtain ⟨d, hd, -, hother⟩ := ht.exists_head hn (ending other)
    rw [h, hd] at hc
    cases hc
    rw [← hkind, hother]
  have hmethod : kind = .method ↔ other = .method := by
    rw [← hs.underscore_mem_iff, h, ht.underscore_mem_iff]
  cases kind <;> cases other <;> simp_all [NameKind.capitalised]

/-- The field of a property begins with an underscore, and no drawn name does. -/
theorem IsStem.ne_fieldName {kind : NameKind} {length : Nat} {stem : String}
    (h : IsStem kind length stem) (hlength : 0 < length) (p : Property) :
    p.fieldName ≠ stem ++ ending kind := by
  intro heq
  obtain ⟨c, hc, halpha, -⟩ := h.exists_head hlength (ending kind)
  rw [← heq, Property.fieldName, String.toList_append] at hc
  cases hc
  exact absurd halpha (by decide)

/-- No reserved word has the ending of methods. -/
theorem not_spellsReserved_append_ending (kind : NameKind) {stem : String}
    (h : ¬ SpellsReserved stem) : ¬ SpellsReserved (stem ++ ending kind) := by
  have hletters : ∀ word ∈ reservedWords, '_' ∉ word.toList := by decide
  rintro ⟨word, hword, heq⟩
  by_cases hkind : kind = .method
  · subst hkind
    apply hletters word hword
    rw [← lowered_of_mem_reservedWords hword, heq, lowered, String.toList_map,
      String.toList_append, List.map_append]
    exact List.mem_append_right _ (by decide)
  · rw [ending_eq, if_neg hkind, String.append_empty] at heq
    exact h ⟨word, hword, heq⟩

/-- A drawn name is a stem, at least one letter long, with the ending of its kind. The letters of
the stem and of the reserved words before it are drawn in a row, and the source is left right
after the last of them. Two runs that draw equal names are for one kind or for variables, and no
property has such a name for its field. -/
theorem identifier_first_free {kind : NameKind} {length : UInt64} {attempts : Nat}
    {source rest : Source} {name : String}
    (h : identifier kind length attempts source = .ok (name, rest)) :
    (∃ rejected stem,
      name = stem ++ (if kind = .method then "_method" else "") ∧
      (∀ word ∈ rejected, IsStem kind (max length.toNat 1) word ∧ SpellsReserved word) ∧
      IsStem kind (max length.toNat 1) stem ∧ ¬ SpellsReserved stem ∧ ¬ SpellsReserved name ∧
      Draw.forEach letter
          (List.replicate (rejected.length + 1) (alphabets kind (max length.toNat 1))).flatten
          attempts source =
        .ok ((rejected ++ [stem]).flatMap String.toList, rest)) ∧
      (∀ other length' attempts' source' rest',
        identifier other length' attempts' source' = .ok (name, rest') →
          other = kind ∨ kind.capitalised = false ∧ other.capitalised = false) ∧
      ∀ p : Property, p.fieldName ≠ name := by
  obtain ⟨rejected, last, hname, hstems, hrejected, hfree, hrow⟩ := exists_stems_of_identifier h
  have hpos : ∀ n, 0 < max n 1 := fun n => by omega
  have hlast : IsStem kind (max length.toNat 1) last := hstems last (by simp)
  refine ⟨⟨rejected, last, ?_, ?_, hlast, hfree, ?_, ?_⟩, ?_, ?_⟩
  · rw [hname, ending_eq]
  · intro word hword
    exact ⟨hstems word (List.mem_append_left _ hword), hrejected word hword⟩
  · rw [hname]
    exact not_spellsReserved_append_ending kind hfree
  · have hlength : max length.toNat 1 - 1 + 1 = max length.toNat 1 := by omega
    have hletters := letters_times_stem kind (max length.toNat 1 - 1) (rejected.length + 1)
    rw [hlength] at hletters
    rw [← hletters]
    exact Draw.bind_eq_ok.mpr ⟨_, _, hrow, rfl⟩
  · intro other length' attempts' source' rest' hother
    obtain ⟨_, last', hname', hstems', -⟩ := exists_stems_of_identifier hother
    rw [hname] at hname'
    exact hlast.kind_of_eq (hstems' last' (by simp)) (hpos _) (hpos _) hname'
  · intro p
    rw [hname]
    exact hlast.ne_fieldName (hpos _) p

/-- Two letters spell a reserved word first, so that two more are drawn. The names of a local
variable and of a loop variable are equal here. -/
theorem identifier_first_free_redrawn :
    let source := Source.stepper 0x1F000000 0x28600000
    let rest := Source.stepper 0xE8E00000 0x28600000
    Draw.times (stem .localVariable 1) 2 10 source = .ok (["do", "lN"], rest) ∧
      identifier .localVariable 2 10 source = .ok ("lN", rest) ∧
      identifier .loopVariable 2 10 source = .ok ("lN", rest) ∧
      (∃ rejected stem, "lN" = stem ++ "" ∧ IsStem .localVariable 2 stem ∧
        (∀ word ∈ rejected, IsStem .localVariable 2 word ∧ SpellsReserved word) ∧
        Draw.forEach letter
            (List.replicate (rejected.length + 1) (alphabets .localVariable 2)).flatten 10 source =
          .ok ((rejected ++ [stem]).flatMap String.toList, rest)) ∧
      (NameKind.loopVariable = .localVariable ∨
        NameKind.localVariable.capitalised = false ∧ NameKind.loopVariable.capitalised = false) ∧
      ∀ p : Property, p.fieldName ≠ "lN" := by
  intro source rest
  have hlocal : identifier .localVariable 2 10 source = .ok ("lN", rest) := by decide +kernel
  have hloop : identifier .loopVariable 2 10 source = .ok ("lN", rest) := by decide +kernel
  obtain ⟨⟨rejected, stem, hname, hrejected, hstem, -, -, hletters⟩, hkinds, hfields⟩ :=
    identifier_first_free hlocal
  exact ⟨by decide +kernel, hlocal, hloop,
    ⟨rejected, stem, hname, hstem, hrejected, hletters⟩, hkinds _ _ _ _ _ hloop, hfields⟩

end ClassMill.Name
