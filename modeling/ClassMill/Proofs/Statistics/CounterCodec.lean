import ClassMill.Proofs.Ron.Range
import ClassMill.Proofs.Statistics.CounterSum

/-!
# Counters are read back from their texts

A counter is written as a mapping from the kinds it holds to their counts. The mapping makes the
same counter again if the counts fit into 64 bits, and whatever is read has such counts.
-/

namespace ClassMill

open Ron

namespace Counter

variable {κ : Type} [Kind κ]

theorem get?_of_mem_toList {c : Counter κ} {k : κ} {n : Nat} (h : (k, n) ∈ c.toList) :
    c.get? k = some n := by
  obtain ⟨l, -, hl⟩ := List.mem_filterMap.mp h
  obtain ⟨m, hm, heq⟩ := Option.map_eq_some_iff.mp hl
  cases heq
  exact hm

theorem Fits.lt_of_mem_toList {c : Counter κ} (hc : c.Fits) {entry : κ × Nat}
    (h : entry ∈ c.toList) : entry.2 < UInt64.size := by
  have hcount := hc entry.1
  rwa [getD_eq, get?_of_mem_toList h, Option.getD_some] at hcount

theorem fits_empty : (empty : Counter κ).Fits := fun k => by
  rw [getD_eq, get?_empty]
  decide

variable [DecidableEq κ]

/-- Setting the counts of some kinds takes these kinds over and keeps the others. -/
theorem get?_foldl_set (c : Counter κ) (kinds : List κ) (k : κ) (base : Counter κ) :
    ((kinds.filterMap fun l => (c.get? l).map (l, ·)).foldl
        (fun d entry => d.set entry.1 entry.2) base).get? k =
      if k ∈ kinds then (c.get? k).or (base.get? k) else base.get? k := by
  induction kinds generalizing base with
  | nil => rfl
  | cons l kinds ih =>
    cases hl : c.get? l with
    | none =>
      rw [List.filterMap_cons_none (by rw [hl, Option.map_none]), ih]
      by_cases hk : k = l
      · simp [hk, hl]
      · simp [hk]
    | some n =>
      rw [List.filterMap_cons_some (by rw [hl, Option.map_some]), List.foldl_cons, ih,
        get?_set_eq_ite]
      by_cases hk : k = l
      · simp [hk, hl]
      · simp [hk]

/-- A counter is made of its counts. -/
theorem ofList_toList (c : Counter κ) : ofList c.toList = c := by
  refine ext_get? fun k => ?_
  rw [ofList, toList, get?_foldl_set, if_pos (Kind.mem_all k), get?_empty, Option.or_none]

theorem Fits.set {c : Counter κ} (hc : c.Fits) (k : κ) {n : Nat} (hn : n < UInt64.size) :
    (c.set k n).Fits := by
  intro l
  rw [getD_set]
  split
  · exact hn
  · exact hc l

theorem fits_ofList {entries : List (κ × Nat)} (h : ∀ entry ∈ entries, entry.2 < UInt64.size) :
    (ofList entries).Fits := by
  refine List.foldlRecOn entries _ fits_empty fun c hc entry hentry => ?_
  exact hc.set entry.1 (h entry hentry)

end Counter

namespace Ron.Codec

section Entries

variable {κ : Type} [Codec κ] {extensions : Parser.Extensions}

/-- Counts that fit are decoded with their kinds. -/
theorem mapM_decodeEntry {depth : Nat} (extensions : Parser.Extensions)
    (hkinds : ∀ k : κ, Faithful depth k) {entries : List (κ × Nat)}
    (h : ∀ entry ∈ entries, entry.2 < UInt64.size) :
    (entries.map fun entry => (encode entry.1, encodeNat entry.2)).mapM
      (decodeEntry extensions) = some entries := by
  induction entries with
  | nil => rfl
  | cons entry entries ih =>
    obtain ⟨hentry, hentries⟩ := List.forall_mem_cons.mp h
    have hcount := decodeUpTo_encodeNat (Nat.le_sub_one_of_lt hentry)
    have hfirst : decodeEntry extensions (encode entry.1, encodeNat entry.2) = some entry := by
      rw [decodeEntry, (hkinds entry.1).decode_encode, maxCount, hcount]
    rw [List.map_cons, List.mapM_cons, hfirst, ih hentries]
    rfl

theorem lt_of_decodeEntry {raw : Value × Value} {entry : κ × Nat}
    (h : decodeEntry extensions raw = some entry) : entry.2 < UInt64.size := by
  unfold decodeEntry at h
  split at h
  · next hcount =>
    cases h
    exact lt_of_decodeUpTo hcount
  · cases h

theorem lt_of_mapM_decodeEntry {raw : List (Value × Value)} {entries : List (κ × Nat)}
    (h : raw.mapM (decodeEntry extensions) = some entries) :
    ∀ entry ∈ entries, entry.2 < UInt64.size := by
  induction raw generalizing entries with
  | nil =>
    cases h
    nofun
  | cons first raw ih =>
    rw [List.mapM_cons] at h
    obtain ⟨entry, hentry, hrest⟩ := Option.bind_eq_some_iff.mp h
    obtain ⟨rest, hmore, heq⟩ := Option.bind_eq_some_iff.mp hrest
    cases heq
    exact List.forall_mem_cons.mpr ⟨lt_of_decodeEntry hentry, ih hmore⟩

end Entries

/-- The counts of a counter that is read fit into 64 bits. -/
theorem yields_counter {κ : Type} [Kind κ] [DecidableEq κ] [Codec κ] :
    Yields fun c : Counter κ => c.Fits where
  missing := nofun
  decode extensions v c h := by
    cases v with
    | mapping raw =>
      obtain ⟨entries, hentries, rfl⟩ := Option.map_eq_some_iff.mp h
      exact Counter.fits_ofList (lt_of_mapM_decodeEntry hentries)
    | _ => cases h

/-- A counter is faithful if its kinds are and its counts fit. -/
theorem faithful_counter {κ : Type} [Kind κ] [DecidableEq κ] [Codec κ] {depth : Nat}
    (hkinds : ∀ k : κ, Faithful depth k) {c : Counter κ} (hc : c.Fits) :
    Faithful (depth + 2) c where
  legible := by
    refine .mapping ?_ ?_
    · intro _ hentry
      obtain ⟨entry, -, rfl⟩ := List.mem_map.mp hentry
      exact (hkinds entry.1).legible
    · intro _ hentry
      obtain ⟨entry, hmem, rfl⟩ := List.mem_map.mp hentry
      exact .number (isNumeral_natural (hc.lt_of_mem_toList hmem))
  decode_encode extensions := by
    have hentries := mapM_decodeEntry extensions hkinds
      fun entry hentry => hc.lt_of_mem_toList hentry
    change (List.mapM (decodeEntry extensions) _).map Counter.ofList = some c
    rw [hentries, Option.map_some, c.ofList_toList]

end Ron.Codec

end ClassMill
