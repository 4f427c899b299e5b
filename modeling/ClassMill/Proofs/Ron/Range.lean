import ClassMill.Proofs.Ron.Faithful

/-!
# Types that are read back from their texts

What a type is decoded to has the properties that the codec checks, such as counts that fit into 64
bits. If all values with these properties are faithful, they are read back from their texts, and a
text that was rewritten once is not changed by rewriting it again.
-/

namespace ClassMill.Ron.Codec

/-- All values that a type is decoded to have a property, and so has a value left out. -/
structure Yields {α : Type} [Codec α] (P : α → Prop) : Prop where
  missing : ∀ a, Codec.missing = some a → P a
  decode : ∀ extensions v a, Codec.decode extensions v = some a → P a

theorem Yields.of_decodeField {α : Type} [Codec α] {P : α → Prop} (h : Yields P)
    {extensions : Parser.Extensions} {fields : List (Word × Value)} {label : String} {a : α}
    (ha : decodeField extensions fields label = some a) : P a := by
  unfold decodeField at ha
  split at ha
  · exact h.missing a ha
  · exact h.decode _ _ a ha
  · cases ha

theorem yields_true (α : Type) [Codec α] : Yields fun _ : α => True :=
  ⟨fun _ _ => trivial, fun _ _ _ _ => trivial⟩

theorem lt_of_decodeUpTo {v : Value} {n : Nat} (h : decodeUpTo maxCount v = some n) :
    n < UInt64.size := by
  cases v with
  | number spelling =>
    rw [decodeUpTo, Number.readUpTo, Option.filter_eq_some_iff, decide_eq_true_eq] at h
    exact Nat.lt_of_le_sub_one (by decide) h.2
  | _ => cases h

/-- A count is smaller than two to the power of 64. -/
theorem yields_nat : Yields fun n : Nat => n < UInt64.size where
  missing := nofun
  decode _ _ _ h := lt_of_decodeUpTo h

theorem Yields.option {α : Type} [Codec α] {P : α → Prop} (h : Yields P) :
    Yields fun o : Option α => ∀ a ∈ o, P a where
  missing o ho := by
    cases ho
    nofun
  decode extensions v o ho := by
    intro a ha
    cases ha
    have hcontent : ((contentOf? extensions v).bind (Codec.decode extensions)).map some =
        some (some a) := by
      cases v with
      | absent => cases ho
      | _ => exact ho
    obtain ⟨b, hb, hba⟩ := Option.map_eq_some_iff.mp hcontent
    obtain ⟨content, -, hdecode⟩ := Option.bind_eq_some_iff.mp hb
    cases hba
    exact h.decode _ _ _ hdecode

/-- Values that fit are read back from their texts, what is read fits, and a text that was
rewritten once is not changed by rewriting it again. -/
structure RoundTrips (α : Type) [Codec α] (fits : α → Prop) : Prop where
  read_write : ∀ a, fits a → Ron.read α (Ron.write a) = some a
  fits_of_read : ∀ text a, Ron.read α text = some a → fits a
  rewrite : ∀ text again, (Ron.read α text).map Ron.write = some again →
    (Ron.read α again).map Ron.write = some again

theorem roundTrips {α : Type} [Codec α] {fits : α → Prop}
    (hfaithful : ∀ a, fits a → Faithful Parser.maxDepth a) (hfits : Yields fits) :
    RoundTrips α fits := by
  have hread : ∀ text a, Ron.read α text = some a → fits a := by
    intro text a h
    unfold Ron.read at h
    split at h
    · exact hfits.decode _ _ a h
    · cases h
  refine ⟨fun a ha => (hfaithful a ha).read_write, hread, ?_⟩
  intro text again h
  obtain ⟨a, ha, rfl⟩ := Option.map_eq_some_iff.mp h
  rw [(hfaithful a (hread text a ha)).read_write, Option.map_some]

end ClassMill.Ron.Codec
