import ClassMill.Proofs.Ron.Numeral
import ClassMill.Proofs.Ron.Parsing
import ClassMill.Ron.Types

/-!
# Faithful codecs

A value is faithful if it is written legibly and decoding what it is encoded to gives the value
again. Numbers, texts, pairs, optional values, labelled constants and distributions are faithful,
and so are floats whose plain text denotes them. Reading the text of a faithful value gives the
value.
-/

namespace ClassMill.Ron

/-- A value is written legibly at a depth, and is decoded whatever extensions are on. -/
structure Codec.Faithful {α : Type} [Codec α] (depth : Nat) (a : α) : Prop where
  legible : (Codec.encode a).Legible depth
  decode_encode : ∀ extensions, Codec.decode extensions (Codec.encode a) = some a

namespace Codec

variable {α β : Type} [Codec α] [Codec β] {depth : Nat} {a : α} {b : β}

theorem Faithful.mono {more : Nat} (h : Faithful depth a) (hle : depth ≤ more) :
    Faithful more a :=
  ⟨h.legible.mono hle, h.decode_encode⟩

/-- Reading the text of a faithful value gives the value. -/
theorem Faithful.read_write (h : Faithful Parser.maxDepth a) :
    Ron.read α (Ron.write a) = some a := by
  rw [Ron.read, Ron.write, parse_toText h.legible]
  exact h.decode_encode _

theorem decodeUpTo_encodeNat {n limit : Nat} (h : n ≤ limit) :
    decodeUpTo limit (encodeNat n) = some n := by
  have hspelling : (toString n).toList = Nat.toDigits 10 n := Nat.toList_repr
  rw [encodeNat, decodeUpTo, hspelling, Number.readUpTo_toDigits h]

theorem faithful_nat {n : Nat} (h : n < UInt64.size) : Faithful depth n where
  legible := .number (isNumeral_natural h)
  decode_encode _ := decodeUpTo_encodeNat (Nat.le_sub_one_of_lt h)

theorem faithful_word64 (n : UInt64) : Faithful depth n where
  legible := .number (isNumeral_natural n.toNat_lt)
  decode_encode _ := by
    change (decodeUpTo (UInt64.size - 1) (encodeNat n.toNat)).map UInt64.ofNat = some n
    rw [decodeUpTo_encodeNat (Nat.le_sub_one_of_lt n.toNat_lt), Option.map_some,
      UInt64.ofNat_toNat]

theorem faithful_word32 (n : UInt32) : Faithful depth n where
  legible := .number (isNumeral_natural (Nat.lt_trans n.toNat_lt (by decide)))
  decode_encode _ := by
    change (decodeUpTo (UInt32.size - 1) (encodeNat n.toNat)).map UInt32.ofNat = some n
    rw [decodeUpTo_encodeNat (Nat.le_sub_one_of_lt n.toNat_lt), Option.map_some,
      UInt32.ofNat_toNat]

theorem faithful_int32 (n : Int32) : Faithful depth n where
  legible := by
    have hlow : Int64.minValue.toInt ≤ Int32.minValue.toInt := by decide
    have hhigh : Int32.maxValue.toInt ≤ Int64.maxValue.toInt := by decide
    exact .number (isNumeral_integer (Int.le_trans hlow n.minValue_le_toInt)
      (Int.le_trans n.toInt_le hhigh))
  decode_encode _ := by
    change (Number.readBetween _ _ (toString n.toInt).toList).map Int32.ofInt = some n
    rw [Number.readBetween_toString n.minValue_le_toInt n.toInt_le, Option.map_some,
      Int32.ofInt_toInt]

theorem faithful_float {x : Float} (h : x.isFinite = true)
    (hread : Decimal.readFloat (Decimal.plainText x) = some x) : Faithful depth x where
  legible := .number (isNumeral_float h hread)
  decode_encode _ := by
    change Number.readReal (String.ofList (Decimal.plainText x)).toList = some x
    rw [String.toList_ofList, Number.readReal_plainText h, hread]

theorem faithful_string (s : String) : Faithful depth s where
  legible := .text s
  decode_encode _ := rfl

theorem Faithful.pair (ha : Faithful depth a) (hb : Faithful depth b) :
    Faithful (depth + 2) (a, b) where
  legible := by
    refine .tuple nofun (List.cons_ne_nil _ _) ?_
    simp only [List.forall_mem_cons]
    exact ⟨ha.legible, hb.legible, nofun⟩
  decode_encode extensions := by
    have hfirst := ha.decode_encode extensions
    have hsecond := hb.decode_encode extensions
    simp only [encode, decode] at hfirst hsecond ⊢
    simp only [hfirst, hsecond]

theorem faithful_none : Faithful depth (none : Option α) where
  legible := .absent
  decode_encode _ := rfl

theorem Faithful.some (h : Faithful depth a) : Faithful (depth + 1) (some a) where
  legible := .present h.legible
  decode_encode extensions := by
    have hdecode := h.decode_encode extensions
    simp only [encode, decode] at hdecode ⊢
    simp only [contentOf?, Option.bind_some, hdecode, Option.map_some]

/-- An optional value is faithful if the value in it is. -/
theorem faithful_option {o : Option α} (h : ∀ a ∈ o, Faithful depth a) :
    Faithful (depth + 1) o := by
  cases o with
  | none => exact faithful_none
  | some a => exact (h a rfl).some

/-- Constants are faithful if they are written by distinct names. -/
theorem faithful_ofLabels {κ : Type} {all : List κ} {label : κ → String} {k : κ} (hk : k ∈ all)
    (hname : (Word.plain (label k)).isName = true)
    (hlabels : ∀ l ∈ all, label l = label k → l = k) :
    @Faithful κ (.ofLabels all label) depth k := by
  have hsome : (all.find? fun l => label l = label k).isSome = true :=
    List.find?_isSome.mpr ⟨k, hk, by simp⟩
  obtain ⟨l, hl⟩ := Option.isSome_iff_exists.mp hsome
  have hlabel : label l = label k := by simpa using List.find?_some hl
  have hfind : all.find? (fun l => label l = label k) = some k := by
    rw [hl, hlabels l (List.mem_of_find?_eq_some hl) hlabel]
  exact @Faithful.mk κ (.ofLabels all label) depth k (.word hname) fun _ => hfind

theorem faithful_distribution (d : Distribution) : Faithful (depth + 2) d where
  legible := by
    cases d with
    | uniform low high =>
      have hname : ∀ w ∈ some (Word.plain "Uniform"), w.isName = true := by decide
      refine .tuple hname (List.cons_ne_nil _ _) ?_
      simp only [List.forall_mem_cons]
      exact ⟨(faithful_word64 low).legible, (faithful_word64 high).legible, nofun⟩
    | const value =>
      have hname : ∀ w ∈ some (Word.plain "Const"), w.isName = true := by decide
      refine .tuple hname (List.cons_ne_nil _ _) ?_
      simp only [List.forall_mem_cons]
      exact ⟨(faithful_word64 value).legible, nofun⟩
  decode_encode extensions := by
    have hword : ∀ n : UInt64, @Faithful UInt64 _ 0 n := fun n => faithful_word64 n
    cases d with
    | uniform low high =>
      have hlow := (hword low).decode_encode extensions
      have hhigh := (hword high).decode_encode extensions
      simp only [encode, decode] at hlow hhigh ⊢
      simp only [Word.plain, if_true, hlow, hhigh]
    | const value =>
      have hvalue := (hword value).decode_encode extensions
      simp only [encode, decode] at hvalue ⊢
      simp only [Word.plain, if_true, hvalue, Option.map_some]

/-! ## Fields of records -/

/-- If labels are distinct, the fields with the label of a field are that field alone. -/
theorem filter_label_eq {fields : List (Word × Value)}
    (hlabels : (fields.map fun field => field.1.letters).Nodup) {field : Word × Value}
    (hmem : field ∈ fields) :
    fields.filter (fun other => other.1.letters = field.1.letters) = [field] := by
  induction fields with
  | nil => cases hmem
  | cons first fields ih =>
    rw [List.map_cons, List.nodup_cons] at hlabels
    obtain ⟨hfirst, hrest⟩ := hlabels
    rcases List.mem_cons.mp hmem with rfl | hmem
    · have hnone : fields.filter (fun other => other.1.letters = field.1.letters) = [] := by
        rw [List.filter_eq_nil_iff]
        intro other hother heq
        exact hfirst (List.mem_map.mpr ⟨other, hother, of_decide_eq_true heq⟩)
      rw [List.filter_cons_of_pos (by simp), hnone]
    · have hne : first.1.letters ≠ field.1.letters := by
        intro heq
        exact hfirst (List.mem_map.mpr ⟨field, hmem, heq.symm⟩)
      rw [List.filter_cons_of_neg (by simpa using hne), ih hrest hmem]

/-- Fields whose labels are distinct names and whose values are legible at a depth. -/
structure Fields (depth : Nat) (fields : List (Word × Value)) : Prop where
  nonempty : fields ≠ []
  names : ∀ field ∈ fields, field.1.isName = true
  distinct : (fields.map fun field => field.1.letters).Nodup
  legible : ∀ field ∈ fields, field.2.Legible depth

theorem Fields.of_labels {fields : List (Word × Value)} (labels : List String)
    (hlabels : labels ≠ [] ∧ (∀ label ∈ labels, (Word.plain label).isName = true) ∧ labels.Nodup)
    (hfields : fields.map Prod.fst = labels.map Word.plain)
    (hlegible : ∀ field ∈ fields, field.2.Legible depth) : Fields depth fields := by
  obtain ⟨hne, hnames, hdistinct⟩ := hlabels
  refine ⟨?_, ?_, ?_, hlegible⟩
  · rintro rfl
    exact hne (List.map_eq_nil_iff.mp hfields.symm)
  · intro field hfield
    have hmem : field.1 ∈ labels.map Word.plain := hfields ▸ List.mem_map_of_mem hfield
    obtain ⟨label, hlabel, heq⟩ := List.mem_map.mp hmem
    rw [← heq]
    exact hnames label hlabel
  · have hletters := congrArg (List.map Word.letters) hfields
    simp only [List.map_map] at hletters
    have hself : (Word.letters ∘ Word.plain) = id := rfl
    rw [hself, List.map_id] at hletters
    exact hletters ▸ hdistinct

theorem Fields.record {fields : List (Word × Value)} (h : Fields depth fields) {name : String}
    (hname : (Word.plain name).isName = true) :
    (Value.record (some (.plain name)) fields).Legible (depth + 2) :=
  .record (fun _ hw => Option.mem_some.mp hw ▸ hname) h.nonempty h.names h.legible

/-- A faithful value is decoded from its field. -/
theorem Fields.decodeField {fields : List (Word × Value)} {more : Nat} (h : Fields depth fields)
    (extensions : Parser.Extensions) (label : String) (ha : Faithful more a)
    (hmem : encodeField label a ∈ fields) : decodeField extensions fields label = some a := by
  have hfilter : fields.filter (fun field => field.1.letters = label) = [encodeField label a] :=
    filter_label_eq h.distinct hmem
  rw [Ron.decodeField, hfilter]
  exact ha.decode_encode extensions

end Codec

end ClassMill.Ron
