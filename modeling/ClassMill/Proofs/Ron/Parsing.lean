import ClassMill.Proofs.Ron.Rendering
import ClassMill.Ron.Parser

/-!
# Legible values are read back

The reader takes exactly the tokens of a legible value, unless they are followed by parentheses.
Lists are read in as many steps as they have tokens. So the text of a value that is legible at
the greatest depth denotes the value.
-/

namespace ClassMill.Ron.Parser

/-- Tokens that do not begin with parentheses. -/
def Ended (rest : List Token) : Prop := ∀ t ∈ rest.head?, t ≠ .mark '(' ∧ t ≠ .unit

theorem ended_mark {c : Char} (h : c ≠ '(') (rest : List Token) : Ended (.mark c :: rest) := by
  intro t ht
  cases ht
  exact ⟨fun heq => h (Token.mark.inj heq), nofun⟩

/-- Marks that close a list or start an attribute. -/
def stops : List Char := [')', ']', '\x7d', '#']

/-- A reader takes exactly the tokens and gives the result for them. They begin with a token
that closes no list and starts no attribute. -/
structure Reads {α : Type} (read : List Token → Option (α × List Token)) (ts : List Token)
    (a : α) : Prop where
  starts : ∃ t ∈ ts.head?, ∀ c ∈ stops, t ≠ .mark c
  read_append : ∀ rest, Ended rest → read (ts ++ rest) = some (a, rest)

namespace Reads

variable {α : Type} {read : List Token → Option (α × List Token)} {ts : List Token} {a : α}

theorem head?_append_ne (h : Reads read ts a) {c : Char} (hc : c ∈ stops)
    (rest : List Token) : (ts ++ rest).head? ≠ some (.mark c) := by
  obtain ⟨t, ht, hne⟩ := h.starts
  rw [List.head?_append, Option.mem_def.mp ht]
  exact fun heq => hne c hc (Option.some.inj heq)

end Reads

/-! ## Lists -/

section Lists

variable {α : Type} {read : List Token → Option (α × List Token)} {close : Char}

theorem separated_close (read : List Token → Option (α × List Token)) (close : Char)
    (rest : List Token) {count : Nat} (hcount : 0 < count) :
    separated read close count (.mark close :: rest) = some ([], rest) := by
  obtain ⟨count, rfl⟩ := Nat.exists_eq_add_of_le' hcount
  simp [separated]

/-- An item and a comma in front of the rest of a list. -/
theorem separated_comma {ts more rest : List Token} {a : α} {items : List α}
    (h : Reads read ts a) (hclose : close ∈ stops) {count : Nat}
    (hmore : separated read close count more = some (items, rest)) :
    separated read close (count + 1) (ts ++ .mark ',' :: more) = some (a :: items, rest) := by
  have hread := h.read_append (.mark ',' :: more) (ended_mark (by decide) more)
  rw [separated, if_neg (h.head?_append_ne hclose _), hread]
  simp [hmore]

/-- The last item of a list without a comma after it. -/
theorem separated_last {ts : List Token} {a : α} (h : Reads read ts a)
    (hclose : close ∈ stops) (rest : List Token) {count : Nat}
    (hcount : 0 < count) :
    separated read close count (ts ++ .mark close :: rest) = some ([a], rest) := by
  obtain ⟨count, rfl⟩ := Nat.exists_eq_add_of_le' hcount
  have hmark : close ≠ '(' ∧ close ≠ ',' := by
    have hall : ∀ c ∈ stops, c ≠ '(' ∧ c ≠ ',' := List.all_iff_forall_prop.mp (by decide)
    exact hall close hclose
  have hread := h.read_append (.mark close :: rest) (ended_mark hmark.1 rest)
  rw [separated, if_neg (h.head?_append_ne hclose _), hread]
  simp [hmark.2]

/-- Items with a comma after each are read up to the closing mark. -/
theorem separated_flatMap {spell : α → List Token} (hclose : close ∈ stops)
    (rest : List Token) {items : List α} (h : ∀ a ∈ items, Reads read (spell a) a) :
    ∀ count, items.length < count →
      separated read close count
        (items.flatMap (fun a => spell a ++ [.mark ',']) ++ .mark close :: rest) =
          some (items, rest) := by
  induction items with
  | nil => exact fun count hcount => separated_close read close rest hcount
  | cons a items ih =>
    intro count hcount
    obtain ⟨count, rfl⟩ := Nat.exists_eq_add_of_le' hcount
    have ha := h a List.mem_cons_self
    have hitems := ih (fun b hb => h b (List.mem_cons_of_mem a hb)) (count + items.length + 1)
      (by omega)
    have hlist := separated_comma ha hclose hitems
    simpa [List.append_assoc, Nat.add_assoc] using hlist

/-- A list whose items have a comma after each. -/
theorem list_flatMap {spell : α → List Token} (close : Char) (hclose : close ∈ stops)
    (rest : List Token) {items : List α} (h : ∀ a ∈ items, Reads read (spell a) a) :
    list read close (items.flatMap (fun a => spell a ++ [.mark ',']) ++ .mark close :: rest) =
      some (items, rest) := by
  have hlength : items.length ≤ (items.flatMap fun a => spell a ++ [.mark ',']).length := by
    induction items with
    | nil => exact Nat.le_refl 0
    | cons a items ih =>
      have hitems := ih fun b hb => h b (List.mem_cons_of_mem a hb)
      simp only [List.flatMap_cons, List.length_append, List.length_cons, List.length_nil]
      omega
  refine separated_flatMap hclose rest h _ ?_
  simp only [List.length_append, List.length_cons]
  omega

end Lists

theorem lineTokens_eq (items : List Value) :
    lineTokens items = items.flatMap fun v => v.tokens ++ [.mark ','] := by
  induction items with
  | nil => rfl
  | cons v items ih => simp [lineTokens, ih]

theorem fieldTokens_eq (fields : List (Word × Value)) :
    fieldTokens fields =
      fields.flatMap fun field =>
        (.word field.1 :: .mark ':' :: field.2.tokens) ++ [.mark ','] := by
  induction fields with
  | nil => rfl
  | cons field fields ih => simp [fieldTokens, ih]

theorem entryTokens_eq (entries : List (Value × Value)) :
    entryTokens entries =
      entries.flatMap fun entry =>
        (entry.1.tokens ++ .mark ':' :: entry.2.tokens) ++ [.mark ','] := by
  induction entries with
  | nil => rfl
  | cons entry entries ih => simp [entryTokens, ih]

/-- Items with commas in between are read up to the closing parenthesis. -/
theorem list_itemTokens {read : List Token → Option (Value × List Token)} (rest : List Token)
    {items : List Value} (h : ∀ v ∈ items, Reads read v.tokens v) :
    list read ')' (itemTokens items ++ .mark ')' :: rest) = some (items, rest) := by
  suffices hcounts : ∀ count, (itemTokens items).length < count →
      separated read ')' count (itemTokens items ++ .mark ')' :: rest) = some (items, rest) by
    exact hcounts _ (by simp)
  induction items with
  | nil => exact fun count hcount => separated_close read ')' rest hcount
  | cons v items ih =>
    have hv := h v List.mem_cons_self
    cases items with
    | nil => exact fun count hcount => separated_last hv (by decide) rest (by omega)
    | cons w items =>
      intro count hcount
      simp only [itemTokens, List.length_append, List.length_cons] at hcount
      obtain ⟨count, rfl⟩ := Nat.exists_eq_add_of_le' (show 1 ≤ count by omega)
      have hitems := ih (fun u hu => h u (List.mem_cons_of_mem v hu)) count (by omega)
      simpa [itemTokens, List.append_assoc] using separated_comma hv (by decide) hitems

/-! ## Parts of lists -/

theorem Reads.field {read : List Token → Option (Value × List Token)} {name : Word} {v : Value}
    (h : Reads read v.tokens v) :
    Reads (Parser.field read) (.word name :: .mark ':' :: v.tokens) (name, v) where
  starts := ⟨.word name, rfl, fun _ _ => nofun⟩
  read_append rest hrest := by simp [Parser.field, afterColon, h.read_append rest hrest]

theorem Reads.entry {read : List Token → Option (Value × List Token)} {key v : Value}
    (hkey : Reads read key.tokens key) (h : Reads read v.tokens v) :
    Reads (Parser.entry read) (key.tokens ++ .mark ':' :: v.tokens) (key, v) where
  starts := by
    obtain ⟨t, ht, hne⟩ := hkey.starts
    exact ⟨t, by simp [Option.mem_def.mp ht], hne⟩
  read_append rest hrest := by
    have hread := hkey.read_append (.mark ':' :: (v.tokens ++ rest)) (ended_mark (by decide) _)
    simp [Parser.entry, hread, afterColon, h.read_append rest hrest]

/-! ## Words -/

theorem ne_of_isName {w : Word} (h : w.isName = true) :
    ∀ letters ∈ reserved, w ≠ .plain letters := by
  rintro letters hmem rfl
  simp [Word.isName, Word.plain, hmem] at h

theorem wordValue_of_isName {w : Word} (h : w.isName = true) :
    wordValue w = some (.word w) := by
  have hne := ne_of_isName h
  simp [wordValue, hne "true" (by decide), hne "false" (by decide), hne "None" (by decide),
    hne "inf" (by decide), hne "NaN" (by decide), hne "Some" (by decide)]

/-- A word that no parentheses follow denotes its value. -/
theorem value_word {implicit : Bool} {depth : Nat} {w : Word} {v : Value} {rest : List Token}
    (h : wordValue w = some v) (hrest : Ended rest) :
    value implicit depth (.word w :: rest) = some (v, rest) := by
  have hsome : w ≠ .plain "Some" := by
    rintro rfl
    have hnone : wordValue (.plain "Some") = none := by decide
    rw [hnone] at h
    cases h
  cases depth with
  | zero => simp [value, h]
  | succ depth =>
    simp only [value, if_neg hsome, named, h]
    split
    · exact absurd rfl (hrest _ rfl).1
    · exact absurd rfl (hrest _ rfl).2
    · next hv _ _ =>
      cases hv
      rfl
    · next hv => cases hv

/-- A name in front of parentheses belongs to what they hold. -/
theorem value_nameTokens (implicit : Bool) (depth : Nat) {name : Option Word}
    (hname : ∀ w ∈ name, w.isName = true) (rest : List Token) :
    value implicit (depth + 1) (nameTokens name ++ .mark '(' :: rest) =
      body (item implicit depth) name rest := by
  cases name with
  | none => simp [nameTokens, value]
  | some w =>
    have hw := hname w rfl
    have hsome : w ≠ .plain "Some" := ne_of_isName hw "Some" (by decide)
    simp [nameTokens, value, hsome, named, wordValue_of_isName hw]

/-! ## Values -/

/-- The tokens of a value are not taken for the first field of a record. -/
theorem startsRecord_append {depth : Nat} {v : Value} (h : v.Legible depth) {t : Token}
    (ht : t ≠ .mark ':') (rest : List Token) : startsRecord (v.tokens ++ t :: rest) = false := by
  have hword : ∀ w, startsRecord (.word w :: t :: rest) = false := by
    intro w
    unfold startsRecord
    split
    · rename_i heq
      injection heq with _ hrest
      injection hrest with hmark
      exact absurd hmark ht
    · rfl
  have hname : ∀ (name : Option Word) (ts : List Token),
      startsRecord (nameTokens name ++ .mark '(' :: ts) = false := by
    intro name ts
    cases name <;> simp [nameTokens, startsRecord]
  cases h with
  | boolean b => exact hword _
  | number _ => rfl
  | text _ => rfl
  | absent => exact hword _
  | word _ => exact hword _
  | present _ => simp [Value.tokens, startsRecord]
  | tuple _ _ _ => simpa [Value.tokens] using hname _ _
  | record _ _ _ _ => simpa [Value.tokens] using hname _ _
  | sequence _ => rfl
  | mapping _ _ => rfl

/-- The tokens of a value close no list and start no attribute. -/
theorem exists_head_tokens {depth : Nat} {v : Value} (h : v.Legible depth) :
    ∃ t ∈ v.tokens.head?, ∀ c ∈ stops, t ≠ .mark c := by
  have hname : ∀ (name : Option Word) (ts : List Token),
      ∃ t ∈ (nameTokens name ++ .mark '(' :: ts).head?,
        ∀ c ∈ stops, t ≠ .mark c := by
    intro name ts
    cases name with
    | none => exact ⟨.mark '(', rfl, List.all_iff_forall_prop.mp (by decide)⟩
    | some w => exact ⟨.word w, rfl, fun _ _ => nofun⟩
  cases h with
  | boolean b => exact ⟨_, rfl, fun _ _ => nofun⟩
  | number _ => exact ⟨_, rfl, fun _ _ => nofun⟩
  | text _ => exact ⟨_, rfl, fun _ _ => nofun⟩
  | absent => exact ⟨_, rfl, fun _ _ => nofun⟩
  | word _ => exact ⟨_, rfl, fun _ _ => nofun⟩
  | present _ => exact ⟨_, rfl, fun _ _ => nofun⟩
  | tuple _ _ _ => exact hname _ _
  | record _ _ _ _ => exact hname _ _
  | sequence _ => exact ⟨_, rfl, List.all_iff_forall_prop.mp (by decide)⟩
  | mapping _ _ => exact ⟨_, rfl, List.all_iff_forall_prop.mp (by decide)⟩

/-- The reader takes exactly the tokens of a legible value. -/
theorem reads_value {depth : Nat} {v : Value} (h : v.Legible depth) (implicit : Bool) :
    Reads (value implicit depth) v.tokens v := by
  refine ⟨exists_head_tokens h, ?_⟩
  induction h with
  | boolean b =>
    intro rest hrest
    cases b <;> exact value_word rfl hrest
  | number _ => exact fun rest _ => by simp [Value.tokens, value]
  | text _ => exact fun rest _ => by simp [Value.tokens, value]
  | absent => exact fun rest hrest => value_word rfl hrest
  | word hname => exact fun rest hrest => value_word (wordValue_of_isName hname) hrest
  | @present depth v hv ih =>
    intro rest _
    have hreads : ∀ w ∈ [v], Reads (value implicit depth) w.tokens w := by
      rintro w hw
      rw [List.mem_singleton.mp hw]
      exact ⟨exists_head_tokens hv, ih⟩
    have hlist := list_itemTokens rest hreads
    rw [itemTokens] at hlist
    simp [Value.tokens, value, present, presence, hlist]
  | @tuple depth name items hname hne hitems ih =>
    intro rest _
    have hreads : ∀ v ∈ items, Reads (item implicit (depth + 1)) v.tokens v := fun v hv =>
      ⟨exists_head_tokens (hitems v hv), ih v hv⟩
    have hlist := list_itemTokens rest hreads
    have hstart : startsRecord (itemTokens items ++ .mark ')' :: rest) = false := by
      obtain ⟨v, items, rfl⟩ := List.exists_cons_of_ne_nil hne
      have hv := hitems v List.mem_cons_self
      cases items with
      | nil => exact startsRecord_append hv (by decide) rest
      | cons w items =>
        rw [itemTokens, List.append_assoc]
        · exact startsRecord_append hv (by decide) _
        · simp
    have hvalue := value_nameTokens implicit (depth + 1) hname
      (itemTokens items ++ .mark ')' :: rest)
    rw [body, hstart, hlist] at hvalue
    simpa [Value.tokens] using hvalue
  | @record depth name fields hname hne hlabels hfields ih =>
    intro rest _
    have hreads : ∀ f ∈ fields, Reads (field (item implicit (depth + 1)))
        (.word f.1 :: .mark ':' :: f.2.tokens) f := fun f hf =>
      Reads.field ⟨exists_head_tokens (hfields f hf), ih f hf⟩
    have hlist := list_flatMap ')' (by decide) rest hreads
    rw [← fieldTokens_eq] at hlist
    have hstart : startsRecord (fieldTokens fields ++ .mark ')' :: rest) = true := by
      obtain ⟨f, fields, rfl⟩ := List.exists_cons_of_ne_nil hne
      rfl
    have hvalue := value_nameTokens implicit (depth + 1) hname
      (fieldTokens fields ++ .mark ')' :: rest)
    rw [body, hstart, hlist] at hvalue
    simpa [Value.tokens] using hvalue
  | @sequence depth items hitems ih =>
    intro rest _
    have hreads : ∀ v ∈ items, Reads (item implicit (depth + 1)) v.tokens v := fun v hv =>
      ⟨exists_head_tokens (hitems v hv), ih v hv⟩
    have hlist := list_flatMap ']' (by decide) rest hreads
    rw [← lineTokens_eq] at hlist
    simp [Value.tokens, value, hlist]
  | @mapping depth entries hkeys hvalues ihkeys ih =>
    intro rest _
    have hreads : ∀ e ∈ entries, Reads (entry (item implicit (depth + 1)))
        (e.1.tokens ++ .mark ':' :: e.2.tokens) e := fun e he =>
      Reads.entry ⟨exists_head_tokens (hkeys e he), ihkeys e he⟩
        ⟨exists_head_tokens (hvalues e he), ih e he⟩
    have hlist := list_flatMap '\x7d' (by decide) rest hreads
    rw [← entryTokens_eq] at hlist
    simp [Value.tokens, value, hlist]

/-- The tokens of a legible value are a document without attributes. -/
theorem document_tokens {v : Value} (h : v.Legible maxDepth) :
    document v.tokens = some (⟨false⟩, v) := by
  have hreads := reads_value h false
  have hhead := hreads.head?_append_ne (c := '#') (by decide) []
  have hvalue := hreads.read_append [] nofun
  rw [List.append_nil] at hhead hvalue
  have hattributes : attributes v.tokens.length ⟨false⟩ v.tokens = some (⟨false⟩, v.tokens) := by
    unfold attributes
    split
    · next heq =>
      rw [heq] at hhead
      exact absurd rfl hhead
    · rw [if_neg hhead]
  rw [document, hattributes]
  simp only [hvalue]

end ClassMill.Ron.Parser

namespace ClassMill.Ron

/-- The text of a legible value denotes the value. -/
theorem parse_toText {v : Value} (h : v.Legible Parser.maxDepth) :
    parse v.toText = some (⟨false⟩, v) := by
  rw [parse, h.tokens_toText]
  exact Parser.document_tokens h

end ClassMill.Ron
