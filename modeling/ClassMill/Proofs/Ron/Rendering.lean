import ClassMill.Proofs.Ron.Spelling

/-!
# Rendered values spell their tokens

A value has tokens of its own: those of its words, numbers and texts and the marks between them.
Its text spells these tokens at every level, as long as its words and numbers are read as such.
-/

namespace ClassMill.Ron

/-! ## Names -/

/-- Words that do not stand for themselves. -/
def reserved : List String := ["true", "false", "None", "inf", "NaN", "Some"]

/-- A word without the mark that stands for itself. -/
def Word.isName (w : Word) : Bool :=
  !w.raw && isLabel w.letters && !reserved.contains w.letters

theorem spells_name {w : Word} (h : w.isName = true) : Spells w.spelling [.word w] := by
  obtain ⟨raw, letters⟩ := w
  simp only [Word.isName, Bool.and_eq_true, Bool.not_eq_true'] at h
  obtain ⟨⟨rfl, hlabel⟩, -⟩ := h
  exact spells_word hlabel

/-- A name does not begin with a mark. -/
theorem exists_head_spelling {w : Word} (h : w.isName = true) :
    ∃ c ∈ w.spelling.head?, c ≠ ')' := by
  obtain ⟨raw, letters⟩ := w
  simp only [Word.isName, Bool.and_eq_true, Bool.not_eq_true', isLabel] at h
  obtain ⟨⟨rfl, ⟨hstart, -⟩, -⟩, -⟩ := h
  obtain ⟨c, hc, hword⟩ := (Option.any_eq_true _ _).mp hstart
  refine ⟨c, hc, ?_⟩
  rintro rfl
  exact absurd hword (by decide)

/-! ## Tokens of values -/

/-- The token of a name in front of parentheses, if there is one. -/
def nameTokens : Option Word → List Token
  | none => []
  | some name => [.word name]

mutual

/-- The tokens of a value. -/
def Value.tokens : Value → List Token
  | .boolean b => [.word (.plain (if b then "true" else "false"))]
  | .number spelling => [.number spelling]
  | .character c => [.character c]
  | .text content => [.text content]
  | .absent => [.word (.plain "None")]
  | .present v => .word (.plain "Some") :: .mark '(' :: (v.tokens ++ [.mark ')'])
  | .word name => [.word name]
  | .tuple name items => nameTokens name ++ .mark '(' :: (itemTokens items ++ [.mark ')'])
  | .record name fields => nameTokens name ++ .mark '(' :: (fieldTokens fields ++ [.mark ')'])
  | .sequence items => .mark '[' :: (lineTokens items ++ [.mark ']'])
  | .mapping entries => .mark '\x7b' :: (entryTokens entries ++ [.mark '\x7d'])

/-- The tokens of items with commas in between. -/
def itemTokens : List Value → List Token
  | [] => []
  | [v] => v.tokens
  | v :: items => v.tokens ++ .mark ',' :: itemTokens items

/-- The tokens of items with a comma after each. -/
def lineTokens : List Value → List Token
  | [] => []
  | v :: items => v.tokens ++ .mark ',' :: lineTokens items

/-- The tokens of fields with a comma after each. -/
def fieldTokens : List (Word × Value) → List Token
  | [] => []
  | (name, v) :: fields => .word name :: .mark ':' :: (v.tokens ++ .mark ',' :: fieldTokens fields)

/-- The tokens of entries with a comma after each. -/
def entryTokens : List (Value × Value) → List Token
  | [] => []
  | (key, v) :: entries =>
    key.tokens ++ .mark ':' :: (v.tokens ++ .mark ',' :: entryTokens entries)

end

/-- Values that are read back from their texts at a depth: their names and numbers are spelt as
such, their tuples and records are not empty, and they are not nested deeper. -/
inductive Value.Legible : (depth : Nat) → Value → Prop
  | boolean {depth : Nat} (b : Bool) : Legible depth (.boolean b)
  | number {depth : Nat} {spelling : String} (h : isNumeral spelling = true) :
    Legible depth (.number spelling)
  | text {depth : Nat} (content : String) : Legible depth (.text content)
  | absent {depth : Nat} : Legible depth .absent
  | word {depth : Nat} {name : Word} (hname : name.isName = true) : Legible depth (.word name)
  | present {depth : Nat} {v : Value} (h : Legible depth v) : Legible (depth + 1) (.present v)
  | tuple {depth : Nat} {name : Option Word} {items : List Value}
    (hname : ∀ w ∈ name, w.isName = true) (hne : items ≠ [])
    (h : ∀ v ∈ items, Legible depth v) : Legible (depth + 2) (.tuple name items)
  | record {depth : Nat} {name : Option Word} {fields : List (Word × Value)}
    (hname : ∀ w ∈ name, w.isName = true) (hne : fields ≠ [])
    (hlabels : ∀ field ∈ fields, field.1.isName = true)
    (h : ∀ field ∈ fields, Legible depth field.2) : Legible (depth + 2) (.record name fields)
  | sequence {depth : Nat} {items : List Value} (h : ∀ v ∈ items, Legible depth v) :
    Legible (depth + 2) (.sequence items)
  | mapping {depth : Nat} {entries : List (Value × Value)}
    (hkeys : ∀ entry ∈ entries, Legible depth entry.1)
    (h : ∀ entry ∈ entries, Legible depth entry.2) : Legible (depth + 2) (.mapping entries)

namespace Value.Legible

theorem mono {depth more : Nat} {v : Value} (h : v.Legible depth) (hle : depth ≤ more) :
    v.Legible more := by
  induction h generalizing more with
  | boolean b => exact .boolean b
  | number h => exact .number h
  | text content => exact .text content
  | absent => exact .absent
  | word hname => exact .word hname
  | present _ ih =>
    obtain ⟨more, rfl⟩ := Nat.exists_eq_add_of_le' hle
    exact .present (ih (Nat.le_add_left _ _))
  | tuple hname hne _ ih =>
    obtain ⟨more, rfl⟩ := Nat.exists_eq_add_of_le' hle
    exact .tuple hname hne fun v hv => ih v hv (Nat.le_add_left _ _)
  | record hname hne hlabels _ ih =>
    obtain ⟨more, rfl⟩ := Nat.exists_eq_add_of_le' hle
    exact .record hname hne hlabels fun field hfield => ih field hfield (Nat.le_add_left _ _)
  | sequence _ ih =>
    obtain ⟨more, rfl⟩ := Nat.exists_eq_add_of_le' hle
    exact .sequence fun v hv => ih v hv (Nat.le_add_left _ _)
  | mapping _ _ ihkeys ih =>
    obtain ⟨more, rfl⟩ := Nat.exists_eq_add_of_le' hle
    exact .mapping (fun entry hentry => ihkeys entry hentry (Nat.le_add_left _ _))
      fun entry hentry => ih entry hentry (Nat.le_add_left _ _)

theorem exists_head_append {text : List Char} (h : ∃ c ∈ text.head?, c ≠ ')')
    (more : List Char) : ∃ c ∈ (text ++ more).head?, c ≠ ')' := by
  obtain ⟨c, hc, hne⟩ := h
  exact ⟨c, by simp [Option.mem_def.mp hc], hne⟩

theorem exists_head_nameText {name : Option Word} (hname : ∀ w ∈ name, w.isName = true)
    (text : List Char) : ∃ c ∈ (nameText name ++ '(' :: text).head?, c ≠ ')' := by
  cases name with
  | none => exact ⟨'(', rfl, by decide⟩
  | some w => exact exists_head_append (exists_head_spelling (hname w rfl)) ('(' :: text)

/-- The text of a value does not close a parenthesis at once. -/
theorem exists_head_render {depth : Nat} {v : Value} (h : v.Legible depth) (level : Nat) :
    ∃ c ∈ (v.render level).head?, c ≠ ')' := by
  cases h with
  | boolean b => cases b <;> exact ⟨_, rfl, by decide⟩
  | number h =>
    simp only [isNumeral, Bool.and_eq_true] at h
    obtain ⟨c, hc, hstart⟩ := (Option.any_eq_true _ _).mp h.1.1
    refine ⟨c, hc, ?_⟩
    rintro rfl
    exact absurd hstart (by decide)
  | text content => exact ⟨'"', rfl, by decide⟩
  | absent => exact ⟨'N', rfl, by decide⟩
  | word hname => exact exists_head_spelling hname
  | present _ => exact ⟨'S', rfl, by decide⟩
  | tuple hname _ _ => exact exists_head_nameText hname _
  | record hname _ _ _ => exact exists_head_nameText hname _
  | @sequence _ items _ => cases items <;> exact ⟨'[', rfl, by decide⟩
  | @mapping _ entries _ _ => cases entries <;> exact ⟨'\x7b', rfl, by decide⟩

end Value.Legible

/-! ## Texts of values -/

theorem spells_word_boolean (b : Bool) :
    Spells (if b then "true" else "false").toList
      [.word (.plain (if b then "true" else "false"))] := by
  cases b <;> exact spells_word (by decide)

/-- A name in front of an opening parenthesis. -/
theorem spells_nameText {name : Option Word} (hname : ∀ w ∈ name, w.isName = true)
    {text : List Char} {ts : List Token} (h : Spells ('(' :: text) ts) :
    Spells (nameText name ++ '(' :: text) (nameTokens name ++ ts) := by
  cases name with
  | none => exact h
  | some w => exact (spells_name (hname w rfl)).append h (clear_cons (by decide) text)

theorem clear_indentation {text : List Char} (level : Nat) (h : Clear text) :
    Clear (indentation level ++ text) := by
  unfold indentation
  cases 4 * level with
  | zero => exact h
  | succ n => exact clear_cons (by decide) _

namespace Spells

variable {text more : List Char} {ts us : List Token}

/-- A text in front of a comma and more text. -/
theorem comma (h : Spells text ts) (hmore : Spells more us) :
    Spells (text ++ ',' :: more) (ts ++ .mark ',' :: us) :=
  h.append (hmore.mark (by decide) (by decide)) (clear_cons (by decide) more)

/-- A text and a comma on a line of their own. -/
theorem item (level : Nat) (h : Spells text ts) (hmore : Spells more us) :
    Spells (Ron.indentation level ++ text ++ ',' :: '\n' :: more) (ts ++ .mark ',' :: us) := by
  have hnext : Spells ('\n' :: more) us := hmore.blank (by decide)
  rw [List.append_assoc]
  exact (h.comma hnext).indentation level

/-- A label, a colon, a text and a comma on a line of their own. -/
theorem line {label : List Char} {ls : List Token} (level : Nat) (hlabel : Spells label ls)
    (h : Spells text ts) (hmore : Spells more us) :
    Spells (Ron.indentation level ++ label ++ ':' :: ' ' :: (text ++ ',' :: '\n' :: more))
      (ls ++ .mark ':' :: (ts ++ .mark ',' :: us)) := by
  have hnext : Spells ('\n' :: more) us := hmore.blank (by decide)
  have hvalue : Spells (' ' :: (text ++ ',' :: '\n' :: more)) (ts ++ .mark ',' :: us) :=
    (h.comma hnext).blank (by decide)
  have hcolon := hvalue.mark (c := ':') (by decide) (by decide)
  rw [List.append_assoc]
  exact (hlabel.append hcolon (clear_cons (by decide) _)).indentation level

/-- Lines that a mark closes at the start of a line. -/
theorem block {c : Char} (level : Nat) (h : Spells text ts) (hmark : Lexer.isMark c = true)
    (hparen : c ≠ '(') (hclear : Lexer.isRawChar c = false) :
    Spells ('\n' :: (text ++ Ron.indentation level ++ [c])) (ts ++ [.mark c]) := by
  have hclose : Spells (Ron.indentation level ++ [c]) [.mark c] :=
    (nil.mark hmark hparen).indentation level
  have hlines := h.append hclose (clear_indentation level (clear_cons hclear []))
  rw [List.append_assoc]
  exact hlines.blank (by decide)

end Spells

theorem spells_renderItems {items : List Value}
    (h : ∀ v ∈ items, ∀ level, Spells (v.render level) v.tokens) (level : Nat) :
    Spells (renderItems level items) (itemTokens items) := by
  induction items with
  | nil => exact .nil
  | cons v items ih =>
    have hv := h v List.mem_cons_self level
    have hitems := ih fun w hw => h w (List.mem_cons_of_mem v hw)
    cases items with
    | nil => exact hv
    | cons w items =>
      have hnext : Spells (' ' :: renderItems level (w :: items)) (itemTokens (w :: items)) :=
        hitems.blank (by decide)
      exact Spells.comma hv hnext

theorem spells_renderLines {items : List Value}
    (h : ∀ v ∈ items, ∀ level, Spells (v.render level) v.tokens) (level : Nat) :
    Spells (renderLines level items) (lineTokens items) := by
  induction items with
  | nil => exact .nil
  | cons v items ih =>
    have hv := h v List.mem_cons_self level
    have hitems := ih fun w hw => h w (List.mem_cons_of_mem v hw)
    exact Spells.item level hv hitems

theorem spells_renderFields {fields : List (Word × Value)}
    (hlabels : ∀ field ∈ fields, field.1.isName = true)
    (h : ∀ field ∈ fields, ∀ level, Spells (field.2.render level) field.2.tokens) (level : Nat) :
    Spells (renderFields level fields) (fieldTokens fields) := by
  induction fields with
  | nil => exact .nil
  | cons field fields ih =>
    have hlabel := spells_name (hlabels field List.mem_cons_self)
    have hv := h field List.mem_cons_self level
    have hfields := ih (fun f hf => hlabels f (List.mem_cons_of_mem field hf))
      fun f hf => h f (List.mem_cons_of_mem field hf)
    exact Spells.line level hlabel hv hfields

theorem spells_renderEntries {entries : List (Value × Value)}
    (hkeys : ∀ entry ∈ entries, ∀ level, Spells (entry.1.render level) entry.1.tokens)
    (h : ∀ entry ∈ entries, ∀ level, Spells (entry.2.render level) entry.2.tokens)
    (level : Nat) : Spells (renderEntries level entries) (entryTokens entries) := by
  induction entries with
  | nil => exact .nil
  | cons entry entries ih =>
    have hkey := hkeys entry List.mem_cons_self level
    have hv := h entry List.mem_cons_self level
    have hentries := ih (fun e he => hkeys e (List.mem_cons_of_mem entry he))
      fun e he => h e (List.mem_cons_of_mem entry he)
    exact Spells.line level hkey hv hentries

/-- The text of a legible value spells its tokens. -/
theorem Value.Legible.spells_render {depth : Nat} {v : Value} (h : v.Legible depth) :
    ∀ level, Spells (v.render level) v.tokens := by
  induction h with
  | boolean b => exact fun _ => spells_word_boolean b
  | number h => exact fun _ => spells_number h
  | text content => exact fun _ => spells_quoted content
  | absent =>
    have hnone : isLabel "None" = true := by decide
    exact fun _ => spells_word hnone
  | word hname => exact fun _ => spells_name hname
  | @present _ v hv ih =>
    intro level
    have hclose : Spells (v.render level ++ [')']) (v.tokens ++ [.mark ')']) :=
      (ih level).append (Spells.nil.mark (by decide) (by decide)) (clear_cons (by decide) [])
    have hopen : Spells ('(' :: (v.render level ++ [')'])) _ :=
      hclose.parenthesis (exists_head_append (hv.exists_head_render level) _)
    have hsome : Spells "Some".toList [.word (.plain "Some")] := spells_word (by decide)
    exact hsome.append hopen (clear_cons (by decide) _)
  | @tuple _ name items hname hne hitems ih =>
    intro level
    have hclose : Spells (renderItems level items ++ [')']) (itemTokens items ++ [.mark ')']) :=
      (spells_renderItems ih level).append (Spells.nil.mark (by decide) (by decide))
        (clear_cons (by decide) [])
    have hhead : ∃ c ∈ (renderItems level items).head?, c ≠ ')' := by
      obtain ⟨v, items, rfl⟩ := List.exists_cons_of_ne_nil hne
      have hv := (hitems v List.mem_cons_self).exists_head_render level
      cases items with
      | nil => exact hv
      | cons w items => exact exists_head_append hv _
    exact spells_nameText hname (hclose.parenthesis (exists_head_append hhead _))
  | @record _ name fields hname _ hlabels _ ih =>
    intro level
    have hlines := spells_renderFields hlabels ih (level + 1)
    have hblock := hlines.block (c := ')') level (by decide) (by decide) (by decide)
    exact spells_nameText hname (hblock.parenthesis ⟨'\n', rfl, by decide⟩)
  | @sequence _ items _ ih =>
    intro level
    cases items with
    | nil => exact (Spells.nil.mark (c := ']') (by decide) (by decide)).mark (by decide) (by decide)
    | cons v items =>
      have hlines := spells_renderLines ih (level + 1)
      have hblock := hlines.block (c := ']') level (by decide) (by decide) (by decide)
      exact hblock.mark (by decide) (by decide)
  | @mapping _ entries _ _ ihkeys ih =>
    intro level
    cases entries with
    | nil =>
      exact (Spells.nil.mark (c := '\x7d') (by decide) (by decide)).mark (by decide) (by decide)
    | cons entry entries =>
      have hlines := spells_renderEntries ihkeys ih (level + 1)
      have hblock := hlines.block (c := '\x7d') level (by decide) (by decide) (by decide)
      exact hblock.mark (by decide) (by decide)

/-- Reading the text of a legible value gives its tokens. -/
theorem Value.Legible.tokens_toText {depth : Nat} {v : Value} (h : v.Legible depth) :
    Ron.tokens v.toText.toList = some v.tokens := by
  have hread := h.spells_render 0 0 [] [] (fun _ hc => nomatch hc) rfl
  rw [List.append_nil, List.append_nil, Nat.zero_add] at hread
  rw [Value.toText, String.toList_ofList]
  exact hread

end ClassMill.Ron
