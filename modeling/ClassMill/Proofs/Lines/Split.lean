import ClassMill.Proofs.Lines.Basic
import ClassMill.Proofs.Text.Token

/-!
# Splitting text into lines

Text is split at its line breaks. If no line has a break in its content, splitting the text of
lines gives back their characters; if besides no content begins with a space, it gives back
the lines themselves, since then the indentation can be told from the content.
-/

namespace ClassMill

namespace Text

/-- The lines of a text: what stands before each line break, and what is left after the last
one if anything is. -/
def lines : List Char → List (List Char)
  | [] => []
  | c :: text =>
    if c = '\n' then [] :: lines text
    else
      match lines text with
      | [] => [[c]]
      | line :: rest => (c :: line) :: rest

/-- A text without a line break that is followed by one is the first line. -/
theorem lines_append_break {line : List Char} (h : '\n' ∉ line) (text : List Char) :
    lines (line ++ '\n' :: text) = line :: lines text := by
  induction line with
  | nil => simp [lines]
  | cons c line ih =>
    have hc : c ≠ '\n' := fun e => h (by simp [e])
    have hline : '\n' ∉ line := fun hmem => h (List.mem_cons_of_mem c hmem)
    simp [lines, hc, ih hline]

end Text

namespace Line

/-- A line whose content has no line break and does not begin with a space. -/
structure Tidy (l : Line) : Prop where
  noBreak : '\n' ∉ l.content.toList
  noMargin : ∀ c ∈ l.content.toList.head?, c ≠ ' '

theorem newline_not_mem_chars {l : Line} (h : '\n' ∉ l.content.toList) : '\n' ∉ l.chars := by
  intro hmem
  rcases List.mem_append.mp hmem with hmem | hmem
  · have := List.eq_of_mem_replicate hmem
    exact absurd this (by decide)
  · exact h hmem

/-- Splitting the text of lines gives back the characters of each. -/
theorem lines_allChars {ls : List Line} (h : ∀ l ∈ ls, '\n' ∉ l.content.toList) :
    Text.lines (allChars ls) = ls.map chars := by
  induction ls with
  | nil => rfl
  | cons l ls ih =>
    have hl : '\n' ∉ l.chars := newline_not_mem_chars (h l (by simp))
    have hsplit : allChars (l :: ls) = l.chars ++ '\n' :: allChars ls := by
      simp [allChars]
    rw [hsplit, Text.lines_append_break hl, ih fun m hm => h m (List.mem_cons_of_mem l hm)]
    rfl

/-- Splitting the text of tidy lines gives back the characters of each. -/
theorem lines_textOf {ls : List Line} (h : ∀ l ∈ ls, l.Tidy) :
    Text.lines (textOf ls).toList = ls.map chars := by
  rw [textOf, String.toList_ofList, lines_allChars fun l hl => (h l hl).noBreak]

/-- The line with the given characters: its leading spaces are its indentation. -/
def ofChars (chars : List Char) : Line :=
  ⟨(chars.takeWhile (· == ' ')).length, String.ofList (chars.dropWhile (· == ' '))⟩

/-- The lines of a source text. -/
def read (source : String) : List Line := (Text.lines source.toList).map ofChars

/-- The indentation of a line can be told from its content, unless that begins with a space. -/
theorem ofChars_chars {l : Line} (h : ∀ c ∈ l.content.toList.head?, c ≠ ' ') :
    ofChars l.chars = l := by
  obtain ⟨indent, content⟩ := l
  have hmargin : ∀ c ∈ List.replicate indent ' ', (c == ' ') = true := by
    intro c hc
    simpa using List.eq_of_mem_replicate hc
  have hcontent : content.toList.takeWhile (· == ' ') = [] ∧
      content.toList.dropWhile (· == ' ') = content.toList := by
    cases hlist : content.toList with
    | nil => simp
    | cons c rest =>
      have hc : c ≠ ' ' := h c (by simp [hlist])
      simp [hc]
  rw [ofChars, chars, List.takeWhile_append_of_pos hmargin, List.dropWhile_append_of_pos hmargin,
    hcontent.1, hcontent.2, List.append_nil, List.length_replicate, String.ofList_toList]

/-- Tidy lines are read back from their text. -/
theorem read_textOf {ls : List Line} (h : ∀ l ∈ ls, l.Tidy) : read (textOf ls) = ls := by
  rw [read, lines_textOf h, List.map_map]
  exact (List.map_congr_left fun l hl => ofChars_chars (h l hl).noMargin).trans (List.map_id ls)

/-- Tidy lines are determined by their text. -/
theorem eq_of_textOf_eq {ls ms : List Line} (hls : ∀ l ∈ ls, l.Tidy) (hms : ∀ m ∈ ms, m.Tidy)
    (h : textOf ls = textOf ms) : ls = ms := by
  rw [← read_textOf hls, h, read_textOf hms]

end Line

end ClassMill
