import ClassMill.Proofs.Outline.Braces
import ClassMill.Proofs.Statistics.Recount

/-!
# Reading the lines of a method body

Inside a method, lines lead from one number of open braces to another and reach some greatest
number on the way. Lines one after the other are put together from this. A regular section leads
back to where it began and reaches as many levels as it is deep, although the lines between the
branches of a chain close a brace and open the next one.
-/

namespace ClassMill

namespace Outline

/-- Statements none of which begins like the end of a method. -/
def NoReturn (statements : List (List Char)) : Prop := ∀ s ∈ statements, ¬ returnMark <+: s

theorem NoReturn.append {ss ts : List (List Char)} (hs : NoReturn ss) (ht : NoReturn ts) :
    NoReturn (ss ++ ts) :=
  List.forall_mem_append.mpr ⟨hs, ht⟩

/-- Reading is inside a method with a number of open braces. -/
structure Reading.Inside (depth : Nat) (r : Reading) : Prop where
  current : r.current.isSome = true
  depth_eq : r.depth = depth
  deepest : depth ≤ r.deepest

/-- Goes on inside a method, with more statements and another number of open braces. -/
def Reading.advance (statements : List (List Char)) (depth deepest : Nat) (r : Reading) :
    Reading :=
  { r with
    depth
    deepest := max r.deepest deepest
    current := r.current.map (· ++ statements) }

theorem Reading.Inside.advance {r : Reading} {depth : Nat} (h : r.Inside depth)
    (statements : List (List Char)) {next deepest : Nat} (hnext : next ≤ deepest) :
    (r.advance statements next deepest).Inside next where
  current := by simpa [Reading.advance] using h.current
  depth_eq := rfl
  deepest := by
    simp only [Reading.advance]
    omega

theorem Reading.advance_advance (r : Reading) (ss ts : List (List Char))
    (depth deepest depth' deepest' : Nat) :
    (r.advance ss depth deepest).advance ts depth' deepest' =
      r.advance (ss ++ ts) depth' (max deepest deepest') := by
  simp only [advance, Option.map_map, Nat.max_assoc]
  congr 2
  funext body
  simp

/-- Inside a method, the lines lead from a number of open braces to another and reach a greatest
one, and none of them ends the method. -/
def Passes (ls : List Line) (depth next deepest : Nat) : Prop :=
  ∀ r : Reading, r.Inside depth → ∃ statements, NoReturn statements ∧
    r.run (ls.map Line.chars) = some (r.advance statements next deepest)

theorem passes_nil {depth deepest : Nat} (h : deepest ≤ depth) :
    Passes [] depth depth deepest := by
  intro r hr
  refine ⟨[], by simp [NoReturn], ?_⟩
  have hdeepest : max r.deepest deepest = r.deepest := by
    have := hr.deepest
    omega
  have hcurrent : r.current.map (· ++ []) = r.current := by simp
  rw [Reading.advance, hdeepest, hcurrent, ← hr.depth_eq]
  rfl

/-- Lines one after the other reach what either of them reaches. -/
theorem Passes.append {ls ms : List Line} {depth next last deepest deepest' : Nat}
    (hls : Passes ls depth next deepest) (hnext : next ≤ deepest)
    (hms : Passes ms next last deepest') : Passes (ls ++ ms) depth last (max deepest deepest') := by
  intro r hr
  obtain ⟨ss, hss, hfirst⟩ := hls r hr
  obtain ⟨ts, hts, hsecond⟩ := hms _ (hr.advance ss hnext)
  refine ⟨ss ++ ts, hss.append hts, ?_⟩
  rw [List.map_append, Reading.run_append, hfirst, Option.bind_some, hsecond,
    Reading.advance_advance]

theorem isPrefixOf_eq_false {mark text : List Char} (h : ¬ mark <+: text) :
    mark.isPrefixOf text = false := by
  rw [← Bool.not_eq_true, List.isPrefixOf_iff_prefix]
  exact h

/-- Reading a line that closes no more braces than are open. -/
theorem Reading.step_eq {r : Reading} {l : Line} {opens closes : Nat} (next : Nat)
    (hl : Reads l.content opens closes) (h : r.depth + opens = next + closes) :
    r.step l.chars = some ((r.note l.content.toList).goTo next) := by
  have hnext : next + closes - closes = next := by omega
  rw [step, l.opened_chars, l.closed_chars, l.trim_chars, hl.opened_eq, hl.closed_eq, hl.trim_eq,
    h, hnext, if_neg (by omega)]

/-- Inside a method only the statements of the method grow. -/
theorem Reading.note_inside {r : Reading} {body : List (List Char)} {text : List Char}
    (hbody : r.current = some body) (hdepth : 2 ≤ r.depth) (hmark : ¬ classMark <+: text) :
    r.note text = { r with current := some (body ++ if isStatement text then [text] else []) } := by
  have hmember : ¬ r.depth = 1 := by omega
  simp only [note, isPrefixOf_eq_false hmark, hmember, hdepth, hbody, false_and, true_and,
    Bool.false_eq_true, if_false, Option.map_some]
  split <;> simp

/-- A single line of a body. -/
theorem passes_line {l : Line} {opens closes depth next : Nat}
    (hl : BodyLine l.content opens closes) (h : depth + opens = next + closes)
    (hdepth : 2 ≤ depth) (hnext : 2 ≤ next) : Passes [l] depth next next := by
  intro r hr
  have hlevel := hr.depth_eq
  obtain ⟨body, hbody⟩ := Option.isSome_iff_exists.mp hr.current
  refine ⟨if isStatement l.content.toList then [l.content.toList] else [], ?_, ?_⟩
  · intro s hs
    split at hs
    · rw [List.mem_singleton.mp hs]
      exact hl.notReturn
    · simp at hs
  · have hstay : ¬ next = 1 := by omega
    rw [List.map_cons, List.map_nil, Reading.run,
      Reading.step_eq next hl.toReads (by omega),
      Reading.note_inside hbody (by omega) hl.notHead]
    simp only [Reading.goTo, if_neg hstay, Reading.run, Option.bind_some, Reading.advance, hbody,
      Option.map_some]

theorem Passes.cons {l : Line} {ls : List Line} {opens closes depth next last deepest : Nat}
    (hl : BodyLine l.content opens closes) (h : depth + opens = next + closes)
    (hdepth : 2 ≤ depth) (hnext : 2 ≤ next) (hls : Passes ls next last deepest)
    (hdeepest : next ≤ deepest) : Passes (l :: ls) depth last deepest := by
  have happend := (passes_line hl h hdepth hnext).append (Nat.le_refl next) hls
  rwa [Nat.max_eq_right hdeepest] at happend

end Outline

open Outline

mutual

/-- The lines of a regular section lead back to where they began and reach as many levels as the
section is deep. -/
theorem Section.Regular.passes (dialect : Dialect) : ∀ {s : Section}, s.Regular →
    ∀ indent depth : Nat, 2 ≤ depth →
    Passes (s.lines dialect indent) depth depth (depth + s.depth)
  | .leaf statement, _, indent, depth, hdepth => by
    rw [Section.lines, Section.depth]
    exact passes_line (bodyLine_leafLine dialect statement) rfl hdepth hdepth
  | .branch chain, h, indent, depth, hdepth => by
    rw [Section.Regular] at h
    rw [Section.lines, Section.depth]
    have hchain := Chain.Regular.passes dialect h.2 true (fun _ => h.1) indent hdepth
    have hend : Passes [⟨indent, dialect.blockEnd⟩] (depth + 1) depth depth :=
      passes_line (bodyLine_blockEnd dialect) rfl (by omega) hdepth
    have hall := hchain.append (by omega) hend
    rwa [Nat.max_eq_left (by omega), Nat.add_assoc, Nat.add_comm 1] at hall
  | .loop counter start stop body, h, indent, depth, hdepth => by
    rw [Section.Regular] at h
    rw [Section.lines, Section.depth]
    have hbody := Section.Regular.passes dialect h.2 (indent + Emitter.step)
      (depth + 1) (by omega)
    have hend : Passes [⟨indent, dialect.blockEnd⟩] (depth + 1) depth depth :=
      passes_line (bodyLine_blockEnd dialect) rfl (by omega) hdepth
    have hblock := hbody.append (by omega) hend
    rw [Nat.max_eq_left (by omega), Nat.add_assoc, Nat.add_comm 1] at hblock
    exact hblock.cons (bodyLine_loopHead dialect h.1 start stop) rfl hdepth (by omega) (by omega)

/-- The lines of the branches of a chain leave one block open; the first branch opens it. -/
theorem Chain.Regular.passes (dialect : Dialect) : ∀ {c : Chain}, c.Regular →
    ∀ first : Bool, (first = true → 0 < c.conditionalCount) →
    ∀ (indent : Nat) {depth : Nat}, 2 ≤ depth →
    Passes (c.lines dialect first indent) (if first then depth else depth + 1) (depth + 1)
      (depth + 1 + c.depth)
  | .empty, _, first, hfirst, indent, depth, _ => by
    cases first with
    | true => simp [Chain.conditionalCount] at hfirst
    | false => exact passes_nil (Nat.le_refl _)
  | .otherwise body, h, first, hfirst, indent, depth, hdepth => by
    cases first with
    | true => simp [Chain.conditionalCount] at hfirst
    | false =>
      rw [Chain.Regular] at h
      rw [Chain.lines, Chain.depth]
      have hbody := Section.Regular.passes dialect h (indent + Emitter.step)
        (depth + 1) (by omega)
      rw [if_neg Bool.false_ne_true]
      exact hbody.cons (bodyLine_elseHead dialect) rfl (by omega) (by omega) (by omega)
  | .conditional condition body rest, h, first, _, indent, depth, hdepth => by
    rw [Chain.Regular] at h
    rw [Chain.lines, Chain.depth]
    have hbody := Section.Regular.passes dialect h.1 (indent + Emitter.step)
      (depth + 1) (by omega)
    have hrest := Chain.Regular.passes dialect h.2 false (by simp) indent hdepth
    rw [if_neg Bool.false_ne_true] at hrest
    have hbranches := hbody.append (by omega) hrest
    have hdeepest : max (depth + 1 + body.depth) (depth + 1 + rest.depth) =
        depth + 1 + max body.depth rest.depth := by omega
    rw [hdeepest] at hbranches
    cases first with
    | true =>
      simp only [if_true]
      exact hbranches.cons (bodyLine_ifHead dialect condition) rfl hdepth (by omega) (by omega)
    | false =>
      simp only [Bool.false_eq_true, if_false]
      exact hbranches.cons (bodyLine_elseIfHead dialect condition) rfl (by omega) (by omega)
        (by omega)

end

end ClassMill
