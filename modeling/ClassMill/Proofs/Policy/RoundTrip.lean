import ClassMill.CommandLine.Plan
import ClassMill.Proofs.Policy.Accepted
import ClassMill.Proofs.Ron.Faithful

/-!
# Policies are read back from their texts

The fields of a policy have distinct labels, and each of them is written legibly and decoded
again. So the text of an accepted policy denotes the policy, and a run that is given the text
as its policy file takes the policy from it.
-/

namespace ClassMill.Policy

open Ron

/-- The reals of a policy. -/
def reals (p : Policy) : List Float :=
  [p.negation, p.realLiteral.1, p.realLiteral.2, p.truth, p.readonlyChance]

/-- The reals of an accepted policy are finite. -/
theorem Accepted.isFinite_of_mem_reals {p : Policy} (h : p.Accepted) :
    ∀ x ∈ p.reals, x.isFinite = true := by
  obtain ⟨hlow, hhigh, -⟩ := h.realLiteral
  obtain ⟨hnegation, htruth, hreadonly⟩ := h.chances
  have hchance : ∀ x : Float, 0.0 ≤ x ∧ x ≤ 1.0 → x.isFinite = true := fun x hx =>
    Decimal.isFinite_of_between hx.1 hx.2 (by decide +kernel) (by decide +kernel)
  simp only [reals, List.forall_mem_cons]
  exact ⟨hchance _ hnegation, hlow, hhigh, hchance _ htruth, hchance _ hreadonly, nofun⟩

section Faithful

variable {p : Policy} (hfinite : ∀ x ∈ p.reals, x.isFinite = true)
  (hread : ∀ x ∈ p.reals, Decimal.readFloat (Decimal.plainText x) = some x)

include hfinite hread

theorem faithful_of_mem_reals {x : Float} (hx : x ∈ p.reals) (depth : Nat) :
    Codec.Faithful depth x :=
  Codec.faithful_float (hfinite x hx) (hread x hx)

theorem faithful_realLiteral : Codec.Faithful 2 p.realLiteral := by
  have hlow := faithful_of_mem_reals hfinite hread (x := p.realLiteral.1) (by simp [reals]) 0
  have hhigh := faithful_of_mem_reals hfinite hread (x := p.realLiteral.2) (by simp [reals]) 0
  exact hlow.pair hhigh

/-- The values of all fields are written legibly. -/
theorem legible_of_mem_toRecord : ∀ field ∈ p.toRecord, field.2.Legible 2 := by
  have hreal := fun x hx => faithful_of_mem_reals hfinite hread (x := x) hx 2
  have hnegation := hreal p.negation (by simp [reals])
  have htruth := hreal p.truth (by simp [reals])
  have hreadonly := hreal p.readonlyChance (by simp [reals])
  have hrange := faithful_realLiteral hfinite hread
  have hname : Codec.Faithful 2 p.name := Codec.faithful_string _
  have hdepth : Codec.Faithful 2 p.maxDepth := Codec.faithful_int32 _
  have hcounts : ∀ d : Distribution, (Codec.encode d).Legible 2 := fun d =>
    (Codec.faithful_distribution d).legible
  have hlength : ∀ n : UInt64, (Codec.encode n).Legible 2 := fun n =>
    (Codec.faithful_word64 n).legible
  simp only [toRecord, encodeField, List.forall_mem_cons]
  exact ⟨hname.legible, hdepth.legible, hcounts _, hcounts _, hcounts _, hnegation.legible,
    hcounts _, hcounts _, hcounts _, hrange.legible, htruth.legible, hcounts _,
    hreadonly.legible, hlength _, hlength _, hlength _, hlength _, nofun⟩

theorem fields_toRecord : Codec.Fields 2 p.toRecord :=
  .of_labels (Field.all.map Field.label) (by decide) rfl (legible_of_mem_toRecord hfinite hread)

/-- The record of a policy describes the policy. -/
theorem ofRecord?_toRecord (extensions : Parser.Extensions) :
    ofRecord? extensions p.toRecord = some p := by
  have hfield : ∀ {α : Type} [Codec α] (label : String) (a : α), Codec.Faithful 2 a →
      encodeField label a ∈ p.toRecord → decodeField extensions p.toRecord label = some a :=
    fun label _ => (fields_toRecord hfinite hread).decodeField extensions label
  have hreal := fun label x hx =>
    hfield label x (faithful_of_mem_reals hfinite hread (x := x) hx 2)
  have hrange := hfield Field.realLiteral.label _ (faithful_realLiteral hfinite hread)
  have hcounts := fun label d => hfield label d (Codec.faithful_distribution d)
  have hlength := fun label n => hfield label n (Codec.faithful_word64 n)
  rw [ofRecord?, hfield _ p.name (Codec.faithful_string _) (by simp [toRecord]),
    hfield _ p.maxDepth (Codec.faithful_int32 _) (by simp [toRecord]),
    hcounts _ p.sectionCount (by simp [toRecord]), hcounts _ p.branchCount (by simp [toRecord]),
    hcounts _ p.clauseCount (by simp [toRecord]),
    hreal _ p.negation (by simp [reals]) (by simp [toRecord]),
    hcounts _ p.loopStart (by simp [toRecord]), hcounts _ p.loopSpan (by simp [toRecord]),
    hcounts _ p.integerLiteral (by simp [toRecord]), hrange (by simp [toRecord]),
    hreal _ p.truth (by simp [reals]) (by simp [toRecord]),
    hcounts _ p.localCount (by simp [toRecord]),
    hreal _ p.readonlyChance (by simp [reals]) (by simp [toRecord]),
    hlength _ p.typeLength (by simp [toRecord]), hlength _ p.variableLength (by simp [toRecord]),
    hlength _ p.loopVariableLength (by simp [toRecord]),
    hlength _ p.methodLength (by simp [toRecord])]
  rfl

/-- A policy is faithful if its reals are finite and denoted by their plain texts. -/
theorem faithful : Codec.Faithful 4 p where
  legible := (fields_toRecord hfinite hread).record (by decide)
  decode_encode extensions := ofRecord?_toRecord hfinite hread extensions

end Faithful

/-- Reading the text of an accepted policy gives the policy, and so does the policy file that
holds this text, provided that the reals of the policy are denoted by their plain texts. -/
theorem Draft.ofText_write_of_build {d : Draft} {p : Policy} (h : d.build = .ok p)
    (hread : ∀ x ∈ p.reals, Decimal.readFloat (Decimal.plainText x) = some x) :
    ofText (Ron.write p) = .ok p ∧
      ∀ (args : CommandLine.Arguments) (path : String) (read : String → Option String),
        args.policyFile = some path → args.policy = none → read path = some (Ron.write p) →
          args.resolvePolicy read = .ok p := by
  have haccepted : p.Accepted := d.accepted_of_build h
  have hfaithful := faithful haccepted.isFinite_of_mem_reals hread
  have hvalue := (hfaithful.mono (by decide)).read_write
  have htext : ofText (Ron.write p) = .ok p := by
    rw [ofText, hvalue]
    simp only [haccepted.build_ofPolicy]
    rfl
  refine ⟨htext, ?_⟩
  intro args path read hfile hnone hpath
  simp only [CommandLine.Arguments.resolvePolicy, hfile, hnone, hpath, htext]
  rfl

/-- A policy with extreme numbers, whose name needs every kind of escape. -/
def intricate : Policy :=
  { default with
    name := "\x00\t\r\n\x27\"\\ \u0301\u200b\ue000 Some(1), // )"
    maxDepth := -2147483648
    sectionCount := .const 4
    clauseCount := .uniform 1 18446744073709551615
    negation := -0.0
    realLiteral := (-1.7976931348623157e308, 5e-324)
    truth := 0.1
    typeLength := 18446744073709551615 }

/-- The intricate policy is read back from its text, and from a policy file that holds it. -/
theorem ofText_write_intricate :
    (Draft.ofPolicy intricate).build = .ok intricate ∧
      (∀ x ∈ intricate.reals, Decimal.readFloat (Decimal.plainText x) = some x) ∧
      ofText (Ron.write intricate) = .ok intricate ∧
      ∃ args : CommandLine.Arguments,
        CommandLine.Arguments.parse ["--path", "out", "--policy-file", "old/policy.ron"] =
          .ok args ∧
          args.resolvePolicy (fun _ => some (Ron.write intricate)) = .ok intricate := by
  have hbuild : (Draft.ofPolicy intricate).build = .ok intricate := by
    have haccepted : intricate.Accepted := brokenRule?_eq_none_iff.mp (by decide +kernel)
    exact haccepted.build_ofPolicy
  have hread : ∀ x ∈ intricate.reals,
      Decimal.readFloat (Decimal.plainText x) = some x := by
    decide +kernel
  obtain ⟨htext, hfile⟩ := Draft.ofText_write_of_build hbuild hread
  exact ⟨hbuild, hread, htext, _, rfl, hfile _ "old/policy.ron" _ rfl rfl rfl⟩

end ClassMill.Policy
