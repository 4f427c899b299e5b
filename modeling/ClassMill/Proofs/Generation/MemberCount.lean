import ClassMill.Proofs.Generation.Shape
import ClassMill.Proofs.Random.Variance

/-!
# The numbers of members

A class has as many members as were counted for it: the methods are counted first, from their own
base and percentage, and then the properties from theirs. What is known of the samples of a base
is thereby known of the members of a class.
-/

namespace ClassMill

open ClassMill.Random

/-- A class is drawn with as many members as it is asked for. -/
theorem ClassDecl.draw_yields_lengths (ctx : Context) (package : String)
    (properties methods : Nat) :
    (ClassDecl.draw ctx package properties methods).Yields fun c =>
      c.properties.length = properties ∧ c.methods.length = methods :=
  (Draw.yields_true _).bind fun _ _ =>
    (Property.drawList_yields ctx properties).bind fun _ hproperties =>
    ((Draw.yields_true (Method.draw ctx)).listOf Method.size methods).bind fun _ hmethods =>
    Draw.yields_pure ⟨hproperties.1, hmethods.1⟩

/-- A sample of a base faults exactly if the base and the drawn shift have a sum that does not fit
into a signed word, and otherwise it is that sum. The numbers of members of a class come from
samples, each from its own base and percentage, and zero stands for negative samples. -/
theorem ClassGenerator.drawClass_sampled :
    (∀ base percent, Variance.Sampled base percent) ∧
    ∀ (g : ClassGenerator) (ctx : Context) (attempts : Nat) (source rest : Source) (c : ClassDecl),
      g.drawClass ctx attempts source = .ok (c, rest) →
      ∃ methods mid properties after,
        Variance.sample (Variance.capped g.methods) g.methodVariance attempts source =
          .ok (methods, mid) ∧
        Variance.sample (Variance.capped g.properties) g.propertyVariance attempts mid =
          .ok (properties, after) ∧
        Variance.Counted g.methods g.methodVariance methods c.methods.length ∧
        Variance.Counted g.properties g.propertyVariance properties c.properties.length := by
  refine ⟨Variance.sampled, fun g ctx attempts source rest c hrun => ?_⟩
  obtain ⟨methodCount, mid, hmethods, hrun⟩ := Draw.bind_eq_ok.mp hrun
  obtain ⟨propertyCount, after, hproperties, hrun⟩ := Draw.bind_eq_ok.mp hrun
  obtain ⟨hpropertyLength, hmethodLength⟩ := ClassDecl.draw_yields_lengths _ _ _ _ _ _ _ _ hrun
  obtain ⟨methods, hmethodSample, hmethodCount⟩ := Variance.exists_sample_of_count hmethods
  obtain ⟨properties, hpropertySample, hpropertyCount⟩ :=
    Variance.exists_sample_of_count hproperties
  rw [hpropertyLength, hmethodLength]
  exact ⟨methods, mid, properties, after, hmethodSample, hpropertySample, hmethodCount,
    hpropertyCount⟩

/-- A generator of few members that may vary by more than there are. -/
def ClassGenerator.scanty : ClassGenerator := ⟨2, 1, 300.0, 100.0, "pkg"⟩

/-- A negative base may be moved out of the signed words; and where the sample of a count is
negative, a run returns a class without methods. -/
theorem ClassGenerator.drawClass_sampled_negative :
    (∃ s rest, Variance.shift (-10) (-1e300) 1 (.stepper 18446744073709551614 2) =
        .ok (s, rest) ∧ ¬ Variance.Fits ((-10 : Int64).toInt + s.distance)) ∧
      ∃ c rest, scanty.drawClass ⟨.flat, .core, 0⟩ 2
          (.stepper 16176887055209692512 6202141515157441906) = .ok (c, rest) ∧
        c.methods.length = 0 ∧ Variance.Counted 2 300.0 (-4) c.methods.length := by
  obtain ⟨hsampled, hcounted⟩ := drawClass_sampled
  have hfault : Variance.sample (-10) (-1e300) 1 (.stepper 18446744073709551614 2) =
      .error (.fault .addOverflow) := by decide +kernel
  have hvalue : (Variance.sample (Variance.capped 2) 300.0 2
      (.stepper 16176887055209692512 6202141515157441906)).toOption.map Prod.fst =
      some (-4) := by decide +kernel
  have hnone : ((scanty.drawClass ⟨.flat, .core, 0⟩ 2
      (.stepper 16176887055209692512 6202141515157441906)).toOption.map fun r =>
        r.1.methods.length) = some 0 := by decide +kernel
  refine ⟨(((hsampled _ _).fault_iff _ _ _).mp hfault).2, ?_⟩
  cases hrun : scanty.drawClass ⟨.flat, .core, 0⟩ 2
      (.stepper 16176887055209692512 6202141515157441906) with
  | error halt =>
    rw [hrun] at hnone
    cases hnone
  | ok r =>
    rw [hrun] at hnone
    obtain ⟨methods, mid, -, -, hsample, -, hmethods, -⟩ := hcounted _ _ _ _ _ _ hrun
    have hsame : methods = -4 := by
      rw [scanty] at hsample
      rw [hsample] at hvalue
      exact Option.some.inj hvalue
    exact ⟨r.1, r.2, rfl, Option.some.inj hnone, hsame ▸ hmethods⟩

end ClassMill
