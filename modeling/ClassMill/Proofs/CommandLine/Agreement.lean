import ClassMill.Proofs.CommandLine.DryRun
import ClassMill.Proofs.CommandLine.Product
import ClassMill.Proofs.Policy.Accepted

/-!
# Dry runs and writing runs agree

With a seed, a writing run that ends well and the dry run of the same arguments draw the same
batch. The one leaves below the output directory what the other prints, as long as the path of
this directory does not make others below it and no text about the program is asked for instead.
-/

namespace ClassMill.CommandLine

open ClassMill.Random ClassMill.CommandLine.Path

/-- The policy of a run is accepted, wherever it comes from. -/
theorem Arguments.accepted_of_resolvePolicy {args : Arguments} {read : String → Option String}
    {p : Policy} (h : args.resolvePolicy read = .ok p) : p.Accepted := by
  unfold resolvePolicy at h
  split at h
  · exact Policy.accepted_of_resolve (Except.mapError_eq_ok.mp h)
  · split at h
    · cases h
    · split at h
      · cases h
      · exact Policy.accepted_of_ofText (Except.mapError_eq_ok.mp h)

/-- A run of arguments that are understood carries out their plan. -/
theorem run_of_parse {attempts : Nat} {entropy : UInt64} {arguments : List String}
    {args : Arguments} {disk : Disk} {s : Scene} {ending : Ending}
    (hparse : Arguments.parse arguments = .ok args)
    (h : (args.plan attempts entropy disk.read?).perform ⟨disk, ""⟩ = (s, ending)) :
    run attempts entropy arguments disk = (s, .ended ending) := by
  simp only [run, hparse, h]

/-- A run whose status is zero carries out all of its plan. -/
theorem perform_plan_of_status {attempts : Nat} {entropy : UInt64} {arguments : List String}
    {args : Arguments} {disk : Disk} (hparse : Arguments.parse arguments = .ok args)
    (h : (run attempts entropy arguments disk).2.status = 0) :
    (args.plan attempts entropy disk.read?).perform ⟨disk, ""⟩ =
      ((run attempts entropy arguments disk).1, .done) := by
  cases hperform : (args.plan attempts entropy disk.read?).perform ⟨disk, ""⟩ with
  | mk s ending =>
    rw [run_of_parse hparse hperform] at h ⊢
    cases ending with
    | done => rfl
    | failed reason =>
      change (1 : UInt32) = 0 at h
      exact absurd h (by decide)
    | halted reason =>
      change (101 : UInt32) = 0 at h
      exact absurd h (by decide)

/-- The plan of a run that ends well goes ahead with a count of classes and a policy. -/
theorem Arguments.exists_checked {args : Arguments} {attempts : Nat} {entropy : UInt64}
    {read : String → Option String} {s s' : Scene} (hhelp : args.asksForPolicies = false)
    (h : (args.plan attempts entropy read).perform s = (s', .done)) :
    ∃ count policy, args.checked read = .ok (count, policy) := by
  unfold plan at h
  rw [hhelp, if_neg Bool.false_ne_true] at h
  split at h
  · cases h
  · next count policy hchecked => exact ⟨count, policy, hchecked⟩

/-- With a seed, the plan of a run does not depend on the entropy. -/
theorem Arguments.plan_of_checked (args : Arguments) {seed : UInt64} {count : Nat}
    {policy : Policy} {read : String → Option String} (hseed : args.seed = some seed)
    (hhelp : args.asksForPolicies = false) (hchecked : args.checked read = .ok (count, policy))
    (attempts : Nat) (entropy : UInt64) :
    args.plan attempts entropy read =
      if args.dryRun then args.printing attempts ⟨policy, args.dialect, seed⟩ count
      else args.writing attempts ⟨policy, args.dialect, seed⟩ count := by
  rw [plan, hhelp, if_neg Bool.false_ne_true, hchecked]
  simp only [context, hseed, Option.getD_some]

theorem Arguments.resolvePolicy_of_checked {args : Arguments} {read : String → Option String}
    {count : Nat} {policy : Policy} (h : args.checked read = .ok (count, policy)) :
    classCount args.classes = .ok count ∧ args.resolvePolicy read = .ok policy := by
  obtain ⟨n, hcount, h⟩ := Except.bind_eq_ok.mp h
  obtain ⟨q, hpolicy, hpair⟩ := Except.bind_eq_ok.mp h
  cases hpair
  exact ⟨Except.mapError_eq_ok.mp hcount, hpolicy⟩

/-- Writing and dry runs agree: a writing run with a seed that ends well leaves the product of
its batch in a vacant output directory, and each dry run of the same arguments prints the
transcript of this batch and leaves the disk alone. -/
theorem run_agrees {attempts : Nat} {entropy seed : UInt64} {arguments : List String}
    {args : Arguments} {disk : Disk} (hparse : Arguments.parse arguments = .ok args)
    (hseed : args.seed = some seed) (hhelp : args.asksForPolicies = false)
    (hwriting : args.dryRun = false) (hpackage : IsOrdinary args.packageName)
    (hnames : args.packageName ≠ "policy.ron" ∧ args.packageName ≠ "statistics.ron")
    (hcurrent : disk.find? disk.current = some .directory) (hvacant : disk.Vacant args.path)
    (hstatus : (run attempts entropy arguments disk).2.status = 0) :
    ∃ count policy outputs rest totals,
      classCount args.classes = .ok count ∧ args.resolvePolicy disk.read? = .ok policy ∧
      Draw.times (args.generator.generate ⟨policy, args.dialect, seed⟩) count attempts
        (.ofSeed seed) = .ok (outputs, rest) ∧
      outputs.length = count ∧ BatchStatistics.ofGenerated outputs = .ok totals ∧
      totals.classes = count ∧
      Arguments.parse ("--dry-run" :: arguments) = .ok { args with dryRun := true } ∧
      (∀ dry other, Arguments.parse dry = .ok { args with dryRun := true } →
        run attempts other dry disk =
          (⟨disk, args.transcript outputs totals⟩, .ended .done)) ∧
      let written := (run attempts entropy arguments disk).1.disk
      written.follow (written.start args.path) (steps args.path) = .ok (disk.place args.path) ∧
        ∀ l, written.find? (disk.place args.path ++ l) =
          args.product policy outputs totals l := by
  have hplan := perform_plan_of_status hparse hstatus
  obtain ⟨count, policy, hchecked⟩ := args.exists_checked hhelp hplan
  obtain ⟨hcount, hpolicy⟩ := args.resolvePolicy_of_checked hchecked
  have hwrite : (args.writing attempts ⟨policy, args.dialect, seed⟩ count).perform ⟨disk, ""⟩ =
      ((run attempts entropy arguments disk).1, .done) := by
    have hplanned := args.plan_of_checked hseed hhelp hchecked attempts entropy
    rwa [hplanned, hwriting, if_neg Bool.false_ne_true] at hplan
  have haccepted : (Context.mk policy args.dialect seed).policy.Accepted :=
    Arguments.accepted_of_resolvePolicy hpolicy
  obtain ⟨outputs, rest, totals, hdrawn, htotals, hfollow, hproduct⟩ :=
    Arguments.find?_of_writing hpackage hnames haccepted hcurrent hvacant hwrite
  have hlength := ((Draw.yields_true _).times count _ _ _ _ hdrawn).1
  refine ⟨count, policy, outputs, rest, totals, hcount, hpolicy, hdrawn, hlength, htotals, ?_,
    Arguments.parse_dryRun hparse hwriting, ?_, hfollow, hproduct⟩
  · have hclasses := BatchStatistics.classes_of_addAll htotals
    have hzero : BatchStatistics.zero.classes = 0 := rfl
    rw [hclasses, hzero, List.length_map, hlength, Nat.zero_add]
  · intro dry other hdry
    have hplanned :=
      Arguments.plan_of_checked { args with dryRun := true } hseed hhelp hchecked attempts other
    apply run_of_parse hdry
    rw [hplanned, if_pos rfl]
    exact Arguments.perform_printing hdrawn htotals disk

/-- Arguments for two classes of the flat policy, with a path that goes up. -/
def Arguments.roundabout : Arguments where
  path := "old/../out"
  classes := 2
  complexity := .simple
  package := none
  dialect := .standard
  policy := some "flat"
  policyFile := none
  seed := some 7
  maxVariance := Variance.defaultCeiling
  statistics := true
  dryRun := false

/-- A disk on which the roundabout path can be followed. -/
def Disk.beforeRoundabout : Disk where
  tree := .directory [("work", .directory [("old", .directory [])])]
  current := ["work"]

/-- A run for two classes and the statistics, and its dry runs. -/
theorem run_agrees_roundabout :
    let arguments := ["-p", "old/../out", "-c", "2", "-s", "7", "--policy", "flat", "--statistics"]
    let disk := Disk.beforeRoundabout
    (run 100 0 arguments disk).2.status = 0 ∧ ∃ outputs totals, totals.classes = 2 ∧
      (∀ other, run 100 other ("--dry-run" :: arguments) disk =
        (⟨disk, Arguments.roundabout.transcript outputs totals⟩, .ended .done)) ∧
      ∀ l, (run 100 0 arguments disk).1.disk.find? (["work", "out"] ++ l) =
        Arguments.roundabout.product .flat outputs totals l := by
  intro arguments disk
  have hparse : Arguments.parse arguments = .ok .roundabout := by decide +kernel
  have hpackage : IsOrdinary Arguments.roundabout.packageName := by decide
  have hfollow : disk.follow (disk.start "old/../out") (steps "old/../out") =
      .ok ["work", "out"] := by decide
  have hvacant : disk.Vacant Arguments.roundabout.path :=
    Disk.vacant_of_follow hfollow (Disk.find?_below_eq_none (by decide))
  have hstatus : (run 100 0 arguments disk).2.status = 0 := by decide +kernel
  obtain ⟨count, policy, outputs, rest, totals, hcount, hpolicy, -, -, -, hclasses, hflag, hdry, -,
    hproduct⟩ := run_agrees hparse rfl rfl rfl hpackage (by decide) rfl hvacant hstatus
  cases hcount
  cases hpolicy
  exact ⟨hstatus, outputs, totals, hclasses, fun other => hdry _ other hflag, hproduct⟩

/-- Arguments for one class, with a path that goes into a directory and back up. -/
def Arguments.detour : Arguments :=
  { roundabout with path := "/out/..", classes := 1, statistics := false }

/-- Command lines that end well without their product. A path may lead through a place below the
one that it leads to; the directory that is made there is no part of the product and stays. And a
question for help is answered before anything is generated, also in a dry run. -/
theorem run_not_agrees :
    let arguments := ["-p", "/out/..", "-c", "1", "-s", "7", "--policy", "flat"]
    let question := ["-p", "/out", "-s", "7", "--help"]
    let disk : Disk := ⟨.empty, []⟩
    let written := (run 100 0 arguments disk).1.disk
    (∃ args, Arguments.parse arguments = .ok args ∧ args.seed.isSome ∧
      args.asksForPolicies = false ∧ args.dryRun = false ∧ IsOrdinary args.packageName ∧
      (args.packageName ≠ "policy.ron" ∧ args.packageName ≠ "statistics.ron") ∧
      disk.find? disk.current = some .directory ∧
      disk.follow (disk.start args.path) (steps args.path) = .error .missing ∧
      (run 100 0 arguments disk).2.status = 0 ∧
      written.follow (written.start args.path) (steps args.path) = .ok [] ∧
      written.find? ["out"] = some .directory ∧
      ∀ policy outputs totals, args.product policy outputs totals ["out"] = none) ∧
    run 100 0 question disk = (⟨disk, Topic.help.text⟩, .replied (.about .help)) ∧
      (run 100 0 question disk).2.status = 0 ∧
      run 100 0 ("--dry-run" :: question) disk = run 100 0 question disk := by
  intro arguments question disk written
  have hrun : (run 100 0 arguments disk).2.status = 0 ∧
      written.follow (written.start "/out/..") (steps "/out/..") = .ok [] ∧
      written.find? ["out"] = some .directory := by decide +kernel
  have hpackage : IsOrdinary "SIMPLE" := by decide
  have hquestion : Arguments.parse question = .error (.about .help) := by decide +kernel
  have hdry : Arguments.parse ("--dry-run" :: question) = .error (.about .help) := by
    decide +kernel
  refine ⟨⟨.detour, by decide +kernel, rfl, rfl, rfl, hpackage, by decide, rfl, by decide,
    hrun.1, hrun.2.1, hrun.2.2, ?_⟩, ?_, ?_, ?_⟩
  · intro policy outputs totals
    rw [Arguments.product, if_neg (by decide), if_neg (by decide), if_neg (by decide)]
  · simp only [run, hquestion, Reply.printed]
  · simp only [run, hquestion, Verdict.status]
  · simp only [run, hquestion, hdry]

end ClassMill.CommandLine
