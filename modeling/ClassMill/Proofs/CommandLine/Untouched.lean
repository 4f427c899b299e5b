import ClassMill.Proofs.CommandLine.Keeping
import ClassMill.Proofs.CommandLine.Refused
import ClassMill.Proofs.Random.Outcome

/-!
# Runs that leave the disk alone

Whatever can be refused is checked before the first action on the disk, and a dry run only
prints. So arguments that are not understood, refused requests, questions for the names of the
policies and dry runs change nothing, while every other run begins with its directory.
-/

namespace ClassMill.CommandLine

namespace Plan

@[simp]
theorem actions_ofActions (ending : Ending) (actions : List Action) :
    (ofActions ending actions).actions = actions := by
  induction actions with
  | nil => rfl
  | cons a actions ih => exact congrArg (a :: ·) ih

/-- All actions of the plan for a batch are for a class or for the totals, wherever the batch
ends. -/
theorem forall_actions_ofClasses {good : Action → Prop} {g : ClassGenerator} {ctx : Context}
    {attempts : Nat} {onClass : GeneratedClass → Action}
    {onTotals : BatchStatistics → List Action}
    (hclass : (g.generate ctx).Yields fun output => good (onClass output.file))
    (htotals : ∀ totals, ∀ a ∈ onTotals totals, good a) (count : Nat)
    (totals : BatchStatistics) (source : Random.Source) :
    ∀ a ∈ (ofClasses g ctx attempts onClass onTotals count totals source).actions, good a := by
  induction count generalizing totals source with
  | zero =>
    rw [ofClasses, actions_ofActions]
    exact htotals totals
  | succ count ih =>
    rw [ofClasses]
    split
    · exact List.forall_mem_nil good
    · next output source hrun =>
      refine List.forall_mem_cons.mpr ⟨hclass _ _ _ _ hrun, ?_⟩
      dsimp only
      split
      · exact List.forall_mem_nil good
      · exact ih _ _

/-- A plan that only prints leaves the disk alone. -/
theorem disk_perform_of_prints {p : Plan} (h : ∀ a ∈ p.actions, ∃ text, a = .print text)
    (s : Scene) : (p.perform s).1.disk = s.disk := by
  apply rel_perform (R := fun d d' => d' = d) (fun _ => rfl) (fun _ _ _ h h' => h'.trans h)
  intro a ha s
  obtain ⟨text, rfl⟩ := h a ha
  rfl

end Plan

namespace Arguments

variable {args : Arguments}

/-- A dry run only prints, whether or not it comes to its end. -/
theorem actions_printing (attempts : Nat) (ctx : Context) (count : Nat) :
    ∀ a ∈ (args.printing attempts ctx count).actions, ∃ text, a = .print text := by
  apply Plan.forall_actions_ofClasses
  · exact (Random.Draw.yields_true _).mono fun output _ => ⟨output.file.source ++ "\n", rfl⟩
  · intro totals a ha
    split at ha
    · exact ⟨_, List.mem_singleton.mp ha⟩
    · cases ha

/-- The plan of a question for the names of the policies or of a dry run only prints. -/
theorem actions_plan {attempts : Nat} {entropy : UInt64} {read : String → Option String}
    (h : args.asksForPolicies = true ∨ args.dryRun = true) :
    ∀ a ∈ (args.plan attempts entropy read).actions, ∃ text, a = .print text := by
  unfold plan
  split
  · intro a ha
    rw [Plan.actions_ofActions] at ha
    obtain ⟨name, -, rfl⟩ := List.mem_map.mp ha
    exact ⟨_, rfl⟩
  · next hhelp =>
    have hdry : args.dryRun = true := h.resolve_left hhelp
    split
    · exact List.forall_mem_nil _
    · rw [if_pos hdry]
      exact actions_printing attempts _ _

/-- The plan of a refused request ends before its first action. -/
theorem plan_of_refused {attempts : Nat} {entropy : UInt64} {read : String → Option String}
    {reason : Failure} (hhelp : args.asksForPolicies = false) (h : args.Refused read reason) :
    args.plan attempts entropy read = .ended (.failed reason) := by
  rw [plan, hhelp, if_neg Bool.false_ne_true, checked_eq_error_iff.mpr h]

/-- The plan of a writing run that is not refused begins with the directory of the package. -/
theorem plan_of_writing {attempts : Nat} {entropy : UInt64} {read : String → Option String}
    (hhelp : args.asksForPolicies = false) (hwriting : args.dryRun = false)
    (h : ∀ reason, ¬ args.Refused read reason) :
    ∃ rest, args.plan attempts entropy read =
      .act (.makeDirectories args.packageDirectory) rest := by
  rw [plan, hhelp, if_neg Bool.false_ne_true]
  cases hchecked : args.checked read with
  | error reason => exact absurd (checked_eq_error_iff.mp hchecked) (h reason)
  | ok found =>
    simp only [hwriting, Bool.false_eq_true, if_false]
    exact ⟨_, rfl⟩

end Arguments

/-- The directories that the first action of a plan finds or makes are there when the plan
ends. -/
theorem Plan.keeps_perform_act (a : Action) (rest : Unit → Plan) (s : Scene) :
    (a.perform s).1.disk.Keeps ((act a rest).perform s).1.disk := by
  rw [perform]
  split
  · next mid heq =>
    rw [heq]
    exact (rest ()).keeps_perform mid
  · next mid heq =>
    rw [heq]
    exact .refl mid.disk

/-- The status of arguments that are not understood is that of no run. -/
theorem Verdict.status_ended_ne_two (e : Ending) : (ended e).status ≠ 2 := by
  cases e with
  | done => decide
  | failed reason =>
    change (1 : UInt32) ≠ 2
    decide
  | halted reason =>
    change (101 : UInt32) ≠ 2
    decide

/-- A run leaves what the plan of its arguments leaves. -/
theorem scene_run_of_parse {attempts : Nat} {entropy : UInt64} {arguments : List String}
    {args : Arguments} {disk : Disk} (hparse : Arguments.parse arguments = .ok args) :
    (run attempts entropy arguments disk).1 =
      ((args.plan attempts entropy disk.read?).perform ⟨disk, ""⟩).1 := by
  simp only [run, hparse]

/-- Arguments that are not understood, questions for the names of the policies, dry runs and
refused requests leave the disk alone, and a refused request prints nothing and fails with its
reason. All other runs begin with the directory of the package and keep what is there then. -/
theorem run_leaves_disk (attempts : Nat) (entropy : UInt64) (arguments : List String)
    (disk : Disk) :
    let outcome := run attempts entropy arguments disk
    (outcome.2.status = 2 → outcome.1.disk = disk) ∧
      ∀ args, Arguments.parse arguments = .ok args →
        (args.asksForPolicies = true ∨ args.dryRun = true → outcome.1.disk = disk) ∧
        (args.asksForPolicies = false → ∀ reason, args.Refused disk.read? reason →
          outcome = (⟨disk, ""⟩, .ended (.failed reason))) ∧
        (args.asksForPolicies = false → args.dryRun = false →
          (∀ reason, ¬ args.Refused disk.read? reason) →
          (disk.makeDirectories args.packageDirectory).1.Keeps outcome.1.disk) := by
  refine ⟨?_, fun args hparse => ⟨?_, ?_, ?_⟩⟩
  · intro hstatus
    cases hparse : Arguments.parse arguments with
    | error reason => simp only [run, hparse]
    | ok args =>
      simp only [run, hparse] at hstatus
      exact absurd hstatus (Verdict.status_ended_ne_two _)
  · intro h
    rw [scene_run_of_parse hparse]
    exact Plan.disk_perform_of_prints (Arguments.actions_plan h) ⟨disk, ""⟩
  · intro hhelp reason hrefused
    simp only [run, hparse, Arguments.plan_of_refused hhelp hrefused, Plan.perform]
  · intro hhelp hwriting hsound
    obtain ⟨rest, hplan⟩ : ∃ rest, args.plan attempts entropy disk.read? =
        .act (.makeDirectories args.packageDirectory) rest :=
      Arguments.plan_of_writing hhelp hwriting hsound
    rw [scene_run_of_parse hparse, hplan]
    exact Plan.keeps_perform_act (.makeDirectories args.packageDirectory) rest ⟨disk, ""⟩

/-- Arguments for a dry run with a policy file. -/
def Arguments.rehearsal : Arguments where
  path := "out"
  classes := 2
  complexity := .simple
  package := none
  dialect := .standard
  policy := none
  policyFile := some "own.ron"
  seed := none
  maxVariance := Variance.defaultCeiling
  statistics := false
  dryRun := true

/-- A disk whose policy file ends too early. -/
def Disk.withBrokenPolicy : Disk := ⟨.directory [("own.ron", .file "Policy(name: ")], []⟩

/-- A dry run and a writing run of a policy that cannot be read, and a writing run of the default
policy, which makes the directory of its package. -/
theorem run_leaves_disk_withBrokenPolicy :
    let disk := Disk.withBrokenPolicy
    (run 100 0 ["-p", "out", "-c", "2", "--policy-file", "own.ron", "--dry-run"] disk).1.disk =
        disk ∧
      run 100 0 ["-p", "out", "-c", "2", "--policy-file", "own.ron"] disk =
        (⟨disk, ""⟩, .ended (.failed (.refused .malformedPolicy))) ∧
      (run 100 0 ["-c", "2"] disk).1.disk = disk ∧
      (run 100 0 ["-p", "out", "-c", "2"] disk).1.disk.find? ["out", "SIMPLE"] =
        some .directory := by
  intro disk
  have hdry : Arguments.parse ["-p", "out", "-c", "2", "--policy-file", "own.ron", "--dry-run"] =
      .ok .rehearsal := by decide +kernel
  have hwriting : Arguments.parse ["-p", "out", "-c", "2", "--policy-file", "own.ron"] =
      .ok { Arguments.rehearsal with dryRun := false } := by decide +kernel
  have hdefault : Arguments.parse ["-p", "out", "-c", "2"] =
      .ok { Arguments.rehearsal with policyFile := none, dryRun := false } := by decide +kernel
  have hfile : disk.read? "own.ron" = some "Policy(name: " := by decide +kernel
  have hmalformed : Ron.read Policy "Policy(name: " = none := by decide +kernel
  have hrefused : Arguments.Refused { Arguments.rehearsal with dryRun := false } disk.read?
      (.refused .malformedPolicy) :=
    .policy (by decide) (.malformed rfl rfl hfile hmalformed)
  have hsound : ∀ reason, ¬ Arguments.Refused
      { Arguments.rehearsal with policyFile := none, dryRun := false } disk.read? reason := by
    intro reason hreason
    have hchecked := Arguments.checked_eq_error_iff.mpr hreason
    cases hchecked
  have hstatus : (run 100 0 ["-c", "2"] disk).2.status = 2 := by decide +kernel
  have hmade : (disk.makeDirectories "out/SIMPLE").1.find? ["out", "SIMPLE"] =
      some .directory := by decide +kernel
  refine ⟨?_, ?_, ?_, ?_⟩
  · exact ((run_leaves_disk 100 0 _ disk).2 _ hdry).1 (.inr rfl)
  · exact ((run_leaves_disk 100 0 _ disk).2 _ hwriting).2.1 rfl _ hrefused
  · exact (run_leaves_disk 100 0 _ disk).1 hstatus
  · exact (((run_leaves_disk 100 0 _ disk).2 _ hdefault).2.2 rfl rfl hsound).directory _ hmade

end ClassMill.CommandLine
