import ClassMill.Proofs.CommandLine.Plan

/-!
# Dry runs

Putting the flag for a dry run in front of arguments changes nothing else about what they ask
for. A dry run prints the classes of its batch in order and then perhaps the statistics, and
leaves the disk alone.
-/

namespace ClassMill.CommandLine

open ClassMill.Random

namespace Arguments

/-! ## The flag -/

/-- The flag in front of arguments is a setting of its own. -/
theorem settings_dryRun (arguments : List String) :
    settings none ("--dry-run" :: arguments) =
      (settings none arguments).map (⟨.dryRun, none⟩ :: ·) := by
  have hitem : Item.ofArgument "--dry-run" = .ok (.setting ⟨.dryRun, none⟩) := rfl
  rw [settings.eq_def]
  simp only [Option.filter_none, hitem]
  cases settings none arguments <;> rfl

/-- A flag that is not repeated changes the flag and nothing else. -/
theorem ofSettings_dryRun {list : List Setting} (h : list.any (fun s => s.key = .dryRun) = false) :
    ofSettings (⟨.dryRun, none⟩ :: list) =
      (ofSettings list).map fun args => { args with dryRun := true } := by
  have hunfilled : unfilled? (⟨.dryRun, none⟩ :: list) = unfilled? list := rfl
  have hmisuse : misuse? (⟨.dryRun, none⟩ :: list) = misuse? list := by
    rw [misuse?, hunfilled, repeated?, h, if_neg Bool.false_ne_true, misuse?]
  have hvalue : ∀ key, key ≠ .dryRun → value? (⟨.dryRun, none⟩ :: list) key = value? list key := by
    intro key hkey
    simp [value?, Ne.symm hkey]
  have htyped : ∀ {α : Type} (read : String → Option α) (key : Key), key ≠ .dryRun →
      typed read (⟨.dryRun, none⟩ :: list) key = typed read list key := by
    intro α read key hkey
    rw [typed, typed, hvalue key hkey]
  have hstatistics : (⟨.dryRun, none⟩ :: list).any (fun s => s.key = .statistics) =
      list.any fun s => s.key = .statistics := rfl
  have hflag : (⟨.dryRun, none⟩ :: list).any (fun s => s.key = .dryRun) = true := rfl
  unfold ofSettings
  rw [hmisuse, hstatistics, hflag, hvalue .path nofun, hvalue .package nofun,
    hvalue .policy nofun, hvalue .policyFile nofun, htyped _ .classes nofun,
    htyped _ .complexity nofun, htyped _ .dialect nofun, htyped _ .seed nofun,
    htyped _ .maxVariance nofun]
  cases misuse? list with
  | some reason => rfl
  | none =>
    cases value? list .path with
    | none => rfl
    | some path =>
      change _ = (fun args : Arguments => { args with dryRun := true }) <$> _
      simp only [map_bind, map_pure]

/-- A run is a dry run exactly if the flag is among the settings. -/
theorem dryRun_of_ofSettings {list : List Setting} {args : Arguments}
    (h : ofSettings list = .ok args) : args.dryRun = list.any fun s => s.key = .dryRun := by
  have hmap : (fun args => args.dryRun) <$> ofSettings list =
      (fun _ => list.any fun s => s.key = .dryRun) <$> ofSettings list := by
    unfold ofSettings
    cases misuse? list with
    | some reason => rfl
    | none =>
      cases value? list .path with
      | none => rfl
      | some path => simp only [map_bind, map_pure]
  rw [h] at hmap
  exact Except.ok.inj hmap

/-- The flag in front of arguments turns their run into a dry run. -/
theorem parse_dryRun {arguments : List String} {args : Arguments}
    (h : parse arguments = .ok args) (hdry : args.dryRun = false) :
    parse ("--dry-run" :: arguments) = .ok { args with dryRun := true } := by
  obtain ⟨list, hlist, hmapped⟩ := Except.bind_eq_ok.mp h
  have hargs : ofSettings list = .ok args := Except.mapError_eq_ok.mp hmapped
  have hflag : list.any (fun s => s.key = .dryRun) = false := by
    rw [← dryRun_of_ofSettings hargs, hdry]
  rw [parse, settings_dryRun, hlist]
  apply Except.mapError_eq_ok.mpr
  rw [ofSettings_dryRun hflag, hargs]
  rfl

/-! ## What is printed -/

/-- The text of a dry run: the classes in order and perhaps the statistics, each of which a
line break ends. -/
def transcript (args : Arguments) (outputs : List Generated) (totals : BatchStatistics) :
    String :=
  String.join (outputs.map fun o => o.file.source ++ "\n") ++
    if args.statistics then Ron.write totals ++ "\n" else ""

end Arguments

namespace Plan

/-- Texts are printed one after another, and then the rest of the plan is carried out. -/
theorem perform_prints (texts : List String) (more : List Action) (s : Scene) :
    (ofActions .done (texts.map .print ++ more)).perform s =
      (ofActions .done more).perform ⟨s.disk, s.printed ++ String.join texts⟩ := by
  induction texts generalizing s with
  | nil => simp [String.join_nil]
  | cons text texts ih =>
    rw [String.join_cons, ← String.append_assoc]
    exact ih ⟨s.disk, s.printed ++ text⟩

end Plan

/-- A dry run over classes that are drawn and added up prints its text and leaves the disk
alone. -/
theorem Arguments.perform_printing {args : Arguments} {attempts count : Nat} {ctx : Context}
    {outputs : List Generated} {rest : Source} {totals : BatchStatistics}
    (hdrawn : Draw.times (args.generator.generate ctx) count attempts (.ofSeed ctx.seed) =
      .ok (outputs, rest))
    (htotals : BatchStatistics.ofGenerated outputs = .ok totals) (disk : Disk) :
    (args.printing attempts ctx count).perform ⟨disk, ""⟩ =
      (⟨disk, args.transcript outputs totals⟩, .done) := by
  apply Plan.perform_ofClasses_eq_done_iff.mpr
  refine ⟨outputs, rest, totals, hdrawn, htotals, ?_⟩
  have htexts : outputs.map (fun o => Action.print (o.file.source ++ "\n")) =
      (outputs.map fun o => o.file.source ++ "\n").map .print := by simp
  rw [htexts, Plan.perform_prints, transcript]
  cases args.statistics with
  | false => simp [Plan.ofActions, Plan.perform]
  | true => simp [Plan.ofActions, Plan.perform, Action.perform]

end ClassMill.CommandLine
