import ClassMill.Proofs.CommandLine.Plan
import ClassMill.Proofs.CommandLine.Vacant
import ClassMill.Proofs.Generation.Shape

/-!
# What a writing run leaves

A writing run makes the directory of its package, writes the policy next to it, one file for
each class into it and perhaps the statistics. A class that comes later replaces an earlier one
of the same name, and all other places below the output directory stay as they are.
-/

namespace ClassMill.CommandLine

open ClassMill.Random ClassMill.CommandLine.Path

/-- The source of the last class whose file has a name. -/
def lastSource? (outputs : List Generated) (name : String) : Option String :=
  (outputs.reverse.find? fun o => o.file.name ++ ".gs" = name).map fun o => o.file.source

/-- What a writing run leaves at each place below its output directory. -/
def Arguments.product (args : Arguments) (policy : Policy) (outputs : List Generated)
    (totals : BatchStatistics) : Location → Option Entry
  | [] => some .directory
  | [name] =>
    if name = "policy.ron" then some (.file (Ron.write policy))
    else if name = args.packageName then some .directory
    else if args.statistics ∧ name = "statistics.ron" then some (.file (Ron.write totals))
    else none
  | [package, name] =>
    if package = args.packageName then (lastSource? outputs name).map .file else none
  | _ => none

/-- A class later in the batch takes precedence over the first. -/
theorem lastSource?_cons (o : Generated) (outputs : List Generated) (name : String) :
    lastSource? (o :: outputs) name =
      (lastSource? outputs name).or
        (if o.file.name ++ ".gs" = name then some o.file.source else none) := by
  unfold lastSource?
  rw [List.reverse_cons, List.find?_append, Option.map_or, List.find?_singleton]
  by_cases h : o.file.name ++ ".gs" = name
  · simp [h]
  · simp [h]

/-! ## Actions -/

theorem Action.makeDirectories_of_perform {path : String} {s mid : Scene}
    (h : (Action.makeDirectories path).perform s = (mid, true)) :
    s.disk.makeDirectories path = (mid.disk, true) := by
  rw [perform] at h
  obtain ⟨rfl, hmade⟩ := Prod.mk.inj h
  exact Prod.ext rfl hmade

theorem Action.write?_of_perform {a : Action} {path text : String} {s mid : Scene}
    (ha : a = .writeSource path text ∨ a = .writeRecord path text)
    (h : a.perform s = (mid, true)) : s.disk.write? path text = some mid.disk := by
  rcases ha with rfl | rfl <;>
  · rw [perform] at h
    split at h
    · next disk hdisk =>
      cases h
      exact hdisk
    · cases h

/-- Writing classes one after another leaves the last one of each name in the directory, and
makes no change elsewhere. -/
theorem Plan.perform_writeSources {directory : String} {outputs : List Generated}
    (hwords : ∀ o ∈ outputs, Name.IsWord o.file.name) {more : List Action} {s s' : Scene}
    (h : (ofActions .done (outputs.map (fun o => .writeSource
      (join directory (o.file.name ++ ".gs")) o.file.source) ++ more)).perform s = (s', .done)) :
    ∃ mid, (ofActions .done more).perform mid = (s', .done) ∧ s.disk.Keeps mid.disk ∧
      (∀ name, mid.disk.find? (s.disk.place directory ++ [name]) =
        ((lastSource? outputs name).map .file).or
          (s.disk.find? (s.disk.place directory ++ [name]))) ∧
      ∀ l, (∀ name, l ≠ s.disk.place directory ++ [name]) → mid.disk.find? l = s.disk.find? l := by
  induction outputs generalizing s with
  | nil => exact ⟨s, h, .refl _, fun _ => rfl, fun _ _ => rfl⟩
  | cons o outputs ih =>
    obtain ⟨next, hact, hrest⟩ := perform_act_eq_done_iff.mp h
    have hname := isOrdinary_fileName (hwords o List.mem_cons_self)
    obtain ⟨hkeeps, hfind⟩ := Disk.write?_join hname (Action.write?_of_perform (.inl rfl) hact)
    obtain ⟨mid, hmore, hkeeps', hnames, hother⟩ :=
      ih (fun p hp => hwords p (List.mem_cons_of_mem o hp)) hrest
    rw [hkeeps.place] at hnames hother
    refine ⟨mid, hmore, hkeeps.trans hkeeps', ?_, ?_⟩
    · intro name
      rw [hnames, hfind, lastSource?_cons]
      cases lastSource? outputs name with
      | some source => rfl
      | none =>
        by_cases heq : o.file.name ++ ".gs" = name
        · simp [heq]
        · simp [heq, Ne.symm heq]
    · intro l hl
      rw [hother l hl, hfind, if_neg (hl _)]

/-! ## Runs -/

theorem Arguments.classPath_eq (args : Arguments) (c : GeneratedClass) :
    args.classPath c = join args.packageDirectory (c.name ++ ".gs") := by
  have hname : c.fileName args.dialect.fileExtension = c.name ++ ".gs" := by
    rw [GeneratedClass.fileName, String.append_assoc]
    rfl
  rw [classPath, hname]

/-- Perhaps writing the statistics changes their file only. -/
theorem Arguments.find?_of_statistics {args : Arguments} {text : String} {s s' : Scene}
    (h : (Plan.ofActions .done
      (if args.statistics then [.writeRecord args.statisticsPath text] else [])).perform s =
        (s', .done)) :
    s.disk.Keeps s'.disk ∧ ∀ l, s'.disk.find? l =
      if args.statistics ∧ l = s.disk.place args.path ++ ["statistics.ron"] then some (.file text)
      else s.disk.find? l := by
  cases hstatistics : args.statistics with
  | false =>
    rw [hstatistics] at h
    cases h
    exact ⟨.refl _, by simp⟩
  | true =>
    rw [hstatistics] at h
    obtain ⟨next, hact, hrest⟩ := Plan.perform_act_eq_done_iff.mp h
    cases hrest
    have hname : IsOrdinary "statistics.ron" := by decide
    obtain ⟨hkeeps, hfind⟩ := Disk.write?_join hname (Action.write?_of_perform (.inr rfl) hact)
    refine ⟨hkeeps, ?_⟩
    intro l
    rw [hfind]
    simp

/-- Making the directory of the package in a vacant output directory and writing a policy next to
it leaves these two entries. -/
theorem Arguments.find?_of_preparing {args : Arguments} {text : String} {s made recorded : Scene}
    (hpackage : IsOrdinary args.packageName)
    (hcurrent : s.disk.find? s.disk.current = some .directory) (hvacant : s.disk.Vacant args.path)
    (hmake : (Action.makeDirectories args.packageDirectory).perform s = (made, true))
    (hrecord : (Action.writeRecord args.policyPath text).perform made = (recorded, true)) :
    s.disk.Keeps recorded.disk ∧
      recorded.disk.follow (s.disk.start args.path) (steps args.path) =
        .ok (s.disk.place args.path) ∧
      ∀ l, recorded.disk.find? (s.disk.place args.path ++ l) =
        if l = ["policy.ron"] then some (.file text)
        else if l = [] ∨ l = [args.packageName] then some .directory else none := by
  have hdirectories := Action.makeDirectories_of_perform hmake
  rw [packageDirectory] at hdirectories
  obtain ⟨hkeeps, hfollow, hmade⟩ :=
    Disk.find?_of_makeDirectories hpackage hcurrent hvacant hdirectories
  have hname : IsOrdinary "policy.ron" := by decide
  obtain ⟨hkeeps', hrecorded⟩ :=
    Disk.write?_join hname (Action.write?_of_perform (.inr rfl) hrecord)
  refine ⟨hkeeps.trans hkeeps', hkeeps'.follow hfollow, ?_⟩
  intro l
  rw [hrecorded, hkeeps.place, hmade]
  simp

/-- Writing classes and perhaps the statistics leaves the last class of each name in the
directory of the package and the statistics above it, and makes no change elsewhere. -/
theorem Arguments.find?_of_batch {args : Arguments} {outputs : List Generated} {text : String}
    {s s' : Scene} (hpackage : IsOrdinary args.packageName)
    (hwords : ∀ o ∈ outputs, Name.IsWord o.file.name)
    (h : (Plan.ofActions .done (outputs.map (fun o =>
        .writeSource (args.classPath o.file) o.file.source) ++
      if args.statistics then [.writeRecord args.statisticsPath text] else [])).perform s =
        (s', .done)) :
    s.disk.Keeps s'.disk ∧
      (∀ name, s'.disk.find? (s.disk.place args.path ++ [args.packageName, name]) =
        ((lastSource? outputs name).map .file).or
          (s.disk.find? (s.disk.place args.path ++ [args.packageName, name]))) ∧
      ∀ l, (∀ name, l ≠ [args.packageName, name]) →
        s'.disk.find? (s.disk.place args.path ++ l) =
          if args.statistics ∧ l = ["statistics.ron"] then some (.file text)
          else s.disk.find? (s.disk.place args.path ++ l) := by
  simp only [classPath_eq] at h
  obtain ⟨written, hstatistics, hkeeps, hclasses, hothers⟩ := Plan.perform_writeSources hwords h
  obtain ⟨hkeeps', hlast⟩ := Arguments.find?_of_statistics hstatistics
  rw [hkeeps.place] at hlast
  rw [packageDirectory, Disk.place_join _ _ hpackage] at hclasses hothers
  refine ⟨hkeeps.trans hkeeps', ?_, ?_⟩
  · intro name
    have hclass := hclasses name
    rw [List.append_assoc, List.singleton_append] at hclass
    rw [hlast, hclass]
    simp
  · intro l hl
    have hplace : ∀ name, s.disk.place args.path ++ l ≠
        s.disk.place args.path ++ [args.packageName] ++ [name] := by
      intro name heq
      rw [List.append_assoc, List.append_cancel_left_eq] at heq
      exact hl name heq
    rw [hlast, hothers _ hplace]
    simp

/-- A writing run that ends well leaves its product in a vacant output directory. -/
theorem Arguments.find?_of_writing {args : Arguments} {attempts count : Nat} {ctx : Context}
    {disk : Disk} {s' : Scene} (hpackage : IsOrdinary args.packageName)
    (hnames : args.packageName ≠ "policy.ron" ∧ args.packageName ≠ "statistics.ron")
    (hpolicy : ctx.policy.Accepted) (hcurrent : disk.find? disk.current = some .directory)
    (hvacant : disk.Vacant args.path)
    (h : (args.writing attempts ctx count).perform ⟨disk, ""⟩ = (s', .done)) :
    ∃ outputs rest totals,
      Draw.times (args.generator.generate ctx) count attempts (.ofSeed ctx.seed) =
        .ok (outputs, rest) ∧
      BatchStatistics.ofGenerated outputs = .ok totals ∧
      s'.disk.follow (s'.disk.start args.path) (steps args.path) = .ok (disk.place args.path) ∧
      ∀ l, s'.disk.find? (disk.place args.path ++ l) =
        args.product ctx.policy outputs totals l := by
  obtain ⟨made, hmake, hrest⟩ := Plan.perform_act_eq_done_iff.mp h
  obtain ⟨recorded, hrecord, hbatch⟩ := Plan.perform_act_eq_done_iff.mp hrest
  obtain ⟨outputs, rest, totals, hdrawn, htotals, hactions⟩ :=
    Plan.perform_ofClasses_eq_done_iff.mp hbatch
  refine ⟨outputs, rest, totals, hdrawn, htotals, ?_⟩
  have hwords : ∀ o ∈ outputs, Name.IsWord o.file.name := by
    intro o ho
    obtain ⟨c, hc, rfl⟩ :=
      ((args.generator.generate_yields hpolicy).times count _ _ _ _ hdrawn).2 o ho
    exact hc.name
  obtain ⟨hkeeps, hfollow, hbefore⟩ :=
    Arguments.find?_of_preparing hpackage hcurrent hvacant hmake hrecord
  obtain ⟨hkeeps', hclasses, hothers⟩ := Arguments.find?_of_batch hpackage hwords hactions
  rw [hkeeps.place] at hclasses hothers
  refine ⟨by rw [(hkeeps.trans hkeeps').start]; exact hkeeps'.follow hfollow, ?_⟩
  intro l
  match l with
  | [] =>
    rw [hothers [] nofun, hbefore]
    simp [product]
  | [name] =>
    rw [hothers [name] nofun, hbefore]
    by_cases hpolicyName : name = "policy.ron"
    · simp [product, hpolicyName]
    · by_cases hpackageName : name = args.packageName
      · simp [product, hpackageName, hnames.1, hnames.2]
      · simp [product, hpolicyName, hpackageName]
  | [package, name] =>
    by_cases heq : package = args.packageName
    · rw [heq, hclasses, hbefore]
      simp [product]
    · rw [hothers _ (by simp [heq]), hbefore]
      simp [product, heq]
  | first :: second :: third :: l =>
    rw [hothers _ (by simp), hbefore]
    simp [product]

end ClassMill.CommandLine
