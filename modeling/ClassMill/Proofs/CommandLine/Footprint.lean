import ClassMill.Proofs.CommandLine.Product
import ClassMill.Proofs.CommandLine.Untouched

/-!
# Where runs make changes

A run writes the policy and the statistics in its output directory and the classes in the
directory of the package, and makes the directories that are missing on the way to the latter.
Packages are relative paths here. The directory of the package lies at or below the output
directory unless some initial part of the package goes up further than down.
-/

namespace ClassMill.CommandLine

open ClassMill.Random ClassMill.CommandLine.Path

/-! ## Plans -/

/-- An action makes changes only where it may, on every disk that keeps what a disk holds. -/
def Action.ModifiesOnly (d : Disk) (way written : Location → Prop) (a : Action) : Prop :=
  ∀ s : Scene, d.Keeps s.disk → Disk.ModifiesOnly way written s.disk (a.perform s).1.disk

/-- A plan makes changes only where its actions may, wherever it ends. -/
theorem Plan.modifiesOnly_perform {d : Disk} {way written : Location → Prop} {p : Plan}
    (h : ∀ a ∈ p.actions, a.ModifiesOnly d way written) (s : Scene) (hs : d.Keeps s.disk) :
    Disk.ModifiesOnly way written s.disk (p.perform s).1.disk := by
  -- The places are those of the first disk, so its directories have to stay along the run.
  have hrel : d.Keeps s.disk → Disk.ModifiesOnly way written s.disk (p.perform s).1.disk := by
    apply rel_perform (R := fun x y => d.Keeps x → Disk.ModifiesOnly way written x y)
    · exact fun x _ => .refl x
    · intro x y z hfirst hrest hx
      exact (hfirst hx).trans (hrest (hx.trans (hfirst hx).keeps))
    · exact h
  exact hrel hs

namespace Action

variable {d : Disk} {way written : Location → Prop}

theorem modifiesOnly_print (text : String) : (print text).ModifiesOnly d way written :=
  fun s _ => .refl s.disk

theorem modifiesOnly_makeDirectories (path : String) :
    (makeDirectories path).ModifiesOnly d (d.OnWay path) written := fun s hs =>
  (s.disk.modifiesOnly_makeDirectories path).mono (fun _ => hs.onWay_iff.mp) fun _ => id

/-- Writing a file under an ordinary name changes its own place only, also where it fails. -/
theorem modifiesOnly_write {a : Action} {base name text : String} (hname : IsOrdinary name)
    (ha : a = .writeRecord (join base name) text ∨ a = .writeSource (join base name) text)
    (hwritten : written (d.place base ++ [name])) : a.ModifiesOnly d way written := by
  intro s hs
  have hfile : ∀ {disk}, s.disk.write? (join base name) text = some disk →
      Disk.ModifiesOnly way written s.disk disk := by
    intro disk hdisk
    refine (Disk.modifiesOnly_write?_join hname hdisk).mono (fun _ => id) ?_
    rintro l rfl
    rwa [hs.place]
  rcases ha with rfl | rfl <;>
  · rw [perform]
    split
    · next disk hdisk => exact hfile hdisk
    · exact .refl s.disk

end Action

/-- The name of a generated class is a word, whatever the policy. -/
theorem generate_yields_word (g : ClassGenerator) (ctx : Context) :
    (g.generate ctx).Yields fun output => Name.IsWord output.file.name := by
  have hname := Name.identifier_yields_word .type (by decide) (ctx.policy.nameLength .type)
  have hclass : ∀ properties methods, (ClassDecl.draw ctx g.package properties methods).Yields
      fun c => Name.IsWord c.name := fun properties methods =>
    hname.bind fun name hn => (Draw.yields_true _).bind fun ps _ =>
      (Draw.yields_true _).bind fun ms _ => Draw.yields_pure hn.1
  have hdraw : (g.drawClass ctx).Yields fun c => Name.IsWord c.name :=
    (Draw.yields_true _).bind fun methods _ => (Draw.yields_true _).bind fun properties _ =>
      hclass properties methods
  exact hdraw.bind fun c hc => Draw.yields_pure hc

namespace Arguments

variable {args : Arguments}

/-- The place to which the package leads from the output directory. -/
def packagePlace (args : Arguments) (d : Disk) : Location :=
  Disk.walk (d.place args.path) (moves args.packageName)

/-- The directory of a package that is a relative path is where the package leads. -/
theorem place_packageDirectory (h : isAbsolute args.packageName = false) (d : Disk) :
    d.place args.packageDirectory = args.packagePlace d := by
  rw [packageDirectory, Disk.place, d.start_join_of_relative args.path h,
    moves_join_of_relative args.path h, Disk.walk_append, packagePlace, Disk.place]

/-- The places where a run writes files: the policy and the statistics in the output directory,
and the classes in the directory of the package. -/
def Writes (args : Arguments) (d : Disk) (l : Location) : Prop :=
  l = d.place args.path ++ ["policy.ron"] ∨ l = d.place args.path ++ ["statistics.ron"] ∨
    ∃ name, Name.IsWord name ∧ l = args.packagePlace d ++ [name ++ ".gs"]

theorem modifiesOnly_writing (h : isAbsolute args.packageName = false) (d : Disk)
    (attempts : Nat) (ctx : Context) (count : Nat) :
    ∀ a ∈ (args.writing attempts ctx count).actions,
      a.ModifiesOnly d (d.OnWay args.packageDirectory) (args.Writes d) := by
  have hpolicy : IsOrdinary "policy.ron" := by decide
  have hstatistics : IsOrdinary "statistics.ron" := by decide
  refine List.forall_mem_cons.mpr ⟨Action.modifiesOnly_makeDirectories _,
    List.forall_mem_cons.mpr ⟨Action.modifiesOnly_write hpolicy (.inl rfl) (.inl rfl), ?_⟩⟩
  apply Plan.forall_actions_ofClasses
  · refine (generate_yields_word _ _).mono fun output hname => ?_
    rw [classPath_eq]
    refine Action.modifiesOnly_write (isOrdinary_fileName hname) (.inr rfl) ?_
    rw [place_packageDirectory h]
    exact .inr (.inr ⟨_, hname, rfl⟩)
  · intro totals a ha
    split at ha
    · rw [List.mem_singleton.mp ha]
      exact Action.modifiesOnly_write hstatistics (.inl rfl) (.inr (.inl rfl))
    · cases ha

/-- All actions of a run make changes only where it writes files and on the way to the directory
of the package. -/
theorem modifiesOnly_plan (h : isAbsolute args.packageName = false) (d : Disk)
    (attempts : Nat) (entropy : UInt64) (read : String → Option String) :
    ∀ a ∈ (args.plan attempts entropy read).actions,
      a.ModifiesOnly d (d.OnWay args.packageDirectory) (args.Writes d) := by
  by_cases hprints : args.asksForPolicies = true ∨ args.dryRun = true
  · intro a ha
    obtain ⟨text, rfl⟩ := actions_plan hprints a ha
    exact Action.modifiesOnly_print text
  · obtain ⟨hhelp, hdry⟩ := not_or.mp hprints
    rw [plan, if_neg hhelp]
    split
    · exact List.forall_mem_nil _
    · rw [if_neg hdry]
      exact modifiesOnly_writing h d _ _ _

end Arguments

/-! ## Packages below the output directory -/

namespace Path

/-- Whether no initial part of some steps goes up further than down, from a number of levels
below where they may not leave. -/
def stays : Nat → List Step → Bool
  | _, [] => true
  | level, .here :: rest => stays level rest
  | 0, .up :: _ => false
  | level + 1, .up :: rest => stays level rest
  | level, .name _ :: rest => stays (level + 1) rest

/-- A path that leads from a directory only to places at or below it. -/
structure IsInner (path : String) : Prop where
  relative : isAbsolute path = false
  stays : stays 0 (moves path) = true

instance (path : String) : Decidable (IsInner path) :=
  decidable_of_iff (isAbsolute path = false ∧ stays 0 (moves path) = true)
    ⟨fun ⟨hrelative, hstays⟩ => ⟨hrelative, hstays⟩, fun h => ⟨h.relative, h.stays⟩⟩

end Path

/-- Steps that stay below a location lead to places at or below it. -/
theorem Disk.prefix_walk_of_stays {l r : Location} {steps more : List Step}
    (h : stays r.length (steps ++ more) = true) : l <+: walk (l ++ r) steps := by
  induction steps generalizing r with
  | nil => exact List.prefix_append l r
  | cons step steps ih =>
    cases step with
    | here => exact ih h
    | up =>
      rcases List.eq_nil_or_concat r with rfl | ⟨front, last, rfl⟩
      · cases h
      · rw [List.concat_eq_append] at h ⊢
        rw [List.length_append, List.length_singleton] at h
        rw [walk, ← List.append_assoc, List.dropLast_concat]
        exact ih h
    | name letters =>
      rw [walk, List.append_assoc]
      apply ih
      rw [List.length_append, List.length_singleton]
      exact h

section Inner

variable {path : String} (h : IsInner path)

include h

/-- An inner path passes places at or below the one where it starts. -/
theorem Disk.prefix_walk_of_inner (l : Location) {before : List Step}
    (hbefore : before <+: moves path) : l <+: walk l before := by
  have hstays := h.stays
  obtain ⟨more, hmore⟩ := hbefore
  rw [← hmore] at hstays
  simpa using prefix_walk_of_stays (l := l) (r := []) hstays

/-- A place on the way to an inner path that is joined to another one is at or below the place of
that one, or on the way there. -/
theorem Disk.OnWay.of_join {d : Disk} {base : String} {l : Location}
    (hl : d.OnWay (join base path) l) : d.place base <+: l ∨ d.OnWay base l := by
  obtain ⟨before, hbefore, hl⟩ := hl
  rw [moves_join_of_relative base h.relative] at hbefore
  rw [d.start_join_of_relative base h.relative] at hl
  rcases List.prefix_or_prefix_of_prefix hbefore (List.prefix_append _ _) with hfirst | hlater
  · exact .inr ⟨before, hfirst, hl⟩
  · obtain ⟨more, rfl⟩ := hlater
    rw [walk_append] at hl
    have hbelow : d.place base <+: walk (d.place base) more :=
      prefix_walk_of_inner h _ ((List.prefix_append_right_inj _).mp hbefore)
    rcases List.prefix_or_prefix_of_prefix hbelow hl with hplace | habove
    · exact .inl hplace
    · exact .inr ⟨moves base, List.prefix_refl _, habove⟩

end Inner

/-- All changes between two disks are at or below the place of a path, and else at missing places
on the way there that are directories now. -/
def Disk.Confined (path : String) (d d' : Disk) : Prop :=
  d.ModifiesOnly (d.OnWay path) (d.place path <+: ·) d'

/-- A run with an inner package makes changes at or below its output directory only, and on the
way there. -/
theorem Arguments.confined_of_inner {args : Arguments} {d d' : Disk}
    (hinner : IsInner args.packageName)
    (h : d.ModifiesOnly (d.OnWay args.packageDirectory) (args.Writes d) d') :
    d.Confined args.path d' where
  keeps := h.keeps
  changed l hne := by
    have hpackage : d.place args.path <+: args.packagePlace d :=
      Disk.prefix_walk_of_inner hinner _ (List.prefix_refl _)
    rcases h.changed l hne with hwritten | ⟨hway, hmade⟩
    · left
      rcases hwritten with rfl | rfl | ⟨name, -, rfl⟩
      · exact List.prefix_append _ _
      · exact List.prefix_append _ _
      · exact hpackage.trans (List.prefix_append _ _)
    · exact (Disk.OnWay.of_join hinner hway).imp_right (⟨·, hmade⟩)

/-! ## Runs -/

/-- Command lines that start no run change nothing. Other runs with a package that is a relative
path write files in the output directory and where the package leads from there only, and make
missing directories on the way to the latter. If the package is an inner path, all of this is at
or below the output directory, or on the way there. -/
theorem run_footprint (attempts : Nat) (entropy : UInt64) (arguments : List String)
    (disk : Disk) :
    let after := (run attempts entropy arguments disk).1.disk
    (∀ reply, Arguments.parse arguments = .error reply → after = disk) ∧
      ∀ args, Arguments.parse arguments = .ok args → isAbsolute args.packageName = false →
        disk.ModifiesOnly (disk.OnWay args.packageDirectory) (args.Writes disk) after ∧
        (IsInner args.packageName → disk.Confined args.path after) := by
  refine ⟨fun reply hparse => by simp only [run, hparse], fun args hparse hrelative => ?_⟩
  have hmodifies : disk.ModifiesOnly (disk.OnWay args.packageDirectory) (args.Writes disk)
      (run attempts entropy arguments disk).1.disk := by
    rw [scene_run_of_parse hparse]
    exact Plan.modifiesOnly_perform
      (Arguments.modifiesOnly_plan hrelative disk attempts entropy disk.read?)
      ⟨disk, ""⟩ (.refl disk)
  exact ⟨hmodifies, fun hinner => args.confined_of_inner hinner hmodifies⟩

/-- Arguments for one class of the flat policy in a given package. -/
def Arguments.ofPackage (package : String) : Arguments where
  path := "/out"
  classes := 1
  complexity := .simple
  package := some package
  dialect := .standard
  policy := some "flat"
  policyFile := none
  seed := some 7
  maxVariance := Variance.defaultCeiling
  statistics := false
  dryRun := false

/-- A run for one class leaves the directories on the way to that of its package. -/
theorem find?_run_ofPackage {package : String} {arguments : List String} {disk : Disk}
    {l : Location} (hparse : Arguments.parse arguments = .ok (.ofPackage package))
    (hmade : (disk.makeDirectories (join "/out" package)).1.find? l = some .directory) :
    (run 100 0 arguments disk).1.disk.find? l = some .directory := by
  obtain ⟨rest, hplan⟩ : ∃ rest, (Arguments.ofPackage package).plan 100 0 disk.read? =
      .act (.makeDirectories (join "/out" package)) rest := ⟨_, rfl⟩
  rw [scene_run_of_parse hparse, hplan]
  exact (Plan.keeps_perform_act _ rest ⟨disk, ""⟩).directory l hmade

/-- A question for the version, and a package whose path goes up but stays below the output
directory. -/
theorem run_footprint_inner :
    let disk : Disk := ⟨.directory [("old", .file "kept")], []⟩
    let arguments := ["-p", "/out", "-c", "1", "-s", "7", "--policy", "flat", "--package", "a/../b"]
    let after := (run 100 0 arguments disk).1.disk
    (run 100 0 ["-p", "/out", "-V"] disk).1.disk = disk ∧
      IsInner "a/../b" ∧ disk.Confined "/out" after ∧
      after.find? ["old"] = some (.file "kept") ∧ after.find? ["out", "b"] = some .directory := by
  intro disk arguments after
  have hversion : Arguments.parse ["-p", "/out", "-V"] = .error (.about .version) := by
    decide +kernel
  have hparse : Arguments.parse arguments = .ok (.ofPackage "a/../b") := by decide +kernel
  have hinner : IsInner "a/../b" := by decide
  have hconfined := ((run_footprint 100 0 arguments disk).2 _ hparse hinner.relative).2 hinner
  refine ⟨(run_footprint 100 0 _ disk).1 _ hversion, hinner, hconfined, ?_,
    find?_run_ofPackage hparse (by decide +kernel)⟩
  have hold : disk.find? ["old"] = some (.file "kept") := by decide
  by_contra hchanged
  rcases hconfined.changed ["old"] (by rwa [hold]) with hbelow | ⟨-, hnone, -⟩
  · exact absurd hbelow (by decide)
  · rw [hold] at hnone
    cases hnone

/-- A package outside: its directory is made, but neither below the output directory nor on the
way there. -/
theorem run_not_confined :
    let disk : Disk := ⟨.directory [("out", .directory [])], []⟩
    let arguments := ["-p", "/out", "-c", "1", "-s", "7", "--policy", "flat", "--package", "../x"]
    let after := (run 100 0 arguments disk).1.disk
    ∃ args, Arguments.parse arguments = .ok args ∧ disk.place args.path = ["out"] ∧
      disk.find? ["x"] = none ∧ after.find? ["x"] = some .directory ∧
      ¬ ["out"] <+: ["x"] ∧ ¬ disk.OnWay args.path ["x"] ∧ ¬ disk.Confined args.path after := by
  intro disk arguments after
  have hparse : Arguments.parse arguments = .ok (.ofPackage "../x") := by decide +kernel
  have hplace : disk.place "/out" = ["out"] := by decide
  have hmissing : disk.find? ["x"] = none := by decide
  have hmade : after.find? ["x"] = some .directory :=
    find?_run_ofPackage hparse (by decide +kernel)
  have hbelow : ¬ ["out"] <+: ["x"] := by decide
  have hway : ¬ disk.OnWay "/out" ["x"] := by
    rintro ⟨before, hbefore, hwalk⟩
    have hmoves : moves "/out" = [.name "out"] := by decide
    rw [hmoves, List.prefix_cons_iff] at hbefore
    rcases hbefore with rfl | ⟨rest, rfl, hrest⟩
    · exact absurd hwalk (by decide)
    · rw [List.prefix_nil.mp hrest] at hwalk
      exact absurd hwalk (by decide)
  refine ⟨.ofPackage "../x", hparse, hplace, hmissing, hmade, hbelow, hway, ?_⟩
  intro hconfined
  rcases hconfined.changed ["x"] (by simp [hmade, hmissing]) with hplaced | ⟨hpassed, -⟩
  · exact hbelow (hplace ▸ hplaced)
  · exact hway hpassed

end ClassMill.CommandLine
