import ClassMill.Proofs.Generation.Reach
import ClassMill.Proofs.Lines.Dialects

/-!
# What generation does not depend on

Methods are drawn by the numbers of the policy only: the dialect, the name of the policy and the
seed on record neither change a value nor take or leave a random word. The package is written
into the tree after everything is drawn, so it shows in the first line of the source and nowhere
else.
-/

namespace ClassMill

open ClassMill.Random

/-- Two contexts agree on the numbers of their policies; the dialect, the name of the policy and
the seed on record may be different. -/
def Context.Agrees (ctx other : Context) : Prop :=
  other.policy = { ctx.policy with name := other.policy.name }

/-- The same class in another package. -/
def ClassDecl.inPackage (c : ClassDecl) (package : String) : ClassDecl := { c with package }

/-- The same generator for another package. -/
def ClassGenerator.inPackage (g : ClassGenerator) (package : String) : ClassGenerator :=
  { g with package }

namespace Context.Agrees

variable {ctx other : Context}

/-- A context that agrees with another is that context with a name, a dialect and a seed of its
own. -/
theorem exists_eq (h : ctx.Agrees other) :
    ∃ name dialect seed, other = ⟨{ ctx.policy with name }, dialect, seed⟩ :=
  ⟨other.policy.name, other.dialect, other.seed, by rw [← h]⟩

/-! ## Sections -/

theorem draw_condition (h : ctx.Agrees other) : Condition.draw ctx = Condition.draw other := by
  obtain ⟨name, dialect, seed, rfl⟩ := h.exists_eq
  rfl

theorem draw_chain (h : ctx.Agrees other) (body : Draw Section) :
    Chain.draw ctx body = Chain.draw other body := by
  have hbranch : Chain.drawBranch ctx body = Chain.drawBranch other body := by
    rw [Chain.drawBranch, Chain.drawBranch, h.draw_condition]
  obtain ⟨name, dialect, seed, rfl⟩ := h.exists_eq
  rw [Chain.draw, Chain.draw, hbranch]
  rfl

/-- A block is drawn alike if its bodies are. -/
theorem drawBlock (h : ctx.Agrees other) (body : Draw Section) (kind : BlockKind) :
    Section.drawBlock ctx body kind = Section.drawBlock other body kind := by
  cases kind with
  | branch =>
    rw [Section.drawBlock, Section.drawBlock, Section.drawBranchOf, Section.drawBranchOf,
      h.draw_chain]
  | loop =>
    obtain ⟨name, dialect, seed, rfl⟩ := h.exists_eq
    rfl

/-- Sections are drawn alike, however many levels they have. -/
theorem draw_section (h : ctx.Agrees other) (levels : Nat) :
    Section.draw ctx levels = Section.draw other levels := by
  induction levels with
  | zero => rfl
  | succ levels ih =>
    have hblock : Section.drawBlock ctx (Section.draw ctx levels) =
        Section.drawBlock other (Section.draw other levels) := by
      rw [ih]
      exact funext (h.drawBlock _)
    rw [Section.draw, Section.draw, hblock]
    rfl

/-! ## Methods -/

theorem draw_local (h : ctx.Agrees other) : Local.draw ctx = Local.draw other := by
  obtain ⟨name, dialect, seed, rfl⟩ := h.exists_eq
  have hinitial (kind : InitializerKind) : Initializer.draw ctx kind =
      Initializer.draw ⟨{ ctx.policy with name }, dialect, seed⟩ kind := by
    cases kind <;> rfl
  rw [Local.draw, Local.draw, funext hinitial]
  rfl

theorem draw_method (h : ctx.Agrees other) : Method.draw ctx = Method.draw other := by
  have hlocal := h.draw_local
  have hsection := h.draw_section ctx.policy.maxDepth.toInt.toNat
  obtain ⟨name, dialect, seed, rfl⟩ := h.exists_eq
  rw [Method.draw, Method.draw, hlocal, Section.drawAt, Section.drawAt, hsection]
  rfl

theorem drawList_methods (h : ctx.Agrees other) (count : Nat) :
    Method.drawList ctx count = Method.drawList other count := by
  rw [Method.drawList, Method.drawList, h.draw_method]

/-! ## Classes without properties -/

theorem draw_class (h : ctx.Agrees other) (package : String) (methods : Nat) :
    ClassDecl.draw ctx package 0 methods = ClassDecl.draw other package 0 methods := by
  have hmethods := h.drawList_methods methods
  obtain ⟨name, dialect, seed, rfl⟩ := h.exists_eq
  rw [ClassDecl.draw, ClassDecl.draw, hmethods]
  rfl

/-- A generator that happens to draw a class without properties draws it in both contexts. -/
theorem drawClass (h : ctx.Agrees other) (g : ClassGenerator) {attempts : Nat}
    {source rest : Source} {c : ClassDecl} (hrun : g.drawClass ctx attempts source = .ok (c, rest))
    (hnone : c.properties = []) : g.drawClass other attempts source = .ok (c, rest) := by
  obtain ⟨methods, afterMethods, hmethods, hrun⟩ := Draw.bind_eq_ok.mp hrun
  obtain ⟨properties, afterCounts, hproperties, hrun⟩ := Draw.bind_eq_ok.mp hrun
  have hcount : (ClassDecl.draw ctx g.package properties methods).Yields fun c =>
      c.properties.length = properties :=
    (Draw.yields_true _).bind fun _ _ =>
      (Property.drawList_yields ctx properties).bind fun ps hps =>
      (Draw.yields_true _).bind fun _ _ => Draw.yields_pure hps.1
  have hzero : properties = 0 := by
    rw [← hcount _ _ _ _ hrun, hnone, List.length_nil]
  rw [hzero] at hproperties hrun
  rw [h.draw_class] at hrun
  exact Draw.bind_eq_ok.mpr ⟨methods, afterMethods, hmethods,
    Draw.bind_eq_ok.mpr ⟨0, afterCounts, hproperties, hrun⟩⟩

end Context.Agrees

/-! ## Packages -/

theorem ClassDecl.draw_inPackage (ctx : Context) (package other : String)
    (properties methods : Nat) :
    ClassDecl.draw ctx other properties methods =
      (fun c => c.inPackage other) <$> ClassDecl.draw ctx package properties methods := by
  simp only [ClassDecl.draw, map_bind, map_pure]
  rfl

theorem ClassDecl.statistics_inPackage (c : ClassDecl) (package : String) :
    (c.inPackage package).statistics = c.statistics :=
  rfl

theorem ClassDecl.written_name (c : ClassDecl) (dialect : Dialect) :
    (c.written dialect).file.name = c.name :=
  rfl

/-- The package shows in the first line of the source only. -/
theorem ClassDecl.source_inPackage (c : ClassDecl) (package : String) (dialect : Dialect) :
    ∃ text, c.source dialect = dialect.packageLine c.package ++ "\n" ++ text ∧
      (c.inPackage package).source dialect = dialect.packageLine package ++ "\n" ++ text := by
  have hbreaks : "\n\n" = "\n" ++ "\n" := rfl
  have hheading : c.heading = "\n" ++ ("\n" ++ Dialect.core.classHead c.name ++ "\n") := by
    simp only [heading, hbreaks, String.append_assoc]
  have hsource (other : String) : (c.inPackage other).source dialect =
      dialect.packageLine other ++ "\n" ++
        ("\n" ++ Dialect.core.classHead c.name ++ "\n" ++ c.propertyText dialect ++ c.ending) := by
    have hrest : (c.inPackage other).source dialect =
        dialect.packageLine other ++ (c.heading ++ c.propertyText dialect ++ c.ending) :=
      (c.inPackage other).source_eq_append dialect
    rw [hrest, hheading]
    simp only [String.append_assoc]
  exact ⟨_, hsource c.package, hsource package⟩

namespace ClassGenerator

variable (g : ClassGenerator) (ctx : Context)

theorem drawClass_inPackage (package : String) :
    (g.inPackage package).drawClass ctx =
      (fun c => c.inPackage package) <$> g.drawClass ctx := by
  simp only [drawClass, inPackage, map_bind, ClassDecl.draw_inPackage ctx g.package package]

theorem drawClass_yields_package : (g.drawClass ctx).Yields fun c => c.package = g.package :=
  (Draw.yields_true _).bind fun _ _ => (Draw.yields_true _).bind fun _ _ =>
    (Draw.yields_true _).bind fun _ _ => (Draw.yields_true _).bind fun _ _ =>
    (Draw.yields_true _).bind fun _ _ => Draw.yields_pure rfl

/-- What another package changes in an output: the declaration of the package, before the first
line break of the source. -/
theorem generate_inPackage {attempts : Nat} {source rest : Source} {out : Generated}
    (h : g.generate ctx attempts source = .ok (out, rest)) (package : String) :
    ∃ out', (g.inPackage package).generate ctx attempts source = .ok (out', rest) ∧
      out'.file.name = out.file.name ∧ out'.statistics = out.statistics ∧
      ∃ text, out.file.source = ctx.dialect.packageLine g.package ++ "\n" ++ text ∧
        out'.file.source = ctx.dialect.packageLine package ++ "\n" ++ text := by
  obtain ⟨c, mid, hclass, hwritten⟩ := Draw.bind_eq_ok.mp h
  rw [Draw.pure_apply] at hwritten
  cases hwritten
  have hpackage : c.package = g.package := g.drawClass_yields_package ctx _ _ _ _ hclass
  have hother : (g.inPackage package).drawClass ctx attempts source =
      .ok (c.inPackage package, rest) := by
    rw [drawClass_inPackage, map_eq_pure_bind]
    exact Draw.bind_eq_ok.mpr ⟨c, rest, hclass, rfl⟩
  have hrun : (g.inPackage package).generate ctx attempts source =
      .ok ((c.inPackage package).written ctx.dialect, rest) :=
    Draw.bind_eq_ok.mpr ⟨_, _, hother, Draw.pure_apply _ _ _⟩
  obtain ⟨text, hsource, hsource'⟩ := c.source_inPackage package ctx.dialect
  rw [hpackage] at hsource
  refine ⟨_, hrun, ?_, c.statistics_inPackage package, text, hsource, hsource'⟩
  rw [ClassDecl.written_name, ClassDecl.written_name]
  rfl

/-- What a run does not depend on. In contexts with the same numbers, methods are drawn alike, any
number of them, to the same values and from the same words; so are the classes that have no
properties. A generator for another package gives a class of the same name and with the same
statistics, it leaves the same words, and its source is different before the first line break
only. -/
theorem noninterference {ctx other : Context} (h : ctx.Agrees other) :
    (∀ count, Method.drawList ctx count = Method.drawList other count) ∧
    (∀ package methods,
      ClassDecl.draw ctx package 0 methods = ClassDecl.draw other package 0 methods) ∧
    (∀ (g : ClassGenerator) (attempts : Nat) (source rest : Source) (c : ClassDecl),
      g.drawClass ctx attempts source = .ok (c, rest) → c.properties = [] →
        g.drawClass other attempts source = .ok (c, rest)) ∧
    ∀ (g : ClassGenerator) (package : String) (attempts : Nat) (source rest : Source)
      (out : Generated), g.generate ctx attempts source = .ok (out, rest) →
        ∃ out', (g.inPackage package).generate ctx attempts source = .ok (out', rest) ∧
          out'.file.name = out.file.name ∧ out'.statistics = out.statistics ∧
          ∃ text, out.file.source = ctx.dialect.packageLine g.package ++ "\n" ++ text ∧
            out'.file.source = ctx.dialect.packageLine package ++ "\n" ++ text :=
  ⟨h.drawList_methods, h.draw_class, fun g _ _ _ _ hrun hnone => h.drawClass g hrun hnone,
    fun g package _ _ _ _ hrun => g.generate_inPackage ctx hrun package⟩

end ClassGenerator

/-- The numbers of the standard policy, with another name, dialect and seed. -/
def Context.renamed : Context := ⟨{ Policy.default with name := "b" }, .extended, 7⟩

/-- A run that returns a class of two methods without properties, in either context and in
another package. -/
theorem ClassGenerator.noninterference_renamed :
    ∃ words c out out',
      Context.Agrees ⟨.default, .core, 0⟩ .renamed ∧
      drawClass ⟨2, 0, 0.0, 0.0, "p"⟩ .renamed 1 (.keystream (.ofSeed 0) 0 (words ++ [])) =
        .ok (c, .keystream (.ofSeed 0) 0 []) ∧
      c.properties = [] ∧ c.methods.length = 2 ∧
      generate ⟨2, 0, 0.0, 0.0, "p"⟩ ⟨.default, .core, 0⟩ 1
        (.keystream (.ofSeed 0) 0 (words ++ [])) = .ok (out, .keystream (.ofSeed 0) 0 []) ∧
      generate ⟨2, 0, 0.0, 0.0, "q"⟩ ⟨.default, .core, 0⟩ 1
        (.keystream (.ofSeed 0) 0 (words ++ [])) = .ok (out', .keystream (.ofSeed 0) 0 []) ∧
      out'.file.name = out.file.name ∧ out'.statistics = out.statistics ∧
      ∃ text, out.file.source = "package p" ++ "\n" ++ text ∧
        out'.file.source = "package q" ++ "\n" ++ text := by
  let g : ClassGenerator := ⟨2, 0, 0.0, 0.0, "p"⟩
  let ctx : Context := ⟨.default, .core, 0⟩
  have hagrees : ctx.Agrees .renamed := rfl
  have hdrawable : ctx.policy.Drawable := Policy.drawable_default
  obtain ⟨c, hproperties, hmethods, words, hclass⟩ :=
    g.reaches_drawClass hdrawable Policy.accepted_default (by decide) (by decide)
  have hrun : g.drawClass ctx 1 _ = .ok (c, _) := hclass (.ofSeed 0) 0 []
  have hnone : c.properties = [] := List.eq_nil_of_length_eq_zero hproperties
  have hgenerated : g.generate ctx 1 _ = .ok (c.written .core, _) :=
    Draw.bind_eq_ok.mpr ⟨_, _, hrun, Draw.pure_apply _ _ _⟩
  obtain ⟨-, -, hsame, hpackage⟩ := noninterference hagrees
  obtain ⟨out', hother, hname, hstatistics, text, hsource, hsource'⟩ :=
    hpackage g "q" _ _ _ _ hgenerated
  exact ⟨words, c, _, out', hagrees, hsame g _ _ _ _ hrun hnone, hnone, hmethods, hgenerated,
    hother, hname, hstatistics, text, hsource, hsource'⟩

end ClassMill
