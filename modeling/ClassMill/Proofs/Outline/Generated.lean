import ClassMill.Proofs.Generation.Reach
import ClassMill.Proofs.Outline.OfClass

/-!
# The outline of generated classes

Whatever the policy, the dialect and the random words, a generated class in a plain package has
an outline that agrees with the statistics it is returned with, and every method in it is
exactly as deep as the policy asks for and ends in its only result.
-/

namespace ClassMill

open ClassMill.Random

/-- The statements of a method begin like a result at their end only, and the result there is a
word in decimal digits. -/
structure MethodOutline.EndsInResult (m : MethodOutline) (before : List (List Char))
    (value : Nat) : Prop where
  noReturn : Outline.NoReturn before
  statements : ∃ digits, Decimal.readNat digits = some value ∧
    m.statements = before ++ ["return ".toList ++ digits]
  fits : value < UInt64.size

/-- An outline describes a generated class: it has one class head, with the name of the class,
as many properties and methods as the statistics say, the properties numbered from one, and
methods that are as deep as blocks within blocks may be nested. -/
structure Outline.Describes (o : Outline) (out : Generated) (maxDepth : Int32) : Prop where
  classHeads : o.classHeads = [("public class " ++ out.file.name ++ " \x7b").toList]
  properties : o.properties.length = out.statistics.properties
  propertyNames : ∀ i, ∀ h : i < o.properties.length,
    "var _property".toList ++ Nat.toDigits 10 (i + 1) ++ " :".toList <+: o.properties[i]
  methods : o.methods.length = out.statistics.methods
  deepest : ∀ m ∈ o.methods, (m.deepest : Int) = 2 + max 0 maxDepth.toInt
  results : ∀ m ∈ o.methods, ∃ before value, m.EndsInResult before value
  maxDepth : (out.statistics.maxDepth : Int) =
    if out.statistics.methods = 0 then 0 else max 0 maxDepth.toInt

theorem DefaultValue.Plain.defaultLiteral {dialect : Dialect} {type : PropertyType}
    {v : DefaultValue} (h : v.Plain) : Text.Plain (dialect.defaultLiteral type v) := by
  apply dialect.plain_defaultLiteral
  intro text htext
  cases v with
  | text content =>
    rw [List.mem_singleton.mp htext]
    exact h
  | _ => simp [DefaultValue.texts] at htext

/-- The line of a property begins with the name of its field. -/
theorem Dialect.fieldName_prefix (dialect : Dialect) (p : Property) :
    "var _property".toList ++ Nat.toDigits 10 p.ordinal.toNat ++ " :".toList <+:
      (dialect.propertyLine p).toList := by
  have hmark : "var _property" = "var " ++ "_property" := rfl
  have hcolon : " : " = " :" ++ " " := rfl
  have hline : dialect.propertyLine p = "var _property" ++ wordText p.ordinal ++ " :" ++
      (" " ++ dialect.typeName p.type ++ " as " ++ (if p.readonly then "readonly " else "") ++
        p.accessorName ++ " = " ++ dialect.defaultLiteral p.type p.default) := by
    simp only [propertyLine, Property.fieldName, hmark, hcolon, String.append_assoc]
  rw [hline, String.toList_append, String.toList_append, String.toList_append,
    Text.toList_wordText]
  exact List.prefix_append _ _

/-- The outline of a method ends in its result. -/
theorem Method.Outlined.endsInResult {dialect : Dialect} {m : Method} {o : MethodOutline}
    (h : m.Outlined dialect o) : ∃ before value, o.EndsInResult before value := by
  obtain ⟨before, hbefore, hstatements⟩ := h.statements
  refine ⟨before, m.result.toNat, hbefore, ⟨Nat.toDigits 10 m.result.toNat,
    Text.readNat_toDigits _, ?_⟩, m.result.toNat_lt⟩
  rw [hstatements, Dialect.returnLine, String.toList_append, Text.toList_wordText]

namespace Section

/-- Sections of one depth have that depth as their greatest, if there are any. -/
theorem greatestDepth_eq {depth : Nat} {items : List Section} (hne : items ≠ [])
    (h : ∀ s ∈ items, s.depth = depth) : greatestDepth items = depth := by
  induction items with
  | nil => exact absurd rfl hne
  | cons s items ih =>
    have hstep : greatestDepth (s :: items) = max s.depth (greatestDepth items) := rfl
    have hfirst := h s (by simp)
    rw [hstep, hfirst]
    cases items with
    | nil => exact Nat.max_zero depth
    | cons t items =>
      rw [ih (List.cons_ne_nil t items) fun u hu => h u (List.mem_cons_of_mem s hu)]
      exact Nat.max_self depth

end Section

theorem Method.Shaped.greatestDepth {depth : Nat} {m : Method} (h : m.Shaped depth) :
    Section.greatestDepth m.sections = depth :=
  Section.greatestDepth_eq h.nonempty h.depth_eq

theorem Policy.levels_eq (p : Policy) : (p.levels : Int) = max 0 p.maxDepth.toInt := by
  unfold levels
  omega

namespace ClassDecl

variable {ctx : Context} {package : String} {c : ClassDecl}

/-- The statistics of a drawn class know the depth that the policy asks for, if the class has
methods. -/
theorem Shaped.maxDepth (h : c.Shaped ctx package) :
    (c.statistics.maxDepth : Int) =
      if c.methods.length = 0 then 0 else max 0 ctx.policy.maxDepth.toInt := by
  rw [statistics_eq]
  by_cases hnone : c.methods = []
  · rw [if_pos (by simp [hnone])]
    simp [topSections, hnone, Section.greatestDepth]
  · have hdepth : ∀ s ∈ c.topSections, s.depth = ctx.policy.levels := by
      intro s hs
      obtain ⟨m, hm, hmem⟩ := List.mem_flatMap.mp hs
      exact (h.methods m hm).depth_eq s hmem
    have hsections : c.topSections ≠ [] := by
      obtain ⟨m, rest, hmethods⟩ := List.exists_cons_of_ne_nil hnone
      have hm := (h.methods m (by simp [hmethods])).nonempty
      simp [topSections, hmethods, hm]
    rw [if_neg (by simpa using hnone), ← Policy.levels_eq]
    exact congrArg Int.ofNat (Section.greatestDepth_eq hsections hdepth)

/-- The lines of drawn properties begin with the names of their positions. -/
theorem Shaped.propertyNames (h : c.Shaped ctx package) (i : Nat) (hi : i < c.properties.length) :
    "var _property".toList ++ Nat.toDigits 10 (i + 1) ++ " :".toList <+:
      (ctx.dialect.propertyLine c.properties[i]).toList := by
  have hprefix := ctx.dialect.fieldName_prefix c.properties[i]
  rwa [h.ordinals i hi] at hprefix

/-- A drawn class in a plain package has an outline that describes it. -/
theorem Shaped.outline (h : c.Shaped ctx package) (hpackage : Text.Plain package) :
    ∃ o, Outline.read (c.source ctx.dialect) = some o ∧
      o.Describes (c.written ctx.dialect) ctx.policy.maxDepth := by
  have hplain : Text.Plain c.package := by rwa [h.package_eq]
  have hdefaults : ∀ p ∈ c.properties,
      Text.Plain (ctx.dialect.defaultLiteral p.type p.default) :=
    fun p hp => (h.properties p hp).default.defaultLiteral
  have hregular := h.regular hpackage.newline_not_mem
  obtain ⟨methods, houtlined, hread⟩ := hregular.read_source hplain hdefaults
  have hmethod : ∀ o ∈ methods, ∃ m ∈ c.methods, m.Outlined ctx.dialect o := by
    intro o ho
    obtain ⟨i, hi, rfl⟩ := List.getElem_of_mem ho
    have hsame := houtlined.length_eq
    have hpair := (List.forall₂_iff_get.mp houtlined).2 i (by omega) hi
    exact ⟨_, List.get_mem _ _, hpair⟩
  have hproperties : (c.written ctx.dialect).statistics.properties = c.properties.length := by
    simp [written, statistics_eq]
  have hmethods : (c.written ctx.dialect).statistics.methods = c.methods.length := by
    simp [written, statistics_eq]
  refine ⟨_, hread, ?_⟩
  constructor
  · rfl
  · rw [hproperties, List.length_map]
  · intro i hi
    have hlength : i < c.properties.length := by simpa using hi
    simpa using h.propertyNames i hlength
  · rw [hmethods, houtlined.length_eq]
  · intro o ho
    obtain ⟨m, hm, hmo⟩ := hmethod o ho
    rw [hmo.deepest, (h.methods m hm).greatestDepth, ← Policy.levels_eq]
    rfl
  · intro o ho
    obtain ⟨m, -, hmo⟩ := hmethod o ho
    exact hmo.endsInResult
  · rw [hmethods]
    exact h.maxDepth

end ClassDecl

/-- Whatever a generator returns under an accepted policy, for a plain package, has an outline
that describes it. -/
theorem ClassGenerator.generate_outline {d : Policy.Draft} {ctx : Context}
    (hpolicy : d.build = .ok ctx.policy) (g : ClassGenerator) (hpackage : Text.Plain g.package)
    {attempts : Nat} {source rest : Source} {out : Generated}
    (h : g.generate ctx attempts source = .ok (out, rest)) :
    ∃ o, Outline.read out.file.source = some o ∧ o.Describes out ctx.policy.maxDepth := by
  have haccepted := Policy.Draft.accepted_of_build hpolicy
  obtain ⟨c, hshaped, rfl⟩ := g.generate_yields haccepted _ _ _ _ h
  exact hshaped.outline hpackage

/-- A run that returns a class of two methods and three properties. -/
theorem ClassGenerator.generate_outline_default :
    ∃ words out,
      (Policy.Draft.ofPolicy .default).build = .ok .default ∧ Text.Plain "pkg" ∧
      (⟨2, 3, 0.0, 0.0, "pkg"⟩ : ClassGenerator).generate ⟨.default, .extended, 0⟩ 1
        (.keystream (.ofSeed 0) 0 (words ++ [])) = .ok (out, .keystream (.ofSeed 0) 0 []) ∧
      out.statistics.methods = 2 ∧ out.statistics.properties = 3 ∧
      ∃ o, Outline.read out.file.source = some o ∧ o.Describes out 3 := by
  have hpolicy : (Policy.Draft.ofPolicy .default).build = .ok .default :=
    Policy.accepted_default.build_ofPolicy
  have hpackage : Text.Plain "pkg" := by decide
  let g : ClassGenerator := ⟨2, 3, 0.0, 0.0, "pkg"⟩
  let ctx : Context := ⟨.default, .extended, 0⟩
  have hdrawable : ctx.policy.Drawable := Policy.drawable_default
  obtain ⟨c, hproperties, hmethods, words, hrun⟩ :=
    g.reaches_generate hdrawable Policy.accepted_default (by decide) (by decide)
  have hgenerated := hrun (.ofSeed 0) 0 []
  have hstatistics := c.statistics_eq
  refine ⟨words, _, hpolicy, hpackage, hgenerated, ?_, ?_, ?_⟩
  · simp only [ClassDecl.written, hstatistics, hmethods]
    decide
  · simp only [ClassDecl.written, hstatistics, hproperties]
    decide
  · exact g.generate_outline hpolicy hpackage hgenerated

end ClassMill
