import ClassMill.Generation.Batch
import ClassMill.Proofs.Generation.Chain
import ClassMill.Proofs.Generation.Declaration
import ClassMill.Proofs.Generation.Identifier
import ClassMill.Proofs.Policy.Accepted
import ClassMill.Proofs.Text.Token

/-!
# The shape of drawn trees

Under an accepted policy all ways from a top-level section to a leaf have the length that the
policy asks for, every method has a section, and properties are numbered from one. Names and
types come from their alphabets, so drawn trees are regular.
-/

namespace ClassMill

open ClassMill.Random

/-! ## Sections -/

/-- A regular section of a depth. -/
structure Section.Shaped (depth : Nat) (s : Section) : Prop where
  regular : s.Regular
  depth_eq : s.depth = depth

/-- A regular chain with a conditional branch, all of one depth. -/
structure Chain.Shaped (depth : Nat) (c : Chain) : Prop where
  conditional : 0 < c.conditionalCount
  regular : c.Regular
  depth_eq : c.depth = depth

namespace Chain

/-- A chain is regular if its bodies are. -/
theorem regular_of_bodies {chain : Chain} (h : ∀ s ∈ chain.bodies, s.Regular) :
    chain.Regular := by
  fun_induction Chain.bodies chain with
  | case1 => trivial
  | case2 body => exact h body (List.mem_singleton_self body)
  | case3 condition body rest ih =>
    exact ⟨h body List.mem_cons_self, ih fun s hs => h s (List.mem_cons_of_mem body hs)⟩

/-- A chain with bodies of one depth has that depth, as soon as there is one. -/
theorem depth_of_bodies {depth : Nat} {chain : Chain} (h : ∀ s ∈ chain.bodies, s.depth = depth) :
    chain.depth ≤ depth ∧ (chain.bodies ≠ [] → chain.depth = depth) := by
  fun_induction Chain.bodies chain with
  | case1 => exact ⟨Nat.zero_le depth, fun hne => absurd rfl hne⟩
  | case2 body =>
    have hbody : body.depth = depth := h body (List.mem_singleton_self body)
    rw [Chain.depth]
    exact ⟨Nat.le_of_eq hbody, fun _ => hbody⟩
  | case3 condition body rest ih =>
    have hbody : body.depth = depth := h body List.mem_cons_self
    obtain ⟨hrest, -⟩ := ih fun s hs => h s (List.mem_cons_of_mem body hs)
    rw [Chain.depth]
    omega

theorem draw_yields (ctx : Context) {body : Draw Section} {depth : Nat}
    (hbody : body.Yields (Section.Shaped depth)) :
    (Chain.draw ctx body).Yields (Shaped depth) := by
  refine (draw_yields_fits (Draw.yields_true _) hbody).mono fun chain hchain => ?_
  obtain ⟨count, -, hfits⟩ := hchain
  have hdepth := depth_of_bodies fun s hs => (hfits.bodies s hs).depth_eq
  exact ⟨hfits.conditional_pos, regular_of_bodies fun s hs => (hfits.bodies s hs).regular,
    hdepth.2 (bodies_ne_nil hfits.conditional_pos)⟩

end Chain

namespace Section

variable {ctx : Context} {body : Draw Section} {depth : Nat}

/-- An if chain around bodies of one depth is one level deeper. -/
theorem drawBranchOf_yields (hbody : body.Yields (Shaped depth)) :
    (drawBranchOf ctx body).Yields (Shaped (depth + 1)) := by
  refine (Chain.draw_yields ctx hbody).bind fun chain hchain =>
    Draw.yields_pure ⟨⟨hchain.conditional, hchain.regular⟩, ?_⟩
  rw [Section.depth, hchain.depth_eq]

/-- A loop around a body of some depth is one level deeper. -/
theorem drawLoopOf_yields (hbody : body.Yields (Shaped depth)) :
    (drawLoopOf ctx body).Yields (Shaped (depth + 1)) := by
  have hcounter := Name.identifier_yields_word .loopVariable (by decide)
    (ctx.policy.nameLength .loopVariable)
  refine hcounter.bind fun counter hname => (Draw.yields_true _).bind fun start _ =>
    (Draw.yields_true _).bind fun span _ => (Draw.yields_true _).bind fun stop _ =>
    hbody.bind fun s hs => Draw.yields_pure ⟨⟨hname.1, hs.regular⟩, ?_⟩
  rw [Section.depth, hs.depth_eq]

/-- A section drawn with a number of levels has exactly that depth. -/
theorem draw_yields (ctx : Context) (levels : Nat) :
    (draw ctx levels).Yields (Shaped levels) :=
  draw_yields_of_bodies (fun _ => ⟨trivial, rfl⟩) (fun _ _ hbody => drawBranchOf_yields hbody)
    (fun _ _ hbody => drawLoopOf_yields hbody) levels

end Section

/-! ## Members -/

theorem Local.draw_yields (ctx : Context) : (Local.draw ctx).Yields Local.Regular := by
  have hword := Name.identifier_yields_word .localVariable (by decide)
    (ctx.policy.nameLength .localVariable)
  have hinitial : ∀ kind, (Initializer.draw ctx kind).Yields Initializer.Regular := by
    intro kind
    cases kind with
    | quotedBoolean => exact (Draw.yields_true _).bind fun _ _ => Draw.yields_pure trivial
    | integer => exact (Draw.yields_true _).bind fun _ _ => Draw.yields_pure trivial
    | real => exact (Draw.yields_true _).bind fun _ _ => Draw.yields_pure trivial
    | quotedName => exact hword.bind fun name hname => Draw.yields_pure hname
  exact hword.bind fun name hname => (Draw.yields_true _).bind fun kind _ =>
    (hinitial kind).bind fun initial hi => Draw.yields_pure ⟨hname.1, hi⟩

/-- A regular method with at least one section, all of one depth. -/
structure Method.Shaped (depth : Nat) (m : Method) : Prop where
  regular : m.Regular
  nonempty : m.sections ≠ []
  depth_eq : ∀ s ∈ m.sections, s.depth = depth

/-- The depth of the top-level sections that a policy asks for. -/
def Policy.levels (p : Policy) : Nat := p.maxDepth.toInt.toNat

theorem Method.draw_yields {ctx : Context} (h : ctx.policy.Accepted) :
    (Method.draw ctx).Yields (Method.Shaped ctx.policy.levels) := by
  have hname := Name.identifier_yields_methodName (ctx.policy.nameLength .method)
  have hcount := Distribution.sample_yields_of_within h.sectionCount
  have hlocals := (Local.draw_yields ctx).listOf Method.localSize
  have hsections := (Section.draw_yields ctx ctx.policy.levels).listOf Method.sectionSize
  refine hname.bind fun name hn => (Draw.yields_true _).bind fun localCount _ =>
    hcount.bind fun sectionCount hs => (hlocals localCount.toNat).bind fun locals hl =>
    (hsections sectionCount.toNat).bind fun sections hsec =>
    (Draw.yields_true _).bind fun result _ => Draw.yields_pure ?_
  refine ⟨⟨hn, hl.2, fun s hmem => (hsec.2 s hmem).regular⟩, ?_,
    fun s hmem => (hsec.2 s hmem).depth_eq⟩
  have hpos : 0 < sections.length := by
    rw [hsec.1]
    exact UInt64.le_iff_toNat_le.mp hs.1
  exact List.length_pos_iff.mp hpos

/-- A default that is no text, or a text on one line without braces. -/
def DefaultValue.Plain : DefaultValue → Prop
  | .text content => Text.Plain content
  | _ => True

theorem DefaultValue.Plain.regular {v : DefaultValue} (h : v.Plain) : v.Regular := by
  cases v with
  | ordinal value => trivial
  | text content => exact Text.Plain.newline_not_mem h
  | boolean value => trivial

theorem DefaultValue.Suits.plain {position : Nat} {v : DefaultValue} {type : PropertyType}
    (h : v.Suits position type) : v.Plain := by
  cases type with
  | string =>
    rw [show v = .text ("Property" ++ toString position) from h]
    exact Text.Plain.append (by decide) (Text.plain_toString position)
  | boolean =>
    obtain ⟨b, rfl⟩ := h
    trivial
  | int | double | float | long | short =>
    obtain ⟨n, rfl, -⟩ := h
    trivial

/-- A property of a type of the dialect with a plain default. -/
structure Property.Shaped (dialect : Dialect) (p : Property) : Prop where
  type : p.type ∈ dialect.propertyTypes
  default : p.default.Plain

theorem Property.Drawn.shaped {dialect : Dialect} {position : Nat} {p : Property}
    (h : p.Drawn dialect position) : p.Shaped dialect :=
  ⟨h.type, h.default.plain⟩

namespace ClassDecl

/-- What is known about the classes that are drawn in a context. -/
structure Shaped (ctx : Context) (package : String) (c : ClassDecl) : Prop where
  package_eq : c.package = package
  name : Name.IsWord c.name
  properties : ∀ p ∈ c.properties, p.Shaped ctx.dialect
  ordinals : ∀ i, ∀ h : i < c.properties.length, (c.properties[i].ordinal).toNat = i + 1
  methods : ∀ m ∈ c.methods, m.Shaped ctx.policy.levels

/-- A drawn class in a package on one line is regular. -/
theorem Shaped.regular {ctx : Context} {package : String} {c : ClassDecl}
    (h : c.Shaped ctx package) (hpackage : '\n' ∉ package.toList) : c.Regular ctx.dialect where
  package := by rwa [h.package_eq]
  name := h.name
  properties p hp := ⟨(h.properties p hp).type, (h.properties p hp).default.regular⟩
  methods m hm := (h.methods m hm).regular

theorem draw_yields {ctx : Context} (h : ctx.policy.Accepted) (package : String)
    (properties methods : Nat) :
    (ClassDecl.draw ctx package properties methods).Yields (Shaped ctx package) := by
  have hname := Name.identifier_yields_word .type (by decide)
    (ctx.policy.nameLength .type)
  have hmethods := (Method.draw_yields h).listOf Method.size methods
  refine hname.bind fun name hn => (Property.drawList_yields ctx properties).bind fun ps hps =>
    hmethods.bind fun ms hms => Draw.yields_pure ?_
  refine ⟨rfl, hn.1, fun p hp => ?_, fun i hi => (hps.2 i hi).ordinal_eq, hms.2⟩
  obtain ⟨i, hi, rfl⟩ := List.getElem_of_mem hp
  exact (hps.2 i hi).shaped

end ClassDecl

/-- A generated class is a drawn tree with its text and its statistics. -/
theorem ClassGenerator.generate_yields {ctx : Context} (h : ctx.policy.Accepted)
    (g : ClassGenerator) :
    (g.generate ctx).Yields fun out =>
      ∃ c : ClassDecl, c.Shaped ctx g.package ∧ out = c.written ctx.dialect := by
  have hclass : (g.drawClass ctx).Yields (ClassDecl.Shaped ctx g.package) :=
    (Draw.yields_true _).bind fun methods _ => (Draw.yields_true _).bind fun properties _ =>
      ClassDecl.draw_yields h g.package properties methods
  exact hclass.bind fun c hc => Draw.yields_pure ⟨c, hc, rfl⟩

end ClassMill
