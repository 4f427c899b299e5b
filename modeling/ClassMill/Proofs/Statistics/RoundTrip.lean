import ClassMill.Proofs.Statistics.CounterCodec

/-!
# Statistics and presets are read back from their texts

The records of statistics, presets and distributions are faithful as far as their counts fit into
64 bits, and no other counts are read. So each of them is read back from its text, and a text that
was rewritten once is not changed by rewriting it again.
-/

namespace ClassMill

open Ron Ron.Codec

/-! ## Kinds -/

theorem SectionKind.faithful {depth : Nat} (k : SectionKind) : Faithful depth k :=
  faithful_ofLabels (by cases k <;> decide) (by cases k <;> decide) (by cases k <;> decide)

theorem PropertyType.faithful {depth : Nat} (type : PropertyType) : Faithful depth type :=
  faithful_ofLabels (by cases type <;> decide) (by cases type <;> decide)
    (by cases type <;> decide)

/-! ## Records -/

/-- The fields of a record with the name that is asked for. -/
theorem Ron.fieldsOf?_record (name : String) (fields : List (Word × Value)) :
    fieldsOf? name (.record (some (.plain name)) fields) = some fields := by
  simp [fieldsOf?, Word.plain]

namespace Preset

/-- The fields of a preset in order. -/
def toFields (p : Preset) : List (Word × Value) := [
  encodeField "base_methods" p.baseMethods,
  encodeField "base_properties" p.baseProperties,
  encodeField "method_variance_pct" p.methodVariance,
  encodeField "property_variance_pct" p.propertyVariance]

theorem faithful (p : Preset) : Faithful 2 p := by
  have hcount : ∀ n : UInt64, Faithful 0 n := faithful_word64
  have hpercent : ∀ n : UInt32, Faithful 0 n := faithful_word32
  have hfields : Fields 0 p.toFields := by
    refine .of_labels ["base_methods", "base_properties", "method_variance_pct",
      "property_variance_pct"] (by decide) rfl ?_
    simp only [toFields, List.forall_mem_cons]
    exact ⟨(hcount _).legible, (hcount _).legible, (hpercent _).legible, (hpercent _).legible,
      nofun⟩
  refine ⟨hfields.record (by decide), fun extensions => ?_⟩
  change (fieldsOf? "GenerationPreset" (.record (some (.plain "GenerationPreset")) p.toFields)).bind
    _ = some p
  rw [fieldsOf?_record, Option.bind_some,
    hfields.decodeField _ "base_methods" (hcount p.baseMethods) (by simp [toFields]),
    hfields.decodeField _ "base_properties" (hcount p.baseProperties) (by simp [toFields]),
    hfields.decodeField _ "method_variance_pct" (hpercent p.methodVariance) (by simp [toFields]),
    hfields.decodeField _ "property_variance_pct" (hpercent p.propertyVariance)
      (by simp [toFields])]
  rfl

end Preset

namespace ClassStatistics

/-- All counts of a class fit into 64 bits. -/
structure InWords (s : ClassStatistics) : Prop where
  properties : s.properties < UInt64.size
  methods : s.methods < UInt64.size
  locals : s.locals < UInt64.size
  clauses : s.clauses < UInt64.size
  sections : s.sections.Fits
  propertyTypes : s.propertyTypes.Fits
  maxDepth : s.maxDepth < UInt64.size

/-- The fields of the statistics of a class in order. -/
def toFields (s : ClassStatistics) : List (Word × Value) := [
  encodeField "num_properties" s.properties,
  encodeField "num_methods" s.methods,
  encodeField "num_locals" s.locals,
  encodeField "num_clauses" s.clauses,
  encodeField "section_counter" s.sections,
  encodeField "property_ty_counter" s.propertyTypes,
  encodeField "max_nesting_depth" s.maxDepth]

theorem InWords.faithful {s : ClassStatistics} (h : s.InWords) : Faithful 4 s := by
  have hcount : ∀ {n : Nat}, n < UInt64.size → Faithful 2 n := faithful_nat
  have hsections : Faithful 2 s.sections := faithful_counter SectionKind.faithful h.sections
  have htypes : Faithful 2 s.propertyTypes :=
    faithful_counter PropertyType.faithful h.propertyTypes
  have hfields : Fields 2 s.toFields := by
    refine .of_labels ["num_properties", "num_methods", "num_locals", "num_clauses",
      "section_counter", "property_ty_counter", "max_nesting_depth"] (by decide) rfl ?_
    simp only [toFields, List.forall_mem_cons]
    exact ⟨(hcount h.properties).legible, (hcount h.methods).legible, (hcount h.locals).legible,
      (hcount h.clauses).legible, hsections.legible, htypes.legible, (hcount h.maxDepth).legible,
      nofun⟩
  refine ⟨hfields.record (by decide), fun extensions => ?_⟩
  change (fieldsOf? "ClassStatistics" (.record (some (.plain "ClassStatistics")) s.toFields)).bind
    _ = some s
  rw [fieldsOf?_record, Option.bind_some,
    hfields.decodeField _ "num_properties" (hcount h.properties) (by simp [toFields]),
    hfields.decodeField _ "num_methods" (hcount h.methods) (by simp [toFields]),
    hfields.decodeField _ "num_locals" (hcount h.locals) (by simp [toFields]),
    hfields.decodeField _ "num_clauses" (hcount h.clauses) (by simp [toFields]),
    hfields.decodeField _ "section_counter" hsections (by simp [toFields]),
    hfields.decodeField _ "property_ty_counter" htypes (by simp [toFields]),
    hfields.decodeField _ "max_nesting_depth" (hcount h.maxDepth) (by simp [toFields])]
  rfl

/-- The counts that are read fit into 64 bits. -/
theorem yields_inWords : Yields InWords where
  missing := nofun
  decode extensions v s h := by
    obtain ⟨fields, -, h⟩ := Option.bind_eq_some_iff.mp h
    obtain ⟨properties, hproperties, h⟩ := Option.bind_eq_some_iff.mp h
    obtain ⟨methods, hmethods, h⟩ := Option.bind_eq_some_iff.mp h
    obtain ⟨locals, hlocals, h⟩ := Option.bind_eq_some_iff.mp h
    obtain ⟨clauses, hclauses, h⟩ := Option.bind_eq_some_iff.mp h
    obtain ⟨sections, hsections, h⟩ := Option.bind_eq_some_iff.mp h
    obtain ⟨propertyTypes, htypes, h⟩ := Option.bind_eq_some_iff.mp h
    obtain ⟨maxDepth, hdepth, h⟩ := Option.bind_eq_some_iff.mp h
    cases h
    exact {
      properties := yields_nat.of_decodeField hproperties
      methods := yields_nat.of_decodeField hmethods
      locals := yields_nat.of_decodeField hlocals
      clauses := yields_nat.of_decodeField hclauses
      sections := yields_counter.of_decodeField hsections
      propertyTypes := yields_counter.of_decodeField htypes
      maxDepth := yields_nat.of_decodeField hdepth }

end ClassStatistics

namespace BatchStatistics

/-- All totals of a batch fit into 64 bits. -/
structure InWords (b : BatchStatistics) : Prop where
  classes : b.classes < UInt64.size
  properties : b.properties < UInt64.size
  methods : b.methods < UInt64.size
  sections : b.sections < UInt64.size
  minMethods : ∀ n ∈ b.minMethods, n < UInt64.size
  maxMethods : ∀ n ∈ b.maxMethods, n < UInt64.size
  minProperties : ∀ n ∈ b.minProperties, n < UInt64.size
  maxProperties : ∀ n ∈ b.maxProperties, n < UInt64.size
  maxDepth : b.maxDepth < UInt64.size
  sectionKinds : b.sectionKinds.Fits
  propertyTypes : b.propertyTypes.Fits

/-- The fields of the totals of a batch in order. -/
def toFields (b : BatchStatistics) : List (Word × Value) := [
  encodeField "num_classes" b.classes,
  encodeField "total_properties" b.properties,
  encodeField "total_methods" b.methods,
  encodeField "total_sections" b.sections,
  encodeField "min_methods" b.minMethods,
  encodeField "max_methods" b.maxMethods,
  encodeField "min_properties" b.minProperties,
  encodeField "max_properties" b.maxProperties,
  encodeField "max_nesting_depth" b.maxDepth,
  encodeField "section_counter" b.sectionKinds,
  encodeField "property_ty_counter" b.propertyTypes]

theorem InWords.faithful {b : BatchStatistics} (h : b.InWords) : Faithful 4 b := by
  have hcount : ∀ {n : Nat}, n < UInt64.size → Faithful 2 n := faithful_nat
  have hextreme : ∀ {o : Option Nat}, (∀ n ∈ o, n < UInt64.size) → Faithful (1 + 1) o :=
    fun ho => faithful_option fun n hn => faithful_nat (ho n hn)
  have hkinds : Faithful 2 b.sectionKinds := faithful_counter SectionKind.faithful h.sectionKinds
  have htypes : Faithful 2 b.propertyTypes :=
    faithful_counter PropertyType.faithful h.propertyTypes
  have hfields : Fields 2 b.toFields := by
    refine .of_labels ["num_classes", "total_properties", "total_methods", "total_sections",
      "min_methods", "max_methods", "min_properties", "max_properties", "max_nesting_depth",
      "section_counter", "property_ty_counter"] (by decide) rfl ?_
    simp only [toFields, List.forall_mem_cons]
    exact ⟨(hcount h.classes).legible, (hcount h.properties).legible, (hcount h.methods).legible,
      (hcount h.sections).legible, (hextreme h.minMethods).legible,
      (hextreme h.maxMethods).legible, (hextreme h.minProperties).legible,
      (hextreme h.maxProperties).legible, (hcount h.maxDepth).legible, hkinds.legible,
      htypes.legible, nofun⟩
  refine ⟨hfields.record (by decide), fun extensions => ?_⟩
  change (fieldsOf? "BatchStatistics" (.record (some (.plain "BatchStatistics")) b.toFields)).bind
    _ = some b
  rw [fieldsOf?_record, Option.bind_some,
    hfields.decodeField _ "num_classes" (hcount h.classes) (by simp [toFields]),
    hfields.decodeField _ "total_properties" (hcount h.properties) (by simp [toFields]),
    hfields.decodeField _ "total_methods" (hcount h.methods) (by simp [toFields]),
    hfields.decodeField _ "total_sections" (hcount h.sections) (by simp [toFields]),
    hfields.decodeField _ "min_methods" (hextreme h.minMethods) (by simp [toFields]),
    hfields.decodeField _ "max_methods" (hextreme h.maxMethods) (by simp [toFields]),
    hfields.decodeField _ "min_properties" (hextreme h.minProperties) (by simp [toFields]),
    hfields.decodeField _ "max_properties" (hextreme h.maxProperties) (by simp [toFields]),
    hfields.decodeField _ "max_nesting_depth" (hcount h.maxDepth) (by simp [toFields]),
    hfields.decodeField _ "section_counter" hkinds (by simp [toFields]),
    hfields.decodeField _ "property_ty_counter" htypes (by simp [toFields])]
  rfl

/-- The totals that are read fit into 64 bits. -/
theorem yields_inWords : Yields InWords where
  missing := nofun
  decode extensions v b h := by
    obtain ⟨fields, -, h⟩ := Option.bind_eq_some_iff.mp h
    obtain ⟨classes, hclasses, h⟩ := Option.bind_eq_some_iff.mp h
    obtain ⟨properties, hproperties, h⟩ := Option.bind_eq_some_iff.mp h
    obtain ⟨methods, hmethods, h⟩ := Option.bind_eq_some_iff.mp h
    obtain ⟨sections, hsections, h⟩ := Option.bind_eq_some_iff.mp h
    obtain ⟨minMethods, hminMethods, h⟩ := Option.bind_eq_some_iff.mp h
    obtain ⟨maxMethods, hmaxMethods, h⟩ := Option.bind_eq_some_iff.mp h
    obtain ⟨minProperties, hminProperties, h⟩ := Option.bind_eq_some_iff.mp h
    obtain ⟨maxProperties, hmaxProperties, h⟩ := Option.bind_eq_some_iff.mp h
    obtain ⟨maxDepth, hdepth, h⟩ := Option.bind_eq_some_iff.mp h
    obtain ⟨sectionKinds, hkinds, h⟩ := Option.bind_eq_some_iff.mp h
    obtain ⟨propertyTypes, htypes, h⟩ := Option.bind_eq_some_iff.mp h
    cases h
    exact {
      classes := yields_nat.of_decodeField hclasses
      properties := yields_nat.of_decodeField hproperties
      methods := yields_nat.of_decodeField hmethods
      sections := yields_nat.of_decodeField hsections
      minMethods := yields_nat.option.of_decodeField hminMethods
      maxMethods := yields_nat.option.of_decodeField hmaxMethods
      minProperties := yields_nat.option.of_decodeField hminProperties
      maxProperties := yields_nat.option.of_decodeField hmaxProperties
      maxDepth := yields_nat.of_decodeField hdepth
      sectionKinds := yields_counter.of_decodeField hkinds
      propertyTypes := yields_counter.of_decodeField htypes }

end BatchStatistics

/-- Statistics, presets and distributions are read back from their texts, and rewriting a text
twice is the same as rewriting it once. For statistics the counts have to fit into 64 bits, as
all counts do that are read. -/
theorem Ron.roundTrips_records :
    RoundTrips ClassStatistics ClassStatistics.InWords ∧
    RoundTrips BatchStatistics BatchStatistics.InWords ∧
    (RoundTrips Preset fun _ => True) ∧ (RoundTrips Distribution fun _ => True) := by
  have hclass : ∀ s : ClassStatistics, s.InWords → Faithful Parser.maxDepth s := fun s hs =>
    hs.faithful.mono (by decide)
  have hbatch : ∀ b : BatchStatistics, b.InWords → Faithful Parser.maxDepth b := fun b hb =>
    hb.faithful.mono (by decide)
  have hpreset : ∀ p : Preset, Faithful Parser.maxDepth p := fun p =>
    p.faithful.mono (by decide)
  have hdistribution : ∀ d : Distribution, Faithful Parser.maxDepth d := faithful_distribution
  exact ⟨roundTrips hclass ClassStatistics.yields_inWords,
    roundTrips hbatch BatchStatistics.yields_inWords,
    roundTrips (fun p _ => hpreset p) (yields_true _),
    roundTrips (fun d _ => hdistribution d) (yields_true _)⟩

/-- Totals with the greatest counts, absent extremes, an empty counter and a count of zero, and a
preset in another spelling than the one it is written in. -/
theorem Ron.roundTrips_records_extreme :
    let most := UInt64.size - 1
    let b : BatchStatistics :=
      ⟨most, 0, most, 1, some most, none, some 0, none, most, .empty,
        .ofList [(.short, most), (.int, 0)]⟩
    let text := "(method_variance_pct: 0xffffffff, base_methods: 1_0, // ten\n" ++
      "base_properties: 0, property_variance_pct: 0, other: [Some(())])"
    let again := "GenerationPreset(\n    base_methods: 10,\n    base_properties: 0,\n" ++
      "    method_variance_pct: 4294967295,\n    property_variance_pct: 0,\n)"
    b.InWords ∧ read BatchStatistics (write b) = some b ∧
      (read Preset text).map write = some again ∧ (read Preset again).map write = some again := by
  intro most b text again
  obtain ⟨-, hbatch, hpreset, -⟩ := roundTrips_records
  have hwords : b.InWords := by
    refine ⟨by decide, by decide, by decide, by decide, by decide, by decide, by decide, by decide,
      by decide, Counter.fits_empty, Counter.fits_ofList (by decide)⟩
  have htext : (read Preset text).map write = some again := by decide +kernel
  exact ⟨hwords, hbatch.read_write b hwords, htext, hpreset.rewrite text again htext⟩

end ClassMill
