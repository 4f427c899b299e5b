import ClassMill.Generation.Member
import ClassMill.Proofs.Lines.Spelling
import ClassMill.Proofs.Random.Range

/-!
# Drawn properties and their lines

Properties are drawn for the positions from one on, with types of the dialect and defaults that
suit type and position. So their names are distinct, and the line of each spells its position, its
type and a literal, which is cast to this type or not at all.
-/

namespace ClassMill

open ClassMill.Random

/-! ## Drawn properties -/

/-- The default of a number is the position and that of a text holds the position. -/
def DefaultValue.Suits (position : Nat) (v : DefaultValue) : PropertyType → Prop
  | .string => v = .text ("Property" ++ toString position)
  | .boolean => ∃ b, v = .boolean b
  | _ => ∃ n, v = .ordinal n ∧ n.toNat = position

theorem DefaultValue.draw_yields (ctx : Context) (ordinal : UInt64) (type : PropertyType) :
    (DefaultValue.draw ctx ordinal type).Yields fun v => v.Suits ordinal.toNat type := by
  cases type with
  | string => exact Draw.yields_pure rfl
  | boolean => exact (Draw.yields_true _).bind fun b _ => Draw.yields_pure ⟨b, rfl⟩
  | int | double | float | long | short => exact Draw.yields_pure ⟨ordinal, rfl, rfl⟩

namespace Property

/-- A property at a position, of a type of the dialect and with a default that suits both. -/
structure Drawn (dialect : Dialect) (position : Nat) (p : Property) : Prop where
  ordinal_eq : p.ordinal.toNat = position
  type : p.type ∈ dialect.propertyTypes
  default : p.default.Suits position p.type

theorem draw_yields (ctx : Context) (ordinal : UInt64) :
    (Property.draw ctx ordinal).Yields (Drawn ctx.dialect ordinal.toNat) := by
  have htypes : ctx.dialect.propertyTypes ≠ [] := by
    cases ctx.dialect <;> decide
  have htype : ctx.choosePropertyType.Yields (· ∈ ctx.dialect.propertyTypes) := by
    refine (Draw.choose_yields htypes).bind fun r hr => Draw.yields_pure ?_
    obtain ⟨type, hmem, rfl⟩ := hr
    exact hmem
  exact htype.bind fun type ht => (Draw.yields_true _).bind fun readonly _ =>
    (DefaultValue.draw_yields ctx ordinal type).bind fun default hd =>
    Draw.yields_pure ⟨rfl, ht, hd⟩

@[simp]
theorem length_ordinals (count : Nat) : (ordinals count).length = count := by
  simp [ordinals]

/-- Properties that can be stored have positions that fit into a word. -/
theorem count_lt_of_reserve {count : Nat} (h : reserve count Property.size = .ok ()) :
    count < UInt64.size := by
  have hlimit : storageLimit < UInt64.size := by decide
  unfold reserve at h
  split at h
  · next hfits =>
    have hle : count ≤ count * Property.size := Nat.le_mul_of_pos_right count (by decide)
    omega
  · cases h

/-- As many properties as asked for are drawn, for the positions from one on. -/
theorem drawList_yields (ctx : Context) (count : Nat) :
    (drawList ctx count).Yields fun ps =>
      ps.length = count ∧ ∀ i, ∀ h : i < ps.length, ps[i].Drawn ctx.dialect (i + 1) := by
  refine (Draw.yields_ofExcept _).bind fun _ hreserve => ?_
  refine (Draw.yields_forEach fun ordinal _ => draw_yields ctx ordinal).mono fun ps hps => ?_
  have hcount := count_lt_of_reserve hreserve
  have hlength : ps.length = count := by rw [← hps.length_eq, length_ordinals]
  refine ⟨hlength, ?_⟩
  intro i hi
  have hordinal : i < (ordinals count).length := by rw [length_ordinals]; omega
  have hdrawn := (List.forall₂_iff_get.mp hps).2 i hordinal hi
  have hsize : UInt64.size = 2 ^ 64 := rfl
  have hposition : (ordinals count)[i].toNat = i + 1 := by
    simp only [ordinals, List.getElem_map, List.getElem_range', Nat.one_mul]
    rw [UInt64.toNat_ofNat', Nat.add_comm]
    exact Nat.mod_eq_of_lt (by omega)
  rwa [List.get_eq_getElem, List.get_eq_getElem, hposition] at hdrawn

/-! ## Names -/

theorem fieldName_injective {p q : Property} (h : p.fieldName = q.fieldName) :
    p.ordinal.toNat = q.ordinal.toNat := by
  have hchars := congrArg String.toList h
  simp only [fieldName, String.toList_append, List.append_cancel_left_eq,
    Text.toList_wordText] at hchars
  rw [Text.toDigits_toNat_injective hchars]

theorem accessorName_injective {p q : Property} (h : p.accessorName = q.accessorName) :
    p.ordinal.toNat = q.ordinal.toNat := by
  have hchars := congrArg String.toList h
  simp only [accessorName, String.toList_append, List.append_cancel_left_eq,
    Text.toList_wordText] at hchars
  rw [Text.toDigits_toNat_injective hchars]

/-- No field is named like the public name of a property. -/
theorem fieldName_ne_accessorName (p q : Property) : p.fieldName ≠ q.accessorName := by
  intro h
  have hchars := congrArg String.toList h
  simp [fieldName, accessorName] at hchars

/-- Properties at distinct positions have distinct names. -/
theorem nodup_names {ps : List Property}
    (h : ∀ i, ∀ hi : i < ps.length, (ps[i].ordinal).toNat = i + 1) :
    (ps.map fieldName ++ ps.map accessorName).Nodup := by
  have hpositions : ps.map (fun p => p.ordinal.toNat) = List.range' 1 ps.length := by
    apply List.ext_getElem
    · simp
    · intro i hi _
      rw [List.length_map] at hi
      simp [h i hi, Nat.add_comm]
  have hdistinct : ps.Pairwise fun p q => p.ordinal.toNat ≠ q.ordinal.toNat := by
    rw [← List.pairwise_map, hpositions]
    exact List.nodup_range'
  refine List.nodup_append.mpr ⟨?_, ?_, ?_⟩
  · exact List.pairwise_map.mpr (hdistinct.imp fun hne heq => hne (fieldName_injective heq))
  · exact List.pairwise_map.mpr (hdistinct.imp fun hne heq => hne (accessorName_injective heq))
  · intro field hfield accessor haccessor
    obtain ⟨p, -, rfl⟩ := List.mem_map.mp hfield
    obtain ⟨q, -, rfl⟩ := List.mem_map.mp haccessor
    exact fieldName_ne_accessorName p q

end Property

/-! ## Lines -/

namespace Dialect

/-- The literals for the default of a property at a position. -/
def literals (dialect : Dialect) (position : Nat) : PropertyType → List String
  | .string => ["\"Property" ++ toString position ++ "\""]
  | .boolean => ["true", "false"]
  | .int => [toString position]
  | type => [toString position ++ " as " ++ dialect.typeName type]

/-- A default that suits its type is written as one of the literals. -/
theorem defaultLiteral_mem_literals {dialect : Dialect} {position : Nat} {type : PropertyType}
    {v : DefaultValue} (htype : type ∈ dialect.propertyTypes) (h : v.Suits position type) :
    dialect.defaultLiteral type v ∈ dialect.literals position type := by
  cases type with
  | string =>
    rw [show v = .text ("Property" ++ toString position) from h]
    simp [literals, defaultLiteral, plainLiteral, ← String.append_assoc]
  | boolean =>
    obtain ⟨b, rfl⟩ := h
    cases b <;> simp [literals, defaultLiteral, plainLiteral, boolText]
  | int =>
    obtain ⟨n, rfl, rfl⟩ := h
    cases dialect <;> simp [literals, defaultLiteral, casts, wordText]
  | double | float | long | short =>
    obtain ⟨n, rfl, rfl⟩ := h
    cases dialect with
    | core => simp [propertyTypes] at htype
    | extended => simp [literals, defaultLiteral, casts, wordText, PropertyType.isNumeric]

/-- No word for a type has a blank or an equals sign. -/
theorem not_mem_typeName (dialect : Dialect) (type : PropertyType) {d : Char}
    (hd : d = ' ' ∨ d = '=') : d ∉ (dialect.typeName type).toList := by
  rcases hd with rfl | rfl <;> cases dialect <;> cases type <;> decide

/-- A number cast to a word without blanks reads in one way only. -/
theorem cast_inj {position : Nat} {value target type : String} (htype : ' ' ∉ type.toList)
    (h : value ++ " as " ++ target = toString position ++ " as " ++ type) :
    value = toString position ∧ target = type := by
  have hposition : ' ' ∉ (toString position).toList := by
    simpa using Text.not_mem_digits (by decide)
  have hchars := congrArg String.toList h
  simp only [String.toList_append, List.append_assoc] at hchars
  have hvalue : ' ' ∉ value.toList := by
    have hcount := congrArg (List.count ' ') hchars
    simp only [List.count_append, List.count_eq_zero.mpr hposition,
      List.count_eq_zero.mpr htype] at hcount
    have hblanks : List.count ' ' " as ".toList = 2 := by decide
    exact List.count_eq_zero.mp (by omega)
  have hrun : ∀ {text : List Char}, ' ' ∉ text → ∀ c ∈ text, (c != ' ') = true :=
    fun htext c hc => bne_iff_ne.mpr (ne_of_mem_of_not_mem hc htext)
  obtain ⟨heq, hrest⟩ := Text.append_inj_of_ended (hrun hvalue) (hrun hposition)
    (by simp) (by simp) hchars
  exact ⟨String.toList_injective heq, String.toList_injective (List.append_cancel_left hrest)⟩

/-- A text with one equals sign is set apart there in one way only. -/
theorem equals_inj {front literal front' value : String} (hfront : '=' ∉ front.toList)
    (hliteral : '=' ∉ literal.toList)
    (h : front ++ " = " ++ literal = front' ++ " = " ++ value) : literal = value := by
  have hmark : " = ".toList = [' ', '=', ' '] := by decide
  have hchars := congrArg String.toList h
  have hsplit : (front.toList ++ [' ']) ++ '=' :: (' ' :: literal.toList) =
      (front'.toList ++ [' ']) ++ '=' :: (' ' :: value.toList) := by
    simpa [hmark] using hchars
  have hparts := (List.append_cons_inj_of_notMem (by simp [hfront]) (by simp [hliteral])).mp hsplit
  exact String.toList_injective (List.cons.inj hparts.2.2).2

/-- The only literals with a cast are those of the extended dialect, to the type itself. -/
theorem cast_of_mem_literals {dialect : Dialect} {position : Nat} {type : PropertyType}
    {value target : String} (htype : type ∈ dialect.propertyTypes)
    (h : value ++ " as " ++ target ∈ dialect.literals position type) :
    dialect = .extended ∧ value = toString position ∧ target = dialect.typeName type := by
  have hblank : ∀ text : String, value ++ " as " ++ target = text → ' ' ∈ text.toList := by
    rintro text rfl
    simp
  have hposition : ' ' ∉ (toString position).toList := by
    simpa using Text.not_mem_digits (by decide)
  cases type with
  | string =>
    have hmem := hblank _ (List.mem_singleton.mp h)
    simp only [String.toList_append, List.mem_append, hposition, or_false] at hmem
    exact absurd hmem (by decide)
  | boolean =>
    rcases List.mem_pair.mp h with htext | htext
    · exact absurd (hblank _ htext) (by decide)
    · exact absurd (hblank _ htext) (by decide)
  | int => exact absurd (hblank _ (List.mem_singleton.mp h)) hposition
  | double | float | long | short =>
    cases dialect with
    | core => simp [propertyTypes] at htype
    | extended =>
      exact ⟨rfl, cast_inj (not_mem_typeName _ _ (.inl rfl)) (List.mem_singleton.mp h)⟩

/-- No literal has an equals sign. -/
theorem equals_not_mem_literals {dialect : Dialect} {position : Nat} {type : PropertyType}
    {literal : String} (h : literal ∈ dialect.literals position type) :
    '=' ∉ literal.toList := by
  have hposition : '=' ∉ Nat.toDigits 10 position := Text.not_mem_digits (by decide)
  have hname := not_mem_typeName dialect type (.inr rfl)
  cases type with
  | string =>
    rw [List.mem_singleton.mp h]
    simp [hposition]
  | boolean =>
    rcases List.mem_pair.mp h with rfl | rfl <;> decide
  | int =>
    rw [List.mem_singleton.mp h]
    simpa using hposition
  | double | float | long | short =>
    rw [List.mem_singleton.mp h]
    simp [hposition, hname]

end Dialect

namespace Property

/-- The line of a drawn property spells its position, its type and a literal. -/
theorem Drawn.propertyLine_eq {dialect : Dialect} {position : Nat} {p : Property}
    (h : p.Drawn dialect position) :
    ∃ literal ∈ dialect.literals position p.type,
      dialect.propertyLine p =
        "var _property" ++ toString position ++ " : " ++ dialect.typeName p.type ++ " as " ++
          (if p.readonly then "readonly " else "") ++ "Property" ++ toString position ++ " = " ++
          literal := by
  refine ⟨_, Dialect.defaultLiteral_mem_literals h.type h.default, ?_⟩
  have hposition : wordText p.ordinal = toString position := by
    rw [wordText, h.ordinal_eq]
  have hfield : "var _property" = "var " ++ "_property" := by decide
  simp only [Dialect.propertyLine, Property.fieldName, Property.accessorName, hposition, hfield,
    ← String.append_assoc]

/-- What stands after the equals sign of the line of a drawn property is one of the literals. -/
theorem Drawn.mem_literals_of_line {dialect : Dialect} {position : Nat} {p : Property}
    (h : p.Drawn dialect position) {front value : String}
    (hline : dialect.propertyLine p = front ++ " = " ++ value) :
    value ∈ dialect.literals position p.type := by
  obtain ⟨literal, hliteral, hspelled⟩ := h.propertyLine_eq
  have hposition : '=' ∉ Nat.toDigits 10 position := Text.not_mem_digits (by decide)
  have hname := Dialect.not_mem_typeName dialect p.type (.inr rfl)
  have hequals := Dialect.equals_not_mem_literals hliteral
  rw [hspelled] at hline
  have hfront : '=' ∉ ("var _property" ++ toString position ++ " : " ++
      dialect.typeName p.type ++ " as " ++ (if p.readonly then "readonly " else "") ++
      "Property" ++ toString position).toList := by
    cases p.readonly <;> simp [hposition, hname]
  exact Dialect.equals_inj hfront hequals hline ▸ hliteral

/-- What is known of the property at a position and of its line. The line spells the position, the
type and one of the literals; a literal with a cast is one of the extended dialect, and the cast
is to the type of the property itself. -/
structure Declared (dialect : Dialect) (position : Nat) (p : Property) : Prop
    extends p.Drawn dialect position where
  line : ∃ literal ∈ dialect.literals position p.type,
    dialect.propertyLine p =
      "var _property" ++ toString position ++ " : " ++ dialect.typeName p.type ++ " as " ++
        (if p.readonly then "readonly " else "") ++ "Property" ++ toString position ++ " = " ++
        literal
  cast : ∀ front value target,
    dialect.propertyLine p = front ++ " = " ++ (value ++ " as " ++ target) →
    dialect = .extended ∧ value = toString position ∧ target = dialect.typeName p.type

theorem Drawn.declared {dialect : Dialect} {position : Nat} {p : Property}
    (h : p.Drawn dialect position) : p.Declared dialect position where
  toDrawn := h
  line := h.propertyLine_eq
  cast _ _ _ hline := Dialect.cast_of_mem_literals h.type (h.mem_literals_of_line hline)

/-- As many properties are drawn as asked for, and the one at each position is declared with it.
Their names are distinct, and different types of the dialect have different words. -/
theorem drawList_declared {ctx : Context} {count attempts : Nat} {source rest : Source}
    {ps : List Property} (h : drawList ctx count attempts source = .ok (ps, rest)) :
    ps.length = count ∧
      (∀ i, ∀ hi : i < ps.length, ps[i].Declared ctx.dialect (i + 1)) ∧
      (ps.map fieldName ++ ps.map accessorName).Nodup ∧
      ∀ a ∈ ctx.dialect.propertyTypes, ∀ b ∈ ctx.dialect.propertyTypes,
        ctx.dialect.typeName a = ctx.dialect.typeName b → a = b := by
  obtain ⟨hlength, hdrawn⟩ := drawList_yields ctx count _ _ _ _ h
  exact ⟨hlength, fun i hi => (hdrawn i hi).declared,
    nodup_names fun i hi => (hdrawn i hi).ordinal_eq,
    fun _ ha _ hb => Dialect.typeName_inj ha hb⟩

/-- Three properties of the extended dialect, whose literals are a text, a boolean and a cast. -/
theorem drawList_declared_three :
    let ctx : Context := ⟨.default, .extended, 0⟩
    let rest := Source.stepper 0xA0000000 0x10000000
    let ps : List Property := [⟨1, .string, true, .text "Property1"⟩,
      ⟨2, .boolean, true, .boolean true⟩, ⟨3, .double, true, .ordinal 3⟩]
    drawList ctx 3 10 (.stepper 0x20000000 0x10000000) = .ok (ps, rest) ∧
      ps.map Dialect.extended.propertyLine =
        ["var _property1 : String as readonly Property1 = \"Property1\"",
          "var _property2 : boolean as readonly Property2 = true",
          "var _property3 : double as readonly Property3 = 3 as double"] ∧
      (∀ i, ∀ hi : i < ps.length, ps[i].Declared .extended (i + 1)) ∧
      (ps.map fieldName ++ ps.map accessorName).Nodup := by
  intro ctx rest ps
  have hrun : drawList ctx 3 10 (.stepper 0x20000000 0x10000000) = .ok (ps, rest) := by
    decide +kernel
  obtain ⟨-, hdeclared, hnames, -⟩ := drawList_declared hrun
  exact ⟨hrun, by decide +kernel, hdeclared, hnames⟩

end Property

end ClassMill
