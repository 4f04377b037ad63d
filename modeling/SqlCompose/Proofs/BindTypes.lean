import SqlCompose.Proofs.TemporalRoundTrip
import SqlCompose.Proofs.Valid

/-!
# SqlCompose.Proofs.BindTypes -- the types that parameters are bound as

A parameter is bound as its own type, else as that of its value, else as the type of
nulls. A valid one is bound as a type that its value may stand for, unless its value is
a constant of an enumeration that is not named: it is bound like a null without a type,
although the constants of all enumerations are bound as integers.
-/

namespace SqlCompose

/-- A constant of an enumeration. -/
def Value.isEnum : Value → Bool
  | .enum _ => true
  | _ => false

namespace Parameter

/-- The logical type that a parameter is bound as: its own, else that of its value. -/
def boundType? (p : Parameter) : Option LogicalType := p.logicalType.or p.value.logicalType?

/-- A constant of an enumeration that is not named. -/
def isUntypedEnum (p : Parameter) : Bool := p.logicalType.isNone && p.value.isEnum

theorem validate_iff (p : Parameter) :
    p.validate = .ok () ↔
      p.value.isList = false ∧ ∀ type ∈ p.logicalType, p.value.assignable type = true := by
  unfold validate
  rw [ok_unless_iff, Bool.not_eq_true]
  cases p.logicalType with
  | none => simp
  | some type =>
    rw [and_congr_right_iff]
    intro _
    simp only [ok_if_iff, Option.mem_def, Option.some.injEq, forall_eq', and_true]

/-- The value of a valid parameter may stand for the type that it is bound as. -/
theorem assignable_boundType {p : Parameter} (hvalid : p.validate = .ok ()) {type : LogicalType}
    (h : p.boundType? = some type) : p.value.assignable type = true := by
  rcases Option.or_eq_some_iff.mp h with hown | ⟨_, hvalue⟩
  · exact ((validate_iff p).mp hvalid).2 type hown
  · exact Value.assignable_of_logicalType? hvalue

/-- Besides nulls only constants of enumerations are without a type of their own. -/
theorem boundType?_eq_none_iff {p : Parameter} (hvalid : p.validate = .ok ()) :
    p.boundType? = none ↔
      p.logicalType = none ∧ (p.value.isNull = true ∨ p.value.isEnum = true) := by
  have hlist := ((validate_iff p).mp hvalid).1
  have hvalue : p.value.logicalType? = none ↔ p.value.isNull = true ∨ p.value.isEnum = true := by
    cases hv : p.value with
    | list items =>
      rw [hv] at hlist
      cases hlist
    | _ => simp [Value.logicalType?, Value.isNull, Value.isEnum]
  rw [boundType?, Option.or_eq_none_iff, hvalue]

end Parameter

/-! ## Enumerations -/

/-- Every constant belongs to an enumeration. -/
theorem EnumValue.exists_holds (v : EnumValue) : ∃ e : EnumType, e.holds v = true :=
  ⟨⟨"", List.replicate v.ordinal "" ++ [v.name]⟩, by simp [EnumType.holds]⟩

/-- A constant stands for enumerations only. -/
theorem Value.assignable_enum {v : EnumValue} {type : LogicalType}
    (h : (Value.enum v).assignable type = true) : ∃ e, type = .enum e := by
  cases type with
  | enum e => exact ⟨e, rfl⟩
  | _ => cases h

/-- In every dialect constants of enumerations are integers. -/
theorem Dialect.sqlType_enum (d : Dialect) (e : EnumType) : d.sqlType (.enum e) = .integer := by
  obtain ⟨kind, known⟩ := d
  cases kind <;> rfl

/-! ## Types of what is bound -/

namespace TypeConverter

/-- A parameter is bound as the SQL type of a logical type that its value may stand for. -/
def Fits (c : TypeConverter) (p : Parameter) : Prop :=
  ∃ type, p.value.assignable type = true ∧ c.parameterSqlType p = c.dialect.sqlType type

variable {c : TypeConverter} {p : Parameter}

theorem parameterSqlType_of_some {type : LogicalType} (h : p.boundType? = some type) :
    c.parameterSqlType p = c.dialect.sqlType type := by
  rw [Parameter.boundType?] at h
  rw [parameterSqlType, h]
  rfl

theorem parameterSqlType_of_none (h : p.boundType? = none) :
    c.parameterSqlType p = c.nullType.getD c.dialect.vendor.nullType := by
  rw [Parameter.boundType?] at h
  rw [parameterSqlType, h]
  rfl

theorem fits_of_some (hvalid : p.validate = .ok ()) {type : LogicalType}
    (h : p.boundType? = some type) : c.Fits p :=
  ⟨type, Parameter.assignable_boundType hvalid h, parameterSqlType_of_some h⟩

/-- A constant of an enumeration that is not named fits if the type of nulls is that of integers. -/
theorem fits_enum_iff {v : EnumValue} (hvalue : p.value = .enum v) (h : p.boundType? = none) :
    c.Fits p ↔ c.nullType.getD c.dialect.vendor.nullType = .integer := by
  unfold Fits
  rw [parameterSqlType_of_none h, hvalue]
  constructor
  · rintro ⟨type, hassignable, htype⟩
    obtain ⟨e, rfl⟩ := Value.assignable_enum hassignable
    rw [htype, c.dialect.sqlType_enum]
  · intro hnull
    obtain ⟨e, he⟩ := v.exists_holds
    exact ⟨.enum e, he, by rw [hnull, c.dialect.sqlType_enum]⟩

end TypeConverter

/-- Every valid parameter with a value is bound as a type that its value may stand for, whatever
the type of nulls, unless its value is a constant of an enumeration that is not named: that one is
bound as a null without a type, which fits only where the type of nulls is that of integers. The
type of nulls is used for no other values than these and nulls without a type. -/
theorem bound_type_fits_iff (d : Dialect) {p : Parameter} (hvalid : p.validate = .ok ()) :
    (p.value.isNull = false → ∀ nullType : Option SqlType, TypeConverter.Fits ⟨d, nullType⟩ p ↔
      (p.isUntypedEnum = true → nullType.getD d.vendor.nullType = .integer)) ∧
    ((∀ nullType : Option SqlType,
      TypeConverter.parameterSqlType ⟨d, nullType⟩ p = nullType.getD d.vendor.nullType) ↔
        p.logicalType = none ∧ (p.value.isNull = true ∨ p.value.isEnum = true)) := by
  have hnone := Parameter.boundType?_eq_none_iff hvalid
  cases htype : p.boundType? with
  | some type =>
    have htyped : ¬ (p.logicalType = none ∧ (p.value.isNull = true ∨ p.value.isEnum = true)) := by
      rw [← hnone, htype]
      exact Option.some_ne_none type
    constructor
    · intro _ nullType
      refine iff_of_true (TypeConverter.fits_of_some hvalid htype) fun henum => ?_
      obtain ⟨hown, henum⟩ := Bool.and_eq_true_iff.mp henum
      exact absurd ⟨Option.isNone_iff_eq_none.mp hown, .inr henum⟩ htyped
    · refine iff_of_false (fun hall => ?_) htyped
      -- the type does not follow the type of nulls when that changes
      have hnull := hall (some .null)
      have hinteger := hall (some .integer)
      rw [TypeConverter.parameterSqlType_of_some htype] at hnull hinteger
      have hsame : SqlType.null = .integer := hnull.symm.trans hinteger
      exact absurd hsame (by decide)
  | none =>
    obtain ⟨hown, hvalue⟩ := hnone.mp htype
    refine ⟨fun hnull nullType => ?_, iff_of_true ?_ ⟨hown, hvalue⟩⟩
    · have henum : p.value.isEnum = true := hvalue.resolve_left (by simp [hnull])
      have huntyped : p.isUntypedEnum = true := by
        rw [Parameter.isUntypedEnum, hown, henum]
        rfl
      cases hv : p.value with
      | enum v =>
        rw [TypeConverter.fits_enum_iff hv htype]
        exact ⟨fun h _ => h, fun h => h huntyped⟩
      | _ =>
        rw [hv] at henum
        cases henum
    · exact fun nullType => TypeConverter.parameterSqlType_of_none htype

/-- The second constant of an enumeration that is named. -/
def chosenColour : Parameter :=
  .typed (.enum ⟨1, "green"⟩) (.enum ⟨"Colour", ["red", "green"]⟩)

theorem bound_type_fits_iff_of_enum :
    chosenColour.validate = .ok () ∧ chosenColour.value.isNull = false ∧
      TypeConverter.Fits ⟨Dialect.new .db2, some .null⟩ chosenColour := by
  have hvalid : chosenColour.validate = .ok () := rfl
  exact ⟨hvalid, rfl, ((bound_type_fits_iff (Dialect.new .db2) hvalid).1 rfl (some .null)).mpr
    fun huntyped => absurd huntyped (by decide)⟩

/-- A constant of an enumeration that is not named is valid, but it is bound as a null. -/
theorem enum_is_bound_as_null :
    let p := Parameter.ofValue (.enum ⟨1, "green"⟩)
    let c : TypeConverter := ⟨Dialect.new .ansi, none⟩
    p.validate = .ok () ∧ p.value.isNull = false ∧ c.parameterSqlType p = .null ∧ ¬ c.Fits p := by
  intro p c
  refine ⟨rfl, rfl, rfl, ?_⟩
  have hnull : p.boundType? = none := rfl
  rw [TypeConverter.fits_enum_iff rfl hnull]
  decide

end SqlCompose
