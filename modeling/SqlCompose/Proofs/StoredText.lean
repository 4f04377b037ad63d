import SqlCompose.Proofs.BindForms
import SqlCompose.Proofs.TemporalRoundTrip

/-!
# SqlCompose.Proofs.StoredText -- dates and times that are bound as text

SQLite has no dates. A date or a time is bound as its text, and what is stored is
read back as the value that was bound, if the text keeps it. The text is that of
the value as it is: a temporal kind that a literal was marked with plays no part in it. A
literal that is written into a statement holds the text of the converted value,
so the two texts agree only where nothing had to be converted.
-/

namespace SqlCompose

open Compose Time

/-! ## Binding as text -/

section

variable {ctx : Context} {s : Session}

/-- Where the first rule is to bind dates and times as text, one is bound as its own text, and
nothing else of the parameter is changed. -/
theorem yields_resolveBound_text (hregistry : ctx.registry = ctx.dialect.registry)
    {rules : List BindRule} (hrules : ctx.dialect.vendor.bindRules = .temporalText :: rules)
    {p : Parameter} (hvalid : p.validate = .ok ()) {text : String}
    (htext : p.value.isoText? = some text) :
    (resolveBound (.parameter p)).Yields ctx s (p.withValue (.string text) (some .string)).bound
      s := by
  have hbinds : ctx.registry.BindsBy (.temporalText :: rules) := by
    rw [hregistry, ← hrules]
    exact ctx.dialect.registry_bindsBy
  have hrule : p.boundBy (.temporalText :: rules) =
      pure (p.withValue (.string text) (some .string)).bound := by
    unfold Parameter.boundBy
    rw [BindRule.text?, pure_bind, htext]
  unfold Yields
  rw [outcome_resolveBound hbinds, hvalid, hrule]
  rfl

/-! ## Reading back what was bound -/

/-- The dialect binds dates and times as text before anything else. -/
theorem bindRules_of_sqlite {d : Dialect} (h : d.kind = .sqlite) :
    d.vendor.bindRules = [.temporalText, .characterStream] := by
  unfold Dialect.vendor
  rw [h]
  rfl

/-- Every date, time of day and moment, and every moment at an offset of whole minutes, that is
bound as a parameter is read back as the same value from the text that it was bound as, if a leap
second in it ends its minute and the calendar has its local day. -/
theorem stored_text_reads_back (hdialect : ctx.dialect.kind = .sqlite)
    (hregistry : ctx.registry = ctx.dialect.registry) (extra : List Processor) {p : Parameter}
    (hvalid : p.validate = .ok ()) {type : LogicalType} (htype : p.value.logicalType? = some type)
    (htemporal : type.isTemporal = true) (hkept : p.value.KeptByText) :
    ∃ bound text, (resolveBound (.parameter p)).Yields ctx s bound s ∧
      bound.parameter.value = .string text ∧
      Codec.deserialize ⟨ctx.dialect, extra⟩ (.string text) type = pure p.value := by
  obtain ⟨text, hwritten⟩ := Value.exists_written htype htemporal hkept
  refine ⟨(p.withValue (.string text) (some .string)).bound, text, ?_, rfl,
    Codec.deserialize_written _ hwritten⟩
  exact yields_resolveBound_text hregistry (bindRules_of_sqlite hdialect) hvalid hwritten.isoText?

end

/-- A context of a statement for SQLite. -/
def Context.ofSqlite : Context :=
  { dialect := Dialect.new .sqlite, aliasMode := .explicitOnly, model := none
    registry := (Dialect.new .sqlite).registry }

theorem Context.kind_ofSqlite : Context.ofSqlite.dialect.kind = .sqlite := rfl

theorem Context.registry_ofSqlite :
    Context.ofSqlite.registry = Context.ofSqlite.dialect.registry := rfl

theorem stored_text_reads_back_of_offset :
    let z : ZonedDateTime :=
      ⟨⟨⟨-12345, 3, 1, by decide⟩, ⟨5, 29, 59, 123000000, by decide⟩⟩, -19800, by decide⟩
    let p := (Parameter.ofValue (.zoned z)).withTemporal .date
    let s : Session := { scope := Scope.root }
    p.validate = .ok () ∧ p.value.KeptByText ∧ ∃ bound text,
      (resolveBound (.parameter p)).Yields Context.ofSqlite s bound s ∧
      bound.parameter.value = .string text ∧
      Codec.deserialize ⟨Dialect.new .sqlite, []⟩ (.string text) .zonedDateTime =
        pure (.zoned z) := by
  intro z p s
  have hvalid : p.validate = .ok () := rfl
  let moment : DateTime := ⟨⟨-12345, 2, 28, by decide⟩, ⟨23, 59, 59, 123000000, by decide⟩⟩
  have hlocal : z.local? = some moment := by decide +kernel
  have hkept : p.value.KeptByText := ⟨by decide, moment, hlocal, by decide⟩
  exact ⟨hvalid, hkept, stored_text_reads_back Context.kind_ofSqlite Context.registry_ofSqlite []
    hvalid rfl rfl hkept⟩

/-- A leap second within its minute is stored like the second after its own, and a local day next
to the calendar is not read at all. -/
theorem stored_leap_second_is_lost :
    let t : TimeOfDay := ⟨23, 56, 4, 1333333333, by decide⟩
    let z : ZonedDateTime := ⟨⟨⟨262142, 12, 31, by decide⟩, ⟨23, 59, 0, 0, by decide⟩⟩, 60, by decide⟩
    let s : Session := { scope := Scope.root }
    (∃ bound text,
      (resolveBound (.parameter (Parameter.ofValue (.time t)))).Yields Context.ofSqlite s bound s ∧
      bound.parameter.value = .string text ∧
      Codec.deserialize ⟨Dialect.new .sqlite, []⟩ (.string text) .time ≠ pure (.time t)) ∧
    60 ∣ z.offset ∧ ∃ bound text,
      (resolveBound (.parameter (Parameter.ofValue (.zoned z)))).Yields Context.ofSqlite s bound s ∧
      bound.parameter.value = .string text ∧
      Codec.deserialize ⟨Dialect.new .sqlite, []⟩ (.string text) .zonedDateTime ≠ pure (.zoned z) := by
  intro t z s
  have hrules := bindRules_of_sqlite Context.kind_ofSqlite
  have hregistry := Context.registry_ofSqlite
  refine ⟨⟨_, _, yields_resolveBound_text hregistry hrules rfl rfl, rfl, fun h => ?_⟩,
    by decide, _, _, yields_resolveBound_text hregistry hrules rfl rfl, rfl,
    fun h => ?_⟩
  · -- what is read is the second after the one that was bound
    have ht : (Value.time t).logicalType? = some TemporalKind.time.logicalType := rfl
    have hlost : ¬ (Value.time t).KeptByText := by
      intro hkept
      exact absurd (hkept (by decide)) (by decide)
    obtain ⟨text, htext, hwritten⟩ := Value.written_settled ht
    have htext : writeTime t = text := Option.some.inj htext
    have hread := Codec.deserialize_written ⟨Dialect.new .sqlite, []⟩ hwritten
    rw [← htext] at hread
    exact hlost ((Value.settled_eq_self_iff ht).mp (Codec.pure_injective (hread.symm.trans h)))
  · have hrefused : ((Codec.deserialize ⟨Dialect.new .sqlite, []⟩ (.string (writeZoned z))
        .zonedDateTime) ⟨[]⟩).1.isOk = false := by decide +kernel
    have hread := congrArg (fun r => r.1.isOk) (congrFun h (⟨[]⟩ : StreamStore))
    exact absurd (hrefused.symm.trans hread) Bool.false_ne_true

/-! ## Texts of different kinds -/

theorem writeDate_ne_writeDateTime (d : Date) (t : DateTime) : writeDate d ≠ writeDateTime t := by
  intro h
  have hread := (dateTime_refuses_writeDate d).readDateTime
  rw [h, readDateTime_writeDateTime] at hread
  cases hread

theorem writeTime_ne_writeDateTime (time : TimeOfDay) (t : DateTime) :
    writeTime time ≠ writeDateTime t := by
  intro h
  have hread : (readDateTime Format.dateTime (writeTime time)).toOption = none :=
    (refuses_writeTime time _).readDateTime
  rw [h, readDateTime_writeDateTime] at hread
  cases hread

theorem writeDate_ne_writeZoned (d : Date) (z : ZonedDateTime) : writeDate d ≠ writeZoned z := by
  intro h
  have hread := (date_refuses_writeZoned z).readDate
  rw [← h, readDate_writeDate] at hread
  cases hread

theorem writeTime_ne_writeZoned (time : TimeOfDay) (z : ZonedDateTime) :
    writeTime time ≠ writeZoned z := by
  intro h
  have hread := (time_refuses_writeZoned z).readTime
  rw [← h, readTime_writeTime] at hread
  cases hread

/-! ## The text of a marked literal -/

namespace Value

/-- A value can be converted to the type of a temporal kind. -/
def ConvertsTo (v : Value) (kind : TemporalKind) : Prop :=
  ∃ w, v.convert kind.logicalType = pure w ∧ w.assignable kind.logicalType = true

/-- The text of a date or a time as one of a kind. A moment at an offset keeps it as a moment,
and loses it as a date or a time alone. It has a date if the calendar has its local day. -/
def kindText? : Value → TemporalKind → Option String
  | .date d, .date => some (writeDate d)
  | .date d, .dateTime => some (writeDateTime ⟨d, TimeOfDay.midnight⟩)
  | .time t, .time => some (writeTime t)
  | .dateTime t, .date => some (writeDate t.date)
  | .dateTime t, .time => some (writeTime t.time)
  | .dateTime t, .dateTime => some (writeDateTime t)
  | .zoned z, .date => z.local?.map fun moment => writeDate moment.date
  | .zoned z, .time => some (writeTime z.localTime)
  | .zoned z, .dateTime => some (writeZoned z)
  | _, _ => none

/-- A moment at an offset gives the date of its local moment. -/
theorem convert_zoned_date {z : ZonedDateTime} {moment : DateTime} (h : z.local? = some moment) :
    (Value.zoned z).convert .date = pure (.date moment.date) := by
  have hlocal : localMoment z = .ok moment := by rw [localMoment, h]
  show Streaming.ofResult ((localMoment z).map fun moment => Value.date moment.date) = _
  rw [hlocal]
  rfl

/-- Conversion knows no time of a date, and neither a date nor a moment of a time. -/
theorem ConvertsTo.exists_kindText? {v : Value} {kind : TemporalKind} (h : v.ConvertsTo kind)
    {type : LogicalType} (htype : v.logicalType? = some type) (htemporal : type.isTemporal = true) :
    ∃ text, v.kindText? kind = some text := by
  obtain ⟨w, hconvert, hassignable⟩ := h
  -- what a value is converted to can be seen from any streams
  have hrun := congrFun hconvert (⟨[]⟩ : StreamStore)
  cases v with
  | date d =>
    cases kind with
    | date | dateTime => exact ⟨_, rfl⟩
    | time =>
      cases hrun
      cases hassignable
  | time t =>
    cases kind with
    | time => exact ⟨_, rfl⟩
    | date | dateTime =>
      cases hrun
      cases hassignable
  | dateTime t => cases kind <;> exact ⟨_, rfl⟩
  | zoned z =>
    cases kind with
    | time | dateTime => exact ⟨_, rfl⟩
    | date =>
      cases hlocal : z.local? with
      | some moment =>
        exact ⟨_, congrArg (Option.map fun moment : DateTime => writeDate moment.date) hlocal⟩
      | none =>
        have hstopped : localMoment z = .error .stopped := by rw [localMoment, hlocal]
        replace hrun : (((localMoment z).map fun moment => Value.date moment.date), _) = _ := hrun
        rw [hstopped] at hrun
        cases hrun
  | _ =>
    cases htype
    try cases htemporal

/-- The text of a value is its text as one of a kind exactly if the kind is its own. -/
theorem isoText?_eq_some_iff {v : Value} {type : LogicalType} {own kind : TemporalKind}
    (htype : v.logicalType? = some type) (hown : type.temporalKind? = some own) {text : String}
    (htext : v.kindText? kind = some text) : v.isoText? = some text ↔ kind = own := by
  have hother : ∀ {s : String}, s ≠ text → kind ≠ own → (some s = some text ↔ kind = own) :=
    fun hs hk => iff_of_false (fun h => hs (Option.some.inj h)) hk
  cases v with
  | date d =>
    cases htype
    cases hown
    cases kind with
    | date =>
      cases htext
      exact iff_of_true rfl rfl
    | time => cases htext
    | dateTime =>
      cases htext
      exact hother (writeDate_ne_writeDateTime d _) (by decide)
  | time t =>
    cases htype
    cases hown
    cases kind with
    | time =>
      cases htext
      exact iff_of_true rfl rfl
    | date | dateTime => cases htext
  | dateTime t =>
    cases htype
    cases hown
    cases kind with
    | date =>
      cases htext
      exact hother (writeDate_ne_writeDateTime _ t).symm (by decide)
    | time =>
      cases htext
      exact hother (writeTime_ne_writeDateTime _ t).symm (by decide)
    | dateTime =>
      cases htext
      exact iff_of_true rfl rfl
  | zoned z =>
    cases htype
    cases hown
    cases kind with
    | date =>
      obtain ⟨moment, _, rfl⟩ := Option.map_eq_some_iff.mp htext
      exact hother (writeDate_ne_writeZoned _ z).symm (by decide)
    | time =>
      cases htext
      exact hother (writeTime_ne_writeZoned _ z).symm (by decide)
    | dateTime =>
      cases htext
      exact iff_of_true rfl rfl
  | _ =>
    cases htype
    try cases hown

/-- Every date and every time has a text. -/
theorem exists_isoText? {v : Value} {type : LogicalType} (htype : v.logicalType? = some type)
    (htemporal : type.isTemporal = true) : ∃ text, v.isoText? = some text := by
  cases v with
  | date | time | dateTime | zoned => exact ⟨_, rfl⟩
  | _ =>
    cases htype
    try cases htemporal

/-- A value with a type is no list. -/
theorem isList_of_logicalType? {v : Value} {type : LogicalType} (h : v.logicalType? = some type) :
    v.isList = false := by
  cases v <;> first | rfl | cases h

end Value

/-- A literal of a kind is written with the text of the converted value. -/
theorem Codec.serialize_kindText? (c : Codec) {v : Value} {kind : TemporalKind} {text : String}
    (h : v.kindText? kind = some text) :
    c.serialize v (some kind) = pure (c.dialect.vendor.temporalText kind text) := by
  cases v with
  | zoned z =>
    cases kind with
    | time | dateTime =>
      cases h
      rfl
    | date =>
      obtain ⟨moment, hlocal, rfl⟩ := Option.map_eq_some_iff.mp h
      show ((Value.zoned z).convert .date >>= _) >>= _ = _
      rw [Value.convert_zoned_date hlocal]
      rfl
  | _ => cases kind <;> cases h <;> rfl

namespace Literal

variable {l : Literal} {type : LogicalType}

theorem value_parameter (d : Dialect) (l : Literal) : (l.parameter d).value = l.value := by
  unfold parameter
  split
  · rfl
  · split <;> rfl

/-- A mark does not change the type of a value that has one. -/
theorem logicalType_parameter (d : Dialect) (h : l.value.logicalType? = some type) :
    (l.parameter d).logicalType = some type := by
  have hmarked : ∀ kind, (l.value.logicalType?.or (some kind)) = some type := by
    intro kind
    rw [h, Option.some_or]
  unfold parameter
  split
  · exact h
  · split <;> exact hmarked _

/-- The parameter of a literal of a value with a type is valid. -/
theorem validate_parameter (d : Dialect) (h : l.value.logicalType? = some type) :
    (l.parameter d).validate = .ok () := by
  unfold Parameter.validate
  simp only [value_parameter, logicalType_parameter d h, Value.isList_of_logicalType? h,
    Value.assignable_of_logicalType? h, Bool.false_eq_true, if_false, if_true]

end Literal

/-- The parameter of a literal of a value with a type. -/
theorem yields_literal_parameter {ctx : Context} {s : Session}
    (hregistry : ctx.registry = ctx.dialect.registry) {l : Literal} {type : LogicalType}
    (htype : l.value.logicalType? = some type) :
    (resolveParameter (.literal l)).Yields ctx s (l.parameter ctx.dialect) s := by
  have hlist := Value.isList_of_logicalType? htype
  have hvalid : l.validate = .ok () := by
    unfold Literal.validate
    split
    · next items heq =>
      rw [heq] at hlist
      cases hlist
    · rfl
  have hplain : ctx.registry.IsPlain := by
    rw [hregistry]
    exact ctx.dialect.registry_isPlain
  have hanswers : ctx.registry.Answers .literal .parameter := by
    rw [hregistry]
    exact ctx.dialect.registry_answers
      (r := { name := "literal-parameter", kind := .literal, form := .parameter })
      (by simp [Registry.standardResolvers])
  exact (yields_resolveParameter hplain).mpr ⟨⟨hvalid, hanswers, hlist⟩, rfl, rfl⟩

/-- SQLite writes a date or a time as its text between quotes, whatever its kind. -/
theorem temporalText_of_sqlite {d : Dialect} (h : d.kind = .sqlite) (kind : TemporalKind)
    (text : String) : d.vendor.temporalText kind text = Text.Quoted.quote text := by
  unfold Dialect.vendor
  rw [h]
  rfl

/-- A date or a time that is marked with a kind to which it can be converted is bound as the text
that its literal of the kind holds exactly if the kind is its own: it is bound as it is. -/
theorem bound_text_is_literal_text_iff {ctx : Context} {s : Session}
    (hdialect : ctx.dialect.kind = .sqlite) (hregistry : ctx.registry = ctx.dialect.registry)
    {v : Value} {type : LogicalType} {own kind : TemporalKind} (htype : v.logicalType? = some type)
    (hown : type.temporalKind? = some own) (hconverts : v.ConvertsTo kind) :
    ∃ p bound stored text,
      (resolveParameter (.literal ⟨v, some kind⟩)).Yields ctx s p s ∧
      (resolveBound (.parameter p)).Yields ctx s bound s ∧
      bound.parameter.value = .string stored ∧
      Codec.serialize ⟨ctx.dialect, []⟩ v (some kind) = pure (Text.Quoted.quote text) ∧
      (stored = text ↔ kind = own) := by
  have htemporal : type.isTemporal = true := by
    cases type <;> first | rfl | cases hown
  obtain ⟨text, htext⟩ := hconverts.exists_kindText? htype htemporal
  obtain ⟨stored, hstored⟩ := Value.exists_isoText? htype htemporal
  -- one text is bound and the other written: both are texts of the same value
  have hiff := Value.isoText?_eq_some_iff htype hown htext
  rw [hstored, Option.some.injEq] at hiff
  have hwritten := Codec.serialize_kindText? ⟨ctx.dialect, []⟩ htext
  rw [temporalText_of_sqlite hdialect] at hwritten
  let l : Literal := ⟨v, some kind⟩
  have hbound : (resolveBound (.parameter (l.parameter ctx.dialect))).Yields ctx s
      ((l.parameter ctx.dialect).withValue (.string stored) (some .string)).bound s := by
    refine yields_resolveBound_text hregistry (bindRules_of_sqlite hdialect)
      (l.validate_parameter _ htype) ?_
    rw [l.value_parameter]
    exact hstored
  exact ⟨l.parameter ctx.dialect, _, stored, text, yields_literal_parameter hregistry htype, hbound,
    rfl, hwritten, hiff⟩

theorem bound_text_is_literal_text_iff_of_offset :
    let z : ZonedDateTime :=
      ⟨⟨⟨2024, 2, 29, by decide⟩, ⟨22, 59, 58, 1500000000, by decide⟩⟩, 3601, by decide⟩
    let s : Session := { scope := Scope.root }
    Value.ConvertsTo (.zoned z) .time ∧ ∃ p bound stored text,
      (resolveParameter (.literal ⟨.zoned z, some .time⟩)).Yields Context.ofSqlite s p s ∧
      (resolveBound (.parameter p)).Yields Context.ofSqlite s bound s ∧
      bound.parameter.value = .string stored ∧
      Codec.serialize ⟨Dialect.new .sqlite, []⟩ (.zoned z) (some .time) =
        pure (Text.Quoted.quote text) ∧
      (stored = text ↔ TemporalKind.time = .dateTime) := by
  intro z s
  have hconverts : Value.ConvertsTo (.zoned z) .time := ⟨.time z.localTime, rfl, rfl⟩
  exact ⟨hconverts, bound_text_is_literal_text_iff Context.kind_ofSqlite Context.registry_ofSqlite
    rfl rfl hconverts⟩

/-- A moment that is marked as a date is bound with its time of day, and written without it. -/
theorem marked_moment_keeps_its_time :
    let t : DateTime := ⟨⟨2024, 1, 2, by decide⟩, ⟨10, 30, 0, 0, by decide⟩⟩
    let l : Literal := ⟨.dateTime t, some .date⟩
    let s : Session := { scope := Scope.root }
    Value.ConvertsTo l.value .date ∧
      ∃ p bound, (resolveParameter (.literal l)).Yields Context.ofSqlite s p s ∧
        (resolveBound (.parameter p)).Yields Context.ofSqlite s bound s ∧
        bound.parameter.value = .string "2024-01-02 10:30:00" ∧
        Codec.serialize ⟨Dialect.new .sqlite, []⟩ l.value (some .date) = pure "'2024-01-02'" := by
  intro t l s
  have hstored : l.value.isoText? = some "2024-01-02 10:30:00" := by decide
  have htext : l.value.kindText? .date = some "2024-01-02" := by decide
  have hbound := yields_resolveBound_text (s := s) Context.registry_ofSqlite
    (bindRules_of_sqlite Context.kind_ofSqlite) (l.validate_parameter (Dialect.new .sqlite) rfl)
    hstored
  have hwritten := Codec.serialize_kindText? ⟨Dialect.new .sqlite, []⟩ htext
  have hquoted : Text.Quoted.quote "2024-01-02" = "'2024-01-02'" := by decide
  rw [temporalText_of_sqlite rfl, hquoted] at hwritten
  have hconverts : Value.ConvertsTo l.value .date := ⟨.date t.date, rfl, rfl⟩
  exact ⟨hconverts, l.parameter (Dialect.new .sqlite), _,
    yields_literal_parameter Context.registry_ofSqlite rfl, hbound, rfl, hwritten⟩

end SqlCompose
