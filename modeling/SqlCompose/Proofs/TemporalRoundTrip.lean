import SqlCompose.Proofs.TemporalLiterals
import SqlCompose.Proofs.TimeForms

/-!
# SqlCompose.Proofs.TemporalRoundTrip -- dates and times come back from their literals

A literal that a codec wrote is read in three stages: the literal gives back its
text, processors may turn the text into the value, and the conversion to the
wanted type does so where no processor did. On its way a value is either still
its text or itself already, and no stage takes it for anything else. What the
text does not keep is lost: that a leap second was one within its minute, parts
of a minute in an offset, and a local day next to the calendar.
-/

namespace SqlCompose

open Time

/-! ## Values and their text -/

/-- The text of a date or a time keeps all of it. A leap second ends its minute, an offset has
whole minutes, and the calendar has the local day. -/
def Value.KeptByText : Value → Prop
  | .time t => t.LeapEndsMinute
  | .dateTime t => t.time.LeapEndsMinute
  | .zoned z =>
    60 ∣ z.offset ∧ ∃ moment, z.local? = some moment ∧ moment.time.LeapEndsMinute
  | _ => True

/-- A date or a time with its type and the text that loses nothing of it. -/
inductive Value.Written : Value → LogicalType → String → Prop where
  | date (d : Date) : Written (.date d) .date (writeDate d)
  | time (t : TimeOfDay) (h : t.LeapEndsMinute) : Written (.time t) .time (writeTime t)
  | dateTime (t : DateTime) (h : t.time.LeapEndsMinute) :
    Written (.dateTime t) .dateTime (writeDateTime t)
  | zoned (z : ZonedDateTime) (moment : DateTime) (hlocal : z.local? = some moment)
    (hminutes : 60 ∣ z.offset) (h : moment.time.LeapEndsMinute) :
    Written (.zoned z) .zonedDateTime (writeZoned z)

/-- A date or a time with each leap second moved to where its text puts it. -/
def Value.settled : Value → Value
  | .time t => .time (Time.settled t)
  | .dateTime t => .dateTime ⟨t.date, Time.settled t.time⟩
  | v => v

/-- A text that starts with a year is no literal. -/
theorem LiteralText.temporal?_year {s : String} {p : Parts} {f : Format}
    (hs : s.toList = Format.text p (.year :: f)) : temporal? s = none := by
  obtain ⟨c, cs, hcons, hc⟩ := writeYear_eq_cons p.year
  have htext : s.toList = c :: (cs ++ Format.text p f) := by
    rw [hs]
    show writeYear p.year ++ Format.text p f = _
    rw [hcons, List.cons_append]
  exact temporal?_eq_none htext hc

namespace Value

/-- Every date and every time has such a text, if its text keeps it. -/
theorem exists_written {v : Value} {type : LogicalType} (htype : v.logicalType? = some type)
    (htemporal : type.isTemporal = true) (hkept : v.KeptByText) : ∃ s, v.Written type s := by
  cases v with
  | date d =>
    cases htype
    exact ⟨_, .date d⟩
  | time t =>
    cases htype
    exact ⟨_, .time t hkept⟩
  | dateTime t =>
    cases htype
    exact ⟨_, .dateTime t hkept⟩
  | zoned z =>
    cases htype
    obtain ⟨hminutes, moment, hlocal, hleap⟩ := hkept
    exact ⟨_, .zoned z moment hlocal hminutes hleap⟩
  | _ =>
    cases htype
    try cases htemporal

/-- The text of a date or a time without an offset is also that of what it settles to. -/
theorem written_settled {v : Value} {kind : TemporalKind}
    (htype : v.logicalType? = some kind.logicalType) :
    ∃ s, v.isoText? = some s ∧ v.settled.Written kind.logicalType s := by
  cases v with
  | date d =>
    cases kind <;> cases htype
    exact ⟨_, rfl, .date d⟩
  | time t =>
    cases kind <;> cases htype
    have hsame : writeTime (Time.settled t) = writeTime t := by
      unfold writeTime
      rw [timeParts_settled]
    exact ⟨_, rfl, hsame ▸ .time _ (leapEndsMinute_settled t)⟩
  | dateTime t =>
    cases kind <;> cases htype
    have hsame : writeDateTime ⟨t.date, Time.settled t.time⟩ = writeDateTime t := by
      unfold writeDateTime dateTimeParts
      rw [timeParts_settled]
    exact ⟨_, rfl, hsame ▸ .dateTime _ (leapEndsMinute_settled t.time)⟩
  | _ => cases kind <;> cases htype

/-- Without an offset only a leap second within its minute is lost. -/
theorem settled_eq_self_iff {v : Value} {kind : TemporalKind}
    (htype : v.logicalType? = some kind.logicalType) : v.settled = v ↔ v.KeptByText := by
  cases v with
  | date d => exact iff_of_true rfl trivial
  | time t =>
    unfold settled KeptByText
    rw [Value.time.injEq, Time.settled_eq_self_iff]
  | dateTime t =>
    obtain ⟨date, time⟩ := t
    unfold settled KeptByText
    rw [Value.dateTime.injEq, DateTime.mk.injEq, and_iff_right rfl, Time.settled_eq_self_iff]
  | _ => cases kind <;> cases htype

section

variable {v : Value} {type : LogicalType} {s : String} (h : v.Written type s)
include h

theorem Written.isTemporal : type.isTemporal = true := by
  cases h <;> rfl

theorem Written.assignable : v.assignable type = true := by
  cases h <;> rfl

theorem Written.isoText? : v.isoText? = some s := by
  cases h <;> rfl

/-- The text of a date or a time starts like a number. -/
theorem Written.temporal?_eq_none : LiteralText.temporal? s = none := by
  cases h with
  | date d => exact LiteralText.temporal?_year (Format.toList_write Format.date _)
  | time t =>
    obtain ⟨c, cs, hcons, hc⟩ := Text.zeroPadded_eq_cons 2 (timeParts t).hour
    obtain ⟨rest, hrest⟩ : ∃ rest, (writeTime t).toList =
        Text.zeroPadded 2 (timeParts t).hour ++ rest := by
      rw [writeTime, Format.toList_write]
      exact ⟨_, rfl⟩
    rw [hcons, List.cons_append] at hrest
    exact LiteralText.temporal?_eq_none hrest (.inl hc)
  | dateTime t => exact LiteralText.temporal?_year (Format.toList_write Format.dateTime _)
  | zoned z => exact LiteralText.temporal?_year (Format.toList_write Format.zoned _)

end

/-! ## Conversion -/

/-- A value with a type is of that type. -/
theorem assignable_of_logicalType? {v : Value} {type : LogicalType}
    (h : v.logicalType? = some type) : v.assignable type = true := by
  cases v <;> cases h <;> exact beq_self_eq_true _

theorem convert_of_assignable {v : Value} {type : LogicalType} (h : v.assignable type = true) :
    v.convert type = pure v := if_pos h

theorem readMoment?_writeDate (d : Date) :
    readMoment? (writeDate d) = some ⟨d, TimeOfDay.midnight⟩ := by
  simp only [readMoment?, trim_writeDate, (dateTime_refuses_writeDate d).readDateTime,
    (dateTimeT_refuses_writeDate d).readDateTime, readDate_writeDate]
  rfl

theorem readMoment?_writeDateTime {t : DateTime} (h : t.time.LeapEndsMinute) :
    readMoment? (writeDateTime t) = some t := by
  simp only [readMoment?, trim_writeDateTime, readDateTime_writeDateTime,
    Time.settled_eq_self_iff.mpr h]
  rfl

/-- A text is of no other type than its own. -/
theorem convert_string_eq (s : String) {type : LogicalType} (h : type ≠ .string) :
    (Value.string s).convert type = (Value.string s).converted type := by
  have hassignable : (Value.string s).assignable type = false := by
    cases type <;> first | rfl | exact absurd rfl h
  unfold convert
  rw [hassignable]
  rfl

/-- A text is converted to the value that it was written for. -/
theorem Written.convert_string {v : Value} {type : LogicalType} {s : String}
    (h : v.Written type s) : (Value.string s).convert type = pure v := by
  have htype : type ≠ .string := by
    rintro rfl
    cases h
  rw [convert_string_eq s htype]
  -- the conversions are opened one level only: their readers are too large to be evaluated
  cases h with
  | date d =>
    have hdate : (Value.string (writeDate d)).toDate = .ok (.date d) := by
      unfold toDate
      simp only [readMoment?_writeDate]
    unfold converted
    simp only [hdate]
    rfl
  | time t hleap =>
    have htime : (Value.string (writeTime t)).toTime = .ok (.time t) := by
      have hread : (readTime (writeTime t)).toOption = some t := by
        rw [readTime_writeTime, Time.settled_eq_self_iff.mpr hleap]
        rfl
      unfold toTime
      simp only [trim_writeTime, hread, Option.some_or]
    unfold converted
    simp only [htime]
    rfl
  | dateTime t hleap =>
    have hmoment : (Value.string (writeDateTime t)).toDateTime = .ok (.dateTime t) := by
      unfold toDateTime
      simp only [readMoment?_writeDateTime hleap]
    unfold converted
    simp only [hmoment]
    rfl
  | zoned z moment hlocal hminutes hleap =>
    have hzoned : (Value.string (writeZoned z)).toZoned = .ok (.zoned z) := by
      unfold toZoned
      rcases readInterchange_writeZoned hlocal hminutes hleap with hread | ⟨fault, hread⟩
      · simp only [trim_writeZoned, hread]
      · simp only [trim_writeZoned, hread, readZoned_writeZoned hlocal hminutes hleap]
    unfold converted
    simp only [hzoned]
    rfl

end Value

/-! ## Processors -/

namespace Processor

/-- A stored text is the date or the time that was written; one with an offset stays text. -/
theorem readStored?_written {v : Value} {type : LogicalType} {s : String} (h : v.Written type s) :
    readStored? s = some v ∨ readStored? s = none := by
  cases h with
  | date d =>
    left
    simp only [readStored?, storedForms, trim_writeDate, List.findSome?_cons, List.findSome?_nil,
      (dateTime_refuses_writeDate d).readDateTime, (dateTimeT_refuses_writeDate d).readDateTime,
      (dateHourMinute_refuses_writeDate d).readDateTime, readDate_writeDate]
    rfl
  | time t hleap =>
    left
    -- every form with a date in front stops at the first colon of a time
    have hforms : ∀ g, (readDateTime (.year :: .literal '-' :: g) (writeTime t)).toOption = none :=
      fun g => (refuses_writeTime t g).readDateTime
    have hdate : (readDate (writeTime t)).toOption = none := (refuses_writeTime t _).readDate
    have hdateTime : (readDateTime Format.dateTime (writeTime t)).toOption = none := hforms _
    have hdateTimeT : (readDateTime Format.dateTimeT (writeTime t)).toOption = none := hforms _
    have hshort : (readDateTime Format.dateHourMinute (writeTime t)).toOption = none := hforms _
    simp only [readStored?, storedForms, trim_writeTime, List.findSome?_cons, List.findSome?_nil,
      hdateTime, hdateTimeT, hshort, hdate, readTime_writeTime, Time.settled_eq_self_iff.mpr hleap]
    rfl
  | dateTime t hleap =>
    left
    simp only [readStored?, storedForms, trim_writeDateTime, List.findSome?_cons,
      readDateTime_writeDateTime, Time.settled_eq_self_iff.mpr hleap]
    rfl
  | zoned z =>
    right
    simp only [readStored?, storedForms, trim_writeZoned, List.findSome?_cons, List.findSome?_nil,
      (dateTime_refuses_writeZoned z).readDateTime, (dateTimeT_refuses_writeZoned z).readDateTime,
      (dateHourMinute_refuses_writeZoned z).readDateTime, (date_refuses_writeZoned z).readDate,
      (time_refuses_writeZoned z).readTime]
    rfl

theorem readOffset?_writeZoned {z : ZonedDateTime} {moment : DateTime}
    (hlocal : z.local? = some moment) (hminutes : 60 ∣ z.offset)
    (hleap : moment.time.LeapEndsMinute) : readOffset? (writeZoned z) = some z := by
  rcases readInterchange_writeZoned hlocal hminutes hleap with hread | ⟨fault, hread⟩
  · simp only [readOffset?, trim_writeZoned, hread]
    rfl
  · simp only [readOffset?, trim_writeZoned, hread, readZoned_writeZoned hlocal hminutes hleap]
    rfl

section

variable {v : Value} {type : LogicalType} {s : String} (h : v.Written type s) (p : Processor)
include h

/-- A processor leaves a text as it is or makes the value of it. -/
theorem process_string :
    ∃ raw, p.process (.string s) type = .ok raw ∧ (raw = v ∨ raw = .string s) := by
  cases p with
  | typedLiteral =>
    refine ⟨.string s, ?_, .inr rfl⟩
    show readLiteral s type = _
    unfold readLiteral
    rw [if_pos h.isTemporal, h.temporal?_eq_none]
    rfl
  | storedTemporal =>
    show ∃ raw, (if type.isTemporal then readStored (.string s) else _) = _ ∧ _
    rw [if_pos h.isTemporal]
    -- a stored text is read as the value it was written for, or passed on as it is
    rcases readStored?_written h with hread | hread
    · refine ⟨v, ?_, .inl rfl⟩
      simp only [readStored, hread, Option.getD_some]
    · refine ⟨.string s, ?_, .inr rfl⟩
      simp only [readStored, hread, Option.getD_none]
  | offsetTimestamp =>
    cases h with
    | zoned z moment hlocal hminutes hleap =>
      refine ⟨.zoned z, ?_, .inl rfl⟩
      simp only [process, readOffset?_writeZoned hlocal hminutes hleap]
      rfl
    | _ => exact ⟨_, rfl, .inr rfl⟩

/-- A processor leaves a date or a time as it is. -/
theorem process_value : p.process v type = .ok v := by
  cases p <;> cases h <;> rfl

end

end Processor

/-! ## Literals -/

namespace Codec

/-- A result tells the value that it is of. -/
theorem pure_injective {α : Type} {a b : α} (h : (pure a : Streaming α) = pure b) : a = b :=
  Except.ok.inj (congrArg Prod.fst (congrFun h (⟨[]⟩ : StreamStore)))

/-- What any processors make of a date or a time, or of its text. -/
theorem processed_written {v : Value} {type : LogicalType} {s : String} (h : v.Written type s)
    (ps : List Processor) {raw : Value} (hraw : raw = v ∨ raw = .string s) :
    ∃ raw', processed ps raw type = .ok raw' ∧ (raw' = v ∨ raw' = .string s) := by
  -- each processor gets the value or its text, and gives on the one or the other
  induction ps generalizing raw with
  | nil => exact ⟨raw, rfl, hraw⟩
  | cons p rest ih =>
    obtain ⟨next, hnext, hnext'⟩ : ∃ next, p.process raw type = .ok next ∧
        (next = v ∨ next = .string s) := by
      rcases hraw with rfl | rfl
      · exact ⟨raw, Processor.process_value h p, .inl rfl⟩
      · exact Processor.process_string h p
    obtain ⟨raw', hprocessed, hraw'⟩ := ih hnext'
    refine ⟨raw', ?_, hraw'⟩
    unfold processed
    rw [hnext]
    exact hprocessed

/-- Every product reads literals before anything else. -/
theorem processors_eq_cons (c : Codec) : ∃ rest, c.processors = .typedLiteral :: rest := by
  obtain ⟨⟨kind, known⟩, extra⟩ := c
  cases kind <;> exact ⟨_, rfl⟩

/-- What the processors leave is read as what it is converted to. -/
theorem deserialize_eq_pure (c : Codec) {raw raw' w : Value} {type : LogicalType}
    (hnull : raw.isNull = false) (hprocessed : processed c.processors raw type = .ok raw')
    (hconvert : raw'.convert type = pure w) (hassignable : w.assignable type = true) :
    c.deserialize raw type = pure w := by
  have hresult : Streaming.ofResult (.ok raw') = pure raw' := rfl
  unfold deserialize
  rw [hprocessed, hresult]
  simp only [hnull, Bool.false_eq_true, if_false, pure_bind, hconvert, hassignable, if_true]

/-- Where the processors leave a value or its text, the value is what is read. -/
theorem deserialize_of_processed (c : Codec) {v : Value} {type : LogicalType} {s : String}
    (h : v.Written type s) {raw raw' : Value} (hnull : raw.isNull = false)
    (hprocessed : processed c.processors raw type = .ok raw')
    (hraw' : raw' = v ∨ raw' = .string s) :
    c.deserialize raw type = pure v := by
  have hconvert : raw'.convert type = pure v := by
    rcases hraw' with rfl | rfl
    · exact Value.convert_of_assignable h.assignable
    · exact h.convert_string
  exact c.deserialize_eq_pure hnull hprocessed hconvert h.assignable

/-- The text of a date or a time is read as the value that it was written for. -/
theorem deserialize_written (c : Codec) {v : Value} {type : LogicalType} {s : String}
    (h : v.Written type s) : c.deserialize (.string s) type = pure v := by
  obtain ⟨raw, hprocessed, hraw⟩ := processed_written h c.processors (.inr rfl)
  exact c.deserialize_of_processed h rfl hprocessed hraw

/-- The literal of a text, of whatever kind, is read as the value that the text was written for. -/
theorem deserialize_temporalText (c : Codec) {v : Value} {type : LogicalType} {s : String}
    (h : v.Written type s) (kind : TemporalKind) :
    c.deserialize (.string (c.dialect.vendor.temporalText kind s)) type = pure v := by
  obtain ⟨rest, hprocessors⟩ := c.processors_eq_cons
  obtain ⟨raw, hprocessed, hraw⟩ := processed_written h rest (.inr rfl)
  have hliteral : Processor.process .typedLiteral
      (.string (c.dialect.vendor.temporalText kind s)) type = .ok (.string s) := by
    show Processor.readLiteral _ type = _
    unfold Processor.readLiteral
    rw [if_pos h.isTemporal]
    show Except.ok (Value.string ((LiteralText.temporal?
      (c.dialect.kind.vendor.temporalText kind s)).getD _)) = _
    rw [LiteralText.temporal?_temporalText]
    rfl
  refine c.deserialize_of_processed h rfl ?_ hraw
  rw [hprocessors]
  unfold processed
  rw [hliteral]
  exact hprocessed

/-- A date or a time is written as the literal of its own text. -/
theorem serialize_written (c : Codec) {v : Value} {type : LogicalType} {s : String}
    (h : v.Written type s) {k : TemporalKind} (hk : type.temporalKind? = some k)
    {kind : Option TemporalKind} (hkind : kind = none ∨ kind = some k) :
    c.serialize v kind = pure (c.dialect.vendor.temporalText k s) := by
  cases h <;> cases hk <;> rcases hkind with rfl | rfl <;> rfl

/-- Every date, time of day and moment, and every moment at an offset of whole minutes, is written
as a literal that is read back as the same value, if a leap second in it ends its minute and the
calendar has its local day. -/
theorem temporal_round_trip (c : Codec) {v : Value} {type : LogicalType} {k : TemporalKind}
    {kind : Option TemporalKind} (htype : v.logicalType? = some type)
    (hk : type.temporalKind? = some k) (hkind : kind = none ∨ kind = some k)
    (hkept : v.KeptByText) :
    ∃ text, c.serialize v kind = pure text ∧ c.deserialize (.string text) type = pure v := by
  have htemporal : type.isTemporal = true := by
    cases type <;> first | rfl | cases hk
  obtain ⟨s, hs⟩ := Value.exists_written htype htemporal hkept
  exact ⟨_, c.serialize_written hs hk hkind, c.deserialize_temporalText hs k⟩

theorem temporal_round_trip_of_leap_second :
    let c : Codec := ⟨Dialect.new .sqlite, [.offsetTimestamp]⟩
    let z : ZonedDateTime :=
      ⟨⟨⟨-12345, 3, 1, by decide⟩, ⟨5, 29, 59, 1999999999, by decide⟩⟩, -19800, by decide⟩
    Value.KeptByText (.zoned z) ∧ ∃ text, c.serialize (.zoned z) (some .dateTime) = pure text ∧
      c.deserialize (.string text) .zonedDateTime = pure (.zoned z) := by
  intro c z
  let moment : DateTime := ⟨⟨-12345, 2, 28, by decide⟩, ⟨23, 59, 59, 1999999999, by decide⟩⟩
  have hlocal : z.local? = some moment := by decide +kernel
  have hkept : Value.KeptByText (.zoned z) := ⟨by decide, moment, hlocal, fun _ => rfl⟩
  exact ⟨hkept, c.temporal_round_trip rfl rfl (.inr rfl) hkept⟩

/-- A leap second within its minute is written like the second after its own, and a local day next
to the calendar is not read at all. -/
theorem leap_second_within_minute_is_lost :
    let c : Codec := ⟨Dialect.new .ansi, []⟩
    let t : TimeOfDay := ⟨23, 56, 4, 1333333333, by decide⟩
    let z : ZonedDateTime := ⟨⟨⟨262142, 12, 31, by decide⟩, ⟨23, 59, 0, 0, by decide⟩⟩, 60, by decide⟩
    (∃ text, c.serialize (.time t) none = pure text ∧
      c.deserialize (.string text) .time ≠ pure (.time t)) ∧
    60 ∣ z.offset ∧ ∃ text, c.serialize (.zoned z) none = pure text ∧
      c.deserialize (.string text) .zonedDateTime ≠ pure (.zoned z) := by
  intro c t z
  have ht : (Value.time t).logicalType? = some TemporalKind.time.logicalType := rfl
  have hlost : ¬ (Value.time t).KeptByText := by
    intro hkept
    exact absurd (hkept (by decide)) (by decide)
  obtain ⟨s, hs, hwritten⟩ := Value.written_settled ht
  refine ⟨⟨_, rfl, fun h => ?_⟩, by decide, _, rfl, fun h => ?_⟩
  · -- what is read is the second after the one that was written
    have hs : writeTime t = s := Option.some.inj hs
    have hread := c.deserialize_temporalText hwritten .time
    rw [← hs] at hread
    exact hlost ((Value.settled_eq_self_iff ht).mp (pure_injective (hread.symm.trans h)))
  · have hrefused : ((c.deserialize (.string (c.dialect.vendor.temporalText .dateTime (writeZoned z)))
        .zonedDateTime) ⟨[]⟩).1.isOk = false := by decide +kernel
    have hread := congrArg (fun r => r.1.isOk) (congrFun h (⟨[]⟩ : StreamStore))
    exact absurd (hrefused.symm.trans hread) Bool.false_ne_true

end Codec

end SqlCompose
