import SqlCompose.Proofs.TemporalRoundTrip

/-!
# SqlCompose.Proofs.ForcedKind -- dates and times written as another kind

A date, a time of day or a moment may be written as a literal of a kind that is
not its own. Where it can be converted to that kind, the literal is read back as
the converted value, unless its text loses a leap second. Where it cannot, it
ought to be refused, but the literal of that kind is written around the text of
the value as it is.
-/

namespace SqlCompose

open Time

/-! ## Conversion between kinds -/

/-- A date, a time or a moment as one of a kind. A moment has a date and a time, and a
date is the moment at its midnight. -/
def Value.recast? : Value → TemporalKind → Option Value
  | .date d, .date => some (.date d)
  | .date d, .dateTime => some (.dateTime ⟨d, TimeOfDay.midnight⟩)
  | .time t, .time => some (.time t)
  | .dateTime t, .date => some (.date t.date)
  | .dateTime t, .time => some (.time t.time)
  | .dateTime t, .dateTime => some (.dateTime t)
  | _, _ => none

/-- What a literal of a forced kind should be: the converted value when it is read back,
or a refusal where there is no conversion. -/
def Codec.Honest (c : Codec) (v : Value) (k : TemporalKind) : Prop :=
  match v.recast? k with
  | some w => ∃ text, c.serialize v (some k) = pure text ∧
      c.deserialize (.string text) k.logicalType = pure w
  | none => ∃ fault, c.serialize v (some k) = throw (.conversion fault)

namespace Codec

/-- A value is refused, or it is written, not both. -/
theorem pure_ne_throw {α : Type} (a : α) (e : SqlError) :
    (pure a : Streaming α) ≠ throw e := by
  intro h
  have hrun : (Except.ok a, (⟨[]⟩ : StreamStore)) = (Except.error e, ⟨[]⟩) := congrFun h ⟨[]⟩
  cases hrun

/-- What can be converted is written as the converted value. -/
theorem serialize_recast (c : Codec) {v w : Value} {k : TemporalKind} (h : v.recast? k = some w) :
    w.logicalType? = some k.logicalType ∧ ∃ s, w.isoText? = some s ∧
      c.serialize v (some k) = pure (c.dialect.vendor.temporalText k s) := by
  cases v with
  | date d =>
    cases k with
    | date =>
      cases h
      exact ⟨rfl, _, rfl, rfl⟩
    | time => cases h
    | dateTime =>
      cases h
      exact ⟨rfl, _, rfl, rfl⟩
  | time t =>
    cases k with
    | time =>
      cases h
      exact ⟨rfl, _, rfl, rfl⟩
    | date | dateTime => cases h
  | dateTime t =>
    cases k with
    | date =>
      cases h
      exact ⟨rfl, _, rfl, rfl⟩
    | time =>
      cases h
      exact ⟨rfl, _, rfl, rfl⟩
    | dateTime =>
      cases h
      exact ⟨rfl, _, rfl, rfl⟩
  | _ => cases k <;> cases h

/-- What cannot be converted is written as it is, within a literal of the kind. -/
theorem serialize_unconverted (c : Codec) {v : Value} {j k : TemporalKind} {s : String}
    (hv : v.logicalType? = some j.logicalType) (hs : v.isoText? = some s)
    (h : v.recast? k = none) :
    c.serialize v (some k) = pure (c.dialect.vendor.temporalText k s) := by
  cases v <;> cases j <;> cases hv <;> cases hs <;> cases k <;> first | rfl | cases h

/-- The converted value is read back if its text keeps it, and only then. -/
theorem honest_iff_of_recast (c : Codec) {v w : Value} {k : TemporalKind}
    (h : v.recast? k = some w) : c.Honest v k ↔ w.KeptByText := by
  obtain ⟨htype, s, hs, hserialize⟩ := c.serialize_recast h
  obtain ⟨s', hs', hwritten⟩ := Value.written_settled htype
  obtain rfl : s' = s := Option.some.inj (hs'.symm.trans hs)
  have hread := c.deserialize_temporalText hwritten k
  unfold Honest
  rw [h, ← Value.settled_eq_self_iff htype]
  constructor
  · rintro ⟨text, htext, hback⟩
    obtain rfl := pure_injective (hserialize.symm.trans htext)
    exact pure_injective (hread.symm.trans hback)
  · intro hkept
    exact ⟨_, hserialize, hkept ▸ hread⟩

/-- Every date, time of day or moment that can be converted to a kind is read back as the
converted value from the literal of that kind, unless a leap second in it does not end its
minute. One that cannot be is not refused: the literal is put around its own text. -/
theorem forced_kind_honest_iff (c : Codec) {v : Value} {j : TemporalKind}
    (hv : v.logicalType? = some j.logicalType) (k : TemporalKind) :
    (c.Honest v k ↔ ∃ w, v.recast? k = some w ∧ w.KeptByText) ∧
      (v.recast? k = none → ∃ s, v.isoText? = some s ∧
        c.serialize v (some k) = pure (c.dialect.vendor.temporalText k s)) := by
  obtain ⟨s, hs, _⟩ := Value.written_settled hv
  have hraw := fun h => c.serialize_unconverted hv hs (k := k) h
  refine ⟨?_, fun h => ⟨s, hs, hraw h⟩⟩
  cases hw : v.recast? k with
  | some w => simpa using c.honest_iff_of_recast hw
  | none =>
    refine iff_of_false ?_ nofun
    unfold Honest
    rw [hw]
    rintro ⟨fault, hthrow⟩
    rw [hraw hw] at hthrow
    exact pure_ne_throw _ _ hthrow

theorem forced_kind_honest_iff_of_moment :
    let c : Codec := ⟨Dialect.new .oracle, [.storedTemporal]⟩
    let t : TimeOfDay := ⟨23, 59, 59, 1500000000, by decide⟩
    let v : Value := .dateTime ⟨⟨-44, 3, 15, by decide⟩, t⟩
    v.logicalType? = some TemporalKind.dateTime.logicalType ∧ v.recast? .time = some (.time t) ∧
      c.Honest v .time := by
  intro c t v
  have hv : v.logicalType? = some TemporalKind.dateTime.logicalType := rfl
  exact ⟨hv, rfl, (c.forced_kind_honest_iff hv .time).1.mpr ⟨.time t, rfl, fun _ => rfl⟩⟩

/-- A date is no time of day, but it is written as one. -/
theorem date_is_written_as_time :
    let c : Codec := ⟨Dialect.new .ansi, []⟩
    let v : Value := .date ⟨2024, 1, 2, by decide⟩
    c.serialize v (some .time) = pure "TIME '2024-01-02'" ∧ ¬ c.Honest v .time := by
  intro c v
  have hserialize : c.serialize v (some .time) = pure "TIME '2024-01-02'" :=
    c.serialize_unconverted (v := v) (j := .date) (s := "2024-01-02") rfl (by decide) rfl
  refine ⟨hserialize, ?_⟩
  rintro ⟨fault, hthrow⟩
  rw [hserialize] at hthrow
  exact pure_ne_throw _ _ hthrow

end Codec

end SqlCompose
