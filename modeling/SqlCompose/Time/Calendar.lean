/-!
# SqlCompose.Time.Calendar -- dates, times of day and moments

The calendar is the Gregorian one, carried back before its introduction, with a
year zero. A time of day may hold a leap second: it is a second with a billion
nanoseconds or more, and belongs to the second before it. A moment at an offset
is one of universal time, so its local day may lie next to the calendar. All
bounds are part of the types.
-/

namespace SqlCompose

/-! ## Dates -/

namespace Date

/-- The first year that has dates. -/
def firstYear : Int := -262143

/-- The last year that has dates. -/
def lastYear : Int := 262142

/-- A year with a twenty-ninth of February. -/
def isLeapYear (year : Int) : Bool := year % 4 == 0 && (year % 100 != 0 || year % 400 == 0)

/-- The number of days of a month. -/
def daysInMonth (year : Int) (month : Nat) : Nat :=
  if month = 2 then if isLeapYear year then 29 else 28
  else if month = 4 ∨ month = 6 ∨ month = 9 ∨ month = 11 then 30
  else 31

/-- The dates there are. -/
def Valid (year : Int) (month day : Nat) : Prop :=
  firstYear ≤ year ∧ year ≤ lastYear ∧ 1 ≤ month ∧ month ≤ 12 ∧ 1 ≤ day ∧
    day ≤ daysInMonth year month

instance (year : Int) (month day : Nat) : Decidable (Valid year month day) := by
  unfold Valid; infer_instance

end Date

/-- A day of the calendar. -/
structure Date where
  year : Int
  month : Nat
  day : Nat
  valid : Date.Valid year month day
  deriving DecidableEq

/-- The fields of a day, which may lie next to the calendar. -/
structure Day where
  year : Int
  month : Nat
  day : Nat
  deriving DecidableEq

namespace Day

/-- The day after a day. -/
def next (d : Day) : Day :=
  if d.day < Date.daysInMonth d.year d.month then ⟨d.year, d.month, d.day + 1⟩
  else if d.month < 12 then ⟨d.year, d.month + 1, 1⟩
  else ⟨d.year + 1, 1, 1⟩

/-- The day before a day. -/
def previous (d : Day) : Day :=
  if 1 < d.day then ⟨d.year, d.month, d.day - 1⟩
  else if 1 < d.month then ⟨d.year, d.month - 1, Date.daysInMonth d.year (d.month - 1)⟩
  else ⟨d.year - 1, 12, 31⟩

/-- A day, the one after it, or the one before it. -/
def shifted (d : Day) (days : Int) : Day :=
  if days = 0 then d else if 0 < days then d.next else d.previous

end Day

namespace Date

/-- The date of a year, month and day, if there is one. -/
def of? (year : Int) (month day : Nat) : Option Date :=
  if h : Valid year month day then some ⟨year, month, day, h⟩ else none

/-- Days from the first of January 1970 to the given day. -/
def dayNumber (d : Date) : Int :=
  let y := if d.month ≤ 2 then d.year - 1 else d.year
  let era := y / 400
  let yearOfEra := y - era * 400
  let shifted : Int := ((d.month + 9) % 12 : Nat)
  let dayOfYear := (153 * shifted + 2) / 5 + (d.day - 1)
  let dayOfEra := yearOfEra * 365 + yearOfEra / 4 - yearOfEra / 100 + dayOfYear
  era * 146097 + dayOfEra - 719468

/-- The date a number of days after the first of January 1970. -/
def ofDayNumber? (n : Int) : Option Date :=
  let z := n + 719468
  let era := z / 146097
  let dayOfEra := z - era * 146097
  let yearOfEra := (dayOfEra - dayOfEra / 1460 + dayOfEra / 36524 - dayOfEra / 146096) / 365
  let dayOfYear := dayOfEra - (365 * yearOfEra + yearOfEra / 4 - yearOfEra / 100)
  let shifted := (5 * dayOfYear + 2) / 153
  let day := dayOfYear - (153 * shifted + 2) / 5 + 1
  let month := if shifted < 10 then shifted + 3 else shifted - 9
  let year := yearOfEra + era * 400 + (if month ≤ 2 then 1 else 0)
  of? year month.toNat day.toNat

/-! A year that starts in March has its leap day, if any, at its end. Days are
counted in eras of 400 such years, and counted back the same way. -/

/-- The day of an era gives back the year of the era. -/
theorem yearOfEra_eq {y doy doe : Int} (hy : 0 ≤ y ∧ y < 400) (hd : 0 ≤ doy ∧ doy ≤ 365)
    (hleap : doy = 365 → isLeapYear (y + 1) = true)
    (hdoe : doe = y * 365 + y / 4 - y / 100 + doy) :
    (doe - doe / 1460 + doe / 36524 - doe / 146096) / 365 = y := by
  obtain ⟨c, q, r, hy', hc, hq, hr⟩ : ∃ c q r : Int, y = 100 * c + 4 * q + r ∧ (0 ≤ c ∧ c < 4) ∧
      (0 ≤ q ∧ q < 25) ∧ 0 ≤ r ∧ r < 4 := ⟨y / 100, y % 100 / 4, y % 4, by omega⟩
  have hlast : doy = 365 → r = 3 ∧ (q = 24 → c = 3) := by
    intro h
    have hnext : (y + 1) % 4 = 0 ∧ ((y + 1) % 100 ≠ 0 ∨ (y + 1) % 400 = 0) := by
      simpa [isLeapYear] using hleap h
    omega
  have hdays : doe = 36524 * c + 1461 * q + 365 * r + doy := by omega
  -- one cycle of four years is a day longer than the divisor, which a leap day makes up for
  have hcycles : doe / 1460 = 25 * c + q ∧ doy < 365 ∨ doe / 1460 = 25 * c + q + 1 ∧ 0 < doy := by
    omega
  have hcenturies : doe / 36524 - doe / 146096 = c := by
    clear hdoe hcycles hy'
    obtain rfl | rfl | rfl | rfl : c = 0 ∨ c = 1 ∨ c = 2 ∨ c = 3 := by omega
    · have : doe < 36524 := by omega
      omega
    · have : 36524 ≤ doe ∧ doe < 2 * 36524 := by omega
      omega
    · have : 2 * 36524 ≤ doe ∧ doe < 3 * 36524 := by omega
      omega
    · have : 3 * 36524 ≤ doe ∧ doe ≤ 146096 := by omega
      omega
  omega

/-- The day of a year gives back the month, counted from March. -/
theorem monthOfYear_eq {shifted day doy : Int} (hday : 1 ≤ day)
    (hfits : (153 * shifted + 2) / 5 + day ≤ (153 * (shifted + 1) + 2) / 5)
    (hdoy : doy = (153 * shifted + 2) / 5 + (day - 1)) :
    (5 * doy + 2) / 153 = shifted := by
  omega

/-- No month reaches into the next one, and only a leap year has a day after 365 others. -/
theorem Valid.month_fits {year : Int} {month day : Nat} (h : Valid year month day) {shifted : Int}
    (hshifted : shifted = ((month + 9) % 12 : Nat)) :
    (153 * shifted + 2) / 5 + day ≤ (153 * (shifted + 1) + 2) / 5 ∧
      (153 * shifted + 2) / 5 + day ≤ 366 ∧
      ((153 * shifted + 2) / 5 + day = 366 → month ≤ 2 ∧ isLeapYear year = true) := by
  obtain ⟨_, _, hmonth, hmonth', _, hday⟩ := h
  have hmonths : month = 1 ∨ month = 2 ∨ month = 3 ∨ month = 4 ∨ month = 5 ∨ month = 6 ∨
      month = 7 ∨ month = 8 ∨ month = 9 ∨ month = 10 ∨ month = 11 ∨ month = 12 := by omega
  by_cases hleap : isLeapYear year = true
  · rcases hmonths with rfl | rfl | rfl | rfl | rfl | rfl | rfl | rfl | rfl | rfl | rfl | rfl <;>
      simp [daysInMonth, hleap] at hday <;>
      exact ⟨by omega, by omega, fun _ => ⟨by omega, hleap⟩⟩
  · rcases hmonths with rfl | rfl | rfl | rfl | rfl | rfl | rfl | rfl | rfl | rfl | rfl | rfl <;>
      simp [daysInMonth, hleap] at hday <;>
      exact ⟨by omega, by omega, by omega⟩

/-- The number of a day gives back the day. -/
theorem ofDayNumber?_dayNumber (d : Date) : ofDayNumber? d.dayNumber = some d := by
  obtain ⟨year, month, day, hvalid⟩ := d
  obtain ⟨y, hy⟩ : ∃ y : Int, y = if month ≤ 2 then year - 1 else year := ⟨_, rfl⟩
  obtain ⟨shifted, hshifted⟩ : ∃ s : Int, s = ((month + 9) % 12 : Nat) := ⟨_, rfl⟩
  obtain ⟨yoe, hyoe⟩ : ∃ x : Int, x = y - y / 400 * 400 := ⟨_, rfl⟩
  obtain ⟨doy, hdoy⟩ : ∃ x : Int, x = (153 * shifted + 2) / 5 + (day - 1) := ⟨_, rfl⟩
  obtain ⟨doe, hdoe⟩ : ∃ x : Int, x = yoe * 365 + yoe / 4 - yoe / 100 + doy := ⟨_, rfl⟩
  have hnumber : dayNumber ⟨year, month, day, hvalid⟩ = y / 400 * 146097 + doe - 719468 := by
    unfold dayNumber
    simp only [← hy, ← hshifted, ← hyoe, ← hdoy, ← hdoe]
  obtain ⟨hfits, hmost, hleap⟩ := hvalid.month_fits hshifted
  obtain ⟨_, _, hmonth, hmonth', hday, _⟩ := id hvalid
  have hday' : (1 : Int) ≤ day := by omega
  have hdoy' : 0 ≤ doy ∧ doy ≤ 365 := by omega
  have hleap' : doy = 365 → isLeapYear (yoe + 1) = true := by
    intro h
    obtain ⟨hm, hl⟩ := hleap (by omega)
    simp only [isLeapYear, Bool.and_eq_true, beq_iff_eq, Bool.or_eq_true, bne_iff_ne] at hl ⊢
    simp only [hm, if_true] at hy
    omega
  -- what is counted back, from the era down to the day
  have hera : (y / 400 * 146097 + doe) / 146097 = y / 400 := by omega
  have hdoe' : y / 400 * 146097 + doe - y / 400 * 146097 = doe := by omega
  have hyoe' := yearOfEra_eq (y := yoe) (by omega) hdoy' hleap' hdoe
  have hdoy'' : doe - (365 * yoe + yoe / 4 - yoe / 100) = doy := by omega
  have hshifted' := monthOfYear_eq hday' hfits hdoy
  have hstart : doy - (153 * shifted + 2) / 5 + 1 = day := by omega
  have hmonths : (if shifted < 10 then shifted + 3 else shifted - 9) = (month : Int) := by
    split <;> omega
  have hyears : yoe + y / 400 * 400 + (if (month : Int) ≤ 2 then 1 else 0) = year := by
    split at hy <;> split <;> omega
  unfold ofDayNumber?
  rw [hnumber]
  simp only [Int.sub_add_cancel, hera, hdoe', hyoe', hdoy'', hshifted', hstart, hmonths, hyears,
    Int.toNat_natCast]
  exact dif_pos hvalid

/-- The date of a day, if the calendar has it. -/
def ofDay? (day : Day) : Option Date := of? day.year day.month day.day

/-- The fields of a date. -/
def toDay (d : Date) : Day := ⟨d.year, d.month, d.day⟩

theorem ofDay?_toDay (d : Date) : ofDay? d.toDay = some d := dif_pos d.valid

theorem toDay_of_ofDay? {day : Day} {d : Date} (h : ofDay? day = some d) : d.toDay = day := by
  unfold ofDay? of? at h
  split at h
  · cases h
    rfl
  · cases h

/-! ### Neighbouring days -/

theorem previous_next (d : Date) : d.toDay.next.previous = d.toDay := by
  obtain ⟨year, month, day, _, _, hmonth, hmonth', hday, hday'⟩ := d
  unfold toDay
  by_cases hfits : day < daysInMonth year month
  · simp only [Day.next, if_pos hfits, Day.previous, Nat.add_sub_cancel]
    exact if_pos (by omega)
  have hlast : daysInMonth year month = day := by omega
  by_cases hnext : month < 12
  · have hsecond : 1 < month + 1 := by omega
    simp only [Day.next, if_neg hfits, if_pos hnext, Day.previous, if_neg (Nat.lt_irrefl 1),
      if_pos hsecond, Nat.add_sub_cancel]
    rw [hlast]
  · obtain rfl : month = 12 := by omega
    obtain rfl : 31 = day := hlast
    simp only [Day.next, if_neg hfits, if_neg hnext, Day.previous, Int.add_sub_cancel]
    rw [if_neg (by omega), if_neg (by omega)]

theorem next_previous (d : Date) : d.toDay.previous.next = d.toDay := by
  obtain ⟨year, month, day, _, _, hmonth, hmonth', hday, hday'⟩ := d
  unfold toDay
  by_cases hfirst : 1 < day
  · simp only [Day.previous, if_pos hfirst, Day.next, Nat.sub_add_cancel hday]
    exact if_pos (by omega)
  obtain rfl : day = 1 := by omega
  by_cases hprevious : 1 < month
  · simp only [Day.previous, if_neg hfirst, if_pos hprevious, Day.next, Nat.sub_add_cancel hmonth]
    rw [if_neg (by omega), if_pos (by omega)]
  · obtain rfl : month = 1 := by omega
    have hdecember : daysInMonth (year - 1) 12 = 31 := rfl
    simp only [Day.previous, if_neg hfirst, Day.next, hdecember, Int.sub_add_cancel]
    rfl

/-- A date is as far from its neighbour as the neighbour is from it. -/
theorem ofDay?_shifted_neg {d e : Date} {days : Int} (h : ofDay? (d.toDay.shifted days) = some e) :
    ofDay? (e.toDay.shifted (-days)) = some d := by
  have he := toDay_of_ofDay? h
  suffices hback : (d.toDay.shifted days).shifted (-days) = d.toDay by
    rw [he, hback, ofDay?_toDay]
  unfold Day.shifted
  rcases Int.lt_trichotomy days 0 with hlt | rfl | hlt
  · rw [if_neg (by omega), if_pos (by omega), if_neg (by omega), if_neg (by omega), next_previous]
  · rfl
  · rw [if_neg (by omega), if_neg (by omega), if_neg (by omega), if_pos (by omega), previous_next]

end Date

/-! ## Times of day -/

namespace TimeOfDay

/-- The times of day there are. Every second can be followed by a leap second. -/
def Valid (hour minute second nanos : Nat) : Prop :=
  hour < 24 ∧ minute < 60 ∧ second < 60 ∧ nanos < 2000000000

instance (hour minute second nanos : Nat) : Decidable (Valid hour minute second nanos) := by
  unfold Valid; infer_instance

end TimeOfDay

/-- A time of day to the nanosecond. -/
structure TimeOfDay where
  hour : Nat
  minute : Nat
  second : Nat
  nanos : Nat
  valid : TimeOfDay.Valid hour minute second nanos
  deriving DecidableEq

namespace TimeOfDay

/-- A leap second, if the time is in one, ends its minute. -/
def LeapEndsMinute (t : TimeOfDay) : Prop := 1000000000 ≤ t.nanos → t.second = 59

instance (t : TimeOfDay) : Decidable t.LeapEndsMinute := by
  unfold LeapEndsMinute; infer_instance

/-- The time of the given fields, if there is one. Given by its fields a leap second has to
end its minute. -/
def of? (hour minute second nanos : Nat) : Option TimeOfDay :=
  if h : Valid hour minute second nanos ∧ (1000000000 ≤ nanos → second = 59) then
    some ⟨hour, minute, second, nanos, h.1⟩
  else none

/-- The start of a day. -/
def midnight : TimeOfDay := ⟨0, 0, 0, 0, by decide⟩

/-- Whole seconds since midnight; a leap second counts as the second before it. -/
def seconds (t : TimeOfDay) : Nat := t.hour * 3600 + t.minute * 60 + t.second

/-- The time a number of seconds after midnight. -/
def ofSeconds? (seconds nanos : Nat) : Option TimeOfDay :=
  of? (seconds / 3600) (seconds / 60 % 60) (seconds % 60) nanos

/-- The time some seconds later, or earlier, on whatever day that is. A leap second stays one. -/
def moved (t : TimeOfDay) (amount : Int) : TimeOfDay :=
  let seconds := ((t.seconds + amount) % 86400).toNat
  ⟨seconds / 3600, seconds / 60 % 60, seconds % 60, t.nanos,
    by omega, by omega, by omega, t.valid.2.2.2⟩

/-- The days between a time and the one some seconds later. -/
def daysMoved (t : TimeOfDay) (amount : Int) : Int := (t.seconds + amount) / 86400

theorem seconds_lt (t : TimeOfDay) : t.seconds < 86400 := by
  obtain ⟨hhour, hminute, hsecond, _⟩ := t.valid
  unfold seconds
  omega

theorem seconds_moved (t : TimeOfDay) (amount : Int) :
    ((t.moved amount).seconds : Int) = (t.seconds + amount) % 86400 := by
  show ((((t.seconds + amount) % 86400).toNat / 3600 * 3600 +
    ((t.seconds + amount) % 86400).toNat / 60 % 60 * 60 +
      ((t.seconds + amount) % 86400).toNat % 60 : Nat) : Int) = _
  omega

/-- A time is the one of its seconds and nanoseconds. -/
theorem eq_of_seconds {t u : TimeOfDay} (hnanos : t.nanos = u.nanos)
    (hseconds : t.seconds = u.seconds) : t = u := by
  obtain ⟨hour, minute, second, nanos, hvalid⟩ := t
  obtain ⟨hour', minute', second', nanos', hvalid'⟩ := u
  obtain ⟨_, _, _, _⟩ := id hvalid
  obtain ⟨_, _, _, _⟩ := id hvalid'
  obtain rfl : nanos = nanos' := hnanos
  replace hseconds : hour * 3600 + minute * 60 + second =
    hour' * 3600 + minute' * 60 + second' := hseconds
  obtain ⟨rfl, rfl, rfl⟩ : hour = hour' ∧ minute = minute' ∧ second = second' := by
    refine ⟨?_, ?_, ?_⟩ <;> omega
  rfl

theorem moved_neg (t : TimeOfDay) (amount : Int) : (t.moved amount).moved (-amount) = t := by
  apply eq_of_seconds (show ((t.moved amount).moved (-amount)).nanos = t.nanos from rfl)
  have hback := (t.moved amount).seconds_moved (-amount)
  have hthere := t.seconds_moved amount
  have hlt := t.seconds_lt
  omega

theorem daysMoved_neg (t : TimeOfDay) (amount : Int) :
    (t.moved amount).daysMoved (-amount) = -t.daysMoved amount := by
  have hthere := t.seconds_moved amount
  have hlt := t.seconds_lt
  unfold daysMoved
  omega

end TimeOfDay

/-! ## Moments -/

/-- A day and a time, without an offset from universal time. -/
structure DateTime where
  date : Date
  time : TimeOfDay
  deriving DecidableEq

namespace DateTime

/-- The moment a number of seconds and nanoseconds after the start of 1970. -/
def ofEpoch? (seconds : Int) (nanos : Nat) : Option DateTime :=
  match Date.ofDayNumber? (seconds / 86400), TimeOfDay.ofSeconds? (seconds % 86400).toNat nanos with
  | some date, some time => some ⟨date, time⟩
  | _, _ => none

/-- The moment a number of milliseconds after the start of 1970. -/
def ofEpochMillis? (millis : Int) : Option DateTime :=
  ofEpoch? (millis / 1000) ((millis % 1000).toNat * 1000000)

/-- The day of the moment some seconds later. It is not more than a day away. -/
def dayMoved (t : DateTime) (amount : Int) : Day := t.date.toDay.shifted (t.time.daysMoved amount)

/-- The moment some seconds later, if the calendar has its day. -/
def moved? (t : DateTime) (amount : Int) : Option DateTime :=
  (Date.ofDay? (t.dayMoved amount)).map fun date => ⟨date, t.time.moved amount⟩

/-- A moment lies as long after another as the other lies before it. -/
theorem moved?_neg {t u : DateTime} {amount : Int} (h : t.moved? amount = some u) :
    u.moved? (-amount) = some t := by
  obtain ⟨date, hdate, rfl⟩ := Option.map_eq_some_iff.mp h
  have hback := Date.ofDay?_shifted_neg hdate
  unfold moved? dayMoved
  rw [TimeOfDay.daysMoved_neg, TimeOfDay.moved_neg, hback]
  rfl

end DateTime

/-- A moment of universal time, shown at an offset, in seconds, east of it. -/
structure ZonedDateTime where
  universal : DateTime
  offset : Int
  offset_lt : offset.natAbs < 86400
  deriving DecidableEq

namespace ZonedDateTime

/-- The local day. The calendar need not have it. -/
def localDay (z : ZonedDateTime) : Day := z.universal.dayMoved z.offset

/-- The local time of day. -/
def localTime (z : ZonedDateTime) : TimeOfDay := z.universal.time.moved z.offset

/-- The local moment, if the calendar has its day. -/
def local? (z : ZonedDateTime) : Option DateTime := z.universal.moved? z.offset

/-- The moment that is a local one at an offset. There is none if universal time would leave
the calendar. -/
def of? (moment : DateTime) (offset : Int) : Option ZonedDateTime :=
  if h : offset.natAbs < 86400 then
    (moment.moved? (-offset)).map fun universal => ⟨universal, offset, h⟩
  else none

/-- A moment of universal time at no offset. -/
def ofUniversal (moment : DateTime) : ZonedDateTime := ⟨moment, 0, by decide⟩

/-- Two moments that are the same instant, whatever their offsets. -/
def sameInstant (a b : ZonedDateTime) : Bool := a.universal == b.universal

/-- A moment at an offset is the one of its local moment. -/
theorem of?_of_local? {z : ZonedDateTime} {moment : DateTime} (h : z.local? = some moment) :
    of? moment z.offset = some z := by
  unfold of?
  rw [dif_pos z.offset_lt, DateTime.moved?_neg h]
  rfl

end ZonedDateTime

end SqlCompose
