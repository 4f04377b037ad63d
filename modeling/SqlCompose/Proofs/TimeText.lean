import SqlCompose.Proofs.Numerals

/-!
# SqlCompose.Proofs.TimeText -- dates and times that were written are read back

An item of a form is read back when what it wrote is in the range of its reader
and what follows does not go on with it. A whole form is read back item by item.
So dates, times of day and moments are read back as they were, whatever their
years and fractions, and moments at an offset if the offset has whole minutes
and the calendar has the local day. Only a leap second that does not end its
minute comes back as the second after its own, which has the same text.
-/

namespace SqlCompose.Time

open Text

/-! ## Items -/

/-- The text of a form, as characters. -/
def Format.text (p : Parts) (f : Format) : List Char := f.flatMap (Item.write p)

theorem Format.toList_write (f : Format) (p : Parts) : (f.write p).toList = f.text p :=
  String.toList_ofList

theorem Format.text_append (p : Parts) (f g : Format) :
    Format.text p (f ++ g) = f.text p ++ g.text p :=
  List.flatMap_append

/-- What an item writes lies in the range of its reader. -/
def Item.InRange (p : Parts) : Item → Prop
  | .year => -2147483648 ≤ p.year ∧ p.year < 2147483648
  | .month => 1 ≤ p.month ∧ p.month ≤ 12
  | .day => 1 ≤ p.day ∧ p.day ≤ 31
  | .hour => p.hour ≤ 23
  | .minute => p.minute ≤ 59
  | .second => p.second ≤ 60
  | .fraction => p.nanos < 1000000000
  | .offset _ => 60 ∣ p.offset ∧ p.offset.natAbs < 86400
  | .blank | .literal _ => True

/-- A text does not go on with an item. -/
def Item.Ends (rest : List Char) : Item → Prop
  | .year => Stops isDecimalDigit rest
  | .fraction => Stops isFractional rest
  | .blank => Stops isBlank rest
  | _ => True

/-- The fields after an item was read that had been written from `p`. -/
def Item.recorded (p : Parts) (fields : Fields) : Item → Fields
  | .year => { fields with year := p.year }
  | .month => { fields with month := p.month }
  | .day => { fields with day := p.day }
  | .hour => { fields with hour := p.hour }
  | .minute => { fields with minute := p.minute }
  | .second => { fields with second := p.second }
  | .fraction => { fields with nanos := p.nanos }
  | .offset _ => { fields with offset := p.offset }
  | .blank | .literal _ => fields

theorem looseSeparator_zeroPadded (n : Nat) (rest : List Char) :
    looseSeparator (':' :: (zeroPadded 2 n ++ rest)) = .ok (zeroPadded 2 n ++ rest) := by
  have hstops : Stops (fun c => c == ':' || isBlank c) (zeroPadded 2 n ++ rest) := by
    apply stops_zeroPadded
    intro c hc
    have hcolon : c ≠ ':' := by
      rintro rfl
      exact absurd hc (by decide)
    simp [hcolon, isBlank_of_isDecimalDigit hc]
  show Except.ok (List.dropWhile _ (':' :: _)) = _
  rw [List.dropWhile_cons_of_pos (by decide), hstops.dropWhile_eq]

/-- An item that was written is read back. -/
theorem Item.read_write {p : Parts} {item : Item} {rest : List Char} (hrange : item.InRange p)
    (hends : item.Ends rest) (fields : Fields) :
    item.read fields (item.write p ++ rest) = .ok (item.recorded p fields, rest) := by
  cases item with
  | year =>
    have h := takeYear_writeYear hends hrange.1 hrange.2
    simp only [Item.read, Item.write, h]
    rfl
  | month =>
    have hmonth : p.month ≤ 12 := hrange.2
    have h := takeField_zeroPadded hrange.1 hmonth (by omega) rest
    simp only [Item.read, Item.write, h]
    rfl
  | day =>
    have hday : p.day ≤ 31 := hrange.2
    have h := takeField_zeroPadded hrange.1 hday (by omega) rest
    simp only [Item.read, Item.write, h]
    rfl
  | hour =>
    have hhour : p.hour ≤ 23 := hrange
    have h := takeField_zeroPadded (Nat.zero_le _) hhour (by omega) rest
    simp only [Item.read, Item.write, h]
    rfl
  | minute =>
    have hminute : p.minute ≤ 59 := hrange
    have h := takeField_zeroPadded (Nat.zero_le _) hminute (by omega) rest
    simp only [Item.read, Item.write, h]
    rfl
  | second =>
    have hsecond : p.second ≤ 60 := hrange
    have h := takeField_zeroPadded (Nat.zero_le _) hsecond (by omega) rest
    simp only [Item.read, Item.write, h]
    rfl
  | fraction =>
    have h := takeFraction_writeFraction hrange hends
    simp only [Item.read, Item.write, h]
    rfl
  | offset permissive =>
    have hfront : trimFront (writeOffset p.offset ++ rest) = writeOffset p.offset ++ rest := by
      unfold writeOffset
      split <;> rfl
    have h : takeOffset permissive permissive looseSeparator (writeOffset p.offset ++ rest) =
        .ok (p.offset, rest) :=
      takeOffset_writeOffset hrange.1 hrange.2 (fun n => looseSeparator_zeroPadded n rest)
    simp only [Item.read, Item.write, hfront, h]
    rfl
  | blank =>
    have hfront : trimFront (' ' :: rest) = rest := by
      unfold trimFront
      rw [List.dropWhile_cons_of_pos (by decide), Stops.dropWhile_eq hends]
    simp only [Item.read, Item.write, List.cons_append, List.nil_append, hfront]
    rfl
  | literal c =>
    simp only [Item.read, Item.write, List.cons_append, List.nil_append, takeLiteral, if_true]
    rfl

/-! ## Forms -/

/-- Every item of a form is in range, and nothing goes on with it. -/
def Format.Readable (p : Parts) (rest : List Char) : Format → Prop
  | [] => True
  | item :: more =>
    item.InRange p ∧ item.Ends (Format.text p more ++ rest) ∧ Format.Readable p rest more

theorem Format.Readable.append {p : Parts} {rest : List Char} {f g : Format}
    (hf : f.Readable p (g.text p ++ rest)) (hg : g.Readable p rest) :
    Format.Readable p rest (f ++ g) := by
  induction f with
  | nil => exact hg
  | cons item more ih =>
    obtain ⟨hrange, hends, hmore⟩ := hf
    refine ⟨hrange, ?_, ih hmore⟩
    show item.Ends (Format.text p (more ++ g) ++ rest)
    rw [Format.text_append, List.append_assoc]
    exact hends

/-- The items of a form read a text one after the other. -/
theorem readItems_append (f g : Format) (fields : Fields) (cs : List Char) :
    readItems (f ++ g) fields cs =
      (readItems f fields cs).bind fun (fields, rest) => readItems g fields rest := by
  induction f generalizing fields cs with
  | nil => rfl
  | cons item more ih =>
    simp only [List.cons_append, readItems, bind]
    cases item.read fields cs with
    | error fault => rfl
    | ok next => exact ih next.1 next.2

/-- A form that was written is read back, item by item. -/
theorem readItems_text {p : Parts} {f : Format} {rest : List Char} (h : f.Readable p rest)
    (fields : Fields) :
    readItems f fields (f.text p ++ rest) = .ok (f.foldl (Item.recorded p) fields, rest) := by
  induction f generalizing fields with
  | nil => rfl
  | cons item more ih =>
    obtain ⟨hrange, hends, hmore⟩ := h
    -- the item ends before the text of the items after it, not just before `rest`
    have hitem := Item.read_write hrange hends fields
    show readItems (item :: more) fields (item.write p ++ Format.text p more ++ rest) = _
    rw [List.append_assoc, readItems, hitem]
    exact ih hmore _

/-- What a form starts with is read back before the rest of the form is read. -/
theorem readItems_append_text {p : Parts} {f : Format} {rest : List Char} (h : f.Readable p rest)
    (g : Format) (fields : Fields) :
    readItems (f ++ g) fields (f.text p ++ rest) =
      readItems g (f.foldl (Item.recorded p) fields) rest := by
  rw [readItems_append, readItems_text h]
  rfl

/-- The fields of a form that was written. -/
theorem Format.read_write {p : Parts} {f : Format} (h : f.Readable p []) :
    f.read (f.write p) = .ok (f.foldl (Item.recorded p) {}) := by
  have hitems := readItems_text h {}
  rw [List.append_nil] at hitems
  unfold Format.read
  rw [f.toList_write, hitems]
  rfl

/-! ## The parts of a value -/

/-- A day of the calendar or next to it. -/
structure Near (d : Day) : Prop where
  year : Date.firstYear - 1 ≤ d.year ∧ d.year ≤ Date.lastYear + 1
  month : 1 ≤ d.month ∧ d.month ≤ 12
  day : 1 ≤ d.day ∧ d.day ≤ 31

/-- The fields of a day. -/
structure Parts.OfDay (p : Parts) (d : Day) : Prop where
  near : Near d
  year : p.year = d.year
  month : p.month = d.month
  day : p.day = d.day

/-- The fields of a time of day. -/
structure Parts.OfTime (p : Parts) (t : TimeOfDay) : Prop where
  hour : p.hour = t.hour
  minute : p.minute = t.minute
  second : p.second = t.second + t.nanos / 1000000000
  nanos : p.nanos = t.nanos % 1000000000

/-- A month has 28 to 31 days. -/
theorem daysInMonth_bounds (year : Int) (month : Nat) :
    28 ≤ Date.daysInMonth year month ∧ Date.daysInMonth year month ≤ 31 := by
  unfold Date.daysInMonth
  split
  · split <;> omega
  · split <;> omega

theorem near_toDay (d : Date) : Near d.toDay := by
  obtain ⟨year, month, day, hfirst, hlast, hmonth, hmonth', hday, hday'⟩ := d
  have hdays := daysInMonth_bounds year month
  constructor <;> dsimp only [Date.toDay] <;> omega

theorem near_next (d : Date) : Near d.toDay.next := by
  obtain ⟨year, month, day, hfirst, hlast, hmonth, hmonth', hday, hday'⟩ := d
  have hdays := daysInMonth_bounds year month
  dsimp only [Date.toDay, Day.next]
  split
  · constructor <;> dsimp only <;> omega
  · split <;> constructor <;> dsimp only <;> omega

theorem near_previous (d : Date) : Near d.toDay.previous := by
  obtain ⟨year, month, day, hfirst, hlast, hmonth, hmonth', hday, hday'⟩ := d
  have hdays := daysInMonth_bounds year month
  have hbefore := daysInMonth_bounds year (month - 1)
  dsimp only [Date.toDay, Day.previous]
  split
  · constructor <;> dsimp only <;> omega
  · split <;> constructor <;> dsimp only <;> omega

/-- The local day of a moment at an offset is at most next to the calendar. -/
theorem near_localDay (z : ZonedDateTime) : Near z.localDay := by
  unfold ZonedDateTime.localDay DateTime.dayMoved Day.shifted
  split
  · exact near_toDay _
  · split
    · exact near_next _
    · exact near_previous _

theorem ofDay_dateParts (d : Date) : (dateParts d).OfDay d.toDay :=
  ⟨near_toDay d, rfl, rfl, rfl⟩

theorem ofTime_timeParts (t : TimeOfDay) : (timeParts t).OfTime t := ⟨rfl, rfl, rfl, rfl⟩

theorem ofDay_dateTimeParts (t : DateTime) : (dateTimeParts t).OfDay t.date.toDay :=
  ⟨near_toDay t.date, rfl, rfl, rfl⟩

theorem ofTime_dateTimeParts (t : DateTime) : (dateTimeParts t).OfTime t.time :=
  ⟨rfl, rfl, rfl, rfl⟩

theorem ofDay_zonedParts (z : ZonedDateTime) : (zonedParts z).OfDay z.localDay :=
  ⟨near_localDay z, rfl, rfl, rfl⟩

theorem ofTime_zonedParts (z : ZonedDateTime) : (zonedParts z).OfTime z.localTime :=
  ⟨rfl, rfl, rfl, rfl⟩

section

variable {p : Parts} {rest : List Char}

theorem Parts.OfDay.bounds {d : Day} (h : p.OfDay d) :
    (-2147483648 ≤ p.year ∧ p.year < 2147483648) ∧ (1 ≤ p.month ∧ p.month ≤ 12) ∧
      1 ≤ p.day ∧ p.day ≤ 31 := by
  obtain ⟨⟨hfirst, hlast⟩, hmonth, hday⟩ := h.near
  unfold Date.firstYear at hfirst
  unfold Date.lastYear at hlast
  rw [h.year, h.month, h.day]
  exact ⟨⟨by omega, by omega⟩, hmonth, hday⟩

theorem Parts.OfTime.bounds {t : TimeOfDay} (h : p.OfTime t) :
    p.hour ≤ 23 ∧ p.minute ≤ 59 ∧ p.second ≤ 60 ∧ p.nanos < 1000000000 := by
  obtain ⟨hhour, hminute, hsecond, hnanos⟩ := t.valid
  rw [h.hour, h.minute, h.second, h.nanos]
  omega

theorem readable_date {d : Day} (h : p.OfDay d) : Format.date.Readable p rest := by
  obtain ⟨hyear, hmonth, hday⟩ := h.bounds
  exact ⟨hyear, stops_cons (by decide) _, trivial, trivial, hmonth, trivial, trivial, trivial,
    hday, trivial, trivial⟩

theorem readable_hourMinute {t : TimeOfDay} (h : p.OfTime t) :
    Format.hourMinute.Readable p rest := by
  obtain ⟨hhour, hminute, _, _⟩ := h.bounds
  exact ⟨hhour, trivial, trivial, trivial, hminute, trivial, trivial⟩

theorem readable_time {t : TimeOfDay} (h : p.OfTime t) (hrest : Stops isFractional rest) :
    Format.time.Readable p rest := by
  obtain ⟨_, _, hsecond, hnanos⟩ := h.bounds
  apply Format.Readable.append (readable_hourMinute h)
  exact ⟨trivial, trivial, hsecond, trivial, hnanos, hrest, trivial⟩

/-- A blank ends before the hour. -/
theorem stops_hour (f : Format) (rest : List Char) :
    Stops isBlank (Format.text p (Item.hour :: f) ++ rest) := by
  show Stops isBlank (zeroPadded 2 p.hour ++ Format.text p f ++ rest)
  rw [List.append_assoc]
  exact stops_zeroPadded (fun _ => isBlank_of_isDecimalDigit) 2 _ _

theorem readable_dateTime {d : Day} {t : TimeOfDay} (hd : p.OfDay d) (ht : p.OfTime t)
    (hrest : Stops isFractional rest) : Format.dateTime.Readable p rest :=
  (readable_date hd).append ⟨trivial, stops_hour _ _, readable_time ht hrest⟩

theorem readable_dateHourMinute {d : Day} {t : TimeOfDay} (hd : p.OfDay d) (ht : p.OfTime t) :
    Format.dateHourMinute.Readable p rest :=
  (readable_date hd).append ⟨trivial, stops_hour _ _, readable_hourMinute ht⟩

/-- A fraction ends before the sign of an offset. -/
theorem stops_writeOffset (offset : Int) (rest : List Char) :
    Stops isFractional (writeOffset offset ++ rest) := by
  unfold writeOffset
  split <;> exact stops_cons (by decide) _

theorem readable_zoned {z : ZonedDateTime} (hminutes : 60 ∣ z.offset) :
    Format.zoned.Readable (zonedParts z) rest := by
  have hoffset : Format.Readable (zonedParts z) rest [Item.offset false] :=
    ⟨⟨hminutes, z.offset_lt⟩, trivial, trivial⟩
  apply Format.Readable.append _ hoffset
  apply readable_dateTime (ofDay_zonedParts z) (ofTime_zonedParts z)
  show Stops isFractional (writeOffset z.offset ++ [] ++ rest)
  rw [List.append_nil]
  exact stops_writeOffset _ _

end

/-! ## Leap seconds -/

/-- A time whose leap second, if it is in one, ends its minute. Any other leap second is as good
as the second after its own: it has the same text. -/
def settled (t : TimeOfDay) : TimeOfDay :=
  if h : 1000000000 ≤ t.nanos ∧ t.second ≠ 59 then
    ⟨t.hour, t.minute, t.second + 1, t.nanos - 1000000000,
      t.valid.1, t.valid.2.1, by have := t.valid.2.2.1; omega, by have := t.valid.2.2.2; omega⟩
  else t

theorem leapEndsMinute_settled (t : TimeOfDay) : (settled t).LeapEndsMinute := by
  obtain ⟨_, _, hsecond, hnanos⟩ := t.valid
  unfold settled
  split
  · intro hleap
    have hleap : 1000000000 ≤ t.nanos - 1000000000 := hleap
    omega
  · rename_i hends
    exact fun hleap => Decidable.byContradiction fun hsecond => hends ⟨hleap, hsecond⟩

/-- Only a leap second within its minute is another time. -/
theorem settled_eq_self_iff {t : TimeOfDay} : settled t = t ↔ t.LeapEndsMinute := by
  constructor
  · intro h
    exact h ▸ leapEndsMinute_settled t
  · intro h
    exact dif_neg fun ⟨hleap, hsecond⟩ => hsecond (h hleap)

/-- The fields of a time are also those of the second after its own. -/
theorem Parts.OfTime.settled {p : Parts} {t : TimeOfDay} (h : p.OfTime t) :
    p.OfTime (settled t) := by
  obtain ⟨hhour, hminute, hsecond, hnanos⟩ := h
  have hlt := t.valid.2.2.2
  unfold Time.settled
  split
  · rename_i hleap
    refine ⟨hhour, hminute, hsecond.trans ?_, hnanos.trans ?_⟩
    · show t.second + t.nanos / 1000000000 =
        t.second + 1 + (t.nanos - 1000000000) / 1000000000
      omega
    · show t.nanos % 1000000000 = (t.nanos - 1000000000) % 1000000000
      omega
  · exact ⟨hhour, hminute, hsecond, hnanos⟩

theorem timeParts_settled (t : TimeOfDay) : timeParts (settled t) = timeParts t := by
  obtain ⟨hhour, hminute, hsecond, hnanos⟩ := (ofTime_timeParts t).settled
  unfold timeParts
  rw [← hhour, ← hminute, ← hsecond, ← hnanos]
  rfl

/-! ## Values -/

section

variable {fields : Fields} {p : Parts}

theorem Fields.date_eq {d : Date} (hyear : fields.year = d.year) (hmonth : fields.month = d.month)
    (hday : fields.day = d.day) : fields.date = .ok d := by
  have hdate : Date.of? fields.year fields.month fields.day = some d := by
    rw [hyear, hmonth, hday]
    exact dif_pos d.valid
  unfold Fields.date
  rw [hdate]

/-- A leap second that ends its minute is the second 60, and no other second is. -/
theorem Fields.time_eq_of_leapEndsMinute {t : TimeOfDay} (h : p.OfTime t)
    (hleap : t.LeapEndsMinute) (hhour : fields.hour = p.hour) (hminute : fields.minute = p.minute)
    (hsecond : fields.second = p.second) (hnanos : fields.nanos = p.nanos) :
    fields.time = .ok t := by
  obtain ⟨_, _, hlt, hlt'⟩ := id t.valid
  have htime : TimeOfDay.of? t.hour t.minute t.second t.nanos = some t := dif_pos ⟨t.valid, hleap⟩
  unfold Fields.time
  rw [hhour, hminute, hsecond, hnanos, h.hour, h.minute, h.second, h.nanos]
  by_cases hl : 1000000000 ≤ t.nanos
  · have hsecond' : (59 : Nat) = t.second := (hleap hl).symm
    have hsixty : t.second + t.nanos / 1000000000 = 60 := by omega
    have hnanos' : 1000000000 + t.nanos % 1000000000 = t.nanos := by omega
    simp only [hsixty, if_true, hsecond', hnanos', htime]
  · have hsecond' : t.second + t.nanos / 1000000000 = t.second := by omega
    have hnanos' : t.nanos % 1000000000 = t.nanos := by omega
    have hsixty : t.second ≠ 60 := by omega
    simp only [hsecond', if_neg hsixty, hnanos', htime]

theorem Fields.time_eq {t : TimeOfDay} (h : p.OfTime t) (hhour : fields.hour = p.hour)
    (hminute : fields.minute = p.minute) (hsecond : fields.second = p.second)
    (hnanos : fields.nanos = p.nanos) : fields.time = .ok (settled t) :=
  Fields.time_eq_of_leapEndsMinute h.settled (leapEndsMinute_settled t) hhour hminute hsecond hnanos

end

/-- A date is read back. -/
theorem readDate_writeDate (d : Date) : readDate (writeDate d) = .ok d := by
  unfold readDate writeDate
  rw [Format.read_write (readable_date (ofDay_dateParts d))]
  exact Fields.date_eq rfl rfl rfl

/-- A time of day is read back, up to a leap second within its minute. -/
theorem readTime_writeTime (t : TimeOfDay) : readTime (writeTime t) = .ok (settled t) := by
  unfold readTime writeTime
  rw [Format.read_write (readable_time (ofTime_timeParts t) (stops_nil _))]
  exact Fields.time_eq (ofTime_timeParts t) rfl rfl rfl rfl

/-- The fields of a moment give the moment. -/
theorem Fields.dateTime_eq {fields : Fields} {d : Date} {t : TimeOfDay}
    (hdate : fields.date = .ok d) (htime : fields.time = .ok t) :
    fields.dateTime = .ok ⟨d, t⟩ := by
  unfold Fields.dateTime
  rw [hdate, htime]
  rfl

/-- A moment is read back, up to a leap second within its minute. -/
theorem readDateTime_writeDateTime (t : DateTime) :
    readDateTime Format.dateTime (writeDateTime t) = .ok ⟨t.date, settled t.time⟩ := by
  have hdate := ofDay_dateTimeParts t
  have htime := ofTime_dateTimeParts t
  unfold readDateTime writeDateTime
  rw [Format.read_write (readable_dateTime hdate htime (stops_nil _))]
  exact Fields.dateTime_eq (Fields.date_eq rfl rfl rfl) (Fields.time_eq htime rfl rfl rfl rfl)

/-! ## Moments at an offset -/

section

variable {z : ZonedDateTime} {moment : DateTime}

/-- A moment at an offset is the one of the fields of its local moment. -/
theorem Fields.zoned_eq {fields : Fields} (hlocal : z.local? = some moment)
    (hmoment : fields.dateTime = .ok moment) (hoffset : fields.offset = z.offset) :
    fields.zoned = .ok z := by
  have hzoned := ZonedDateTime.of?_of_local? hlocal
  unfold Fields.zoned
  rw [hmoment, hoffset]
  show (if z.offset.natAbs < 86400 then _ else _) = _
  rw [if_pos z.offset_lt, hzoned]
  rfl

/-- The local day and the local time make up the local moment. -/
theorem local?_eq_some (hlocal : z.local? = some moment) :
    moment.date.toDay = z.localDay ∧ moment.time = z.localTime := by
  obtain ⟨date, hdate, rfl⟩ := Option.map_eq_some_iff.mp hlocal
  exact ⟨Date.toDay_of_ofDay? hdate, rfl⟩

/-- The local fields of a moment at an offset are those of its local moment. -/
theorem Fields.local_eq {fields : Fields} (hlocal : z.local? = some moment)
    (hleap : moment.time.LeapEndsMinute) (hyear : fields.year = z.localDay.year)
    (hmonth : fields.month = z.localDay.month) (hday : fields.day = z.localDay.day)
    (hhour : fields.hour = (zonedParts z).hour) (hminute : fields.minute = (zonedParts z).minute)
    (hsecond : fields.second = (zonedParts z).second)
    (hnanos : fields.nanos = (zonedParts z).nanos) : fields.dateTime = .ok moment := by
  obtain ⟨hdate, htime⟩ := local?_eq_some hlocal
  have htimes : (zonedParts z).OfTime moment.time := htime ▸ ofTime_zonedParts z
  rw [← hdate] at hyear hmonth hday
  exact Fields.dateTime_eq (Fields.date_eq hyear hmonth hday)
    (Fields.time_eq_of_leapEndsMinute htimes hleap hhour hminute hsecond hnanos)

/-- A moment at an offset of whole minutes is read back. -/
theorem readZoned_writeZoned (hlocal : z.local? = some moment) (hminutes : 60 ∣ z.offset)
    (hleap : moment.time.LeapEndsMinute) : readZoned Format.zoned (writeZoned z) = .ok z := by
  unfold readZoned writeZoned
  rw [Format.read_write (readable_zoned hminutes)]
  exact Fields.zoned_eq hlocal (Fields.local_eq hlocal hleap rfl rfl rfl rfl rfl rfl rfl) rfl

end

/-! ## The interchange form -/

/-- The parts of a moment at an offset, one after the other. -/
theorem toList_writeZoned (z : ZonedDateTime) :
    let p := zonedParts z
    (writeZoned z).toList = writeYear p.year ++ '-' :: (zeroPadded 2 p.month ++ '-' ::
      (zeroPadded 2 p.day ++ ' ' :: (zeroPadded 2 p.hour ++ ':' :: (zeroPadded 2 p.minute ++
      ':' :: (zeroPadded 2 p.second ++ (writeFraction p.nanos ++
      (writeOffset p.offset ++ []))))))) :=
  Format.toList_write Format.zoned (zonedParts z)

/-- All fields of the interchange form are read back where the year has no sign. -/
theorem readInterchangeFields_eq {p : Parts} {d : Day} {t : TimeOfDay} (hd : p.OfDay d)
    (ht : p.OfTime t) (hyear : 0 ≤ p.year ∧ p.year ≤ 9999) (hminutes : 60 ∣ p.offset)
    (hlt : p.offset.natAbs < 86400) :
    readInterchangeFields (writeYear p.year ++ '-' :: (zeroPadded 2 p.month ++ '-' ::
        (zeroPadded 2 p.day ++ ' ' :: (zeroPadded 2 p.hour ++ ':' :: (zeroPadded 2 p.minute ++
        ':' :: (zeroPadded 2 p.second ++ (writeFraction p.nanos ++
        (writeOffset p.offset ++ [])))))))) =
      .ok (⟨p.year, p.month, p.day, p.hour, p.minute, p.second, p.nanos, p.offset⟩, []) := by
  obtain ⟨_, ⟨hmonth, hmonth'⟩, hday, hday'⟩ := hd.bounds
  obtain ⟨hhour, hminute, hsecond, hnanos⟩ := ht.bounds
  have hplain : writeYear p.year = zeroPadded 4 p.year.natAbs := if_pos hyear
  have hyear' : (p.year.natAbs : Int) = p.year := by omega
  have hwide : p.offset.natAbs ≤ 86340 := by omega
  -- each reader takes what one writer wrote, whatever follows it
  have hyears : ∀ rest, takeExact 4 0 9999 (zeroPadded 4 p.year.natAbs ++ rest) =
      .ok (p.year.natAbs, rest) :=
    takeExact_zeroPadded (by decide) (show _ < 10000 by omega) (by omega) (by omega) (by omega)
  have hmonths : ∀ rest, takeExact 2 1 12 (zeroPadded 2 p.month ++ rest) = .ok (p.month, rest) :=
    takeExact_zeroPadded (by decide) (show _ < 100 by omega) hmonth hmonth' (by omega)
  have hdays : ∀ rest, takeExact 2 1 31 (zeroPadded 2 p.day ++ rest) = .ok (p.day, rest) :=
    takeExact_zeroPadded (by decide) (show _ < 100 by omega) hday hday' (by omega)
  have hhours : ∀ rest, takeExact 2 0 23 (zeroPadded 2 p.hour ++ rest) = .ok (p.hour, rest) :=
    takeExact_zeroPadded (by decide) (show _ < 100 by omega) (by omega) hhour (by omega)
  have hmins : ∀ rest, takeExact 2 0 59 (zeroPadded 2 p.minute ++ rest) = .ok (p.minute, rest) :=
    takeExact_zeroPadded (by decide) (show _ < 100 by omega) (by omega) hminute (by omega)
  have hsecs : ∀ rest, takeExact 2 0 60 (zeroPadded 2 p.second ++ rest) = .ok (p.second, rest) :=
    takeExact_zeroPadded (by decide) (show _ < 100 by omega) (by omega) hsecond (by omega)
  have hfraction := takeFraction_writeFraction hnanos (stops_writeOffset p.offset [])
  have hoffset : takeOffset true false (takeLiteral ':') (writeOffset p.offset ++ []) =
      .ok (p.offset, []) := takeOffset_writeOffset hminutes hlt fun _ => rfl
  have hdash : ∀ rest, takeLiteral '-' ('-' :: rest) = .ok rest := fun _ => rfl
  have hcolon : ∀ rest, takeLiteral ':' (':' :: rest) = .ok rest := fun _ => rfl
  have hmark : ∀ rest, takeTimeMark (' ' :: rest) = .ok rest := fun _ => rfl
  unfold readInterchangeFields
  simp only [hplain, hyears, hmonths, hdays, hhours, hmins, hsecs, hfraction, hoffset, hdash,
    hcolon, hmark, hwide, hyear', bind, Except.bind, pure, Except.pure, if_true]

/-- The interchange form has no years with a sign. -/
theorem readInterchangeFields_signed {year : Int} (hyear : ¬ (0 ≤ year ∧ year ≤ 9999))
    (rest : List Char) : readInterchangeFields (writeYear year ++ rest) = .error .unexpected := by
  -- a sign is no digit, and four digits are wanted at once
  have hsign : ∀ c, isDecimalDigit c = false → ∀ cs,
      takeNumber 4 4 (c :: (zeroPadded 4 year.natAbs ++ cs)) = .error .unexpected := by
    intro c hc cs
    have hlength : ¬ (c :: (zeroPadded 4 year.natAbs ++ cs)).length < 4 := by
      have hwidth : 4 ≤ (zeroPadded 4 year.natAbs).length := by
        unfold zeroPadded
        rw [List.length_append, List.length_replicate]
        omega
      rw [List.length_cons, List.length_append]
      omega
    unfold takeNumber
    rw [if_neg hlength]
    simp [hc]
  have htaken : takeNumber 4 4 (writeYear year ++ rest) = .error .unexpected := by
    unfold writeYear
    rw [if_neg hyear]
    split
    · exact hsign '-' (by decide) rest
    · exact hsign '+' (by decide) rest
  unfold readInterchangeFields takeExact
  rw [htaken]
  rfl

/-- The interchange form reads a moment at an offset too, unless its year has a sign. -/
theorem readInterchange_writeZoned {z : ZonedDateTime} {moment : DateTime}
    (hlocal : z.local? = some moment) (hminutes : 60 ∣ z.offset)
    (hleap : moment.time.LeapEndsMinute) :
    readInterchange (writeZoned z) = .ok z ∨
      ∃ fault, readInterchange (writeZoned z) = .error fault := by
  have hdate := ofDay_zonedParts z
  have htime := ofTime_zonedParts z
  unfold readInterchange
  rw [toList_writeZoned]
  by_cases hyear : 0 ≤ (zonedParts z).year ∧ (zonedParts z).year ≤ 9999
  · left
    rw [readInterchangeFields_eq hdate htime hyear hminutes z.offset_lt]
    exact Fields.zoned_eq hlocal (Fields.local_eq hlocal hleap rfl rfl rfl rfl rfl rfl rfl) rfl
  · right
    rw [readInterchangeFields_signed hyear]
    exact ⟨.unexpected, rfl⟩

end SqlCompose.Time
