import SqlCompose.Proofs.TimeText

/-!
# SqlCompose.Proofs.TimeForms -- no written date or time is taken for another

The text of a date, a time of day, a moment, or a moment at an offset has one of
these four forms only. Readers that try several forms in a row therefore find
the one that was written, whichever they try first. Neither end of such a text
is blank, so it does not matter that they trim it.
-/

namespace SqlCompose.Time

open Text

/-! ## Both ends -/

/-- The last character of a text is a digit. -/
def EndsInDigit (cs : List Char) : Prop := ∃ front c, cs = front ++ [c] ∧ isDecimalDigit c = true

theorem EndsInDigit.append {cs : List Char} (h : EndsInDigit cs) (before : List Char) :
    EndsInDigit (before ++ cs) := by
  obtain ⟨front, c, rfl, hc⟩ := h
  exact ⟨before ++ front, c, (List.append_assoc _ _ _).symm, hc⟩

theorem EndsInDigit.cons {cs : List Char} (h : EndsInDigit cs) (c : Char) :
    EndsInDigit (c :: cs) :=
  h.append [c]

/-- Digits, at least one of them, end in a digit. -/
theorem endsInDigit_of_digits {cs : List Char} (hne : cs ≠ [])
    (hdigits : ∀ c ∈ cs, isDecimalDigit c = true) : EndsInDigit cs :=
  ⟨_, _, (List.dropLast_concat_getLast hne).symm, hdigits _ (List.getLast_mem hne)⟩

theorem endsInDigit_zeroPadded (width n : Nat) : EndsInDigit (zeroPadded width n) :=
  endsInDigit_of_digits (zeroPadded_ne_nil width n) fun _ => isDecimalDigit_of_mem_zeroPadded

/-- A fraction that is not left out ends in a digit, and so does what stands before it. -/
theorem endsInDigit_writeFraction {cs : List Char} (h : EndsInDigit cs) (nanos : Nat) :
    EndsInDigit (cs ++ writeFraction nanos) := by
  unfold writeFraction
  split
  · rwa [List.append_nil]
  · split
    · exact ((endsInDigit_zeroPadded _ _).cons '.').append cs
    · split <;> exact ((endsInDigit_zeroPadded _ _).cons '.').append cs

theorem endsInDigit_writeOffset (offset : Int) : EndsInDigit (writeOffset offset) :=
  (((endsInDigit_zeroPadded 2 _).cons ':').append (zeroPadded 2 _)).cons _

/-- What ends in a digit and starts with no blank is not trimmed. -/
theorem trimmed_eq {cs : List Char} (hfront : Stops isBlank cs) (hback : EndsInDigit cs) :
    trimmed cs = cs := by
  obtain ⟨front, c, hcs, hc⟩ := hback
  have hreverse : Stops isBlank cs.reverse := by
    rw [hcs, List.reverse_append]
    exact stops_cons (isBlank_of_isDecimalDigit hc) _
  unfold trimmed trimBack trimFront
  rw [hfront.dropWhile_eq, hreverse.dropWhile_eq, List.reverse_reverse]

theorem trim_eq {s : String} (hfront : Stops isBlank s.toList) (hback : EndsInDigit s.toList) :
    trim s = s := by
  unfold trim
  rw [trimmed_eq hfront hback, String.ofList_toList]

section

variable (p : Parts)

theorem endsInDigit_text_append {g : Format} (h : EndsInDigit (g.text p)) (f : Format) :
    EndsInDigit (Format.text p (f ++ g)) := by
  rw [Format.text_append]
  exact h.append _

theorem endsInDigit_date : EndsInDigit (Format.date.text p) := by
  apply endsInDigit_text_append p (g := [.day]) _ [.year, .literal '-', .month, .literal '-']
  show EndsInDigit (zeroPadded 2 p.day ++ [])
  rw [List.append_nil]
  exact endsInDigit_zeroPadded 2 _

theorem endsInDigit_time : EndsInDigit (Format.time.text p) := by
  apply endsInDigit_text_append p (g := [.literal ':', .second, .fraction]) _ Format.hourMinute
  show EndsInDigit (':' :: (zeroPadded 2 p.second ++ (writeFraction p.nanos ++ [])))
  rw [List.append_nil]
  exact (endsInDigit_writeFraction (endsInDigit_zeroPadded 2 _) _).cons ':'

theorem endsInDigit_dateTime : EndsInDigit (Format.dateTime.text p) :=
  endsInDigit_text_append p (g := .blank :: Format.time) ((endsInDigit_time p).cons ' ') Format.date

theorem endsInDigit_zoned : EndsInDigit (Format.zoned.text p) := by
  apply endsInDigit_text_append p (g := [.offset false]) _ Format.dateTime
  show EndsInDigit (writeOffset p.offset ++ [])
  rw [List.append_nil]
  exact endsInDigit_writeOffset _

end

theorem trim_writeDate (d : Date) : trim (writeDate d) = writeDate d := by
  apply trim_eq
  · rw [writeDate, Format.toList_write]
    exact stops_writeYear _ _
  · rw [writeDate, Format.toList_write]
    exact endsInDigit_date _

theorem trim_writeTime (t : TimeOfDay) : trim (writeTime t) = writeTime t := by
  apply trim_eq
  · rw [writeTime, Format.toList_write]
    exact stops_zeroPadded (fun _ => isBlank_of_isDecimalDigit) 2 _ _
  · rw [writeTime, Format.toList_write]
    exact endsInDigit_time _

theorem trim_writeDateTime (t : DateTime) : trim (writeDateTime t) = writeDateTime t := by
  apply trim_eq
  · rw [writeDateTime, Format.toList_write]
    exact stops_writeYear _ _
  · rw [writeDateTime, Format.toList_write]
    exact endsInDigit_dateTime _

theorem trim_writeZoned (z : ZonedDateTime) : trim (writeZoned z) = writeZoned z := by
  apply trim_eq
  · rw [writeZoned, Format.toList_write]
    exact stops_writeYear _ _
  · rw [writeZoned, Format.toList_write]
    exact endsInDigit_zoned _

/-! ## Forms that do not fit -/

/-- A text does not have a form. -/
def Format.Refuses (f : Format) (s : String) : Prop := ∃ fault, f.read s = .error fault

theorem Format.Refuses.readDate {s : String} (h : Format.date.Refuses s) :
    (readDate s).toOption = none := by
  obtain ⟨fault, h⟩ := h
  unfold Time.readDate
  rw [h]
  rfl

theorem Format.Refuses.readTime {s : String} (h : Format.time.Refuses s) :
    (readTime s).toOption = none := by
  obtain ⟨fault, h⟩ := h
  unfold Time.readTime
  rw [h]
  rfl

theorem Format.Refuses.readDateTime {f : Format} {s : String} (h : f.Refuses s) :
    (readDateTime f s).toOption = none := by
  obtain ⟨fault, h⟩ := h
  unfold Time.readDateTime
  rw [h]
  rfl

/-- A form that cannot be read to the end of a text. -/
theorem Format.refuses_of_error {f : Format} {s : String}
    (h : ∃ fault, readItems f {} s.toList = .error fault) : f.Refuses s := by
  obtain ⟨fault, h⟩ := h
  refine ⟨fault, ?_⟩
  unfold Format.read
  rw [h]
  rfl

/-- A form that ends before a text does. -/
theorem Format.refuses_of_trailing {f : Format} {s : String} {fields : Fields} {c : Char}
    {rest : List Char} (h : readItems f {} s.toList = .ok (fields, c :: rest)) : f.Refuses s := by
  refine ⟨.trailing, ?_⟩
  unfold Format.read
  rw [h]
  rfl

/-- A reader of a number takes digits from the front. -/
theorem takeNumber_ok {least most n : Nat} {cs rest : List Char}
    (h : takeNumber least most cs = .ok (n, rest)) :
    ∃ ds, cs = ds ++ rest ∧ least ≤ ds.length ∧ ds.length ≤ most ∧
      ∀ c ∈ ds, isDecimalDigit c = true := by
  obtain ⟨ds, hds⟩ : ∃ ds, ds = (cs.take most).takeWhile isDecimalDigit := ⟨_, rfl⟩
  have hprefix : ds <+: cs := by
    rw [hds]
    exact (List.takeWhile_prefix _).trans (List.take_prefix _ _)
  have hmost : ds.length ≤ most := by
    rw [hds]
    exact Nat.le_trans (List.takeWhile_prefix _).length_le (List.length_take_le _ _)
  have hdigits : ∀ c ∈ ds, isDecimalDigit c = true := by
    rw [hds]
    exact List.all_eq_true.mp List.all_takeWhile
  unfold takeNumber at h
  simp only [← hds] at h
  split at h
  · cases h
  split at h
  · cases h
  rename_i hleast
  split at h
  · cases h
    exact ⟨ds, (List.prefix_iff_eq_append.mp hprefix).symm, Nat.not_lt.mp hleast, hmost, hdigits⟩
  · cases h

/-- A form whose start was written, and whose rest does not read what follows. -/
theorem Format.refuses_append {p : Parts} {f g : Format} {s : String} {rest : List Char}
    (hf : f.Readable p rest) (hs : s.toList = f.text p ++ rest)
    (hg : ∀ fields, ∃ fault, readItems g fields rest = .error fault) :
    Format.Refuses (f ++ g) s := by
  apply Format.refuses_of_error
  rw [hs, readItems_append_text hf]
  exact hg _

/-- A form that was written, and more after it. -/
theorem Format.refuses_more {p : Parts} {f : Format} {s : String} {c : Char} {rest : List Char}
    (hf : f.Readable p (c :: rest)) (hs : s.toList = f.text p ++ c :: rest) : f.Refuses s := by
  have hread := readItems_text hf {}
  rw [← hs] at hread
  exact Format.refuses_of_trailing hread

/-! ### The text of a date -/

/-- A date has no time of day after it. -/
theorem refuses_writeDate (d : Date) {g : Format}
    (hg : ∀ fields, ∃ fault, readItems g fields [] = .error fault) :
    Format.Refuses (Format.date ++ g) (writeDate d) := by
  apply Format.refuses_append (readable_date (ofDay_dateParts d)) _ hg
  rw [List.append_nil, writeDate, Format.toList_write]

theorem dateTime_refuses_writeDate (d : Date) : Format.dateTime.Refuses (writeDate d) :=
  refuses_writeDate d fun _ => ⟨.tooShort, rfl⟩

theorem dateTimeT_refuses_writeDate (d : Date) : Format.dateTimeT.Refuses (writeDate d) :=
  refuses_writeDate d fun _ => ⟨.tooShort, rfl⟩

theorem dateHourMinute_refuses_writeDate (d : Date) :
    Format.dateHourMinute.Refuses (writeDate d) :=
  refuses_writeDate d fun _ => ⟨.tooShort, rfl⟩

/-! ### The text of a time of day -/

/-- The hour of a time of day is followed by a colon, a year is not. -/
theorem refuses_writeTime (t : TimeOfDay) (g : Format) :
    Format.Refuses (.year :: .literal '-' :: g) (writeTime t) := by
  obtain ⟨p, hp⟩ : ∃ p, p = timeParts t := ⟨_, rfl⟩
  have hbounds : p.hour ≤ 23 := by
    rw [hp]
    exact (ofTime_timeParts t).bounds.1
  obtain ⟨rest, htext⟩ : ∃ rest, (writeTime t).toList = zeroPadded 2 p.hour ++ ':' :: rest := by
    rw [writeTime, Format.toList_write, ← hp]
    exact ⟨_, rfl⟩
  obtain ⟨c, cs, hcons, hc⟩ := zeroPadded_eq_cons 2 p.hour
  -- the hour itself does read as a year, so it is the colon that is refused
  have htaken : takeNumber 1 4 (zeroPadded 2 p.hour ++ ':' :: rest) = .ok (p.hour, ':' :: rest) :=
    takeNumber_zeroPadded (by decide) (show p.hour < 100 by omega) (by decide) (by decide)
      (.inr (stops_cons (by decide) _)) (by omega)
  have hyear : takeYear (zeroPadded 2 p.hour ++ ':' :: rest) =
      .ok ((p.hour : Int), ':' :: rest) := by
    have hsigned : takeSigned (zeroPadded 2 p.hour ++ ':' :: rest) =
        .ok ((p.hour : Int), ':' :: rest) := by
      rw [hcons, List.cons_append] at htaken ⊢
      rw [takeSigned_digit hc, htaken]
      rfl
    apply takeYear_eq _ (by omega) (by omega)
    rw [trimFront_zeroPadded, hsigned]
  apply Format.refuses_of_error
  refine ⟨.unexpected, ?_⟩
  rw [htext]
  simp only [readItems, Item.read, hyear]
  rfl

/-! ### The text of a moment at an offset -/

section

variable (z : ZonedDateTime)

/-- After the date comes a blank. -/
theorem toList_writeZoned_date :
    ∃ rest, (writeZoned z).toList = Format.date.text (zonedParts z) ++ ' ' :: rest := by
  rw [writeZoned, Format.toList_write]
  show ∃ rest, Format.text _ (Format.date ++ (.blank :: (Format.time ++ [.offset false]))) = _
  rw [Format.text_append]
  exact ⟨_, rfl⟩

/-- An offset starts with its sign. -/
theorem writeOffset_eq_cons (offset : Int) : ∃ c cs, writeOffset offset = c :: cs :=
  ⟨_, _, rfl⟩

theorem dateTime_refuses_writeZoned : Format.dateTime.Refuses (writeZoned z) := by
  have hends : Stops isFractional (writeOffset z.offset) := by
    rw [← List.append_nil (writeOffset z.offset)]
    exact stops_writeOffset _ _
  have htext : (writeZoned z).toList =
      Format.dateTime.text (zonedParts z) ++ writeOffset z.offset := by
    rw [writeZoned, Format.toList_write, Format.zoned, Format.text_append]
    show _ ++ (writeOffset z.offset ++ []) = _
    rw [List.append_nil]
  have hreadable := readable_dateTime (ofDay_zonedParts z) (ofTime_zonedParts z) hends
  obtain ⟨c, cs, hcons⟩ := writeOffset_eq_cons z.offset
  rw [hcons] at htext hreadable
  exact Format.refuses_more hreadable htext

theorem dateTimeT_refuses_writeZoned : Format.dateTimeT.Refuses (writeZoned z) := by
  obtain ⟨rest, htext⟩ := toList_writeZoned_date z
  exact Format.refuses_append (readable_date (ofDay_zonedParts z)) htext
    fun _ => ⟨.unexpected, rfl⟩

theorem dateHourMinute_refuses_writeZoned : Format.dateHourMinute.Refuses (writeZoned z) := by
  have htext : ∃ rest, (writeZoned z).toList =
      Format.dateHourMinute.text (zonedParts z) ++ ':' :: rest := by
    rw [writeZoned, Format.toList_write]
    show ∃ rest, Format.text _ (Format.dateHourMinute ++
      [Item.literal ':', .second, .fraction, .offset false]) = _
    rw [Format.text_append]
    exact ⟨_, rfl⟩
  obtain ⟨rest, htext⟩ := htext
  exact Format.refuses_more (readable_dateHourMinute (ofDay_zonedParts z) (ofTime_zonedParts z))
    htext

theorem date_refuses_writeZoned : Format.date.Refuses (writeZoned z) := by
  obtain ⟨rest, htext⟩ := toList_writeZoned_date z
  exact Format.refuses_more (readable_date (ofDay_zonedParts z)) htext

end

/-- A field of at most two digits does not use up a year. -/
theorem takeField_writeYear {low high n : Nat} {year : Int} {more rest : List Char}
    (h : takeField 2 low high (writeYear year ++ more) = .ok (n, rest)) :
    ∃ c cs, rest = c :: cs ∧ isDecimalDigit c = true := by
  have htaken : ∃ n, takeNumber 1 2 (writeYear year ++ more) = .ok (n, rest) := by
    unfold takeField at h
    unfold trimFront at h
    rw [(stops_writeYear year more).dropWhile_eq] at h
    cases hnumber : takeNumber 1 2 (writeYear year ++ more) with
    | error fault => simp [hnumber, bind, Except.bind] at h
    | ok taken =>
      simp only [hnumber, bind, Except.bind] at h
      split at h
      · cases h
        exact ⟨_, rfl⟩
      · cases h
  obtain ⟨_, htaken⟩ := htaken
  obtain ⟨ds, hds, hleast, hmost, hdigits⟩ := takeNumber_ok htaken
  unfold writeYear at hds
  split at hds
  · rename_i hplain
    have hlength : (zeroPadded 4 year.natAbs).length = 4 :=
      length_zeroPadded (by decide) (show year.natAbs < 10000 by omega)
    -- four digits stand there and at most two of them are taken
    rcases List.append_eq_append_iff.mp hds with ⟨excess, hexcess, _⟩ | ⟨left, hleft, hrest⟩
    · have hcount := congrArg List.length hexcess
      rw [List.length_append] at hcount
      omega
    · have hcount := congrArg List.length hleft
      rw [List.length_append] at hcount
      cases left with
      | nil => simp at hcount; omega
      | cons c cs =>
        have hmem : c ∈ zeroPadded 4 year.natAbs := by
          rw [hleft]
          exact List.mem_append_right _ List.mem_cons_self
        exact ⟨c, cs ++ more, hrest, isDecimalDigit_of_mem_zeroPadded hmem⟩
  · -- no digit stands before the sign
    cases ds with
    | nil => simp at hleast
    | cons d ds =>
      have hsign := (List.cons.inj hds).1
      have hd := hdigits d List.mem_cons_self
      rw [← hsign] at hd
      split at hd <;> exact absurd hd (by decide)

/-- A time of day does not start with a year. -/
theorem time_refuses_year {p : Parts} {s : String} {f : Format}
    (hs : s.toList = Format.text p (.year :: f)) : Format.time.Refuses s := by
  have htext : s.toList = writeYear p.year ++ Format.text p f := hs
  cases hhour : takeField 2 0 23 (writeYear p.year ++ Format.text p f) with
  | error fault =>
    apply Format.refuses_of_error
    refine ⟨fault, ?_⟩
    rw [htext]
    show readItems (.hour :: _) _ _ = _
    simp only [readItems, Item.read, hhour]
    rfl
  | ok taken =>
    obtain ⟨n, rest⟩ := taken
    obtain ⟨c, cs, rfl, hc⟩ := takeField_writeYear hhour
    have hcolon : c ≠ ':' := by
      rintro rfl
      exact absurd hc (by decide)
    apply Format.refuses_of_error
    refine ⟨.unexpected, ?_⟩
    rw [htext]
    show readItems (.hour :: .literal ':' :: _) _ _ = _
    simp only [readItems, Item.read, hhour, takeLiteral, bind, Except.bind, pure, Except.pure,
      if_neg hcolon]

theorem time_refuses_writeZoned (z : ZonedDateTime) : Format.time.Refuses (writeZoned z) :=
  time_refuses_year (Format.toList_write Format.zoned (zonedParts z))

end SqlCompose.Time
