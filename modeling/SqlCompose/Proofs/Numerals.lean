import SqlCompose.Proofs.Placeholder
import SqlCompose.Time.Reading

/-!
# SqlCompose.Proofs.Numerals -- numbers that were written are taken back

A reader of numbers takes as many digits as it may. It gives back the number
that was written when it may take no more digits than there are, or when what
follows is no digit. From this the parts of a date or a time follow: years,
fields of two digits, fractions of a second, and offsets.
-/

namespace SqlCompose

/-! ## Where a run of characters ends -/

namespace Text

/-- A text does not start with a character of a class. -/
def Stops (p : Char → Bool) (cs : List Char) : Prop := ∀ c ∈ cs.head?, p c = false

theorem stops_nil (p : Char → Bool) : Stops p [] := by simp [Stops]

theorem stops_cons_iff {p : Char → Bool} {c : Char} {cs : List Char} :
    Stops p (c :: cs) ↔ p c = false := by
  simp [Stops]

theorem stops_cons {p : Char → Bool} {c : Char} (h : p c = false) (cs : List Char) :
    Stops p (c :: cs) := stops_cons_iff.mpr h

instance (p : Char → Bool) : (cs : List Char) → Decidable (Stops p cs)
  | [] => isTrue (stops_nil p)
  | c :: _ => decidable_of_iff (p c = false) stops_cons_iff.symm

theorem Stops.takeWhile_append {p : Char → Bool} {cs rest : List Char} (hrest : Stops p rest)
    (h : ∀ c ∈ cs, p c = true) : (cs ++ rest).takeWhile p = cs := by
  rw [List.takeWhile_append_of_pos h]
  cases rest with
  | nil => simp
  | cons c rest => simp [hrest c rfl]

theorem Stops.dropWhile_append {p : Char → Bool} {cs rest : List Char} (hrest : Stops p rest)
    (h : ∀ c ∈ cs, p c = true) : (cs ++ rest).dropWhile p = rest := by
  rw [List.dropWhile_append_of_pos h]
  cases rest with
  | nil => rfl
  | cons c rest => simp [hrest c rfl]

theorem Stops.dropWhile_eq {p : Char → Bool} {cs : List Char} (h : Stops p cs) :
    cs.dropWhile p = cs := by
  have hnone : ∀ c ∈ ([] : List Char), p c = true := by simp
  exact h.dropWhile_append hnone

/-- A digit is no blank. -/
theorem isBlank_of_isDecimalDigit {c : Char} (h : isDecimalDigit c = true) : isBlank c = false := by
  simp only [isDecimalDigit, Bool.and_eq_true, decide_eq_true_eq] at h
  simp only [isBlank, Bool.or_eq_false_iff, Bool.and_eq_false_iff, decide_eq_false_iff_not,
    beq_eq_false_iff_ne]
  omega

theorem zeroPadded_ne_nil (width n : Nat) : zeroPadded width n ≠ [] := by
  intro h
  have hdigits : natDigits n = [] := (List.append_eq_nil_iff.mp h).2
  exact Nat.toDigits_ne_nil hdigits

/-- A padded number starts with a digit. -/
theorem zeroPadded_eq_cons (width n : Nat) :
    ∃ c cs, zeroPadded width n = c :: cs ∧ isDecimalDigit c = true := by
  obtain ⟨c, cs, h⟩ := List.exists_cons_of_ne_nil (zeroPadded_ne_nil width n)
  exact ⟨c, cs, h, isDecimalDigit_of_mem_zeroPadded (by rw [h]; exact List.mem_cons_self)⟩

/-- A class that has no digit stops at a padded number. -/
theorem stops_zeroPadded {p : Char → Bool} (hp : ∀ c, isDecimalDigit c = true → p c = false)
    (width n : Nat) (rest : List Char) : Stops p (zeroPadded width n ++ rest) := by
  obtain ⟨c, cs, h, hc⟩ := zeroPadded_eq_cons width n
  rw [h]
  exact stops_cons (hp c hc) _

theorem trimFront_zeroPadded (width n : Nat) (rest : List Char) :
    trimFront (zeroPadded width n ++ rest) = zeroPadded width n ++ rest :=
  (stops_zeroPadded (fun _ => isBlank_of_isDecimalDigit) width n rest).dropWhile_eq

end Text

/-! ## Numbers -/

namespace Time

open Text

/-- Digits that end where the reader stops are the number that is taken. -/
theorem takeNumber_append {least most : Nat} {ds rest : List Char} (hleast : least ≤ ds.length)
    (hmost : ds.length ≤ most) (hdigits : ∀ c ∈ ds, isDecimalDigit c = true)
    (hstop : ds.length = most ∨ Stops isDecimalDigit rest)
    (hfits : digitsValue 0 ds < 9223372036854775808) :
    takeNumber least most (ds ++ rest) = .ok (digitsValue 0 ds, rest) := by
  have htaken : ((ds ++ rest).take most).takeWhile isDecimalDigit = ds := by
    rw [List.take_append, List.take_of_length_le hmost]
    apply Stops.takeWhile_append _ hdigits
    -- no more may be taken, or what follows is no digit
    rcases hstop with hfull | hrest
    · rw [hfull, Nat.sub_self, List.take_zero]
      exact stops_nil _
    · intro c hc
      apply hrest c
      cases rest with
      | nil => simp at hc
      | cons x xs =>
        cases hk : most - ds.length with
        | zero => simp [hk] at hc
        | succ k => simpa [hk] using hc
  have hlength : ¬ (ds ++ rest).length < least := by
    rw [List.length_append]
    omega
  unfold takeNumber
  simp only [htaken, if_neg hlength, if_neg (Nat.not_lt.mpr hleast), if_pos hfits,
    List.drop_left]

/-- A padded number is taken back by a reader of its width. -/
theorem takeNumber_zeroPadded {least most width n : Nat} {rest : List Char} (hwidth : 0 < width)
    (hn : n < Nat.pow 10 width) (hleast : least ≤ width) (hmost : width ≤ most)
    (hstop : width = most ∨ Stops isDecimalDigit rest) (hfits : n < 9223372036854775808) :
    takeNumber least most (zeroPadded width n ++ rest) = .ok (n, rest) := by
  have hlength := length_zeroPadded hwidth hn
  have hvalue := digitsValue_zeroPadded width n
  rw [← hvalue] at hfits
  rw [← hlength] at hleast hmost hstop
  have htaken := takeNumber_append hleast hmost
    (fun c hc => isDecimalDigit_of_mem_zeroPadded hc) hstop hfits
  rwa [hvalue] at htaken

/-- A field of two digits is taken back. -/
theorem takeField_zeroPadded {low high n : Nat} (hlow : low ≤ n) (hhigh : n ≤ high) (hn : n < 100)
    (rest : List Char) : takeField 2 low high (zeroPadded 2 n ++ rest) = .ok (n, rest) := by
  have htaken : takeNumber 1 2 (zeroPadded 2 n ++ rest) = .ok (n, rest) :=
    takeNumber_zeroPadded (by decide) hn (by decide) (by decide) (.inl rfl) (by omega)
  unfold takeField
  rw [trimFront_zeroPadded, htaken]
  exact if_pos ⟨hlow, hhigh⟩

/-- A number of full width is taken back. -/
theorem takeExact_zeroPadded {width low high n : Nat} (hwidth : 0 < width)
    (hn : n < Nat.pow 10 width) (hlow : low ≤ n) (hhigh : n ≤ high)
    (hfits : n < 9223372036854775808) (rest : List Char) :
    takeExact width low high (zeroPadded width n ++ rest) = .ok (n, rest) := by
  have htaken : takeNumber width width (zeroPadded width n ++ rest) = .ok (n, rest) :=
    takeNumber_zeroPadded hwidth hn (Nat.le_refl _) (Nat.le_refl _) (.inl rfl) hfits
  unfold takeExact
  rw [htaken]
  exact if_pos ⟨hlow, hhigh⟩

/-! ## Years -/

/-- The digits of a signed year end where the digits end. -/
theorem takeNumber_signed {n : Nat} {rest : List Char} (hrest : Stops isDecimalDigit rest)
    (hfits : n < 9223372036854775808) :
    takeNumber 1 (zeroPadded 4 n ++ rest).length (zeroPadded 4 n ++ rest) = .ok (n, rest) := by
  have hvalue := digitsValue_zeroPadded 4 n
  have hleast : 1 ≤ (zeroPadded 4 n).length := List.length_pos_iff.mpr (zeroPadded_ne_nil 4 n)
  have hmost : (zeroPadded 4 n).length ≤ (zeroPadded 4 n ++ rest).length := by
    rw [List.length_append]
    omega
  rw [← hvalue] at hfits
  have htaken := takeNumber_append hleast hmost
    (fun c hc => isDecimalDigit_of_mem_zeroPadded hc) (.inr hrest) hfits
  rwa [hvalue] at htaken

/-- A text that starts with a digit has no sign. -/
theorem takeSigned_digit {c : Char} (hc : isDecimalDigit c = true) (cs : List Char) :
    takeSigned (c :: cs) = (takeNumber 1 4 (c :: cs)).map fun (n, rest) => ((n : Int), rest) := by
  have hminus : c ≠ '-' := by
    rintro rfl
    exact absurd hc (by decide)
  have hplus : c ≠ '+' := by
    rintro rfl
    exact absurd hc (by decide)
  unfold takeSigned
  split
  · rename_i heq
    exact absurd (List.cons.inj heq).1 hminus
  · rename_i heq
    exact absurd (List.cons.inj heq).1 hplus
  · rfl

/-- A character that a number may start with. -/
def Leads (c : Char) : Prop := isDecimalDigit c = true ∨ c = '-' ∨ c = '+'

theorem Leads.not_isBlank {c : Char} (h : Leads c) : isBlank c = false := by
  rcases h with h | rfl | rfl
  · exact isBlank_of_isDecimalDigit h
  · decide
  · decide

/-- A year starts with a digit or a sign. -/
theorem writeYear_eq_cons (year : Int) : ∃ c cs, writeYear year = c :: cs ∧ Leads c := by
  unfold writeYear
  by_cases hplain : 0 ≤ year ∧ year ≤ 9999
  · obtain ⟨c, cs, hcons, hc⟩ := zeroPadded_eq_cons 4 year.natAbs
    rw [if_pos hplain]
    exact ⟨c, cs, hcons, .inl hc⟩
  · rw [if_neg hplain]
    by_cases hneg : year < 0
    · rw [if_pos hneg]
      exact ⟨_, _, rfl, .inr (.inl rfl)⟩
    · rw [if_neg hneg]
      exact ⟨_, _, rfl, .inr (.inr rfl)⟩

theorem stops_writeYear (year : Int) (rest : List Char) :
    Stops isBlank (writeYear year ++ rest) := by
  obtain ⟨c, cs, hcons, hc⟩ := writeYear_eq_cons year
  rw [hcons]
  exact stops_cons hc.not_isBlank _

/-- A year is taken back where no digit follows it. -/
theorem takeSigned_writeYear {year : Int} {rest : List Char} (hrest : Stops isDecimalDigit rest)
    (hfits : year.natAbs < 9223372036854775808) :
    takeSigned (writeYear year ++ rest) = .ok (year, rest) := by
  have hsigned := takeNumber_signed hrest hfits
  unfold writeYear
  -- four digits stand without a sign, and all other years have one
  by_cases hplain : 0 ≤ year ∧ year ≤ 9999
  · have htaken : takeNumber 1 4 (zeroPadded 4 year.natAbs ++ rest) = .ok (year.natAbs, rest) :=
      takeNumber_zeroPadded (by decide) (show year.natAbs < 10000 by omega) (by decide) (by decide)
        (.inl rfl) hfits
    have hyear : (year.natAbs : Int) = year := by omega
    obtain ⟨c, cs, hcons, hc⟩ := zeroPadded_eq_cons 4 year.natAbs
    rw [if_pos hplain]
    rw [hcons, List.cons_append] at htaken ⊢
    rw [takeSigned_digit hc, htaken]
    show Except.ok ((year.natAbs : Int), rest) = _
    rw [hyear]
  · rw [if_neg hplain]
    by_cases hneg : year < 0
    · have hyear : -(year.natAbs : Int) = year := by omega
      rw [if_pos hneg, List.cons_append]
      simp only [takeSigned, hsigned, Except.map, hyear]
    · have hyear : (year.natAbs : Int) = year := by omega
      rw [if_neg hneg, List.cons_append]
      simp only [takeSigned, hsigned, Except.map, hyear]

theorem takeYear_eq {cs rest : List Char} {year : Int}
    (h : takeSigned (trimFront cs) = .ok (year, rest)) (hlow : -2147483648 ≤ year)
    (hhigh : year < 2147483648) : takeYear cs = .ok (year, rest) := by
  unfold takeYear
  rw [h]
  exact if_pos ⟨hlow, hhigh⟩

theorem takeYear_writeYear {year : Int} {rest : List Char} (hrest : Stops isDecimalDigit rest)
    (hlow : -2147483648 ≤ year) (hhigh : year < 2147483648) :
    takeYear (writeYear year ++ rest) = .ok (year, rest) := by
  have hfits : year.natAbs < 9223372036854775808 := by omega
  apply takeYear_eq _ hlow hhigh
  unfold trimFront
  rw [(stops_writeYear year rest).dropWhile_eq, takeSigned_writeYear hrest hfits]

/-! ## Fractions of a second -/

/-- The characters that a fraction could go on with. -/
def isFractional (c : Char) : Bool := c == '.' || isDecimalDigit c

theorem stops_of_isFractional {cs : List Char} (h : Stops isFractional cs) :
    Stops isDecimalDigit cs := by
  intro c hc
  exact (Bool.or_eq_false_iff.mp (h c hc)).2

/-- Up to nine digits of a fraction are taken back, however many are left out. -/
theorem takeFraction_zeroPadded {width n : Nat} {rest : List Char} (hwidth : 0 < width)
    (hmost : width ≤ 9) (hn : n < Nat.pow 10 width) (hrest : Stops isDecimalDigit rest) :
    takeFraction ('.' :: (zeroPadded width n ++ rest)) =
      .ok (n * Number.tenTo (9 - width), rest) := by
  have hle : Nat.pow 10 width ≤ Nat.pow 10 9 := Nat.pow_le_pow_right (by decide) hmost
  have hpow : Nat.pow 10 9 = 1000000000 := by decide
  have htaken : takeNumber 1 9 (zeroPadded width n ++ rest) = .ok (n, rest) :=
    takeNumber_zeroPadded hwidth hn hwidth hmost (.inr hrest) (by omega)
  have hlength : (zeroPadded width n ++ rest).length - rest.length = width := by
    rw [List.length_append, length_zeroPadded hwidth hn, Nat.add_sub_cancel]
  simp only [takeFraction, htaken, hlength, hrest.dropWhile_eq, bind, Except.bind, pure,
    Except.pure]

/-- Where no fraction stands, none is taken. -/
theorem takeFraction_stops {rest : List Char} (hrest : Stops isFractional rest) :
    takeFraction rest = .ok (0, rest) := by
  cases rest with
  | nil => rfl
  | cons c cs =>
    have hc : c ≠ '.' := by
      rintro rfl
      exact absurd (hrest '.' rfl) (by decide)
    unfold takeFraction
    split
    · rename_i heq
      exact absurd (List.cons.inj heq).1 hc
    · rfl

/-- A fraction is taken back where neither a point nor a digit follows it. -/
theorem takeFraction_writeFraction {nanos : Nat} {rest : List Char} (hn : nanos < 1000000000)
    (hrest : Stops isFractional rest) :
    takeFraction (writeFraction nanos ++ rest) = .ok (nanos, rest) := by
  have hdigit := stops_of_isFractional hrest
  unfold writeFraction
  by_cases hzero : nanos = 0
  · rw [if_pos hzero, hzero]
    exact takeFraction_stops hrest
  rw [if_neg hzero]
  -- three, six or nine digits are written: as few as lose nothing, so the reader fills up
  -- with zeros what was left out
  by_cases hmillis : nanos % 1000000 = 0
  · have hvalue : nanos / 1000000 * Number.tenTo (9 - 3) = nanos := by
      show nanos / 1000000 * 1000000 = nanos
      omega
    rw [if_pos hmillis, List.cons_append, takeFraction_zeroPadded (by decide) (by decide)
      (show nanos / 1000000 < 1000 by omega) hdigit, hvalue]
  rw [if_neg hmillis]
  by_cases hmicros : nanos % 1000 = 0
  · have hvalue : nanos / 1000 * Number.tenTo (9 - 6) = nanos := by
      show nanos / 1000 * 1000 = nanos
      omega
    rw [if_pos hmicros, List.cons_append, takeFraction_zeroPadded (by decide) (by decide)
      (show nanos / 1000 < 1000000 by omega) hdigit, hvalue]
  · have hvalue : nanos * Number.tenTo (9 - 9) = nanos := Nat.mul_one nanos
    rw [if_neg hmicros, List.cons_append, takeFraction_zeroPadded (by decide) (by decide) hn hdigit,
      hvalue]

/-! ## Offsets -/

/-- Two digits are taken back. -/
theorem takePair_zeroPadded {n : Nat} (hn : n < 100) (rest : List Char) :
    ∃ a b, takePair (zeroPadded 2 n ++ rest) = .ok (a, b, rest) ∧ pairValue a b = n := by
  have hlength : (zeroPadded 2 n).length = 2 := length_zeroPadded (by decide) hn
  have hvalue := digitsValue_zeroPadded 2 n
  have hdigits : ∀ c ∈ zeroPadded 2 n, isDecimalDigit c = true :=
    fun c hc => isDecimalDigit_of_mem_zeroPadded hc
  obtain ⟨a, b, heq⟩ : ∃ a b, zeroPadded 2 n = [a, b] := by
    match zeroPadded 2 n, hlength with
    | [a, b], _ => exact ⟨a, b, rfl⟩
  rw [heq] at hvalue hdigits ⊢
  have ha : isDecimalDigit a = true := hdigits a (by simp)
  have hb : isDecimalDigit b = true := hdigits b (by simp)
  refine ⟨a, b, ?_, ?_⟩
  · simp [takePair, ha, hb]
  · unfold pairValue
    have hvalue' : 10 * (10 * 0 + decimalValue a) + decimalValue b = n := hvalue
    omega

/-- An offset of whole minutes is taken back, whichever reader takes its colon. -/
theorem takeOffset_writeOffset {zulu mayOmit : Bool}
    {separator : List Char → Except Fault (List Char)} {offset : Int} {rest : List Char}
    (hminutes : 60 ∣ offset) (hlt : offset.natAbs < 86400)
    (hseparator : ∀ n, separator (':' :: (zeroPadded 2 n ++ rest)) = .ok (zeroPadded 2 n ++ rest)) :
    takeOffset zulu mayOmit separator (writeOffset offset ++ rest) = .ok (offset, rest) := by
  obtain ⟨minutes, hm⟩ : ∃ m, m = (offset.natAbs + 30) / 60 := ⟨_, rfl⟩
  -- the minutes are rounded when they are written, which whole ones survive
  have habs : (minutes * 60 : Nat) = offset.natAbs := by omega
  obtain ⟨a, b, hhours, hhours'⟩ := takePair_zeroPadded (n := minutes / 60) (by omega)
    (':' :: (zeroPadded 2 (minutes % 60) ++ rest))
  obtain ⟨a', b', hmins, hmins'⟩ := takePair_zeroPadded (n := minutes % 60) (by omega) rest
  have hlate : takeOffsetMinutes mayOmit (zeroPadded 2 (minutes % 60) ++ rest) =
      .ok (minutes % 60, rest) := by
    unfold takeOffsetMinutes
    rw [hmins]
    show (if pairValue a' b' < 60 then Except.ok (pairValue a' b', rest) else _) = _
    rw [hmins', if_pos (Nat.mod_lt _ (by decide))]
  have htext : writeOffset offset ++ rest = (if offset < 0 then '-' else '+') ::
      (zeroPadded 2 (minutes / 60) ++ ':' :: (zeroPadded 2 (minutes % 60) ++ rest)) := by
    simp [writeOffset, hm]
  rw [htext]
  by_cases hneg : offset < 0
  · have hvalue : -(((minutes / 60 : Nat) : Int) * 3600 + ((minutes % 60 : Nat) : Int) * 60) =
        offset := by omega
    simp [takeOffset, hneg, hhours, hseparator, hlate, hhours', bind, Except.bind, pure,
      Except.pure]
    omega
  · have hvalue : ((minutes / 60 : Nat) : Int) * 3600 + ((minutes % 60 : Nat) : Int) * 60 =
        offset := by omega
    simp [takeOffset, hneg, hhours, hseparator, hlate, hhours', bind, Except.bind, pure,
      Except.pure]
    omega

end Time

end SqlCompose
