import SqlCompose.Number.Decimal
import SqlCompose.Number.Int128
import SqlCompose.Proofs.TimeForms

/-!
# SqlCompose.Proofs.DecimalText -- exact numbers come back from their text

A whole number is read from its digits as it was. So is a decimal with all its
places: the digits before the point and those behind it are one row, and the
reader never has to round, since no text has more digits than a mantissa has
room for. Only the sign of a zero is lost.
-/

namespace SqlCompose

/-! ## Whole numbers -/

namespace Text

theorem digitsValue_append (acc : Nat) (a b : List Char) :
    digitsValue acc (a ++ b) = digitsValue (digitsValue acc a) b := by
  induction a generalizing acc with
  | nil => rfl
  | cons c a ih => exact ih _

/-- More digits never make a number smaller. -/
theorem le_digitsValue (acc : Nat) (cs : List Char) : acc ≤ digitsValue acc cs := by
  induction cs generalizing acc with
  | nil => exact Nat.le_refl acc
  | cons c cs ih =>
    have h := ih (10 * acc + decimalValue c)
    unfold digitsValue
    omega

theorem zeroPadded_zero (n : Nat) : zeroPadded 0 n = natDigits n := by
  simp [zeroPadded]

theorem readNat?_natDigits (n : Nat) : readNat? (natDigits n) = some n := by
  have hne := zeroPadded_ne_nil 0 n
  have hvalue := digitsValue_zeroPadded 0 n
  rw [zeroPadded_zero] at hne hvalue
  have hall : (natDigits n).all isDecimalDigit = true :=
    List.all_eq_true.mpr fun _ => isDecimalDigit_of_mem_natDigits
  unfold readNat?
  rw [if_pos ⟨hne, hall⟩, hvalue]

/-- A number that starts with a digit has no sign. -/
theorem readInt?_digit {c : Char} (hc : isDecimalDigit c = true) (cs : List Char) :
    readInt? (c :: cs) = (readNat? (c :: cs)).map Int.ofNat := by
  rw [readInt?]
  · rintro rest hplus
    cases hplus
    cases hc
  · rintro rest hminus
    cases hminus
    cases hc

theorem readInt?_intDigits (i : Int) : readInt? (intDigits i) = some i := by
  unfold intDigits
  split
  · rw [readInt?, readNat?_natDigits]
    show some (-(i.natAbs : Int)) = some i
    congr 1
    omega
  · obtain ⟨c, cs, hcs, hc⟩ := zeroPadded_eq_cons 0 i.natAbs
    rw [zeroPadded_zero] at hcs
    rw [hcs, readInt?_digit hc, ← hcs, readNat?_natDigits, Option.map_some]
    congr 1
    simp only [Int.ofNat_eq_natCast]
    omega

/-- No blank stands around a whole number. -/
theorem trimmed_intDigits (i : Int) : trimmed (intDigits i) = intDigits i := by
  have hfront := stops_zeroPadded (fun _ => isBlank_of_isDecimalDigit) 0 i.natAbs []
  have hback := Time.endsInDigit_zeroPadded 0 i.natAbs
  rw [zeroPadded_zero] at hfront hback
  rw [List.append_nil] at hfront
  unfold intDigits
  split
  · exact Time.trimmed_eq (stops_cons (by decide) _) (hback.cons '-')
  · exact Time.trimmed_eq hfront hback

end Text

/-! ## Decimals -/

namespace Decimal

open Text

section

variable (negative seen point : Bool) {m k : Nat}

/-- Where there is room for a digit, it is read. -/
theorem readFrom_digit {c : Char} (hc : isDecimalDigit c = true)
    (hfits : 10 * m + decimalValue c < mantissaBound) (hplace : point = true → k < maxScale)
    (wide : Bool) (rest : List Char) :
    ∃ wide', readFrom negative seen point wide m k (c :: rest) =
      readFrom negative true point wide' (10 * m + decimalValue c)
        (if point then k + 1 else k) rest := by
  have hroom : ¬ (point && decide (k ≥ maxScale)) = true := by
    intro h
    obtain ⟨hpoint, hk⟩ := Bool.and_eq_true_iff.mp h
    have hlt := hplace hpoint
    have hge := of_decide_eq_true hk
    omega
  refine ⟨wide || decide (m ≥ wideBound), ?_⟩
  rw [readFrom, if_neg hroom]
  simp only [hc, if_true, if_pos hfits]

/-- A row of digits is read to its end where there is room for all of them. -/
theorem readFrom_digits {ds : List Char} (hdigits : ∀ c ∈ ds, isDecimalDigit c = true)
    (hfits : digitsValue m ds < mantissaBound)
    (hplaces : point = true → k + ds.length ≤ maxScale) (wide : Bool) (rest : List Char) :
    ∃ wide', readFrom negative seen point wide m k (ds ++ rest) =
      readFrom negative (seen || !ds.isEmpty) point wide' (digitsValue m ds)
        (if point then k + ds.length else k) rest := by
  -- the value of the whole row bounds the mantissa at every digit on the way, and behind the
  -- point the places that are left shrink with the row
  induction ds generalizing seen wide m k with
  | nil =>
    have hvalue : digitsValue m [] = m := rfl
    have hscale : (if point then k + ([] : List Char).length else k) = k := ite_self k
    refine ⟨wide, ?_⟩
    rw [hvalue, hscale, List.nil_append, List.isEmpty_nil, Bool.not_true, Bool.or_false]
  | cons c ds ih =>
    obtain ⟨k', hk'⟩ : ∃ k', k' = if point then k + 1 else k := ⟨_, rfl⟩
    have hfirst := Nat.lt_of_le_of_lt (le_digitsValue (10 * m + decimalValue c) ds) hfits
    have hplace : point = true → k < maxScale := by
      intro hpoint
      have hroom := hplaces hpoint
      rw [List.length_cons] at hroom
      omega
    have hplaces' : point = true → k' + ds.length ≤ maxScale := by
      intro hpoint
      have hroom := hplaces hpoint
      rw [List.length_cons] at hroom
      rw [hk', if_pos hpoint]
      omega
    obtain ⟨next, hnext⟩ := readFrom_digit negative seen point (hdigits c List.mem_cons_self)
      hfirst hplace wide (ds ++ rest)
    obtain ⟨last, hlast⟩ := ih true (fun d hd => hdigits d (List.mem_cons_of_mem c hd)) hfits
      hplaces' next
    have hvalue : digitsValue m (c :: ds) = digitsValue (10 * m + decimalValue c) ds := rfl
    have hscale : (if point then k' + ds.length else k') =
        if point then k + (c :: ds).length else k := by
      rw [hk', List.length_cons]
      split <;> omega
    refine ⟨last, ?_⟩
    rw [List.cons_append, hnext, ← hk', hlast, hvalue, hscale, List.isEmpty_cons, Bool.not_false,
      Bool.or_true, Bool.true_or]

theorem readFrom_point (wide : Bool) (rest : List Char) :
    ∃ wide', readFrom negative seen false wide m k ('.' :: rest) =
      readFrom negative seen true wide' m k rest := by
  have hdigit : isDecimalDigit '.' = false := by decide
  refine ⟨wide || decide (m ≥ wideBound), ?_⟩
  rw [readFrom]
  simp only [hdigit, Bool.false_and, Bool.false_eq_true, if_false, Bool.not_false, and_self,
    if_true]

end

/-- A mantissa is written in digits with a point before the last of them. -/
theorem exists_placed (m k : Nat) : ∃ front back,
    placed m k = front ++ (if k = 0 then [] else '.' :: back) ∧ front ≠ [] ∧ back.length = k ∧
    (∀ c ∈ front ++ back, isDecimalDigit c = true) ∧
    digitsValue (digitsValue 0 front) back = m := by
  -- one digit more than there are places, so that one stands in front of the point
  obtain ⟨ds, hds⟩ : ∃ ds, ds = zeroPadded (k + 1) m := ⟨_, rfl⟩
  have hlength : k + 1 ≤ ds.length := by
    rw [hds]
    simp only [zeroPadded, List.length_append, List.length_replicate]
    omega
  have hrow : ds.take (ds.length - k) ++ ds.drop (ds.length - k) = ds :=
    List.take_append_drop _ ds
  refine ⟨ds.take (ds.length - k), ds.drop (ds.length - k), ?_, ?_, ?_, ?_, ?_⟩
  · unfold placed
    by_cases hk : k = 0
    · rw [if_pos hk, if_pos hk, ← hds, hk, Nat.sub_zero, List.take_length, List.append_nil]
    · rw [if_neg hk, if_neg hk, ← hds]
  · intro h
    have hzero := congrArg List.length h
    rw [List.length_take, List.length_nil] at hzero
    omega
  · rw [List.length_drop]
    omega
  · rw [hrow, hds]
    exact fun _ => isDecimalDigit_of_mem_zeroPadded
  · rw [← digitsValue_append, hrow, hds, digitsValue_zeroPadded]

theorem finish_eq (negative : Bool) {m k : Nat} (hm : m < mantissaBound) (hk : k ≤ maxScale) :
    finish negative m k = .ok ⟨negative && m != 0, m, k, hm, hk⟩ := by
  unfold finish ofParts?
  rw [dif_pos ⟨hm, hk⟩]

/-- A mantissa and its places are taken back. -/
theorem readFrom_placed (negative : Bool) {m k : Nat} (hm : m < mantissaBound)
    (hk : k ≤ maxScale) :
    readFrom negative false false false 0 0 (placed m k) =
      .ok ⟨negative && m != 0, m, k, hm, hk⟩ := by
  obtain ⟨front, back, hplaced, hfront, hback, hdigits, hvalue⟩ := exists_placed m k
  have hfits : digitsValue 0 front < mantissaBound := by
    have hle := le_digitsValue (digitsValue 0 front) back
    omega
  have hseen : (false || !front.isEmpty) = true := by
    rw [Bool.false_or, Bool.not_eq_true', List.isEmpty_eq_false_iff]
    exact hfront
  obtain ⟨wide, hread⟩ := readFrom_digits negative false false (k := 0)
    (fun c hc => hdigits c (List.mem_append_left back hc)) hfits (fun h => by cases h) false
    (if k = 0 then [] else '.' :: back)
  rw [hplaced, hread, hseen]
  -- the point is left out where no places are
  by_cases hzero : k = 0
  · subst hzero
    rw [List.length_eq_zero_iff.mp hback] at hvalue
    have hwhole : digitsValue 0 front = m := hvalue
    rw [if_pos rfl, hwhole]
    exact finish_eq negative hm hk
  · obtain ⟨wide', hpoint⟩ := readFrom_point negative true (m := digitsValue 0 front)
      (k := 0) wide back
    obtain ⟨wide'', hplaces⟩ := readFrom_digits negative true true (k := 0)
      (fun c hc => hdigits c (List.mem_append_right front hc)) (hvalue ▸ hm)
      (fun _ => by omega) wide' []
    rw [List.append_nil, hvalue, if_pos rfl, Nat.zero_add, hback, Bool.true_or] at hplaces
    rw [if_neg hzero]
    show readFrom negative true false wide _ 0 _ = _
    rw [hpoint, hplaces]
    exact finish_eq negative hm hk

theorem mem_placed {m k : Nat} {c : Char} (h : c ∈ placed m k) :
    isDecimalDigit c = true ∨ c = '.' := by
  obtain ⟨front, back, hplaced, -, -, hdigits, -⟩ := exists_placed m k
  rw [hplaced] at h
  rcases List.mem_append.mp h with hfront | hback
  · exact .inl (hdigits c (List.mem_append_left back hfront))
  · by_cases hzero : k = 0
    · rw [if_pos hzero] at hback
      cases hback
    · rw [if_neg hzero] at hback
      rcases List.mem_cons.mp hback with rfl | hback
      · exact .inr rfl
      · exact .inl (hdigits c (List.mem_append_right front hback))

theorem placed_eq_cons (m k : Nat) :
    ∃ c cs, placed m k = c :: cs ∧ isDecimalDigit c = true := by
  obtain ⟨front, back, hplaced, hfront, -, hdigits, -⟩ := exists_placed m k
  obtain ⟨c, cs, rfl⟩ := List.exists_cons_of_ne_nil hfront
  exact ⟨c, _, hplaced, hdigits c List.mem_cons_self⟩

theorem endsInDigit_placed (m k : Nat) : Time.EndsInDigit (placed m k) := by
  obtain ⟨front, back, hplaced, hfront, hback, hdigits, -⟩ := exists_placed m k
  rw [hplaced]
  by_cases hzero : k = 0
  · rw [if_pos hzero, List.append_nil]
    exact Time.endsInDigit_of_digits hfront fun c hc => hdigits c (List.mem_append_left back hc)
  · have hne : back ≠ [] := by
      rintro rfl
      exact hzero hback.symm
    rw [if_neg hzero]
    exact ((Time.endsInDigit_of_digits hne fun c hc =>
      hdigits c (List.mem_append_right front hc)).cons '.').append front

/-- A number that starts with a digit has no sign. -/
theorem readPlain_digit {c : Char} (hc : isDecimalDigit c = true) (cs : List Char) :
    readPlain (c :: cs) = readFrom false false false false 0 0 (c :: cs) := by
  rw [readPlain]
  · rintro ⟨⟩
  · rintro rest hminus
    cases hminus
    cases hc
  · rintro rest hplus
    cases hplus
    cases hc

theorem isExponentMark_of_isDecimalDigit {c : Char} (h : isDecimalDigit c = true) :
    isExponentMark c = false := by
  cases hmark : isExponentMark c with
  | false => rfl
  | true =>
    rcases Bool.or_eq_true_iff.mp hmark with he | he <;>
      exact absurd (eq_of_beq he ▸ h) (by decide)

theorem toList_text (d : Decimal) : d.text.toList =
    if d.negative then '-' :: placed d.mantissa d.scale else placed d.mantissa d.scale :=
  String.toList_ofList

/-- No decimal is written with an exponent. -/
theorem dropWhile_text (d : Decimal) :
    d.text.toList.dropWhile (fun c => !isExponentMark c) = [] := by
  have hplaced : ∀ c ∈ placed d.mantissa d.scale, (!isExponentMark c) = true := by
    intro c hc
    rcases mem_placed hc with hdigit | rfl
    · rw [isExponentMark_of_isDecimalDigit hdigit]
      rfl
    · decide
  have hall : ∀ c ∈ d.text.toList, (!isExponentMark c) = true := by
    rw [toList_text]
    cases d.negative with
    | true => exact List.forall_mem_cons.mpr ⟨by decide, hplaced⟩
    | false => exact hplaced
  have hnone := (stops_nil _).dropWhile_append hall
  rwa [List.append_nil] at hnone

/-- A decimal is read back with all its places. A zero loses its sign. -/
theorem read_text (d : Decimal) :
    read d.text = .ok { d with negative := d.negative && d.mantissa != 0 } := by
  have hplain : read d.text = readPlain d.text.toList := by
    unfold read
    simp only [dropWhile_text]
  rw [hplain, toList_text]
  cases hnegative : d.negative with
  | true =>
    rw [if_pos rfl, readPlain]
    exact readFrom_placed true d.mantissa_lt d.scale_le
  | false =>
    obtain ⟨c, cs, hcons, hc⟩ := placed_eq_cons d.mantissa d.scale
    rw [if_neg Bool.false_ne_true, hcons, readPlain_digit hc, ← hcons]
    exact readFrom_placed false d.mantissa_lt d.scale_le

/-- No blank stands around a decimal. -/
theorem trim_text (d : Decimal) : trim d.text = d.text := by
  have hback := endsInDigit_placed d.mantissa d.scale
  obtain ⟨c, cs, hcons, hc⟩ := placed_eq_cons d.mantissa d.scale
  apply Time.trim_eq
  · rw [toList_text, hcons]
    cases d.negative with
    | true => exact stops_cons (by decide) _
    | false => exact stops_cons (isBlank_of_isDecimalDigit hc) _
  · rw [toList_text]
    cases d.negative with
    | true => exact hback.cons '-'
    | false => exact hback

/-- A zero is the same number with its sign and without. -/
theorem sameValue_unsigned (d : Decimal) :
    ({ d with negative := d.negative && d.mantissa != 0 } : Decimal).sameValue d = true := by
  have hsigned : ({ d with negative := d.negative && d.mantissa != 0 } : Decimal).signed =
      d.signed := by
    unfold signed
    by_cases hzero : d.mantissa = 0 <;> cases d.negative <;> simp [hzero]
  unfold sameValue
  rw [hsigned]
  exact beq_self_eq_true _

end Decimal

end SqlCompose
