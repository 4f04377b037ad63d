import SqlCompose.Resolution.Prepare

/-!
# SqlCompose.Proofs.Placeholder -- finding placeholders in a text

A placeholder that was written is found again. A text can be searched piece by
piece wherever a piece starts with a character that no placeholder has inside.
-/

namespace SqlCompose

/-! ## Digits -/

namespace Text

theorem digitsValue_eq_ofDigitChars (acc : Nat) (cs : List Char) :
    digitsValue acc cs = Nat.ofDigitChars 10 cs acc := by
  induction cs generalizing acc with
  | nil => rfl
  | cons c rest ih => exact ih _

theorem isDecimalDigit_of_mem_natDigits {n : Nat} {c : Char} (h : c ∈ natDigits n) :
    isDecimalDigit c = true := by
  have hdigit := Nat.isDigit_of_mem_toDigits (by decide) (by decide) h
  simp only [Char.isDigit, Bool.and_eq_true, decide_eq_true_eq, ge_iff_le,
    UInt32.le_iff_toNat_le] at hdigit
  simp only [isDecimalDigit, Bool.and_eq_true, decide_eq_true_eq]
  exact hdigit

theorem isDecimalDigit_of_mem_zeroPadded {width n : Nat} {c : Char} (h : c ∈ zeroPadded width n) :
    isDecimalDigit c = true := by
  rcases List.mem_append.mp h with h | h
  · rw [List.eq_of_mem_replicate h]
    rfl
  · exact isDecimalDigit_of_mem_natDigits h

theorem digitsValue_zeroPadded (width n : Nat) : digitsValue 0 (zeroPadded width n) = n := by
  rw [digitsValue_eq_ofDigitChars, zeroPadded, Nat.ofDigitChars_append,
    Nat.ofDigitChars_replicate_zero, Nat.mul_zero]
  exact Nat.ofDigitChars_ten_toDigits

theorem length_zeroPadded {width n : Nat} (hwidth : 0 < width) (h : n < Nat.pow 10 width) :
    (zeroPadded width n).length = width := by
  have hle := (Nat.length_toDigits_le_iff (by decide : 1 < 10) hwidth).mpr h
  rw [zeroPadded, List.length_append, List.length_replicate]
  exact Nat.sub_add_cancel hle

end Text

/-! ## The shape of a placeholder -/

namespace Placeholder

/-- The characters a placeholder has after its first one. -/
def isInner (c : Char) : Bool := c == '[' || c == ']' || Text.isDecimalDigit c

/-- No placeholder that started earlier can reach into a text that splits off. -/
def Splits (cs : List Char) : Prop := ∀ c ∈ cs.head?, isInner c = false

theorem splits_nil : Splits [] := by simp [Splits]

theorem splits_cons {c : Char} (h : isInner c = false) (cs : List Char) : Splits (c :: cs) := by
  simpa [Splits] using h

theorem number?_inner {c : Char} {cs : List Char} {n : Nat} (h : number? (c :: cs) = some n) :
    c = ':' ∧ cs.length = 6 ∧ ∀ x ∈ cs, isInner x = true := by
  unfold number? at h
  split at h
  · rename_i a b c d heq
    injection heq with hc hcs
    subst hc hcs
    split at h
    · rename_i hall
      simp only [List.all_cons, List.all_nil, Bool.and_true, Bool.and_eq_true] at hall
      obtain ⟨ha, hb, hc, hd⟩ := hall
      simp [isInner, ha, hb, hc, hd]
    · simp at h
  · simp at h

theorem number?_of_ne {c : Char} (h : c ≠ ':') (cs : List Char) : number? (c :: cs) = none := by
  rw [Option.eq_none_iff_forall_ne_some]
  intro n hn
  exact h (number?_inner hn).1

/-- The six characters after the first one of a placeholder. -/
def tail (n : Nat) : List Char := '[' :: Text.zeroPadded 4 n ++ [']']

theorem name_toList (n : Nat) : (name n).toList = ':' :: tail n := by
  simp [name, tail]

theorem length_tail {n : Nat} (h : n ≤ maxNumber) : (tail n).length = 6 := by
  have hlength : (Text.zeroPadded 4 n).length = 4 :=
    Text.length_zeroPadded (by decide) (Nat.lt_of_le_of_lt h (by decide))
  simp [tail, hlength]

theorem number?_name {n : Nat} (h : n ≤ maxNumber) : number? (':' :: tail n) = some n := by
  have hlength : (Text.zeroPadded 4 n).length = 4 :=
    Text.length_zeroPadded (by decide) (Nat.lt_of_le_of_lt h (by decide))
  have hvalue := Text.digitsValue_zeroPadded 4 n
  have hdigits : ∀ c ∈ Text.zeroPadded 4 n, Text.isDecimalDigit c = true :=
    fun c hc => Text.isDecimalDigit_of_mem_zeroPadded hc
  unfold tail
  obtain ⟨a, b, c, d, heq⟩ : ∃ a b c d, Text.zeroPadded 4 n = [a, b, c, d] := by
    match Text.zeroPadded 4 n, hlength with
    | [a, b, c, d], _ => exact ⟨a, b, c, d, rfl⟩
  rw [heq] at hvalue hdigits ⊢
  simp only [List.mem_cons, List.not_mem_nil, or_false] at hdigits
  have hall : [a, b, c, d].all Text.isDecimalDigit = true := by
    simp [hdigits a, hdigits b, hdigits c, hdigits d]
  simp only [List.cons_append, List.nil_append, number?, hall, if_true, hvalue]

/-- A placeholder in front of a text that splits off lies before it. -/
theorem number?_take_append {c : Char} {u v : List Char} (hv : Splits v) :
    number? ((c :: (u ++ v)).take width) = number? ((c :: u).take width) := by
  -- behind its colon a placeholder has six inner characters, and the rest starts with none
  by_cases hu : 6 ≤ u.length
  · simp only [width, List.take_succ_cons]
    rw [List.take_append_of_le_length hu]
  · have hright : number? ((c :: u).take width) = none := by
      rw [Option.eq_none_iff_forall_ne_some]
      intro n hn
      have hlength := (number?_inner hn).2.1
      simp only [List.length_take] at hlength
      omega
    rw [hright, Option.eq_none_iff_forall_ne_some]
    intro n hn
    obtain ⟨_, hlength, hinner⟩ := number?_inner hn
    cases v with
    | nil =>
      simp only [List.append_nil, List.length_take] at hlength
      omega
    | cons x rest =>
      have hx : x ∈ (u ++ x :: rest).take 6 := by
        rw [List.take_append, List.mem_append]
        right
        obtain ⟨k, hk⟩ : ∃ k, 6 - u.length = k + 1 := ⟨5 - u.length, by omega⟩
        rw [hk, List.take_succ_cons]
        exact List.mem_cons_self
      have hcontra := hv x rfl
      rw [hinner x hx] at hcontra
      exact Bool.noConfusion hcontra

end Placeholder

/-! ## Searching -/

namespace TextPiece

open Placeholder

theorem scan_skip (k : Nat) (cs : List Char) : scan k cs = scan 0 (cs.drop k) := by
  induction k generalizing cs with
  | zero => rfl
  | succ k ih =>
    cases cs with
    | nil => simp [scan]
    | cons c rest => simpa [scan] using ih rest

theorem scan_char {c : Char} (h : c ≠ ':') (rest : List Char) :
    scan 0 (c :: rest) = .char c :: scan 0 rest := by
  simp [scan, width, number?_of_ne h]

theorem scan_name {n : Nat} (h : n ≤ maxNumber) (rest : List Char) :
    scan 0 ((name n).toList ++ rest) = .placeholder n :: scan 0 rest := by
  have htake : ((tail n) ++ rest).take 6 = tail n := by
    rw [← length_tail h, List.take_left]
  have hdrop : ((tail n) ++ rest).drop 6 = rest := by
    rw [← length_tail h, List.drop_left]
  rw [name_toList, List.cons_append]
  simp only [scan, width, List.take_succ_cons, htake, number?_name h, scan_skip 6, hdrop]

/-- What splits off is searched by itself. -/
theorem scan_append {u v : List Char} (hv : Splits v) : scan 0 (u ++ v) = scan 0 u ++ scan 0 v := by
  match u with
  | [] => rfl
  | c :: rest =>
    have hnumber := number?_take_append (c := c) (u := rest) hv
    simp only [List.cons_append, scan]
    rw [hnumber]
    cases h : Placeholder.number? ((c :: rest).take width) with
    | none =>
      simp only [List.cons_append]
      rw [scan_append hv]
    | some n =>
      have hlength : 6 ≤ rest.length := by
        have hlength := (number?_inner h).2.1
        simp only [List.length_take] at hlength
        omega
      simp only [width, scan_skip 6, List.cons_append]
      rw [List.drop_append_of_le_length hlength, scan_append hv]
termination_by u.length
decreasing_by
  · exact Nat.lt_succ_self _
  · simp only [List.length_cons, List.length_drop]
    omega

end TextPiece

end SqlCompose
