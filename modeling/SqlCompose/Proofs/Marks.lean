import Mathlib.Algebra.Group.Nat.Even
import SqlCompose.Proofs.Placeholder

/-!
# SqlCompose.Proofs.Marks -- bind markers and single quotes

Three characters mean something wherever they stand in a finished text: a colon
may start a placeholder, a single quote opens or closes a literal, and a question
mark outside literals is a bind marker. Most of what a statement has besides its
values are words and names without them.
-/

namespace SqlCompose

/-- The characters that mean something in a finished text. -/
def isMark (c : Char) : Bool := c == ':' || c == '?' || c == '\''

/-- A text without colons. -/
def NoColon (s : String) : Prop := ':' ∉ s.toList

instance (s : String) : Decidable (NoColon s) := inferInstanceAs (Decidable (':' ∉ s.toList))

/-- A text without colons, question marks and single quotes. -/
def Unmarked (s : String) : Prop := ∀ c ∈ s.toList, isMark c = false

-- The instance is named, as another one may be found that tries every character there is.
instance (s : String) : Decidable (Unmarked s) :=
  List.decidableBAll (fun c => isMark c = false) s.toList

theorem Unmarked.noColon {s : String} (h : Unmarked s) : NoColon s :=
  fun hc => absurd (h ':' hc) (by decide)

theorem unmarked_append {s t : String} (hs : Unmarked s) (ht : Unmarked t) : Unmarked (s ++ t) := by
  intro c hc
  rw [String.toList_append, List.mem_append] at hc
  exact hc.elim (hs c) (ht c)

theorem isMark_of_digit {c : Char} (h : Text.isDecimalDigit c = true) : isMark c = false := by
  rw [isMark, Bool.or_eq_false_iff, Bool.or_eq_false_iff, beq_eq_false_iff_ne, beq_eq_false_iff_ne,
    beq_eq_false_iff_ne]
  refine ⟨⟨?_, ?_⟩, ?_⟩ <;> rintro rfl <;> exact absurd h (by decide)

theorem unmarked_nat (n : Nat) : Unmarked (toString n) := by
  intro c hc
  rw [Nat.toString_eq_ofList_toDigits, String.toList_ofList] at hc
  exact isMark_of_digit (Text.isDecimalDigit_of_mem_natDigits hc)

theorem unmarked_int (i : Int) : Unmarked (toString i) := by
  cases i with
  | ofNat n => exact unmarked_nat n
  | negSucc n => exact unmarked_append (s := "-") (by decide) (unmarked_nat (n + 1))

/-! ## Literals -/

/-- Whether a place after some characters is inside a literal. -/
def quotedAfter : Bool → List Char → Bool
  | quoted, [] => quoted
  | quoted, c :: rest => quotedAfter (if c = '\'' then !quoted else quoted) rest

/-- The number of question marks outside literals in the rest of a text. -/
def markersFrom : Bool → List Char → Nat
  | _, [] => 0
  | quoted, c :: rest =>
    (if c = '?' ∧ quoted = false then 1 else 0) +
      markersFrom (if c = '\'' then !quoted else quoted) rest

/-- The number of bind markers in a text. -/
def markers (w : List Char) : Nat := markersFrom false w

theorem quotedAfter_append (quoted : Bool) (u v : List Char) :
    quotedAfter quoted (u ++ v) = quotedAfter (quotedAfter quoted u) v := by
  induction u generalizing quoted with
  | nil => rfl
  | cons c rest ih => exact ih _

theorem markersFrom_append (quoted : Bool) (u v : List Char) :
    markersFrom quoted (u ++ v) = markersFrom quoted u + markersFrom (quotedAfter quoted u) v := by
  induction u generalizing quoted with
  | nil => rw [List.nil_append, markersFrom, Nat.zero_add, quotedAfter]
  | cons c rest ih => rw [List.cons_append, markersFrom, markersFrom, ih, quotedAfter, Nat.add_assoc]

/-- After an even number of single quotes as many literals are open as before. -/
theorem quotedAfter_eq_self {quoted : Bool} {w : List Char} :
    quotedAfter quoted w = quoted ↔ Even (w.count '\'') := by
  induction w generalizing quoted with
  | nil => simp [quotedAfter]
  | cons c rest ih =>
    rw [quotedAfter]
    by_cases hc : c = '\''
    · subst hc
      rw [if_pos rfl, List.count_cons_self, Nat.even_add_one, ← @ih !quoted]
      cases quoted <;> simp
    · rw [if_neg hc, List.count_cons_of_ne hc, ih]

/-! ## Neutral texts -/

/-- A text that leaves no literal open and has no bind marker and no colon. -/
def Neutral (w : List Char) : Prop := ':' ∉ w ∧ quotedAfter false w = false ∧ markers w = 0

instance (w : List Char) : Decidable (Neutral w) :=
  inferInstanceAs (Decidable (':' ∉ w ∧ quotedAfter false w = false ∧ markers w = 0))

theorem Neutral.noColon {s : String} (h : Neutral s.toList) : NoColon s := h.1

theorem neutral_of_unmarked {w : List Char} (h : ∀ c ∈ w, isMark c = false) : Neutral w := by
  induction w with
  | nil => exact ⟨List.not_mem_nil, rfl, rfl⟩
  | cons c rest ih =>
    obtain ⟨hcolon, hquoted, hmarkers⟩ := ih fun c' hc => h c' (List.mem_cons_of_mem c hc)
    have hc := h c List.mem_cons_self
    simp only [isMark, Bool.or_eq_false_iff, beq_eq_false_iff_ne] at hc
    refine ⟨?_, ?_, ?_⟩
    · rw [List.mem_cons, not_or]
      exact ⟨fun heq => hc.1.1 heq.symm, hcolon⟩
    · rwa [quotedAfter, if_neg hc.2]
    · rw [markers, markersFrom, if_neg hc.2, if_neg fun hmark => hc.1.2 hmark.1, Nat.zero_add]
      exact hmarkers

end SqlCompose
