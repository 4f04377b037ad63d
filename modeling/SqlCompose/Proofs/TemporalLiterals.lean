import SqlCompose.Codec.Basic
import SqlCompose.Proofs.Numerals

/-!
# SqlCompose.Proofs.TemporalLiterals -- literals of dates and times give back their text

Every product writes a temporal literal as a fixed opening, a quoted string, and
a fixed closing. The reader of literals gives back what was quoted, whatever it
is, and takes no text for a literal that starts with neither a letter nor a quote.
-/

namespace SqlCompose

/-! ## What stands around the quotes -/

/-- What a product writes before the quotes of a temporal literal. -/
def DialectKind.temporalOpening : DialectKind → TemporalKind → String
  | .sqlite, _ | .sqlServer, _ | .oracle, .time => ""
  | .db2, kind | .derby, kind => SqlLiteral.temporalKeyword kind ++ "("
  | _, kind => SqlLiteral.temporalKeyword kind ++ " "

/-- What a product writes after the quotes of a temporal literal. -/
def DialectKind.temporalClosing : DialectKind → String
  | .db2 | .derby => ")"
  | _ => ""

/-- The quotes are the only part of a temporal literal that depends on its text. -/
theorem DialectKind.temporalText_eq (k : DialectKind) (kind : TemporalKind) (s : String) :
    k.vendor.temporalText kind s =
      k.temporalOpening kind ++ Text.Quoted.quote s ++ k.temporalClosing := by
  cases k with
  | sqlite | sqlServer => exact (String.append_empty.trans String.empty_append).symm
  | db2 | derby => rfl
  | oracle =>
    cases kind with
    | time => exact (String.append_empty.trans String.empty_append).symm
    | date | dateTime => exact String.append_empty.symm
  | _ => exact String.append_empty.symm

namespace LiteralText

open Text

/-! ## Between the quotes -/

theorem takeBody_cons {c : Char} (hc : c ≠ '\'') (cs : List Char) :
    takeBody (c :: cs) = (takeBody cs).map fun (body, after) => (c :: body, after) := by
  rw [takeBody]
  · exact if_neg hc
  · intro rest hquote _
    exact absurd hquote hc

/-- A quote that is not doubled closes a text. -/
theorem takeBody_close {rest : List Char} (h : rest.head? ≠ some '\'') :
    takeBody ('\'' :: rest) = some ([], rest) := by
  rw [takeBody]
  · rfl
  · intro more _ hmore
    rw [hmore] at h
    exact absurd rfl h

/-- The quotes around a text whose own quotes were doubled are found again. -/
theorem takeBody_doubled (s : List Char) {rest : List Char} (h : rest.head? ≠ some '\'') :
    takeBody (Quoted.doubled '\'' s ++ '\'' :: rest) = some (Quoted.doubled '\'' s, rest) := by
  induction s with
  | nil => exact takeBody_close h
  | cons c s ih =>
    by_cases hc : c = '\''
    · simp only [Quoted.doubled, hc, if_true, List.cons_append, takeBody, ih, Option.map_some]
    · simp only [Quoted.doubled, if_neg hc, List.cons_append, takeBody_cons hc, ih,
        Option.map_some]

theorem toList_quote (s : String) :
    (Quoted.quote s).toList = '\'' :: (Quoted.doubled '\'' s.toList ++ ['\'']) := by
  simp [Quoted.quote, Quoted.doubleQuotes]

/-- A text between quotes is taken up to the closing one. -/
theorem takeQuoted_quote (s : String) (rest : List Char) (h : rest.head? ≠ some '\'') :
    takeQuoted ((Quoted.quote s).toList ++ rest) = some (Quoted.doubled '\'' s.toList, rest) := by
  rw [toList_quote, List.cons_append, List.append_assoc]
  exact takeBody_doubled s.toList h

theorem quotedToEnd_quote (s : String) :
    quotedToEnd (Quoted.quote s).toList = some (Quoted.doubled '\'' s.toList) := by
  have hquoted := takeQuoted_quote s [] (by simp)
  rw [List.append_nil] at hquoted
  unfold quotedToEnd
  rw [hquoted]
  rfl

/-- No blank stands before a quoted text. -/
theorem trimFront_quote (s : String) :
    trimFront (Quoted.quote s).toList = (Quoted.quote s).toList := by
  rw [toList_quote]
  rfl

theorem quotedToEnd_of_ne {c : Char} (hc : c ≠ '\'') (cs : List Char) :
    quotedToEnd (c :: cs) = none := by
  simp [quotedToEnd, takeQuoted, takeMark, hc]

/-! ## Keywords -/

theorem takeWord_append (word rest : List Char) : takeWord word (word ++ rest) = some rest := by
  induction word with
  | nil => rfl
  | cons w word ih => simpa [takeWord, standsFor] using ih

/-- The letters of a keyword. -/
def letters : TemporalKind → List Char
  | .date => ['D', 'A', 'T', 'E']
  | .time => ['T', 'I', 'M', 'E']
  | .dateTime => ['T', 'I', 'M', 'E', 'S', 'T', 'A', 'M', 'P']

theorem toList_temporalKeyword (kind : TemporalKind) :
    (SqlLiteral.temporalKeyword kind).toList = letters kind := by
  cases kind <;> rfl

/-- What a reader finds behind the first of the three keywords where it finds anything. -/
def afterKeyword (f : List Char → Option (List Char)) (cs : List Char) : Option (List Char) :=
  [TemporalKind.date, .time, .dateTime].findSome? fun kind => (takeWord (letters kind) cs).bind f

theorem typed_eq (cs : List Char) :
    typed cs = afterKeyword (fun rest => quotedToEnd (trimFront rest)) (trimFront cs) := rfl

section

variable {f : List Char → Option (List Char)} (hlong : ∀ cs, f ('S' :: cs) = none)
include hlong

/-- One keyword is the start of another, behind which there is nothing to find. -/
theorem afterKeyword_letters (kind : TemporalKind) {rest body : List Char}
    (hf : f rest = some body) : afterKeyword f (letters kind ++ rest) = some body := by
  have hword := takeWord_append (letters kind) rest
  unfold afterKeyword
  cases kind with
  | date => simp only [List.findSome?_cons, hword, Option.bind_some, hf]
  | time =>
    have hdate : takeWord (letters .date) (letters .time ++ rest) = none := rfl
    simp only [List.findSome?_cons, hdate, hword, Option.bind_none, Option.bind_some, hf]
  | dateTime =>
    have hdate : takeWord (letters .date) (letters .dateTime ++ rest) = none := rfl
    -- the shorter keyword is tried first, and leaves the rest of the longer one
    have htime : takeWord (letters .time) (letters .dateTime ++ rest) =
        some ('S' :: (['T', 'A', 'M', 'P'] ++ rest)) := rfl
    simp only [List.findSome?_cons, hdate, htime, hword, hlong, Option.bind_none, Option.bind_some,
      hf]

/-- Nothing is found behind a keyword, nor behind a longer one. -/
theorem afterKeyword_eq_none (kind : TemporalKind) {rest : List Char} (hf : f rest = none)
    (hrest : takeWord ['S', 'T', 'A', 'M', 'P'] rest = none) :
    afterKeyword f (letters kind ++ rest) = none := by
  have hword := takeWord_append (letters kind) rest
  unfold afterKeyword
  cases kind with
  | date =>
    have htime : takeWord (letters .time) (letters .date ++ rest) = none := rfl
    have hstamp : takeWord (letters .dateTime) (letters .date ++ rest) = none := rfl
    simp only [List.findSome?_cons, List.findSome?_nil, hword, htime, hstamp, Option.bind_none,
      Option.bind_some, hf]
  | time =>
    have hdate : takeWord (letters .date) (letters .time ++ rest) = none := rfl
    have hstamp : takeWord (letters .dateTime) (letters .time ++ rest) = none := hrest
    simp only [List.findSome?_cons, List.findSome?_nil, hdate, hword, hstamp, Option.bind_none,
      Option.bind_some, hf]
  | dateTime =>
    have hdate : takeWord (letters .date) (letters .dateTime ++ rest) = none := rfl
    have htime : takeWord (letters .time) (letters .dateTime ++ rest) =
        some ('S' :: (['T', 'A', 'M', 'P'] ++ rest)) := rfl
    simp only [List.findSome?_cons, List.findSome?_nil, hdate, htime, hword, hlong,
      Option.bind_none, Option.bind_some, hf]

end

theorem takeWord_of_not_standsFor {c w : Char} (h : standsFor c w = false) (word cs : List Char) :
    takeWord (w :: word) (c :: cs) = none := by
  simp [takeWord, h]

/-- Without a keyword there is nothing to look behind. -/
theorem afterKeyword_of_not_standsFor (f : List Char → Option (List Char)) {c : Char}
    (cs : List Char) (hd : standsFor c 'D' = false) (ht : standsFor c 'T' = false) :
    afterKeyword f (c :: cs) = none := by
  have hnone : ∀ kind, takeWord (letters kind) (c :: cs) = none := by
    intro kind
    cases kind with
    | date => exact takeWord_of_not_standsFor hd _ cs
    | time | dateTime => exact takeWord_of_not_standsFor ht _ cs
  unfold afterKeyword
  simp only [List.findSome?_cons, List.findSome?_nil, hnone, Option.bind_none]

/-! ## Calls -/

/-- Where neither of the two conversion functions is called, the three keywords are left. -/
theorem called_eq {cs : List Char} (hdate : takeWord "TO_DATE".toList (trimFront cs) = none)
    (hstamp : takeWord "TO_TIMESTAMP".toList (trimFront cs) = none) :
    called cs = afterKeyword arguments (trimFront cs) := by
  unfold called afterKeyword
  rw [List.findSome?_cons, hdate, List.findSome?_cons, hstamp]
  rfl

/-- The text of a call, up to its end. -/
theorem arguments_quote (s : String) :
    arguments ('(' :: ((Quoted.quote s).toList ++ [')'])) =
      some (Quoted.doubled '\'' s.toList) := by
  have hquoted := takeQuoted_quote s [')'] (by simp)
  have hfront : trimFront ((Quoted.quote s).toList ++ [')']) =
      (Quoted.quote s).toList ++ [')'] := by
    rw [toList_quote]
    rfl
  have hopen : takeMark '(' (trimFront ('(' :: ((Quoted.quote s).toList ++ [')']))) =
      some ((Quoted.quote s).toList ++ [')']) := rfl
  have hclose : takeMark ')' (trimFront ((takeFormat (trimFront [')'])).getD (trimFront [')']))) =
      some [] := rfl
  simp only [arguments, hopen, hfront, hquoted, hclose, bind, Option.bind_some]
  rfl

/-! ## The shapes of a literal -/

/-- What was found between quotes is the text whose quotes were doubled. -/
theorem temporal?_eq {text s : String}
    (h : ((typed text.toList).or (called text.toList)).or (quoted text.toList) =
      some (Quoted.doubled '\'' s.toList)) : temporal? text = some s := by
  simp only [temporal?, h, Option.map_some, Quoted.halved_doubled, String.ofList_toList]

section

variable (kind : TemporalKind) (s : String)

/-- A keyword, a blank and a quoted text. -/
theorem temporal?_typedTemporal : temporal? (SqlLiteral.typedTemporal kind s) = some s := by
  have htext : (SqlLiteral.typedTemporal kind s).toList =
      letters kind ++ ' ' :: (Quoted.quote s).toList := by
    simp [SqlLiteral.typedTemporal, ← toList_temporalKeyword]
  have hfront : trimFront (SqlLiteral.typedTemporal kind s).toList =
      (SqlLiteral.typedTemporal kind s).toList := by
    rw [htext]
    cases kind <;> rfl
  have hquoted : quotedToEnd (trimFront (' ' :: (Quoted.quote s).toList)) =
      some (Quoted.doubled '\'' s.toList) := by
    unfold trimFront
    rw [List.dropWhile_cons_of_pos (by decide)]
    show quotedToEnd (trimFront (Quoted.quote s).toList) = _
    rw [trimFront_quote, quotedToEnd_quote]
  have htyped : typed (SqlLiteral.typedTemporal kind s).toList =
      some (Quoted.doubled '\'' s.toList) := by
    rw [typed_eq, hfront, htext]
    exact afterKeyword_letters (fun _ => rfl) kind hquoted
  apply temporal?_eq
  rw [htyped]
  rfl

/-- A call with a quoted text. -/
theorem temporal?_temporalCall : temporal? (SqlLiteral.temporalCall kind s) = some s := by
  have htext : (SqlLiteral.temporalCall kind s).toList =
      letters kind ++ '(' :: ((Quoted.quote s).toList ++ [')']) := by
    simp [SqlLiteral.temporalCall, ← toList_temporalKeyword]
  have hfront : trimFront (SqlLiteral.temporalCall kind s).toList =
      (SqlLiteral.temporalCall kind s).toList := by
    rw [htext]
    cases kind <;> rfl
  have htyped : typed (SqlLiteral.temporalCall kind s).toList = none := by
    rw [typed_eq, hfront, htext]
    exact afterKeyword_eq_none (fun _ => rfl) kind rfl rfl
  have hcalled : called (SqlLiteral.temporalCall kind s).toList =
      some (Quoted.doubled '\'' s.toList) := by
    rw [called_eq, hfront, htext]
    · exact afterKeyword_letters (fun _ => rfl) kind (arguments_quote s)
    · rw [hfront, htext]
      cases kind <;> rfl
    · rw [hfront, htext]
      cases kind <;> rfl
  apply temporal?_eq
  rw [htyped, hcalled]
  rfl

/-- A text that starts with no letter of a function name is no typed literal and no call. -/
theorem typed_called_eq_none {c : Char} (cs : List Char) (hblank : isBlank c = false)
    (hd : standsFor c 'D' = false) (ht : standsFor c 'T' = false) :
    typed (c :: cs) = none ∧ called (c :: cs) = none := by
  have hfront : trimFront (c :: cs) = c :: cs := (stops_cons hblank cs).dropWhile_eq
  constructor
  · rw [typed_eq, hfront]
    exact afterKeyword_of_not_standsFor _ cs hd ht
  · rw [called_eq, hfront]
    · exact afterKeyword_of_not_standsFor _ cs hd ht
    · rw [hfront]
      exact takeWord_of_not_standsFor ht ['O', '_', 'D', 'A', 'T', 'E'] cs
    · rw [hfront]
      exact takeWord_of_not_standsFor ht ['O', '_', 'T', 'I', 'M', 'E', 'S', 'T', 'A', 'M', 'P'] cs

/-- A quoted text alone. -/
theorem temporal?_quote : temporal? (Quoted.quote s) = some s := by
  have hnational : takeMark 'N' (Quoted.quote s).toList = none := by
    rw [toList_quote]
    rfl
  have hquoted : quoted (Quoted.quote s).toList = some (Quoted.doubled '\'' s.toList) := by
    simp only [quoted, trimFront_quote, hnational, Option.getD_none, quotedToEnd_quote]
  obtain ⟨htyped, hcalled⟩ : typed (Quoted.quote s).toList = none ∧
      called (Quoted.quote s).toList = none := by
    rw [toList_quote]
    exact typed_called_eq_none _ (by decide) (by decide) (by decide)
  apply temporal?_eq
  rw [htyped, hcalled, hquoted]
  rfl

end

/-- A temporal literal of any product gives back its text. -/
theorem temporal?_temporalText (k : DialectKind) (kind : TemporalKind) (s : String) :
    temporal? (k.vendor.temporalText kind s) = some s := by
  cases k with
  | sqlite | sqlServer => exact temporal?_quote s
  | db2 | derby => exact temporal?_temporalCall kind s
  | oracle =>
    cases kind with
    | time => exact temporal?_quote s
    | date => exact temporal?_typedTemporal .date s
    | dateTime => exact temporal?_typedTemporal .dateTime s
  | _ => exact temporal?_typedTemporal kind s

/-- A text that starts like a number is no literal. -/
theorem temporal?_eq_none {s : String} {c : Char} {cs : List Char} (hs : s.toList = c :: cs)
    (hc : Time.Leads c) : temporal? s = none := by
  -- signs and digits come before all letters, so no word of a literal can start here
  have hcode : 40 ≤ c.toNat ∧ c.toNat < 58 := by
    rcases hc with h | rfl | rfl
    · simp only [isDecimalDigit, Bool.and_eq_true, decide_eq_true_eq] at h
      omega
    · decide
    · decide
  have hne : ∀ w : Char, (58 ≤ w.toNat ∨ w.toNat < 40) → c ≠ w := by
    rintro w hw rfl
    omega
  have hletter : ∀ w : Char, 58 ≤ w.toNat → w ≠ 'S' → standsFor c w = false := by
    intro w hw hs
    simp only [standsFor, Bool.or_eq_false_iff, Bool.and_eq_false_iff, beq_eq_false_iff_ne]
    refine ⟨⟨hne w (.inl hw), .inr ?_⟩, .inl hs⟩
    omega
  have hfront : trimFront (c :: cs) = c :: cs := (stops_cons hc.not_isBlank cs).dropWhile_eq
  have hquoted : quoted (c :: cs) = none := by
    have hnational : takeMark 'N' (c :: cs) = none := if_neg (hne 'N' (by decide))
    simp only [quoted, hfront, hnational, Option.getD_none]
    exact quotedToEnd_of_ne (hne '\'' (by decide)) cs
  obtain ⟨htyped, hcalled⟩ := typed_called_eq_none cs hc.not_isBlank
    (hletter 'D' (by decide) (by decide)) (hletter 'T' (by decide) (by decide))
  simp only [temporal?, hs, htyped, hcalled, hquoted, Option.or_none, Option.map_none]

end LiteralText

end SqlCompose
