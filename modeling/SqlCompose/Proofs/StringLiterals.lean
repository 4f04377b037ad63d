import SqlCompose.Proofs.TemporalLiterals

/-!
# SqlCompose.Proofs.StringLiterals -- how a database reads a string between quotes

Every database reads two quotes in a row as one, and the first quote that is not
doubled as the end of the string. MySQL reads a backslash together with the
character after it as well. A text whose quotes were doubled is read as it was
where backslashes are ordinary characters. Where they are not, it is so exactly
when each backslash stands before a percent sign or an underscore, with which it
is kept.
-/

namespace SqlCompose

namespace StringLiteral

open Text

/-! ## Reading -/

/-- What a backslash and the character after it stand for. The signs of patterns keep their
backslash, and a character without a meaning of its own stands for itself. -/
def escaped : Char → List Char
  | '0' => [Char.ofNat 0]
  | 'b' => [Char.ofNat 8]
  | 'n' => ['\n']
  | 'r' => ['\r']
  | 't' => ['\t']
  | 'Z' => [Char.ofNat 26]
  | '%' => ['\\', '%']
  | '_' => ['\\', '_']
  | c => [c]

/-- Put characters before those that were read already. -/
def push (front : List Char) (read : List Char × List Char) : List Char × List Char :=
  (front ++ read.1, read.2)

/-- The content of a string whose opening quote was read, and what stands after its closing
quote. A string that is not closed cannot be read. -/
def readBody (escapes : Bool) : List Char → Option (List Char × List Char)
  | [] => none
  | [c] => if c = '\'' then some ([], []) else none
  | c :: d :: rest =>
    if c = '\'' then
      if d = '\'' then (readBody escapes rest).map (push ['\'']) else some ([], d :: rest)
    else if escapes = true ∧ c = '\\' then (readBody escapes rest).map (push (escaped d))
    else (readBody escapes (d :: rest)).map (push [c])

/-- The content of the string at the front of a text, and what stands after it. -/
def read? (escapes : Bool) : List Char → Option (List Char × List Char)
  | [] => none
  | c :: cs => if c = '\'' then readBody escapes cs else none

section

variable (escapes : Bool)

/-- A quote that is not doubled closes a string. -/
theorem readBody_close {rest : List Char} (h : rest.head? ≠ some '\'') :
    readBody escapes ('\'' :: rest) = some ([], rest) := by
  cases rest with
  | nil => rfl
  | cons d rest =>
    have hd : d ≠ '\'' := by
      rintro rfl
      exact h rfl
    rw [readBody, if_pos rfl, if_neg hd]

theorem readBody_pair (rest : List Char) :
    readBody escapes ('\'' :: '\'' :: rest) = (readBody escapes rest).map (push ['\'']) := by
  rw [readBody, if_pos rfl, if_pos rfl]

theorem readBody_escape (d : Char) (rest : List Char) :
    readBody true ('\\' :: d :: rest) = (readBody true rest).map (push (escaped d)) := by
  rw [readBody, if_neg (by decide), if_pos ⟨rfl, rfl⟩]

theorem readBody_plain {c : Char} (hquote : c ≠ '\'') (hescape : ¬ (escapes = true ∧ c = '\\'))
    (rest : List Char) :
    readBody escapes (c :: rest) = (readBody escapes rest).map (push [c]) := by
  cases rest with
  | nil => exact if_neg hquote
  | cons d rest => rw [readBody, if_neg hquote, if_neg hescape]

end

/-! ## Ordinary backslashes -/

/-- A text whose quotes were doubled is read as it was. -/
theorem readBody_doubled (s : List Char) {rest : List Char} (h : rest.head? ≠ some '\'') :
    readBody false (Quoted.doubled '\'' s ++ '\'' :: rest) = some (s, rest) := by
  induction s with
  | nil => exact readBody_close false h
  | cons c s ih =>
    by_cases hc : c = '\''
    · simp only [Quoted.doubled, hc, if_true, List.cons_append, readBody_pair, ih]
      rfl
    · simp only [Quoted.doubled, if_neg hc, List.cons_append]
      rw [readBody_plain false hc (by simp), ih]
      rfl

/-! ## Backslashes that escape -/

/-- Every backslash stands before a sign of patterns, with which it is kept. -/
def Inert : List Char → Prop
  | [] => True
  | [c] => c ≠ '\\'
  | c :: d :: rest => (c = '\\' → d = '%' ∨ d = '_') ∧ Inert (d :: rest)

theorem inert_cons {c : Char} (hc : c ≠ '\\') {s : List Char} (h : Inert s) : Inert (c :: s) := by
  cases s with
  | nil => exact hc
  | cons d rest => exact ⟨fun hslash => absurd hslash hc, h⟩

theorem Inert.tail {c : Char} {s : List Char} (h : Inert (c :: s)) : Inert s := by
  cases s with
  | nil => trivial
  | cons d rest => exact h.2

/-- An escape holds two characters only where it keeps its backslash. -/
theorem length_escaped (d : Char) :
    (escaped d).length ≤ 2 ∧ ((escaped d).length = 2 → d = '%' ∨ d = '_') := by
  unfold escaped
  split <;> simp

theorem escaped_sign {d : Char} (h : d = '%' ∨ d = '_') : escaped d = ['\\', d] := by
  rcases h with rfl | rfl <;> rfl

/-- Backslashes that are kept do not disturb the reading. -/
theorem readBody_inert {rest : List Char} (hrest : rest.head? ≠ some '\'') :
    ∀ {s : List Char}, Inert s →
      readBody true (Quoted.doubled '\'' s ++ '\'' :: rest) = some (s, rest)
  | [], _ => readBody_close true hrest
  | c :: s, h => by
    have ih := readBody_inert hrest h.tail
    by_cases hc : c = '\''
    · simp only [Quoted.doubled, hc, if_true, List.cons_append, readBody_pair, ih]
      rfl
    by_cases hslash : c = '\\'
    · -- the sign after the backslash is read together with it
      cases s with
      | nil => exact absurd hslash h
      | cons d s =>
        have hsign := h.1 hslash
        have hd : d ≠ '\'' := by
          rcases hsign with rfl | rfl <;> decide
        have ih' := readBody_inert hrest h.tail.tail
        simp only [Quoted.doubled, if_neg hc, if_neg hd, List.cons_append]
        rw [hslash, readBody_escape, ih', escaped_sign hsign]
        rfl
    · have hplain : ¬ (true = true ∧ c = '\\') := fun h => hslash h.2
      simp only [Quoted.doubled, if_neg hc, List.cons_append]
      rw [readBody_plain true hc hplain, ih]
      rfl
termination_by s => s.length

/-- An escape takes the first of two quotes, and the second one is left alone: the string ends
too early, or it does not end. -/
theorem readBody_out_of_step (s t : List Char) :
    readBody true ('\'' :: (Quoted.doubled '\'' s ++ ['\''])) ≠ some (t, []) := by
  induction s generalizing t with
  | nil =>
    rw [show Quoted.doubled '\'' [] ++ ['\''] = ['\''] from rfl, readBody_pair]
    intro h
    cases h
  | cons c s ih =>
    by_cases hc : c = '\''
    · -- the pair is read as one quote, and the second quote of `c` is left alone in turn
      simp only [Quoted.doubled, hc, if_true, List.cons_append, readBody_pair]
      intro h
      obtain ⟨⟨content, after⟩, hread, hpush⟩ := Option.map_eq_some_iff.mp h
      have hafter : after = [] := (Prod.mk.inj hpush).2
      rw [hafter] at hread
      exact ih content hread
    · simp only [Quoted.doubled, if_neg hc, List.cons_append]
      rw [readBody_close true (by simpa using hc)]
      intro h
      cases h

/-- What was read after some characters that were put before it. -/
theorem map_push_eq_some {x : Option (List Char × List Char)} {front t : List Char}
    (h : x.map (push front) = some (t, [])) : ∃ t', x = some (t', []) ∧ t = front ++ t' := by
  obtain ⟨⟨t', after⟩, hx, hpush⟩ := Option.map_eq_some_iff.mp h
  obtain ⟨rfl, rfl⟩ := Prod.mk.inj hpush
  exact ⟨t', hx, rfl⟩

/-- A string that ends with its closing quote holds no more characters than were quoted, and as
many only if every backslash is kept. -/
theorem inert_of_readBody : ∀ {s t : List Char},
    readBody true (Quoted.doubled '\'' s ++ ['\'']) = some (t, []) →
      t.length ≤ s.length ∧ (t.length = s.length → Inert s)
  | [], t, h => by
    cases h
    exact ⟨Nat.le_refl 0, fun _ => trivial⟩
  | c :: s, t, h => by
    by_cases hc : c = '\''
    · simp only [Quoted.doubled, hc, if_true, List.cons_append, readBody_pair] at h
      obtain ⟨t', hread, rfl⟩ := map_push_eq_some h
      obtain ⟨hle, hinert⟩ := inert_of_readBody hread
      simp only [List.length_cons, List.length_append, List.length_nil]
      refine ⟨by omega, fun heq => inert_cons ?_ (hinert (by omega))⟩
      rintro rfl
      exact absurd hc (by decide)
    by_cases hslash : c = '\\'
    · cases s with
      | nil =>
        simp only [Quoted.doubled, if_neg hc, List.cons_append, List.nil_append] at h
        rw [hslash, readBody_escape] at h
        cases h
      | cons d s =>
        by_cases hd : d = '\''
        · -- the escape takes one quote of the pair: from there on nothing is read as it was
          simp only [Quoted.doubled, if_neg hc, hd, if_true, List.cons_append] at h
          rw [hslash, readBody_escape] at h
          obtain ⟨t', hread, _⟩ := map_push_eq_some h
          exact absurd hread (readBody_out_of_step s t')
        · simp only [Quoted.doubled, if_neg hc, if_neg hd, List.cons_append] at h
          rw [hslash, readBody_escape] at h
          obtain ⟨t', hread, rfl⟩ := map_push_eq_some h
          obtain ⟨hle, hinert⟩ := inert_of_readBody hread
          -- two characters were read: none is lost only if the escape stands for two as well
          obtain ⟨htwo, hsign⟩ := length_escaped d
          simp only [List.length_cons, List.length_append]
          refine ⟨by omega, fun heq => ?_⟩
          have hd' := hsign (by omega)
          refine ⟨fun _ => hd', inert_cons ?_ (hinert (by omega))⟩
          rcases hd' with rfl | rfl <;> decide
    · have hplain : ¬ (true = true ∧ c = '\\') := fun h => hslash h.2
      simp only [Quoted.doubled, if_neg hc, List.cons_append] at h
      rw [readBody_plain true hc hplain] at h
      obtain ⟨t', hread, rfl⟩ := map_push_eq_some h
      obtain ⟨hle, hinert⟩ := inert_of_readBody hread
      simp only [List.length_cons, List.length_append, List.length_nil]
      exact ⟨by omega, fun heq => inert_cons hslash (hinert (by omega))⟩
termination_by s => s.length

/-- Where backslashes escape, a text whose quotes were doubled is read as it was exactly if every
backslash of it is kept. -/
theorem readBody_eq_iff_inert (s : List Char) :
    readBody true (Quoted.doubled '\'' s ++ ['\'']) = some (s, []) ↔ Inert s := by
  constructor
  · intro h
    exact (inert_of_readBody h).2 rfl
  · exact readBody_inert (by simp)

end StringLiteral

/-! ## Temporal literals -/

/-- The products that read a backslash as an escape. -/
def DialectKind.backslashEscapes : DialectKind → Bool
  | .mySql => true
  | _ => false

/-- A text is one string between the opening and the closing of a temporal literal, for the
database that reads it. -/
def DialectKind.Encloses (k : DialectKind) (kind : TemporalKind) (s text : String) : Prop :=
  ∃ rest, text.toList = (k.temporalOpening kind).toList ++ rest ∧
    StringLiteral.read? k.backslashEscapes rest = some (s.toList, k.temporalClosing.toList)

/-- What a database reads behind the opening of a temporal literal. -/
theorem DialectKind.encloses_iff (k : DialectKind) (kind : TemporalKind) (s : String) :
    k.Encloses kind s (k.vendor.temporalText kind s) ↔
      StringLiteral.readBody k.backslashEscapes
        (Text.Quoted.doubled '\'' s.toList ++ '\'' :: k.temporalClosing.toList) =
          some (s.toList, k.temporalClosing.toList) := by
  have htext : (k.vendor.temporalText kind s).toList = (k.temporalOpening kind).toList ++
      '\'' :: (Text.Quoted.doubled '\'' s.toList ++ '\'' :: k.temporalClosing.toList) := by
    rw [k.temporalText_eq, String.toList_append, String.toList_append, LiteralText.toList_quote]
    simp
  unfold Encloses
  rw [htext]
  constructor
  · rintro ⟨rest, hrest, hread⟩
    rw [← List.append_cancel_left hrest] at hread
    exact hread
  · intro hread
    exact ⟨_, rfl, hread⟩

/-- No product writes a quote after the string of a temporal literal. -/
theorem DialectKind.head?_temporalClosing (k : DialectKind) :
    k.temporalClosing.toList.head? ≠ some '\'' := by
  cases k <;> decide

namespace Codec

/-- Any text can be written as a temporal literal. Where a backslash is an ordinary character the
text is the content of the one string in it. For MySQL it is so exactly if every backslash of
the text stands before a sign of patterns: backslashes are not doubled. -/
theorem tagged_text_enclosed_iff (c : Codec) (kind : TemporalKind) (s : String) :
    ∃ text, c.serialize (.string s) (some kind) = pure text ∧
      (c.dialect.kind.Encloses kind s text ↔
        (c.dialect.kind.backslashEscapes = true → StringLiteral.Inert s.toList)) := by
  obtain ⟨⟨k, known⟩, extra⟩ := c
  refine ⟨k.vendor.temporalText kind s, rfl, ?_⟩
  show k.Encloses kind s _ ↔ (k.backslashEscapes = true → _)
  rw [k.encloses_iff]
  cases hescapes : k.backslashEscapes with
  | false =>
    have hread := StringLiteral.readBody_doubled s.toList k.head?_temporalClosing
    exact iff_of_true hread (by simp)
  | true =>
    have hclosing : k.temporalClosing.toList = [] := by
      cases k <;> first | rfl | cases hescapes
    rw [hclosing, StringLiteral.readBody_eq_iff_inert]
    exact ⟨fun h _ => h, fun h => h rfl⟩

/-- The quote that should close the literal is escaped by a backslash of the text. -/
theorem backslash_is_not_enclosed :
    let c : Codec := ⟨Dialect.new .mySql, []⟩
    c.serialize (.string "\\") (some .date) = pure "DATE '\\'" ∧
      ¬ DialectKind.mySql.Encloses .date "\\" "DATE '\\'" := by
  intro c
  refine ⟨rfl, ?_⟩
  intro h
  have hread := (DialectKind.mySql.encloses_iff .date "\\").mp h
  cases hread

end Codec

end SqlCompose
