import SqlCompose.Proofs.Marks
import SqlCompose.Proofs.Numerals
import SqlCompose.Text.Letter

/-!
# SqlCompose.Proofs.Lexemes -- the words and marks of a finished text

A word goes on as long as there are characters that words are made of. Whatever stands
between single quotes is part of a literal. Any other character is a mark. A text can be
taken apart piece by piece, unless a literal is open where it is cut, or a word goes on.
-/

namespace SqlCompose

open Text

/-- A piece of a finished text. -/
inductive Lexeme where
  | word (cs : List Char)
  | mark (c : Char)
  /-- A character of a literal; its quotes belong to it. -/
  | literal (c : Char)
  deriving DecidableEq, Repr

namespace Lexeme

/-- The characters of a lexeme. -/
def chars : Lexeme → List Char
  | .word cs => cs
  | .mark c | .literal c => [c]

/-- A lexeme that only keeps others apart. -/
def isBlank : Lexeme → Bool
  | .mark c => c.isWhitespace
  | _ => false

/-- A lexeme is a word that is given in small letters. The case of ASCII letters does not count. -/
def isWord (keyword : String) : Lexeme → Bool
  | .word cs => cs.map Char.toLower == keyword.toList
  | _ => false

/-- Lexemes with one more character in front that words are made of. -/
def lead (c : Char) : List Lexeme → List Lexeme
  | .word cs :: rest => .word (c :: cs) :: rest
  | rest => .word [c] :: rest

/-- The lexemes of a text. `quoted` tells whether it starts inside a literal. -/
def scan : Bool → List Char → List Lexeme
  | _, [] => []
  | quoted, c :: rest =>
    let others := scan (if c = '\'' then !quoted else quoted) rest
    if quoted || c == '\'' then .literal c :: others
    else if isWordChar c then lead c others
    else .mark c :: others

/-! ## Reading piece by piece -/

theorem flatMap_lead (c : Char) (ls : List Lexeme) :
    (lead c ls).flatMap chars = c :: ls.flatMap chars := by
  cases ls with
  | nil => rfl
  | cons l rest => cases l <;> rfl

theorem literal_mem_lead {c d : Char} {ls : List Lexeme} (h : .literal d ∈ ls) :
    .literal d ∈ lead c ls := by
  cases ls with
  | nil => cases h
  | cons l rest =>
    cases l with
    | word cs => simpa [lead] using h
    | mark c' => exact List.mem_cons_of_mem _ h
    | literal c' => exact List.mem_cons_of_mem _ h

/-- No character is lost. -/
theorem flatMap_scan (quoted : Bool) (cs : List Char) : (scan quoted cs).flatMap chars = cs := by
  induction cs generalizing quoted with
  | nil => rfl
  | cons c rest ih =>
    rw [scan]
    split
    · rw [List.flatMap_cons, ih]
      rfl
    · split
      · rw [flatMap_lead, ih]
      · rw [List.flatMap_cons, ih]
        rfl

/-- A row of lexemes does not start with a word. -/
def StartsApart (ls : List Lexeme) : Prop := ∀ l ∈ ls.head?, ∀ cs, l ≠ .word cs

theorem lead_append (c : Char) {ls others : List Lexeme} (h : ls = [] → StartsApart others) :
    lead c (ls ++ others) = lead c ls ++ others := by
  cases ls with
  | nil =>
    cases others with
    | nil => rfl
    | cons l rest =>
      cases l with
      | word cs => exact absurd rfl (h rfl _ rfl cs)
      | mark c' => rfl
      | literal c' => rfl
  | cons l rest => cases l <;> rfl

theorem scan_eq_nil {quoted : Bool} {cs : List Char} (h : scan quoted cs = []) : cs = [] := by
  rw [← flatMap_scan quoted cs, h]
  rfl

theorem startsApart_scan {cs : List Char} (h : Stops isWordChar cs) :
    StartsApart (scan false cs) := by
  cases cs with
  | nil => exact fun l hl => by cases hl
  | cons c rest =>
    have hc := stops_cons_iff.mp h
    intro l hl cs heq
    subst heq
    unfold scan at hl
    by_cases hquote : c = '\''
    · simp [hquote] at hl
    · simp [hquote, hc] at hl

/-- A text does not end with a character that words are made of. -/
def EndsApart (u : List Char) : Prop := ∀ c ∈ u.getLast?, isWordChar c = false

instance (u : List Char) : Decidable (EndsApart u) :=
  decidable_of_iff (u.getLast?.all (fun c => !isWordChar c) = true) (by
    unfold EndsApart
    cases u.getLast? <;> simp)

/-- No word goes on from one text into another. -/
def Apart (u v : List Char) : Prop := EndsApart u ∨ Stops isWordChar v

/-- A text leaves no literal open. -/
def Closed (u : List Char) : Prop := quotedAfter false u = false

instance (u : List Char) : Decidable (Closed u) :=
  inferInstanceAs (Decidable (quotedAfter false u = false))

theorem Closed.append {u v : List Char} (hu : Closed u) (hv : Closed v) : Closed (u ++ v) := by
  unfold Closed at *
  rw [quotedAfter_append, hu, hv]

theorem scan_append {quoted : Bool} {u v : List Char} (hclosed : quotedAfter quoted u = false)
    (hapart : Apart u v) : scan quoted (u ++ v) = scan quoted u ++ scan false v := by
  induction u generalizing quoted with
  | nil =>
    have hquoted : quoted = false := hclosed
    rw [hquoted]
    rfl
  | cons c rest ih =>
    have hrest : Apart rest v := by
      cases rest with
      | nil => exact .inl fun c hc => by cases hc
      | cons d rest => exact hapart
    rw [List.cons_append, scan, scan, ih hclosed hrest]
    split
    · rfl
    · rename_i hmark
      split
      · rename_i hword
        apply lead_append
        intro hnil
        -- the text ends with this character, so the next one starts no word
        have hend := scan_eq_nil hnil
        subst hend
        rcases hapart with hlast | hstops
        · exact absurd hword (Bool.eq_false_iff.mp (hlast c rfl))
        · exact startsApart_scan hstops
      · rfl

theorem scan_append_of_closed {u v : List Char} (hclosed : Closed u) (hapart : Apart u v) :
    scan false (u ++ v) = scan false u ++ scan false v := scan_append hclosed hapart

/-- A mark stands for itself. -/
theorem scan_mark {c : Char} (hquote : c ≠ '\'') (hword : isWordChar c = false) (cs : List Char) :
    scan false (c :: cs) = .mark c :: scan false cs := by
  simp [scan, hquote, hword]

/-- A row of characters that words are made of is one word. -/
theorem scan_word {cs : List Char} (h : ∀ c ∈ cs, isWordChar c = true) (hne : cs ≠ []) :
    scan false cs = [.word cs] := by
  have hquote : ∀ c ∈ cs, c ≠ '\'' := by
    rintro c hc rfl
    exact absurd (h _ hc) (by decide)
  induction cs with
  | nil => exact absurd rfl hne
  | cons c rest ih =>
    have hc := h c List.mem_cons_self
    have hcquote := hquote c List.mem_cons_self
    have hhead : scan false (c :: rest) = lead c (scan false rest) := by
      simp [scan, hcquote, hc]
    rw [hhead]
    cases rest with
    | nil => rfl
    | cons d rest =>
      rw [ih (fun x hx => h x (List.mem_cons_of_mem c hx)) (List.cons_ne_nil d rest)
        fun x hx => hquote x (List.mem_cons_of_mem c hx)]
      rfl

/-- A text without literals leaves none open. -/
theorem closed_of_scan {cs : List Char} (h : ∀ c, .literal c ∉ scan false cs) : Closed cs := by
  have hquote : '\'' ∉ cs := by
    induction cs with
    | nil => exact List.not_mem_nil
    | cons c rest ih =>
      have hc : c ≠ '\'' := by
        rintro rfl
        exact h '\'' List.mem_cons_self
      have hrest : ∀ d, .literal d ∉ scan false rest := by
        intro d hd
        apply h d
        by_cases hword : isWordChar c = true
        · simpa [scan, hc, hword] using literal_mem_lead hd
        · simpa [scan, hc, hword] using hd
      exact fun hmem => (List.mem_cons.mp hmem).elim (fun heq => hc heq.symm) (ih hrest)
  apply quotedAfter_eq_self.mpr
  rw [List.count_eq_zero_of_not_mem hquote]
  exact Even.zero

end Lexeme

end SqlCompose
