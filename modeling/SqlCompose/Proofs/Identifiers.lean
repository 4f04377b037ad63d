import SqlCompose.Proofs.Conditions
import SqlCompose.Proofs.Emits
import SqlCompose.Scope.Placeholder

/-!
# SqlCompose.Proofs.Identifiers -- names and placeholders as parts of predicates

A plain name is made of words with dots between or behind them, none of which is a word
that conditions are made with. A predicate can start with one, and takes in names and
placeholders wherever they stand in it.
-/

namespace SqlCompose

open Lexeme

/-! ## Names -/

/-- A lexeme that names can have. -/
def Lexeme.isNamePart (l : Lexeme) : Bool :=
  match l with
  | .word _ => l.symbol? == none && !l.isWord "between"
  | .mark c => c == '.'
  | .literal _ => false

/-- A text starts with a word. -/
def startsWord (cs : List Char) : Bool :=
  match scan false cs with
  | .word _ :: _ => true
  | _ => false

/-- A plain name: words that no condition is made with, and dots. -/
def isName (s : String) : Bool := startsWord s.toList && (scan false s.toList).all isNamePart

theorem Lexeme.isQuiet_of_isNamePart {l : Lexeme} (h : l.isNamePart = true) : l.isQuiet = true := by
  cases l with
  | word cs =>
    obtain ⟨hsymbol, hword⟩ := Bool.and_eq_true_iff.mp h
    have hnone : (Lexeme.word cs).symbol? = none := eq_of_beq hsymbol
    unfold isQuiet
    rw [hword, hnone]
    rfl
  | mark c =>
    have hc : c = '.' := eq_of_beq h
    subst hc
    decide
  | literal c => cases h

theorem Lexeme.isBlank_of_isNamePart {l : Lexeme} (h : l.isNamePart = true) :
    l.isBlank = false := by
  cases l with
  | word cs => rfl
  | mark c =>
    have hc : c = '.' := eq_of_beq h
    subst hc
    decide
  | literal c => cases h

section Names

variable {s u v : String}

theorem isNamePart_of_isName (h : isName s = true) :
    ∀ l ∈ scan false s.toList, l.isNamePart = true :=
  List.all_eq_true.mp (Bool.and_eq_true_iff.mp h).2

theorem scan_of_isName (h : isName s = true) :
    ∃ w ls, scan false s.toList = .word w :: ls := by
  have hstarts := (Bool.and_eq_true_iff.mp h).1
  unfold startsWord at hstarts
  split at hstarts
  · rename_i w ls hscan
    exact ⟨w, ls, hscan⟩
  · cases hstarts

theorem quiet_of_isName (h : isName s = true) : Quiet s.toList where
  closed := by
    apply closed_of_scan
    intro c hc
    cases isNamePart_of_isName h _ hc
  quiet := fun l hl => isQuiet_of_isNamePart (isNamePart_of_isName h l hl)

theorem starts_of_isName (h : isName s = true) : Starts s.toList where
  closed := (quiet_of_isName h).closed
  first := by
    obtain ⟨w, ls, hscan⟩ := scan_of_isName h
    have hparts := isNamePart_of_isName h
    rw [hscan] at hparts
    obtain ⟨hfirst, hrest⟩ := List.forall_mem_cons.mp hparts
    refine ⟨w, ls, hscan, eq_of_beq (Bool.and_eq_true_iff.mp hfirst).1, spans_quiet ?_⟩
    exact fun l hl => isQuiet_of_isNamePart (hrest l hl)

theorem endsSolid_of_isName (h : isName s = true) : EndsSolid s.toList := by
  obtain ⟨w, ls, hscan⟩ := scan_of_isName h
  have hne : scan false s.toList ≠ [] := by
    rw [hscan]
    exact List.cons_ne_nil _ _
  refine ⟨_, List.getLast?_eq_some_getLast hne, ?_⟩
  exact isBlank_of_isNamePart (isNamePart_of_isName h _ (List.getLast_mem hne))

/-- Names with a dot between them are a name. -/
theorem isName_dotted (hu : isName u = true) (hv : isName v = true) :
    isName (u ++ "." ++ v) = true := by
  have hscan : scan false (u ++ "." ++ v).toList =
      scan false u.toList ++ .mark '.' :: scan false v.toList := by
    have htext : (u ++ "." ++ v).toList = u.toList ++ '.' :: v.toList := by simp
    rw [htext, scan_append_of_closed (quiet_of_isName hu).closed
      (.inr (Text.stops_cons (by decide) _)), scan_mark (by decide) (by decide)]
  obtain ⟨w, ls, hfirst⟩ := scan_of_isName hu
  unfold isName startsWord
  rw [Bool.and_eq_true_iff, hscan]
  constructor
  · rw [hfirst]
    rfl
  · rw [List.all_eq_true]
    refine List.forall_mem_append.mpr ⟨isNamePart_of_isName hu, ?_⟩
    exact List.forall_mem_cons.mpr ⟨by decide, isNamePart_of_isName hv⟩

/-- The numbers of all blanks. -/
def blankNumbers : List Nat :=
  [9, 10, 11, 12, 13, 0x20, 0x85, 0xa0, 0x1680, 0x2000, 0x2001, 0x2002, 0x2003, 0x2004, 0x2005,
   0x2006, 0x2007, 0x2008, 0x2009, 0x200a, 0x2028, 0x2029, 0x202f, 0x205f, 0x3000]

theorem mem_blankNumbers {c : Char} (h : Text.isBlank c = true) : c.toNat ∈ blankNumbers := by
  simp only [Text.isBlank, Bool.or_eq_true, Bool.and_eq_true, decide_eq_true_eq, beq_iff_eq] at h
  simp only [blankNumbers, List.mem_cons, List.not_mem_nil, or_false]
  omega

/-- No word is made of blanks. -/
theorem isBlank_of_isWordChar {c : Char} (h : Text.isWordChar c = true) :
    Text.isBlank c = false := by
  apply Bool.eq_false_iff.mpr
  intro hblank
  have hall : ∀ n ∈ blankNumbers, Text.isWordChar (Char.ofNat n) = false := by decide +kernel
  have hword := hall c.toNat (mem_blankNumbers hblank)
  rw [Char.ofNat_toNat, h] at hword
  cases hword

/-- A text that is read as starting with a word starts with a character of it. -/
theorem exists_of_scan_word {cs w : List Char} {ls : List Lexeme}
    (h : scan false cs = .word w :: ls) : ∃ c ∈ cs, Text.isWordChar c = true := by
  cases cs with
  | nil => cases h
  | cons c rest =>
    refine ⟨c, List.mem_cons_self, ?_⟩
    by_cases hquote : c = '\''
    · simp [scan, hquote] at h
    · by_cases hword : Text.isWordChar c = true
      · exact hword
      · simp [scan, hquote, hword] at h

theorem not_allBlank_of_isName (h : isName s = true) : Text.allBlank s = false := by
  obtain ⟨w, ls, hscan⟩ := scan_of_isName h
  obtain ⟨c, hc, hword⟩ := exists_of_scan_word hscan
  exact List.all_eq_false.mpr ⟨c, hc, Bool.eq_false_iff.mp (isBlank_of_isWordChar hword)⟩

end Names

/-! ## Operands -/

/-- A text that a predicate takes in wherever it stands, and can end with. -/
structure IsOperand (cs : List Char) : Prop where
  quiet : Quiet cs
  solid : EndsSolid cs
  visible : cs.all Text.isBlank = false

theorem isOperand_of_isName {s : String} (h : isName s = true) : IsOperand s.toList :=
  ⟨quiet_of_isName h, endsSolid_of_isName h, not_allBlank_of_isName h⟩

/-- A digit is a character of words, but of none that conditions are made with. -/
theorem digit_of_isDecimalDigit {c : Char} (h : Text.isDecimalDigit c = true) :
    Text.isWordChar c = true ∧ c.toLower ∉ "notandorbetween".toList := by
  have hascii : ∀ n < 128, Text.isDecimalDigit (Char.ofNat n) = true →
      Text.isWordChar (Char.ofNat n) = true ∧
        (Char.ofNat n).toLower ∉ "notandorbetween".toList := by decide
  have hsmall : c.toNat < 128 := by
    simp only [Text.isDecimalDigit, Bool.and_eq_true, decide_eq_true_eq] at h
    omega
  have hc := hascii c.toNat hsmall
  rw [Char.ofNat_toNat] at hc
  exact hc h

/-- A row of digits is a word that no condition is made with. -/
theorem quiet_digits {ds : List Char} (h : ∀ c ∈ ds, Text.isDecimalDigit c = true) (hne : ds ≠ []) :
    Quiet ds := by
  have hscan : scan false ds = [.word ds] :=
    scan_word (fun c hc => (digit_of_isDecimalDigit (h c hc)).1) hne
  have hword : ∀ keyword : String, keyword.toList.all "notandorbetween".toList.contains = true →
      (Lexeme.word ds).isWord keyword = false := by
    intro keyword hkeyword
    obtain ⟨c, rest, rfl⟩ := List.exists_cons_of_ne_nil hne
    apply Bool.eq_false_iff.mpr
    intro heq
    have heq : (c :: rest).map Char.toLower = keyword.toList := eq_of_beq heq
    apply (digit_of_isDecimalDigit (h c List.mem_cons_self)).2
    apply List.contains_iff_mem.mp
    apply List.all_eq_true.mp hkeyword
    rw [← heq]
    exact List.mem_cons_self
  refine ⟨closed_of_scan (by simp [hscan]), ?_⟩
  rw [hscan]
  refine List.forall_mem_cons.mpr ⟨?_, fun l hl => by cases hl⟩
  simp [isQuiet, symbol?, hword "between" (by decide), hword "not" (by decide),
    hword "and" (by decide), hword "or" (by decide)]

theorem isOperand_placeholder (n : Nat) : IsOperand (Placeholder.name n).toList := by
  have hdigits : Quiet (Text.zeroPadded 4 n) :=
    quiet_digits (fun c hc => Text.isDecimalDigit_of_mem_zeroPadded hc) (Text.zeroPadded_ne_nil 4 n)
  have htext : (Placeholder.name n).toList = [':', '['] ++ (Text.zeroPadded 4 n ++ [']']) := by
    rw [Placeholder.name_toList]
    rfl
  have hopen : Apart [':', '['] (Text.zeroPadded 4 n ++ [']']) := .inl (by decide)
  have hclose : Apart (Text.zeroPadded 4 n) [']'] := .inr (by decide)
  have hquiet : Quiet (Text.zeroPadded 4 n ++ [']']) := hdigits.append (by decide) hclose
  have hsolid : EndsSolid [']'] := ⟨.mark ']', by decide, by decide⟩
  have hstart : Quiet [':', '['] := by decide
  rw [htext]
  refine ⟨hstart.append hquiet hopen, ?_, rfl⟩
  exact .append hstart.closed (.append hdigits.closed hsolid hclose) hopen

end SqlCompose
