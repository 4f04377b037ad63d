import Mathlib.Algebra.BigOperators.Group.List.Basic
import Mathlib.Algebra.GroupWithZero.Nat
import SqlCompose.Proofs.Layout

/-!
# SqlCompose.Proofs.Entries -- the entries of a list in a text

Entries of a list end at commas outside of parentheses and literals. A list of texts that
have none there has these texts as its entries. A text that is a list itself counts for as
many entries as it has.
-/

namespace SqlCompose

open Lexeme Text

variable {s t : Spot} {w : List Char} {a : String} {texts : List String} {n : Nat}

/-! ## Splitting at commas -/

/-- The pieces of a text between commas outside of parentheses and literals. -/
def splitOuter (quoted : Bool) (depth : Nat) : List Char → List (List Char)
  | [] => [[]]
  | c :: rest =>
    if !quoted && depth == 0 && c == ',' then [] :: splitOuter false 0 rest
    else
      (splitOuter (if c = '\'' then !quoted else quoted)
        (if quoted then depth
          else if c = '(' then depth + 1 else if c = ')' then depth - 1 else depth)
        rest).modifyHead (c :: ·)

/-- A text without the blank that it may start with. -/
def afterBlank : List Char → List Char
  | ' ' :: rest => rest
  | cs => cs

/-- The entries of a list. A blank behind a comma belongs to no entry. -/
def entries (list : String) : List String :=
  match splitOuter false 0 list.toList with
  | [] => []
  | first :: others => (first :: others.map afterBlank).map String.ofList

theorem modifyHead_nil_append (ls : List (List Char)) : ls.modifyHead ([] ++ ·) = ls := by
  cases ls <;> rfl

/-- A comma outside of parentheses breaks the rule about them. -/
theorem not_walk_comma {inWord : Bool} (hdepth : s.depth = 0) :
    walk .uncut s (pending inWord false (',' :: w)) = none := by
  have hcomma : pending inWord false (',' :: w) = .mark ',' :: scan false w := by
    cases inWord <;> rfl
  have hstep : step .uncut s (.mark ',') = none := by simp [step, hdepth, Rule.next]
  rw [hcomma, walk_cons, hstep, Option.bind_none]

/-- A text without commas outside of its parentheses is part of one piece. -/
theorem splitOuter_append (inWord : Bool) {quoted : Bool} {v : List Char}
    (hclosed : quotedAfter quoted w = false)
    (h : walk .uncut s (pending inWord quoted w) = some t) :
    splitOuter quoted s.depth (w ++ v) = (splitOuter false t.depth v).modifyHead (w ++ ·) := by
  induction w generalizing s quoted inWord with
  | nil =>
    obtain rfl : quoted = false := hclosed
    obtain rfl := eq_of_walk_pending_nil h
    exact (modifyHead_nil_append _).symm
  | cons c rest ih =>
    have hcut : (!quoted && s.depth == 0 && c == ',') = false := by
      apply Bool.eq_false_iff.mpr
      intro hcut
      simp only [Bool.and_eq_true, Bool.not_eq_true', beq_iff_eq] at hcut
      obtain ⟨⟨rfl, hdepth⟩, rfl⟩ := hcut
      exact absurd (h.symm.trans (not_walk_comma hdepth)) (by simp)
    obtain ⟨next, hdepth, hrest⟩ := walk_pending_cons h
    rw [List.cons_append, splitOuter, hcut, if_neg Bool.false_ne_true, ← hdepth, ih _ hclosed hrest,
      List.modifyHead_modifyHead]
    rfl

/-- A text that closes what it opens and has no comma outside ends at the next comma. -/
theorem splitOuter_of_conforms (h : Conforms .uncut w) (v : List Char) :
    splitOuter false 0 (w ++ v) = (splitOuter false 0 v).modifyHead (w ++ ·) :=
  splitOuter_append (s := .at 0) false h.closed h.walks

theorem splitOuter_intercalate {first : String} {others : List String}
    (h : ∀ text ∈ first :: others, Conforms .uncut text.toList) :
    splitOuter false 0 (", ".intercalate (first :: others)).toList =
      first.toList :: others.map fun text => ' ' :: text.toList := by
  induction others generalizing first with
  | nil =>
    have hone := splitOuter_of_conforms (h first List.mem_cons_self) []
    simpa [splitOuter] using hone
  | cons next rest ih =>
    obtain ⟨hfirst, hothers⟩ := List.forall_mem_cons.mp h
    have hblank : Conforms .uncut [' '] := by decide
    have hcomma : ", ".toList = [',', ' '] := by decide
    rw [String.intercalate_cons_cons, String.toList_append, String.toList_append, List.append_assoc,
      splitOuter_of_conforms hfirst, hcomma, List.cons_append, splitOuter]
    simp only [Bool.not_false, beq_self_eq_true, Bool.and_self, if_true, List.modifyHead_cons,
      List.append_nil]
    rw [splitOuter_of_conforms hblank, ih hothers]
    rfl

/-- A list of texts without such commas has these texts as its entries. -/
theorem entries_intercalate (hne : texts ≠ []) (h : ∀ text ∈ texts, Conforms .uncut text.toList) :
    entries (", ".intercalate texts) = texts := by
  cases texts with
  | nil => exact absurd rfl hne
  | cons first others =>
    rw [entries, splitOuter_intercalate h]
    simp [afterBlank, Function.comp_def]

example : entries "a, f(b, c), 'd, e'" = ["a", "f(b, c)", "'d, e'"] := by decide

/-! ## Rows of texts -/

/-- A row of as many texts of a kind, with commas between them. -/
inductive Row (P : String → Prop) : Nat → String → Prop
  | one {a : String} : P a → Row P 1 a
  | cons {a b : String} {n : Nat} : P a → Row P n b → Row P (n + 1) (a ++ ", " ++ b)

namespace Row

variable {P : String → Prop}

theorem pos (h : Row P n a) : 1 ≤ n := by
  cases h <;> omega

/-- A text before a row goes to its first text. -/
theorem prefixed {b : String} (hP : ∀ a, P a → P (b ++ a)) (h : Row P n a) : Row P n (b ++ a) := by
  cases h with
  | one ha => exact .one (hP a ha)
  | @cons first others n hfirst hothers =>
    have hrow := Row.cons (hP first hfirst) hothers
    simpa only [String.append_assoc] using hrow

/-- A text behind a row goes to its last text. -/
theorem suffixed {b : String} (hP : ∀ a, P a → P (a ++ b)) (h : Row P n a) : Row P n (a ++ b) := by
  induction h with
  | one ha => exact .one (hP _ ha)
  | cons hfirst _ ih =>
    have hrow := Row.cons hfirst ih
    simpa only [String.append_assoc] using hrow

theorem exists_parts (h : Row P n a) : ∃ parts : List String, parts ≠ [] ∧ parts.length = n ∧
    a = ", ".intercalate parts ∧ ∀ part ∈ parts, P part := by
  induction h with
  | @one a ha => exact ⟨[a], by simp, rfl, by simp, by simpa using ha⟩
  | @cons a b n ha _ ih =>
    obtain ⟨parts, hne, rfl, rfl, hparts⟩ := ih
    obtain ⟨first, others, rfl⟩ := List.exists_cons_of_ne_nil hne
    exact ⟨a :: first :: others, by simp, rfl, String.intercalate_cons_cons.symm,
      List.forall_mem_cons.mpr ⟨ha, hparts⟩⟩

theorem of_texts (h : ∀ text ∈ texts, P text) (hne : texts ≠ []) :
    Row P texts.length (", ".intercalate texts) := by
  induction texts with
  | nil => exact absurd rfl hne
  | cons first rest ih =>
    obtain ⟨hfirst, hrest⟩ := List.forall_mem_cons.mp h
    cases rest with
    | nil => simpa using Row.one hfirst
    | cons next rest =>
      rw [String.intercalate_cons_cons]
      exact .cons hfirst (ih hrest (List.cons_ne_nil _ _))

end Row

/-! ## Rows in lists -/

theorem eq_one_of_sum {ns : List Nat} (hpos : ∀ n ∈ ns, 1 ≤ n) (hsum : ns.sum = ns.length) :
    ∀ n ∈ ns, n = 1 := by
  induction ns with
  | nil => nofun
  | cons n rest ih =>
    obtain ⟨hn, hrest⟩ := List.forall_mem_cons.mp hpos
    have hle : rest.length ≤ rest.sum := List.length_le_sum_of_one_le rest hrest
    rw [List.sum_cons, List.length_cons] at hsum
    exact List.forall_mem_cons.mpr ⟨by omega, ih hrest (by omega)⟩

theorem intercalate_append {parts others : List String} (hparts : parts ≠ []) (hothers : others ≠ []) :
    ", ".intercalate (parts ++ others) =
      ", ".intercalate parts ++ ", " ++ ", ".intercalate others := by
  induction parts with
  | nil => exact absurd rfl hparts
  | cons first rest ih =>
    cases rest with
    | nil =>
      obtain ⟨next, others, rfl⟩ := List.exists_cons_of_ne_nil hothers
      rw [List.singleton_append, String.intercalate_cons_cons]
      simp
    | cons next rest =>
      rw [List.cons_append, List.cons_append, String.intercalate_cons_cons, ← List.cons_append,
        ih (List.cons_ne_nil _ _), String.intercalate_cons_cons]
      simp only [String.append_assoc]

/-- A list of rows is a list of all of their texts. -/
theorem exists_parts_of_rows {P : String → Prop} {ns : List Nat} (h : List.Forall₂ (Row P) ns texts)
    (hne : texts ≠ []) :
    ∃ parts : List String, parts ≠ [] ∧ parts.length = ns.sum ∧
      ", ".intercalate texts = ", ".intercalate parts ∧ (∀ part ∈ parts, P part) ∧
        ((∀ n ∈ ns, n = 1) → parts = texts) := by
  induction h with
  | nil => exact absurd rfl hne
  | @cons n a ns others hrow hrest ih =>
    obtain ⟨first, hfirstne, rfl, rfl, hfirst⟩ := hrow.exists_parts
    have hone : first.length = 1 → first = [", ".intercalate first] := by
      intro hlength
      obtain ⟨part, rfl⟩ := List.length_eq_one_iff.mp hlength
      simp
    -- only a row with another one behind it ends at a separator
    cases hrest with
    | nil =>
      refine ⟨first, hfirstne, by simp, by simp, hfirst, fun hall => ?_⟩
      exact hone (hall _ List.mem_cons_self)
    | cons hnext hothers =>
      obtain ⟨rest, hrestne, hlength, htext, hconforms, heq⟩ := ih (List.cons_ne_nil _ _)
      refine ⟨first ++ rest, by simp [hfirstne], by simp [hlength], ?_,
        List.forall_mem_append.mpr ⟨hfirst, hconforms⟩, fun hall => ?_⟩
      · rw [String.intercalate_cons_cons, htext, intercalate_append hfirstne hrestne]
      · obtain ⟨hn, hns⟩ := List.forall_mem_cons.mp hall
        rw [heq hns, hone hn]
        simp

/-- The entries of a list of rows are those of all of its rows. -/
theorem length_entries {ns : List Nat}
    (h : List.Forall₂ (Row fun a => Conforms .uncut a.toList) ns texts) (hne : texts ≠ []) :
    (entries (", ".intercalate texts)).length = ns.sum := by
  obtain ⟨parts, hparts, hlength, htext, hconforms, _⟩ := exists_parts_of_rows h hne
  rw [htext, entries_intercalate hparts hconforms, hlength]

theorem pos_of_rows {P : String → Prop} {ns : List Nat} (h : List.Forall₂ (Row P) ns texts) :
    ∀ n ∈ ns, 1 ≤ n := by
  induction h with
  | nil => nofun
  | cons hrow _ ih => exact List.forall_mem_cons.mpr ⟨hrow.pos, ih⟩

/-- A list has the texts that it is made of as its entries if and only if none of them is a
longer row itself. -/
theorem entries_eq_iff {ns : List Nat}
    (h : List.Forall₂ (Row fun a => Conforms .uncut a.toList) ns texts) (hne : texts ≠ []) :
    entries (", ".intercalate texts) = texts ↔ ∀ n ∈ ns, n = 1 := by
  obtain ⟨parts, hparts, _, htext, hconforms, hall⟩ := exists_parts_of_rows h hne
  refine ⟨fun heq => ?_, fun hone => ?_⟩
  · have hsum : ns.sum = ns.length := by rw [← length_entries h hne, heq, h.length_eq]
    exact eq_one_of_sum (pos_of_rows h) hsum
  · rw [htext, entries_intercalate hparts hconforms, hall hone]

end SqlCompose
