import Mathlib.Data.List.Basic
import SqlCompose.Proofs.Lexemes
import SqlCompose.Text.Blank

/-!
# SqlCompose.Proofs.Nesting -- what a text has outside its parentheses

A text is walked from left to right with the number of parentheses that are open. A rule
says what may stand where none is. A text that conforms to a rule closes what it opens, and nothing
more. Inside of parentheses a text may have what it likes.
-/

namespace SqlCompose

open Text

namespace Lexeme

/-! ## Rules -/

/-- What a text may have outside its parentheses. -/
inductive Rule where
  | anything
  /-- No comma. -/
  | uncut
  /-- No blank right behind the word ORDER. -/
  | unordered
  deriving DecidableEq, Repr

-- What holds under every rule can be tried out.
instance {p : Rule → Prop} [DecidablePred p] : Decidable (∀ rule, p rule) :=
  decidable_of_iff (p .anything ∧ p .uncut ∧ p .unordered)
    ⟨fun ⟨hany, huncut, hunordered⟩ rule => by cases rule <;> assumption,
      fun h => ⟨h _, h _, h _⟩⟩

/-- A mark that is a blank. -/
def isGap : Lexeme → Bool
  | .mark c => Text.isBlank c
  | _ => false

/-- A lexeme outside of parentheses, after the word ORDER or not. It may stand there if there is
an answer, which tells whether it is that word. -/
def Rule.next : Rule → Bool → Lexeme → Option Bool
  | .anything, _, _ => some false
  | .uncut, _, l => if l = .mark ',' then none else some false
  | .unordered, ordering, l =>
    if ordering && l.isGap then none else some (l.isWord "order")

/-! ## Walking along lexemes -/

/-- A place in a text: how many parentheses are open, and whether none is and the word ORDER
stands right before it. -/
structure Spot where
  depth : Nat
  ordering : Bool
  deriving DecidableEq, Repr

/-- Inside of some parentheses, or outside of all. -/
abbrev Spot.at (depth : Nat) : Spot := ⟨depth, false⟩

/-- The place after a lexeme. There is none where a parenthesis is closed that was not opened,
nor where a rule forbids the lexeme. -/
def step (rule : Rule) (s : Spot) (l : Lexeme) : Option Spot :=
  if l = .mark '(' then some (.at (s.depth + 1))
  else if l = .mark ')' then if s.depth = 0 then none else some (.at (s.depth - 1))
  else if s.depth = 0 then (rule.next s.ordering l).map (⟨0, ·⟩)
  else some (.at s.depth)

/-- The place after some lexemes. -/
def walk (rule : Rule) (s : Spot) (ls : List Lexeme) : Option Spot := ls.foldlM (step rule) s

variable {rule : Rule} {s t r : Spot} {u v w : List Char}

theorem walk_append (rule : Rule) (s : Spot) (as bs : List Lexeme) :
    walk rule s (as ++ bs) = (walk rule s as).bind fun t => walk rule t bs := List.foldlM_append

theorem walk_cons (rule : Rule) (s : Spot) (l : Lexeme) (ls : List Lexeme) :
    walk rule s (l :: ls) = (step rule s l).bind fun t => walk rule t ls := List.foldlM_cons

theorem walk_singleton (rule : Rule) (s : Spot) (l : Lexeme) :
    walk rule s [l] = step rule s l := by
  simp [walk]

/-- How many parentheses are open after a lexeme. -/
def depthAfter (l : Lexeme) (depth : Nat) : Nat :=
  if l = .mark '(' then depth + 1 else if l = .mark ')' then depth - 1 else depth

/-- A rule decides what may stand, not which parentheses are open after it. -/
theorem depth_of_step {l : Lexeme} (h : step rule s l = some t) :
    (l = .mark ')' → s.depth ≠ 0) ∧ t.depth = depthAfter l s.depth := by
  unfold step at h
  unfold depthAfter
  split_ifs at h ⊢ with hopen hclose hzero hdepth
  · obtain rfl := Option.some.inj h
    exact ⟨fun heq => absurd (hopen.symm.trans heq) (by decide), rfl⟩
  · obtain rfl := Option.some.inj h
    exact ⟨fun _ => hzero, rfl⟩
  · obtain ⟨_, _, rfl⟩ := Option.map_eq_some_iff.mp h
    exact ⟨fun heq => absurd heq hclose, hdepth.symm⟩
  · obtain rfl := Option.some.inj h
    exact ⟨fun heq => absurd heq hclose, rfl⟩

/-- Inside of parentheses no rule forbids a lexeme. -/
theorem step_of_pos (rule : Rule) {depth : Nat} (h : 0 < depth) (l : Lexeme) :
    step rule (.at depth) l = some (.at (depthAfter l depth)) := by
  have hdepth : depth ≠ 0 := Nat.ne_of_gt h
  unfold step depthAfter
  split_ifs <;> rfl

theorem step_anything {l : Lexeme} (h : step rule s l = some t) :
    step .anything (.at s.depth) l = some (.at t.depth) := by
  obtain ⟨hclose, hdepth⟩ := depth_of_step h
  rw [hdepth]
  by_cases hzero : s.depth = 0
  · have hother : l ≠ .mark ')' := fun heq => hclose heq hzero
    simp only [step, depthAfter, hzero, hother, Rule.next, if_true, if_false, Option.map_some]
    split <;> rfl
  · exact step_of_pos .anything (Nat.pos_of_ne_zero hzero) l

/-- Inside of further parentheses a lexeme leads as far as it does outside of them. -/
theorem step_inside (rule : Rule) {l : Lexeme} (k : Nat) (h : step .anything s l = some t) :
    step rule (.at (s.depth + (k + 1))) l = some (.at (t.depth + (k + 1))) := by
  obtain ⟨hclose, hdepth⟩ := depth_of_step h
  have hafter : depthAfter l (s.depth + (k + 1)) = depthAfter l s.depth + (k + 1) := by
    unfold depthAfter
    split_ifs with hopen hclosing
    · omega
    · have := hclose hclosing
      omega
    · rfl
  rw [step_of_pos rule (by omega), hafter, hdepth]

theorem walk_inside (rule : Rule) {ls : List Lexeme} (k : Nat)
    (h : walk .anything s ls = some t) :
    walk rule (.at (s.depth + (k + 1))) ls = some (.at (t.depth + (k + 1))) := by
  induction ls generalizing s with
  | nil =>
    obtain rfl := Option.some.inj h
    rfl
  | cons l rest ih =>
    obtain ⟨next, hstep, hrest⟩ := Option.bind_eq_some_iff.mp h
    exact Option.bind_eq_some_iff.mpr ⟨_, step_inside rule k hstep, ih hrest⟩

/-- What a rule allows closes what it opens without a rule as well. -/
theorem walk_anything {ls : List Lexeme} (h : walk rule s ls = some t) :
    walk .anything (.at s.depth) ls = some (.at t.depth) := by
  induction ls generalizing s with
  | nil =>
    obtain rfl := Option.some.inj h
    rfl
  | cons l rest ih =>
    obtain ⟨next, hstep, hrest⟩ := Option.bind_eq_some_iff.mp h
    exact Option.bind_eq_some_iff.mpr ⟨_, step_anything hstep, ih hrest⟩

/-! ## Character by character -/

/-- Lexemes without a word in front. -/
def dropWord : List Lexeme → List Lexeme
  | .word _ :: rest => rest
  | ls => ls

theorem exists_lead_eq (c : Char) (ls : List Lexeme) : ∃ cs, lead c ls = .word cs :: dropWord ls := by
  cases ls with
  | nil => exact ⟨_, rfl⟩
  | cons l rest => cases l <;> exact ⟨_, rfl⟩

/-- The lexemes that are left of a text. A word that has been begun belongs to what was read. -/
def pending (inWord quoted : Bool) (w : List Char) : List Lexeme :=
  if inWord && !quoted then dropWord (scan quoted w) else scan quoted w

theorem eq_of_walk_pending_nil {inWord : Bool}
    (h : walk rule s (pending inWord false []) = some t) : s = t := by
  cases inWord <;> exact Option.some.inj h

/-- The first lexeme that is left is read with its first character. -/
theorem walk_pending_cons {c : Char} {inWord quoted : Bool}
    (h : walk rule s (pending inWord quoted (c :: w)) = some t) :
    ∃ next, next.depth = (if quoted then s.depth else if c = '(' then s.depth + 1
        else if c = ')' then s.depth - 1 else s.depth) ∧
      walk rule next (pending (isWordChar c) (if c = '\'' then !quoted else quoted) w) = some t := by
  unfold pending at h
  rw [scan] at h
  cases quoted with
  | true =>
    -- a character of a literal, which may be the quote that ends it
    simp only [Bool.not_true, Bool.and_false, Bool.true_or, if_true, Bool.false_eq_true,
      if_false] at h
    rw [walk_cons] at h
    obtain ⟨next, hnext, hrest⟩ := Option.bind_eq_some_iff.mp h
    refine ⟨next, by simpa [depthAfter] using (depth_of_step hnext).2, ?_⟩
    by_cases hquote : c = '\''
    · subst hquote
      exact hrest
    · simpa [pending, hquote] using hrest
  | false =>
    by_cases hquote : c = '\''
    · subst hquote
      have hliteral : walk rule s (.literal '\'' :: scan true w) = some t := by
        cases inWord <;> exact h
      obtain ⟨next, hnext, hrest⟩ := Option.bind_eq_some_iff.mp ((walk_cons ..).symm.trans hliteral)
      exact ⟨next, by simpa [depthAfter] using (depth_of_step hnext).2, hrest⟩
    by_cases hword : isWordChar c = true
    · have hopen : c ≠ '(' := by
        rintro rfl
        exact absurd hword (by decide)
      have hclose : c ≠ ')' := by
        rintro rfl
        exact absurd hword (by decide)
      obtain ⟨cs, hlead⟩ := exists_lead_eq c (scan false w)
      cases inWord with
      | true =>
        refine ⟨s, by simp [hopen, hclose], ?_⟩
        simpa [hquote, hword, hlead, dropWord, pending] using h
      | false =>
        have hbegun : walk rule s (.word cs :: dropWord (scan false w)) = some t := by
          simpa [hquote, hword, hlead] using h
        obtain ⟨next, hnext, hrest⟩ := Option.bind_eq_some_iff.mp ((walk_cons ..).symm.trans hbegun)
        refine ⟨next, by simpa [hopen, hclose, depthAfter] using (depth_of_step hnext).2, ?_⟩
        simpa [hquote, hword, pending] using hrest
    · have hmark : walk rule s (.mark c :: scan false w) = some t := by
        cases inWord <;> simpa [hquote, hword, dropWord] using h
      obtain ⟨next, hnext, hrest⟩ := Option.bind_eq_some_iff.mp ((walk_cons ..).symm.trans hmark)
      refine ⟨next, by simpa [depthAfter] using (depth_of_step hnext).2, ?_⟩
      simpa [hquote, hword, pending] using hrest

/-! ## Texts between two places -/

/-- A text leaves no literal open, and leads from one place to another. -/
structure Leads (rule : Rule) (s t : Spot) (w : List Char) : Prop where
  closed : Closed w
  walks : walk rule s (scan false w) = some t

instance (rule : Rule) (s t : Spot) (w : List Char) : Decidable (Leads rule s t w) :=
  decidable_of_iff (Closed w ∧ walk rule s (scan false w) = some t)
    ⟨fun h => ⟨h.1, h.2⟩, fun h => ⟨h.closed, h.walks⟩⟩

/-- A text that closes every parenthesis it opens, and has outside of them what a rule allows. -/
abbrev Conforms (rule : Rule) (w : List Char) : Prop := Leads rule (.at 0) (.at 0) w

namespace Leads

theorem nil : Leads rule s s [] := ⟨rfl, rfl⟩

theorem append (hu : Leads rule s t u) (hv : Leads rule t r v) (hapart : Apart u v) :
    Leads rule s r (u ++ v) := by
  refine ⟨hu.closed.append hv.closed, ?_⟩
  rw [scan_append_of_closed hu.closed hapart, walk_append, hu.walks]
  exact hv.walks

/-- Inside of any parentheses a text leads as far as it does outside of them. -/
theorem inside (h : Leads .anything s t w) (rule : Rule) (k : Nat) :
    Leads rule (.at (s.depth + (k + 1))) (.at (t.depth + (k + 1))) w :=
  ⟨h.closed, walk_inside rule k h.walks⟩

theorem anything (h : Leads rule s t w) : Leads .anything (.at s.depth) (.at t.depth) w :=
  ⟨h.closed, walk_anything h.walks⟩

end Leads

/-! ## Words -/

/-- A word conforms, unless it is ORDER and the rule is about that word. -/
theorem conforms_word (hword : ∀ c ∈ w, isWordChar c = true)
    (h : rule = .unordered → (Lexeme.word w).isWord "order" = false) : Conforms rule w := by
  by_cases hnil : w = []
  · subst hnil
    exact .nil
  · have hscan := scan_word hword hnil
    refine ⟨closed_of_scan (by simp [hscan]), ?_⟩
    rw [hscan, walk_singleton]
    cases rule with
    | unordered => simp [step, Rule.next, h rfl]
    | _ => simp [step, Rule.next]

/-! ## Texts between other texts -/

/-- A text that can stand between two others, and joins no word of the one to one of the other. -/
structure Divides (rule : Rule) (w : List Char) : Prop where
  noColon : ':' ∉ w
  conforms : Conforms rule w
  nonempty : w ≠ []
  starts : Stops isWordChar w
  ends : EndsApart w

instance (rule : Rule) (w : List Char) : Decidable (Divides rule w) :=
  decidable_of_iff (':' ∉ w ∧ Conforms rule w ∧ w ≠ [] ∧ Stops isWordChar w ∧ EndsApart w)
    ⟨fun ⟨hcolon, hconforms, hne, hstarts, hends⟩ => ⟨hcolon, hconforms, hne, hstarts, hends⟩,
      fun h => ⟨h.noColon, h.conforms, h.nonempty, h.starts, h.ends⟩⟩

/-- Two texts that stand around a third one and put it into so many parentheses more than one. -/
structure Wraps (rule : Rule) (more : Nat) (opening closing : List Char) : Prop where
  noColon_opening : ':' ∉ opening
  noColon_closing : ':' ∉ closing
  opens : Leads rule (.at 0) (.at (more + 1)) opening
  closes : Leads rule (.at (more + 1)) (.at 0) closing
  ends : EndsApart opening
  starts : Stops isWordChar closing

instance (rule : Rule) (more : Nat) (u v : List Char) : Decidable (Wraps rule more u v) :=
  decidable_of_iff (':' ∉ u ∧ ':' ∉ v ∧ Leads rule (.at 0) (.at (more + 1)) u ∧
      Leads rule (.at (more + 1)) (.at 0) v ∧ EndsApart u ∧ Stops isWordChar v)
    ⟨fun ⟨hu, hv, hopens, hcloses, hends, hstarts⟩ => ⟨hu, hv, hopens, hcloses, hends, hstarts⟩,
      fun h => ⟨h.noColon_opening, h.noColon_closing, h.opens, h.closes, h.ends, h.starts⟩⟩

theorem endsApart_append (hne : w ≠ []) (h : EndsApart w) : EndsApart (u ++ w) := by
  intro c hc
  rw [List.getLast?_append_of_ne_nil u hne] at hc
  exact h c hc

/-- Two texts with a text between them that keeps them apart. -/
theorem Divides.join (hw : Divides rule w) (hu : Conforms rule u) (hv : Conforms rule v) :
    Conforms rule (u ++ w ++ v) :=
  (hu.append hw.conforms (.inr hw.starts)).append hv (.inl (endsApart_append hw.nonempty hw.ends))

/-- What stands in parentheses may be anything that closes what it opens. -/
theorem Wraps.wrap {more : Nat} (h : Wraps rule more u v) (hw : Conforms .anything w) :
    Conforms rule (u ++ w ++ v) := by
  have hinside : Leads rule (.at (more + 1)) (.at (more + 1)) w := by
    simpa using hw.inside rule more
  exact (h.opens.append hinside (.inl h.ends)).append h.closes (.inr h.starts)

end Lexeme

end SqlCompose
