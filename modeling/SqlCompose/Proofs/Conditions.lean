import Mathlib.Data.List.Forall2
import Mathlib.Order.BoundedOrder.Lattice
import SqlCompose.Expression.Basic
import SqlCompose.Proofs.Lexemes

/-!
# SqlCompose.Proofs.Conditions -- reading a condition by the precedence of its operators

A condition is read in two steps. Its lexemes are grouped into predicates, operators and
parentheses: a predicate goes on up to the end of the group it stands in or to the next
connective, where parentheses inside it are skipped and BETWEEN has an AND of its own.
Then the operators are applied: NOT binds tighter than AND, AND tighter than OR, and
those of one precedence are applied from the left.
-/

namespace SqlCompose

/-! ## Symbols -/

/-- What a condition is made of. -/
inductive Symbol where
  | predicate (text : String)
  | not
  | junction (op : Connective)
  | opening
  | closing
  deriving DecidableEq, Repr

/-- The symbol that a lexeme is outside of predicates. -/
def Lexeme.symbol? (l : Lexeme) : Option Symbol :=
  if l = .mark '(' then some .opening
  else if l = .mark ')' then some .closing
  else if l.isWord "not" then some .not
  else if l.isWord "and" then some (.junction .and)
  else if l.isWord "or" then some (.junction .or)
  else none

/-- A predicate while it is read: its lexemes so far, the parentheses that are open in it, and
whether the next AND belongs to it. -/
structure Gathering where
  lexemes : List Lexeme
  depth : Nat := 0
  between : Bool := false

namespace Gathering

/-- The text of a predicate, without blanks at its end. -/
def text (g : Gathering) : String :=
  String.ofList ((g.lexemes.reverse.dropWhile Lexeme.isBlank).reverse.flatMap Lexeme.chars)

/-- A predicate with more lexemes. -/
def plus (g : Gathering) (ls : List Lexeme) : Gathering := { g with lexemes := g.lexemes ++ ls }

/-- A predicate with one more lexeme, if it does not end before it. -/
def next (g : Gathering) (l : Lexeme) : Option Gathering :=
  let taken := g.plus [l]
  match l.symbol? with
  | some .opening => some { taken with depth := g.depth + 1 }
  | some .closing => if g.depth = 0 then none else some { taken with depth := g.depth - 1 }
  | some (.junction op) =>
    if g.depth = 0 then
      if op = .and ∧ g.between then some { taken with between := false } else none
    else some taken
  | _ => some { taken with between := g.between || (g.depth == 0 && l.isWord "between") }

/-- A predicate with several more lexemes, if it does not end before the last one. -/
def takes? (g : Gathering) : List Lexeme → Option Gathering
  | [] => some g
  | l :: rest => do
    let taken ← g.next l
    taken.takes? rest

end Gathering

/-- The symbols of a row of lexemes, after those of a predicate if one is being read. -/
def symbols : Option Gathering → List Lexeme → List Symbol
  | none, [] => []
  | some g, [] => [.predicate g.text]
  | none, l :: rest =>
    match l.symbol? with
    | some y => y :: symbols none rest
    | none => if l.isBlank then symbols none rest else symbols (some ⟨[l], 0, false⟩) rest
  | some g, l :: rest =>
    match g.next l with
    | some g' => symbols (some g') rest
    | none => .predicate g.text :: (l.symbol?.toList ++ symbols none rest)

/-! ## Conditions -/

/-- A Boolean combination of predicates. -/
inductive Condition where
  | leaf (text : String)
  | not (c : Condition)
  | join (op : Connective) (a b : Condition)
  deriving DecidableEq, Repr

namespace Condition

/-- The predicates of a condition in order. -/
def leaves : Condition → List String
  | .leaf text => [text]
  | .not c => c.leaves
  | .join _ a b => a.leaves ++ b.leaves

end Condition

section Values

variable {T : Type} [Lattice T]

/-- Two truth values with a connective between them. -/
def Connective.combine (op : Connective) (a b : T) : T :=
  match op with
  | .and => a ⊓ b
  | .or => a ⊔ b

theorem Connective.combine_assoc (op : Connective) (a b c : T) :
    op.combine (op.combine a b) c = op.combine a (op.combine b c) := by
  cases op
  · exact inf_assoc a b c
  · exact sup_assoc a b c

/-- What a connective makes of no truth values. -/
def Connective.neutral [BoundedOrder T] : Connective → T
  | .and => ⊤
  | .or => ⊥

theorem Connective.combine_neutral [BoundedOrder T] (op : Connective) (a : T) :
    op.combine a op.neutral = a := by
  cases op
  · exact inf_top_eq a
  · exact sup_bot_eq a

/-- The value of a condition. Its predicates have the values from a place on, in order. -/
def Condition.valueFrom (negate : T → T) (v : Nat → T) : Nat → Condition → T
  | n, .leaf _ => v n
  | n, .not c => negate (c.valueFrom negate v n)
  | n, .join op a b =>
    op.combine (a.valueFrom negate v n) (b.valueFrom negate v (n + a.leaves.length))

end Values

/-! ## Operators -/

/-- An operator that is waiting for what it is applied to, or an open parenthesis. -/
inductive Operator where
  | group
  | not
  | junction (op : Connective)
  deriving DecidableEq, Repr

namespace Operator

/-- How tight an operator binds. -/
def rank : Operator → Nat
  | .group => 0
  | .junction .or => 1
  | .junction .and => 2
  | .not => 3

/-- Apply an operator to the last conditions that were read. -/
def apply : Operator → List Condition → Option (List Condition)
  | .not, c :: rest => some (.not c :: rest)
  | .junction op, b :: a :: rest => some (.join op a b :: rest)
  | _, _ => none

end Operator

/-- Apply the operators that bind at least as tight as some rank, the last one first. -/
def unwind (rank : Nat) : List Operator → List Condition → Option (List Operator × List Condition)
  | [], cs => some ([], cs)
  | op :: ops, cs =>
    if op.rank < rank then some (op :: ops, cs)
    else do
      let applied ← op.apply cs
      unwind rank ops applied

/-- A reader between two symbols. -/
structure Reader where
  operators : List Operator := []
  conditions : List Condition := []
  /-- The next symbol has to start a condition. -/
  expects : Bool := true

namespace Reader

/-- A reader after one more symbol. -/
def step (r : Reader) : Symbol → Option Reader
  | .predicate text =>
    if r.expects then some ⟨r.operators, .leaf text :: r.conditions, false⟩ else none
  | .not => if r.expects then some { r with operators := .not :: r.operators } else none
  | .opening => if r.expects then some { r with operators := .group :: r.operators } else none
  | .junction op =>
    if r.expects then none
    else do
      let (operators, conditions) ← unwind (Operator.junction op).rank r.operators r.conditions
      some ⟨.junction op :: operators, conditions, true⟩
  | .closing =>
    if r.expects then none
    else match unwind 1 r.operators r.conditions with
      | some (.group :: operators, conditions) => some ⟨operators, conditions, false⟩
      | _ => none

/-- A reader after several symbols. -/
def run (r : Reader) (ys : List Symbol) : Option Reader := ys.foldlM step r

/-- The condition that was read, if no operator waits for anything and no parenthesis is open. -/
def finish (r : Reader) : Option Condition :=
  if r.expects then none
  else match unwind 1 r.operators r.conditions with
    | some ([], [c]) => some c
    | _ => none

end Reader

/-- The condition that a text says. -/
def Condition.read? (text : String) : Option Condition := do
  let r ← Reader.run {} (symbols none (Lexeme.scan false text.toList))
  r.finish

/-! ## Predicates -/

/-- A lexeme that neither ends a predicate nor changes how it goes on. -/
def Lexeme.isQuiet (l : Lexeme) : Bool :=
  !l.isWord "between" &&
    match l.symbol? with
    | some .not | none => true
    | _ => false

namespace Gathering

theorem takes?_append (g : Gathering) (ls others : List Lexeme) :
    g.takes? (ls ++ others) = (g.takes? ls).bind (·.takes? others) := by
  induction ls generalizing g with
  | nil => rfl
  | cons l rest ih =>
    show (g.next l).bind (·.takes? (rest ++ others)) = ((g.next l).bind (·.takes? rest)).bind _
    cases g.next l with
    | none => rfl
    | some g' => exact ih g'

theorem plus_plus (g : Gathering) (ls others : List Lexeme) :
    (g.plus ls).plus others = g.plus (ls ++ others) := by
  unfold plus
  rw [List.append_assoc]

theorem next_quiet {l : Lexeme} (h : l.isQuiet = true) (g : Gathering) :
    g.next l = some (g.plus [l]) := by
  obtain ⟨hbetween, hsymbol⟩ := Bool.and_eq_true_iff.mp h
  have hword : l.isWord "between" = false := (Bool.not_eq_true' _).mp hbetween
  unfold next
  split at hsymbol
  · rename_i hnot
    simp [hnot, hword, plus]
  · rename_i hnone
    simp [hnone, hword, plus]
  · cases hsymbol

/-- Quiet lexemes are taken in whatever is open. -/
theorem takes?_quiet {ls : List Lexeme} (h : ∀ l ∈ ls, l.isQuiet = true) (g : Gathering) :
    g.takes? ls = some (g.plus ls) := by
  induction ls generalizing g with
  | nil => simp [takes?, plus]
  | cons l rest ih =>
    have hrest := ih (fun l' hl => h l' (List.mem_cons_of_mem l hl)) (g.plus [l])
    rw [plus_plus] at hrest
    rw [takes?, next_quiet (h l List.mem_cons_self)]
    exact hrest

end Gathering

/-- A row of lexemes that a predicate takes in as a whole, after which it goes on as before. -/
def Spans (ls : List Lexeme) : Prop :=
  ∀ g : Gathering, g.between = false → g.takes? ls = some (g.plus ls)

theorem spans_quiet {ls : List Lexeme} (h : ∀ l ∈ ls, l.isQuiet = true) : Spans ls :=
  fun g _ => g.takes?_quiet h

theorem Spans.append {ls others : List Lexeme} (h : Spans ls) (h' : Spans others) :
    Spans (ls ++ others) := by
  intro g hg
  have hrest : (g.plus ls).takes? others = some ((g.plus ls).plus others) := h' _ hg
  rw [Gathering.takes?_append, h g hg, ← Gathering.plus_plus]
  exact hrest

/-- Parentheses inside a predicate. -/
theorem spans_parentheses {ls : List Lexeme} (h : ∀ l ∈ ls, l.isQuiet = true) :
    Spans (.mark '(' :: (ls ++ [.mark ')'])) := by
  intro g _
  have hinner := Gathering.takes?_quiet h { g.plus [.mark '('] with depth := g.depth + 1 }
  show Gathering.takes? { g.plus [.mark '('] with depth := g.depth + 1 } (ls ++ [.mark ')']) = _
  rw [Gathering.takes?_append, hinner]
  simp [Gathering.takes?, Gathering.next, Gathering.plus, Lexeme.symbol?]

/-- BETWEEN has an AND of its own. -/
theorem spans_between {between and : Lexeme} (hsymbol : between.symbol? = none)
    (hword : between.isWord "between" = true) (hand : and.symbol? = some (.junction .and))
    {low high : List Lexeme} (hlow : ∀ l ∈ low, l.isQuiet = true)
    (hhigh : ∀ l ∈ high, l.isQuiet = true) : Spans (between :: (low ++ and :: high)) := by
  intro g hg
  have hopens : g.next between = some ⟨g.lexemes ++ [between], g.depth, g.depth == 0⟩ := by
    simp only [Gathering.next, Gathering.plus, hsymbol, hword, hg, Bool.false_or, Bool.and_true]
  -- in parentheses every AND is taken in, outside of them only the one that is waited for
  have hcloses : ∀ ls, Gathering.next ⟨ls, g.depth, g.depth == 0⟩ and =
      some ⟨ls ++ [and], g.depth, false⟩ := by
    intro ls
    by_cases hzero : g.depth = 0
    · simp [Gathering.next, Gathering.plus, hand, hzero]
    · simp [Gathering.next, Gathering.plus, hand, hzero]
  rw [Gathering.takes?, hopens]
  show Gathering.takes? _ (low ++ and :: high) = _
  rw [Gathering.takes?_append, Gathering.takes?_quiet hlow]
  show (Gathering.next ⟨g.lexemes ++ [between] ++ low, g.depth, g.depth == 0⟩ and).bind _ = _
  rw [hcloses]
  show Gathering.takes? _ high = _
  rw [Gathering.takes?_quiet hhigh]
  simp [Gathering.plus, hg]

/-- A row of lexemes is taken in by a predicate that is being read. -/
theorem symbols_takes {g g' : Gathering} {ls : List Lexeme} (h : g.takes? ls = some g')
    (rest : List Lexeme) : symbols (some g) (ls ++ rest) = symbols (some g') rest := by
  induction ls generalizing g with
  | nil =>
    cases h
    rfl
  | cons l others ih =>
    obtain ⟨taken, hnext, hothers⟩ := Option.bind_eq_some_iff.mp h
    rw [List.cons_append, symbols, hnext]
    exact ih hothers

/-- A text that starts a predicate and is part of it as a whole. -/
structure Starts (cs : List Char) : Prop where
  closed : Lexeme.Closed cs
  first : ∃ w ls, Lexeme.scan false cs = .word w :: ls ∧ (Lexeme.word w).symbol? = none ∧ Spans ls

/-- A text that goes on with a predicate and is part of it as a whole. -/
structure Continues (cs : List Char) : Prop where
  closed : Lexeme.Closed cs
  spans : Spans (Lexeme.scan false cs)

/-- A text that is part of a predicate wherever it stands in it. -/
structure Quiet (cs : List Char) : Prop where
  closed : Lexeme.Closed cs
  quiet : ∀ l ∈ Lexeme.scan false cs, l.isQuiet = true

/-- A text does not end with a blank. -/
def EndsSolid (cs : List Char) : Prop :=
  ∃ l ∈ (Lexeme.scan false cs).getLast?, l.isBlank = false

instance (cs : List Char) : Decidable (Quiet cs) :=
  decidable_of_iff (Lexeme.Closed cs ∧ ∀ l ∈ Lexeme.scan false cs, l.isQuiet = true)
    ⟨fun h => ⟨h.1, h.2⟩, fun h => ⟨h.1, h.2⟩⟩

instance (cs : List Char) : Decidable (EndsSolid cs) :=
  inferInstanceAs (Decidable (∃ l ∈ (Lexeme.scan false cs).getLast?, l.isBlank = false))

theorem Quiet.continues {cs : List Char} (h : Quiet cs) : Continues cs :=
  ⟨h.closed, spans_quiet h.quiet⟩

theorem Quiet.append {u v : List Char} (hu : Quiet u) (hv : Quiet v) (hapart : Lexeme.Apart u v) :
    Quiet (u ++ v) where
  closed := hu.closed.append hv.closed
  quiet := by
    rw [Lexeme.scan_append_of_closed hu.closed hapart]
    exact List.forall_mem_append.mpr ⟨hu.quiet, hv.quiet⟩

theorem Continues.append {u v : List Char} (hu : Continues u) (hv : Continues v)
    (hapart : Lexeme.Apart u v) : Continues (u ++ v) where
  closed := hu.closed.append hv.closed
  spans := by
    rw [Lexeme.scan_append_of_closed hu.closed hapart]
    exact hu.spans.append hv.spans

theorem Starts.append {u v : List Char} (hu : Starts u) (hv : Continues v)
    (hapart : Lexeme.Apart u v) : Starts (u ++ v) where
  closed := hu.closed.append hv.closed
  first := by
    obtain ⟨w, ls, hscan, hsymbol, hspans⟩ := hu.first
    refine ⟨w, ls ++ Lexeme.scan false v, ?_, hsymbol, hspans.append hv.spans⟩
    rw [Lexeme.scan_append_of_closed hu.closed hapart, hscan]
    rfl

theorem EndsSolid.append {u v : List Char} (hu : Lexeme.Closed u) (hv : EndsSolid v)
    (hapart : Lexeme.Apart u v) : EndsSolid (u ++ v) := by
  obtain ⟨l, hl, hblank⟩ := hv
  refine ⟨l, ?_, hblank⟩
  rw [Lexeme.scan_append_of_closed hu hapart, List.getLast?_append, hl]
  rfl

/-! ## Groups -/

/-- A stack of operators that starts with an open parenthesis, or is empty. -/
def Grounded (ops : List Operator) : Prop := ∀ op ∈ ops.head?, op = .group

theorem grounded_nil : Grounded [] := fun _ h => by cases h

theorem grounded_group (ops : List Operator) : Grounded (.group :: ops) := by
  intro op h
  cases h
  rfl

/-- No operator is applied across an open parenthesis. -/
theorem Grounded.unwind {ops : List Operator} (h : Grounded ops) {rank : Nat} (hrank : 1 ≤ rank)
    (cs : List Condition) : unwind rank ops cs = some (ops, cs) := by
  cases ops with
  | nil => rfl
  | cons op rest =>
    cases h op rfl
    exact if_pos hrank

/-- Symbols that are read as a condition wherever one can start a group. -/
def Gives (ys : List Symbol) (c : Condition) : Prop :=
  ∀ ops cs, Grounded ops → ∃ r, Reader.run ⟨ops, cs, true⟩ ys = some r ∧ r.expects = false ∧
    unwind 1 r.operators r.conditions = some (ops, c :: cs)

theorem Reader.run_append (r : Reader) (ys others : List Symbol) :
    r.run (ys ++ others) = (r.run ys).bind (·.run others) := by
  unfold run
  rw [List.foldlM_append]
  rfl

theorem gives_leaf (text : String) : Gives [.predicate text] (.leaf text) := by
  intro ops cs hops
  exact ⟨_, rfl, rfl, hops.unwind (Nat.le_refl 1) _⟩

/-- Symbols in parentheses of their own. -/
def enclosedSymbols (ys : List Symbol) : List Symbol := .opening :: (ys ++ [.closing])

/-- A group is one condition, whatever stands before it. -/
theorem Gives.enclosed {ys : List Symbol} {c : Condition} (h : Gives ys c) (ops : List Operator)
    (cs : List Condition) :
    Reader.run ⟨ops, cs, true⟩ (enclosedSymbols ys) = some ⟨ops, c :: cs, false⟩ := by
  -- the open parenthesis hides the operators before it until the group is read
  obtain ⟨r, hrun, hexpects, hunwind⟩ := h (.group :: ops) cs (grounded_group ops)
  show Reader.run ⟨.group :: ops, cs, true⟩ (ys ++ [.closing]) = _
  rw [Reader.run_append, hrun]
  show r.step .closing >>= _ = _
  simp only [Reader.step, hexpects, hunwind]
  rfl

theorem Gives.not {ys : List Symbol} {c : Condition} (h : Gives ys c) :
    Gives (.not :: enclosedSymbols ys) (.not c) := by
  intro ops cs hops
  refine ⟨⟨.not :: ops, c :: cs, false⟩, h.enclosed (.not :: ops) cs, rfl, ?_⟩
  show unwind 1 ops (.not c :: cs) = _
  exact hops.unwind (Nat.le_refl 1) _

/-- Groups with a connective before each of them. -/
def joinedSymbols (op : Connective) (groups : List (List Symbol)) : List Symbol :=
  groups.flatMap fun ys => .junction op :: enclosedSymbols ys

/-- A reader that has read a condition, which is complete for operators up to a rank. -/
structure Reader.Holds (r : Reader) (rank : Nat) (ops : List Operator) (cs : List Condition) :
    Prop where
  expects : r.expects = false
  unwind : ∀ k, 1 ≤ k → k ≤ rank → SqlCompose.unwind k r.operators r.conditions = some (ops, cs)

theorem Operator.one_le_rank (op : Connective) : 1 ≤ (Operator.junction op).rank := by
  cases op <;> decide

/-- One more group is joined to what was read before. -/
theorem Reader.Holds.join {r : Reader} {op : Connective} {ops : List Operator} {a c : Condition}
    {cs : List Condition} (hr : r.Holds (Operator.junction op).rank ops (a :: cs))
    (hops : Grounded ops) {ys : List Symbol} (h : Gives ys c) :
    ∃ r', r.run (.junction op :: enclosedSymbols ys) = some r' ∧
      r'.Holds (Operator.junction op).rank ops (.join op a c :: cs) := by
  -- what was read before is applied first, as its last operator binds as tight as this one
  have hunwind := hr.unwind _ (Operator.one_le_rank op) (Nat.le_refl _)
  have hstep : r.step (.junction op) = some ⟨.junction op :: ops, a :: cs, true⟩ := by
    simp only [step, hr.expects, hunwind]
    rfl
  refine ⟨⟨.junction op :: ops, c :: a :: cs, false⟩, ?_, rfl, ?_⟩
  · show r.step (.junction op) >>= (·.run (enclosedSymbols ys)) = _
    rw [hstep]
    exact h.enclosed _ _
  · intro k hone hk
    show (if (Operator.junction op).rank < k then _ else _) = _
    rw [if_neg (Nat.not_lt.mpr hk)]
    exact hops.unwind hone _

theorem Reader.Holds.joins {r : Reader} {op : Connective} {ops : List Operator} {a : Condition}
    {cs : List Condition} (hr : r.Holds (Operator.junction op).rank ops (a :: cs))
    (hops : Grounded ops) {groups : List (List Symbol)} {conditions : List Condition}
    (h : List.Forall₂ Gives groups conditions) :
    ∃ r', r.run (joinedSymbols op groups) = some r' ∧
      r'.Holds (Operator.junction op).rank ops (conditions.foldl (.join op) a :: cs) := by
  induction h generalizing r a with
  | nil => exact ⟨r, rfl, hr⟩
  | cons hfirst _ ih =>
    obtain ⟨r₁, hrun₁, hr₁⟩ := hr.join hops hfirst
    obtain ⟨r₂, hrun₂, hr₂⟩ := ih hr₁
    refine ⟨r₂, ?_, hr₂⟩
    unfold joinedSymbols
    rw [List.flatMap_cons, Reader.run_append, hrun₁]
    exact hrun₂

/-- Groups with one connective between them are joined from the left. -/
theorem gives_junction (op : Connective) {ys : List Symbol} {c : Condition} (h : Gives ys c)
    {groups : List (List Symbol)} {conditions : List Condition}
    (hgroups : List.Forall₂ Gives groups conditions) :
    Gives (enclosedSymbols ys ++ joinedSymbols op groups) (conditions.foldl (.join op) c) := by
  intro ops cs hops
  have hfirst : Reader.Holds ⟨ops, c :: cs, false⟩ (Operator.junction op).rank ops (c :: cs) :=
    ⟨rfl, fun k hone _ => hops.unwind hone _⟩
  obtain ⟨r, hrun, hr⟩ := hfirst.joins hops hgroups
  refine ⟨r, ?_, hr.expects, hr.unwind 1 (Nat.le_refl 1) (Operator.one_le_rank op)⟩
  rw [Reader.run_append, h.enclosed]
  exact hrun

/-! ## Texts -/

/-- Nothing more of a group stands in a text. -/
def EndsGroup (cs : List Char) : Prop := ∀ c ∈ cs.head?, c = ')'

/-- A text is read as a condition wherever it is all of a group. -/
def Reads (cs : List Char) (c : Condition) : Prop :=
  ∃ ys, Gives ys c ∧ ∀ rest, EndsGroup rest →
    symbols none (Lexeme.scan false (cs ++ rest)) = ys ++ symbols none (Lexeme.scan false rest)

theorem Reads.read? {text : String} {c : Condition} (h : Reads text.toList c) :
    Condition.read? text = some c := by
  obtain ⟨ys, hgives, hsymbols⟩ := h
  have hall := hsymbols [] fun _ h => by cases h
  obtain ⟨r, hrun, hexpects, hunwind⟩ := hgives [] [] grounded_nil
  have hend : symbols none (Lexeme.scan false []) = [] := rfl
  rw [List.append_nil, hend, List.append_nil] at hall
  unfold Condition.read?
  rw [hall, hrun]
  show r.finish = some c
  simp only [Reader.finish, hexpects, hunwind]
  rfl

/-- NOT binds tighter than AND, AND tighter than OR, and BETWEEN has an AND of its own. -/
example : Condition.read? "a=1 or NOT b BETWEEN 1 AND (2) and c IN (3, 4)" =
    some (.join .or (.leaf "a=1")
      (.join .and (.not (.leaf "b BETWEEN 1 AND (2)")) (.leaf "c IN (3, 4)"))) := by
  decide +kernel

theorem scan_closing (rest : List Char) :
    Lexeme.scan false (')' :: rest) = .mark ')' :: Lexeme.scan false rest :=
  Lexeme.scan_mark (by decide) (by decide) rest

theorem symbols_opening (rest : List Char) :
    symbols none (Lexeme.scan false ('(' :: rest)) =
      .opening :: symbols none (Lexeme.scan false rest) := by
  rw [Lexeme.scan_mark (by decide) (by decide)]
  rfl

theorem symbols_closing (rest : List Char) :
    symbols none (Lexeme.scan false (')' :: rest)) =
      .closing :: symbols none (Lexeme.scan false rest) := by
  rw [scan_closing]
  rfl

/-- A predicate ends where its group does. -/
theorem symbols_ended {g : Gathering} (hdepth : g.depth = 0) {rest : List Char}
    (h : EndsGroup rest) :
    symbols (some g) (Lexeme.scan false rest) =
      .predicate g.text :: symbols none (Lexeme.scan false rest) := by
  cases rest with
  | nil => rfl
  | cons c rest =>
    cases h c rfl
    have hnext : g.next (.mark ')') = none := by
      show (if g.depth = 0 then _ else _) = _
      rw [if_pos hdepth]
    rw [symbols_closing, scan_closing, symbols, hnext]
    rfl

theorem symbols_blank (rest : List Char) :
    symbols none (Lexeme.scan false (' ' :: rest)) = symbols none (Lexeme.scan false rest) := by
  rw [Lexeme.scan_mark (by decide) (by decide)]
  rfl

/-- An operator in front of a blank. -/
theorem symbols_word {w : List Char} {y : Symbol} (hword : w.all Text.isWordChar = true)
    (hsymbol : (Lexeme.word w).symbol? = some y) (rest : List Char) :
    symbols none (Lexeme.scan false (w ++ ' ' :: rest)) =
      y :: symbols none (Lexeme.scan false rest) := by
  have hne : w ≠ [] := by
    rintro rfl
    cases hsymbol
  have hscan := Lexeme.scan_word (List.all_eq_true.mp hword) hne
  have hclosed : Lexeme.Closed w := Lexeme.closed_of_scan (by simp [hscan])
  have hapart : Lexeme.Apart w (' ' :: rest) := .inr (Text.stops_cons (by decide) rest)
  rw [Lexeme.scan_append_of_closed hclosed hapart, hscan, List.singleton_append, symbols]
  simp only [hsymbol]
  rw [symbols_blank]

/-- The lexemes of a text that does not end with a blank are its text again. -/
theorem Gathering.text_eq {g : Gathering} {text : String}
    (h : g.lexemes = Lexeme.scan false text.toList) (hend : EndsSolid text.toList) :
    g.text = text := by
  obtain ⟨l, hl, hblank⟩ := hend
  have hnone : (Lexeme.scan false text.toList).reverse.dropWhile Lexeme.isBlank =
      (Lexeme.scan false text.toList).reverse := by
    rw [← List.head?_reverse] at hl
    cases hreverse : (Lexeme.scan false text.toList).reverse with
    | nil => rfl
    | cons x rest =>
      rw [hreverse] at hl
      cases hl
      exact List.dropWhile_cons_of_neg (Bool.eq_false_iff.mp hblank)
  unfold Gathering.text
  rw [h, hnone, List.reverse_reverse, Lexeme.flatMap_scan, String.ofList_toList]

/-- A predicate is read as a whole. -/
theorem reads_leaf {text : String} (h : Starts text.toList) (hend : EndsSolid text.toList) :
    Reads text.toList (.leaf text) := by
  obtain ⟨hclosed, w, ls, hscan, hsymbol, hspans⟩ := h
  refine ⟨[.predicate text], gives_leaf text, fun rest hrest => ?_⟩
  have hapart : Lexeme.Apart text.toList rest := by
    refine .inr ?_
    cases rest with
    | nil => exact Text.stops_nil _
    | cons c rest =>
      cases hrest c rfl
      exact Text.stops_cons (by decide) rest
  have hblank : (Lexeme.word w).isBlank = false := rfl
  rw [Lexeme.scan_append_of_closed hclosed hapart, hscan, List.cons_append, symbols]
  simp only [hsymbol, hblank, Bool.false_eq_true, if_false]
  rw [symbols_takes (hspans _ rfl)]
  rw [symbols_ended rfl hrest]
  have htext : (Gathering.plus ⟨[.word w], 0, false⟩ ls).text = text :=
    Gathering.text_eq hscan.symm hend
  rw [htext]
  rfl

theorem Reads.enclosed {cs : List Char} {c : Condition} (h : Reads cs c) :
    ∃ ys, Gives ys c ∧ ∀ rest, symbols none (Lexeme.scan false ('(' :: (cs ++ ')' :: rest))) =
      enclosedSymbols ys ++ symbols none (Lexeme.scan false rest) := by
  obtain ⟨ys, hgives, hsymbols⟩ := h
  refine ⟨ys, hgives, fun rest => ?_⟩
  have hinner := hsymbols (')' :: rest) fun c hc => by
    cases hc
    rfl
  rw [symbols_opening, hinner, symbols_closing]
  simp [enclosedSymbols]

theorem Reads.not {cs : List Char} {c : Condition} (h : Reads cs c) :
    Reads (['N', 'O', 'T'] ++ ' ' :: '(' :: (cs ++ [')'])) (.not c) := by
  obtain ⟨ys, hgives, hsymbols⟩ := h.enclosed
  refine ⟨.not :: enclosedSymbols ys, hgives.not, fun rest _ => ?_⟩
  have hword := symbols_word (w := ['N', 'O', 'T']) (y := .not) (by decide) (by decide)
    ('(' :: (cs ++ ')' :: rest))
  rw [hsymbols] at hword
  simpa using hword

/-- Texts in parentheses of their own, each with a connective before it. -/
def joinedText (op : List Char) (texts : List (List Char)) : List Char :=
  texts.flatMap fun cs => ' ' :: (op ++ ' ' :: '(' :: (cs ++ [')']))

/-- The word of a connective. -/
def Connective.word : Connective → List Char
  | .and => ['A', 'N', 'D']
  | .or => ['O', 'R']

theorem symbols_connective (op : Connective) (rest : List Char) :
    symbols none (Lexeme.scan false (' ' :: (op.word ++ ' ' :: rest))) =
      .junction op :: symbols none (Lexeme.scan false rest) := by
  rw [symbols_blank]
  cases op with
  | and => exact symbols_word (by decide) (by decide) rest
  | or => exact symbols_word (by decide) (by decide) rest

theorem reads_joined (op : Connective) {texts : List (List Char)} {conditions : List Condition}
    (h : List.Forall₂ Reads texts conditions) :
    ∃ groups, List.Forall₂ Gives groups conditions ∧ ∀ rest,
      symbols none (Lexeme.scan false (joinedText op.word texts ++ rest)) =
        joinedSymbols op groups ++ symbols none (Lexeme.scan false rest) := by
  induction h with
  | nil => exact ⟨[], .nil, fun rest => rfl⟩
  | @cons cs c texts conditions hfirst _ ih =>
    obtain ⟨ys, hgives, hsymbols⟩ := hfirst.enclosed
    obtain ⟨groups, hgroups, hothers⟩ := ih
    refine ⟨ys :: groups, .cons hgives hgroups, fun rest => ?_⟩
    have hsplit : joinedText op.word (cs :: texts) ++ rest =
        ' ' :: (op.word ++ ' ' :: '(' :: (cs ++ ')' :: (joinedText op.word texts ++ rest))) := by
      simp [joinedText]
    rw [hsplit, symbols_connective, hsymbols, hothers]
    simp [joinedSymbols]

/-- Texts in parentheses with one connective between them are joined from the left. -/
theorem reads_junction (op : Connective) {cs : List Char} {c : Condition} (h : Reads cs c)
    {texts : List (List Char)} {conditions : List Condition}
    (htexts : List.Forall₂ Reads texts conditions) :
    Reads ('(' :: (cs ++ ')' :: joinedText op.word texts)) (conditions.foldl (.join op) c) := by
  obtain ⟨ys, hgives, hsymbols⟩ := h.enclosed
  obtain ⟨groups, hgroups, hjoined⟩ := reads_joined op htexts
  refine ⟨_, gives_junction op hgives hgroups, fun rest _ => ?_⟩
  have hfirst := hsymbols (joinedText op.word texts ++ rest)
  rw [hjoined] at hfirst
  simpa using hfirst

end SqlCompose
