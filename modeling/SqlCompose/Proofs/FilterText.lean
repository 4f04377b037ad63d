import SqlCompose.Proofs.Predicates
import SqlCompose.Proofs.Sources

/-!
# SqlCompose.Proofs.FilterText -- the text of a filter means what the filter means

A filter over paths and values is a tree of predicates. Each predicate is written as a
text that a reader of conditions takes as one predicate, and each connective and each
negation with parentheses around its operands. So the reader gets the tree back, with
the predicates in its order.
-/

namespace SqlCompose

open Compose

/-! ## Filters over paths and values -/

mutual

/-- Every predicate of a filter is one over paths and values. -/
def Filter.isBasic : Filter → Bool
  | .junction _ children => Filter.allBasic children
  | .not child => Filter.isBasic child
  | f => f.isPredicate

/-- Every one of several filters is basic. -/
def Filter.allBasic : List Filter → Bool
  | [] => true
  | f :: rest => Filter.isBasic f && Filter.allBasic rest

end

mutual

/-- The predicates of a filter in the order of the tree. -/
def Filter.leaves : Filter → List Filter
  | .junction _ children => Filter.allLeaves children
  | .not child => Filter.leaves child
  | f => [f]

/-- The predicates of several filters in order. -/
def Filter.allLeaves : List Filter → List Filter
  | [] => []
  | f :: rest => Filter.leaves f ++ Filter.allLeaves rest

end

section Values

variable {T : Type} [Lattice T] [BoundedOrder T]

mutual

/-- The value of a filter. Its predicates have the values from a place on, in order. -/
def Filter.valueFrom (negate : T → T) (v : Nat → T) : Nat → Filter → T
  | n, .junction op children => Filter.allFrom negate v op n children
  | n, .not child => negate (Filter.valueFrom negate v n child)
  | n, _ => v n

/-- The value of several filters with a connective between them. -/
def Filter.allFrom (negate : T → T) (v : Nat → T) (op : Connective) : Nat → List Filter → T
  | _, [] => op.neutral
  | n, f :: rest =>
    op.combine (Filter.valueFrom negate v n f)
      (Filter.allFrom negate v op (n + (Filter.leaves f).length) rest)

end

/-- The value of several conditions with a connective between them. -/
def Condition.allFrom (negate : T → T) (v : Nat → T) (op : Connective) : Nat → List Condition → T
  | _, [] => op.neutral
  | n, c :: rest =>
    op.combine (c.valueFrom negate v n)
      (Condition.allFrom negate v op (n + c.leaves.length) rest)

/-- Conditions that are joined from the left have the value of all of them. -/
theorem Condition.valueFrom_foldl (negate : T → T) (v : Nat → T) (op : Connective) (n : Nat)
    (c : Condition) (rest : List Condition) :
    (rest.foldl (.join op) c).valueFrom negate v n =
      Condition.allFrom negate v op n (c :: rest) := by
  induction rest generalizing c with
  | nil => exact (op.combine_neutral _).symm
  | cons d rest ih =>
    rw [List.foldl_cons, ih]
    simp only [Condition.allFrom, Condition.valueFrom, Condition.leaves, List.length_append,
      op.combine_assoc, Nat.add_assoc]

end Values

theorem Condition.leaves_foldl (op : Connective) (c : Condition) (rest : List Condition) :
    (rest.foldl (.join op) c).leaves = c.leaves ++ rest.flatMap Condition.leaves := by
  induction rest generalizing c with
  | nil => simp
  | cons d rest ih => rw [List.foldl_cons, ih]; simp [Condition.leaves]

/-! ## What the text of a filter says -/

variable {ctx : Context} {scope : Scope} {names : List String}

/-- A text is read as a condition on the texts of the predicates of a filter, as they are written
between two sessions, and has the value of the filter whatever the values of the predicates are. -/
structure Filter.Says (ctx : Context) (f : Filter) (s : Session) (text : List Char)
    (c : Condition) (t : Session) : Prop where
  reads : Reads text c
  predicates : (f.leaves.mapM Compose.filterSql).Yields ctx s c.leaves t
  value : ∀ {T : Type} [Lattice T] [BoundedOrder T] (negate : T → T) (v : Nat → T) (n : Nat),
    c.valueFrom negate v n = f.valueFrom negate v n

/-- What the texts of several filters say that are written one after the other. -/
inductive Filter.AllSay (ctx : Context) :
    List Filter → Session → List (List Char) → List Condition → Session → Prop
  | nil {s : Session} : Filter.AllSay ctx [] s [] [] s
  | cons {f : Filter} {rest : List Filter} {s t u : Session} {text : List Char}
      {texts : List (List Char)} {c : Condition} {cs : List Condition}
      (first : f.Says ctx s text c t) (others : Filter.AllSay ctx rest t texts cs u) :
      Filter.AllSay ctx (f :: rest) s (text :: texts) (c :: cs) u

namespace Filter.AllSay

variable {fs : List Filter} {s t : Session} {texts : List (List Char)} {cs : List Condition}

theorem reads (h : AllSay ctx fs s texts cs t) : List.Forall₂ Reads texts cs := by
  induction h with
  | nil => exact .nil
  | cons first _ ih => exact .cons first.reads ih

theorem predicates (h : AllSay ctx fs s texts cs t) :
    ((Filter.allLeaves fs).mapM Compose.filterSql).Yields ctx s (cs.flatMap Condition.leaves)
      t := by
  induction h with
  | nil => exact Compose.yields_pure.mpr ⟨rfl, rfl⟩
  | cons first _ ih => exact first.predicates.mapM_append ih

theorem value (h : AllSay ctx fs s texts cs t) {T : Type} [Lattice T] [BoundedOrder T]
    (negate : T → T) (v : Nat → T) (op : Connective) (n : Nat) :
    Condition.allFrom negate v op n cs = Filter.allFrom negate v op n fs := by
  induction h generalizing n with
  | nil => rfl
  | cons first _ ih =>
    rw [Condition.allFrom, Filter.allFrom, first.value, ih, first.predicates.length_mapM]

end Filter.AllSay

/-! ## Junctions and negations -/

section Texts

variable {d : Dialect}

theorem toList_not (tokens : List Token) :
    (sqlText d (Token.not :: .space :: .leftParen :: tokens ++ [Token.rightParen])).toList =
      ['N', 'O', 'T'] ++ ' ' :: '(' :: ((sqlText d tokens).toList ++ [')']) := by
  simp [toList_sqlText, Token.text]

theorem toList_connective (op : Connective) : (op.token.text d).toList = op.word := by
  rw [Token.text_of_fixed d (Dialect.new .ansi) (by cases op <;> decide)]
  cases op <;> decide

/-- What stands between the first parenthesis of a junction and its end. -/
theorem toList_operands (op : Connective) (tokens : List Token) (others : List (List Token)) :
    (sqlText d ([Token.rightParen, .space, op.token, .space, .leftParen].intercalate
        (tokens :: others) ++ [Token.rightParen])).toList =
      (sqlText d tokens).toList ++
        ')' :: joinedText op.word (others.map fun ts => (sqlText d ts).toList) := by
  induction others generalizing tokens with
  | nil => simp [toList_sqlText, joinedText, Token.text]
  | cons next rest ih =>
    have hbetween : (sqlText d [.rightParen, .space, op.token, .space, .leftParen]).toList =
        ')' :: ' ' :: (op.word ++ [' ', '(']) := by
      rw [← toList_connective (d := d)]
      simp [toList_sqlText, Token.text]
    rw [List.intercalate_cons_cons, List.append_assoc, List.append_assoc, toList_sqlText_append,
      toList_sqlText_append, ih, hbetween]
    simp [joinedText]

/-- The operands of a junction stand in parentheses. -/
theorem toList_junction (op : Connective) (tokens : List Token) (others : List (List Token)) :
    (sqlText d (junctionTokens op (tokens :: others))).toList =
      '(' :: ((sqlText d tokens).toList ++
        ')' :: joinedText op.word (others.map fun ts => (sqlText d ts).toList)) := by
  have hopen : (sqlText d [Token.leftParen]).toList = ['('] := by simp [toList_sqlText, Token.text]
  unfold junctionTokens
  rw [List.cons_append, ← List.singleton_append, toList_sqlText_append, toList_operands, hopen]
  rfl

end Texts

variable {s t : Session} {c : Condition} {cs : List Condition}

theorem Filter.Says.not {f : Filter} {text : List Char} (h : f.Says ctx s text c t) :
    (Filter.not f).Says ctx s (['N', 'O', 'T'] ++ ' ' :: '(' :: (text ++ [')'])) (.not c) t where
  reads := h.reads.not
  predicates := h.predicates
  value := fun negate v n => congrArg negate (h.value negate v n)

theorem Filter.AllSay.junction {op : Connective} {fs : List Filter} {text : List Char}
    {texts : List (List Char)} (h : AllSay ctx fs s (text :: texts) (c :: cs) t) :
    (Filter.junction op fs).Says ctx s ('(' :: (text ++ ')' :: joinedText op.word texts))
      (cs.foldl (.join op) c) t where
  reads := by
    obtain ⟨hfirst, hothers⟩ := List.forall₂_cons.mp h.reads
    exact reads_junction op hfirst hothers
  predicates := by
    rw [Condition.leaves_foldl]
    exact h.predicates
  value := by
    intro T _ _ negate v n
    rw [Condition.valueFrom_foldl]
    exact h.value negate v op n

/-! ## Predicates -/

theorem Filter.leaves_of_isPredicate {f : Filter} (h : f.isPredicate = true) : f.leaves = [f] := by
  cases f <;> first | rfl | cases h

theorem Filter.valueFrom_of_isPredicate {f : Filter} (h : f.isPredicate = true) {T : Type}
    [Lattice T] [BoundedOrder T] (negate : T → T) (v : Nat → T) (n : Nat) :
    f.valueFrom negate v n = v n := by
  cases f <;> first | rfl | cases h

theorem yields_filterSql {f : Filter} {text : String} :
    (Compose.filterSql f).Yields ctx s text t ↔
      ∃ tokens, f.toTokens.Yields ctx s tokens t ∧
        text = sqlText ctx.dialect tokens := by
  rw [Compose.filterSql, Compose.written, yields_bind]
  constructor
  · rintro ⟨tokens, _, htokens, htext⟩
    obtain ⟨rfl, rfl⟩ := yields_write.mp htext
    exact ⟨tokens, htokens, rfl⟩
  · rintro ⟨tokens, htokens, rfl⟩
    exact ⟨tokens, t, htokens, yields_write.mpr ⟨rfl, rfl⟩⟩

/-- The text of a predicate is all that is read of it. -/
theorem Filter.says_predicate (h : ctx.IsOrdinary scope names) {f : Filter} (hf : f.isPredicate = true)
    (hvalid : f.validate = .ok ()) (hnames : f.names ⊆ names) :
    f.toTokens.Adds ctx scope (f.valueCount ctx.dialect)
      fun s tokens t => ∃ c, f.Says ctx s (sqlText ctx.dialect tokens).toList c t := by
  refine (Compose.Adds.predicate h hf hvalid hnames).mono fun s tokens t hrun hp => ?_
  refine ⟨.leaf (sqlText ctx.dialect tokens), reads_leaf hp.starts hp.solid, ?_, ?_⟩
  · rw [Filter.leaves_of_isPredicate hf, List.mapM_cons]
    have htext := yields_filterSql.mpr ⟨tokens, hrun, rfl⟩
    exact yields_bind.mpr ⟨_, _, htext, yields_pure.mpr ⟨rfl, rfl⟩⟩
  · intro T _ _ negate v n
    exact (Filter.valueFrom_of_isPredicate hf negate v n).symm

/-! ## Every filter -/

mutual

/-- The text of a filter says what the filter says. -/
theorem Filter.tokens_mean (h : ctx.IsOrdinary scope names) (f : Filter) (hbasic : f.isBasic = true)
    (hvalid : f.validate = .ok ()) (hnames : f.names ⊆ names) :
    f.toTokens.Adds ctx scope (f.valueCount ctx.dialect)
      fun s tokens t => ∃ c, f.Says ctx s (sqlText ctx.dialect tokens).toList c t := by
  cases f with
  | junction op children =>
    rw [Filter.validate, ok_unless_iff] at hvalid
    have hchildren := Filter.allTokens_mean h children hbasic hvalid.2 hnames
    rw [Filter.toTokens]
    refine (hchildren.bind fun inner _ => .pure _).mono ?_
    rintro s tokens t _ ⟨inner, _, ⟨cs, hcs⟩, rfl, rfl⟩
    -- a valid junction has a first operand, to which the others are joined one by one
    cases children with
    | nil => exact absurd rfl hvalid.1
    | cons f rest =>
      cases inner with
      | nil => cases hcs
      | cons first others =>
        cases hcs with
        | cons hfirst hothers =>
          rw [toList_junction]
          exact ⟨_, (AllSay.cons hfirst hothers).junction⟩
  | not child =>
    rw [Filter.toTokens]
    refine ((Filter.tokens_mean h child hbasic hvalid hnames).bind fun inner _ => .pure _).mono ?_
    rintro s tokens t _ ⟨inner, _, ⟨c, hc⟩, rfl, rfl⟩
    rw [toList_not]
    exact ⟨_, hc.not⟩
  | nullTest negated operand => exact Filter.says_predicate h hbasic hvalid hnames
  | compare op left right => exact Filter.says_predicate h hbasic hvalid hnames
  | member negated left right => exact Filter.says_predicate h hbasic hvalid hnames
  | between operand low high => exact Filter.says_predicate h hbasic hvalid hnames
  | like operand text mode ignoreCase => exact Filter.says_predicate h hbasic hvalid hnames
  | rows negated query => cases hbasic

/-- The texts of several filters say what the filters say. -/
theorem Filter.allTokens_mean (h : ctx.IsOrdinary scope names) (fs : List Filter)
    (hbasic : Filter.allBasic fs = true) (hvalid : validateFilters fs = .ok ())
    (hnames : Filter.allNames fs ⊆ names) :
    (Filter.allToTokens fs).Adds ctx scope
      (Item.allValues (Filter.outlines ctx.dialect fs)).length
      fun s tokens t => ∃ cs, Filter.AllSay ctx fs s
        (tokens.map fun ts => (sqlText ctx.dialect ts).toList) cs t := by
  cases fs with
  | nil =>
    refine (Compose.Adds.pure []).mono ?_
    rintro s _ _ _ ⟨rfl, rfl⟩
    exact ⟨[], .nil⟩
  | cons f rest =>
    obtain ⟨hfirst, hrest⟩ := Bool.and_eq_true_iff.mp hbasic
    rw [Filter.allNames, List.append_subset] at hnames
    rw [validateFilters, ok_then_iff] at hvalid
    have hf := Filter.tokens_mean h f hfirst hvalid.1 hnames.1
    have hothers := Filter.allTokens_mean h rest hrest hvalid.2 hnames.2
    rw [Filter.allToTokens, Filter.outlines, Item.allValues_append, List.length_append]
    refine (hf.bind fun tokens _ => hothers.bind fun others _ => .pure _).mono ?_
    rintro s _ t _ ⟨tokens, _, ⟨c, hc⟩, others, _, ⟨cs, hcs⟩, rfl, rfl⟩
    exact ⟨c :: cs, .cons hc hcs⟩

end

namespace Compose

/-- The text of a valid filter over paths and values, whose names are plain, is read by the
precedence of its operators as a Boolean combination of the texts of its predicates in the order
of the tree, and has the value of the tree, whatever the values of its predicates are. There is
such a text if there are placeholders left for the values of the filter. -/
theorem filterSql_means_tree {s : Session} {f : Filter} (hctx : ctx.IsOrdinary s.scope f.names)
    (hvalid : f.validate = .ok ()) (hbasic : f.isBasic = true) :
    (∀ text t, (filterSql f).Yields ctx s text t →
      ∃ c, Condition.read? text = some c ∧ (f.leaves.mapM filterSql).Yields ctx s c.leaves t ∧
        ∀ {T : Type} [Lattice T] [BoundedOrder T] (negate : T → T) (v : Nat → T),
          c.valueFrom negate v 0 = f.valueFrom negate v 0) ∧
    (s.parameters.size + f.valueCount ctx.dialect ≤ Placeholder.maxNumber →
      ∃ text t, (filterSql f).Yields ctx s text t) := by
  have hsays := Filter.tokens_mean hctx f hbasic hvalid (List.Subset.refl _)
  constructor
  · intro text t htext
    obtain ⟨tokens, htokens, rfl⟩ := yields_filterSql.mp htext
    obtain ⟨_, _, c, hc⟩ := hsays.gives rfl htokens
    exact ⟨c, hc.reads.read?, hc.predicates, fun negate v => hc.value negate v 0⟩
  · intro hroom
    obtain ⟨tokens, t, htokens⟩ := hsays.succeeds rfl hroom
    exact ⟨_, t, yields_filterSql.mpr ⟨tokens, htokens, rfl⟩⟩

/-- A junction of one filter, a negated junction with a range in it, and a negated membership next
to a match. -/
theorem filterSql_means_tree_nested :
    let ctx : Context :=
      { dialect := Dialect.new .postgres, aliasMode := .explicitOnly, model := none
        registry := (Dialect.new .postgres).registry }
    let s : Session := { scope := Scope.root }
    let age : Expression := .path (.root "age" none)
    let town : Expression := .path (.child (.root "home" none) "town" none)
    let number := fun n : Int32 => Expression.literal { value := .int n }
    let f : Filter := .junction .or [
      .junction .and [.not (.junction .and [
        .compare .greater age (number 1), .between age (number 2) (number 3)])],
      .member true town (.literal { value := .list [.string "x", .string "y"] }),
      .like town "z" .contains true]
    ∃ text c t, (filterSql f).Yields ctx s text t ∧ Condition.read? text = some c ∧
      (f.leaves.mapM filterSql).Yields ctx s c.leaves t ∧
      ∀ {T : Type} [Lattice T] [BoundedOrder T] (negate : T → T) (v : Nat → T),
        c.valueFrom negate v 0 = f.valueFrom negate v 0 := by
  intro ctx s age town number f
  have hnames : ∀ name ∈ f.names, isName name = true := by decide
  have hctx : ctx.IsOrdinary s.scope f.names :=
    Context.isOrdinary_of_dialect rfl hnames (fun _ hname => nomatch hname) (by decide)
  have htext := filterSql_means_tree hctx rfl rfl
  obtain ⟨text, t, h⟩ := htext.2 (by decide)
  obtain ⟨c, hread, hpredicates, hvalue⟩ := htext.1 text t h
  exact ⟨text, c, t, h, hread, hpredicates, hvalue⟩

end Compose

end SqlCompose
