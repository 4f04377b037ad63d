import SqlCompose.Expression.Basic

/-!
# SqlCompose.Expression.Same -- equality of expressions

Two expressions are the same when they have the same shape and their values are
the same as values: what is no number differs from itself, and streams, marker
templates and row converters are the same only if they were made by one act.
-/

namespace SqlCompose

mutual

/-- Equality of expressions. -/
def Expression.same : Expression → Expression → Bool
  | .path a, .path b => a == b
  | .dataTarget a, .dataTarget b => DataTarget.same a b
  | .target a, .target b => RelationalTarget.same a b
  | .filter a, .filter b => Filter.same a b
  | .sort a, .sort b => SortOrder.same a b
  | .function a, .function b => FunctionCall.same a b
  | .literal a, .literal b => a.value.same b.value && a.temporal == b.temporal
  | .parameter a, .parameter b => a.same b
  | .sql a, .sql b => a.text == b.text && Value.sameItems a.parameters b.parameters
  | .query a, .query b => SelectQuery.same a b
  | _, _ => false
termination_by structural x => x

def sameExpressions : List Expression → List Expression → Bool
  | [], [] => true
  | a :: as, b :: bs => Expression.same a b && sameExpressions as bs
  | _, _ => false
termination_by structural x => x

/-- Equality of filters. -/
def Filter.same : Filter → Filter → Bool
  | .nullTest n a, .nullTest m b => n == m && Expression.same a b
  | .compare o a b, .compare p c d => o == p && Expression.same a c && Expression.same b d
  | .member n a b, .member m c d => n == m && Expression.same a c && Expression.same b d
  | .between a b c, .between d e f =>
    Expression.same a d && Expression.same b e && Expression.same c f
  | .like a s m i, .like b t n j => Expression.same a b && s == t && m == n && i == j
  | .junction o as, .junction p bs => o == p && sameFilters as bs
  | .not a, .not b => Filter.same a b
  | .rows n a, .rows m b => n == m && Expression.same a b
  | _, _ => false
termination_by structural x => x

def sameFilters : List Filter → List Filter → Bool
  | [], [] => true
  | a :: as, b :: bs => Filter.same a b && sameFilters as bs
  | _, _ => false
termination_by structural x => x

/-- Equality of sorts. -/
def SortOrder.same : SortOrder → SortOrder → Bool
  | .term a d, .term b e => Expression.same a b && d == e
  | .composite as, .composite bs => sameSorts as bs
  | _, _ => false
termination_by structural x => x

def sameSorts : List SortOrder → List SortOrder → Bool
  | [], [] => true
  | a :: as, b :: bs => SortOrder.same a b && sameSorts as bs
  | _, _ => false
termination_by structural x => x

/-- Equality of function calls. -/
def FunctionCall.same : FunctionCall → FunctionCall → Bool
  | ⟨k, as, d⟩, ⟨l, bs, e⟩ => k == l && sameExpressions as bs && d == e
termination_by structural x => x

/-- Equality of joins. -/
def Join.same : Join → Join → Bool
  | ⟨k, n, s, a, f, e⟩, ⟨k', n', s', a', g, e'⟩ =>
    k == k' && n == n' && s == s' && a == a' && e == e' &&
      (match f, g with
        | some f, some g => Filter.same f g
        | none, none => true
        | _, _ => false)
termination_by structural x => x

def sameJoins : List Join → List Join → Bool
  | [], [] => true
  | a :: as, b :: bs => Join.same a b && sameJoins as bs
  | _, _ => false
termination_by structural x => x

/-- Equality of targets. -/
def RelationalTarget.same : RelationalTarget → RelationalTarget → Bool
  | ⟨s, t, a, js, e⟩, ⟨s', t', a', js', e'⟩ =>
    s == s' && t == t' && a == a' && e == e' && sameJoins js js'
termination_by structural x => x

/-- Equality of data targets. -/
def DataTarget.same : DataTarget → DataTarget → Bool
  | ⟨e, a, js⟩, ⟨e', a', js'⟩ => e == e' && a == a' && sameJoins js js'
termination_by structural x => x

def sameSelections : List Selection → List Selection → Bool
  | [], [] => true
  | ⟨e, a⟩ :: as, ⟨f, b⟩ :: bs => Expression.same e f && a == b && sameSelections as bs
  | _, _ => false
termination_by structural x => x

/-- Equality of projections. -/
def Projection.same : Projection → Projection → Bool
  | ⟨as, m, c⟩, ⟨bs, n, d⟩ => sameSelections as bs && m == n && c == d
termination_by structural x => x

/-- Equality of queries. -/
def SelectQuery.same : SelectQuery → SelectQuery → Bool
  | ⟨s, d, p, f, o, l, n, k⟩, ⟨s', d', p', f', o', l', n', k'⟩ =>
    Expression.same s s' && d == d' && l == l' && n == n' && k == k' &&
      (match p, p' with
        | some p, some q => Projection.same p q
        | none, none => true
        | _, _ => false) &&
      (match f, f' with
        | some f, some g => Filter.same f g
        | none, none => true
        | _, _ => false) &&
      (match o, o' with
        | some s, some t => SortOrder.same s t
        | none, none => true
        | _, _ => false)

termination_by structural x => x
end

end SqlCompose
