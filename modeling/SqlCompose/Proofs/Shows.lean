import Mathlib.Data.List.Forall2
import SqlCompose.Proofs.Names
import SqlCompose.Proofs.Outline

/-!
# SqlCompose.Proofs.Shows -- what a text shows, from left to right

A reading says which characters are plain, how values are written and which
texts stand for a sub-select. A text shows some items if it consists of plain
characters and of those items in order. A sub-select in parentheses has exactly
its own text between them; one out of parentheses has a delimiter, which is no
parenthesis, right before it or right after it.
-/

namespace SqlCompose

open Placeholder

/-- A character that separates operands, such as a blank or a comma. It is no
parenthesis and belongs to no placeholder. -/
def Delimiter (c : Char) : Prop := c ≠ '(' ∧ c ≠ ')' ∧ c ≠ ':' ∧ isInner c = false

instance (c : Char) : Decidable (Delimiter c) := inferInstanceAs (Decidable (_ ∧ _ ∧ _ ∧ _))

theorem delimiter_blank : Delimiter ' ' := by decide

/-- A text whose first character is not blank and belongs to no placeholder. -/
def Opens (w : List Char) : Prop :=
  ∃ c, w.head? = some c ∧ c ≠ ':' ∧ isInner c = false ∧ Text.isBlank c = false

theorem Opens.checkSqlText {sql : String} (h : Opens sql.toList) :
    SqlCompose.checkSqlText sql = .ok () := by
  obtain ⟨c, hc, _, _, hblank⟩ := h
  have hsql : Text.allBlank sql = false := by
    rw [Text.allBlank, List.all_eq_false]
    exact ⟨c, List.mem_of_head? hc, by rw [hblank]; exact Bool.false_ne_true⟩
  rw [SqlCompose.checkSqlText, hsql]
  rfl

/-- A way to read texts. -/
structure Reading where
  plain : Char → Prop
  value : List Char → Parameter → Prop
  select : SelectQuery → List Char → Prop

namespace Reading

/-- A text shows items from left to right after a character. -/
inductive ShowsAfter (r : Reading) : Char → List Char → List Item → Prop
  | nil {prev : Char} : ShowsAfter r prev [] []
  | char {prev c : Char} {w : List Char} {items : List Item} :
      r.plain c → ShowsAfter r c w items → ShowsAfter r prev (c :: w) items
  | value {prev : Char} {v w : List Char} {p : Parameter} {items : List Item} :
      r.value v p → (∀ c, ShowsAfter r c w items) → ShowsAfter r prev (v ++ w) (.value p :: items)
  /-- Nothing but the sub-select stands between the parentheses. -/
  | enclosed {prev : Char} {v w : List Char} {q : SelectQuery} {inner items : List Item} :
      r.select q v → (∀ c, ShowsAfter r c v inner) → ShowsAfter r ')' w items →
        ShowsAfter r prev ('(' :: (v ++ ')' :: w)) (.select q true inner :: items)
  /-- There is a delimiter on one side of the sub-select. -/
  | bare {prev : Char} {v w : List Char} {q : SelectQuery} {inner items : List Item} :
      (Delimiter prev ∨ ∃ c, w.head? = some c ∧ Delimiter c) → Opens v → Splits w →
        r.select q v → (∀ c, ShowsAfter r c v inner) → (∀ c, ShowsAfter r c w items) →
          ShowsAfter r prev (v ++ w) (.select q false inner :: items)

/-- A text shows items wherever it stands. -/
def Shows (r : Reading) (w : List Char) (items : List Item) : Prop :=
  ∀ prev, r.ShowsAfter prev w items

/-- A text shows what an expression has to show, wherever the expression may
stand. The text of a sub-select is one only for its surroundings to place. -/
def Presents (r : Reading) (d : Dialect) (e : Expression) (w : List Char) : Prop :=
  match e with
  | .query q => Opens w ∧ r.select q w ∧ r.Shows w (q.outline d)
  | e => r.Shows w (e.outline d false)

variable {r : Reading} {d : Dialect} {u v w : List Char} {a b items : List Item} {e : Expression}

theorem splits_append (hw : Splits w) (hv : Splits v) : Splits (w ++ v) := by
  cases w with
  | nil => exact hv
  | cons c rest => exact hw

theorem ShowsAfter.append {prev : Char} (hu : r.ShowsAfter prev u a) (hsplits : Splits v)
    (hv : r.Shows v b) : r.ShowsAfter prev (u ++ v) (a ++ b) := by
  induction hu with
  | nil => exact hv _
  | char hc _ ih => exact .char hc ih
  | value hp _ ih =>
    rw [List.append_assoc]
    exact .value hp ih
  | enclosed hq hinner _ _ ih =>
    simp only [List.cons_append, List.append_assoc]
    exact .enclosed hq hinner ih
  | bare hdelimiter hopens hw hq hinner _ _ ih =>
    simp only [List.cons_append, List.append_assoc]
    refine .bare ?_ hopens (splits_append hw hsplits) hq hinner ih
    rcases hdelimiter with h | ⟨c, hc, h⟩
    · exact .inl h
    · refine .inr ⟨c, ?_, h⟩
      rw [List.head?_append, hc]
      rfl

namespace Shows

theorem nil : r.Shows [] [] := fun _ => .nil

theorem char {c : Char} (hc : r.plain c) (hw : r.ShowsAfter c w items) : r.Shows (c :: w) items :=
  fun _ => .char hc hw

theorem value {p : Parameter} (hp : r.value v p) (hw : r.Shows w items) :
    r.Shows (v ++ w) (.value p :: items) := fun _ => .value hp hw

theorem append (hu : r.Shows u a) (hsplits : Splits v) (hv : r.Shows v b) :
    r.Shows (u ++ v) (a ++ b) := fun prev => (hu prev).append hsplits hv

theorem plain_append {cs : List Char} (h : ∀ c ∈ cs, r.plain c) (hw : r.Shows w items) :
    r.Shows (cs ++ w) items := by
  induction cs with
  | nil => exact hw
  | cons c rest ih =>
    exact char (h c List.mem_cons_self) (ih (fun c' hc => h c' (List.mem_cons_of_mem c hc)) c)

/-- Plain characters show nothing. -/
theorem of_plain {cs : List Char} (h : ∀ c ∈ cs, r.plain c) : r.Shows cs [] := by
  simpa using plain_append h nil

theorem append_plain {cs : List Char} (hw : r.Shows w items) (hsplits : Splits cs)
    (h : ∀ c ∈ cs, r.plain c) : r.Shows (w ++ cs) items := by
  simpa using hw.append hsplits (of_plain h)

end Shows

/-! ## Lists -/

/-- Each text shows the items at its place. -/
def ShowsEach (r : Reading) (itemss : List (List Item)) (texts : List String) : Prop :=
  List.Forall₂ (fun items text => r.Shows text.toList items) itemss texts

/-- Texts with commas between them show the items of each in order. -/
theorem ShowsEach.commas (hplain : Admits r.plain) {itemss : List (List Item)}
    {texts : List String} (h : r.ShowsEach itemss texts) :
    r.Shows (", ".intercalate texts).toList itemss.flatten := by
  induction h with
  | nil => exact Shows.nil
  | @cons items text itemss texts hitems hrest ih =>
    rw [List.flatten_cons]
    cases hrest with
    | nil =>
      rw [String.intercalate_singleton, List.flatten_nil, List.append_nil]
      exact hitems
    | cons _ _ =>
      rw [String.intercalate_cons_cons]
      simp only [String.toList_append, List.append_assoc]
      refine hitems.append (splits_cons (by decide) _) ?_
      exact .char (hplain ',' (by decide)) (Shows.char (hplain ' ' (by decide)) (ih _) _)

/-! ## Placing the text of an expression -/

/-- Only a sub-select cares about its position. -/
theorem outline_of_not_isQuery (h : e.isQuery = false) (b : Bool) :
    e.outline d b = e.outline d false := by
  cases e <;> simp_all [Expression.outline, Expression.isQuery]

theorem Presents.shows (he : e.isQuery = false) (h : r.Presents d e w) (b : Bool) :
    r.Shows w (e.outline d b) := by
  rw [outline_of_not_isQuery he]
  cases e <;> first | exact h | simp [Expression.isQuery] at he

/-- In parentheses. -/
theorem Presents.enclosed (hplain : Admits r.plain) (h : r.Presents d e w) (hv : r.Shows v b) :
    r.Shows ('(' :: (w ++ ')' :: v)) (e.outline d true ++ b) := by
  have hopen : r.plain '(' := hplain _ (by decide)
  have hclose : r.plain ')' := hplain _ (by decide)
  cases he : e.isQuery with
  | false =>
    exact .char hopen ((h.shows he true).append (splits_cons (by decide) v) (.char hclose (hv _)) _)
  | true =>
    cases e <;> simp only [Expression.isQuery, reduceCtorEq] at he
    obtain ⟨_, hq, hw⟩ := h
    rw [Expression.outline]
    exact fun _ => .enclosed hq hw (hv _)

/-- After a delimiter. -/
theorem Presents.after {prev : Char} (hprev : Delimiter prev) (h : r.Presents d e w)
    (hsplits : Splits v) (hv : r.Shows v b) :
    r.ShowsAfter prev (w ++ v) (e.outline d false ++ b) := by
  cases he : e.isQuery with
  | false => exact (h.shows he false).append hsplits hv _
  | true =>
    cases e <;> simp only [Expression.isQuery, reduceCtorEq] at he
    obtain ⟨hopens, hq, hw⟩ := h
    rw [Expression.outline]
    exact .bare (.inl hprev) hopens hsplits hq hw hv

/-- Before a delimiter. -/
theorem Presents.before (hplain : Admits r.plain) (h : r.Presents d e w) {c : Char}
    (hc : Delimiter c) (hv : r.ShowsAfter c v b) :
    r.Shows (w ++ c :: v) (e.outline d false ++ b) := by
  have hrest : r.Shows (c :: v) b := .char (hplain c hc.2.2.1) hv
  have hsplits : Splits (c :: v) := splits_cons hc.2.2.2 v
  cases he : e.isQuery with
  | false => exact (h.shows he false).append hsplits hrest
  | true =>
    cases e <;> simp only [Expression.isQuery, reduceCtorEq] at he
    obtain ⟨hopens, hq, hw⟩ := h
    rw [Expression.outline]
    exact fun _ => .bare (.inr ⟨c, rfl, hc⟩) hopens hsplits hq hw hrest

end Reading

end SqlCompose
