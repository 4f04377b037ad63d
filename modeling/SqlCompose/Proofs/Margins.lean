import SqlCompose.Proofs.Calls

/-!
# SqlCompose.Proofs.Margins -- pages and row locks around laid out texts

A page of rows and a row lock close behind a statement what they open before it. Both are
written around statements whose rows they are about, so outside of their own parentheses
they may have what they like.
-/

namespace SqlCompose

open Lexeme

variable {value : Parameter → Prop} {acc : Accumulator} {rule : Rule}
  {a b opening closing : String} {k m n : Nat} {d : Dialect}

/-! ## Numbers between other texts -/

theorem toList_toString_nat (n : Nat) : ∀ c ∈ (toString n).toList, Text.isDecimalDigit c = true := by
  intro c hc
  rw [Nat.toString_eq_ofList_toDigits, String.toList_ofList] at hc
  exact Text.isDecimalDigit_of_mem_natDigits hc

/-- A number leads from everywhere to the same depth. -/
theorem Lexeme.leads_nat (n depth : Nat) : Leads rule (.at depth) (.at depth) (toString n).toList := by
  have hconforms : ∀ rule, Conforms rule (toString n).toList := fun rule =>
    conforms_digits (toList_toString_nat n)
  cases depth with
  | zero => exact hconforms rule
  | succ k => simpa using (hconforms .anything).inside rule k

/-- A text without placeholders that starts with a blank, and leads from one number of open
parentheses to another. -/
structure Tail (m n : Nat) (a : String) : Prop where
  blank : StartsBlank a
  noColon : NoColon a
  leads : Leads .anything (.at m) (.at n) a.toList

instance (m n : Nat) (a : String) : Decidable (Tail m n a) :=
  decidable_of_iff (StartsBlank a ∧ NoColon a ∧ Leads .anything (.at m) (.at n) a.toList)
    ⟨fun ⟨hblank, hcolon, hleads⟩ => ⟨hblank, hcolon, hleads⟩,
      fun h => ⟨h.blank, h.noColon, h.leads⟩⟩

theorem noColon_append (ha : NoColon a) (hb : NoColon b) : NoColon (a ++ b) := by
  rw [NoColon, String.toList_append, List.mem_append, not_or]
  exact ⟨ha, hb⟩

theorem endsApart_text (a : String) (hne : b.toList ≠ []) (h : EndsApart b.toList) :
    EndsApart (a ++ b).toList := by
  rw [String.toList_append]
  exact endsApart_append hne h

namespace Tail

theorem starts (h : Tail m n a) : Text.Stops Text.isWordChar a.toList := by
  intro c hc
  rw [h.blank] at hc
  cases hc
  decide

/-- A number behind a text that ends with a blank. -/
theorem number (h : Tail m n a) (hends : EndsApart a.toList) (k : Nat) :
    Tail m n (a ++ toString k) := by
  refine ⟨startsBlank_append h.blank, noColon_append h.noColon (unmarked_nat k).noColon, ?_⟩
  rw [String.toList_append]
  exact h.leads.append (leads_nat k n) (.inl hends)

/-- A text behind a number. -/
theorem words (h : Tail m n a) (hcolon : NoColon b)
    (hleads : Leads .anything (.at n) (.at k) b.toList) (hstarts : Text.Stops Text.isWordChar b.toList) :
    Tail m k (a ++ b) := by
  refine ⟨startsBlank_append h.blank, noColon_append h.noColon hcolon, ?_⟩
  rw [String.toList_append]
  exact h.leads.append hleads (.inr hstarts)

theorem append (ha : Tail m n a) (hb : Tail n k b) : Tail m k (a ++ b) :=
  ha.words hb.noColon hb.leads hb.starts

end Tail

namespace LaysText

theorem tail (ha : LaysText value acc .anything a) (hb : Tail 0 0 b) :
    LaysText value acc .anything (a ++ b) := by
  unfold LaysText
  rw [String.toList_append]
  exact .before ha hb.noColon hb.leads hb.starts

theorem within (ha : LaysText value acc .anything a) (hcolon : NoColon opening)
    (hopens : Leads .anything (.at 0) (.at (n + 1)) opening.toList) (hends : EndsApart opening.toList)
    (hclosing : Tail (n + 1) 0 closing) : LaysText value acc .anything (opening ++ a ++ closing) := by
  unfold LaysText
  rw [String.toList_append, String.toList_append]
  exact .wrap ⟨hcolon, hclosing.noColon, hopens, hclosing.leads, hends, hclosing.starts⟩ ha

end LaysText

/-! ## Pages -/

namespace Pagination

variable (limit : Nat) (offset : Int)

theorem lays_limitOffset (h : LaysText value acc .anything a) :
    LaysText value acc .anything (limitOffset a limit offset) := by
  have hlimit : Tail 0 0 (" limit " ++ toString limit) :=
    Tail.number (a := " limit ") (by decide) (by decide) limit
  unfold limitOffset
  split
  · obtain ⟨n, rfl⟩ := Int.eq_ofNat_of_zero_le ‹_›
    have hoffset : Tail 0 0 (" limit " ++ toString limit ++ " offset ") :=
      hlimit.append (n := 0) (by decide)
    exact h.tail (hoffset.number (endsApart_text _ (by decide) (by decide)) n)
  · exact h.tail hlimit

theorem lays_offsetFetch (h : LaysText value acc .anything a) :
    LaysText value acc .anything (offsetFetch a limit offset) := by
  unfold offsetFetch
  split
  · have hlimit : Tail 0 0 (" FETCH FIRST " ++ toString limit) :=
      Tail.number (a := " FETCH FIRST ") (by decide) (by decide) limit
    exact h.tail (hlimit.append (b := " ROWS ONLY") (n := 0) (by decide))
  · obtain ⟨n, rfl⟩ := Int.eq_ofNat_of_zero_le (Int.not_lt.mp ‹_›)
    have hoffset : Tail 0 0 (" OFFSET " ++ toString n ++ " ROWS FETCH NEXT ") :=
      (Tail.number (a := " OFFSET ") (n := 0) (by decide) (by decide) n).append (by decide)
    have hlimit := hoffset.number (endsApart_text _ (by decide) (by decide)) limit
    exact h.tail (hlimit.append (b := " ROWS ONLY") (n := 0) (by decide))

theorem lays_offsetFetchRequired (ordered : Bool) (h : LaysText value acc .anything a) :
    LaysText value acc .anything (offsetFetchRequired a limit offset ordered) := by
  have hsorted : LaysText value acc .anything
      (a ++ if ordered then "" else " ORDER BY (SELECT NULL)") := by
    cases ordered with
    | false => exact h.tail (by decide)
    | true => simpa using h
  have hoffset : Tail 0 0 (" OFFSET " ++ toString offset.toNat ++ " ROWS FETCH NEXT ") :=
    (Tail.number (a := " OFFSET ") (n := 0) (by decide) (by decide) offset.toNat).append (by decide)
  have hlimit := hoffset.number (endsApart_text _ (by decide) (by decide)) limit
  exact hsorted.tail (hlimit.append (b := " ROWS ONLY") (n := 0) (by decide))

theorem lays_rowNum (h : LaysText value acc .anything a) :
    LaysText value acc .anything (rowNum a limit offset) := by
  unfold rowNum
  split
  · have hclosing : Tail 1 0 (" ) where rownum <= " ++ toString limit) :=
      Tail.number (a := " ) where rownum <= ") (by decide) (by decide) limit
    exact h.within (by decide) (by decide) (by decide) hclosing
  · obtain ⟨n, rfl⟩ := Int.eq_ofNat_of_zero_le (Int.le_of_lt (Int.not_le.mp ‹_›))
    have hfirst : Tail 2 1 (" ) row_ where rownum <= " ++ toString (upperRow limit (n : Int).toNat)) :=
      Tail.number (a := " ) row_ where rownum <= ") (by decide) (by decide) _
    have hsecond : Tail 2 0 (" ) row_ where rownum <= " ++ toString (upperRow limit (n : Int).toNat) ++
        ") where rownum_ > ") :=
      hfirst.words (by decide) (by decide) (by decide)
    have hclosing := hsecond.number (endsApart_text _ (by decide) (by decide)) n
    exact h.within (by decide) (by decide) (by decide) hclosing

/-- A computed row number closes the parentheses that it opens. -/
def IsRowNumber (function : String) : Prop :=
  NoColon ("select * from ( select inner_.*, " ++ function ++ " as rownumber_ from ( ") ∧
    Leads .anything (.at 0) (.at 2)
      ("select * from ( select inner_.*, " ++ function ++ " as rownumber_ from ( ").toList

instance (function : String) : Decidable (IsRowNumber function) :=
  inferInstanceAs (Decidable (_ ∧ _))

theorem lays_rowNumber {function : String} (hfunction : IsRowNumber function)
    (h : LaysText value acc .anything a) :
    LaysText value acc .anything (rowNumber a limit offset function) := by
  have hfirst : Tail 2 0 (" ) inner_ ) outer_ where rownumber_ > " ++ toString offset.toNat) :=
    Tail.number (a := " ) inner_ ) outer_ where rownumber_ > ") (by decide) (by decide) _
  have hsecond : Tail 0 0 (" and rownumber_ <= " ++ toString (upperRow limit offset.toNat)) :=
    Tail.number (a := " and rownumber_ <= ") (by decide) (by decide) _
  have hclosing := hfirst.append
    (hsecond.append (b := " order by rownumber_") (k := 0) (by decide))
  have htext : rowNumber a limit offset function =
      "select * from ( select inner_.*, " ++ function ++ " as rownumber_ from ( " ++ a ++
        (s!" ) inner_ ) outer_ where rownumber_ > {offset.toNat}" ++
          s!" and rownumber_ <= {upperRow limit offset.toNat} order by rownumber_") :=
    String.append_assoc
  rw [htext]
  exact h.within hfunction.1 hfunction.2 (endsApart_text _ (by decide) (by decide)) hclosing

end Pagination

theorem Dialect.isRowNumber_limitStyle (d : Dialect) {function : String}
    (h : d.limitStyle = some (.rowNumber function)) : Pagination.IsRowNumber function := by
  have hall : ∀ f ∈ Pagination.numberings, Pagination.IsRowNumber f := by decide +kernel
  exact hall function (Dialect.mem_numberings h)

namespace LaysText

/-- A page is laid out around the text or fails. -/
theorem page {limit offset : Option Nat} {ordered : Bool} {paged : String}
    (h : LaysText value acc .anything a) (hpage : d.page a limit offset ordered = .ok paged) :
    LaysText value acc .anything paged := by
  cases limit with
  | none =>
    cases hpage
    exact h
  | some limit =>
    unfold Dialect.page at hpage
    cases hskipped : skippedRows offset with
    | error e =>
      rw [hskipped] at hpage
      cases hpage
    | ok skipped =>
      have hordered : d.limitOffsetOrdered a limit skipped ordered = .ok paged := by
        rwa [hskipped] at hpage
      unfold Dialect.limitOffsetOrdered at hordered
      cases hstyle : d.limitStyle with
      | none =>
        rw [hstyle] at hordered
        cases hordered
      | some style =>
        rw [hstyle] at hordered
        cases hordered
        -- a window of rows is written in five ways
        cases style with
        | limitOffset => exact Pagination.lays_limitOffset limit skipped h
        | offsetFetch => exact Pagination.lays_offsetFetch limit skipped h
        | offsetFetchRequired => exact Pagination.lays_offsetFetchRequired limit skipped ordered h
        | rowNum => exact Pagination.lays_rowNum limit skipped h
        | rowNumber function =>
          exact Pagination.lays_rowNumber limit skipped (d.isRowNumber_limitStyle hstyle) h

end LaysText

/-! ## Locks -/

theorem RowLock.Clause.conforms {text : String} (h : Clause text) :
    Conforms .anything text.toList := by
  have hfixed : ∀ text ∈ fixedClauses, Conforms .anything text.toList := by decide +kernel
  have hwait : Conforms .anything "FOR UPDATE WAIT ".toList := by decide
  cases h with
  | fixed hmem => exact hfixed text hmem
  | wait seconds =>
    rw [String.toList_append]
    exact hwait.append (leads_nat seconds 0) (.inl (by decide))

/-- A row lock is written behind the text, if it is written at all. -/
theorem LaysText.lock (lock : Option Lock) (h : LaysText value acc .anything a) :
    LaysText value acc .anything (d.lock a lock) := by
  cases lock with
  | none => exact h
  | some l =>
    cases hclause : d.vendor.lockClause l.mode l.timeoutMillis with
    | none => simpa [Dialect.lock, Dialect.lockClause, hclause] using h
    | some clause =>
      have hblank : Conforms .anything " ".toList := by decide
      have hwritten := Dialect.clause_lockClause hclause
      have htail : Tail 0 0 (" " ++ clause) := by
        refine ⟨startsBlank_append (by decide),
          noColon_append (by decide) hwritten.unmarked.noColon, ?_⟩
        rw [String.toList_append]
        exact hblank.append hwritten.conforms (.inl (by decide))
      simpa [Dialect.lock, Dialect.lockClause, hclause, String.append_assoc] using h.tail htail

end SqlCompose
