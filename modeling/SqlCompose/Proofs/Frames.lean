import Mathlib.Data.List.Infix
import SqlCompose.Proofs.Marks
import SqlCompose.Sql.Select

/-!
# SqlCompose.Proofs.Frames -- what dialects write around finished SQL

A page of rows, a row lock and a function leave the SQL they are given as it is
and write something around it that does not depend on it. What they write has
no colon in it, so it neither is a placeholder nor adds to one, and neither bind
markers nor single quotes.
-/

namespace SqlCompose

open Placeholder

/-- A text that starts with a blank. -/
def StartsBlank (s : String) : Prop := s.toList.head? = some ' '

instance (s : String) : Decidable (StartsBlank s) :=
  inferInstanceAs (Decidable (s.toList.head? = some ' '))

theorem startsBlank_append {s t : String} (h : StartsBlank s) : StartsBlank (s ++ t) := by
  unfold StartsBlank at *
  rw [String.toList_append, List.head?_append, h]
  rfl

theorem StartsBlank.splits {s : String} (h : StartsBlank s) : Splits s.toList := by
  intro c hc
  rw [h] at hc
  cases hc
  rfl

/-- A function of texts writes a fixed text before and after the one it is given. -/
structure Frames (f : String → String) (opening closing : String) : Prop where
  eq : ∀ sql, f sql = opening ++ sql ++ closing
  unmarked_opening : Unmarked opening
  unmarked_closing : Unmarked closing
  blank : StartsBlank closing

theorem Frames.noColon_opening {f : String → String} {opening closing : String}
    (h : Frames f opening closing) : NoColon opening := h.unmarked_opening.noColon

theorem Frames.noColon_closing {f : String → String} {opening closing : String}
    (h : Frames f opening closing) : NoColon closing := h.unmarked_closing.noColon

/-- What stands in front of a page: nothing, or the start of a query around it. -/
def OpensPage (s : String) : Prop := s = "" ∨ s.toList.head? = some 's'

/-! ## Pages -/

/-- A text that is written after another one. -/
theorem frames_after {f : String → String} (closing : String) (h : ∀ sql, f sql = sql ++ closing)
    (hcolon : Unmarked closing) (hblank : StartsBlank closing) :
    ∃ opening closing, Frames f opening closing ∧ OpensPage opening := by
  refine ⟨"", closing, ⟨?_, by decide, hcolon, hblank⟩, .inl rfl⟩
  intro sql
  rw [h, String.empty_append]

namespace Pagination

theorem frames_limitOffset (limit : Nat) (offset : Int) :
    ∃ opening closing, Frames (fun sql => limitOffset sql limit offset) opening closing ∧
      OpensPage opening := by
  have hlimit := unmarked_nat limit
  have hoffset := unmarked_int offset
  by_cases h : offset ≥ 0
  · refine frames_after s!" limit {limit} offset {offset}" (fun sql => if_pos h) ?_ ?_
    · exact unmarked_append (unmarked_append (unmarked_append (by decide) hlimit) (by decide)) hoffset
    · exact startsBlank_append (startsBlank_append (startsBlank_append (by decide)))
  · refine frames_after s!" limit {limit}" (fun sql => if_neg h) ?_ ?_
    · exact unmarked_append (by decide) hlimit
    · exact startsBlank_append (by decide)

theorem frames_offsetFetch (limit : Nat) (offset : Int) :
    ∃ opening closing, Frames (fun sql => offsetFetch sql limit offset) opening closing ∧
      OpensPage opening := by
  have hlimit := unmarked_nat limit
  have hoffset := unmarked_int offset
  by_cases h : offset < 0
  · refine frames_after s!" FETCH FIRST {limit} ROWS ONLY" (fun sql => if_pos h) ?_ ?_
    · exact unmarked_append (unmarked_append (by decide) hlimit) (by decide)
    · exact startsBlank_append (startsBlank_append (by decide))
  · refine frames_after s!" OFFSET {offset} ROWS FETCH NEXT {limit} ROWS ONLY"
      (fun sql => if_neg h) ?_ ?_
    · exact unmarked_append (unmarked_append (unmarked_append (unmarked_append (by decide) hoffset)
        (by decide)) hlimit) (by decide)
    · exact startsBlank_append (startsBlank_append (startsBlank_append (startsBlank_append
        (by decide))))

theorem frames_offsetFetchRequired (limit : Nat) (offset : Int) (ordered : Bool) :
    ∃ opening closing, Frames (fun sql => offsetFetchRequired sql limit offset ordered) opening
      closing ∧ OpensPage opening := by
  have hlimit := unmarked_nat limit
  have hoffset := unmarked_nat offset.toNat
  have hfetch : Unmarked s!" OFFSET {offset.toNat} ROWS FETCH NEXT {limit} ROWS ONLY" :=
    unmarked_append (unmarked_append (unmarked_append (unmarked_append (by decide) hoffset)
      (by decide)) hlimit) (by decide)
  refine frames_after _ (fun sql => String.append_assoc) ?_ ?_
  · refine unmarked_append ?_ hfetch
    cases ordered <;> decide
  · cases ordered with
    | false => exact startsBlank_append (by decide)
    | true =>
      rw [if_pos rfl, String.empty_append]
      exact startsBlank_append (startsBlank_append (startsBlank_append (startsBlank_append
        (by decide))))

theorem frames_rowNum (limit : Nat) (offset : Int) :
    ∃ opening closing, Frames (fun sql => rowNum sql limit offset) opening closing ∧
      OpensPage opening := by
  by_cases h : offset ≤ 0
  · refine ⟨_, _, ⟨fun sql => if_pos h, ?_, ?_, ?_⟩, .inr ?_⟩
    · decide
    · exact unmarked_append (by decide) (unmarked_nat limit)
    · exact startsBlank_append (by decide)
    · decide
  · refine ⟨_, _, ⟨fun sql => if_neg h, ?_, ?_, ?_⟩, .inr ?_⟩
    · decide
    · exact unmarked_append (unmarked_append (unmarked_append (by decide) (unmarked_nat _))
        (by decide)) (unmarked_int offset)
    · exact startsBlank_append (startsBlank_append (startsBlank_append (by decide)))
    · decide

theorem frames_rowNumber (limit : Nat) (offset : Int) {function : String} (h : Unmarked function) :
    ∃ opening closing, Frames (fun sql => rowNumber sql limit offset function) opening closing ∧
      OpensPage opening := by
  refine ⟨"select * from ( select inner_.*, " ++ function ++ " as rownumber_ from ( ",
    s!" ) inner_ ) outer_ where rownumber_ > {offset.toNat}" ++
      s!" and rownumber_ <= {upperRow limit offset.toNat} order by rownumber_",
    ⟨fun sql => ?_, ?_, ?_, ?_⟩, .inr ?_⟩
  · exact String.append_assoc
  · exact unmarked_append (unmarked_append (by decide) h) (by decide)
  · exact unmarked_append (unmarked_append (by decide) (unmarked_nat _))
      (unmarked_append (unmarked_append (by decide) (unmarked_nat _)) (by decide))
  · exact startsBlank_append (startsBlank_append (by decide))
  · simp [String.toList_append]

end Pagination

/-- Every way to keep a page frames the SQL. -/
theorem LimitStyle.frames (style : LimitStyle) (hfunction : ∀ f, style = .rowNumber f → Unmarked f)
    (limit : Nat) (offset : Int) (ordered : Bool) :
    ∃ opening closing, Frames (fun sql => style.apply sql limit offset ordered) opening closing ∧
      OpensPage opening := by
  cases style with
  | limitOffset => exact Pagination.frames_limitOffset limit offset
  | offsetFetch => exact Pagination.frames_offsetFetch limit offset
  | offsetFetchRequired => exact Pagination.frames_offsetFetchRequired limit offset ordered
  | rowNum => exact Pagination.frames_rowNum limit offset
  | rowNumber function => exact Pagination.frames_rowNumber limit offset (hfunction function rfl)

/-- The functions that number rows for products without a clause for pages. -/
def Pagination.numberings : List String :=
  ["rownumber() over()", "row_number() over (order by (select 0))"]

theorem Dialect.mem_numberings {d : Dialect} {f : String}
    (h : d.limitStyle = some (.rowNumber f)) : f ∈ Pagination.numberings := by
  obtain ⟨kind, known⟩ := d
  cases kind with
  | oracle =>
    have hstyle := Option.some.inj h
    split at hstyle <;> cases hstyle
  | db2 | sqlServer =>
    have hstyle := Option.some.inj h
    split at hstyle
    · cases hstyle
    · cases hstyle
      decide
  | _ => cases h

theorem Dialect.unmarked_rowNumber {d : Dialect} {f : String}
    (h : d.limitStyle = some (.rowNumber f)) : Unmarked f := by
  have hall : ∀ f ∈ Pagination.numberings, Unmarked f := by decide
  exact hall f (Dialect.mem_numberings h)

/-- Keeping a page fails for every SQL, or frames it. -/
theorem Dialect.page_frames (d : Dialect) (limit offset : Option Nat) (ordered : Bool) :
    (∃ e, ∀ sql, d.page sql limit offset ordered = .error e) ∨
      (∀ sql, d.page sql limit offset ordered = .ok sql) ∨
      ∃ f opening closing, (∀ sql, d.page sql limit offset ordered = .ok (f sql)) ∧
        Frames f opening closing ∧ OpensPage opening := by
  cases limit with
  | none => exact .inr (.inl fun sql => rfl)
  | some n =>
    unfold Dialect.page
    cases skippedRows offset with
    | error e => exact .inl ⟨e, fun sql => rfl⟩
    | ok skipped =>
      unfold limitOffsetOrdered
      cases h : d.limitStyle with
      | none => exact .inl ⟨_, fun sql => rfl⟩
      | some style =>
        obtain ⟨opening, closing, hframes⟩ := style.frames
          (fun f hf => d.unmarked_rowNumber (hf ▸ h)) n skipped ordered
        exact .inr (.inr ⟨_, opening, closing, fun sql => rfl, hframes⟩)

/-! ## Locks -/

namespace RowLock

/-- The clauses without a number in them. -/
def fixedClauses : List String :=
  ["FOR UPDATE", "FOR UPDATE NOWAIT", "FOR UPDATE WITH RS", "FOR SHARE", "FOR SHARE NOWAIT",
    "FOR SHARE LOCK", "LOCK IN SHARE MODE", "FOR READ ONLY", "FOR READ ONLY WITH RS"]

/-- The clauses that some dialect writes. -/
inductive Clause : String → Prop
  | fixed {text : String} (mem : text ∈ fixedClauses) : Clause text
  | wait (seconds : Nat) : Clause ("FOR UPDATE WAIT " ++ toString seconds)

theorem clause_forUpdate (timeout : Option Nat) : Clause (forUpdate timeout) := by
  unfold forUpdate
  split <;> exact .fixed (by decide)

theorem clause_forUpdateWait (timeout : Option Nat) : Clause (forUpdateWait timeout) := by
  unfold forUpdateWait
  split
  · exact .fixed (by decide)
  · exact .fixed (by decide)
  · exact .wait _

theorem clause_exclusiveOnly {clause : Option Nat → String} (h : ∀ t, Clause (clause t))
    {mode : LockMode} {timeout : Option Nat} {text : String}
    (htext : exclusiveOnly clause mode timeout = some text) : Clause text := by
  cases mode with
  | exclusive =>
    cases htext
    exact h timeout
  | shared => cases htext

theorem Clause.unmarked {text : String} (h : Clause text) : Unmarked text := by
  have hfixed : ∀ text ∈ fixedClauses, Unmarked text := by decide +kernel
  cases h with
  | fixed hmem => exact hfixed text hmem
  | wait seconds => exact unmarked_append (by decide) (unmarked_nat seconds)

end RowLock

theorem Dialect.clause_lockClause {d : Dialect} {mode : LockMode} {timeout : Option Nat}
    {text : String} (h : d.vendor.lockClause mode timeout = some text) : RowLock.Clause text := by
  obtain ⟨kind, known⟩ := d
  cases kind with
  | ansi | h2 => exact RowLock.clause_exclusiveOnly RowLock.clause_forUpdate h
  | oracle => exact RowLock.clause_exclusiveOnly RowLock.clause_forUpdateWait h
  | sqlite | sqlServer => cases h
  | postgres =>
    cases h
    cases mode <;> split <;> exact .fixed (by decide)
  | mySql =>
    cases h
    cases mode with
    | exclusive => exact RowLock.clause_forUpdate timeout
    | shared => exact .fixed (show "LOCK IN SHARE MODE" ∈ RowLock.fixedClauses by decide)
  | hana =>
    cases h
    cases mode with
    | exclusive => exact RowLock.clause_forUpdateWait timeout
    | shared => exact .fixed (show "FOR SHARE LOCK" ∈ RowLock.fixedClauses by decide)
  | db2 | derby =>
    cases h
    cases mode <;> exact .fixed (by decide)

/-- A row lock is written after the SQL, if it is written at all. -/
theorem Dialect.lock_frames (d : Dialect) (lock : Option Lock) :
    (∀ sql, d.lock sql lock = sql) ∨
      ∃ opening closing, Frames (fun sql => d.lock sql lock) opening closing ∧ OpensPage opening := by
  cases lock with
  | none => exact .inl fun sql => rfl
  | some l =>
    cases h : d.vendor.lockClause l.mode l.timeoutMillis with
    | none =>
      refine .inl fun sql => ?_
      simp only [Dialect.lock, Dialect.lockClause, h]
    | some clause =>
      refine .inr (frames_after (" " ++ clause) (fun sql => ?_) ?_ ?_)
      · simp only [Dialect.lock, Dialect.lockClause, h, String.append_assoc]
      · exact unmarked_append (by decide) (Dialect.clause_lockClause h).unmarked
      · exact startsBlank_append (by decide)

end SqlCompose
