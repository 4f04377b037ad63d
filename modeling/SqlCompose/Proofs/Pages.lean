import Mathlib.Data.List.Infix
import SqlCompose.Dialect.Pagination
import SqlCompose.Proofs.DecimalText

/-!
# SqlCompose.Proofs.Pages -- every way to ask for a page keeps the same rows

Some clauses say how many rows to skip and how many to keep, others between which
row numbers to keep them. A clause is read from the text that stands around the
statement, and applied to the rows of its result. Whatever the style, a page begins
after the skipped rows, where a negative offset skips none, and goes on for as many
rows as the limit says. A last row number that would be too large to be written is
cut to the largest one, which no result reaches.
-/

namespace SqlCompose

open Text

/-! ## What a clause keeps -/

/-- What the numbers of a clause ask for. Rows are numbered from one. -/
inductive PageClause where
  /-- Skip rows, then keep some. -/
  | window (skipped count : Nat)
  /-- Keep the rows with numbers up to the last one. -/
  | upTo (last : Nat)
  /-- Of the rows with numbers up to the last one, keep those with a larger number than another. -/
  | upToThenAfter (last after : Nat)
  /-- Keep the rows with numbers larger than one and up to another. -/
  | between (after last : Nat)
  deriving DecidableEq, Repr

namespace PageClause

/-- The numbers that a clause writes. -/
def numbers : PageClause → List Nat
  | .window skipped count => [skipped, count]
  | .upTo last => [last]
  | .upToThenAfter last after => [last, after]
  | .between after last => [after, last]

/-- The rows of a result that a clause keeps. -/
def keep {α : Type} (rows : List α) : PageClause → List α
  | .window skipped count => (rows.drop skipped).take count
  | .upTo last => ((rows.zipIdx 1).filter fun row => row.2 ≤ last).map (·.1)
  | .upToThenAfter last after =>
    (((rows.zipIdx 1).filter fun row => row.2 ≤ last).filter fun row => row.2 > after).map (·.1)
  | .between after last =>
    ((rows.zipIdx 1).filter fun row => row.2 > after ∧ row.2 ≤ last).map (·.1)

variable {α : Type}

/-- Rows in a range of numbers stand side by side. -/
theorem map_filter_zipIdx (rows : List α) (first after last : Nat) :
    ((rows.zipIdx first).filter fun row => row.2 > after ∧ row.2 ≤ last).map (·.1) =
      (rows.drop (after + 1 - first)).take (last + 1 - max (after + 1) first) := by
  induction rows generalizing first with
  | nil => simp
  | cons row rest ih =>
    rw [List.zipIdx_cons, List.filter_cons]
    by_cases hskipped : first ≤ after
    · -- the first row comes too early
      have hout : decide (first > after ∧ first ≤ last) = false := by
        apply decide_eq_false
        omega
      have hdrop : after + 1 - first = after + 1 - (first + 1) + 1 := by omega
      have hmax : max (after + 1) (first + 1) = max (after + 1) first := by omega
      simp only [hout, Bool.false_eq_true, if_false]
      rw [ih, hdrop, hmax, List.drop_succ_cons]
    · have hdrop : after + 1 - first = 0 := by omega
      have hdrop' : after + 1 - (first + 1) = 0 := by omega
      by_cases hkept : first ≤ last
      · have hin : decide (first > after ∧ first ≤ last) = true := by
          apply decide_eq_true
          omega
        have htake : last + 1 - max (after + 1) first =
            last + 1 - max (after + 1) (first + 1) + 1 := by omega
        simp only [hin, if_true, List.map_cons]
        rw [ih, hdrop, hdrop', htake]
        rfl
      · -- the first row comes too late, and so do all others
        have hout : decide (first > after ∧ first ≤ last) = false := by
          apply decide_eq_false
          omega
        have htake : last + 1 - max (after + 1) first = 0 := by omega
        have htake' : last + 1 - max (after + 1) (first + 1) = 0 := by omega
        simp only [hout, Bool.false_eq_true, if_false]
        rw [ih, htake, htake', List.take_zero, List.take_zero]

theorem keep_between (rows : List α) (after last : Nat) :
    (between after last).keep rows = (rows.drop after).take (last - after) := by
  have hrows := map_filter_zipIdx rows 1 after last
  have hmax : last + 1 - max (after + 1) 1 = last - after := by omega
  rwa [hmax, Nat.add_sub_cancel] at hrows

theorem keep_upToThenAfter (rows : List α) (last after : Nat) :
    (upToThenAfter last after).keep rows = (between after last).keep rows := by
  show ((((rows.zipIdx 1).filter _).filter _).map _) = ((rows.zipIdx 1).filter _).map _
  rw [List.filter_filter]
  simp only [Bool.decide_and]

theorem keep_upTo (rows : List α) (last : Nat) :
    (upTo last).keep rows = rows.take last := by
  have hbetween := keep_between rows 0 last
  rw [List.drop_zero, Nat.sub_zero] at hbetween
  rw [← hbetween]
  show ((rows.zipIdx 1).filter _).map _ = ((rows.zipIdx 1).filter _).map _
  congr 1
  apply List.filter_congr
  intro row hrow
  -- no row has the number zero
  have hfirst := List.le_snd_of_mem_zipIdx hrow
  apply decide_eq_decide.mpr
  omega

/-- Cutting the last row number loses no row of a result that is not longer than it. -/
theorem take_upperRow (rows : List α) (skipped count : Nat)
    (hrows : rows.length ≤ Pagination.maxCount) :
    (rows.drop skipped).take (Pagination.upperRow count skipped - skipped) =
      (rows.drop skipped).take count := by
  unfold Pagination.upperRow
  by_cases hfits : count + skipped ≤ Pagination.maxCount
  · have hcount : min (count + skipped) Pagination.maxCount - skipped = count := by omega
    rw [hcount]
  · have hlength : (rows.drop skipped).length = rows.length - skipped := List.length_drop
    rw [List.take_of_length_le, List.take_of_length_le]
    · omega
    · omega

end PageClause

/-! ## What a clause says -/

namespace Pagination

/-- The numbers in a text, one between each two of the given pieces. -/
def readNumbers? : List String → List Char → Option (List Nat)
  | [], _ => none
  | [last], cs => if cs = last.toList then some [] else none
  | piece :: next :: others, cs => do
    let rest ← piece.toList.isPrefixOf? cs
    let number ← readNat? (rest.takeWhile isDecimalDigit)
    let numbers ← readNumbers? (next :: others) (rest.dropWhile isDecimalDigit)
    pure (number :: numbers)

/-- A number that was written behind a piece is read. -/
theorem readNumbers?_number (piece next : String) (others : List String) (n : Nat)
    {rest : List Char} (hrest : Stops isDecimalDigit rest) :
    readNumbers? (piece :: next :: others) (piece.toList ++ ((toString n).toList ++ rest)) =
      (readNumbers? (next :: others) rest).map (n :: ·) := by
  have hpiece : piece.toList.isPrefixOf? (piece.toList ++ ((toString n).toList ++ rest)) =
      some ((toString n).toList ++ rest) := List.isPrefixOf?_eq_some_iff_append_eq.mpr rfl
  have hdigits : (toString n).toList = natDigits n := by
    rw [Nat.toString_eq_ofList_toDigits, String.toList_ofList]
    rfl
  have hall : ∀ c ∈ natDigits n, isDecimalDigit c = true := fun _ => isDecimalDigit_of_mem_natDigits
  rw [readNumbers?, hpiece, hdigits]
  show (readNat? ((natDigits n ++ rest).takeWhile isDecimalDigit)).bind _ = _
  rw [hrest.takeWhile_append hall, readNat?_natDigits, hrest.dropWhile_append hall]
  cases readNumbers? (next :: others) rest <;> rfl

/-- A number that was written between two pieces is read. -/
theorem readNumbers?_one (first last : String) (n : Nat) (hlast : Stops isDecimalDigit last.toList) :
    readNumbers? [first, last] (first ++ toString n ++ last).toList = some [n] := by
  have hend : readNumbers? [last] last.toList = some [] := if_pos rfl
  simp only [String.toList_append, List.append_assoc]
  rw [readNumbers?_number first last [] n hlast, hend]
  rfl

/-- Two numbers that were written between three pieces are read. -/
theorem readNumbers?_two (first next last : String) (n k : Nat) (hne : next ≠ "")
    (hnext : Stops isDecimalDigit next.toList) (hlast : Stops isDecimalDigit last.toList) :
    readNumbers? [first, next, last] (first ++ toString n ++ next ++ toString k ++ last).toList =
      some [n, k] := by
  have hend : readNumbers? [last] last.toList = some [] := if_pos rfl
  have hrest : Stops isDecimalDigit (next.toList ++ ((toString k).toList ++ last.toList)) := by
    unfold Stops
    rwa [List.head?_append_of_ne_nil _ (fun h => hne (String.toList_eq_nil_iff.mp h))]
  simp only [String.toList_append, List.append_assoc]
  rw [readNumbers?_number first next [last] n hrest, readNumbers?_number next last [] k hlast, hend]
  rfl

/-- Where a text ends behind its first number, no second one is read. -/
theorem readNumbers?_ended (first next last : String) (n : Nat) (hne : next ≠ "") :
    readNumbers? [first, next, last] (first ++ toString n).toList = none := by
  have hread := readNumbers?_number first next [last] n (stops_nil isDecimalDigit)
  have hend : next.toList.isPrefixOf? [] = none := by
    cases hchars : next.toList with
    | nil => exact absurd (String.toList_eq_nil_iff.mp hchars) hne
    | cons c cs => rfl
  rw [List.append_nil] at hread
  rw [String.toList_append, hread, readNumbers?, hend]
  rfl

/-- Nothing is read where the first piece is not in front. -/
theorem readNumbers?_other (piece next : String) (others : List String) {cs : List Char}
    (h : piece.toList.isPrefixOf? cs = none) : readNumbers? (piece :: next :: others) cs = none := by
  rw [readNumbers?, h]
  rfl

end Pagination

namespace LimitStyle

open Pagination

/-- The clause that a database reads in the text before and behind a statement. -/
def read? (style : LimitStyle) (opening closing : String) : Option PageClause :=
  let cs := closing.toList
  match style with
  | .limitOffset =>
    if opening = "" then
      match readNumbers? [" limit ", " offset ", ""] cs, readNumbers? [" limit ", ""] cs with
      | some [count, skipped], _ => some (.window skipped count)
      | _, some [count] => some (.window 0 count)
      | _, _ => none
    else none
  | .offsetFetch =>
    if opening = "" then
      match readNumbers? [" OFFSET ", " ROWS FETCH NEXT ", " ROWS ONLY"] cs,
        readNumbers? [" FETCH FIRST ", " ROWS ONLY"] cs with
      | some [skipped, count], _ => some (.window skipped count)
      | _, some [count] => some (.window 0 count)
      | _, _ => none
    else none
  | .offsetFetchRequired =>
    if opening = "" then
      match readNumbers? [" OFFSET ", " ROWS FETCH NEXT ", " ROWS ONLY"] cs,
        readNumbers? [" ORDER BY (SELECT NULL) OFFSET ", " ROWS FETCH NEXT ", " ROWS ONLY"] cs with
      | some [skipped, count], _ => some (.window skipped count)
      | _, some [skipped, count] => some (.window skipped count)
      | _, _ => none
    else none
  | .rowNum =>
    if opening = "select * from ( " then
      match readNumbers? [" ) where rownum <= ", ""] cs with
      | some [last] => some (.upTo last)
      | _ => none
    else if opening = "select * from ( select row_.*, rownum rownum_ from ( " then
      match readNumbers? [" ) row_ where rownum <= ", ") where rownum_ > ", ""] cs with
      | some [last, after] => some (.upToThenAfter last after)
      | _ => none
    else none
  | .rowNumber function =>
    if opening = "select * from ( select inner_.*, " ++ function ++ " as rownumber_ from ( " then
      match readNumbers? [" ) inner_ ) outer_ where rownumber_ > ", " and rownumber_ <= ",
        " order by rownumber_"] cs with
      | some [after, last] => some (.between after last)
      | _ => none
    else none

/-- The clause of a style for a limit and an offset. -/
def clause (style : LimitStyle) (limit : Nat) (offset : Int) : PageClause :=
  match style with
  | .limitOffset | .offsetFetch | .offsetFetchRequired => .window offset.toNat limit
  | .rowNum =>
    if offset ≤ 0 then .upTo limit
    else .upToThenAfter (upperRow limit offset.toNat) offset.toNat
  | .rowNumber _ => .between offset.toNat (upperRow limit offset.toNat)

theorem clause_rowNum_of_le (limit : Nat) {offset : Int} (h : offset ≤ 0) :
    rowNum.clause limit offset = .upTo limit := if_pos h

theorem clause_rowNum_of_not_le (limit : Nat) {offset : Int} (h : ¬offset ≤ 0) :
    rowNum.clause limit offset =
      .upToThenAfter (upperRow limit offset.toNat) offset.toNat := if_neg h

/-- Whatever the style, its clause keeps the rows that were asked for. -/
theorem keep_clause {α : Type} (style : LimitStyle) (limit : Nat) (offset : Int) {rows : List α}
    (hrows : rows.length ≤ maxCount) :
    (style.clause limit offset).keep rows = (rows.drop offset.toNat).take limit := by
  cases style with
  | limitOffset => rfl
  | offsetFetch => rfl
  | offsetFetchRequired => rfl
  | rowNum =>
    by_cases h : offset ≤ 0
    · have hoffset : offset.toNat = 0 := by omega
      rw [clause_rowNum_of_le limit h, PageClause.keep_upTo, hoffset, List.drop_zero]
    · rw [clause_rowNum_of_not_le limit h, PageClause.keep_upToThenAfter, PageClause.keep_between,
        PageClause.take_upperRow rows offset.toNat limit hrows]
  | rowNumber function =>
    show (PageClause.between _ _).keep rows = _
    rw [PageClause.keep_between, PageClause.take_upperRow rows offset.toNat limit hrows]

/-- No number of a clause is larger than the largest one that can be written. -/
theorem numbers_clause (style : LimitStyle) {limit : Nat} {offset : Int} (hlimit : limit ≤ maxCount)
    (hoffset : offset ≤ maxCount) : ∀ n ∈ (style.clause limit offset).numbers, n ≤ maxCount := by
  have hupper : upperRow limit offset.toNat ≤ maxCount := Nat.min_le_right _ _
  have hskipped : offset.toNat ≤ maxCount := by omega
  cases style with
  | limitOffset => simp [clause, PageClause.numbers, hlimit, hskipped]
  | offsetFetch => simp [clause, PageClause.numbers, hlimit, hskipped]
  | offsetFetchRequired => simp [clause, PageClause.numbers, hlimit, hskipped]
  | rowNum =>
    by_cases h : offset ≤ 0
    · simp [clause_rowNum_of_le limit h, PageClause.numbers, hlimit]
    · simp [clause_rowNum_of_not_le limit h, PageClause.numbers, hupper, hskipped]
  | rowNumber function => simp [clause, PageClause.numbers, hupper, hskipped]

/-- An offset that skips rows is written like a number of rows. -/
theorem toString_offset {offset : Int} (h : 0 ≤ offset) :
    toString offset = toString offset.toNat := by
  obtain ⟨n, rfl⟩ := Int.eq_ofNat_of_zero_le h
  rfl

/-! ## What a style writes -/

theorem reads_limitOffset (limit : Nat) (offset : Int) :
    ∃ opening closing,
      (∀ sql, Pagination.limitOffset sql limit offset = opening ++ sql ++ closing) ∧
        limitOffset.read? opening closing = some (.window offset.toNat limit) := by
  by_cases h : offset ≥ 0
  · have hread := readNumbers?_two " limit " " offset " "" limit offset.toNat (by decide)
      (by decide) (by decide)
    rw [String.append_empty] at hread
    refine ⟨"", " limit " ++ toString limit ++ " offset " ++ toString offset.toNat, ?_, ?_⟩
    · intro sql
      rw [String.empty_append, ← toString_offset h]
      exact if_pos h
    · simp only [read?, hread, if_true]
  · have hoffset : offset.toNat = 0 := by omega
    have hread := readNumbers?_one " limit " "" limit (by decide)
    have hshort := readNumbers?_ended " limit " " offset " "" limit (by decide)
    rw [String.append_empty] at hread
    refine ⟨"", " limit " ++ toString limit, ?_, ?_⟩
    · intro sql
      rw [String.empty_append]
      exact if_neg h
    · simp only [read?, hshort, hread, if_true, hoffset]

theorem reads_offsetFetch (limit : Nat) (offset : Int) :
    ∃ opening closing,
      (∀ sql, Pagination.offsetFetch sql limit offset = opening ++ sql ++ closing) ∧
        offsetFetch.read? opening closing = some (.window offset.toNat limit) := by
  by_cases h : offset < 0
  · have hoffset : offset.toNat = 0 := by omega
    have hread := readNumbers?_one " FETCH FIRST " " ROWS ONLY" limit (by decide)
    -- the two forms are told apart by their first words
    have hother : readNumbers? [" OFFSET ", " ROWS FETCH NEXT ", " ROWS ONLY"]
        (" FETCH FIRST " ++ toString limit ++ " ROWS ONLY").toList = none := by
      apply readNumbers?_other
      simp only [String.toList_append, List.append_assoc]
      rfl
    refine ⟨"", " FETCH FIRST " ++ toString limit ++ " ROWS ONLY", ?_, ?_⟩
    · intro sql
      rw [String.empty_append]
      exact if_pos h
    · simp only [read?, hother, hread, if_true, hoffset]
  · have hread := readNumbers?_two " OFFSET " " ROWS FETCH NEXT " " ROWS ONLY" offset.toNat limit
      (by decide) (by decide) (by decide)
    refine ⟨"", " OFFSET " ++ toString offset.toNat ++ " ROWS FETCH NEXT " ++ toString limit ++
      " ROWS ONLY", ?_, ?_⟩
    · intro sql
      rw [String.empty_append, ← toString_offset (by omega)]
      exact if_neg h
    · simp only [read?, hread, if_true]

theorem reads_offsetFetchRequired (limit : Nat) (offset : Int) (ordered : Bool) :
    ∃ opening closing, (∀ sql, Pagination.offsetFetchRequired sql limit offset ordered =
        opening ++ sql ++ closing) ∧
      offsetFetchRequired.read? opening closing = some (.window offset.toNat limit) := by
  cases ordered with
  | true =>
    have hread := readNumbers?_two " OFFSET " " ROWS FETCH NEXT " " ROWS ONLY" offset.toNat limit
      (by decide) (by decide) (by decide)
    refine ⟨"", " OFFSET " ++ toString offset.toNat ++ " ROWS FETCH NEXT " ++ toString limit ++
      " ROWS ONLY", ?_, ?_⟩
    · intro sql
      show sql ++ "" ++ _ = _
      rw [String.append_empty, String.empty_append]
      rfl
    · simp only [read?, hread, if_true]
  | false =>
    have hread := readNumbers?_two " ORDER BY (SELECT NULL) OFFSET " " ROWS FETCH NEXT "
      " ROWS ONLY" offset.toNat limit (by decide) (by decide) (by decide)
    -- a statement without an order gets one, which stands in front of the same clause
    have hother : readNumbers? [" OFFSET ", " ROWS FETCH NEXT ", " ROWS ONLY"]
        (" ORDER BY (SELECT NULL) OFFSET " ++ toString offset.toNat ++ " ROWS FETCH NEXT " ++
          toString limit ++ " ROWS ONLY").toList = none := by
      apply readNumbers?_other
      simp only [String.toList_append, List.append_assoc]
      rfl
    refine ⟨"", " ORDER BY (SELECT NULL) OFFSET " ++ toString offset.toNat ++ " ROWS FETCH NEXT " ++
      toString limit ++ " ROWS ONLY", ?_, ?_⟩
    · intro sql
      have hjoin : " ORDER BY (SELECT NULL) OFFSET " = " ORDER BY (SELECT NULL)" ++ " OFFSET " := by
        decide
      rw [hjoin]
      show sql ++ " ORDER BY (SELECT NULL)" ++ (" OFFSET " ++ toString offset.toNat ++
        " ROWS FETCH NEXT " ++ toString limit ++ " ROWS ONLY") = _
      simp only [String.append_assoc, String.empty_append]
    · simp only [read?, hother, hread, if_true]

theorem reads_rowNum (limit : Nat) (offset : Int) :
    ∃ opening closing,
      (∀ sql, Pagination.rowNum sql limit offset = opening ++ sql ++ closing) ∧
        rowNum.read? opening closing = some (rowNum.clause limit offset) := by
  by_cases h : offset ≤ 0
  · have hread := readNumbers?_one " ) where rownum <= " "" limit (by decide)
    rw [String.append_empty] at hread
    refine ⟨"select * from ( ", " ) where rownum <= " ++ toString limit, fun sql => if_pos h, ?_⟩
    simp only [read?, hread, if_true, clause_rowNum_of_le limit h]
  · have hread := readNumbers?_two " ) row_ where rownum <= " ") where rownum_ > " ""
      (upperRow limit offset.toNat) offset.toNat (by decide) (by decide) (by decide)
    rw [String.append_empty] at hread
    have hopening : "select * from ( select row_.*, rownum rownum_ from ( " ≠
      "select * from ( " := by decide
    refine ⟨"select * from ( select row_.*, rownum rownum_ from ( ", " ) row_ where rownum <= " ++
      toString (upperRow limit offset.toNat) ++ ") where rownum_ > " ++ toString offset.toNat, ?_, ?_⟩
    · intro sql
      rw [← toString_offset (by omega)]
      exact if_neg h
    · simp only [read?, hread, if_true, if_neg hopening, clause_rowNum_of_not_le limit h]

theorem reads_rowNumber (limit : Nat) (offset : Int) (function : String) :
    ∃ opening closing,
      (∀ sql, Pagination.rowNumber sql limit offset function = opening ++ sql ++ closing) ∧
        (rowNumber function).read? opening closing =
          some (.between offset.toNat (upperRow limit offset.toNat)) := by
  have hread := readNumbers?_two " ) inner_ ) outer_ where rownumber_ > " " and rownumber_ <= "
    " order by rownumber_" offset.toNat (upperRow limit offset.toNat) (by decide) (by decide)
    (by decide)
  refine ⟨"select * from ( select inner_.*, " ++ function ++ " as rownumber_ from ( ",
    " ) inner_ ) outer_ where rownumber_ > " ++ toString offset.toNat ++ " and rownumber_ <= " ++
      toString (upperRow limit offset.toNat) ++ " order by rownumber_", ?_, ?_⟩
  · intro sql
    show "select * from ( select inner_.*, " ++ function ++ " as rownumber_ from ( " ++ sql ++
      (" ) inner_ ) outer_ where rownumber_ > " ++ toString offset.toNat) ++
      (" and rownumber_ <= " ++ toString (upperRow limit offset.toNat) ++ " order by rownumber_") = _
    simp only [String.append_assoc]
  · simp only [read?, hread, if_true]

/-- The text that a style writes around a statement is read as its clause. -/
theorem reads_clause (style : LimitStyle) (limit : Nat) (offset : Int) (ordered : Bool) :
    ∃ opening closing, (∀ sql, style.apply sql limit offset ordered = opening ++ sql ++ closing) ∧
      style.read? opening closing = some (style.clause limit offset) := by
  cases style with
  | limitOffset => exact reads_limitOffset limit offset
  | offsetFetch => exact reads_offsetFetch limit offset
  | offsetFetchRequired => exact reads_offsetFetchRequired limit offset ordered
  | rowNum => exact reads_rowNum limit offset
  | rowNumber function => exact reads_rowNumber limit offset function

/-- Every style keeps the rows behind the skipped ones, as many as the limit says, and
writes no number that is too large. -/
theorem apply_keeps_page {α : Type} (style : LimitStyle) (limit : UInt64) (offset : Int64)
    (ordered : Bool) (rows : List α) (hrows : rows.length < UInt64.size) :
    ∃ opening closing clause,
      (∀ sql, style.apply sql limit.toNat offset.toInt ordered = opening ++ sql ++ closing) ∧
        style.read? opening closing = some clause ∧
        (∀ n ∈ clause.numbers, n < UInt64.size) ∧
        clause.keep rows = (rows.drop offset.toInt.toNat).take limit.toNat := by
  obtain ⟨opening, closing, happly, hread⟩ :=
    reads_clause style limit.toNat offset.toInt ordered
  have hmax : maxCount = 18446744073709551615 := rfl
  have hsize : UInt64.size = maxCount + 1 := rfl
  have hlimit : limit.toNat ≤ maxCount := by
    have := limit.toNat_lt
    omega
  have hoffset : offset.toInt ≤ maxCount := by
    have := offset.toInt_lt
    omega
  refine ⟨opening, closing, style.clause limit.toNat offset.toInt, happly, hread, ?_, ?_⟩
  · intro n hn
    have hle := numbers_clause style hlimit hoffset n hn
    omega
  · exact keep_clause style limit.toNat offset.toInt (by omega)

/-- The largest limit behind a row that is skipped, by row numbers. -/
theorem apply_keeps_page_cut : [1, 2, 3].length < UInt64.size ∧
    ∃ opening closing clause,
      (∀ sql, rowNum.apply sql (-1 : UInt64).toNat (1 : Int64).toInt false =
        opening ++ sql ++ closing) ∧
        rowNum.read? opening closing = some clause ∧ (∀ n ∈ clause.numbers, n < UInt64.size) ∧
        clause.keep [1, 2, 3] = [2, 3] :=
  ⟨by decide, apply_keeps_page rowNum (-1) 1 false [1, 2, 3] (by decide)⟩

end LimitStyle

end SqlCompose
