import SqlCompose.Proofs.Frames
import SqlCompose.Proofs.Shows

/-!
# SqlCompose.Proofs.Functions -- what dialects write around arguments

A function is a name with arguments in parentheses, a keyword, or a template
with one slot. Which of the three it is, and how a template seats its argument,
is checked once for every dialect and every kind of function.
-/

namespace SqlCompose

open Placeholder

/-! ## Templates -/

/-- The text of an argument stands between two texts: either right between
parentheses, or next to a blank on one of its sides. -/
def Seats (enclosed : Bool) (opening closing : List Char) : Prop :=
  if enclosed then opening.getLast? = some '(' ∧ closing.head? = some ')'
  else (opening.getLast? = some ' ' ∧ ∀ c ∈ closing.head?, isInner c = false) ∨
    closing.head? = some ' '

instance (enclosed : Bool) (opening closing : List Char) :
    Decidable (Seats enclosed opening closing) :=
  match enclosed with
  | true => inferInstanceAs (Decidable (_ ∧ _))
  | false =>
    have : Decidable (∀ c ∈ closing.head?, isInner c = false) := Option.decidableForallMem _
    inferInstanceAs (Decidable (_ ∨ _))

namespace SqlFunction

/-- Two neutral texts with a slot between them that can be told from it, which seat
the argument as the whole template says. -/
structure Wraps (opening closing : String) : Prop where
  opening_brace : '\x7b' ∉ opening.toList
  closing_brace : '\x7b' ∉ closing.toList
  neutral_opening : Neutral opening.toList
  neutral_closing : Neutral closing.toList
  seats : Seats ((template (opening ++ slot 0 ++ closing)).encloses 1 false) opening.toList
    closing.toList

theorem Wraps.noColon_opening {opening closing : String} (h : Wraps opening closing) :
    NoColon opening := h.neutral_opening.noColon

theorem Wraps.noColon_closing {opening closing : String} (h : Wraps opening closing) :
    NoColon closing := h.neutral_closing.noColon

/-- How a function of a kind is written. -/
inductive Shape (kind : FunctionKind) : SqlFunction → Prop
  | call {name : String}
      (plain : ∀ plain, Writable plain → Plain plain kind.name → Plain plain name) :
      Shape kind (.call name)
  | keyword {text : String} (arity : kind.arity = some (0, 0)) (unmarked : Unmarked text) :
      Shape kind (.keyword text)
  | template {opening closing : String} (arity : kind.arity = some (1, 1))
      (wraps : Wraps opening closing) : Shape kind (.template (opening ++ slot 0 ++ closing))

end SqlFunction

/-! ## Capital letters -/

namespace Text

/-- Numbers of characters that no other character has among its capital letters. -/
structure FixedByUpper (numbers : List Nat) : Prop where
  ascii : ∀ n < 128, (Char.ofNat n).toUpper.toNat ∈ numbers →
    (Char.ofNat n).toUpper = Char.ofNat n
  sequences : ∀ entry ∈ upperSequences, ∀ n ∈ entry.2, n ∉ numbers
  runs : ∀ r ∈ upperRuns, ∀ n ∈ numbers, n < r.image ∨ r.image + (r.last - r.first) < n
  zero : 0 ∉ numbers

namespace FixedByUpper

variable {numbers : List Nat}

theorem mem_of_toNat_ofNat (h : FixedByUpper numbers) {n : Nat}
    (hn : (Char.ofNat n).toNat ∈ numbers) : n ∈ numbers := by
  by_cases hvalid : n.isValidChar
  · have heq : (Char.ofNat n).toNat = n := by
      rw [Char.ofNat, dif_pos hvalid]
      rfl
    rwa [heq] at hn
  · rw [Char.ofNat, dif_neg hvalid] at hn
    exact absurd hn h.zero

/-- The characters come from themselves alone when capital letters are made. -/
theorem mem_of_mem_upper (h : FixedByUpper numbers) {s : String} {m : Char}
    (hm : m.toNat ∈ numbers) (hmem : m ∈ (upper s).toList) : m ∈ s.toList := by
  rw [upper, String.toList_ofList, List.mem_flatMap] at hmem
  obtain ⟨c, hc, hmem⟩ := hmem
  -- the three ways to a capital letter: within ASCII, into several letters, by a run
  unfold upperChar at hmem
  split at hmem
  · rename_i hlt
    obtain rfl := List.mem_singleton.mp hmem
    have heq := h.ascii c.toNat hlt
    rw [Char.ofNat_toNat] at heq
    rwa [heq hm]
  · split at hmem
    · rename_i entry image hfind
      obtain ⟨n, hn, rfl⟩ := List.mem_map.mp hmem
      exact absurd (h.mem_of_toNat_ofNat hm)
        (h.sequences _ (List.mem_of_find?_eq_some hfind) n hn)
    · split at hmem
      · rename_i n hn
        obtain ⟨r, hr, rfl⟩ := Option.map_eq_some_iff.mp hn
        have hrange := List.find?_some hr
        simp only [Bool.and_eq_true, decide_eq_true_eq] at hrange
        rw [List.mem_singleton.mp hmem] at hm
        have houtside := h.runs r (List.mem_of_find?_eq_some hr) _ (h.mem_of_toNat_ofNat hm)
        omega
      · rwa [List.mem_singleton.mp hmem]

end FixedByUpper

end Text

/-- The numbers of the marks. -/
def markNumbers : List Nat := [0x27, 0x3a, 0x3f]

theorem mem_markNumbers {c : Char} (h : isMark c = true) : c.toNat ∈ markNumbers := by
  simp only [isMark, Bool.or_eq_true, beq_iff_eq] at h
  rcases h with (rfl | rfl) | rfl <;> decide

theorem fixedByUpper_markNumbers : Text.FixedByUpper markNumbers := by
  constructor <;> decide +kernel

/-! ## The shape of every function -/

/-- What a dialect writes for a function is its vendor's own text, the standard's, or a call
of another name. -/
theorem Dialect.function_cases (d : Dialect) (kind : FunctionKind) :
    d.vendor.function kind = some (d.function kind) ∨
      d.function kind = SqlFunction.standard kind ∨
      ∃ name other, kind = .custom name ∧ (Text.upper name, other) ∈ d.vendor.renames ∧
        d.function kind = .call other := by
  cases h : d.vendor.function kind with
  | some f => exact .inl (by simp only [Dialect.function, h])
  | none =>
    cases kind with
    | custom name =>
      cases hname : d.vendor.rename name with
      | none => exact .inr (.inl (by simp only [Dialect.function, h, hname]))
      | some other =>
        exact .inr (.inr ⟨name, other, rfl, mem_of_lookup_eq_some hname,
          by simp only [Dialect.function, h, hname]⟩)
    | _ => exact .inr (.inl (by simp only [Dialect.function, h]))

namespace SqlFunction

theorem shape_standard (kind : FunctionKind) : Shape kind (standard kind) := by
  cases kind with
  | currentDate => exact .keyword rfl (by decide)
  | currentTimestamp => exact .keyword rfl (by decide)
  | year => exact .template rfl (by constructor <;> decide +kernel)
  | month => exact .template rfl (by constructor <;> decide +kernel)
  | day => exact .template rfl (by constructor <;> decide +kernel)
  | hour => exact .template rfl (by constructor <;> decide +kernel)
  | custom name =>
    refine .call fun plain hplain h => ?_
    intro c hc
    cases hmark : isMark c with
    | true => exact h c (fixedByUpper_markNumbers.mem_of_mem_upper (mem_markNumbers hmark) hc)
    | false => exact hplain c hmark
  | _ => exact .call fun plain hplain h => h

theorem shape_namedPart {kind : FunctionKind} {f : SqlFunction} (h : namedPart kind = some f) :
    Shape kind f := by
  cases kind <;> cases h <;> exact .template rfl (by constructor <;> decide +kernel)

end SqlFunction

theorem Vendor.shape_function (k : DialectKind) {kind : FunctionKind} {f : SqlFunction}
    (h : k.vendor.function kind = some f) : SqlFunction.Shape kind f := by
  cases k with
  | ansi | postgres | h2 => cases h
  | mySql | db2 | derby => exact SqlFunction.shape_namedPart h
  | hana | sqlite | oracle =>
    cases kind <;> cases h <;> exact .template rfl (by constructor <;> decide +kernel)
  | sqlServer =>
    cases kind <;> cases h
    case currentDate.refl => exact .keyword rfl (by decide)
    all_goals exact .template rfl (by constructor <;> decide +kernel)

/-- Every dialect writes every function in one of the three ways. -/
theorem Dialect.shape_function (d : Dialect) (kind : FunctionKind) :
    SqlFunction.Shape kind (d.function kind) := by
  have hrenames : ∀ k : DialectKind, ∀ entry ∈ k.vendor.renames, Unmarked entry.2 := by
    intro k
    cases k <;> decide
  rcases d.function_cases kind with h | h | ⟨name, other, rfl, hmem, h⟩
  · exact Vendor.shape_function d.kind h
  · rw [h]
    exact SqlFunction.shape_standard kind
  · rw [h]
    have hother := hrenames d.kind _ hmem
    exact .call fun plain hplain _ => plain_of_unmarked hplain hother

/-! ## Filling a template -/

theorem Text.replaceFrom_append {c : Char} (pattern image : List Char) {u : List Char}
    (hu : c ∉ u) (v : List Char) :
    replaceFrom (c :: pattern) image 0 (u ++ v) = u ++ replaceFrom (c :: pattern) image 0 v := by
  induction u with
  | nil => rfl
  | cons x rest ih =>
    simp only [List.mem_cons, not_or] at hu
    simp [replaceFrom, hu.1, ih hu.2]

theorem Text.replaceFrom_skip {pattern image : List Char} (u v : List Char) :
    replaceFrom pattern image u.length (u ++ v) = replaceFrom pattern image 0 v := by
  induction u with
  | nil => rfl
  | cons x rest ih => simpa [replaceFrom] using ih

theorem Text.replaceFrom_occurrence {c : Char} {pattern image : List Char} (v : List Char) :
    replaceFrom (c :: pattern) image 0 (c :: (pattern ++ v)) =
      image ++ replaceFrom (c :: pattern) image 0 v := by
  have hstarts : (c :: pattern).isPrefixOf (c :: (pattern ++ v)) = true := by
    simp [List.prefix_append]
  rw [replaceFrom]
  simp only [hstarts, if_true, List.length_cons, Nat.add_sub_cancel]
  rw [replaceFrom_skip]

/-- The argument stands in the place of the only slot. -/
theorem SqlFunction.render_template {opening closing : String}
    (hopening : '\x7b' ∉ opening.toList) (hclosing : '\x7b' ∉ closing.toList) (arg : String)
    (distinct : Bool) :
    (template (opening ++ slot 0 ++ closing)).render [arg] distinct = opening ++ arg ++ closing := by
  have hslot : (slot 0).toList = '\x7b' :: ['0', '\x7d'] := by decide
  have hrest := Text.replaceFrom_append ['0', '\x7d'] arg.toList hclosing []
  rw [List.append_nil] at hrest
  show Text.replace (opening ++ slot 0 ++ closing) (slot 0) arg = _
  rw [← String.toList_inj, Text.replace, String.toList_ofList]
  simp only [String.toList_append, List.append_assoc, hslot]
  rw [Text.replaceFrom_append _ _ hopening, List.cons_append, Text.replaceFrom_occurrence, hrest]
  simp [Text.replaceFrom]

/-! ## What a function shows -/

/-- A valid call has as many arguments as its function takes. -/
theorem arity_of_checkCall {kind : FunctionKind} {n least most : Nat} {distinct : Bool}
    (h : checkCall kind n distinct = .ok ()) (harity : kind.arity = some (least, most)) :
    least ≤ n ∧ n ≤ most := by
  by_contra hne
  unfold checkCall at h
  simp only [harity, if_neg hne, refuse] at h
  split_ifs at h

section Arguments

variable {α : Type} {kind : FunctionKind} {args : List α} {distinct : Bool}

/-- What is written as a keyword has no arguments. -/
theorem eq_nil_of_checkCall (h : checkCall kind args.length distinct = .ok ())
    (harity : kind.arity = some (0, 0)) : args = [] :=
  List.eq_nil_of_length_eq_zero (Nat.le_zero.mp (arity_of_checkCall h harity).2)

/-- What is written by a template has one argument. -/
theorem exists_eq_singleton_of_checkCall (h : checkCall kind args.length distinct = .ok ())
    (harity : kind.arity = some (1, 1)) : ∃ arg, args = [arg] := by
  obtain ⟨hleast, hmost⟩ := arity_of_checkCall h harity
  exact List.length_eq_one_iff.mp (Nat.le_antisymm hmost hleast)

end Arguments

namespace Reading

variable {r : Reading} {d : Dialect} {v : List Char} {b : List Item}

/-- Texts of several expressions, one each. -/
def PresentsAll (r : Reading) (d : Dialect) (es : List Expression) (texts : List String) : Prop :=
  List.Forall₂ (fun e text => r.Presents d e text.toList) es texts

theorem PresentsAll.single {e : Expression} {text : String} (h : r.Presents d e text.toList) :
    r.PresentsAll d [e] [text] := .cons h .nil

/-- Two texts show the expression whose text they seat. -/
theorem Presents.seated (hplain : Admits r.plain) {e : Expression} {w opening closing : List Char}
    (h : r.Presents d e w) {enclosed : Bool} (hseats : Seats enclosed opening closing)
    (hopening : ∀ c ∈ opening, r.plain c) (hclosing : ∀ c ∈ closing, r.plain c) :
    r.Shows (opening ++ w ++ closing) (e.outline d enclosed) := by
  rw [List.append_assoc]
  cases enclosed with
  | true =>
    obtain ⟨hlast, hhead⟩ := hseats
    obtain ⟨before, rfl⟩ := List.getLast?_eq_some_iff.mp hlast
    obtain ⟨after, rfl⟩ := List.head?_eq_some_iff.mp hhead
    have hafter : r.Shows after [] := .of_plain fun c hc => hclosing c (List.mem_cons_of_mem _ hc)
    have hseated := h.enclosed hplain hafter
    simp only [List.append_assoc, List.cons_append, List.nil_append, List.append_nil] at hseated ⊢
    exact .plain_append (fun c hc => hopening c (List.mem_append_left _ hc)) hseated
  | false =>
    -- a blank in front or a blank behind: either keeps the argument apart from the template
    rcases hseats with ⟨hlast, hsplits⟩ | hhead
    · obtain ⟨before, rfl⟩ := List.getLast?_eq_some_iff.mp hlast
      have hseated := h.after delimiter_blank hsplits (.of_plain hclosing)
      simp only [List.append_assoc, List.cons_append, List.nil_append, List.append_nil] at hseated ⊢
      have hblank := Shows.char (hopening ' ' (by simp)) hseated
      exact .plain_append (fun c hc => hopening c (List.mem_append_left _ hc)) hblank
    · obtain ⟨after, rfl⟩ := List.head?_eq_some_iff.mp hhead
      have hafter : r.Shows after [] := .of_plain fun c hc => hclosing c (List.mem_cons_of_mem _ hc)
      have hseated := h.before hplain (c := ' ') (by decide) (hafter _)
      rw [List.append_nil] at hseated
      exact .plain_append hopening hseated

/-- Arguments after a delimiter. -/
theorem PresentsAll.after (hplain : Admits r.plain) {es : List Expression} {texts : List String}
    (h : r.PresentsAll d es texts) {prev : Char} (hprev : Delimiter prev) (hsplits : Splits v)
    (hv : r.Shows v b) :
    r.ShowsAfter prev ((", ".intercalate texts).toList ++ v)
      (Expression.outlines d false es ++ b) := by
  induction h generalizing prev with
  | nil => exact hv _
  | @cons e text es texts he hes ih =>
    rw [Expression.outlines, List.append_assoc]
    cases texts with
    | nil =>
      cases hes
      rw [String.intercalate_singleton]
      exact he.after hprev hsplits hv
    | cons next texts =>
      have hblank := Shows.char (hplain ' ' (by decide)) (ih delimiter_blank)
      have hrest := Shows.char (hplain ',' (by decide)) (hblank _)
      rw [String.intercalate_cons_cons]
      simp only [String.toList_append, List.append_assoc]
      exact he.after hprev (splits_cons (by decide) _) hrest

/-- Two arguments or more, which follow the parenthesis that opens a call. -/
theorem PresentsAll.list (hplain : Admits r.plain) {e next : Expression} {es : List Expression}
    {texts : List String} (h : r.PresentsAll d (e :: next :: es) texts) (hsplits : Splits v)
    (hv : r.Shows v b) :
    r.Shows ((", ".intercalate texts).toList ++ v)
      (Expression.outlines d false (e :: next :: es) ++ b) := by
  cases h with
  | @cons _ text _ texts he hes =>
    have hrest := PresentsAll.after hplain hes delimiter_blank hsplits hv
    have hblank := Shows.char (hplain ' ' (by decide)) hrest
    cases hes with
    | @cons _ text' _ texts _ _ =>
      rw [String.intercalate_cons_cons, Expression.outlines, List.append_assoc]
      simp only [String.toList_append, List.append_assoc]
      exact he.before hplain (by decide) (hblank _)

/-- A call shows its arguments, a single one in parentheses. -/
theorem shows_call (hplain : Admits r.plain) {name : String} (hname : Plain r.plain name)
    {es : List Expression} {texts : List String} (h : r.PresentsAll d es texts) (distinct : Bool) :
    r.Shows ((SqlFunction.call name).render texts distinct).toList
      (Expression.outlines d ((SqlFunction.call name).encloses es.length distinct) es) := by
  have hopen : r.plain '(' := hplain _ (by decide)
  have hclose : r.Shows [')'] [] := .char (hplain _ (by decide)) (Shows.nil _)
  have hsplits : Splits [')'] := splits_cons (by decide) []
  have hword : ∀ c ∈ "DISTINCT".toList, r.plain c := plain_of_no_colon hplain (by decide)
  simp only [SqlFunction.render, String.toList_append, List.append_assoc,
    show "(".toList = ['('] by decide, show ")".toList = [')'] by decide, List.singleton_append]
  cases h with
  | nil =>
    have hdistinct : Plain r.plain (if distinct then "DISTINCT " else "") := by
      cases distinct <;> exact plain_of_no_colon hplain (by decide)
    have hlist : Plain r.plain
        (if Text.sameIgnoringAsciiCase name "COUNT" then "*" else ", ".intercalate []) := by
      split <;> exact plain_of_no_colon hplain (by decide)
    rw [Expression.outlines]
    exact .plain_append hname
      (.char hopen (Shows.plain_append hdistinct (Shows.plain_append hlist hclose) _))
  | @cons e text es texts he hes =>
    simp only [List.isEmpty_cons, Bool.false_and, Bool.false_eq_true, if_false]
    -- only one argument without a word in front of it stands right between the parentheses
    cases distinct with
    | true =>
      have hargs := PresentsAll.after hplain (.cons he hes) delimiter_blank hsplits hclose
      have hblank := Shows.char (hplain ' ' (by decide)) hargs
      rw [List.append_nil] at hblank
      simp only [SqlFunction.encloses, Bool.not_true, Bool.and_false, if_true]
      rw [show "DISTINCT ".toList = "DISTINCT".toList ++ [' '] by decide, List.cons_append,
        List.append_assoc]
      exact .plain_append hname (.char hopen (Shows.plain_append hword hblank _))
    | false =>
      simp only [if_false, Bool.false_eq_true, String.toList_empty]
      refine .plain_append hname ?_
      cases hes with
      | nil =>
        have henclosed := he.enclosed hplain .nil
        simp only [SqlFunction.encloses, String.intercalate_singleton, Expression.outlines]
        exact henclosed
      | @cons next text' es texts hnext hes =>
        have hargs := PresentsAll.list hplain (.cons he (.cons hnext hes)) hsplits hclose
        rw [List.append_nil] at hargs
        exact .char hopen (hargs _)

/-- Every function shows its arguments, in parentheses or not as it encloses them. -/
theorem shows_function (hplain : Admits r.plain) {kind : FunctionKind} {es : List Expression}
    {texts : List String} {distinct : Bool} (hname : Plain r.plain kind.name)
    (hvalid : checkCall kind es.length distinct = .ok ()) (h : r.PresentsAll d es texts) :
    r.Shows ((d.function kind).render texts distinct).toList
      (FunctionCall.outline d ⟨kind, es, distinct⟩) := by
  rw [FunctionCall.outline]
  generalize hf : d.function kind = f
  have hshape := hf ▸ d.shape_function kind
  cases hshape with
  | call name => exact shows_call hplain (name r.plain hplain.writable hname) h distinct
  | keyword harity hunmarked =>
    obtain rfl := eq_nil_of_checkCall hvalid harity
    exact .of_plain (plain_of_unmarked hplain.writable hunmarked)
  | @template opening closing harity hwraps =>
    obtain ⟨e, rfl⟩ := exists_eq_singleton_of_checkCall hvalid harity
    cases h with
    | @cons _ text _ texts he hes =>
      cases hes
      rw [SqlFunction.render_template hwraps.opening_brace hwraps.closing_brace]
      simp only [Expression.outlines, List.append_nil, String.toList_append]
      exact he.seated hplain hwraps.seats (plain_of_no_colon hplain hwraps.noColon_opening)
        (plain_of_no_colon hplain hwraps.noColon_closing)

end Reading

end SqlCompose
