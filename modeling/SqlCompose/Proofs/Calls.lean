import SqlCompose.Proofs.Layout

/-!
# SqlCompose.Proofs.Calls -- functions around laid out texts

Every dialect puts the arguments of a function in parentheses and closes what its own text
opens. The name of a function ends at the parenthesis behind it, whatever letters it is made
of.
-/

namespace SqlCompose

open Lexeme

variable {value : Parameter → Prop} {acc : Accumulator} {rule : Rule} {s t : Spot}
  {a name : String} {texts : List String} {d : Dialect}

/-! ## Names of functions -/

/-- A character that ends names and means something behind them. -/
def isDivider (c : Char) : Bool := "'(),:".toList.contains c || Text.isBlank c

/-- A text without characters that end names. -/
def IsSolid (s : String) : Prop := ∀ c ∈ s.toList, isDivider c = false

instance (s : String) : Decidable (IsSolid s) :=
  List.decidableBAll (fun c => isDivider c = false) s.toList

theorem isDivider_of_isWordChar {c : Char} (h : Text.isWordChar c = true) :
    isDivider c = false := by
  refine Bool.or_eq_false_iff.mpr ⟨?_, isBlank_of_isWordChar h⟩
  apply Bool.eq_false_iff.mpr
  intro hmem
  have hall : "'(),:".toList.all (fun c => !Text.isWordChar c) = true := by decide
  have hc := List.all_eq_true.mp hall c (List.contains_iff_mem.mp hmem)
  exact absurd hc (by simp [h])

/-- The numbers of all characters that end names. -/
def dividerNumbers : List Nat := [0x27, 0x28, 0x29, 0x2c, 0x3a] ++ blankNumbers

theorem mem_dividerNumbers {c : Char} (h : isDivider c = true) : c.toNat ∈ dividerNumbers := by
  rcases Bool.or_eq_true_iff.mp h with hmem | hblank
  · have hall : "'(),:".toList.all (fun c => dividerNumbers.contains c.toNat) = true := by decide
    exact List.contains_iff_mem.mp (List.all_eq_true.mp hall c (List.contains_iff_mem.mp hmem))
  · exact List.mem_append_right _ (mem_blankNumbers hblank)

theorem fixedByUpper_dividerNumbers : Text.FixedByUpper dividerNumbers := by
  constructor <;> decide +kernel

theorem isSolid_upper {s : String} (h : IsSolid s) : IsSolid (Text.upper s) := by
  intro c hc
  cases hdivider : isDivider c with
  | true =>
    have hmem := fixedByUpper_dividerNumbers.mem_of_mem_upper (mem_dividerNumbers hdivider) hc
    exact hdivider.symm.trans (h c hmem)
  | false => rfl

theorem Lexeme.step_solid (rule : Rule) {l : Lexeme} (h : ∀ c, l = .mark c → isDivider c = false)
    (ordering : Bool) :
    ∃ next, step rule ⟨0, ordering⟩ l = some ⟨0, next⟩ := by
  have hmark : ∀ c, isDivider c = true → l ≠ .mark c := by
    rintro c hc rfl
    exact absurd (h c rfl) (by simp [hc])
  have hgap : l.isGap = false := by
    cases l with
    | mark c => exact (Bool.or_eq_false_iff.mp (h c rfl)).2
    | _ => rfl
  unfold step
  rw [if_neg (hmark '(' (by decide)), if_neg (hmark ')' (by decide)), if_pos rfl]
  cases rule <;> simp [Rule.next, hgap, hmark ',' (by decide)]

theorem Lexeme.walk_solid (rule : Rule) {ls : List Lexeme}
    (h : ∀ l ∈ ls, ∀ c, l = .mark c → isDivider c = false) (ordering : Bool) :
    ∃ next, walk rule ⟨0, ordering⟩ ls = some ⟨0, next⟩ := by
  induction ls generalizing ordering with
  | nil => exact ⟨ordering, rfl⟩
  | cons l rest ih =>
    obtain ⟨hl, hrest⟩ := List.forall_mem_cons.mp h
    obtain ⟨middle, hmiddle⟩ := step_solid rule hl ordering
    obtain ⟨next, hnext⟩ := ih hrest middle
    exact ⟨next, Option.bind_eq_some_iff.mpr ⟨_, hmiddle, hnext⟩⟩

/-- The lexemes of a text have no other characters than the text. -/
theorem Lexeme.mem_of_mark_mem_scan {c : Char} {cs : List Char} (h : .mark c ∈ scan false cs) :
    c ∈ cs := by
  rw [← flatMap_scan false cs]
  exact List.mem_flatMap.mpr ⟨_, h, List.mem_singleton_self c⟩

/-- The name of a function closes what it opens, whatever word it ends with. -/
theorem leads_solid (rule : Rule) (h : IsSolid name) :
    ∃ ordering, Leads rule (.at 0) ⟨0, ordering⟩ name.toList := by
  have hlexemes : ∀ l ∈ scan false name.toList, ∀ c, l = .mark c → isDivider c = false := by
    rintro l hl c rfl
    exact h c (mem_of_mark_mem_scan hl)
  have hquote : '\'' ∉ name.toList := fun hmem => absurd (h _ hmem) (by decide)
  obtain ⟨ordering, hwalk⟩ := walk_solid rule hlexemes false
  refine ⟨ordering, quotedAfter_eq_self.mpr ?_, hwalk⟩
  rw [List.count_eq_zero_of_not_mem hquote]
  exact Even.zero

/-- A text behind a name that opens a parenthesis, whatever word the name ends with. -/
structure OpensCall (opening : String) : Prop where
  noColon : NoColon opening
  starts : Text.Stops Text.isWordChar opening.toList
  ends : EndsApart opening.toList
  nonempty : opening.toList ≠ []
  opens : ∀ rule ordering, Leads rule ⟨0, ordering⟩ (.at 1) opening.toList

theorem opensCall (distinct : Bool) : OpensCall ("(" ++ if distinct then "DISTINCT " else "") := by
  cases distinct <;> constructor <;> decide

/-- A call puts its arguments in parentheses. -/
theorem OpensCall.encloses {opening : String} (h : OpensCall opening) (hname : IsSolid name) :
    Encloses 0 (name ++ opening) ")" := by
  intro rule
  have hclosing : ∀ rule, Leads rule (.at 1) (.at 0) ")".toList := by decide
  obtain ⟨ordering, hleads⟩ := leads_solid rule hname
  constructor
  · rw [String.toList_append, List.mem_append, not_or]
    exact ⟨fun hmem => absurd (hname _ hmem) (by decide), h.noColon⟩
  · decide
  · rw [String.toList_append]
    exact hleads.append (h.opens rule ordering) (.inr h.starts)
  · exact hclosing rule
  · rw [String.toList_append]
    exact endsApart_append h.nonempty h.ends
  · exact Text.stops_cons (by decide) _

namespace LaysText

theorem call (hname : IsSolid name) (h : ∀ text ∈ texts, LaysText value acc .anything text)
    (distinct : Bool) : LaysText value acc rule ((SqlFunction.call name).render texts distinct) := by
  have hopening := (opensCall distinct).encloses hname
  rw [← String.append_assoc] at hopening
  refine wrap hopening ?_
  cases texts with
  | nil =>
    refine fixed ?_
    split <;> decide
  | cons text rest =>
    simp only [List.isEmpty_cons, Bool.false_and, Bool.false_eq_true, if_false]
    exact commas (by decide) h

end LaysText

/-! ## Functions -/

namespace SqlFunction

/-- The texts before and behind the slot of a template. -/
def halves (text : String) : String × String :=
  (String.ofList (text.toList.takeWhile (· != '\x7b')),
    String.ofList ((text.toList.dropWhile (· != '\x7b')).drop (slot 0).length))

theorem halves_template {opening closing : String} (h : '\x7b' ∉ opening.toList) :
    halves (opening ++ slot 0 ++ closing) = (opening, closing) := by
  have hslot : (slot 0).toList = ['\x7b', '0', '\x7d'] := by decide
  have hopening : ∀ c ∈ opening.toList, (c != '\x7b') = true := by
    intro c hc
    exact bne_iff_ne.mpr fun heq => h (heq ▸ hc)
  have htext : (opening ++ slot 0 ++ closing).toList =
      opening.toList ++ '\x7b' :: '0' :: '\x7d' :: closing.toList := by
    simp [String.toList_append, hslot]
  unfold halves
  rw [htext, List.takeWhile_append_of_pos hopening, List.dropWhile_append_of_pos hopening]
  simp [show (slot 0).length = 3 by decide]

/-- A name has no characters that end names, a keyword stands by itself, and a template puts
its argument in parentheses. -/
def ClosesItself : SqlFunction → Prop
  | .call name => IsSolid name
  | .keyword text => Stands text
  | .template text => ∃ more < 2, Encloses more (halves text).1 (halves text).2

instance (f : SqlFunction) : Decidable f.ClosesItself :=
  match f with
  | .call name => inferInstanceAs (Decidable (IsSolid name))
  | .keyword text => inferInstanceAs (Decidable (Stands text))
  | .template text =>
    inferInstanceAs (Decidable (∃ more < 2, Encloses more (halves text).1 (halves text).2))

theorem closesItself_standard {kind : FunctionKind} (hname : IsSolid kind.name) :
    (standard kind).ClosesItself := by
  cases kind with
  | custom name => exact isSolid_upper hname
  | _ => decide +kernel

theorem closesItself_namedPart {kind : FunctionKind} {f : SqlFunction}
    (h : namedPart kind = some f) : f.ClosesItself := by
  cases kind <;> cases h <;> decide +kernel

end SqlFunction

theorem Vendor.closesItself_function (k : DialectKind) {kind : FunctionKind} {f : SqlFunction}
    (h : k.vendor.function kind = some f) : f.ClosesItself := by
  cases k with
  | mySql | db2 | derby => exact SqlFunction.closesItself_namedPart h
  | _ => cases kind <;> cases h <;> decide +kernel

/-- Every dialect closes what the text of a function opens, if its name is solid. -/
theorem Dialect.closesItself_function (d : Dialect) {kind : FunctionKind}
    (hname : IsSolid kind.name) : (d.function kind).ClosesItself := by
  have hrenames : ∀ k : DialectKind, ∀ entry ∈ k.vendor.renames, IsSolid entry.2 := by
    intro k
    cases k <;> decide
  rcases d.function_cases kind with h | h | ⟨name, other, rfl, hmem, h⟩
  · exact Vendor.closesItself_function d.kind h
  · rw [h]
    exact SqlFunction.closesItself_standard hname
  · rw [h]
    exact hrenames d.kind _ hmem

/-- Every dialect puts the arguments of a valid call in parentheses. -/
theorem LaysText.function {kind : FunctionKind} {distinct : Bool} (hname : IsSolid kind.name)
    (hvalid : checkCall kind texts.length distinct = .ok ())
    (h : ∀ text ∈ texts, LaysText value acc .anything text) :
    LaysText value acc rule ((d.function kind).render texts distinct) := by
  have hcloses := d.closesItself_function hname
  have hshape := d.shape_function kind
  generalize d.function kind = f at hcloses hshape
  cases hshape with
  | call => exact call hcloses h distinct
  | keyword => exact fixed hcloses
  | @template opening closing harity hwraps =>
    obtain ⟨text, rfl⟩ := exists_eq_singleton_of_checkCall hvalid harity
    obtain ⟨more, _, hencloses⟩ := hcloses
    rw [SqlFunction.halves_template hwraps.opening_brace] at hencloses
    rw [SqlFunction.render_template hwraps.opening_brace hwraps.closing_brace]
    exact wrap hencloses (h text List.mem_cons_self)

/-! ## Matches -/

/-- A match without case is about its operand in small letters, which stands in parentheses. -/
theorem LaysText.like {operand marker : String} {ignoreCase : Bool}
    (h : ignoreCase = false → LaysText value acc rule operand)
    (hignore : ignoreCase = true → LaysText value acc .anything operand)
    (hmarker : LaysText value acc rule marker) :
    LaysText value acc rule
      (sqlText d (Like.tokens d (Like.operand d operand ignoreCase) marker)) := by
  have hoperand : LaysText value acc rule (Like.operand d operand ignoreCase) := by
    cases ignoreCase with
    | false => exact h rfl
    | true =>
      simp only [Like.operand, if_true, function_lower]
      exact call (by decide) (by simpa using hignore rfl) false
  have hlike := join (f := " LIKE ") (by decide) hoperand hmarker
  unfold Like.tokens
  cases d.info.likeEscape with
  | false => simpa [sqlText, String.join, Token.text, String.append_assoc] using hlike
  | true =>
    -- the escape clause brings a literal along, which is passed over as a whole
    have hescape := before (f := " ESCAPE '!'") (by decide) hlike
    have htext : sqlText d ([Token.fragment (Like.operand d operand ignoreCase), .space, .like,
        .space, .fragment marker] ++ if true = true then
          [Token.space, .escape, .space, .string (String.singleton Like.escapeChar)] else []) =
        Like.operand d operand ignoreCase ++ " LIKE " ++ marker ++ " ESCAPE '!'" := by
      simp [← String.toList_inj, toList_sqlText, Token.text, quote_escapeChar]
    rw [htext]
    exact hescape

end SqlCompose
