import SqlCompose.Proofs.Clauses
import SqlCompose.Proofs.Identifiers
import SqlCompose.Proofs.Markers
import SqlCompose.Proofs.Nesting

/-!
# SqlCompose.Proofs.Layout -- texts that close what they open

The library writes fixed words, placeholders, texts in parentheses, and texts with something
between them that keeps them apart. Whatever is put together in these ways closes every
parenthesis and every literal that it opens, and has outside of its parentheses only what a
rule allows. This stays so when markers take the places of placeholders.
-/

namespace SqlCompose

open Lexeme

variable {value : Parameter → Prop} {acc : Accumulator} {rule : Rule} {more : Nat}
  {u v w f : List Char} {a b : String} {texts : List String} {d : Dialect}

/-- A text that the library lays out. -/
inductive Lays (value : Parameter → Prop) (acc : Accumulator) : Rule → List Char → Prop
  | fixed {rule : Rule} {w : List Char} : ':' ∉ w → Conforms rule w → Lays value acc rule w
  | value {rule : Rule} {p : Parameter} {w : List Char} :
      value p → acc.Writes w p → Lays value acc rule w
  | wrap {rule : Rule} {more : Nat} {u v w : List Char} :
      Wraps rule more u v → Lays value acc .anything w → Lays value acc rule (u ++ w ++ v)
  | join {rule : Rule} {f u v : List Char} :
      Divides rule f → Lays value acc rule u → Lays value acc rule v →
        Lays value acc rule (u ++ f ++ v)
  | before {rule : Rule} {u v : List Char} :
      Lays value acc rule u → ':' ∉ v → Conforms rule v → Text.Stops Text.isWordChar v →
        Lays value acc rule (u ++ v)

/-! ## What is laid out -/

/-- A number is a word that conforms to every rule. -/
theorem Lexeme.conforms_digits {ds : List Char} (h : ∀ c ∈ ds, Text.isDecimalDigit c = true) :
    Conforms rule ds := by
  refine conforms_word (fun c hc => (digit_of_isDecimalDigit (h c hc)).1) fun _ => ?_
  apply Bool.eq_false_iff.mpr
  intro horder
  have heq : ds.map Char.toLower = "order".toList := eq_of_beq horder
  cases ds with
  | nil => cases heq
  | cons c rest =>
    apply (digit_of_isDecimalDigit (h c List.mem_cons_self)).2
    rw [List.head_eq_of_cons_eq heq]
    decide

/-- A placeholder conforms to every rule. -/
theorem Placeholder.conforms_name (n : Nat) : Conforms rule (Placeholder.name n).toList := by
  have hdigits : Conforms rule (Text.zeroPadded 4 n) :=
    conforms_digits fun c hc => Text.isDecimalDigit_of_mem_zeroPadded hc
  have hopen : ∀ rule, Conforms rule [':', '['] := by decide
  have hclose : ∀ rule, Conforms rule [']'] := by decide
  have htext : (Placeholder.name n).toList = [':', '['] ++ Text.zeroPadded 4 n ++ [']'] := by
    rw [Placeholder.name_toList]
    simp [tail]
  rw [htext]
  exact ((hopen rule).append hdigits (.inl (by decide))).append (hclose rule) (.inr (by decide))

theorem Lays.conforms (h : Lays value acc rule w) : Conforms rule w := by
  induction h with
  | fixed _ hconforms => exact hconforms
  | value _ hwrites =>
    obtain ⟨n, _, _, rfl⟩ := hwrites
    exact Placeholder.conforms_name n
  | wrap hwraps _ ih => exact hwraps.wrap ih
  | join hdivides _ _ ihu ihv => exact hdivides.join ihu ihv
  | before _ _ hconforms hstops ih => exact ih.append hconforms (.inr hstops)

/-- Markers that close what they open take the places of placeholders. -/
theorem Lays.settles (hmarker : ∀ p, value p → ∀ rule ≠ Rule.unordered, Conforms rule p.marker.toList)
    (h : Lays value acc rule w) (hrule : rule ≠ .unordered) :
    ∃ out ps, acc.Settles w out ps ∧ Conforms rule out := by
  induction h with
  | fixed hcolon hconforms => exact ⟨_, _, .of_no_colon hcolon, hconforms⟩
  | value hp hwrites => exact ⟨_, _, .value hwrites, hmarker _ hp _ hrule⟩
  | wrap hwraps _ ih =>
    obtain ⟨out, ps, hsettles, hconforms⟩ := ih (by decide)
    exact ⟨_, _, ((Accumulator.Settles.of_no_colon hwraps.noColon_opening).append hsettles).append
      (.of_no_colon hwraps.noColon_closing), hwraps.wrap hconforms⟩
  | join hdivides _ _ ihu ihv =>
    obtain ⟨x, ps, hx, hxconforms⟩ := ihu hrule
    obtain ⟨y, qs, hy, hyconforms⟩ := ihv hrule
    exact ⟨_, _, (hx.append (.of_no_colon hdivides.noColon)).append hy,
      hdivides.join hxconforms hyconforms⟩
  | before _ hcolon hconforms hstops ih =>
    obtain ⟨out, ps, hsettles, hout⟩ := ih hrule
    exact ⟨_, _, hsettles.append (.of_no_colon hcolon), hout.append hconforms (.inr hstops)⟩

/-! ## Finished texts -/

/-- A text that conforms to every rule and has no placeholder. -/
def Stands (a : String) : Prop := NoColon a ∧ ∀ rule, Conforms rule a.toList

/-- A text that keeps two others apart under every rule. -/
def Parts (f : String) : Prop := ∀ rule, Divides rule f.toList

/-- A text that can stand behind any other one under every rule. -/
def Trails (f : String) : Prop := Stands f ∧ Text.Stops Text.isWordChar f.toList

/-- Two texts that put what stands between them into parentheses. -/
def Encloses (more : Nat) (opening closing : String) : Prop :=
  ∀ rule, Wraps rule more opening.toList closing.toList

instance (a : String) : Decidable (Stands a) := inferInstanceAs (Decidable (_ ∧ _))

instance (f : String) : Decidable (Parts f) :=
  inferInstanceAs (Decidable (∀ rule, Divides rule f.toList))

instance (f : String) : Decidable (Trails f) := inferInstanceAs (Decidable (_ ∧ _))

instance (more : Nat) (opening closing : String) : Decidable (Encloses more opening closing) :=
  inferInstanceAs (Decidable (∀ rule, Wraps rule more opening.toList closing.toList))

/-- A string that the library lays out. -/
def LaysText (value : Parameter → Prop) (acc : Accumulator) (rule : Rule) (a : String) : Prop :=
  Lays value acc rule a.toList

namespace LaysText

theorem fixed (h : Stands a) : LaysText value acc rule a :=
  Lays.fixed h.1 (h.2 rule)

theorem join {f : String} (hf : Parts f) (ha : LaysText value acc rule a)
    (hb : LaysText value acc rule b) : LaysText value acc rule (a ++ f ++ b) := by
  unfold LaysText
  rw [String.toList_append, String.toList_append]
  exact .join (hf rule) ha hb

theorem before {f : String} (hf : Trails f) (ha : LaysText value acc rule a) :
    LaysText value acc rule (a ++ f) := by
  unfold LaysText
  rw [String.toList_append]
  exact .before ha hf.1.1 (hf.1.2 rule) hf.2

theorem wrap {opening closing : String} (h : Encloses more opening closing)
    (ha : LaysText value acc .anything a) : LaysText value acc rule (opening ++ a ++ closing) := by
  unfold LaysText
  rw [String.toList_append, String.toList_append]
  exact .wrap (h rule) ha

theorem commas (hrule : rule ≠ .uncut) (h : ∀ text ∈ texts, LaysText value acc rule text) :
    LaysText value acc rule (", ".intercalate texts) := by
  have hcomma : ∀ rule ≠ Rule.uncut, Divides rule ", ".toList := by decide
  induction texts with
  | nil => exact fixed (by decide)
  | cons text rest ih =>
    obtain ⟨htext, hrest⟩ := List.forall_mem_cons.mp h
    cases rest with
    | nil => simpa using htext
    | cons next rest =>
      rw [String.intercalate_cons_cons]
      unfold LaysText
      rw [String.toList_append, String.toList_append]
      exact .join (hcomma rule hrule) htext (ih hrest)

/-- In parentheses or not. -/
theorem enclosed {isQuery : Bool} (h : isQuery = false → LaysText value acc rule a)
    (hquery : isQuery = true → LaysText value acc .anything a) :
    LaysText value acc rule (enclosed isQuery a) := by
  cases isQuery with
  | false => exact h rfl
  | true => exact wrap (by decide : Encloses 0 "(" ")") (hquery rfl)

end LaysText

end SqlCompose
