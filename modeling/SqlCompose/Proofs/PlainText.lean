import SqlCompose.Proofs.Encoding
import SqlCompose.Proofs.TemporalRoundTrip

/-!
# SqlCompose.Proofs.PlainText -- text that is read from a column of text

A column of text may hold any text, but one that looks like a string literal,
blanks around it and a national mark in front apart, is taken for one: what is
read is the text between its quotes. All other texts are read as they are.
-/

namespace SqlCompose

namespace LiteralText

open Text

/-! ## String literals -/

/-- A text is the literal of another one: quoted, possibly marked as national, and with nothing
but blanks around it. -/
def IsLiteralOf (s content : String) : Prop :=
  ∃ before mark after : List Char,
    s.toList = before ++ (mark ++ ((Quoted.quote content).toList ++ after)) ∧
    (mark = [] ∨ mark = ['N']) ∧ (∀ c ∈ before, isBlank c = true) ∧ ∀ c ∈ after, isBlank c = true

theorem halved_cons {c : Char} (hc : c ≠ '\'') (cs : List Char) :
    Quoted.halved (c :: cs) = c :: Quoted.halved cs := by
  rw [Quoted.halved]
  intro rest hquote _
  exact absurd hquote hc

/-- What was taken from between quotes stands in front of the closing one, and its quotes are
doubled. -/
theorem takeBody_eq_some {cs body after : List Char} (h : takeBody cs = some (body, after)) :
    cs = body ++ '\'' :: after ∧ Quoted.doubled '\'' (Quoted.halved body) = body := by
  fun_induction takeBody cs generalizing body after with
  | case1 => cases h
  | case2 rest ih =>
    obtain ⟨⟨inner, after'⟩, hinner, heq⟩ := Option.map_eq_some_iff.mp h
    obtain ⟨rfl, rfl⟩ := Prod.mk.inj heq
    obtain ⟨hrest, hdoubled⟩ := ih hinner
    refine ⟨by rw [hrest]; rfl, ?_⟩
    simp only [Quoted.halved, Quoted.doubled, if_true, hdoubled]
  | case3 rest hpair =>
    obtain ⟨rfl, rfl⟩ := Prod.mk.inj (Option.some.inj h)
    exact ⟨rfl, rfl⟩
  | case4 c rest hpair hc ih =>
    obtain ⟨⟨inner, after'⟩, hinner, heq⟩ := Option.map_eq_some_iff.mp h
    obtain ⟨rfl, rfl⟩ := Prod.mk.inj heq
    obtain ⟨hrest, hdoubled⟩ := ih hinner
    refine ⟨by rw [hrest]; rfl, ?_⟩
    rw [halved_cons hc, Quoted.doubled, if_neg hc, hdoubled]

theorem takeMark_eq_some {mark : Char} {cs rest : List Char} (h : takeMark mark cs = some rest) :
    cs = mark :: rest := by
  cases cs with
  | nil => cases h
  | cons c cs =>
    by_cases hc : c = mark
    · simp only [takeMark, hc, if_true, Option.some.injEq] at h
      rw [hc, h]
    · simp only [takeMark, hc, if_false] at h
      cases h

/-- A text between quotes and the blanks after it. -/
theorem quotedToEnd_eq_some_iff {cs : List Char} {content : String} :
    (quotedToEnd cs).map (fun body => String.ofList (Quoted.halved body)) = some content ↔
      ∃ after, cs = (Quoted.quote content).toList ++ after ∧ ∀ c ∈ after, isBlank c = true := by
  constructor
  · intro h
    obtain ⟨body, hbody, rfl⟩ := Option.map_eq_some_iff.mp h
    unfold quotedToEnd at hbody
    obtain ⟨⟨body', after⟩, htaken, hend⟩ := Option.bind_eq_some_iff.mp hbody
    obtain ⟨hblank, hsome⟩ := Option.ite_none_right_eq_some.mp hend
    cases hsome
    obtain ⟨rest, hmark, hrest⟩ := Option.bind_eq_some_iff.mp htaken
    obtain ⟨hcs, hdoubled⟩ := takeBody_eq_some hrest
    refine ⟨after, ?_, List.all_eq_true.mp hblank⟩
    rw [takeMark_eq_some hmark, hcs, toList_quote, String.toList_ofList, hdoubled]
    simp
  · rintro ⟨after, rfl, hblank⟩
    have hafter : after.head? ≠ some '\'' := by
      intro h
      have hquote := hblank '\'' (List.mem_of_mem_head? h)
      cases hquote
    have hend : atEnd after = true := List.all_eq_true.mpr hblank
    simp only [quotedToEnd, takeQuoted_quote content after hafter, Option.bind_some, hend, if_true,
      Option.map_some, Quoted.halved_doubled, String.ofList_toList]

/-- The reader of string literals takes all of them, and gives their content. -/
theorem string?_eq_some_iff {s content : String} :
    string? s = some content ↔ IsLiteralOf s content := by
  unfold string? quoted
  rw [quotedToEnd_eq_some_iff]
  constructor
  · rintro ⟨after, hcs, hafter⟩
    have hsplit : s.toList.takeWhile isBlank ++ trimFront s.toList = s.toList :=
      List.takeWhile_append_dropWhile
    have hbefore : ∀ c ∈ s.toList.takeWhile isBlank, isBlank c = true :=
      List.all_eq_true.mp List.all_takeWhile
    -- the mark of a national string may stand in front of the quote
    cases hmark : takeMark 'N' (trimFront s.toList) with
    | none =>
      rw [hmark, Option.getD_none] at hcs
      refine ⟨_, [], after, ?_, .inl rfl, hbefore, hafter⟩
      rw [List.nil_append, ← hcs, hsplit]
    | some rest =>
      rw [hmark, Option.getD_some] at hcs
      refine ⟨_, ['N'], after, ?_, .inr rfl, hbefore, hafter⟩
      rw [List.singleton_append, ← hcs, ← takeMark_eq_some hmark, hsplit]
  · rintro ⟨before, mark, after, hs, hmark, hbefore, hafter⟩
    refine ⟨after, ?_, hafter⟩
    have hfront : ∀ rest, Stops isBlank rest → trimFront (before ++ rest) = rest :=
      fun rest hrest => hrest.dropWhile_append hbefore
    rcases hmark with rfl | rfl
    · have hquote : trimFront s.toList = (Quoted.quote content).toList ++ after := by
        rw [hs, List.nil_append, hfront]
        rw [toList_quote]
        exact stops_cons (by decide) _
      have hnational : takeMark 'N' ((Quoted.quote content).toList ++ after) = none := by
        rw [toList_quote]
        rfl
      rw [hquote, hnational, Option.getD_none]
    · have hnational : trimFront s.toList = 'N' :: ((Quoted.quote content).toList ++ after) := by
        rw [hs, List.singleton_append, hfront]
        exact stops_cons (by decide) _
      rw [hnational]
      rfl

theorem length_le_doubled (cs : List Char) : cs.length ≤ (Quoted.doubled '\'' cs).length := by
  induction cs with
  | nil => exact Nat.le_refl 0
  | cons c cs ih =>
    unfold Quoted.doubled
    split <;> simp only [List.length_cons] <;> omega

/-- A literal is longer than its content: no text is its own literal. -/
theorem IsLiteralOf.length_lt {s content : String} (h : IsLiteralOf s content) :
    content.length < s.length := by
  obtain ⟨before, mark, after, hs, -⟩ := h
  have hdoubled := length_le_doubled content.toList
  rw [← String.length_toList, ← String.length_toList (s := s), hs, toList_quote]
  simp only [List.length_append, List.length_cons]
  omega

end LiteralText

/-! ## What processors leave of a text -/

namespace Processor

/-- What a processor makes of a text in a column of text. -/
def plain : Processor → String → String
  | .typedLiteral, s => (LiteralText.string? s).getD s
  | _, s => s

theorem length_plain_le (p : Processor) (s : String) : (p.plain s).length ≤ s.length := by
  cases p with
  | typedLiteral =>
    show ((LiteralText.string? s).getD s).length ≤ s.length
    cases h : LiteralText.string? s with
    | none => exact Nat.le_refl _
    | some content => exact Nat.le_of_lt (LiteralText.string?_eq_some_iff.mp h).length_lt
  | _ => exact Nat.le_refl _

theorem plain_of_not_literal (p : Processor) {s : String}
    (h : ∀ content, ¬ LiteralText.IsLiteralOf s content) : p.plain s = s := by
  cases p with
  | typedLiteral =>
    have hnone : LiteralText.string? s = none := by
      rw [Option.eq_none_iff_forall_ne_some]
      intro content hcontent
      exact h content (LiteralText.string?_eq_some_iff.mp hcontent)
    show (LiteralText.string? s).getD s = s
    rw [hnone, Option.getD_none]
  | _ => rfl

end Processor

/-- The types of columns of text. -/
def LogicalType.isText : LogicalType → Bool
  | .string | .clob | .charStream => true
  | _ => false

namespace Codec

/-- What a codec makes of a text in a column of text. -/
def plainText (c : Codec) (s : String) : String := c.processors.foldl (fun s p => p.plain s) s

/-- A processor leaves a text, whichever of the types of text is wanted. -/
theorem process_plain (p : Processor) (s : String) {type : LogicalType}
    (htype : type.isText = true) : p.process (.string s) type = .ok (.string (p.plain s)) := by
  have htypes : type = .string ∨ type = .clob ∨ type = .charStream := by
    cases type with
    | string | clob | charStream => simp
    | _ => cases htype
  rcases htypes with rfl | rfl | rfl <;> cases p <;> rfl

theorem processed_plain (ps : List Processor) (s : String) {type : LogicalType}
    (htype : type.isText = true) :
    processed ps (.string s) type = .ok (.string (ps.foldl (fun s p => p.plain s) s)) := by
  induction ps generalizing s with
  | nil => rfl
  | cons p rest ih =>
    unfold processed
    rw [process_plain p s htype]
    exact ih _

theorem length_foldl_plain_le (ps : List Processor) (s : String) :
    (ps.foldl (fun s p => p.plain s) s).length ≤ s.length := by
  induction ps generalizing s with
  | nil => exact Nat.le_refl _
  | cons p rest ih => exact Nat.le_trans (ih _) (p.length_plain_le s)

theorem foldl_plain_of_not_literal (ps : List Processor) {s : String}
    (h : ∀ content, ¬ LiteralText.IsLiteralOf s content) :
    ps.foldl (fun s p => p.plain s) s = s := by
  induction ps with
  | nil => rfl
  | cons p rest ih => rw [List.foldl_cons, p.plain_of_not_literal h, ih]

/-- A text is left as it is exactly if it is no string literal. -/
theorem plainText_eq_iff (c : Codec) (s : String) :
    c.plainText s = s ↔ ∀ content, ¬ LiteralText.IsLiteralOf s content := by
  constructor
  · intro h content hliteral
    obtain ⟨rest, hprocessors⟩ := c.processors_eq_cons
    have hfirst : Processor.plain .typedLiteral s = content := by
      show (LiteralText.string? s).getD s = content
      rw [LiteralText.string?_eq_some_iff.mpr hliteral, Option.getD_some]
    -- what was taken for a literal is shorter than it was, and stays so
    have hlength := length_foldl_plain_le rest content
    have hshorter := hliteral.length_lt
    unfold plainText at h
    rw [hprocessors, List.foldl_cons, hfirst] at h
    rw [h] at hlength
    omega
  · exact foldl_plain_of_not_literal c.processors

/-- In a column of text, what the processors leave is converted to the type that is wanted. -/
theorem deserialize_text (c : Codec) (s : String) {type : LogicalType}
    (htype : type.isText = true) :
    c.deserialize (.string s) type = (do
      let w ← (Value.string (c.plainText s)).convert type
      if w.assignable type then pure w
      else throw (.conversion (.inconvertible w.typeName type.shown))) := by
  have hresult : Streaming.ofResult (.ok (Value.string (c.plainText s))) =
      pure (Value.string (c.plainText s)) := rfl
  unfold deserialize
  rw [processed_plain c.processors s htype]
  show (Streaming.ofResult (.ok (Value.string (c.plainText s))) >>= fun v => _) = _
  rw [hresult, pure_bind]

/-- A text of any column of text is read as what the processors leave of it: the same text, if it
is no string literal. -/
theorem text_untouched_iff (c : Codec) (s : String) : ∃ t,
    c.deserialize (.string s) .string = pure (.string t) ∧
    c.deserialize (.string s) .clob = pure (.clob t) ∧
    (∀ store, ∃ handle after,
      c.deserialize (.string s) .charStream store = (.ok (.charStream handle), after) ∧
      (Streaming.readText handle after).1 = .ok t) ∧
    (t = s ↔ ∀ content, ¬ LiteralText.IsLiteralOf s content) := by
  refine ⟨c.plainText s, ?_, ?_, ?_, c.plainText_eq_iff s⟩
  · rw [c.deserialize_text s rfl]
    rfl
  · rw [c.deserialize_text s rfl]
    rfl
  · intro store
    obtain ⟨handle, after, hopen, hread⟩ := Streaming.readText_openText (c.plainText s) store
    refine ⟨handle, after, ?_, hread⟩
    rw [c.deserialize_text s rfl]
    cases hopen
    rfl

/-- A text between quotes is read without them, also from a column of text. -/
theorem quoted_text_is_unquoted :
    let c : Codec := ⟨Dialect.new .ansi, []⟩
    c.deserialize (.string "'abc'") .string = pure (.string "abc") ∧
      c.deserialize (.string "'abc'") .string ≠ pure (.string "'abc'") := by
  intro c
  have htext : c.plainText "'abc'" = "abc" := by decide
  have hread : c.deserialize (.string "'abc'") .string = pure (.string "abc") := by
    rw [c.deserialize_text _ rfl, htext]
    rfl
  refine ⟨hread, ?_⟩
  rw [hread]
  intro h
  have hrun := (Prod.mk.inj (congrFun h (⟨[]⟩ : StreamStore))).1
  injection hrun with hvalue
  injection hvalue with hsame
  exact absurd hsame (by decide)

end Codec

end SqlCompose
