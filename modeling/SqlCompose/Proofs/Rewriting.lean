import SqlCompose.Proofs.BindForms
import SqlCompose.Proofs.Verbatim

/-!
# SqlCompose.Proofs.Rewriting -- placeholders become markers, and nothing else changes

A text is taken apart at its placeholders. A piece between two of them may have
colons, and may start like a placeholder, as long as no part of it has the shape of
one: no placeholder can begin in a piece and end in a placeholder, because a colon
stands nowhere but at the front of one. So the placeholders are found where they
were put, each becomes the marker of the parameter that it names, and the pieces are
copied. A parameter is bound once for each of its placeholders, which a stream that
is read does not stand twice.
-/

namespace SqlCompose

open Compose Placeholder

/-! ## Texts taken apart -/

/-- A placeholder and the piece of text after it. -/
structure Segment where
  number : Nat
  number_le : number ≤ maxNumber
  piece : List Char
  free : PlaceholderFree piece

namespace Segment

/-- The pieces, each after a text in the place of its placeholder. -/
def weave : List Segment → List String → List Char
  | g :: rest, text :: texts => text.toList ++ (g.piece ++ weave rest texts)
  | _, _ => []

/-- The placeholders and the pieces as they stand. -/
def chars (gs : List Segment) : List Char := weave gs (gs.map fun g => name g.number)

theorem chars_cons (g : Segment) (rest : List Segment) :
    chars (g :: rest) = (name g.number).toList ++ (g.piece ++ chars rest) := rfl

theorem splits_chars (gs : List Segment) : Splits (chars gs) := by
  cases gs with
  | nil => exact splits_nil
  | cons g rest =>
    rw [chars_cons, name_toList]
    exact splits_cons (by decide) _

theorem scan_chars_cons (g : Segment) (rest : List Segment) :
    TextPiece.scan 0 (chars (g :: rest)) =
      .placeholder g.number :: (g.piece.map .char ++ TextPiece.scan 0 (chars rest)) := by
  rw [chars_cons, TextPiece.scan_name g.number_le, TextPiece.scan_append (splits_chars rest),
    TextPiece.scan_of_placeholderFree g.free]

end Segment

/-- A text taken apart at its placeholders. -/
structure Segmented where
  front : List Char
  front_free : PlaceholderFree front
  segments : List Segment

namespace Segmented

/-- The numbers of the placeholders in order. -/
def numbers (w : Segmented) : List Nat := w.segments.map (·.number)

/-- The pieces with other texts in the places of the placeholders. -/
def woven (w : Segmented) (texts : List String) : String :=
  String.ofList (w.front ++ Segment.weave w.segments texts)

/-- The text itself. -/
def text (w : Segmented) : String := w.woven (w.numbers.map name)

theorem toList_text (w : Segmented) : w.text.toList = w.front ++ Segment.chars w.segments := by
  unfold text woven numbers Segment.chars
  rw [String.toList_ofList, List.map_map]
  rfl

theorem scan_text (w : Segmented) :
    TextPiece.scan 0 w.text.toList =
      w.front.map .char ++ TextPiece.scan 0 (Segment.chars w.segments) := by
  rw [toList_text, TextPiece.scan_append (Segment.splits_chars _),
    TextPiece.scan_of_placeholderFree w.front_free]

end Segmented

/-! ## What is found in them -/

/-- Characters name nothing. -/
theorem TextPiece.numbers_chars (cs : List Char) :
    (cs.map TextPiece.char).filterMap number? = [] := by
  rw [List.filterMap_map]
  exact List.filterMap_eq_nil_iff.mpr fun _ _ => rfl

/-- Characters stay as they are. -/
theorem TextPiece.filled_chars (acc : Accumulator) (cs : List Char) :
    (cs.map TextPiece.char).flatMap (filled acc) = cs := by
  rw [List.flatMap_map]
  exact List.flatMap_singleton' cs

theorem Segment.numbers_scan (gs : List Segment) :
    (TextPiece.scan 0 (chars gs)).filterMap TextPiece.number? = gs.map (·.number) := by
  induction gs with
  | nil => rfl
  | cons g rest ih =>
    rw [scan_chars_cons]
    show g.number :: (g.piece.map .char ++ _).filterMap TextPiece.number? = _
    rw [List.filterMap_append, TextPiece.numbers_chars, ih]
    rfl

theorem Segment.fill_chars {acc : Accumulator} {gs : List Segment} {ps : List Parameter}
    (h : (gs.map (·.number)).mapM acc.numbered? = some ps) :
    acc.fill (chars gs) = weave gs (ps.map (·.marker)) := by
  induction gs generalizing ps with
  | nil => rfl
  | cons g rest ih =>
    simp only [List.map_cons, List.mapM_cons, Option.bind_eq_bind, Option.bind_eq_some_iff,
      Option.pure_def, Option.some.injEq] at h
    obtain ⟨p, hp, others, hrest, rfl⟩ := h
    unfold Accumulator.fill at *
    rw [scan_chars_cons, List.flatMap_cons, List.flatMap_append, TextPiece.filled_chars, ih hrest,
      TextPiece.filled, hp]
    rfl

namespace Segmented

variable (w : Segmented)

/-- In a text that was taken apart its placeholders are found. -/
theorem numbers_scan :
    (TextPiece.scan 0 w.text.toList).filterMap TextPiece.number? = w.numbers := by
  rw [scan_text, List.filterMap_append, TextPiece.numbers_chars, Segment.numbers_scan]
  rfl

/-- Each placeholder becomes the marker of what it names, and the pieces are copied. -/
theorem fill_text {acc : Accumulator} {ps : List Parameter}
    (h : w.numbers.mapM acc.numbered? = some ps) :
    String.ofList (acc.fill w.text.toList) = w.woven (ps.map (·.marker)) := by
  unfold woven
  rw [← Segment.fill_chars h, Accumulator.fill, scan_text, List.flatMap_append,
    TextPiece.filled_chars]
  rfl

end Segmented

/-! ## Binding what they name -/

section

variable {ctx : Context} {rules : List BindRule} {s t : Session}

/-- Numbers name stored parameters, and these can be bound one after another. -/
structure Compose.BindsInTurn (ctx : Context) (s : Session) (numbers : List Nat)
    (ps : List Parameter) (bs : List BoundParameter) (t : Session) : Prop where
  named : numbers.mapM s.parameters.numbered? = some ps
  bound : (bindAll ps).Yields ctx s bs t

theorem Compose.BindsInTurn.cons {n : Nat} {numbers : List Nat} {ps : List Parameter}
    {bs : List BoundParameter} (h : BindsInTurn ctx s (n :: numbers) ps bs t) :
    ∃ p b u ps' bs', s.parameters.numbered? n = some p ∧
      (resolveBound (.parameter p)).Yields ctx s b u ∧
        numbers.mapM s.parameters.numbered? = some ps' ∧ (bindAll ps').Yields ctx u bs' t := by
  obtain ⟨hnamed, hbound⟩ := h
  simp only [List.mapM_cons, Option.bind_eq_bind, Option.bind_eq_some_iff, Option.pure_def,
    Option.some.injEq] at hnamed
  obtain ⟨p, hp, ps', hps', rfl⟩ := hnamed
  simp only [bindAll_cons, yields_bind, yields_pure] at hbound
  obtain ⟨b, u, hb, bs', _, hbs', rfl, rfl⟩ := hbound
  exact ⟨p, b, u, ps', bs', hp, hb, hps', hbs'⟩

theorem outcome_get_bind {α : Type} (f : Session → Compose α) :
    ((get : Compose Session) >>= f).outcome ctx s = (f s).outcome ctx s := rfl

theorem outcome_bindNumbered_some {n : Nat} {p : Parameter}
    (h : s.parameters.numbered? n = some p) :
    (bindNumbered n).outcome ctx s = (resolveBound (.parameter p)).outcome ctx s := by
  simp only [bindNumbered, outcome_get_bind, h]

theorem outcome_bindNumbered_none {n : Nat} (h : s.parameters.numbered? n = none) :
    (bindNumbered n).outcome ctx s = (.error (.preparation (.unregistered (name n))), s) := by
  simp only [bindNumbered, outcome_get_bind, h]
  rfl

/-- Binding changes nothing but streams, whether it succeeds or not. -/
theorem session_bindNumbered (hrules : ctx.registry.BindsBy rules) (n : Nat)
    (s : Session) :
    ∃ r streams, (bindNumbered n).outcome ctx s = (r, { s with streams := streams }) := by
  cases hn : s.parameters.numbered? n with
  | none => exact ⟨_, s.streams, outcome_bindNumbered_none hn⟩
  | some p =>
    obtain ⟨r, streams, h, _⟩ := session_resolveBound hrules p s
    exact ⟨r, streams, (outcome_bindNumbered_some hn).trans h⟩

theorem session_bindPieces (hrules : ctx.registry.BindsBy rules)
    (pieces : List TextPiece) (s : Session) :
    ∃ r streams, (bindPieces pieces).outcome ctx s = (r, { s with streams := streams }) := by
  induction pieces generalizing s with
  | nil => exact ⟨_, s.streams, rfl⟩
  | cons piece rest ih =>
    cases piece with
    | char c =>
      obtain ⟨r, streams, h⟩ := ih s
      unfold bindPieces
      rw [outcome_bind, h]
      cases r <;> exact ⟨_, streams, rfl⟩
    | placeholder n =>
      obtain ⟨r, streams, h⟩ := session_bindNumbered hrules n s
      unfold bindPieces
      rw [outcome_bind, h]
      cases r with
      | error e => exact ⟨_, streams, rfl⟩
      | ok b =>
        obtain ⟨r, streams', h'⟩ := ih { s with streams := streams }
        simp only
        rw [outcome_bind, h']
        cases r <;> exact ⟨_, streams', rfl⟩

/-- The first placeholder that names nothing stops a text up to which all can be bound. -/
theorem bindPieces_unregistered (hrules : ctx.registry.BindsBy rules)
    {pieces : List TextPiece} {front rest : List Nat} {n : Nat} {ps : List Parameter}
    {bs : List BoundParameter}
    (hnumbers : pieces.filterMap TextPiece.number? = front ++ n :: rest)
    (hfront : BindsInTurn ctx s front ps bs t) (hn : s.parameters.numbered? n = none) :
    (bindPieces pieces).outcome ctx s =
      (.error (.preparation (.unregistered (name n))), t) := by
  induction pieces generalizing s front ps bs with
  | nil => simp at hnumbers
  | cons piece others ih =>
    cases piece with
    | char c =>
      unfold bindPieces
      rw [outcome_bind, ih hnumbers hfront hn]
    | placeholder m =>
      have hm : TextPiece.number? (.placeholder m) = some m := rfl
      rw [List.filterMap_cons_some hm] at hnumbers
      unfold bindPieces
      cases front with
      | nil =>
        obtain ⟨rfl, -⟩ := List.cons.inj hnumbers
        obtain ⟨hnamed, hbound⟩ := hfront
        cases hnamed
        obtain ⟨-, rfl⟩ := yields_pure.mp hbound
        rw [outcome_bind, outcome_bindNumbered_none hn]
      | cons m' front =>
        -- binding this one only spends streams, so the later numbers name what they named
        obtain ⟨rfl, hrest⟩ := List.cons.inj hnumbers
        obtain ⟨p, b, u, ps', bs', hp, hb, hps', hbs'⟩ := hfront.cons
        obtain ⟨r, streams, hrun, _⟩ := session_resolveBound hrules p s
        obtain ⟨-, rfl⟩ := Prod.mk.injEq .. ▸ hrun.symm.trans hb
        have hlater := ih hrest (s := { s with streams := streams }) ⟨hps', hbs'⟩ hn
        rw [outcome_bind, outcome_bindNumbered_some hp, hb]
        simp only
        rw [outcome_bind, hlater]

/-- A bind form keeps the marker of its parameter. -/
theorem markers_of_bindsAs (hplain : ctx.registry.IsPlainFor .parameter .bindable)
    {ps : List Parameter} {bs : List BoundParameter} (h : List.Forall₂ (BindsAs ctx s) ps bs) :
    bs.map (·.marker) = ps.map (·.marker) := by
  induction h with
  | nil => rfl
  | cons hb _ ih =>
    obtain ⟨_, hb⟩ := hb
    rw [List.map_cons, List.map_cons, ih, resolveBound_marker hplain hb]

/-- What is prepared of a text that was taken apart. -/
theorem yields_prepare_segmented (hplain : ctx.registry.IsPlainFor .parameter .bindable)
    (hrules : ctx.registry.BindsBy rules) (w : Segmented)
    {statement : SqlStatement} :
    (prepare w.text).Yields ctx s statement t ↔ ∃ ps bs, BindsInTurn ctx s w.numbers ps bs t ∧
      statement = ⟨w.woven (bs.map (·.marker)), bs.map (·.parameter)⟩ := by
  have hwoven : ∀ {ps bs}, BindsInTurn ctx s w.numbers ps bs t →
      String.ofList (s.parameters.fill w.text.toList) = w.woven (bs.map (·.marker)) := by
    rintro ps bs ⟨hps, hbs⟩
    rw [w.fill_text hps, markers_of_bindsAs hplain (bindsAs_of_bindAll hrules hbs)]
  rw [yields_prepare_of_isPlainFor hplain]
  unfold Accumulator.named?
  rw [w.numbers_scan]
  constructor
  · rintro ⟨ps, bs, hps, hbs, rfl⟩
    exact ⟨ps, bs, ⟨hps, hbs⟩, by rw [hwoven ⟨hps, hbs⟩]⟩
  · rintro ⟨ps, bs, hbinds, rfl⟩
    exact ⟨ps, bs, hbinds.named, hbinds.bound, by rw [hwoven hbinds]⟩

theorem getElem?_mapM {α β : Type} {f : α → Option β} {as : List α} {bs : List β}
    (h : as.mapM f = some bs) (k : Nat) : bs[k]? = as[k]?.bind f := by
  induction as generalizing bs k with
  | nil =>
    cases h
    rfl
  | cons a rest ih =>
    simp only [List.mapM_cons, Option.bind_eq_bind, Option.bind_eq_some_iff, Option.pure_def,
      Option.some.injEq] at h
    obtain ⟨b, hb, bs', hrest, rfl⟩ := h
    cases k with
    | zero => exact hb.symm
    | succ k => exact ih hrest k

theorem getElem?_of_forall₂ {α β : Type} {R : α → β → Prop} {as : List α} {bs : List β}
    (h : List.Forall₂ R as bs) (k : Nat) :
    (as[k]? = none ∧ bs[k]? = none) ∨ ∃ a b, as[k]? = some a ∧ bs[k]? = some b ∧ R a b := by
  induction h generalizing k with
  | nil => exact .inl ⟨rfl, rfl⟩
  | cons hab _ ih =>
    cases k with
    | zero => exact .inr ⟨_, _, rfl, rfl, hab⟩
    | succ k => exact ih k

/-- Numbers name stored parameters, each of these has a bind form, and no stream is read for two
of them. -/
structure Compose.Binds (ctx : Context) (s : Session) (numbers : List Nat) (ps : List Parameter)
    (bs : List BoundParameter) : Prop where
  named : numbers.mapM s.parameters.numbered? = some ps
  forms : List.Forall₂ (BindsAs ctx s) ps bs
  streams : (ps.filterMap (Parameter.streamRead? ctx.dialect.vendor.bindRules)).Nodup

/-- What can be bound can be bound in its turn, unless its stream has been read by then. -/
theorem Compose.exists_bindsInTurn_iff (hrules : ctx.registry.BindsBy ctx.dialect.vendor.bindRules)
    {numbers : List Nat} {ps : List Parameter} {bs : List BoundParameter} :
    (∃ t, BindsInTurn ctx s numbers ps bs t) ↔ Binds ctx s numbers ps bs := by
  constructor
  · rintro ⟨t, hnamed, hbound⟩
    exact ⟨hnamed, bindsAs_of_bindAll hrules hbound, (streams_of_bindAll hrules hbound).1⟩
  · rintro ⟨hnamed, hforms, hstreams⟩
    -- each stream is read where nothing has been taken from it
    obtain ⟨t, ht⟩ := bindAll_of_bindsAs hrules hforms hstreams fun _ _ _ _ => rfl
    exact ⟨t, hnamed, ht⟩

/-- Placeholders with the same number get the same bind form. -/
theorem Compose.Binds.repeated {numbers : List Nat} {ps : List Parameter}
    {bs : List BoundParameter} (h : Binds ctx s numbers ps bs) {i j : Nat}
    (hij : numbers[i]? = numbers[j]?) : bs[i]? = bs[j]? := by
  -- a number that names nothing stands at neither place
  have hat : ∀ k, ps[k]? = numbers[k]?.bind s.parameters.numbered? := getElem?_mapM h.named
  have hps : ps[i]? = ps[j]? := by rw [hat, hat, hij]
  rcases getElem?_of_forall₂ h.forms i with ⟨hi, hbi⟩ | ⟨p, b, hi, hbi, hb⟩ <;>
    rcases getElem?_of_forall₂ h.forms j with ⟨hj, hbj⟩ | ⟨q, c, hj, hbj, hc⟩
  · rw [hbi, hbj]
  · rw [hi, hj] at hps
    cases hps
  · rw [hi, hj] at hps
    cases hps
  · rw [hi, hj, Option.some.injEq] at hps
    subst hps
    rw [hbi, hbj, hb.unique hc]

/-- Preparing changes nothing but streams, whether it succeeds or not. -/
theorem session_prepare (hrules : ctx.registry.BindsBy rules) (sql : String)
    (s : Session) :
    ∃ r streams, (prepare sql).outcome ctx s = (r, { s with streams := streams }) := by
  obtain ⟨r, streams, h⟩ := session_bindPieces hrules (TextPiece.ofText sql) s
  unfold prepare
  rw [outcome_bind, h]
  cases r <;> exact ⟨_, streams, rfl⟩

/-- A text that was taken apart at its placeholders is prepared exactly if these name stored
parameters, each of which has a bind form by itself, and no stream is read for two of them. Then
the markers of the forms take the places of the placeholders, the parameters are those of the
forms, and the pieces stay. A placeholder that is repeated repeats its parameter. The first
placeholder that cannot be bound is refused if it names nothing, and the parameters stay as they
are in any case. -/
theorem prepare_rewrites_placeholders (hregistry : ctx.registry = ctx.dialect.registry)
    (w : Segmented) (s : Session) :
    (∀ statement, (∃ t, (prepare w.text).Yields ctx s statement t) ↔
      ∃ ps bs, Binds ctx s w.numbers ps bs ∧
        statement = ⟨w.woven (bs.map (·.marker)), bs.map (·.parameter)⟩) ∧
    (∀ ps bs, Binds ctx s w.numbers ps bs →
      ∀ i j : Nat, w.numbers[i]? = w.numbers[j]? → bs[i]? = bs[j]?) ∧
    (∀ front n rest ps bs, w.numbers = front ++ n :: rest → Binds ctx s front ps bs →
      s.parameters.numbered? n = none →
        ((prepare w.text).outcome ctx s).1 =
          .error (.preparation (.unregistered (name n)))) ∧
    ((prepare w.text).outcome ctx s).2.parameters = s.parameters := by
  have hplain : ctx.registry.IsPlainFor .parameter .bindable := by
    rw [hregistry]
    exact resolversFor_plain ctx.dialect.registry_isPlain _ _
  have hrules : ctx.registry.BindsBy ctx.dialect.vendor.bindRules := by
    rw [hregistry]
    exact ctx.dialect.registry_bindsBy
  refine ⟨?_, ?_, ?_, ?_⟩
  · intro statement
    simp only [yields_prepare_segmented hplain hrules w, ← exists_bindsInTurn_iff hrules]
    constructor
    · rintro ⟨t, ps, bs, hturn, rfl⟩
      exact ⟨ps, bs, ⟨t, hturn⟩, rfl⟩
    · rintro ⟨ps, bs, ⟨t, hturn⟩, rfl⟩
      exact ⟨t, ps, bs, hturn, rfl⟩
  · intro ps bs h i j hij
    exact h.repeated hij
  · intro front n rest ps bs hnumbers hfront hn
    obtain ⟨t, hturn⟩ := (exists_bindsInTurn_iff hrules).mpr hfront
    have hpieces : (TextPiece.ofText w.text).filterMap TextPiece.number? = front ++ n :: rest := by
      rw [← hnumbers]
      exact w.numbers_scan
    unfold prepare
    rw [outcome_bind, bindPieces_unregistered hrules hpieces hturn hn]
  · obtain ⟨r, streams, h⟩ := session_prepare hrules w.text s
    rw [h]

end

/-- A cast, a time of day and what is too short for a placeholder stay, and the one parameter is
bound twice. -/
theorem prepare_rewrites_placeholders_of_cast :
    let ctx : Context :=
      { dialect := Dialect.new .postgres, aliasMode := .explicitOnly, model := none
        registry := (Dialect.new .postgres).registry }
    let p := Parameter.ofValue (.int 5)
    let s : Session := { scope := Scope.root, parameters := ⟨#[p]⟩ }
    ctx.registry = ctx.dialect.registry ∧
      ∃ t, (prepare "a::int=:[0001] OR t>'12:30' OR :[01]=::[0001]").Yields ctx s
        ⟨"a::int=? OR t>'12:30' OR :[01]=:?", [p, p]⟩ t := by
  intro ctx p s
  let w : Segmented :=
    ⟨"a::int=".toList, by decide,
      [⟨1, by decide, " OR t>'12:30' OR :[01]=:".toList, by decide⟩, ⟨1, by decide, [], by decide⟩]⟩
  have hp : BindsAs ctx s p p.bound := by
    refine ⟨s, ?_⟩
    unfold Yields
    rw [outcome_resolveBound ctx.dialect.registry_bindsBy]
    rfl
  have hbinds : Binds ctx s w.numbers [p, p] [p.bound, p.bound] :=
    ⟨rfl, .cons hp (.cons hp .nil), by decide⟩
  have htext : w.text = "a::int=:[0001] OR t>'12:30' OR :[01]=::[0001]" := by decide
  have hwoven : w.woven ["?", "?"] = "a::int=? OR t>'12:30' OR :[01]=:?" := by decide
  rw [← htext, ← hwoven]
  exact ⟨rfl, ((prepare_rewrites_placeholders rfl w s).1 _).mpr ⟨_, _, hbinds, rfl⟩⟩

/-- Each of two placeholders names a stored stream that can be bound by itself, and yet the second
one is refused: the stream has been read for the first one. -/
theorem repeated_stream_is_refused :
    let ctx : Context :=
      { dialect := Dialect.new .postgres, aliasMode := .explicitOnly, model := none
        registry := (Dialect.new .postgres).registry }
    let p := Parameter.ofValue (.charStream ⟨0⟩)
    let s : Session :=
      { scope := Scope.root, parameters := ⟨#[p]⟩, streams := ⟨[.content [97]]⟩ }
    ctx.registry = ctx.dialect.registry ∧
      s.parameters.numbered? 1 = some p ∧
      (∃ b, BindsAs ctx s p b) ∧
      ((prepare ":[0001] :[0001]").outcome ctx s).1 = .error (.conversion .streamConsumed) := by
  intro ctx p s
  have hform : BindsAs ctx s p (p.withValue (.string "a") (some .string)).bound :=
    ⟨{ s with streams := ⟨[.consumed]⟩ }, rfl⟩
  exact ⟨rfl, rfl, ⟨_, hform⟩, rfl⟩

end SqlCompose
