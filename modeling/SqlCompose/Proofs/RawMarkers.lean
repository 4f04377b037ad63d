import SqlCompose.Proofs.Rewriting

/-!
# SqlCompose.Proofs.RawMarkers -- raw SQL on its way through two rewritings

Raw SQL is rewritten twice. When it is resolved, its question marks outside literals
become placeholders of its values; when the statement is prepared, the placeholders
become question marks again. A question mark stands in no placeholder, so no part of
raw SQL can join with what was put in to make another one, and what comes out is the
text that went in.
-/

namespace SqlCompose

open Compose Placeholder

variable {ctx : Context} {s t : Session}

/-! ## What the library writes -/

theorem checkSqlText_of_not_blank {text : String} (h : Text.allBlank text = false) :
    checkSqlText text = .ok () := by
  rw [checkSqlText, h]
  rfl

/-- Where no application has a say and the library answers, a text is what the library writes. -/
theorem outcome_resolveText {e : Expression} {standard : Compose String}
    (h : ctx.registry.IsOwnFor e.kind .sql) (s : Session) :
    (resolveText e standard).outcome ctx s =
      (do
        ofResult e.validate
        let text ← standard
        ofResult (checkSqlText text)
        pure text : Compose String).outcome ctx s := by
  obtain ⟨r, hr⟩ := Option.isSome_iff_exists.mp h.answers
  unfold Registry.own at hr
  -- no resolver but that of the library answers, and what it answers is never declined
  let q : Request :=
    { expr := e, form := .sql, standard := standard >>= fun text => pure (some (.sql text)) }
  have hfirst : firstAnswer q (ctx.registry.resolversFor e.kind .sql) =
      (standard >>= fun text => pure (.sql text)) >>= fun a => pure (some (r, a)) := by
    have hstandard : q.standard =
        (standard >>= fun text => pure (.sql text)) >>= fun a => pure (some a) := by
      rw [bind_assoc]
      rfl
    rw [firstAnswer_eq h.plain (fun _ => rfl) hstandard, hr]
  unfold resolveText Request.resolve
  cases e.validate with
  | error _ => rfl
  | ok _ =>
    show (((firstAnswer q (ctx.registry.resolversFor e.kind .sql)) >>= _) >>= _).outcome ctx s = _
    rw [hfirst]
    simp only [bind_assoc, pure_bind]
    rfl

/-! ## Texts without placeholders -/

/-- What splits off is free of placeholders by itself. -/
theorem placeholderFree_append {u v : List Char} (hv : Splits v) :
    PlaceholderFree (u ++ v) ↔ PlaceholderFree u ∧ PlaceholderFree v := by
  induction u with
  | nil => simp [PlaceholderFree, number?]
  | cons c rest ih =>
    rw [List.cons_append, placeholderFree_cons, placeholderFree_cons, number?_take_append hv, ih,
      and_assoc]

/-! ## Filling in placeholders -/

/-- A session with the parameter of one more value. -/
def Session.withValue (s : Session) (v : Value) : Session :=
  { s with parameters := ⟨s.parameters.entries.push (Parameter.ofValue v)⟩ }

/-- A session with the parameters of more values. -/
def Session.withValues (s : Session) (values : List Value) : Session :=
  { s with parameters := ⟨s.parameters.entries ++ (values.map Parameter.ofValue).toArray⟩ }

namespace Session

theorem withValues_nil (s : Session) : s.withValues [] = s := by
  simp [withValues]

theorem withValues_cons (s : Session) (v : Value) (values : List Value) :
    s.withValues (v :: values) = (s.withValue v).withValues values := by
  simp [withValues, withValue]

theorem size_withValue (s : Session) (v : Value) :
    (s.withValue v).parameters.size = s.parameters.size + 1 := Array.size_push _

/-- The parameters of the values have the next numbers. -/
theorem numbered_withValues (s : Session) (values : List Value) :
    (List.range' (s.parameters.size + 1) values.length).mapM
      (s.withValues values).parameters.numbered? = some (values.map Parameter.ofValue) := by
  induction values generalizing s with
  | nil => rfl
  | cons v rest ih =>
    have hfirst : (s.withValues (v :: rest)).parameters.numbered? (s.parameters.size + 1) =
        some (Parameter.ofValue v) := by
      simp [withValues, Accumulator.numbered?, Accumulator.size]
    have hrest := ih (s.withValue v)
    rw [size_withValue, ← withValues_cons] at hrest
    rw [List.length_cons, List.range'_succ, List.mapM_cons, hfirst, hrest]
    rfl

end Session

/-- Adding the parameter of a value. -/
theorem yields_addValue (v : Value) (hroom : s.parameters.size < maxNumber) :
    (addParameter (Parameter.ofValue v)).Yields ctx s (name (s.parameters.size + 1))
      (s.withValue v) :=
  yields_addParameter.mpr ⟨hroom, rfl, rfl⟩

/-- A text with placeholders that has come from a text with markers: these have the next numbers,
and with markers in their places it is that text again. -/
structure Restores (w : Segmented) (start count : Nat) (cs : List Char) : Prop where
  numbers : w.numbers = List.range' (start + 1) count
  restored : w.front ++ Segment.weave w.segments (List.replicate count bareMarker) = cs

/-- A marker stands in no placeholder. -/
theorem splits_weave_markers (gs : List Segment) (count : Nat) :
    Splits (Segment.weave gs (List.replicate count bareMarker)) := by
  cases gs with
  | nil => exact splits_nil
  | cons g rest =>
    cases count with
    | zero => exact splits_nil
    | succ count => exact splits_cons (c := '?') (by decide) _

variable {raw : RawSql} {c : Char} {rest : List Char} {quoted : Bool} {values : List Value}

/-- All characters but markers are copied. -/
theorem fill_char (hc : ¬(c = '?' ∧ quoted = false)) :
    raw.fill quoted values (c :: rest) =
      raw.fill (if c = '\'' then !quoted else quoted) values rest >>= fun out =>
        pure (c :: out) := by
  cases values <;> rw [RawSql.fill, if_neg hc]

/-- The placeholder of a value takes the place of a marker. -/
theorem fill_marker (v : Value) :
    raw.fill false (v :: values) ('?' :: rest) =
      addParameter (Parameter.ofValue v) >>= fun name => raw.fill false values rest >>= fun out =>
        pure (name.toList ++ out) := by
  rw [RawSql.fill, if_pos ⟨rfl, rfl⟩]

theorem markersFrom_char (hc : ¬(c = '?' ∧ quoted = false)) :
    markersFrom quoted (c :: rest) = markersFrom (if c = '\'' then !quoted else quoted) rest := by
  rw [markersFrom, if_neg hc, Nat.zero_add]

theorem markersFrom_marker : markersFrom false ('?' :: rest) = markersFrom false rest + 1 := by
  rw [markersFrom, if_pos ⟨rfl, rfl⟩, Nat.add_comm]
  rfl

/-- Where there is a value for each marker, raw SQL is filled with placeholders of the values. -/
theorem fill_restores (ctx : Context) (raw : RawSql) {cs : List Char}
    (hfree : PlaceholderFree cs) {quoted : Bool} {values : List Value}
    (hmarkers : markersFrom quoted cs = values.length)
    (hroom : s.parameters.size + values.length ≤ maxNumber) :
    ∃ w : Segmented, Restores w s.parameters.size values.length cs ∧
      (raw.fill quoted values cs).Yields ctx s w.text.toList (s.withValues values) := by
  induction cs generalizing quoted values s with
  | nil =>
    obtain rfl := List.eq_nil_of_length_eq_zero hmarkers.symm
    refine ⟨⟨[], hfree, []⟩, ⟨rfl, rfl⟩, ?_⟩
    rw [s.withValues_nil]
    exact yields_pure.mpr ⟨rfl, rfl⟩
  | cons c rest ih =>
    have hrest := (placeholderFree_cons.mp hfree).2
    by_cases hc : c = '?' ∧ quoted = false
    · obtain ⟨rfl, rfl⟩ := hc
      rw [markersFrom_marker] at hmarkers
      cases values with
      | nil => cases hmarkers
      | cons v others =>
        rw [List.length_cons] at hmarkers hroom
        have hsize := s.size_withValue v
        obtain ⟨w, ⟨hnumbers, hrestored⟩, hyields⟩ :=
          ih (s := s.withValue v) hrest (Nat.succ.inj hmarkers) (by omega)
        have hnumber : s.parameters.size + 1 ≤ maxNumber := by omega
        -- the piece in front of the other placeholders now stands after this one
        let g : Segment := ⟨s.parameters.size + 1, hnumber, w.front, w.front_free⟩
        refine ⟨⟨[], by decide, g :: w.segments⟩, ⟨?_, ?_⟩, ?_⟩
        · show (s.parameters.size + 1) :: w.numbers = _
          rw [hnumbers, hsize]
          rfl
        · rw [← hrestored]
          rfl
        · rw [fill_marker, yields_bind]
          refine ⟨_, _, yields_addValue v hnumber, ?_⟩
          refine yields_bind.mpr ⟨_, _, hyields, yields_pure.mpr ⟨?_, s.withValues_cons v others⟩⟩
          rw [Segmented.toList_text, Segmented.toList_text, List.nil_append, Segment.chars_cons]
    · rw [markersFrom_char hc] at hmarkers
      obtain ⟨w, ⟨hnumbers, hrestored⟩, hyields⟩ := ih hrest hmarkers hroom
      -- a placeholder that the character begins ends before the next marker
      have hfront : PlaceholderFree (c :: w.front) := by
        rw [← hrestored, ← List.cons_append] at hfree
        exact ((placeholderFree_append (splits_weave_markers _ _)).mp hfree).1
      refine ⟨⟨c :: w.front, hfront, w.segments⟩, ⟨hnumbers, by rw [← hrestored]; rfl⟩, ?_⟩
      rw [fill_char hc]
      refine yields_bind.mpr ⟨_, _, hyields, yields_pure.mpr ⟨?_, rfl⟩⟩
      rw [Segmented.toList_text, Segmented.toList_text]
      rfl

/-- What raw SQL is refused with where there is not a value for each marker. -/
def RawSql.mismatch (raw : RawSql) (more : Bool) : PlaceholderFault :=
  if more then .moreMarkers raw.text raw.parameters.length
  else .fewerMarkers raw.text raw.parameters.length

/-- Where there is not a value for each marker raw SQL is refused. -/
theorem fill_refuses (ctx : Context) (raw : RawSql) {cs : List Char} {quoted : Bool}
    {values : List Value} (hmarkers : markersFrom quoted cs ≠ values.length)
    (hroom : s.parameters.size + values.length ≤ maxNumber) :
    ∃ t, (raw.fill quoted values cs).outcome ctx s =
      (.error (.preparation (raw.mismatch (values.length < markersFrom quoted cs))), t) := by
  induction cs generalizing quoted values s with
  | nil =>
    cases values with
    | nil => exact absurd rfl hmarkers
    | cons v rest => exact ⟨s, rfl⟩
  | cons c rest ih =>
    -- a marker takes one value, so the two counts keep the distance they have
    by_cases hc : c = '?' ∧ quoted = false
    · obtain ⟨rfl, rfl⟩ := hc
      rw [markersFrom_marker] at hmarkers ⊢
      cases values with
      | nil => exact ⟨s, rfl⟩
      | cons v others =>
        rw [List.length_cons] at hmarkers hroom ⊢
        have hsize := s.size_withValue v
        have hother : markersFrom false rest ≠ others.length := by omega
        obtain ⟨t, h⟩ := ih (s := s.withValue v) hother (by omega)
        have hadded : (addParameter (Parameter.ofValue v)).Yields ctx s _ _ :=
          yields_addValue v (by omega)
        refine ⟨t, ?_⟩
        rw [fill_marker, outcome_bind, hadded]
        simp only
        rw [outcome_bind, h]
        simp only [Nat.add_lt_add_iff_right]
    · rw [markersFrom_char hc] at hmarkers ⊢
      obtain ⟨t, h⟩ := ih hmarkers hroom
      refine ⟨t, ?_⟩
      rw [fill_char hc, outcome_bind, h]

/-- A text says something if the text that it has come from does. -/
theorem Restores.not_blank {w : Segmented} {start count : Nat} {cs : List Char}
    (h : Restores w start count cs) (hcs : cs.all Text.isBlank = false) :
    Text.allBlank w.text = false := by
  unfold Text.allBlank
  rw [w.toList_text, ← Bool.not_eq_true, List.all_eq_true]
  rw [← h.restored, ← Bool.not_eq_true, List.all_eq_true] at hcs
  cases hsegments : w.segments with
  | nil =>
    rw [hsegments] at hcs
    exact hcs
  | cons g rest =>
    -- the colon of the first placeholder is not blank
    intro hall
    have hcolon : ':' ∈ w.front ++ Segment.chars (g :: rest) := by
      rw [Segment.chars_cons, name_toList]
      simp
    exact absurd (hall ':' hcolon) (by decide)

/-! ## Binding the values -/

/-- Every value but a list is a parameter by itself. -/
theorem Parameter.validate_ofValue {v : Value} (h : v.isList = false) :
    (ofValue v).validate = .ok () := by
  cases v <;> first | rfl | cases h

/-- A valid parameter that is no stream of characters is bound without a change to anything. -/
theorem resolveBound_settled {rules : List BindRule} (hrules : ctx.registry.BindsBy rules)
    {p : Parameter} (hvalid : p.validate = .ok ()) (hstream : ¬p.value.IsCharStream) (s : Session) :
    ∃ b, (resolveBound (.parameter p)).Yields ctx s b s := by
  unfold Yields
  rw [outcome_resolveBound hrules, hvalid]
  rcases p.boundBy_cases rules with ⟨_, b, hb⟩ | ⟨handle, hread, _⟩
  · rw [hb]
    exact ⟨b, rfl⟩
  · exact absurd ⟨handle, Parameter.value_of_streamRead? hread⟩ hstream

theorem bindAll_settled {rules : List BindRule} (hrules : ctx.registry.BindsBy rules)
    (values : List Value) (h : ∀ v ∈ values, v.isList = false ∧ ¬v.IsCharStream) (s : Session) :
    ∃ bs, (bindAll (values.map Parameter.ofValue)).Yields ctx s bs s := by
  induction values with
  | nil => exact ⟨[], yields_pure.mpr ⟨rfl, rfl⟩⟩
  | cons v rest ih =>
    obtain ⟨hlist, hstream⟩ := h v List.mem_cons_self
    obtain ⟨b, hb⟩ := resolveBound_settled hrules (Parameter.validate_ofValue hlist) hstream s
    obtain ⟨bs, hbs⟩ := ih fun v' hv => h v' (List.mem_cons_of_mem v hv)
    refine ⟨b :: bs, ?_⟩
    rw [List.map_cons, bindAll_cons]
    exact yields_bind.mpr ⟨b, s, hb, yields_bind.mpr ⟨bs, s, hbs, yields_pure.mpr ⟨rfl, rfl⟩⟩⟩

/-! ## There and back -/

/-- Raw SQL is resolved as a text. -/
theorem outcome_resolveSql :
    (resolveSql (.sql raw)).outcome ctx s =
      (resolveText (.sql raw) raw.sql).outcome ctx s := by
  unfold resolveSql
  rw [Expression.toSql]

theorem outcome_resolveSql_raw (h : ctx.registry.IsOwnFor .sql .sql)
    (hblank : Text.allBlank raw.text = false) (s : Session) :
    (resolveSql (.sql raw)).outcome ctx s =
      (do
        let out ← raw.fill false raw.parameters raw.text.toList
        ofResult (checkSqlText (String.ofList out))
        pure (String.ofList out) : Compose String).outcome ctx s := by
  have hvalid : (Expression.sql raw).validate = .ok () := checkSqlText_of_not_blank hblank
  rw [outcome_resolveSql, outcome_resolveText (e := .sql raw) h, hvalid]
  unfold RawSql.sql
  simp only [bind_assoc, pure_bind]
  rfl

/-- Raw SQL without placeholders is resolved exactly if there is a value for each of its markers.
Then the parameters grow by the values in order, and preparing what it was resolved into gives the
raw SQL back, with the bind forms of the values. Otherwise it is refused. The registry may have
resolvers of an application for other expressions. -/
theorem raw_sql_round_trip (hsql : ctx.registry.IsOwnFor .sql .sql)
    (hbound : ctx.registry.IsOwnFor .parameter .bindable)
    (hblank : Text.allBlank raw.text = false) (hfree : PlaceholderFree raw.text.toList)
    (hvalues : ∀ v ∈ raw.parameters, v.isList = false ∧ ¬v.IsCharStream)
    (hroom : s.parameters.size + raw.parameters.length ≤ maxNumber) :
    (markers raw.text.toList = raw.parameters.length →
      ∃ text bs t, (resolveSql (.sql raw)).Yields ctx s text t ∧
        t = s.withValues raw.parameters ∧
        (bindAll (raw.parameters.map Parameter.ofValue)).Yields ctx t bs t ∧
        (prepare text).Yields ctx t ⟨raw.text, bs.map (·.parameter)⟩ t) ∧
    (markers raw.text.toList ≠ raw.parameters.length →
      ∃ t, (resolveSql (.sql raw)).outcome ctx s =
        (.error (.preparation (raw.mismatch (raw.parameters.length < markers raw.text.toList))),
          t)) := by
  constructor
  · intro hmarkers
    -- the text is woven from segments with placeholders, in whose places the markers were
    obtain ⟨w, hrestores, hfill⟩ := fill_restores ctx raw hfree hmarkers hroom
    obtain ⟨rules, hrules⟩ := Registry.exists_bindsBy hbound
    obtain ⟨bs, hbs⟩ := bindAll_settled hrules raw.parameters hvalues (s.withValues raw.parameters)
    refine ⟨w.text, bs, _, ?_, rfl, hbs, ?_⟩
    · have hcheck := checkSqlText_of_not_blank (hrestores.not_blank hblank)
      unfold Yields
      rw [outcome_resolveSql_raw hsql hblank, outcome_bind, hfill]
      simp only [String.ofList_toList, hcheck]
      rfl
    · have hturn : BindsInTurn ctx (s.withValues raw.parameters) w.numbers
          (raw.parameters.map Parameter.ofValue) bs (s.withValues raw.parameters) := by
        refine ⟨?_, hbs⟩
        rw [hrestores.numbers]
        exact s.numbered_withValues raw.parameters
      have hbare : (raw.parameters.map Parameter.ofValue).map (·.marker) =
          List.replicate raw.parameters.length bareMarker := by
        rw [List.map_map]
        exact List.map_const' ..
      have hrestored : w.woven (bs.map (·.marker)) = raw.text := by
        rw [markers_of_bindsAs hbound.plain (bindsAs_of_bindAll hrules hbs), hbare, Segmented.woven,
          hrestores.restored, String.ofList_toList]
      rw [← hrestored]
      exact (yields_prepare_segmented hbound.plain hrules w).mpr ⟨_, bs, hturn, rfl⟩
  · intro hmarkers
    obtain ⟨t, h⟩ := fill_refuses ctx raw hmarkers hroom
    refine ⟨t, ?_⟩
    rw [outcome_resolveSql_raw hsql hblank, outcome_bind, h]
    rfl

/-- Quotes that do not match, a marker next to another one, and characters that could join with a
placeholder. -/
theorem raw_sql_round_trip_of_colons :
    let ctx : Context :=
      { dialect := Dialect.new .oracle, aliasMode := .explicitOnly, model := none
        registry := (Dialect.new .oracle).registry }
    let raw : RawSql := ⟨"a=:[00?1] AND b='?' AND c::int=??'", [.int 1, .null, .string "x"]⟩
    let s : Session := { scope := Scope.root }
    ∃ text bs t, (resolveSql (.sql raw)).Yields ctx s text t ∧ t = s.withValues raw.parameters ∧
      (bindAll (raw.parameters.map Parameter.ofValue)).Yields ctx t bs t ∧
      (prepare text).Yields ctx t ⟨raw.text, bs.map (·.parameter)⟩ t := by
  intro ctx raw s
  have hsql : ctx.registry.IsOwnFor .sql .sql := by
    exact ctx.dialect.registry_isOwnFor
      (r := { name := "sql-expression", kind := .sql, form := .sql })
      (by simp [Registry.standardResolvers])
  have hbound : ctx.registry.IsOwnFor .parameter .bindable := by
    exact ctx.dialect.registry_isOwnFor
      (r := { name := "parameter-bindable", kind := .parameter, form := .bindable })
      (by simp [Registry.standardResolvers])
  have hvalues : ∀ v ∈ raw.parameters, v.isList = false ∧ ¬v.IsCharStream := by
    intro v hv
    simp only [raw, List.mem_cons, List.not_mem_nil, or_false] at hv
    rcases hv with rfl | rfl | rfl
    all_goals
      refine ⟨rfl, ?_⟩
      rintro ⟨_, h⟩
      cases h
  exact (raw_sql_round_trip hsql hbound (by decide) (by decide) hvalues (by decide)).1 (by decide)

/-- Where a resolver of an application is asked first, raw SQL becomes what it answers. -/
theorem resolveSql_of_application {r : Resolver} {others : List Resolver} {text : String}
    (hraw : Text.allBlank raw.text = false)
    (hresolvers : ctx.registry.resolversFor .sql .sql = r :: others)
    (haction : r.action = .custom fun _ => pure (some (.sql text)))
    (htext : Text.allBlank text = false) :
    (resolveSql (.sql raw)).Yields ctx s text s := by
  unfold Yields
  rw [outcome_resolveSql]
  show (resolveText (.sql raw) raw.sql).Yields ctx s text s
  have hanswer : ofForeign (pure (some (Resolved.sql text))) = pure (some (.sql text)) := rfl
  have hresolvers : ctx.registry.resolversFor (Expression.sql raw).kind .sql = r :: others :=
    hresolvers
  unfold resolveText Request.resolve
  simp only [bind_assoc, yields_ofResult_bind, yields_read_bind, hresolvers, firstAnswer,
    Resolver.ask, haction, hanswer, pure_bind]
  exact ⟨(), checkSqlText_of_not_blank hraw, (), checkSqlText_of_not_blank htext, rfl⟩

/-- A resolver of an application answers raw SQL as it likes, also raw SQL with a marker and without
a value. -/
theorem raw_sql_of_application :
    let own := (Dialect.new .ansi).registry
    let fixed : Resolver :=
      { name := "fixed", kind := .sql, form := .sql, priority := 5
        action := .custom fun _ => pure (some (.sql "x")) }
    let ctx : Context :=
      { dialect := Dialect.new .ansi, aliasMode := .explicitOnly, model := none
        registry := own.register fixed }
    let raw : RawSql := ⟨"a=?", []⟩
    let s : Session := { scope := Scope.root }
    Text.allBlank raw.text = false ∧ PlaceholderFree raw.text.toList ∧
      s.parameters.size + raw.parameters.length ≤ maxNumber ∧
      markers raw.text.toList ≠ raw.parameters.length ∧
      (resolveSql (.sql raw)).Yields ctx s "x" s := by
  intro own fixed ctx raw s
  have hblank : Text.allBlank raw.text = false := by decide
  have hresolvers : ctx.registry.resolversFor .sql .sql = fixed :: own.resolversFor .sql .sql := rfl
  refine ⟨hblank, by decide, by decide, by decide, ?_⟩
  exact resolveSql_of_application hblank hresolvers rfl (by decide)

end SqlCompose
