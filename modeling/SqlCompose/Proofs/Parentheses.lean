import SqlCompose.Proofs.Bound
import SqlCompose.Proofs.Statements

/-!
# SqlCompose.Proofs.Parentheses -- which sub-selects stand in parentheses of their own

The parentheses around a sub-select come from its position and not from the
sub-select itself. Some positions have them: a selection, an assigned value, the
right of a membership test, EXISTS, the operand of a match without case, and
some calls. All others, such as both sides of a comparison, have none.
-/

namespace SqlCompose

open Compose Placeholder

/-! ## Finished texts -/

/-- A finished text has the items of an outline in their places, after a
character. `texts` tells which texts stand for a sub-select. -/
inductive Places (texts : SelectQuery → List Char → Prop) : Char → List Char → List Item → Prop
  | nil {prev : Char} : Places texts prev [] []
  | char {prev c : Char} {w : List Char} {items : List Item} :
      Places texts c w items → Places texts prev (c :: w) items
  | value {prev : Char} {p : Parameter} {w : List Char} {items : List Item} :
      (∀ c, Places texts c w items) → Places texts prev (p.marker.toList ++ w) (.value p :: items)
  /-- The parentheses enclose the sub-select and nothing else. -/
  | enclosed {prev : Char} {v w : List Char} {q : SelectQuery} {inner items : List Item} :
      texts q v → (∀ c, Places texts c v inner) → Places texts ')' w items →
        Places texts prev ('(' :: (v ++ ')' :: w)) (.select q true inner :: items)
  /-- No parenthesis opens right before the sub-select, or none closes right after it. -/
  | bare {prev : Char} {v w : List Char} {q : SelectQuery} {inner items : List Item} :
      prev ≠ '(' ∨ w.head? ≠ some ')' → texts q v → (∀ c, Places texts c v inner) →
        (∀ c, Places texts c w items) → Places texts prev (v ++ w) (.select q false inner :: items)

theorem Places.append_plain {texts : SelectQuery → List Char → Prop} {w : List Char}
    {items : List Item} (h : ∀ c, Places texts c w items) (cs : List Char) (prev : Char) :
    Places texts prev (cs ++ w) items := by
  induction cs generalizing prev with
  | nil => exact h prev
  | cons c rest ih => exact .char (ih c)

/-! ## Filling in markers -/

namespace Accumulator

variable {acc : Accumulator} {plain : Char → Prop} {select texts : SelectQuery → List Char → Prop}

theorem fill_append {u v : List Char} (hv : Splits v) :
    acc.fill (u ++ v) = acc.fill u ++ acc.fill v := by
  unfold fill
  rw [TextPiece.scan_append hv, List.flatMap_append]

theorem fill_char {c : Char} (h : c ≠ ':') (cs : List Char) :
    acc.fill (c :: cs) = c :: acc.fill cs := by
  unfold fill
  rw [TextPiece.scan_char h]
  rfl

theorem fill_value {v w : List Char} {p : Parameter} (hv : acc.Writes v p) :
    acc.fill (v ++ w) = p.marker.toList ++ acc.fill w := by
  obtain ⟨number, hroom, hnumber, rfl⟩ := hv
  unfold fill
  rw [TextPiece.scan_name hroom, List.flatMap_cons, TextPiece.filled, hnumber]
  rfl

/-- A character is kept, or six more are replaced together with it. -/
theorem fill_cons (c : Char) (cs : List Char) :
    acc.fill (c :: cs) = c :: acc.fill cs ∨
      (∀ x ∈ cs.take 6, isInner x = true) ∧ 6 ≤ cs.length ∧
        ∃ marker, acc.fill (c :: cs) = marker ++ acc.fill (cs.drop 6) := by
  unfold fill
  simp only [TextPiece.scan]
  cases hnumber : number? ((c :: cs).take width) with
  | none => exact .inl rfl
  | some n =>
    obtain ⟨_, hlength, hinner⟩ := number?_inner hnumber
    refine .inr ⟨hinner, ?_, (TextPiece.placeholder n).filled acc, ?_⟩
    · simp only [List.length_take] at hlength
      omega
    · simp only [width, TextPiece.scan_skip 6, List.flatMap_cons]

theorem Writes.head {v : List Char} {p : Parameter} (h : acc.Writes v p) : v.head? = some ':' := by
  obtain ⟨number, _, _, rfl⟩ := h
  rw [name_toList]
  rfl

/-- No placeholder reaches into a text whose first character it does not have inside. -/
theorem drops_nothing {w : List Char} {k : Nat} {c : Char} (hhead : w.head? = some c)
    (hc : isInner c = false) (hk : ∀ x ∈ w.take k, isInner x = true) : k = 0 := by
  cases k with
  | zero => rfl
  | succ k =>
    cases w with
    | nil => simp at hhead
    | cons x rest =>
      cases hhead
      have hinner := hk c (by simp)
      rw [hc] at hinner
      exact Bool.noConfusion hinner

/-- Filling in markers keeps every sub-select in its place. The induction also
speaks of texts whose first characters belong to a placeholder before them; these
are all plain. -/
theorem places_of_shows (htexts : ∀ q u, select q u → texts q (acc.fill u)) {prev : Char}
    {w : List Char} {items : List Item}
    (h : (acc.reading plain select).ShowsAfter prev w items) {k : Nat}
    (hinner : ∀ x ∈ w.take k, isInner x = true) (hk : k ≤ w.length) {prev' : Char}
    (hprev : k = 0 → Delimiter prev → prev' = prev) :
    Places texts prev' (acc.fill (w.drop k)) items := by
  -- characters of a placeholder are left out at once, so the place may be inside of one
  induction h generalizing k prev' with
  | nil =>
    simp only [List.drop_nil]
    exact .nil
  | @char prev c w items hc hw ih =>
    cases k with
    | zero =>
      rw [List.drop_zero]
      rcases acc.fill_cons c w with heq | ⟨hinner, hlength, marker, heq⟩
      · rw [heq]
        exact .char (ih (k := 0) (by simp) (Nat.zero_le _) fun _ _ => rfl)
      · rw [heq]
        exact Places.append_plain (fun _ => ih hinner hlength (by simp)) marker _
    | succ k =>
      rw [List.take_succ_cons] at hinner
      refine ih (fun x hx => hinner x (List.mem_cons_of_mem c hx)) (by simpa using hk) ?_
      intro _ hdelimiter
      have hcinner := hinner c List.mem_cons_self
      rw [hdelimiter.2.2.2] at hcinner
      exact Bool.noConfusion hcinner
  | @value prev v w p items hv hw ih =>
    obtain rfl := drops_nothing (c := ':') (by simp [Writes.head hv]) (by decide) hinner
    rw [List.drop_zero, fill_value hv]
    exact .value fun c => ih c (k := 0) (by simp) (Nat.zero_le _) fun _ _ => rfl
  | @enclosed prev v w q inner items hq hv hw ihv ihw =>
    obtain rfl := drops_nothing (c := '(') rfl (by decide) hinner
    rw [List.drop_zero, fill_char (by decide), fill_append (splits_cons (by decide) w),
      fill_char (by decide)]
    refine .enclosed (htexts q v hq) (fun c => ?_) ?_
    · exact ihv c (k := 0) (by simp) (Nat.zero_le _) fun _ _ => rfl
    · exact ihw (k := 0) (by simp) (Nat.zero_le _) fun _ _ => rfl
  | @bare prev v w q inner items hdelimiter hopens hsplits hq hv hw ihv ihw =>
    obtain ⟨c, hhead, _, hc, _⟩ := hopens
    obtain rfl := drops_nothing (c := c) (by simp [hhead]) hc hinner
    rw [List.drop_zero, fill_append hsplits]
    refine .bare ?_ (htexts q v hq) (fun c => ?_) fun c => ?_
    · rcases hdelimiter with hdelimiter | ⟨x, hx, hdelimiter⟩
      · rw [hprev rfl hdelimiter]
        exact .inl hdelimiter.1
      · refine .inr ?_
        cases w with
        | nil => simp at hx
        | cons y rest =>
          cases hx
          rw [fill_char hdelimiter.2.2.1]
          simpa using hdelimiter.2.1
    · exact ihv c (k := 0) (by simp) (Nat.zero_le _) fun _ _ => rfl
    · exact ihw c (k := 0) (by simp) (Nat.zero_le _) fun _ _ => rfl

end Accumulator

/-! ## Compiled statements -/

/-- A text is what resolving a sub-select somewhere in a statement of the
compiler gives, with the markers of parameters in the places of placeholders. -/
def Compiler.Writes (c : Compiler) (acc : Accumulator) (q : SelectQuery) (w : List Char) : Prop :=
  ∃ chain s t text, (Expression.toSql (.query q)).Yields
    (c.context.within chain) s text t ∧ w = acc.fill text.toList

/-- A sub-select of a compiled statement stands in parentheses of its own exactly
where its position encloses it. -/
theorem compile_places_subselects {c : Compiler} (hregistry : c.registry = none) {st : Statement}
    {streams streams' : StreamStore} {compiled : CompiledStatement}
    (h : c.compile st streams = (.ok compiled, streams')) :
    ∃ acc, ∀ prev, Places (c.Writes acc) prev compiled.statement.sql.toList
      (st.outline c.dialect) := by
  have hadmits : Admits fun _ => True := fun _ _ => trivial
  have hcontext := Compiler.registry_isPlain hregistry
  obtain ⟨sql, t, u, hprepared, _, _, hshows⟩ :=
    shows_of_compile hregistry hadmits (fun _ _ _ _ => trivial) (fun _ _ _ _ => trivial) h
  obtain ⟨ps, bounds, _, _, hstatement⟩ := (yields_prepare hcontext).mp hprepared
  refine ⟨t.parameters, fun prev => ?_⟩
  have htexts : ∀ q u, Resolves c.context q u →
      c.Writes t.parameters q (t.parameters.fill u) := by
    rintro q u ⟨chain, s, t, hrun⟩
    exact ⟨chain, s, t, _, hrun, by rw [String.toList_ofList]⟩
  rw [hstatement, String.toList_ofList]
  exact Accumulator.places_of_shows htexts (hshows prev) (k := 0) (by simp) (Nat.zero_le _)
    fun _ _ => rfl

/-- All rows of a table named `u`. -/
def innerQuery : SelectQuery :=
  .ofSource (.target { schema := none, table := "u", aliasName := none, joins := [], entity := none })

/-- The rows of a table named `t` that fulfil a condition about the inner query. -/
def outerQuery (condition : Expression → Filter) : SelectQuery :=
  let target : RelationalTarget := {
    schema := none, table := "t", aliasName := none, joins := [], entity := none }
  { SelectQuery.ofSource (.target target) with filter := some (condition (.query innerQuery)) }

theorem compile_places_subselects_of_member :
    ∃ compiled streams' acc,
      (⟨.new .ansi, .explicitOnly, none, none, none⟩ : Compiler).compile
        (.select (outerQuery (.member false (.path (.ofName "a"))))) {} = (.ok compiled, streams') ∧
      ∀ prev, Places (Compiler.Writes ⟨.new .ansi, .explicitOnly, none, none, none⟩ acc) prev
        compiled.statement.sql.toList [.select innerQuery true []] := by
  obtain ⟨compiled, streams', h⟩ := succeeds_of_isOk ⟨.new .ansi, .explicitOnly, none, none, none⟩
    (.select (outerQuery (.member false (.path (.ofName "a"))))) {} (by decide +kernel)
  obtain ⟨acc, hplaces⟩ := compile_places_subselects rfl h
  exact ⟨compiled, streams', acc, h, hplaces⟩

/-- A sub-select on the right of a comparison is written without parentheses. -/
theorem comparison_has_no_parentheses :
    Statement.outline (.new .ansi)
        (.select (outerQuery (.compare .equal (.path (.ofName "a"))))) =
      [.select innerQuery false []] ∧
    ((⟨.new .ansi, .explicitOnly, none, none, none⟩ : Compiler).compile
      (.select (outerQuery (.compare .equal (.path (.ofName "a"))))) {}).1.toOption.map
        (fun compiled => compiled.statement.sql) =
      some "SELECT * FROM t WHERE t.a=SELECT * FROM u" :=
  ⟨rfl, by decide +kernel⟩

end SqlCompose
