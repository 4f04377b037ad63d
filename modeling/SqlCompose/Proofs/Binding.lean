import SqlCompose.Proofs.Bound
import SqlCompose.Proofs.Remapping
import SqlCompose.Proofs.Statements

/-!
# SqlCompose.Proofs.Binding -- every value is bound at its own place

In a text whose plain characters are no colons the placeholders are those of the
values it shows, in the order in which it shows them. So a compiled statement
binds the values of its clauses in the order in which the text has the clauses,
although placeholders are numbered in another order.
-/

namespace SqlCompose

open Compose Placeholder

variable {select : SelectQuery → List Char → Prop}

/-! ## The placeholders of a text -/

namespace Accumulator

variable {acc : Accumulator} {u v : List Char} {ps qs : List Parameter}

theorem named?_append (hsplits : Splits v) (hu : acc.named? u = some ps)
    (hv : acc.named? v = some qs) : acc.named? (u ++ v) = some (ps ++ qs) := by
  unfold named? at *
  rw [TextPiece.scan_append hsplits, List.filterMap_append, List.mapM_append, hu, hv]
  rfl

theorem named?_char {c : Char} (h : c ≠ ':') (cs : List Char) :
    acc.named? (c :: cs) = acc.named? cs := by
  unfold named?
  rw [TextPiece.scan_char h, List.filterMap_cons]
  rfl

theorem named?_value {p : Parameter} (hu : acc.Writes u p) (hv : acc.named? v = some ps) :
    acc.named? (u ++ v) = some (p :: ps) := by
  obtain ⟨number, hroom, hnumber, rfl⟩ := hu
  unfold named? at *
  rw [TextPiece.scan_name hroom, List.filterMap_cons]
  simp only [TextPiece.number?, List.mapM_cons, hnumber, hv]
  rfl

/-- The placeholders of a text name the values that it shows. -/
theorem named?_of_shows {prev : Char} {w : List Char} {items : List Item}
    (h : (acc.reading (· ≠ ':') select).ShowsAfter prev w items) :
    acc.named? w = some (Item.allValues items) := by
  induction h with
  | nil => rfl
  | char hc _ ih => rw [named?_char hc, ih]
  | value hp _ ih => exact named?_value hp (ih ' ')
  | @enclosed prev v w q inner items _ _ _ ihv ihw =>
    rw [named?_char (by decide)]
    refine named?_append (splits_cons (by decide) w) (ihv ' ') ?_
    rw [named?_char (by decide), ihw]
  | bare _ _ hsplits _ _ _ ihv ihw => exact named?_append hsplits (ihv ' ') (ihw ' ')

end Accumulator

/-! ## The parameters of a compiled statement -/

/-- The parameters of a compiled statement are the bind forms of the values of
its clauses, each once and in order, and the streams are read in that order. -/
theorem compile_binds_leaves {c : Compiler} (hregistry : c.registry = none) {st : Statement}
    (hnames : ∀ name ∈ st.names ++ mappedNames c.model st.names, ':' ∉ name.toList)
    {streams streams' : StreamStore} {compiled : CompiledStatement}
    (h : c.compile st streams = (.ok compiled, streams')) :
    ∃ bounds, c.run (bindAll (st.leaves c.dialect)) streams = (.ok bounds, streams') ∧
      compiled.statement.parameters = bounds.map (·.parameter) := by
  have hadmits : Admits (· ≠ ':') := fun _ hc => hc
  have hplain : AllPlain (· ≠ ':') (st.names ++ mappedNames c.model st.names) :=
    fun name hname => plain_of_no_colon hadmits (hnames name hname)
  rw [allPlain_append] at hplain
  have hcontext := Compiler.registry_isPlain hregistry
  -- of the model only what it gives for the names of the statement is known to be plain
  rw [← Compiler.compile_restricted hcontext] at h
  obtain ⟨sql, t, u, hprepared, hstreams, hstreams', hshows⟩ :=
    shows_of_compile (c := c.restricted st.names) hregistry hadmits hplain.1
      (fun s hs => hplain.2 s (modelNames_restricted hs)) h
  have hwithin : (c.restricted st.names).context.registry.IsPlain := hcontext
  obtain ⟨ps, bounds, hps, hbounds, hstatement⟩ := (yields_prepare hwithin).mp hprepared
  rw [Accumulator.named?_of_shows (hshows ' '), Option.some.injEq] at hps
  subst hps
  -- binding sees nothing of the session but the streams, so a fresh one does as well
  have hsame : (c.restricted st.names).context.registry = c.context.registry := rfl
  obtain ⟨_, streams'', hstreams'', hfresh⟩ := onStreams_bindAll hcontext _ (fun _ _ _ => rfl) hsame rfl
    (show t.streams = (Session.initial streams).streams from hstreams) hbounds
  refine ⟨bounds, run_eq_ok.mpr ⟨_, hfresh, ?_⟩, by rw [hstatement]⟩
  exact hstreams''.symm.trans hstreams'

/-- A query with a value in its columns, in its join and in its condition. The
join is resolved before the columns. -/
def joinedQuery : SelectQuery :=
  let join : Join := {
    kind := .left, name := "buyer", source := "people", aliasName := none, entity := none
    on := some (.compare .equal (.path (.child (.ofName "buyer") "id" none)) (.lit (.int 1))) }
  let projection : Projection := {
    selections := [⟨.lit (.string "a:b"), some "label"⟩], aliasMode := none, converter := none }
  { SelectQuery.ofSource (.target {
      schema := none, table := "orders", aliasName := none, joins := [join], entity := none }) with
    projection := some projection
    filter := some (.between (.path (.ofName "total")) (.lit (.int 2)) (.lit (.int 3))) }

theorem compile_binds_leaves_of_joined :
    ∃ compiled streams' bounds,
      (⟨.new .ansi, .explicitOnly, none, none, none⟩ : Compiler).run
        (bindAll (Statement.leaves (.new .ansi) (.select joinedQuery))) {} = (.ok bounds, streams') ∧
      (⟨.new .ansi, .explicitOnly, none, none, none⟩ : Compiler).compile (.select joinedQuery) {} =
        (.ok compiled, streams') ∧ compiled.statement.parameters = bounds.map (·.parameter) := by
  obtain ⟨compiled, streams', h⟩ := succeeds_of_isOk ⟨.new .ansi, .explicitOnly, none, none, none⟩
    (.select joinedQuery) {} (by decide +kernel)
  obtain ⟨bounds, hbounds, hparameters⟩ := compile_binds_leaves rfl (by decide +kernel) h
  exact ⟨compiled, streams', bounds, hbounds, h, hparameters⟩

end SqlCompose
