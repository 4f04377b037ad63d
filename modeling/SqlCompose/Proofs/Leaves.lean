import SqlCompose.Proofs.Emits
import SqlCompose.Proofs.Functions
import SqlCompose.Resolution.Fragment

/-!
# SqlCompose.Proofs.Leaves -- paths, values and raw SQL

The text of a path is plain. The text of a value is its placeholder, and raw SQL
has a placeholder for each of its values.
-/

namespace SqlCompose

open Compose

variable {base : Context} {plain : Char → Prop} {select : SelectQuery → List Char → Prop}


/-- The reading in which a value is written as a placeholder for it. -/
def Accumulator.reading (acc : Accumulator) (plain : Char → Prop)
    (select : SelectQuery → List Char → Prop) : Reading :=
  ⟨plain, acc.Writes, select⟩

/-- A text shows items. -/
def ShowsText (plain : Char → Prop) (select : SelectQuery → List Char → Prop) (items : List Item)
    (acc : Accumulator) (text : String) : Prop :=
  (acc.reading plain select).Shows text.toList items

/-- A text shows what an expression has to show, wherever it stands. -/
def PresentsText (plain : Char → Prop) (select : SelectQuery → List Char → Prop) (d : Dialect)
    (e : Expression) (acc : Accumulator) (text : String) : Prop :=
  (acc.reading plain select).Presents d e text.toList

/-! ## Paths -/

theorem Binding.IsPlain.qualifier {b : Binding} (h : b.IsPlain plain) : Plain plain b.qualifier := by
  unfold Binding.qualifier
  cases halias : b.aliasName with
  | none => exact h.table
  | some a => exact h.aliasName a halias

theorem Path.plain_key (hplain : Writable plain) {p : Path} (h : AllPlain plain p.names) :
    Plain plain p.key := by
  have hdot : Plain plain "." := plain_of_unmarked hplain (by decide)
  induction p with
  | root name aliasName => exact h _ (Path.name_mem_names _)
  | child parent name aliasName ih =>
    rw [Path.names, allPlain_append, allPlain_cons] at h
    exact plain_append (plain_append (ih h.1) hdot) h.2.1

/-- The alias of a path is its own, or that of what its key is bound to. -/
theorem mem_findAlias {mode : AliasMode} {p : Path} {useParent : Bool} {chain : List Scope}
    {a : String} (ha : a ∈ findAlias mode p useParent chain) :
    a ∈ p.aliasName ∨ ∃ b, findBinding p.key useParent chain = some b ∧ a ∈ b.aliasName := by
  have hor : a ∈ p.aliasName.or ((findBinding p.key useParent chain).bind (·.aliasName)) := by
    cases mode with
    | unsupported => cases ha
    | explicitOnly => exact ha
    | auto => exact ha
  rcases Option.or_eq_some_iff.mp hor with hown | ⟨_, hbound⟩
  · exact .inl hown
  · exact .inr (Option.bind_eq_some_iff.mp hbound)

theorem findAlias_isPlain {mode : AliasMode} {p : Path} (h : AllPlain plain p.names)
    {useParent : Bool} {chain : List Scope} (hchain : ∀ o ∈ chain, o.IsPlain plain) :
    ∀ a ∈ findAlias mode p useParent chain, Plain plain a := by
  intro a ha
  rcases mem_findAlias ha with hown | ⟨b, hb, hbound⟩
  · exact h a (Path.mem_names_of_alias hown)
  · exact (findBinding_isPlain hchain hb).aliasName a hbound

theorem emits_path (hplain : Writable plain) (hmodel : ∀ s ∈ modelNames base.model, Plain plain s)
    {p : Path} (h : AllPlain plain p.names) :
    p.sql.Emits base plain fun _ text => Plain plain text := by
  have hdot : Plain plain "." := plain_of_unmarked hplain (by decide)
  unfold Path.sql
  cases hparent : p.parent with
  | none =>
    refine .bind (.lookup (P := fun b => ∀ b' ∈ b, b'.IsPlain plain) fun chain hchain b hb =>
      findBinding_isPlain hchain hb) fun b _ => ?_
    refine .bind (.column hmodel (h _ p.name_mem_names)) fun column _ => ?_
    cases b with
    | none => exact .pure fun _ hcolumn _ => hcolumn
    | some b =>
      refine .pure fun _ hcolumn hb => ?_
      exact plain_append (plain_append (hb b rfl).qualifier hdot) hcolumn
  | some parent =>
    have hnames : AllPlain plain parent.names :=
      fun s hs => h s (Path.mem_names_of_parent hparent hs)
    refine .bind .aliasMode fun mode _ => ?_
    refine .bind (.lookup (P := fun b => ∀ b' ∈ b, b'.IsPlain plain) fun chain hchain b hb =>
      findBinding_isPlain hchain hb) fun b _ => ?_
    refine .bind (.lookup (P := fun o => ∀ a ∈ o, Plain plain a) fun chain hchain =>
      findAlias_isPlain hnames hchain) fun aliasName _ => ?_
    refine .bind (.column hmodel (h _ p.name_mem_names)) fun column _ => ?_
    refine .pure fun _ hcolumn halias hb _ => plain_append (plain_append ?_ hdot) hcolumn
    -- a parent is written by an alias, by the table that its key is bound to, or by itself
    cases haliasName : aliasName with
    | some a => exact halias a haliasName
    | none =>
      cases b with
      | some b => exact (hb b rfl).qualifier
      | none => exact Path.plain_key hplain hnames

/-! ## Values -/

theorem ShowsText.value {acc : Accumulator} {p : Parameter} {name : String}
    (h : acc.Writes name.toList p) : ShowsText plain select [.value p] acc name := by
  have hshows := Reading.Shows.value (r := acc.reading plain select) h Reading.Shows.nil
  rwa [List.append_nil] at hshows

/-- A literal that is no list is written as one placeholder. -/
theorem Literal.sql_of_not_list {l : Literal} (h : l.value.isList = false) :
    l.sql = l.placeholder := by
  obtain ⟨value, temporal⟩ := l
  cases value with
  | list items => cases h
  | _ => rfl

theorem emits_placeholder (select : SelectQuery → List Char → Prop)
    (hregistry : base.registry.IsPlain) (l : Literal) :
    l.placeholder.Emits base plain
      (ShowsText plain select [.value (l.parameter base.dialect)]) := by
  refine .bind (.resolveParameter hregistry l) fun p _ => ?_
  refine (Emits.addParameter p).mono fun acc name hname hp => ?_
  exact .value (hp ▸ hname)

/-- A literal shows its value, a list the values in it. -/
theorem emits_literal (select : SelectQuery → List Char → Prop) (hplain : Admits plain)
    (hregistry : base.registry.IsPlain) (l : Literal) :
    l.resolveSql.Emits base plain (ShowsText plain select (l.items base.dialect)) := by
  refine .resolveText hregistry fun _ => ?_
  unfold Literal.sql Literal.items
  cases l.value with
  | list items =>
    refine .bind (.mapM fun item _ =>
      emits_placeholder select hregistry ⟨item, l.temporal⟩) fun names _ => ?_
    refine .pure fun acc hnames => ?_
    have hcommas := Reading.ShowsEach.commas (r := acc.reading plain select) hplain
      ((List.forall₂_map_left_iff (f := fun item =>
        [Item.value (Literal.parameter base.dialect ⟨item, l.temporal⟩)])).mpr hnames)
    rwa [← List.flatMap_def, ← List.map_eq_flatMap] at hcommas
  | _ => exact emits_placeholder select hregistry l

/-- Raw SQL shows its values in the places of its question marks. -/
theorem emits_fill (select : SelectQuery → List Char → Prop) (raw : RawSql) {cs : List Char}
    (hcs : ∀ c ∈ cs, plain c) (quoted : Bool) (values : List Value) :
    (raw.fill quoted values cs).Emits base plain fun acc out =>
      (acc.reading plain select).Shows out (values.map fun v => .value (Parameter.ofValue v)) := by
  -- on the text: a marker outside of literals becomes the placeholder of the next value
  induction cs generalizing quoted values with
  | nil =>
    cases values with
    | nil => exact .pure fun _ => Reading.Shows.nil
    | cons v rest => exact .throw _
  | cons c rest ih =>
    have ih := ih fun c' hc => hcs c' (List.mem_cons_of_mem c hc)
    have hc := hcs c List.mem_cons_self
    cases values with
    | nil =>
      rw [RawSql.fill]
      split
      · exact .throw _
      · refine .bind (ih _ []) fun out _ => ?_
        exact .pure fun _ hout => .char hc (hout _)
    | cons v others =>
      rw [RawSql.fill]
      split
      · refine .bind (.addParameter _) fun name _ => ?_
        refine .bind (ih quoted others) fun out _ => ?_
        exact .pure fun _ hout hname => .value hname hout
      · refine .bind (ih _ (v :: others)) fun out _ => ?_
        exact .pure fun _ hout => .char hc (hout _)

theorem emits_raw {raw : RawSql} (h : Plain plain raw.text) :
    raw.sql.Emits base plain
      (ShowsText plain select (raw.parameters.map fun v => .value (Parameter.ofValue v))) := by
  refine .bind (emits_fill select raw h false raw.parameters) fun out _ => ?_
  refine .pure fun acc hout => ?_
  rw [ShowsText, String.toList_ofList]
  exact hout

end SqlCompose
