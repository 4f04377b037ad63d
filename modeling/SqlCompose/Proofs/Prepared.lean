import SqlCompose.Proofs.Bound
import SqlCompose.Proofs.Coupling

/-!
# SqlCompose.Proofs.Prepared -- finished texts side by side

Two texts whose pieces stand for parameters that are alike name as many
parameters, and become the same text once markers take the places of the
placeholders, because a marker tells nothing of a parameter but its template.
-/

namespace SqlCompose

open Compose Placeholder

variable {acc acc' : Accumulator} {alike : Parameter → Parameter → Prop}

/-! ## Pieces that correspond -/

/-- The same character, or placeholders of parameters that are alike. -/
def TextPiece.Corresponds (acc acc' : Accumulator) (alike : Parameter → Parameter → Prop) :
    TextPiece → TextPiece → Prop
  | .char c, .char c' => c' = c
  | .placeholder m, .placeholder n =>
    ∀ p, acc.numbered? m = some p → ∃ p', acc'.numbered? n = some p' ∧ alike p p'
  | _, _ => False

/-- Pieces that correspond name parameters that are alike, and are filled alike. -/
theorem TextPiece.named_of_corresponds (hmarker : ∀ p p', alike p p' → p'.marker = p.marker)
    {us vs : List TextPiece} (h : List.Forall₂ (Corresponds acc acc' alike) us vs)
    {ps : List Parameter} (hps : (us.filterMap number?).mapM acc.numbered? = some ps) :
    (∃ ps', (vs.filterMap number?).mapM acc'.numbered? = some ps' ∧ List.Forall₂ alike ps ps') ∧
      vs.flatMap (filled acc') = us.flatMap (filled acc) := by
  induction h generalizing ps with
  | nil =>
    cases hps
    exact ⟨⟨[], rfl, .nil⟩, rfl⟩
  | @cons u v us vs huv _ ih =>
    cases u with
    | char c =>
      cases v with
      | placeholder n => exact huv.elim
      | char c' =>
        obtain rfl := huv
        obtain ⟨hnamed, hfilled⟩ := ih hps
        exact ⟨hnamed, by rw [List.flatMap_cons, List.flatMap_cons, hfilled]; rfl⟩
    | placeholder m =>
      cases v with
      | char c => exact huv.elim
      | placeholder n =>
        simp only [List.filterMap_cons, number?, List.mapM_cons, Option.bind_eq_bind,
          Option.bind_eq_some_iff, Option.pure_def, Option.some.injEq] at hps
        obtain ⟨p, hp, ps, hrest, rfl⟩ := hps
        -- the other text names a parameter that is alike, which has the same marker
        obtain ⟨p', hp', halike⟩ := huv p hp
        obtain ⟨⟨ps', hps', hall⟩, hfilled⟩ := ih hrest
        refine ⟨⟨p' :: ps', ?_, .cons halike hall⟩, ?_⟩
        · simp only [List.filterMap_cons, number?, List.mapM_cons, hp', hps']
          rfl
        · rw [List.flatMap_cons, List.flatMap_cons, hfilled]
          simp only [filled, hp, hp', Option.map_some, hmarker p p' halike]

namespace Accumulator

/-- Texts whose pieces correspond name parameters that are alike, and are filled alike. -/
theorem named?_of_corresponds (hmarker : ∀ p p', alike p p' → p'.marker = p.marker)
    {u v : List Char}
    (h : List.Forall₂ (TextPiece.Corresponds acc acc' alike) (TextPiece.scan 0 u)
      (TextPiece.scan 0 v)) {ps : List Parameter} (hps : acc.named? u = some ps) :
    (∃ ps', acc'.named? v = some ps' ∧ List.Forall₂ alike ps ps') ∧ acc'.fill v = acc.fill u :=
  TextPiece.named_of_corresponds hmarker h hps

end Accumulator

theorem length_bindAll {ctx : Context} {s t : Session} {ps : List Parameter}
    {bs : List BoundParameter} (h : (bindAll ps).Yields ctx s bs t) : bs.length = ps.length := by
  induction ps generalizing s t bs with
  | nil =>
    obtain ⟨rfl, _⟩ := yields_pure.mp h
    rfl
  | cons p rest ih =>
    rw [bindAll_cons, yields_bind] at h
    obtain ⟨b, u, _, h⟩ := h
    obtain ⟨bs', v, hrest, h⟩ := yields_bind.mp h
    obtain ⟨rfl, _⟩ := yields_pure.mp h
    rw [List.length_cons, List.length_cons, ih hrest]

/-! ## Parameters of coupled runs -/

namespace Coupling

variable {base : Context} {C : Coupling base}

/-- The parameters that were added at the same time are alike. -/
theorem Grown.numbered? {a b : Accumulator} (h : C.Grown a b) {i : Nat} {p : Parameter}
    (hp : a.numbered? (C.left.length + i + 1) = some p) :
    ∃ p', b.numbered? (C.right.length + i + 1) = some p' ∧ C.alike p p' := by
  obtain ⟨more, more', ha, hb, hmore⟩ := h
  simp only [Accumulator.numbered?, ← Array.getElem?_toList, ha, hb] at hp ⊢
  rw [List.getElem?_append_right (Nat.le_add_right _ _), Nat.add_sub_cancel_left] at hp
  rw [List.getElem?_append_right (Nat.le_add_right _ _), Nat.add_sub_cancel_left]
  obtain ⟨hi, rfl⟩ := List.getElem?_eq_some_iff.mp hp
  have hi' : i < more'.length := hmore.length_eq ▸ hi
  exact ⟨more'[i], List.getElem?_eq_getElem hi', hmore.get hi hi'⟩

/-- Where no character but those of placeholders is a colon, the placeholders of
one text correspond to those of the other. -/
theorem corresponds_of_renumbers (hplain : ∀ c, C.plain c → c ≠ ':') {a b : Accumulator}
    (h : C.Grown a b) {u v : List Char} (huv : C.numbering.Renumbers u v) :
    List.Forall₂ (TextPiece.Corresponds a b C.alike) (TextPiece.scan 0 u) (TextPiece.scan 0 v) := by
  induction huv with
  | nil => exact .nil
  | @char c u v hc _ ih =>
    rw [TextPiece.scan_char (hplain c hc), TextPiece.scan_char (hplain c hc)]
    exact .cons rfl ih
  | placeholder hleft hright _ ih =>
    rw [TextPiece.scan_name hleft, TextPiece.scan_name hright]
    exact .cons (fun p hp => h.numbered? hp) ih

/-- Where both runs start without parameters, every text corresponds to itself. -/
theorem corresponds_self (hleft : C.left = []) (hright : C.right = []) {a b : Accumulator}
    (h : C.Grown a b) (pieces : List TextPiece) :
    List.Forall₂ (TextPiece.Corresponds a b C.alike) pieces pieces := by
  refine List.forall₂_same.mpr fun piece _ => ?_
  cases piece with
  | char c => rfl
  | placeholder number =>
    intro p hp
    cases number with
    | zero => cases hp
    | succ i =>
      have hnumbered := h.numbered? (i := i) (p := p)
      simp only [hleft, hright, List.length_nil, Nat.zero_add] at hnumbered
      exact hnumbered hp

end Coupling

end SqlCompose
