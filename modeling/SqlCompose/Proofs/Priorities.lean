import SqlCompose.Proofs.Registry

/-!
# SqlCompose.Proofs.Priorities -- a registry is sorted, and its order is stable

However a registry came about, its resolvers stand by descending priority, and those of
one priority in the order in which they were registered. There is only one such list:
the one that a stable sort makes of all that were registered.
-/

namespace SqlCompose

/-- Of two resolvers the first one is asked not later than the second one. -/
def Resolver.ranks (r s : Resolver) : Bool := decide (s.priority ≤ r.priority)

theorem Resolver.ranks_trans (r s u : Resolver) (hrs : r.ranks s) (hsu : s.ranks u) :
    r.ranks u := by
  simp only [ranks, decide_eq_true_eq] at *
  omega

theorem Resolver.ranks_total (r s : Resolver) : r.ranks s || s.ranks r := by
  simp only [ranks, Bool.or_eq_true, decide_eq_true_eq]
  omega

namespace Registry

/-- Resolvers stand by descending priority. -/
def Ranked (rs : List Resolver) : Prop := rs.Pairwise fun r s => r.ranks s

/-- The resolvers of one priority. -/
def ofPriority (p : Int) (rs : List Resolver) : List Resolver := rs.filter (·.priority == p)

theorem mem_ofPriority {p : Int} {r : Resolver} {rs : List Resolver} :
    r ∈ ofPriority p rs ↔ r ∈ rs ∧ r.priority = p := by
  simp [ofPriority]

/-! ## The order is determined by each priority -/

/-- The first one of a ranked list has the highest priority. -/
theorem Ranked.le_head {r s : Resolver} {rs : List Resolver} (h : Ranked (r :: rs))
    (hs : s ∈ r :: rs) : s.priority ≤ r.priority := by
  rcases List.mem_cons.mp hs with rfl | hs
  · exact Int.le_refl _
  · exact of_decide_eq_true ((List.pairwise_cons.mp h).1 s hs)

theorem ofPriority_cons (p : Int) (r : Resolver) (rs : List Resolver) :
    ofPriority p (r :: rs) = if r.priority = p then r :: ofPriority p rs else ofPriority p rs := by
  simp only [ofPriority, List.filter_cons, beq_iff_eq]

/-- Lists with the same resolvers of each priority have the same resolvers. -/
theorem mem_of_ofPriority {rs others : List Resolver}
    (h : ∀ p, ofPriority p rs = ofPriority p others) {r : Resolver} (hr : r ∈ rs) : r ∈ others := by
  have hin : r ∈ ofPriority r.priority rs := mem_ofPriority.mpr ⟨hr, rfl⟩
  rw [h] at hin
  exact (mem_ofPriority.mp hin).1

/-- Ranked lists with the same resolvers of each priority are the same. -/
theorem Ranked.eq_of_ofPriority {rs others : List Resolver} (hrs : Ranked rs)
    (hothers : Ranked others) (h : ∀ p, ofPriority p rs = ofPriority p others) : rs = others := by
  induction rs generalizing others with
  | nil =>
    cases others with
    | nil => rfl
    | cons s others =>
      exact absurd (mem_of_ofPriority (fun p => (h p).symm) List.mem_cons_self) List.not_mem_nil
  | cons r rest ih =>
    cases others with
    | nil => exact absurd (mem_of_ofPriority h List.mem_cons_self) List.not_mem_nil
    | cons s others =>
      -- both first ones have the highest priority, and both are the first ones that have it
      have hle := hothers.le_head (mem_of_ofPriority h List.mem_cons_self)
      have hge := hrs.le_head (mem_of_ofPriority (fun p => (h p).symm) List.mem_cons_self)
      have hpriority : s.priority = r.priority := by omega
      have hfirst := h r.priority
      rw [ofPriority_cons, ofPriority_cons, if_pos rfl, if_pos hpriority] at hfirst
      obtain ⟨rfl, -⟩ := List.cons_eq_cons.mp hfirst
      congr 1
      apply ih hrs.of_cons hothers.of_cons
      intro p
      have hp := h p
      rw [ofPriority_cons, ofPriority_cons] at hp
      split at hp
      · exact (List.cons_eq_cons.mp hp).2
      · exact hp

/-! ## A stable sort -/

theorem ranked_mergeSort (rs : List Resolver) : Ranked (rs.mergeSort Resolver.ranks) :=
  List.pairwise_mergeSort Resolver.ranks_trans Resolver.ranks_total rs

/-- Sorting leaves the resolvers of one priority in their order. -/
theorem ofPriority_mergeSort (p : Int) (rs : List Resolver) :
    ofPriority p (rs.mergeSort Resolver.ranks) = ofPriority p rs := by
  have hranked : (ofPriority p rs).Pairwise fun r s => r.ranks s := by
    apply List.pairwise_of_forall_mem_list
    intro r hr s hs
    have hr := (mem_ofPriority.mp hr).2
    have hs := (mem_ofPriority.mp hs).2
    apply decide_eq_true
    omega
  have hsub : (ofPriority p rs).Sublist (rs.mergeSort Resolver.ranks) :=
    List.sublist_mergeSort Resolver.ranks_trans Resolver.ranks_total hranked List.filter_sublist
  have hfilter := hsub.filter (·.priority == p)
  have hself : (ofPriority p rs).filter (·.priority == p) = ofPriority p rs := by
    simp only [ofPriority, List.filter_filter, Bool.and_self]
  rw [hself] at hfilter
  symm
  apply hfilter.eq_of_length
  exact ((List.mergeSort_perm rs Resolver.ranks).filter _).length_eq.symm

/-! ## Registering -/

/-- A resolver is put behind all that were registered for its priority. -/
theorem ofPriority_insertByPriority (p : Int) (r : Resolver) {rs : List Resolver}
    (hrs : Ranked rs) :
    ofPriority p (insertByPriority r rs) = ofPriority p rs ++ ofPriority p [r] := by
  induction rs with
  | nil => rfl
  | cons s rest ih =>
    unfold insertByPriority
    split
    · rename_i hlower
      by_cases hp : r.priority = p
      · -- nothing in the list has the priority of the resolver
        have hnone : ofPriority p (s :: rest) = [] := by
          apply List.eq_nil_iff_forall_not_mem.mpr
          intro x hx
          obtain ⟨hin, hxp⟩ := mem_ofPriority.mp hx
          have hle := hrs.le_head hin
          omega
        rw [ofPriority_cons p r, if_pos hp, ofPriority_cons p r, if_pos hp, hnone]
        rfl
      · rw [ofPriority_cons p r, if_neg hp, ofPriority_cons p r, if_neg hp]
        exact (List.append_nil _).symm
    · rw [ofPriority_cons, ofPriority_cons, ih hrs.of_cons]
      split <;> rfl

theorem ranked_insertByPriority (r : Resolver) {rs : List Resolver} (hrs : Ranked rs) :
    Ranked (insertByPriority r rs) := by
  induction rs with
  | nil => exact List.pairwise_singleton _ r
  | cons s rest ih =>
    unfold insertByPriority
    split
    · rename_i hlower
      apply List.pairwise_cons.mpr
      refine ⟨?_, hrs⟩
      intro x hx
      have hle := hrs.le_head hx
      apply decide_eq_true
      omega
    · rename_i hrank
      apply List.pairwise_cons.mpr
      refine ⟨?_, ih hrs.of_cons⟩
      intro x hx
      rcases mem_insertByPriority.mp hx with rfl | hx
      · apply decide_eq_true
        omega
      · exact decide_eq_true (hrs.le_head (List.mem_cons_of_mem s hx))

/-- One way in which a registry grows. -/
inductive Addition where
  | one (r : Resolver)
  | several (rs : List Resolver)

/-- The resolvers that an addition registers, in order. -/
def Addition.resolvers : Addition → List Resolver
  | .one r => [r]
  | .several rs => rs

/-- A registry with an addition. -/
def add (g : Registry) : Addition → Registry
  | .one r => g.register r
  | .several rs => g.extended rs

/-- The registry that comes about by additions to an empty one. -/
def after (history : List Addition) : Registry := history.foldl add {}

/-- All resolvers that a history registers, in order. -/
def registered (history : List Addition) : List Resolver := history.flatMap Addition.resolvers

theorem add_eq_extended (g : Registry) (a : Addition) : g.add a = g.extended a.resolvers := by
  cases a <;> rfl

/-- A registry is ranked, and for each priority it has the resolvers that were registered, in
order. -/
structure Holds (g : Registry) (rs : List Resolver) : Prop where
  ranked : Ranked g.resolvers
  ofPriority : ∀ p, ofPriority p g.resolvers = Registry.ofPriority p rs

theorem holds_empty : ({} : Registry).Holds [] := ⟨List.Pairwise.nil, fun _ => rfl⟩

theorem Holds.register {g : Registry} {rs : List Resolver} (h : g.Holds rs) (r : Resolver) :
    (g.register r).Holds (rs ++ [r]) where
  ranked := ranked_insertByPriority r h.ranked
  ofPriority := by
    intro p
    have happend : Registry.ofPriority p (rs ++ [r]) =
        Registry.ofPriority p rs ++ Registry.ofPriority p [r] := List.filter_append rs [r]
    rw [happend, ← h.ofPriority p]
    exact ofPriority_insertByPriority p r h.ranked

theorem Holds.extended {g : Registry} {rs : List Resolver} (h : g.Holds rs)
    (others : List Resolver) : (g.extended others).Holds (rs ++ others) := by
  induction others generalizing g rs with
  | nil => rwa [List.append_nil]
  | cons r rest ih =>
    have hrest := ih (h.register r)
    rwa [List.append_assoc] at hrest

theorem holds_after (history : List Addition) : (after history).Holds (registered history) := by
  have hfold : ∀ (g : Registry) (rs : List Resolver), g.Holds rs →
      (history.foldl add g).Holds (rs ++ registered history) := by
    induction history with
    | nil =>
      intro g rs h
      rwa [registered, List.flatMap_nil, List.append_nil]
    | cons a rest ih =>
      intro g rs h
      have hnext : (g.add a).Holds (rs ++ a.resolvers) := by
        rw [add_eq_extended]
        exact h.extended a.resolvers
      have hrest := ih _ _ hnext
      rwa [List.append_assoc] at hrest
  exact hfold {} [] holds_empty

/-- The resolvers from a kind to a form are those that were registered, stably sorted. -/
theorem resolversFor_after (history : List Addition) (kind : ExpressionKind) (form : Form) :
    (after history).resolversFor kind form =
      ((registered history).filter fun r => r.kind == kind && r.form == form).mergeSort
        Resolver.ranks := by
  obtain ⟨hranked, hpriority⟩ := holds_after history
  apply Ranked.eq_of_ofPriority
  · exact hranked.filter _
  · exact ranked_mergeSort _
  · intro p
    have hp := congrArg (List.filter fun r => r.kind == kind && r.form == form) (hpriority p)
    rw [ofPriority_mergeSort]
    unfold resolversFor ofPriority
    unfold ofPriority at hp
    rw [List.filter_filter, List.filter_filter] at hp ⊢
    simp only [Bool.and_comm] at hp ⊢
    exact hp

end Registry

end SqlCompose
