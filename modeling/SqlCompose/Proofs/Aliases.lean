import SqlCompose.Proofs.Placeholder
import SqlCompose.Proofs.Scopes

/-!
# SqlCompose.Proofs.Aliases -- generated aliases are new

A generated alias can be read back: the number of the scope stands behind its last
underscore and the counter before it, because numbers hold no underscores. So one
scope never generates an alias twice, and scopes of different numbers never
generate the same one. An alias is issued once its counter has gone past it.
-/

namespace SqlCompose

/-! ## Reading an alias back -/

namespace Alias

/-- A text can be cut at its last underscore in one way only. -/
theorem append_line_inj {u v u' v' : List Char} (hv : '_' ∉ v) (hv' : '_' ∉ v')
    (h : u ++ '_' :: v = u' ++ '_' :: v') : u = u' ∧ v = v' := by
  -- the longer one of the two beginnings would put an underscore into an end
  rcases List.append_eq_append_iff.mp h with ⟨more, hu, hmore⟩ | ⟨more, hu, hmore⟩
  · cases more with
    | nil =>
      rw [List.nil_append, List.cons.injEq] at hmore
      exact ⟨by rw [hu, List.append_nil], hmore.2⟩
    | cons c rest =>
      rw [List.cons_append, List.cons.injEq] at hmore
      exact absurd (hmore.2 ▸ List.mem_append_right rest List.mem_cons_self) hv
  · cases more with
    | nil =>
      rw [List.nil_append, List.cons.injEq] at hmore
      exact ⟨by rw [hu, List.append_nil], hmore.2.symm⟩
    | cons c rest =>
      rw [List.cons_append, List.cons.injEq] at hmore
      exact absurd (hmore.2 ▸ List.mem_append_right rest List.mem_cons_self) hv'

theorem line_notMem_toString (n : Nat) : '_' ∉ (toString n).toList := by
  intro h
  rw [Nat.toString_eq_ofList_toDigits, String.toList_ofList] at h
  exact absurd (Text.isDecimalDigit_of_mem_natDigits h) (by decide)

theorem toList_format (stem : String) (duplicate sequence : Nat) :
    (format stem duplicate sequence).toList =
      (stem.toList ++ '_' :: (toString duplicate).toList) ++ '_' :: (toString sequence).toList := by
  have hline : "_".toList = ['_'] := rfl
  simp only [format, String.toList_append, hline, List.append_assoc, List.singleton_append]

theorem toString_inj {m n : Nat} (h : (toString m).toList = (toString n).toList) : m = n := by
  rw [Nat.toString_eq_ofList_toDigits, Nat.toString_eq_ofList_toDigits, String.toList_ofList,
    String.toList_ofList] at h
  calc m = Nat.ofDigitChars 10 (Nat.toDigits 10 m) 0 := Nat.ofDigitChars_ten_toDigits.symm
    _ = Nat.ofDigitChars 10 (Nat.toDigits 10 n) 0 := by rw [h]
    _ = n := Nat.ofDigitChars_ten_toDigits

/-- An alias tells its stem, its counter and the number of its scope. -/
theorem format_inj {stem stem' : String} {duplicate duplicate' sequence sequence' : Nat}
    (h : format stem duplicate sequence = format stem' duplicate' sequence') :
    stem = stem' ∧ duplicate = duplicate' ∧ sequence = sequence' := by
  have hlist := congrArg String.toList h
  rw [toList_format, toList_format] at hlist
  obtain ⟨hrest, hsequence⟩ :=
    append_line_inj (line_notMem_toString sequence) (line_notMem_toString sequence') hlist
  obtain ⟨hstem, hduplicate⟩ :=
    append_line_inj (line_notMem_toString duplicate) (line_notMem_toString duplicate') hrest
  exact ⟨String.toList_inj.mp hstem, toString_inj hduplicate, toString_inj hsequence⟩

/-- A text has the shape of a generated alias. -/
def IsGenerated (a : String) : Prop :=
  ∃ name duplicate sequence, a = format (stem name) duplicate sequence

theorem IsGenerated.line_mem {a : String} (h : IsGenerated a) : '_' ∈ a.toList := by
  obtain ⟨name, duplicate, sequence, rfl⟩ := h
  rw [toList_format]
  exact List.mem_append_right _ List.mem_cons_self

end Alias

/-! ## Issued aliases -/

namespace AliasGenerator

variable {g : AliasGenerator} {name stem a : String} {n sequence : Nat}

theorem count_setCount (g : AliasGenerator) (stem k : String) (n : Nat) :
    (g.setCount stem n).count k = if k = stem then n else g.count k := by
  unfold count setCount
  rw [List.lookup_cons]
  by_cases hk : k = stem
  · simp [hk]
  · have hne : (k == stem) = false := beq_eq_false_iff_ne.mpr hk
    simp only [hne, Scope.lookup_filter _ hk, hk, if_false]

/-- A generator has handed out an alias in the scope of a number. -/
def Issued (g : AliasGenerator) (sequence : Nat) (a : String) : Prop :=
  ∃ stem duplicate, duplicate < g.count stem ∧ a = Alias.format stem duplicate sequence

/-- The next alias has not been handed out before. -/
theorem not_issued_next (g : AliasGenerator) (name : String) (sequence : Nat) :
    ¬ g.Issued sequence (g.next name sequence).1 := by
  rintro ⟨stem, duplicate, hlt, h⟩
  obtain ⟨rfl, rfl, _⟩ := Alias.format_inj h
  exact Nat.lt_irrefl _ hlt

/-- From then on it has. -/
theorem issued_next :
    (g.next name sequence).2.Issued sequence a ↔
      a = (g.next name sequence).1 ∨ g.Issued sequence a := by
  unfold Issued next
  simp only [count_setCount]
  constructor
  · rintro ⟨stem, duplicate, hlt, rfl⟩
    -- only the counter of this stem has moved, by one: the last duplicate is the new alias
    by_cases hstem : stem = Alias.stem name
    · subst hstem
      rw [if_pos rfl] at hlt
      rcases Nat.lt_succ_iff_lt_or_eq.mp hlt with hlt | rfl
      · exact .inr ⟨_, duplicate, hlt, rfl⟩
      · exact .inl rfl
    · rw [if_neg hstem] at hlt
      exact .inr ⟨stem, duplicate, hlt, rfl⟩
  · rintro (rfl | ⟨stem, duplicate, hlt, rfl⟩)
    · refine ⟨Alias.stem name, g.count (Alias.stem name), ?_, rfl⟩
      rw [if_pos rfl]
      exact Nat.lt_succ_self _
    · refine ⟨stem, duplicate, ?_, rfl⟩
      split
      · rename_i hstem
        subst hstem
        omega
      · exact hlt

/-- An alias was handed out in scopes of one number only. -/
theorem Issued.sequence_eq {g' : AliasGenerator} {sequence' : Nat} (h : g.Issued sequence a)
    (h' : g'.Issued sequence' a) : sequence = sequence' := by
  obtain ⟨_, _, _, rfl⟩ := h
  obtain ⟨_, _, _, heq⟩ := h'
  exact (Alias.format_inj heq).2.2

end AliasGenerator

namespace Scope

variable {s : Scope} {mode : AliasMode} {a : String} {t : RelationalTarget}

/-- A scope has generated an alias. -/
def Issued (s : Scope) (a : String) : Prop := s.aliases.Issued s.sequence a

theorem issued_generateAlias (name : String) :
    (s.generateAlias name).2.Issued a ↔ a = (s.generateAlias name).1 ∨ s.Issued a :=
  AliasGenerator.issued_next

theorem not_issued_generateAlias (s : Scope) (name : String) :
    ¬ s.Issued (s.generateAlias name).1 :=
  AliasGenerator.not_issued_next s.aliases name s.sequence

theorem isGenerated_generateAlias (s : Scope) (name : String) :
    Alias.IsGenerated (s.generateAlias name).1 := ⟨name, _, _, rfl⟩

theorem sequence_tableAlias (given : Option String) (name : String) :
    (s.tableAlias mode given name).2.sequence = s.sequence := by
  cases mode <;> cases given <;> rfl

theorem sequence_bindNames (b : Binding) : (s.bindNames t b).sequence = s.sequence := by
  unfold bindNames
  split <;> rfl

theorem sequence_bindJoin (j : Join) : (s.bindJoin mode j).sequence = s.sequence := by
  rw [bindJoin_eq]
  split <;> exact sequence_tableAlias j.aliasName j.name

theorem sequence_bindJoins (joins : List Join) :
    (joins.foldl (fun s j => s.bindJoin mode j) s).sequence = s.sequence := by
  induction joins generalizing s with
  | nil => rfl
  | cons j rest ih => rw [List.foldl_cons, ih, sequence_bindJoin]

theorem sequence_seed (t : RelationalTarget) : (s.seed mode t).sequence = s.sequence := by
  rw [Scope.seed_eq]
  split
  · rfl
  · rw [bindTarget_eq, sequence_bindJoins]
    show (bindNames _ t _).sequence = s.sequence
    rw [sequence_bindNames, sequence_tableAlias]

end Scope

end SqlCompose
