import SqlCompose.Proofs.MixedAliases

/-!
# SqlCompose.Proofs.AliasOrigins -- generated aliases tell where they are from

A generator that is asked for names in a row counts the aliases of each stem, so it hands
out no alias twice. Its counters stay within the number of names. The number of the scope
stands last in an alias, so generators of scopes with different numbers share none. Stems
may be empty or look like the end of an alias themselves: an alias is read from its end,
and its last two parts are made of digits only.
-/

namespace SqlCompose

/-- Small letters, digits and the underscore are safe. -/
theorem Alias.isSafe_iff {c : Char} :
    isSafe c = true ↔ 'a' ≤ c ∧ c ≤ 'z' ∨ '0' ≤ c ∧ c ≤ '9' ∨ c = '_' := by
  have hle : ∀ a b : Char, a ≤ b ↔ a.toNat ≤ b.toNat := fun _ _ => UInt32.le_iff_toNat_le
  rw [isSafe]
  simp only [hle, Bool.or_eq_true, Bool.and_eq_true, decide_eq_true_eq, beq_iff_eq, or_assoc]
  exact Iff.rfl

namespace AliasGenerator

variable {g g' : AliasGenerator} {m n sequence : Nat} {names names' : List String} {a : String}

/-! ## Aliases in a row -/

/-- The aliases for names in a row, and the generator after them. -/
def nextAll (sequence : Nat) : AliasGenerator → List String → List String × AliasGenerator
  | g, [] => ([], g)
  | g, name :: rest =>
    let (a, next) := g.next name sequence
    let (others, last) := next.nextAll sequence rest
    (a :: others, last)

theorem length_nextAll : (g.nextAll sequence names).1.length = names.length := by
  induction names generalizing g with
  | nil => rfl
  | cons name rest ih => exact congrArg (· + 1) ih

theorem mem_nextAll : a ∈ (g.nextAll sequence names).1 ↔ g.HandsOut sequence names a := by
  induction names generalizing g with
  | nil => exact iff_of_false List.not_mem_nil not_handsOut_nil
  | cons name rest ih => rw [nextAll, List.mem_cons, ih, handsOut_cons]

/-- No alias is handed out twice in a row. -/
theorem nodup_nextAll : (g.nextAll sequence names).1.Nodup := by
  induction names generalizing g with
  | nil => exact List.nodup_nil
  | cons name rest ih =>
    rw [nextAll, List.nodup_cons, mem_nextAll]
    exact ⟨not_handsOut_next, ih⟩

/-- A counter goes on once for each name of its stem. -/
theorem count_nextAll (stem : String) :
    (g.nextAll sequence names).2.count stem =
      g.count stem + (names.map Alias.stem).count stem := by
  induction names generalizing g with
  | nil => rfl
  | cons name rest ih =>
    rw [nextAll, ih, count_next, List.map_cons, List.count_cons]
    by_cases hstem : stem = Alias.stem name
    · rw [if_pos hstem, if_pos (beq_iff_eq.mpr hstem.symm)]
      omega
    · rw [if_neg hstem, if_neg (mt beq_iff_eq.mp (Ne.symm hstem)), Nat.add_zero]

theorem count_nextAll_le (stem : String) :
    (nextAll sequence {} names).2.count stem ≤ names.length := by
  have hcount := List.count_le_length (a := stem) (l := names.map Alias.stem)
  rw [List.length_map] at hcount
  rw [count_nextAll]
  exact (Nat.zero_add _).trans_le hcount

theorem HandsOut.isGenerated (h : g.HandsOut sequence names a) : Alias.IsGenerated a := by
  obtain ⟨stem, duplicate, hle, hlt, rfl⟩ := h
  -- a counter between the two ends is one of a name in the row
  have hpos : 0 < (names.map Alias.stem).count stem := by omega
  obtain ⟨name, _, rfl⟩ := List.mem_map.mp (List.count_pos_iff.mp hpos)
  exact ⟨name, duplicate, sequence, rfl⟩

/-- An alias is handed out in scopes of one number only. -/
theorem HandsOut.sequence_eq (h : g.HandsOut m names a) (h' : g'.HandsOut n names' a) : m = n := by
  obtain ⟨_, _, _, _, rfl⟩ := h
  obtain ⟨_, _, _, _, heq⟩ := h'
  exact (Alias.format_inj heq).2.2

/-! ## Rows of new generators -/

/-- A new generator that is asked for fewer names than a word of 32 bits can count gives one alias
for each. The aliases differ, they are made of small letters, digits and underscores, and no
counter leaves the word. Generators that are used in scopes of different numbers have no alias in
common. -/
theorem aliases_tell_origin :
    (∀ (sequence : Nat) (names : List String), names.length < 2 ^ 32 →
      (nextAll sequence {} names).1.length = names.length ∧
      (nextAll sequence {} names).1.Nodup ∧
      (∀ a ∈ (nextAll sequence {} names).1, ∀ c ∈ a.toList,
        'a' ≤ c ∧ c ≤ 'z' ∨ '0' ≤ c ∧ c ≤ '9' ∨ c = '_') ∧
      ∀ stem, (nextAll sequence {} names).2.count stem < 2 ^ 32) ∧
    ∀ (m n : Nat) (names names' : List String), m ≠ n →
      (nextAll m {} names).1.Disjoint (nextAll n {} names').1 := by
  constructor
  · intro sequence names hlength
    refine ⟨length_nextAll, nodup_nextAll, fun a ha c hc => ?_, fun stem => ?_⟩
    · obtain ⟨name, duplicate, number, rfl⟩ := (mem_nextAll.mp ha).isGenerated
      exact Alias.isSafe_iff.mp (Alias.isSafe_of_mem_format hc)
    · exact (count_nextAll_le stem).trans_lt hlength
  · intro m n names names' hne a ha ha'
    exact hne ((mem_nextAll.mp ha).sequence_eq (mem_nextAll.mp ha'))

/-- An empty name, and names that start like the end of an alias. -/
theorem aliases_tell_origin_of_lookalikes :
    ["", "_0", "_0_1", ""].length < 2 ^ 32 ∧
    (nextAll 1 {} ["", "_0", "_0_1", ""]).1 = ["_0_1", "_0_0_1", "_0_1_0_1", "_1_1"] ∧
    (nextAll 1 {} ["", "_0", "_0_1", ""]).1.Nodup ∧
    (1 : Nat) ≠ 0 ∧
    (nextAll 1 {} ["", "_0", "_0_1", ""]).1.Disjoint (nextAll 0 {} ["_1", "__1"]).1 := by
  have hlength : ["", "_0", "_0_1", ""].length < 2 ^ 32 := by decide
  obtain ⟨hrow, hscopes⟩ := aliases_tell_origin
  obtain ⟨_, hnodup, _⟩ := hrow 1 _ hlength
  exact ⟨hlength, by decide +kernel, hnodup, by decide, hscopes 1 0 _ _ (by decide)⟩

end AliasGenerator

end SqlCompose
