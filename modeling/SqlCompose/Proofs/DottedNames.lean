import SqlCompose.Expression.Path
import SqlCompose.Proofs.Valid

/-!
# SqlCompose.Proofs.DottedNames -- paths and dotted names

A dotted name and the path that is read from it tell each other: the names of the path are
the pieces between the dots, and joining them gives the text back. A path comes back from
its dotted name if no path of its chain has an alias and no name holds a dot. Validation
refuses such names, so it is enough that the path is valid.
-/

namespace SqlCompose

/-! ## Pieces -/

namespace Text

variable {separator : Char} {cs piece : List Char}

theorem pieces_eq_splitOn (separator : Char) (cs : List Char) :
    (pieces separator cs).1 :: (pieces separator cs).2 = cs.splitOn separator := by
  induction cs with
  | nil => rfl
  | cons c rest ih =>
    rw [List.splitOn_cons_eq_if_modifyHead, ← ih]
    by_cases hc : c = separator
    · simp only [pieces, hc, if_true, beq_self_eq_true]
    · simp only [pieces, hc, if_false, beq_iff_eq, List.modifyHead_cons]

/-- No piece holds the separator. -/
theorem notMem_of_mem_splitOn (h : piece ∈ cs.splitOn separator) : separator ∉ piece := by
  induction cs generalizing piece with
  | nil =>
    rw [List.splitOn_nil, List.mem_singleton] at h
    subst h
    exact List.not_mem_nil
  | cons c rest ih =>
    rw [List.splitOn_cons_eq_if_modifyHead] at h
    split at h
    · rcases List.mem_cons.mp h with rfl | h
      · exact List.not_mem_nil
      · exact ih h
    · rename_i hc
      obtain ⟨first, others, hpieces⟩ :=
        List.exists_cons_of_ne_nil (List.splitOn_ne_nil separator rest)
      rw [hpieces] at h ih
      rw [List.modifyHead_cons, List.mem_cons] at h
      rcases h with rfl | h
      · rw [List.mem_cons, not_or]
        exact ⟨fun heq => hc (beq_iff_eq.mpr heq.symm), ih List.mem_cons_self⟩
      · exact ih (List.mem_cons_of_mem _ h)

end Text

namespace Path

variable {p q : Path}

/-! ## Paths without aliases -/

/-- No path of the chain has an alias. -/
def Unaliased : Path → Prop
  | .root _ aliasName => aliasName = none
  | .child parent _ aliasName => aliasName = none ∧ parent.Unaliased

theorem unaliased_ofName (name : String) : (ofName name).Unaliased := rfl

theorem Unaliased.extend (h : p.Unaliased) (name : String) : (p.extend name).Unaliased := ⟨rfl, h⟩

theorem segments_ne_nil (p : Path) : p.segments ≠ [] := by
  cases p with
  | root => exact List.cons_ne_nil _ _
  | child => exact List.append_ne_nil_of_right_ne_nil _ (List.cons_ne_nil _ _)

/-- Without aliases a path is made of its names and nothing else. -/
theorem Unaliased.eq_of_segments (hp : p.Unaliased) (hq : q.Unaliased)
    (h : p.segments = q.segments) : p = q := by
  induction p generalizing q with
  | root name aliasName =>
    cases q with
    | root name' aliasName' =>
      obtain rfl : aliasName = none := hp
      obtain rfl : aliasName' = none := hq
      obtain rfl : name = name' := List.singleton_inj.mp h
      rfl
    | child parent' name' aliasName' =>
      -- one name is not followed by another one
      exact absurd (List.append_eq_singleton_iff.mp h.symm) (by simp [segments_ne_nil])
  | child parent name aliasName ih =>
    cases q with
    | root name' aliasName' =>
      exact absurd (List.append_eq_singleton_iff.mp h) (by simp [segments_ne_nil])
    | child parent' name' aliasName' =>
      obtain ⟨rfl, hparent⟩ := hp
      obtain ⟨rfl, hparent'⟩ := hq
      obtain ⟨hsegments, hname⟩ := List.append_inj' h rfl
      obtain rfl : name = name' := List.singleton_inj.mp hname
      rw [ih hparent hparent' hsegments]

theorem validateOwn_iff (halias : p.aliasName = none) :
    p.validateOwn = .ok () ↔ Text.allBlank p.name = false ∧ '.' ∉ p.name.toList := by
  rw [validateOwn, halias, ok_unless_iff, ok_unless_iff, Bool.not_eq_true, List.contains_iff_mem]
  exact and_congr_right fun _ => and_iff_left rfl

/-- A path without aliases is valid if none of its names is blank or holds a dot. -/
theorem Unaliased.validate_iff (h : p.Unaliased) :
    p.validate = .ok () ↔
      ∀ name ∈ p.segments, Text.allBlank name = false ∧ '.' ∉ name.toList := by
  induction p with
  | root name aliasName =>
    have halias : (root name aliasName).aliasName = none := h
    rw [validate, validateOwn_iff halias, segments, List.forall_mem_singleton]
    rfl
  | child parent name aliasName ih =>
    obtain ⟨halias, hparent⟩ := h
    rw [segments, List.forall_mem_append, List.forall_mem_singleton, validate]
    have hname := validateOwn_iff (p := .child parent name aliasName) halias
    cases hvalid : validateOwn (.child parent name aliasName) with
    | ok =>
      rw [hvalid] at hname
      exact (ih hparent).trans (and_iff_left (hname.mp rfl)).symm
    | error e =>
      rw [hvalid] at hname
      exact iff_of_false nofun fun hall => nomatch hname.mpr hall.2

/-! ## Reading a dotted name -/

/-- The names that a path is extended by stand behind its own. -/
theorem segments_foldl (names : List (List Char)) :
    (names.foldl (fun p name => p.extend (String.ofList name)) p).segments =
      p.segments ++ names.map String.ofList := by
  induction names generalizing p with
  | nil => exact (List.append_nil _).symm
  | cons name rest ih =>
    rw [List.foldl_cons, ih, List.map_cons, List.append_cons]
    rfl

theorem key_foldl (names : List (List Char)) :
    (names.foldl (fun p name => p.extend (String.ofList name)) p).key.toList =
      Text.joinPieces '.' p.key.toList names := by
  induction names generalizing p with
  | nil => rfl
  | cons name rest ih =>
    have hkey : (p.extend (String.ofList name)).key.toList = (p.key.toList ++ ['.']) ++ name := by
      rw [extend, key, String.toList_append, String.toList_append, String.toList_ofList,
        String.toList_ofList]
    rw [List.foldl_cons, ih, hkey, Text.joinPieces_append, List.append_assoc]
    rfl

theorem Unaliased.foldl (h : p.Unaliased) (names : List (List Char)) :
    (names.foldl (fun p name => p.extend (String.ofList name)) p).Unaliased := by
  induction names generalizing p with
  | nil => exact h
  | cons name rest ih => exact ih (h.extend _)

theorem unaliased_parse (d : String) : (parse d).Unaliased := (unaliased_ofName _).foldl _

theorem key_parse (d : String) : (parse d).key = d := by
  apply String.toList_inj.mp
  rw [parse, key_foldl, ofName, key, String.toList_ofList]
  exact Text.joinPieces_pieces '.' d.toList

theorem segments_parse (d : String) :
    (parse d).segments = (d.toList.splitOn '.').map String.ofList := by
  rw [parse, segments_foldl, ← Text.pieces_eq_splitOn]
  rfl

example : (parse ".tenant..person").segments = ["", "tenant", "", "person"] := by decide

/-- Dots stand only where a dotted name is cut. -/
theorem splitOn_key (h : ∀ name ∈ p.segments, '.' ∉ name.toList) :
    p.key.toList.splitOn '.' = p.segments.map String.toList := by
  induction p with
  | root name aliasName =>
    exact List.splitOn_eq_singleton (h name List.mem_cons_self)
  | child parent name aliasName ih =>
    rw [segments, List.forall_mem_append, List.forall_mem_singleton] at h
    have hkey : (Path.child parent name aliasName).key.toList =
        parent.key.toList ++ '.' :: name.toList := by
      rw [key, String.toList_append, String.toList_append, List.append_assoc]
      rfl
    rw [hkey, List.splitOn_append_cons_self, ih h.1, List.splitOn_eq_singleton h.2, segments,
      List.map_append]
    rfl

/-- Every text is the dotted name of the path that is read from it. The names of this path are
the pieces between the dots, and it is valid exactly if none of them is blank. A path without
aliases, whether it was put together name by name or read, comes back from its dotted name as
long as it is valid. -/
theorem dotted_name_tells_path :
    (∀ d : String, (parse d).key = d ∧
      (parse d).segments = (d.toList.splitOn '.').map String.ofList ∧
      ((parse d).validate = .ok () ↔
        ∀ piece ∈ d.toList.splitOn '.', Text.allBlank (String.ofList piece) = false)) ∧
    ∀ p : Path, p.Unaliased → p.validate = .ok () → parse p.key = p := by
  constructor
  · intro d
    refine ⟨key_parse d, segments_parse d, ?_⟩
    rw [(unaliased_parse d).validate_iff, segments_parse, List.forall_mem_map]
    refine forall₂_congr fun piece hpiece => and_iff_left ?_
    rw [String.toList_ofList]
    exact Text.notMem_of_mem_splitOn hpiece
  · intro p hp hvalid
    -- both paths have no aliases, so it is enough that they have the same names
    have hnames := hp.validate_iff.mp hvalid
    refine (unaliased_parse p.key).eq_of_segments hp ?_
    rw [segments_parse, splitOn_key fun name hname => (hnames name hname).2, List.map_map]
    exact (List.map_congr_left fun name _ => String.ofList_toList).trans (List.map_id _)

/-- A path that was read and then extended by a name of several words. -/
theorem dotted_name_tells_path_of_extended :
    ((parse "tenant.person").extend "home address").Unaliased ∧
    ((parse "tenant.person").extend "home address").validate = .ok () ∧
    parse "tenant.person.home address" = (parse "tenant.person").extend "home address" := by
  have hplain : ((parse "tenant.person").extend "home address").Unaliased :=
    (unaliased_parse _).extend _
  have hvalid : ((parse "tenant.person").extend "home address").validate = .ok () := rfl
  have hkey : ((parse "tenant.person").extend "home address").key =
      "tenant.person.home address" := by decide
  have hback := dotted_name_tells_path.2 _ hplain hvalid
  rw [hkey] at hback
  exact ⟨hplain, hvalid, hback⟩

end Path

end SqlCompose
