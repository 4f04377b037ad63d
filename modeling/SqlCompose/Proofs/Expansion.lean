import SqlCompose.Settings.Variables

/-!
# SqlCompose.Proofs.Expansion -- the grammar of references to variables

A text with references is put together from plain runs, names between braces, bare names
and dollar signs that stand for themselves. A bare name goes on as long as it can, so what
stands behind it must not go on with it, and a dollar sign before a brace or a name would
start a reference. However a text is put together from such parts, the reader finds them
again, and each reference gives the value of its variable as it is.
-/

namespace SqlCompose.Variables

/-! ## Parts of a text -/

/-- A part of a text with references. -/
inductive Part where
  /-- A run without dollar signs. -/
  | plain (run : List Char)
  /-- A reference with its name between braces. -/
  | braced (name : List Char)
  /-- A reference with its name alone, which goes on as far as it can. -/
  | bare (name : List Char)
  /-- A dollar sign that stands for itself. -/
  | dollar

namespace Part

/-- A part as it is written. -/
def written : Part → List Char
  | plain run => run
  | braced name => '$' :: '\x7b' :: name ++ ['\x7d']
  | bare name => '$' :: name
  | dollar => ['$']

/-- A part may stand before the rest of a text: nothing inside ends it early, and the rest does
not go on with it. -/
def Fits : Part → List Char → Prop
  | plain run, _ => '$' ∉ run
  | braced name, _ => '\x7d' ∉ name
  | bare name, rest => name ≠ [] ∧ name.all isNameChar = true ∧ rest.head?.any isNameChar = false
  | dollar, rest => rest.head?.any (fun c => c == '\x7b' || isNameChar c) = false

instance decidableFits (rest : List Char) : (part : Part) → Decidable (part.Fits rest)
  | plain run => inferInstanceAs (Decidable ('$' ∉ run))
  | braced name => inferInstanceAs (Decidable ('\x7d' ∉ name))
  | bare name => inferInstanceAs (Decidable
      (name ≠ [] ∧ name.all isNameChar = true ∧ rest.head?.any isNameChar = false))
  | dollar => inferInstanceAs (Decidable
      (rest.head?.any (fun c => c == '\x7b' || isNameChar c) = false))

/-- The variable that a part refers to. -/
def reference? : Part → Option String
  | braced name | bare name => some (String.ofList name)
  | plain _ | dollar => none

end Part

/-- The text that parts make up. -/
def written (parts : List Part) : List Char := parts.flatMap Part.written

/-- Every part may stand before the ones behind it. -/
def Fitting : List Part → Prop
  | [] => True
  | part :: rest => part.Fits (written rest) ∧ Fitting rest

instance decidableFitting : (parts : List Part) → Decidable (Fitting parts)
  | [] => isTrue trivial
  | part :: rest =>
    have := decidableFitting rest
    inferInstanceAs (Decidable (part.Fits (written rest) ∧ Fitting rest))

/-- The variables that parts refer to, in order. -/
def references (parts : List Part) : List String := parts.filterMap Part.reference?

/-! ## Finding the parts -/

variable {run name before rest : List Char} {c : Char} {part : Part} {parts : List Part}

/-- A part as the reader gives it. -/
def Part.pieces : Part → List Piece
  | plain run => run.map .char
  | braced name | bare name => [.reference name]
  | dollar => [.char '$']

theorem ne_brace_of_isNameChar (h : isNameChar c = true) : c ≠ '\x7b' := by
  rintro rfl
  exact absurd h (by decide)

theorem scan_plain (h : '$' ∉ run) :
    scan .text (run ++ rest) = run.map .char ++ scan .text rest := by
  induction run with
  | nil => rfl
  | cons c others ih =>
    obtain ⟨hc, hothers⟩ := not_or.mp (mt List.mem_cons.mpr h)
    rw [List.cons_append, scan, if_neg (Ne.symm hc), ih hothers]
    rfl

theorem scan_braced (h : '\x7d' ∉ name) :
    scan (.braced before) (name ++ '\x7d' :: rest) =
      .reference (before ++ name) :: scan .text rest := by
  induction name generalizing before with
  | nil => rw [List.nil_append, scan, if_pos rfl, List.append_nil]
  | cons c others ih =>
    obtain ⟨hc, hothers⟩ := not_or.mp (mt List.mem_cons.mpr h)
    rw [List.cons_append, scan, if_neg (Ne.symm hc), ih hothers, ← List.append_cons]

/-- A bare name ends before the first character that is not part of names. -/
theorem scan_bare (hname : name.all isNameChar = true)
    (hrest : rest.head?.any isNameChar = false) :
    scan (.bare before) (name ++ rest) = .reference (before ++ name) :: scan .text rest := by
  induction name generalizing before with
  | nil =>
    rw [List.nil_append, List.append_nil]
    cases rest with
    | nil => rfl
    | cons c others =>
      have hc : isNameChar c = false := hrest
      -- a dollar sign behind the name starts the next part
      by_cases hdollar : c = '$'
      · simp only [scan, hdollar, if_true]
        rfl
      · simp only [scan, hc, hdollar, if_false, Bool.false_eq_true]
  | cons c others ih =>
    rw [List.all_cons, Bool.and_eq_true] at hname
    obtain ⟨hc, hothers⟩ := hname
    rw [List.cons_append, scan, if_pos hc, ih hothers, ← List.append_cons]

theorem scan_dollar (h : rest.head?.any (fun c => c == '\x7b' || isNameChar c) = false) :
    scan .dollar rest = .char '$' :: scan .text rest := by
  cases rest with
  | nil => rfl
  | cons c others =>
    obtain ⟨hbrace, hc⟩ := Bool.or_eq_false_iff.mp h
    rw [beq_eq_false_iff_ne] at hbrace
    by_cases hdollar : c = '$'
    · subst hdollar
      rfl
    · simp only [scan, hbrace, hc, hdollar, if_false, Bool.false_eq_true]

/-- The reader gives a part where it may stand, and goes on behind it. -/
theorem scan_part (h : part.Fits rest) :
    scan .text (part.written ++ rest) = part.pieces ++ scan .text rest := by
  cases part with
  | plain run => exact scan_plain h
  | braced name =>
    have hwritten : (Part.braced name).written ++ rest =
        '$' :: '\x7b' :: (name ++ '\x7d' :: rest) := by
      simp only [Part.written, List.cons_append, List.append_assoc, List.nil_append]
    rw [hwritten]
    exact scan_braced h
  | bare name =>
    obtain ⟨hne, hname, hrest⟩ := h
    obtain ⟨c, others, rfl⟩ := List.exists_cons_of_ne_nil hne
    rw [List.all_cons, Bool.and_eq_true] at hname
    obtain ⟨hc, hothers⟩ := hname
    -- the name is not empty, so its first character decides against a brace
    have hstart : scan .dollar (c :: (others ++ rest)) = scan (.bare [c]) (others ++ rest) := by
      rw [scan, if_neg (ne_brace_of_isNameChar hc), if_pos hc]
    exact hstart.trans (scan_bare hothers hrest)
  | dollar => exact scan_dollar h

theorem scan_written (h : Fitting parts) :
    scan .text (written parts) = parts.flatMap Part.pieces := by
  induction parts with
  | nil => rfl
  | cons part rest ih =>
    obtain ⟨hpart, hrest⟩ := h
    rw [List.flatMap_cons, ← ih hrest]
    exact scan_part hpart

/-! ## Putting values in -/

variable {vars : Variables}

/-- The value of a variable, if it is set. -/
def value? (vars : Variables) (name : String) : Option String := vars.reverse.lookup name

/-- A variable has no value. -/
def isUnset (vars : Variables) (name : String) : Bool := (vars.value? name).isNone

/-- What a reference stands for. That of a variable that is not set stands for nothing. -/
def inserted (vars : Variables) (name : List Char) : List Char :=
  ((vars.value? (String.ofList name)).getD "").toList

/-- What a part stands for. -/
def Part.meaning (vars : Variables) : Part → List Char
  | plain run => run
  | braced name | bare name => vars.inserted name
  | dollar => ['$']

namespace Piece

/-- The variable that a piece refers to. -/
def reference? : Piece → Option String
  | char _ => none
  | reference name => some (String.ofList name)

/-- What a piece stands for. -/
def meaning (vars : Variables) : Piece → List Char
  | char c => [c]
  | reference name => vars.inserted name

end Piece

theorem Part.filterMap_pieces (part : Part) :
    part.pieces.filterMap Piece.reference? = part.reference?.toList := by
  cases part with
  | plain run => simp [pieces, reference?, Piece.reference?, Function.comp_def]
  | braced name => rfl
  | bare name => rfl
  | dollar => rfl

theorem Part.flatMap_pieces (part : Part) :
    part.pieces.flatMap (Piece.meaning vars) = part.meaning vars := by
  cases part with
  | plain run => simp [pieces, meaning, Piece.meaning, List.flatMap_map]
  | braced name => exact List.append_nil _
  | bare name => exact List.append_nil _
  | dollar => rfl

/-- The parts of a text refer to the variables that its pieces refer to. -/
theorem filterMap_pieces (parts : List Part) :
    (parts.flatMap Part.pieces).filterMap Piece.reference? = references parts := by
  induction parts with
  | nil => rfl
  | cons part rest ih =>
    rw [List.flatMap_cons, List.filterMap_append, ih, Part.filterMap_pieces, references,
      references, List.filterMap_cons]
    cases part.reference? <;> rfl

theorem flatMap_pieces (parts : List Part) :
    (parts.flatMap Part.pieces).flatMap (Piece.meaning vars) =
      parts.flatMap (Part.meaning vars) := by
  rw [List.flatMap_assoc]
  exact congrArg (parts.flatMap ·) (funext Part.flatMap_pieces)

/-- Pieces are put together one after the other, up to the first reference without a value. -/
theorem substitute_eq (pieces : List Piece) :
    substitute vars pieces =
      match (pieces.filterMap Piece.reference?).find? vars.isUnset with
      | some name => .error (.missingVariable name)
      | none => .ok (pieces.flatMap (Piece.meaning vars)) := by
  induction pieces with
  | nil => rfl
  | cons piece rest ih =>
    cases piece with
    | char c =>
      rw [substitute, ih, List.filterMap_cons_none rfl, List.flatMap_cons]
      cases (rest.filterMap Piece.reference?).find? vars.isUnset <;> rfl
    | reference name =>
      have hreferences : (Piece.reference name :: rest).filterMap Piece.reference? =
          String.ofList name :: rest.filterMap Piece.reference? := rfl
      rw [substitute, ih, hreferences, List.flatMap_cons, value]
      cases hvalue : vars.reverse.lookup (String.ofList name) with
      | none =>
        -- whatever the rest comes to, this reference is the first one without a value
        have hunset : vars.isUnset (String.ofList name) = true := by
          rw [isUnset, value?, hvalue]
          rfl
        rw [List.find?_cons_of_pos hunset]
        rfl
      | some v =>
        have hset : ¬ vars.isUnset (String.ofList name) = true := by
          rw [isUnset, value?, hvalue]
          exact Bool.false_ne_true
        have hmeaning : (Piece.reference name).meaning vars = v.toList := by
          rw [Piece.meaning, inserted, value?, hvalue]
          rfl
        rw [List.find?_cons_of_neg hset, hmeaning]
        cases (rest.filterMap Piece.reference?).find? vars.isUnset <;> rfl

/-- A text that is put together from parts that fit expands to what they stand for, in order; the
values of variables are not looked at again. Where variables are not set the first of them that
the text refers to is reported. -/
theorem expand_follows_grammar (vars : Variables) (parts : List Part) (h : Fitting parts) :
    vars.expand (String.ofList (written parts)) =
      match (references parts).find? vars.isUnset with
      | some name => .error (.missingVariable name)
      | none => .ok (String.ofList (parts.flatMap (Part.meaning vars))) := by
  rw [expand, String.toList_ofList, scan_written h, substitute_eq, filterMap_pieces, flatMap_pieces]
  cases (references parts).find? vars.isUnset <;> rfl

/-- References side by side, a lone dollar sign between them. -/
def adjacentReferences : List Part :=
  [.bare "user".toList, .braced "host".toList, .dollar, .plain " 5".toList, .bare "port_1".toList]

/-- A value that looks like a reference, and variables that are not set. -/
theorem expand_follows_grammar_of_adjacent :
    Fitting adjacentReferences ∧
    expand [("user", "$host"), ("host", "db"), ("port_1", "")] "$user$\x7bhost\x7d$ 5$port_1" =
      .ok "$hostdb$ 5" ∧
    expand [("user", "$host")] "$user$\x7bhost\x7d$ 5$port_1" =
      .error (.missingVariable "host") := by
  have hfits : Fitting adjacentReferences := by decide
  have htext : String.ofList (written adjacentReferences) = "$user$\x7bhost\x7d$ 5$port_1" := rfl
  rw [← htext]
  exact ⟨hfits, (expand_follows_grammar _ _ hfits).trans rfl,
    (expand_follows_grammar _ _ hfits).trans rfl⟩

end SqlCompose.Variables
