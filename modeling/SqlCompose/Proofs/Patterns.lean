import Mathlib.Data.List.Infix
import SqlCompose.Sql.Like

/-!
# SqlCompose.Proofs.Patterns -- a match looks for the searched text and nothing else

A database reads a pattern part by part: a part stands for one given character, for
any character, or for any run of characters. Every character of a searched text
that would mean something is escaped. So it is read as itself, the only wildcards
are those of the mode, and the pattern matches the texts in which the searched one
stands where the mode has it.
-/

namespace SqlCompose

/-! ## How a database reads a pattern -/

/-- What a part of a pattern stands for. -/
inductive Like.Part where
  | char (c : Char)
  /-- Any one character. -/
  | any
  /-- Any run of characters, even none. -/
  | run
  deriving DecidableEq, Repr

namespace Like

/-- What a character stands for that was not escaped. -/
def Part.ofChar (c : Char) : Part :=
  if c = '%' then .run else if c = '_' then .any else .char c

/-- The parts of a pattern. The escape character takes the meaning from the one after
it, so a pattern that ends with it cannot be read. -/
def readParts? (escape : Char) : List Char → Option (List Part)
  | [] => some []
  | [c] => if c = escape then none else some [.ofChar c]
  | c :: d :: rest =>
    if c = escape then (readParts? escape rest).map (Part.char d :: ·)
    else (readParts? escape (d :: rest)).map (Part.ofChar c :: ·)

/-- A text matches the parts of a pattern. A run of characters is tried at every length. -/
def accepts : List Part → List Char → Bool
  | [], s => s.isEmpty
  | .char c :: rest, s =>
    match s with
    | [] => false
    | d :: s => d == c && accepts rest s
  | .any :: rest, s =>
    match s with
    | [] => false
    | _ :: s => accepts rest s
  | .run :: rest, s => s.tails.any (accepts rest)

/-! ## Matching -/

theorem accepts_run {parts : List Part} {s : List Char} :
    accepts (.run :: parts) s = true ↔ ∃ t, t <:+ s ∧ accepts parts t = true := by
  rw [accepts, List.any_eq_true]
  simp only [List.mem_tails]

/-- After a last run everything matches. -/
theorem accepts_any_run (s : List Char) : accepts [.run] s = true :=
  accepts_run.mpr ⟨[], List.nil_suffix, rfl⟩

/-- Given characters match those texts that start with them. -/
theorem accepts_chars {parts : List Part} {v s : List Char} :
    accepts (v.map .char ++ parts) s = true ↔ ∃ t, s = v ++ t ∧ accepts parts t = true := by
  induction v generalizing s with
  | nil => simp
  | cons c v ih =>
    cases s with
    | nil => simp [accepts]
    | cons d s =>
      simp only [List.map_cons, List.cons_append, accepts, Bool.and_eq_true, beq_iff_eq, ih,
        List.cons.injEq]
      constructor
      · rintro ⟨hd, t, hs, ht⟩
        exact ⟨t, ⟨hd, hs⟩, ht⟩
      · rintro ⟨t, ⟨hd, hs⟩, ht⟩
        exact ⟨hd, t, hs, ht⟩

theorem accepts_only_chars {v s : List Char} : accepts (v.map .char) s = true ↔ s = v := by
  rw [← List.append_nil (v.map Part.char), accepts_chars]
  simp [accepts]

/-! ## Reading -/

/-- A character that does not escape is read by itself. -/
theorem readParts?_cons {escape c : Char} (h : c ≠ escape) (rest : List Char) :
    readParts? escape (c :: rest) = (readParts? escape rest).map (Part.ofChar c :: ·) := by
  cases rest with
  | nil => simp [readParts?, h]
  | cons d rest => simp [readParts?, h]

/-- An escaped text is read as its own characters. No escape of it is left over for
what stands behind it. -/
theorem readParts?_escapeText (v : String) (rest : List Char) :
    readParts? escapeChar ((escapeText v).toList ++ rest) =
      (readParts? escapeChar rest).map (v.toList.map .char ++ ·) := by
  rw [escapeText, String.toList_ofList]
  induction v.toList with
  | nil => simp
  | cons c v ih =>
    rw [List.flatMap_cons, List.append_assoc]
    cases hreserved : isReserved c with
    | true =>
      show readParts? escapeChar (escapeChar :: c :: (v.flatMap _ ++ rest)) = _
      rw [readParts?, if_pos rfl, ih, Option.map_map]
      rfl
    | false =>
      -- a character that is not escaped is neither a wildcard nor the escape character
      simp only [isReserved, Bool.or_eq_false_iff, beq_eq_false_iff_ne] at hreserved
      obtain ⟨⟨⟨hescape, hrun⟩, hany⟩, _⟩ := hreserved
      show readParts? escapeChar (c :: (v.flatMap _ ++ rest)) = _
      have hc : Part.ofChar c = .char c := by rw [Part.ofChar, if_neg hrun, if_neg hany]
      rw [readParts?_cons hescape, ih, Option.map_map, hc]
      rfl

end Like

/-! ## Modes -/

namespace MatchMode

open Like

/-- A text is searched for in another one as the mode has it. -/
def Finds (mode : MatchMode) (searched subject : String) : Prop :=
  match mode with
  | .exact => subject = searched
  | .contains => searched.toList <:+: subject.toList
  | .startsWith => searched.toList <+: subject.toList
  | .endsWith => searched.toList <:+ subject.toList

/-- The characters of a text between the wildcards of the mode. -/
def parts (mode : MatchMode) (searched : String) : List Part :=
  let chars := searched.toList.map Part.char
  match mode with
  | .exact => chars
  | .contains => .run :: chars ++ [.run]
  | .startsWith => chars ++ [.run]
  | .endsWith => .run :: chars

theorem readParts?_pattern (mode : MatchMode) (searched : String) :
    readParts? escapeChar (mode.pattern (escapeText searched)).toList =
      some (mode.parts searched) := by
  have hrun : ('%' : Char) ≠ escapeChar := by decide
  have hlast : readParts? escapeChar ['%'] = some [.run] := by decide
  have halone := readParts?_escapeText searched []
  rw [List.append_nil] at halone
  -- an escaped text is read back as itself, whatever stands behind it
  cases mode with
  | exact =>
    have htext : (exact.pattern (escapeText searched)).toList = (escapeText searched).toList := rfl
    rw [htext, halone]
    simp [readParts?, parts]
  | contains =>
    have htext : (contains.pattern (escapeText searched)).toList =
        '%' :: ((escapeText searched).toList ++ ['%']) := by
      simp [pattern]
    rw [htext, readParts?_cons hrun, readParts?_escapeText, hlast]
    rfl
  | startsWith =>
    have htext : (startsWith.pattern (escapeText searched)).toList =
        (escapeText searched).toList ++ ['%'] := by
      simp [pattern]
    rw [htext, readParts?_escapeText, hlast]
    rfl
  | endsWith =>
    have htext : (endsWith.pattern (escapeText searched)).toList =
        '%' :: (escapeText searched).toList := by
      simp [pattern]
    rw [htext, readParts?_cons hrun, halone]
    simp [readParts?, parts, Part.ofChar]

theorem accepts_parts (mode : MatchMode) (searched subject : String) :
    accepts (mode.parts searched) subject.toList = true ↔ mode.Finds searched subject := by
  -- a run in front leaves any suffix to be matched, a run behind takes any rest
  cases mode with
  | exact =>
    show accepts (searched.toList.map .char) subject.toList = true ↔ _
    rw [accepts_only_chars, String.toList_inj]
    rfl
  | contains =>
    show accepts (.run :: (searched.toList.map .char ++ [.run])) subject.toList = true ↔ _
    rw [accepts_run]
    constructor
    · rintro ⟨t, ⟨before, hbefore⟩, ht⟩
      obtain ⟨after, rfl, _⟩ := accepts_chars.mp ht
      exact ⟨before, after, by rw [List.append_assoc, hbefore]⟩
    · rintro ⟨before, after, h⟩
      rw [List.append_assoc] at h
      exact ⟨_, ⟨before, h⟩, accepts_chars.mpr ⟨after, rfl, accepts_any_run after⟩⟩
  | startsWith =>
    show accepts (searched.toList.map .char ++ [.run]) subject.toList = true ↔ _
    rw [accepts_chars]
    constructor
    · rintro ⟨after, h, _⟩
      exact ⟨after, h.symm⟩
    · rintro ⟨after, h⟩
      exact ⟨after, h.symm, accepts_any_run after⟩
  | endsWith =>
    show accepts (.run :: searched.toList.map .char) subject.toList = true ↔ _
    rw [accepts_run]
    constructor
    · rintro ⟨t, hsuffix, ht⟩
      rw [accepts_only_chars] at ht
      rwa [ht] at hsuffix
    · intro h
      exact ⟨searched.toList, h, accepts_only_chars.mpr rfl⟩

/-- The pattern of a searched text is read as the characters of the text between the
wildcards of the mode, so it matches exactly those texts in which the searched one
stands where the mode has it. -/
theorem pattern_finds_searched (mode : MatchMode) (searched subject : String) :
    readParts? '!' (mode.pattern (escapeText searched)).toList = some (mode.parts searched) ∧
      (accepts (mode.parts searched) subject.toList = true ↔ mode.Finds searched subject) :=
  ⟨mode.readParts?_pattern searched, mode.accepts_parts searched subject⟩

/-- An escape at the end of the searched text does not reach the wildcard behind it. -/
example :
    readParts? '!' (MatchMode.startsWith.pattern (escapeText "50%!")).toList =
      some [.char '5', .char '0', .char '%', .char '!', .run] := by
  decide

end MatchMode

end SqlCompose
