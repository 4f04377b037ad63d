import SqlCompose.Proofs.Placeholder
import SqlCompose.Proofs.Transparency

/-!
# SqlCompose.Proofs.Ledger -- the parameters that all scopes of a statement share

From whatever scope a parameter is added, it gets the next place of one sequence,
and its placeholder is the number of that place. A placeholder is read back as the
number it was written for and nothing else is read as one, so looking up a name
finds what was added under it. When the last number is taken nothing more is added.
-/

namespace SqlCompose

/-! ## Digits that stand for the same number -/

namespace Text

theorem decimalValue_lt {c : Char} (h : isDecimalDigit c = true) : decimalValue c < 10 := by
  simp only [isDecimalDigit, Bool.and_eq_true, decide_eq_true_eq] at h
  unfold decimalValue
  omega

theorem decimalValue_inj {a b : Char} (ha : isDecimalDigit a = true) (hb : isDecimalDigit b = true)
    (h : decimalValue a = decimalValue b) : a = b := by
  simp only [isDecimalDigit, Bool.and_eq_true, decide_eq_true_eq] at ha hb
  unfold decimalValue at h
  apply Char.toNat_inj.mp
  omega

/-- Digits after others stand for a number that they could not reach without a carry. -/
theorem digitsValue_lt {cs : List Char} (h : ∀ c ∈ cs, isDecimalDigit c = true) (acc : Nat) :
    digitsValue acc cs < (acc + 1) * Nat.pow 10 cs.length := by
  induction cs generalizing acc with
  | nil =>
    show acc < (acc + 1) * 1
    omega
  | cons c rest ih =>
    simp only [List.mem_cons, forall_eq_or_imp] at h
    have hc := decimalValue_lt h.1
    have hle : 10 * acc + decimalValue c + 1 ≤ (acc + 1) * 10 := by omega
    have hpow : Nat.pow 10 (c :: rest).length = 10 * Nat.pow 10 rest.length := Nat.mul_comm _ _
    rw [hpow, ← Nat.mul_assoc]
    exact Nat.lt_of_lt_of_le (ih h.2 _) (Nat.mul_le_mul_right (Nat.pow 10 rest.length) hle)

/-- As many digits that stand for the same number are the same, also after other ones. -/
theorem digits_inj {cs cs' : List Char} (h : ∀ c ∈ cs, isDecimalDigit c = true)
    (h' : ∀ c ∈ cs', isDecimalDigit c = true) (hlength : cs.length = cs'.length) {a a' : Nat}
    (hvalue : digitsValue a cs = digitsValue a' cs') : a = a' ∧ cs = cs' := by
  induction cs generalizing cs' a a' with
  | nil =>
    obtain rfl : cs' = [] := List.length_eq_zero_iff.mp hlength.symm
    exact ⟨hvalue, rfl⟩
  | cons c rest ih =>
    cases cs' with
    | nil => simp at hlength
    | cons c' rest' =>
      simp only [List.mem_cons, forall_eq_or_imp] at h h'
      obtain ⟨hacc, hrest⟩ := ih h.2 h'.2 (by simpa using hlength) hvalue
      -- a digit is less than ten, so the last one can be told from those before it
      have hc := decimalValue_lt h.1
      have hc' := decimalValue_lt h'.1
      have hsame : decimalValue c = decimalValue c' := by omega
      exact ⟨by omega, by rw [decimalValue_inj h.1 h'.1 hsame, hrest]⟩

end Text

/-! ## Placeholders and their numbers -/

namespace Placeholder

/-- Four digits are the digits of their number. -/
theorem eq_tail_of_number? {cs : List Char} {n : Nat} (h : number? cs = some n) :
    cs = ':' :: tail n ∧ n ≤ maxNumber := by
  unfold number? at h
  split at h
  · rename_i a b c d
    split at h
    · rename_i hall
      rw [Option.some.injEq] at h
      have hdigits : ∀ x ∈ [a, b, c, d], Text.isDecimalDigit x = true := List.all_eq_true.mp hall
      have hbound : n ≤ maxNumber := by
        have hlt : n < (0 + 1) * Nat.pow 10 4 := h ▸ Text.digitsValue_lt hdigits 0
        exact Nat.le_of_lt_succ (Nat.lt_of_lt_of_le hlt (by decide))
      have hlength : (Text.zeroPadded 4 n).length = 4 :=
        Text.length_zeroPadded (by decide) (Nat.lt_of_le_of_lt hbound (by decide))
      have hvalue : Text.digitsValue 0 [a, b, c, d] = Text.digitsValue 0 (Text.zeroPadded 4 n) := by
        rw [h, Text.digitsValue_zeroPadded]
      obtain ⟨_, hsame⟩ := Text.digits_inj hdigits
        (fun x hx => Text.isDecimalDigit_of_mem_zeroPadded hx) hlength.symm hvalue
      refine ⟨?_, hbound⟩
      simp [tail, ← hsame]
    · cases h
  · cases h

/-- A text is read as a number exactly if it is the placeholder of that number. -/
theorem parse_eq_some_iff {text : String} {n : Nat} :
    parse text = some n ↔ text = name n ∧ n ≤ maxNumber := by
  constructor
  · intro h
    obtain ⟨heq, hn⟩ := eq_tail_of_number? h
    refine ⟨String.toList_inj.mp ?_, hn⟩
    rw [heq, name_toList]
  · rintro ⟨rfl, hn⟩
    unfold parse
    rw [name_toList, number?_name hn]

end Placeholder

/-! ## The accumulator -/

namespace Accumulator

variable {a b : Accumulator} {p : Parameter} {name : String}

theorem mem_named : (name, p) ∈ a.named ↔
    ∃ i, a.entries[i]? = some p ∧ name = Placeholder.name (i + 1) := by
  unfold named
  constructor
  · intro h
    obtain ⟨⟨q, i⟩, hmem, heq⟩ := List.mem_map.mp h
    obtain ⟨rfl, rfl⟩ := Prod.mk.injEq .. ▸ heq
    rw [List.mem_zipIdx_iff_getElem?, Array.getElem?_toList] at hmem
    exact ⟨i, hmem, rfl⟩
  · rintro ⟨i, hi, rfl⟩
    refine List.mem_map.mpr ⟨(p, i), ?_, rfl⟩
    rw [List.mem_zipIdx_iff_getElem?, Array.getElem?_toList]
    exact hi

theorem length_named (a : Accumulator) : a.named.length = a.size := by
  simp [named, size]

/-- A name finds a parameter exactly if they are listed together. -/
theorem get?_eq_some_iff (hsize : a.size ≤ Placeholder.maxNumber) :
    a.get? name = some p ↔ (name, p) ∈ a.named := by
  rw [mem_named]
  unfold get?
  constructor
  · intro h
    obtain ⟨n, hn, hp⟩ := Option.bind_eq_some_iff.mp h
    obtain ⟨rfl, _⟩ := Placeholder.parse_eq_some_iff.mp hn
    cases n with
    | zero => simp [numbered?] at hp
    | succ i => exact ⟨i, hp, rfl⟩
  · rintro ⟨i, hi, rfl⟩
    obtain ⟨hlt, _⟩ := Array.getElem?_eq_some_iff.mp hi
    have hroom : i + 1 ≤ Placeholder.maxNumber := Nat.le_trans hlt hsize
    rw [Placeholder.parse_eq_some_iff.mpr ⟨rfl, hroom⟩]
    exact hi

/-- An added parameter is listed last, under the next number. -/
theorem named_of_add (h : a.add p = .ok (name, b)) :
    name = Placeholder.name (a.size + 1) ∧ b.named = a.named ++ [(name, p)] ∧
      b.size ≤ Placeholder.maxNumber := by
  unfold add at h
  split at h
  · rename_i hroom
    obtain ⟨rfl, rfl⟩ := Prod.mk.injEq .. ▸ Except.ok.inj h
    refine ⟨rfl, ?_, ?_⟩
    · simp [named, size, List.zipIdx_append]
    · simp only [size, Array.size_push] at hroom ⊢
      omega
  · cases h

end Accumulator

/-! ## Adding from a scope of a tree -/

namespace Compose

/-- The parameter that a placeholder names. -/
def findParameter (name : String) : Compose (Option Parameter) := fun _ s =>
  (.ok (s.parameters.get? name), s)

/-- All parameters with their placeholders. -/
def listParameters : Compose (List (String × Parameter)) := fun _ s => (.ok s.parameters.named, s)

end Compose

namespace ScopeTree

open Compose

variable {α : Type} {t t' : ScopeTree} {n : Nat} {p : Parameter} {name : String}
  {streams streams' : StreamStore} {ledger : List (String × Parameter)} {ctx : Context}

/-- A run that only looks at the parameters changes nothing. -/
theorem run_of_reading {x : Compose α} {f : Accumulator → α}
    (h : ∀ ctx s, x ctx s = (.ok (f s.parameters), s)) (n : Nat) (streams : StreamStore) :
    t.run n x streams = (.ok (f t.parameters), t, streams) := by
  have hrun := h (t.contextAt n) (t.sessionAt n streams)
  show ((x (t.contextAt n) (t.sessionAt n streams)).1, { t with
    nodes := t.nodes.modify n fun node =>
      { node with scope := (x (t.contextAt n) (t.sessionAt n streams)).2.scope }
    parameters := (x (t.contextAt n) (t.sessionAt n streams)).2.parameters },
    (x (t.contextAt n) (t.sessionAt n streams)).2.streams) = _
  rw [hrun, modify_sessionAt]
  rfl

/-- From whatever scope a parameter is added, it goes to the one accumulator of the tree. -/
theorem run_addParameter (t : ScopeTree) (n : Nat) (p : Parameter) (streams : StreamStore) :
    t.run n (addParameter p) streams = match t.parameters.add p with
      | .ok (name, parameters) => (.ok name, { t with parameters := parameters }, streams)
      | .error e => (.error e, t, streams) := by
  have hrun : addParameter p (t.contextAt n) (t.sessionAt n streams) =
      match t.parameters.add p with
      | .ok (name, parameters) =>
        (.ok name, { t.sessionAt n streams with parameters := parameters })
      | .error e => (.error e, t.sessionAt n streams) := rfl
  show ((addParameter p (t.contextAt n) (t.sessionAt n streams)).1, { t with
    nodes := t.nodes.modify n fun node =>
      { node with scope := (addParameter p (t.contextAt n) (t.sessionAt n streams)).2.scope }
    parameters := (addParameter p (t.contextAt n) (t.sessionAt n streams)).2.parameters },
    (addParameter p (t.contextAt n) (t.sessionAt n streams)).2.streams) = _
  rw [hrun]
  cases t.parameters.add p with
  | error e => simp only [modify_sessionAt]; rfl
  | ok added => simp only [modify_sessionAt]; rfl

/-! ## Trees that collect parameters -/

/-- A tree collects parameters: scopes are opened inside one another, parameters are
added from any of them, and what runs between leaves the parameters alone. The ledger
lists the names that additions gave, each with its parameter, in order. -/
inductive Collects (ctx : Context) : ScopeTree → List (String × Parameter) → Prop
  | root : Collects ctx { context := ctx } []
  | query {t : ScopeTree} {ledger : List (String × Parameter)} (n : Nat) :
      Collects ctx t ledger → n < t.nodes.size → Collects ctx (t.openQuery n) ledger
  | statement {t : ScopeTree} {ledger : List (String × Parameter)} (n : Nat)
      (target : RelationalTarget) :
      Collects ctx t ledger → n < t.nodes.size → Collects ctx (t.openStatement n target) ledger
  | added {t t' : ScopeTree} {ledger : List (String × Parameter)} (n : Nat) (p : Parameter)
      (streams : StreamStore) {streams' : StreamStore} {name : String} :
      Collects ctx t ledger → n < t.nodes.size →
        t.run n (addParameter p) streams = (.ok name, t', streams') →
          Collects ctx t' (ledger ++ [(name, p)])
  | refused {t t' : ScopeTree} {ledger : List (String × Parameter)} (n : Nat) (p : Parameter)
      (streams : StreamStore) {streams' : StreamStore} {e : SqlError} :
      Collects ctx t ledger → n < t.nodes.size →
        t.run n (addParameter p) streams = (.error e, t', streams') → Collects ctx t' ledger
  /-- A look-up, for example, or an alias that is handed out. -/
  | between {α : Type} {t t' : ScopeTree} {ledger : List (String × Parameter)} (n : Nat)
      (x : Compose α) (streams : StreamStore) {streams' : StreamStore} {r : Except SqlError α} :
      Collects ctx t ledger → n < t.nodes.size → t.run n x streams = (r, t', streams') →
        t'.parameters = t.parameters → Collects ctx t' ledger

/-- What every step keeps: the accumulator lists what the ledger lists. -/
structure Agrees (a : Accumulator) (ledger : List (String × Parameter)) : Prop where
  named : a.named = ledger
  size_le : a.size ≤ Placeholder.maxNumber

/-- An addition that is made is entered in the ledger under the next number. -/
theorem Agrees.added (h : Agrees t.parameters ledger)
    (hrun : t.run n (addParameter p) streams = (.ok name, t', streams')) :
    Agrees t'.parameters (ledger ++ [(name, p)]) := by
  rw [run_addParameter] at hrun
  cases hadd : t.parameters.add p with
  | error e => simp [hadd] at hrun
  | ok added =>
    obtain ⟨given, parameters⟩ := added
    simp only [hadd, Prod.mk.injEq, Except.ok.injEq] at hrun
    obtain ⟨rfl, rfl, _⟩ := hrun
    obtain ⟨_, hnamed, hsize⟩ := Accumulator.named_of_add hadd
    exact ⟨by rw [hnamed, h.named], hsize⟩

/-- An addition that is refused leaves the tree as it was. -/
theorem eq_of_refused {e : SqlError}
    (hrun : t.run n (addParameter p) streams = (.error e, t', streams')) : t' = t := by
  rw [run_addParameter] at hrun
  cases hadd : t.parameters.add p with
  | error fault =>
    simp only [hadd, Prod.mk.injEq] at hrun
    exact hrun.2.1.symm
  | ok added => simp [hadd] at hrun

/-- In every run the accumulator agrees with the ledger. -/
theorem Collects.agrees (h : Collects ctx t ledger) : Agrees t.parameters ledger := by
  induction h with
  | root => exact ⟨rfl, Nat.zero_le _⟩
  | query n _ _ ih => exact ih
  | statement n target _ _ ih => exact ih
  | added n p streams _ _ hrun ih => exact ih.added hrun
  | refused n p streams _ _ hrun ih => rwa [eq_of_refused hrun]
  | between n x streams _ _ _ hsame ih => rwa [hsame]

/-- However a tree of scopes collects parameters, they form one sequence. The names
that additions gave are the placeholders of the numbers from one on. Seen from any
scope, a name finds the parameter that was added under it and no other name finds one,
and the parameters are listed as they were added. A further one gets the next number
from any scope while there is one; after that it is refused and nothing changes. -/
theorem Collects.one_sequence (h : Collects ctx t ledger) :
    (∀ k name p, ledger[k]? = some (name, p) → name = Placeholder.name (k + 1)) ∧
    (∀ n streams, t.run n listParameters streams = (.ok ledger, t, streams)) ∧
    (∀ n streams name, ∃ found, t.run n (findParameter name) streams = (.ok found, t, streams) ∧
      ∀ p, found = some p ↔ (name, p) ∈ ledger) ∧
    ∀ n p streams,
      (ledger.length < Placeholder.maxNumber → ∃ t',
        t.run n (addParameter p) streams =
            (.ok (Placeholder.name (ledger.length + 1)), t', streams) ∧
          t'.nodes = t.nodes ∧ t'.context = t.context ∧
          t'.parameters.named = ledger ++ [(Placeholder.name (ledger.length + 1), p)]) ∧
      (Placeholder.maxNumber ≤ ledger.length →
        t.run n (addParameter p) streams =
          (.error (.preparation (.tooMany Placeholder.maxNumber)), t, streams)) := by
  -- the ledger is what the accumulator names, which all scopes of the tree share
  obtain ⟨rfl, hsize⟩ := h.agrees
  refine ⟨?_, ?_, ?_, ?_⟩
  · intro k name p hk
    simp only [Accumulator.named, List.getElem?_map, List.getElem?_zipIdx] at hk
    obtain ⟨⟨q, i⟩, hqi, heq⟩ := Option.map_eq_some_iff.mp hk
    obtain ⟨q', _, hq'⟩ := Option.map_eq_some_iff.mp hqi
    simp only [Prod.mk.injEq, Nat.zero_add] at heq hq'
    rw [← heq.1, ← hq'.2]
  · intro n streams
    exact run_of_reading (x := listParameters) (f := Accumulator.named) (fun _ _ => rfl) n streams
  · intro n streams name
    have hrun := run_of_reading (t := t) (x := findParameter name) (f := fun a => a.get? name)
      (fun _ _ => rfl) n streams
    exact ⟨_, hrun, fun p => Accumulator.get?_eq_some_iff hsize⟩
  · intro n p streams
    rw [Accumulator.length_named, run_addParameter]
    constructor
    · intro hroom
      have hadd : t.parameters.add p =
          .ok (Placeholder.name (t.parameters.size + 1), ⟨t.parameters.entries.push p⟩) :=
        if_pos hroom
      obtain ⟨_, hnamed, _⟩ := Accumulator.named_of_add hadd
      simp only [hadd]
      exact ⟨_, rfl, rfl, rfl, hnamed⟩
    · intro hfull
      have hadd : t.parameters.add p = .error (.preparation (.tooMany Placeholder.maxNumber)) :=
        if_neg (Nat.not_lt.mpr hfull)
      simp only [hadd]

theorem Collects.one_sequence_of_nested :
    ∃ t ledger, Collects (Compiler.ansi .auto).context t ledger ∧
      ledger = [(":[0001]", .ofValue (.string "Ada")), (":[0002]", .ofValue (.string "Bob"))] ∧
      t.run 1 listParameters {} = (.ok ledger, t, {}) ∧
      t.run 2 (findParameter ":[0001]") {} = (.ok (some (.ofValue (.string "Ada"))), t, {}) ∧
      t.run 0 (findParameter ":[1]") {} = (.ok none, t, {}) ∧
      ∃ t', t.run 1 (addParameter (.ofValue .null)) {} = (.ok ":[0003]", t', {}) := by
  have houter : Collects (Compiler.ansi .auto).context _ [(":[0001]", .ofValue (.string "Ada"))] :=
    Collects.root.added 0 (.ofValue (.string "Ada")) {} (by decide) rfl
  have hquery := houter.query 0 (by decide)
  have hinner := hquery.statement 1 ⟨none, "department", none, [], none⟩ (by decide)
  have hlooked := hinner.between 1 (findParameter ":[0002]") {} (by decide) rfl rfl
  have hlast : Collects (Compiler.ansi .auto).context _
      [(":[0001]", .ofValue (.string "Ada")), (":[0002]", .ofValue (.string "Bob"))] :=
    hlooked.added 2 (.ofValue (.string "Bob")) {} (by decide) rfl
  obtain ⟨_, hlist, hfind, hadd⟩ := hlast.one_sequence
  obtain ⟨found, hrun, hfound⟩ := hfind 2 {} ":[0001]"
  obtain ⟨missed, hrun', hmissed⟩ := hfind 0 {} ":[1]"
  obtain ⟨t', hnext, _⟩ := (hadd 1 (.ofValue .null) {}).1 (by decide)
  refine ⟨_, _, hlast, rfl, hlist 1 {}, ?_, ?_, t', hnext⟩
  · rw [(hfound _).mpr List.mem_cons_self] at hrun
    exact hrun
  · have hnone : missed = none := by
      rw [Option.eq_none_iff_forall_ne_some]
      intro p hp
      simpa using (hmissed p).mp hp
    rw [hnone] at hrun'
    exact hrun'

end ScopeTree

end SqlCompose
