import SqlCompose.Dialect.Basic

/-!
# SqlCompose.Proofs.Initialization -- a dialect learns once

A dialect asks databases to describe themselves until the first one does. What that one
reports is frozen: no later call asks again, and every call gives the same capabilities,
each of them the one that the report names. A call that fails leaves the dialect as it was.
-/

namespace SqlCompose

/-! ## What a report says -/

/-- The capabilities of a database are those that it reported. Names are stored in the case that
the report claims; of two claims the one for upper case counts. -/
structure DatabaseInfo.Reflects (info : DatabaseInfo) (m : DatabaseMetadata) : Prop where
  product : info.product = m.product
  major : info.major = m.major
  minor : info.minor = m.minor
  generatedKeys : info.generatedKeys = m.generatedKeys
  alwaysReturned : info.alwaysReturned = m.alwaysReturned
  likeEscape : info.likeEscape = m.likeEscape
  upper : info.identifierCase = .upper ↔ m.storesUpper = true
  lower : info.identifierCase = .lower ↔ m.storesUpper = false ∧ m.storesLower = true

/-- One set of capabilities reflects a report, and it is the one that is derived from it. -/
theorem DatabaseInfo.reflects_iff {info : DatabaseInfo} {m : DatabaseMetadata} :
    info.Reflects m ↔ info = .ofMetadata m := by
  constructor
  · rintro ⟨hproduct, hmajor, hminor, hkeys, halways, hescape, hupper, hlower⟩
    obtain ⟨product, major, minor, keys, always, escape, case⟩ := info
    unfold ofMetadata
    cases case <;> cases hu : m.storesUpper <;> cases hl : m.storesLower <;> simp_all
  · rintro rfl
    unfold ofMetadata
    constructor <;> cases m.storesUpper <;> cases m.storesLower <;> simp

namespace Dialect

/-- What it comes to when databases are asked one after the other. -/
def inits : Dialect → List (Except String DatabaseMetadata) → List InitOutcome
  | _, [] => []
  | d, lookup :: rest => d.init lookup :: inits (d.init lookup).dialect rest

/-- The dialect once these databases have been asked. -/
def afterInits (d : Dialect) (lookups : List (Except String DatabaseMetadata)) : Dialect :=
  lookups.foldl (fun d lookup => (d.init lookup).dialect) d

/-- What the first database reported that described itself. -/
def firstReport (lookups : List (Except String DatabaseMetadata)) : Option DatabaseMetadata :=
  lookups.findSome? Except.toOption

variable {d : Dialect} {info : DatabaseInfo}

/-! ## One call -/

/-- A dialect that knows its database asks nobody. -/
theorem init_of_known (h : d.known = some info) (lookup : Except String DatabaseMetadata) :
    d.init lookup = ⟨.ok info, d, 0⟩ := by
  unfold init
  rw [h]

/-- A dialect that does not know it yet borrows a connection and asks. -/
theorem init_of_unknown (h : d.known = none) (lookup : Except String DatabaseMetadata) :
    d.init lookup = match lookup with
      | .ok metadata =>
        ⟨.ok (.ofMetadata metadata), withInfo d.kind (.ofMetadata metadata), 1⟩
      | .error message => ⟨.error (.dialectInit message), d, 1⟩ := by
  unfold init
  rw [h]
  cases lookup <;> rfl

/-- A call adds what was reported, unless something is known already. -/
theorem dialect_init (d : Dialect) (lookup : Except String DatabaseMetadata) :
    (d.init lookup).dialect =
      { d with known := d.known.or (lookup.toOption.map DatabaseInfo.ofMetadata) } := by
  obtain ⟨kind, known⟩ := d
  cases known with
  | some info => rw [init_of_known rfl, Option.some_or]
  | none =>
    rw [init_of_unknown rfl]
    cases lookup <;> rfl

/-! ## Several calls -/

/-- Of several reports the first one stays. -/
theorem afterInits_eq (d : Dialect) (lookups : List (Except String DatabaseMetadata)) :
    d.afterInits lookups =
      { d with known := d.known.or ((firstReport lookups).map DatabaseInfo.ofMetadata) } := by
  induction lookups generalizing d with
  | nil =>
    show d = { d with known := d.known.or none }
    rw [Option.or_none]
  | cons lookup rest ih =>
    show (d.init lookup).dialect.afterInits rest = _
    rw [ih, dialect_init, Option.or_assoc]
    cases lookup <;> rfl

/-- Each call of a sequence starts where the calls before it have led. -/
theorem getElem?_inits (d : Dialect) (before : List (Except String DatabaseMetadata))
    (lookup : Except String DatabaseMetadata) (after : List (Except String DatabaseMetadata)) :
    (d.inits (before ++ lookup :: after))[before.length]? =
      some ((d.afterInits before).init lookup) := by
  induction before generalizing d with
  | nil => rfl
  | cons first rest ih => exact ih (d.init first).dialect

/-- Until a database has described itself every call asks one, and a call that fails says why and
changes nothing. From then on no call asks, and all of them give the capabilities that were
reported first, whatever other databases report. A dialect that was made for a known database never
asks. -/
theorem initialized_once (kind : DialectKind) (before : List (Except String DatabaseMetadata))
    (lookup : Except String DatabaseMetadata) (after : List (Except String DatabaseMetadata)) :
    (∃ outcome, ((new kind).inits (before ++ lookup :: after))[before.length]? = some outcome ∧
      match firstReport before with
      | none => ((new kind).afterInits before).info = kind.vendor.defaultInfo ∧
        outcome.connections = 1 ∧
        match lookup with
        | .ok metadata => ∃ info : DatabaseInfo, info.Reflects metadata ∧
          outcome.result = .ok info ∧ outcome.dialect.info = info
        | .error message => outcome.result = .error (.dialectInit message) ∧
          outcome.dialect = (new kind).afterInits before
      | some metadata => ∃ info : DatabaseInfo, info.Reflects metadata ∧
        ((new kind).afterInits before).info = info ∧ outcome.connections = 0 ∧
          outcome.result = .ok info ∧ outcome.dialect = (new kind).afterInits before) ∧
    ∀ info, ∃ outcome,
      ((withInfo kind info).inits (before ++ lookup :: after))[before.length]? = some outcome ∧
        outcome.connections = 0 ∧ outcome.result = .ok info ∧
          outcome.dialect = withInfo kind info ∧ outcome.dialect.info = info := by
  refine ⟨⟨_, getElem?_inits _ before lookup after, ?_⟩, fun info =>
    ⟨_, getElem?_inits _ before lookup after, ?_⟩⟩
  · rw [afterInits_eq]
    -- whether this one connects depends on what the earlier ones were told
    cases hreport : firstReport before with
    | none =>
      rw [init_of_unknown rfl]
      cases lookup with
      | ok metadata => exact ⟨rfl, rfl, _, DatabaseInfo.reflects_iff.mpr rfl, rfl, rfl⟩
      | error message => exact ⟨rfl, rfl, rfl, rfl⟩
    | some metadata =>
      rw [init_of_known rfl]
      exact ⟨_, DatabaseInfo.reflects_iff.mpr rfl, rfl, rfl, rfl, rfl⟩
  · rw [afterInits_eq, init_of_known rfl]
    exact ⟨rfl, rfl, rfl, rfl⟩

end Dialect

end SqlCompose
