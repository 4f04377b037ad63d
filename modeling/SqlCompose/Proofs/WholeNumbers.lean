import SqlCompose.Proofs.ScalarLiterals

/-!
# SqlCompose.Proofs.WholeNumbers -- whole numbers are read exactly or not at all

Numbers, truth values, constants and texts may denote whole numbers. Such a value
is read as one of a fixed width exactly if the number lies in the range of that
width, and what is read denotes the same number. A number out of range, a decimal
with a fraction and a text that writes no number are refused.
-/

namespace SqlCompose

/-! ## Numerals -/

namespace Text

/-- Decimal digits, at least one, write a number. -/
structure Digits (ds : List Char) (n : Nat) : Prop where
  nonempty : ds ≠ []
  digits : ∀ c ∈ ds, isDecimalDigit c = true
  value : Nat.ofDigitChars 10 ds 0 = n

/-- Digits write a whole number, possibly behind a sign. -/
inductive Numeral : List Char → Int → Prop
  | bare {ds : List Char} {n : Nat} : Digits ds n → Numeral ds n
  | plus {ds : List Char} {n : Nat} : Digits ds n → Numeral ('+' :: ds) n
  | minus {ds : List Char} {n : Nat} : Digits ds n → Numeral ('-' :: ds) (-(n : Int))

variable {cs ds : List Char} {n : Nat} {i : Int}

theorem readNat?_eq_some_iff : readNat? ds = some n ↔ Digits ds n := by
  unfold readNat?
  rw [digitsValue_eq_ofDigitChars]
  constructor
  · intro h
    obtain ⟨⟨hne, hall⟩, hvalue⟩ := Option.ite_none_right_eq_some.mp h
    exact ⟨hne, List.all_eq_true.mp hall, Option.some.inj hvalue⟩
  · intro h
    rw [if_pos ⟨h.nonempty, List.all_eq_true.mpr h.digits⟩, h.value]

theorem Digits.eq_cons (h : Digits ds n) :
    ∃ c rest, ds = c :: rest ∧ isDecimalDigit c = true := by
  obtain ⟨c, rest, rfl⟩ := List.exists_cons_of_ne_nil h.nonempty
  exact ⟨c, rest, rfl, h.digits c List.mem_cons_self⟩

/-- The reader takes numerals and nothing else, and gives the number that they write. -/
theorem readInt?_eq_some_iff : readInt? cs = some i ↔ Numeral cs i := by
  constructor
  · intro h
    unfold readInt? at h
    split at h
    · obtain ⟨n, hn, rfl⟩ := Option.map_eq_some_iff.mp h
      exact .plus (readNat?_eq_some_iff.mp hn)
    · obtain ⟨_, hcast, rfl⟩ := Option.map_eq_some_iff.mp h
      obtain ⟨n, hn, hsome⟩ := Option.bind_eq_some_iff.mp hcast
      cases hsome
      exact .minus (readNat?_eq_some_iff.mp hn)
    · obtain ⟨n, hn, rfl⟩ := Option.map_eq_some_iff.mp h
      exact .bare (readNat?_eq_some_iff.mp hn)
  · intro h
    cases h with
    | bare h =>
      obtain ⟨c, rest, rfl, hc⟩ := h.eq_cons
      rw [readInt?_digit hc, readNat?_eq_some_iff.mpr h]
      rfl
    | plus h =>
      rw [readInt?, readNat?_eq_some_iff.mpr h]
      rfl
    | minus h =>
      rw [readInt?, readNat?_eq_some_iff.mpr h]
      rfl

/-! ## Blanks around a text -/

theorem trimmed_between {front body back : List Char} (hfront : ∀ c ∈ front, isBlank c = true)
    (hback : ∀ c ∈ back, isBlank c = true) (hbody : body ≠ []) (hstart : Stops isBlank body)
    (hend : Stops isBlank body.reverse) : trimmed (front ++ (body ++ back)) = body := by
  have hrest : Stops isBlank (body ++ back) := by
    obtain ⟨c, rest, rfl⟩ := List.exists_cons_of_ne_nil hbody
    exact stops_cons (hstart c rfl) _
  have hreverse : ∀ c ∈ back.reverse, isBlank c = true :=
    fun c hc => hback c (List.mem_reverse.mp hc)
  unfold trimmed trimBack trimFront
  rw [hrest.dropWhile_append hfront, List.reverse_append, hend.dropWhile_append hreverse,
    List.reverse_reverse]

/-- What is trimmed off a text are blanks. -/
theorem exists_blanks (cs : List Char) : ∃ front back, cs = front ++ (trimmed cs ++ back) ∧
    (∀ c ∈ front, isBlank c = true) ∧ ∀ c ∈ back, isBlank c = true := by
  have hall : ∀ w : List Char, ∀ c ∈ w.takeWhile isBlank, isBlank c = true :=
    fun w => List.all_eq_true.mp List.all_takeWhile
  refine ⟨cs.takeWhile isBlank, ((trimFront cs).reverse.takeWhile isBlank).reverse, ?_,
    hall cs, fun c hc => hall _ c (List.mem_reverse.mp hc)⟩
  have hback : trimmed cs ++ ((trimFront cs).reverse.takeWhile isBlank).reverse =
      trimFront cs := by
    show ((trimFront cs).reverse.dropWhile isBlank).reverse ++ _ = _
    rw [← List.reverse_append, List.takeWhile_append_dropWhile, List.reverse_reverse]
  rw [hback]
  exact List.takeWhile_append_dropWhile.symm

/-- No blank stands at the start of a numeral, and none at its end. -/
theorem Numeral.edges (h : Numeral cs i) :
    cs ≠ [] ∧ Stops isBlank cs ∧ Stops isBlank cs.reverse := by
  -- the last character is a digit in all three forms
  have hlast : ∀ {ds : List Char} {n : Nat}, Digits ds n → ∀ front : List Char,
      Stops isBlank (front ++ ds).reverse := by
    intro ds n h front
    obtain ⟨c, rest, hlast⟩ := List.exists_cons_of_ne_nil (List.reverse_ne_nil_iff.mpr h.nonempty)
    have hc : c ∈ ds := List.mem_reverse.mp (hlast ▸ List.mem_cons_self)
    rw [List.reverse_append, hlast]
    exact stops_cons (isBlank_of_isDecimalDigit (h.digits c hc)) _
  cases h with
  | bare h =>
    obtain ⟨c, rest, rfl, hc⟩ := h.eq_cons
    exact ⟨h.nonempty, stops_cons (isBlank_of_isDecimalDigit hc) rest, hlast h []⟩
  | plus h => exact ⟨List.cons_ne_nil _ _, stops_cons (by decide) _, hlast h ['+']⟩
  | minus h => exact ⟨List.cons_ne_nil _ _, stops_cons (by decide) _, hlast h ['-']⟩

end Text

/-! ## The number of a value -/

namespace Decimal

open Number (tenTo)

/-- A decimal is a whole number if its mantissa is that number moved by the places. -/
theorem toInt?_eq_some_iff {d : Decimal} {i : Int} :
    d.toInt? = some i ↔ d.signed = i * tenTo d.scale := by
  have hten : (tenTo d.scale : Int) ≠ 0 := by
    have hpos := Number.tenTo_pos d.scale
    omega
  have hwhole : d.isWhole = true ↔ tenTo d.scale ∣ d.mantissa := by
    rw [isWhole, beq_iff_eq, Nat.dvd_iff_mod_eq_zero]
  -- a decimal is its whole part if no digit behind the point differs from zero
  have hvalue : d.isWhole = true →
      d.signed = (if d.negative then -(d.whole : Int) else d.whole) * tenTo d.scale := by
    intro h
    have hmantissa : (d.mantissa : Int) = d.whole * tenTo d.scale := by
      rw [whole, ← Int.natCast_mul, Nat.div_mul_cancel (hwhole.mp h)]
    unfold signed
    split
    · rw [hmantissa, Int.neg_mul]
    · exact hmantissa
  unfold toInt?
  constructor
  · intro h
    obtain ⟨hd, hi⟩ := Option.ite_none_right_eq_some.mp h
    rw [hvalue hd, Option.some.inj hi]
  · intro h
    have hdvd : (tenTo d.scale : Int) ∣ d.mantissa := by
      have hsigned : (tenTo d.scale : Int) ∣ d.signed := ⟨i, by rw [h, Int.mul_comm]⟩
      unfold signed at hsigned
      split at hsigned
      · exact Int.dvd_neg.mp hsigned
      · exact hsigned
    have hd := hwhole.mpr (Int.natCast_dvd_natCast.mp hdvd)
    rw [if_pos hd, Option.some.injEq]
    apply Int.eq_of_mul_eq_mul_right hten
    rw [← hvalue hd, h]

end Decimal

namespace Value

open Number (tenTo)

/-- The whole number that a value denotes. A truth value counts as zero or one, and a constant as
its position. A text denotes a number of 128 bits that it writes, blanks around it apart. -/
inductive Denotes : Value → Int → Prop
  | byte (n : Int8) : Denotes (.byte n) n.toInt
  | short (n : Int16) : Denotes (.short n) n.toInt
  | int (n : Int32) : Denotes (.int n) n.toInt
  | long (n : Int64) : Denotes (.long n) n.toInt
  | bigInt (n : Int128) : Denotes (.bigInt n) n.val
  | no : Denotes (.bool false) 0
  | yes : Denotes (.bool true) 1
  | enum (c : EnumValue) : Denotes (.enum c) c.ordinal
  | decimal {d : Decimal} {i : Int} : d.signed = i * tenTo d.scale → Denotes (.decimal d) i
  | string {s : String} {front numeral back : List Char} {i : Int} :
      s.toList = front ++ (numeral ++ back) → (∀ c ∈ front, Text.isBlank c = true) →
      (∀ c ∈ back, Text.isBlank c = true) → Text.Numeral numeral i → -Int128.bound ≤ i →
      i < Int128.bound → Denotes (.string s) i

variable {v : Value} {i : Int}

/-- A text denotes the number that is read from it once it is trimmed. -/
theorem denotes_string_iff {s : String} :
    Denotes (.string s) i ↔ (Int128.read? (Text.trimmed s.toList)).map Int128.val = some i := by
  constructor
  · intro h
    cases h with
    | string htext hfront hback hnumeral hlower hupper =>
      obtain ⟨hne, hstart, hend⟩ := hnumeral.edges
      have hwide : Int128.ofInt? i = some ⟨i, hlower, hupper⟩ :=
        Int128.ofInt?_eq_some_iff.mpr rfl
      rw [htext, Text.trimmed_between hfront hback hne hstart hend, Int128.read?,
        Text.readInt?_eq_some_iff.mpr hnumeral, Option.bind_some, hwide, Option.map_some]
  · intro h
    obtain ⟨n, hn, rfl⟩ := Option.map_eq_some_iff.mp h
    obtain ⟨i, hread, hwide⟩ := Option.bind_eq_some_iff.mp hn
    obtain rfl : n.val = i := Int128.ofInt?_eq_some_iff.mp hwide
    obtain ⟨front, back, htext, hfront, hback⟩ := Text.exists_blanks s.toList
    exact .string htext hfront hback (Text.readInt?_eq_some_iff.mp hread) n.lower_le n.lt_upper

/-- A value is taken for the number that it denotes, and for none if it denotes none. -/
theorem integer?_eq_some_iff : v.integer? = some i ↔ v.Denotes i := by
  cases v with
  | string s => exact denotes_string_iff.symm
  | decimal d =>
    refine Decimal.toInt?_eq_some_iff.trans ⟨.decimal, ?_⟩
    rintro ⟨⟩
    assumption
  | byte n | short n | int n | long n | bigInt n | enum n =>
    constructor
    · intro h
      obtain rfl := Option.some.inj h
      constructor
    · rintro ⟨⟩
      rfl
  | bool b =>
    constructor
    · intro h
      obtain rfl := Option.some.inj h
      cases b
      · exact .no
      · exact .yes
    · rintro ⟨⟩ <;> rfl
  | _ =>
    constructor
    · intro h
      cases h
    · rintro ⟨⟩

/-- A value denotes one number at most. -/
theorem Denotes.unique {j : Int} (hi : v.Denotes i) (hj : v.Denotes j) : i = j :=
  Option.some.inj ((integer?_eq_some_iff.mpr hi).symm.trans (integer?_eq_some_iff.mpr hj))

end Value

/-! ## Types of whole numbers -/

/-- The width of a type of whole numbers. -/
def LogicalType.bits? : LogicalType → Option Nat
  | .byte => some 8
  | .short => some 16
  | .int => some 32
  | .long => some 64
  | .bigInteger => some 128
  | _ => none

/-- The numbers of a width, one bit of which is the sign. -/
def Fits (bits : Nat) (i : Int) : Prop :=
  -(Number.twoTo (bits - 1) : Int) ≤ i ∧ i < Number.twoTo (bits - 1)

namespace Value

variable {v : Value} {type : LogicalType} {bits : Nat}

/-- A result is the number that a value denotes as a value of a type of some width, or a refusal
if the value denotes no number of that width. -/
structure ReadsWhole (v : Value) (type : LogicalType) (bits : Nat) (result : Streaming Value) :
    Prop where
  exact : ∀ i, v.Denotes i → Fits bits i →
    ∃ w, result = pure w ∧ w.logicalType? = some type ∧ w.Denotes i
  refused : (∀ i, v.Denotes i → ¬ Fits bits i) → ∃ fault, result = throw (.conversion fault)

theorem bits?_isNumeric (h : type.bits? = some bits) : type.isNumeric = true := by
  cases type with
  | byte | short | int | long | bigInteger => rfl
  | _ => cases h

/-- A value that has the type already is left as it is, and its number has the width. -/
theorem readsWhole_self (hbits : type.bits? = some bits) (htype : v.logicalType? = some type) :
    ReadsWhole v type bits (pure v) := by
  have hown : ∃ i, v.Denotes i ∧ Fits bits i := by
    cases v with
    | byte n =>
      cases htype
      cases hbits
      exact ⟨_, .byte n, n.le_toInt, n.toInt_lt⟩
    | short n =>
      cases htype
      cases hbits
      exact ⟨_, .short n, n.le_toInt, n.toInt_lt⟩
    | int n =>
      cases htype
      cases hbits
      exact ⟨_, .int n, n.le_toInt, n.toInt_lt⟩
    | long n =>
      cases htype
      cases hbits
      exact ⟨_, .long n, n.le_toInt, n.toInt_lt⟩
    | bigInt n =>
      cases htype
      cases hbits
      exact ⟨_, .bigInt n, n.lower_le, n.lt_upper⟩
    | _ =>
      cases htype
      try cases hbits
  obtain ⟨i, hi, hfits⟩ := hown
  exact ⟨fun j hj _ => ⟨v, rfl, htype, hj⟩, fun hnone => absurd hfits (hnone i hi)⟩

/-- A number is narrowed to the width of a type if it fits, and is refused otherwise. -/
theorem readsWhole_narrowed (target : String) {least most : Int} {f : Int → Value}
    (hleast : -(Number.twoTo (bits - 1) : Int) = least)
    (hmost : (Number.twoTo (bits - 1) : Int) = most + 1)
    (htype : ∀ i, (f i).logicalType? = some type) (hexact : ∀ i, Fits bits i → (f i).Denotes i) :
    ReadsWhole v type bits (Streaming.ofResult do .ok (f (← v.narrowed target least most))) where
  exact := by
    intro i hi hfits
    refine ⟨f i, ?_, htype i, hexact i hfits⟩
    -- the limits of the type are those of its bits
    have hrange : least ≤ i ∧ i ≤ most := by
      obtain ⟨hlower, hupper⟩ := hfits
      omega
    unfold narrowed
    rw [integer?_eq_some_iff.mpr hi]
    simp only [if_pos hrange]
    rfl
  refused := by
    intro hnone
    unfold narrowed
    cases hi : v.integer? with
    | none => exact ⟨_, rfl⟩
    | some i =>
      have hrange : ¬ (least ≤ i ∧ i ≤ most) := by
        rintro ⟨hlower, hupper⟩
        apply hnone i (integer?_eq_some_iff.mp hi)
        unfold Fits
        omega
      simp only [if_neg hrange]
      exact ⟨_, rfl⟩

/-- The widest type takes every number that has its width. -/
theorem readsWhole_toBigInt : ReadsWhole v .bigInteger 128 (Streaming.ofResult v.toBigInt) where
  exact := by
    intro i hi hfits
    have hwide : Int128.ofInt? i = some ⟨i, hfits.1, hfits.2⟩ := Int128.ofInt?_eq_some_iff.mpr rfl
    refine ⟨.bigInt ⟨i, hfits.1, hfits.2⟩, ?_, rfl, .bigInt _⟩
    unfold toBigInt
    rw [integer?_eq_some_iff.mpr hi]
    simp only [hwide]
    rfl
  refused := by
    intro hnone
    unfold toBigInt
    cases hi : v.integer? with
    | none => exact ⟨_, rfl⟩
    | some i =>
      have hwide : Int128.ofInt? i = none := dif_neg (hnone i (integer?_eq_some_iff.mp hi))
      simp only [hwide]
      exact ⟨_, rfl⟩

/-- A value that does not have the type of whole numbers is converted exactly or refused. -/
theorem readsWhole_converted (hbits : type.bits? = some bits) :
    ReadsWhole v type bits (v.converted type) := by
  cases type with
  | byte =>
    cases hbits
    apply readsWhole_narrowed "byte" rfl rfl (fun _ => rfl)
    intro i hi
    have h := Denotes.byte (Int8.ofInt i)
    rwa [Int8.toInt_ofInt_of_le hi.1 hi.2] at h
  | short =>
    cases hbits
    apply readsWhole_narrowed "short" rfl rfl (fun _ => rfl)
    intro i hi
    have h := Denotes.short (Int16.ofInt i)
    rwa [Int16.toInt_ofInt_of_le hi.1 hi.2] at h
  | int =>
    cases hbits
    apply readsWhole_narrowed "int" rfl rfl (fun _ => rfl)
    intro i hi
    have h := Denotes.int (Int32.ofInt i)
    rwa [Int32.toInt_ofInt_of_le hi.1 hi.2] at h
  | long =>
    cases hbits
    apply readsWhole_narrowed "long" rfl rfl (fun _ => rfl)
    intro i hi
    have h := Denotes.long (Int64.ofInt i)
    rwa [Int64.toInt_ofInt_of_le hi.1 hi.2] at h
  | bigInteger =>
    cases hbits
    exact readsWhole_toBigInt
  | _ => cases hbits

/-- Unless it is null or a constant, a value stands for no type but its own as it is. -/
theorem logicalType?_of_assignable (hv : v.isNull = false) (hbits : type.bits? = some bits)
    (h : v.assignable type = true) : v.logicalType? = some type := by
  unfold assignable at h
  split at h
  · cases hv
  · cases hbits
  · exact beq_iff_eq.mp h

/-- Converted or left as it is, a value is taken exactly or refused. -/
theorem readsWhole_convert (hv : v.isNull = false) (hbits : type.bits? = some bits) :
    ReadsWhole v type bits (v.convert type) := by
  unfold convert
  split
  · rename_i h
    exact readsWhole_self hbits (logicalType?_of_assignable hv hbits h)
  · exact readsWhole_converted hbits

end Value

/-! ## Reading -/

namespace Codec

open Value

/-- No processor touches a value where a number is wanted. -/
theorem process_of_isNumeric (p : Processor) (v : Value) {type : LogicalType}
    (h : type.isNumeric = true) : p.process v type = .ok v := by
  cases v with
  | string s => exact p.process_numeric s (.inr h)
  | _ =>
    cases type with
    | byte | short | int | long | float | double | bigDecimal | bigInteger => cases p <;> rfl
    | _ => cases h

/-- Whatever a database returns where a whole number is wanted, null apart: if it denotes a number
in the range of the type, that number is read as a value of the type, and otherwise it is refused
as not convertible. -/
theorem whole_number_exact_or_refused (c : Codec) {v : Value} (hv : v.isNull = false)
    {type : LogicalType} {bits : Nat} (hbits : type.bits? = some bits) :
    (∀ i, v.Denotes i → Fits bits i →
      ∃ w, c.deserialize v type = pure w ∧ w.logicalType? = some type ∧ w.Denotes i) ∧
    ((∀ i, v.Denotes i → ¬ Fits bits i) →
      ∃ fault, c.deserialize v type = throw (.conversion fault)) := by
  have hprocessed : processed c.processors v type = .ok v :=
    processed_eq_self (fun p => process_of_isNumeric p v (bits?_isNumeric hbits)) c.processors
  have hresult : Streaming.ofResult (.ok v) = pure v := rfl
  obtain ⟨hexact, hrefused⟩ := readsWhole_convert hv hbits
  constructor
  · intro i hi hfits
    obtain ⟨w, hconvert, htype, hw⟩ := hexact i hi hfits
    exact ⟨w, c.deserialize_eq_pure hv hprocessed hconvert (assignable_of_logicalType? htype), htype,
      hw⟩
  · intro hnone
    obtain ⟨fault, hconvert⟩ := hrefused hnone
    refine ⟨fault, ?_⟩
    unfold deserialize
    rw [hprocessed, hresult]
    simp only [hv, Bool.false_eq_true, if_false, pure_bind, hconvert]
    rfl

theorem whole_number_exact_or_refused_of_bound :
    let c : Codec := ⟨Dialect.new .sqlite, [.offsetTimestamp]⟩
    let least : Value := .decimal ⟨true, 12800, 2, by decide, by decide⟩
    (least.isNull = false ∧ LogicalType.byte.bits? = some 8 ∧ least.Denotes (-128) ∧
      Fits 8 (-128) ∧ ∃ w, c.deserialize least .byte = pure w ∧
        w.logicalType? = some .byte ∧ w.Denotes (-128)) ∧
    (∀ i, (Value.string " +128\t").Denotes i → ¬ Fits 8 i) ∧
      ∃ fault, c.deserialize (.string " +128\t") .byte = throw (.conversion fault) := by
  intro c least
  have hleast : least.Denotes (-128) := .decimal (by decide)
  have hfits : Fits 8 (-128) := ⟨by decide, by decide⟩
  have hlarge : (Value.string " +128\t").Denotes 128 := integer?_eq_some_iff.mp (by decide)
  have hnone : ∀ i, (Value.string " +128\t").Denotes i → ¬ Fits 8 i := by
    intro i hi hrange
    rw [hi.unique hlarge] at hrange
    exact absurd hrange.2 (by decide)
  exact ⟨⟨rfl, rfl, hleast, hfits, (c.whole_number_exact_or_refused rfl rfl).1 _ hleast hfits⟩,
    hnone, (c.whole_number_exact_or_refused rfl rfl).2 hnone⟩

end Codec

end SqlCompose
