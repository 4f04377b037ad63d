import SqlCompose.Proofs.DecimalText
import SqlCompose.Proofs.TemporalRoundTrip

/-!
# SqlCompose.Proofs.ScalarLiterals -- exact values come back from their literals

Products write truth values as words or as digits, bytes in one of three forms,
and numbers all alike. One reader takes all these forms. The text of a truth
value or a number reaches the conversion to the wanted type as it was written;
that of bytes is taken for a literal before anything else, and the bytes are
handed on.
-/

namespace SqlCompose

/-- The types whose values are written without loss: truth values, whole numbers, decimals and
bytes. -/
def LogicalType.isExact : LogicalType → Bool
  | .boolean | .byte | .short | .int | .long | .bigInteger | .bigDecimal | .bytes | .blob => true
  | _ => false

/-! ## Literals of bytes -/

namespace Text.Hex

theorem isDigit_digit {n : Nat} (h : n < 16) : isDigit (digit n) = true := by
  unfold isDigit
  rw [value?_digit h]
  rfl

theorem isDigit_of_mem_encodeBytes {bytes : List UInt8} {c : Char} (h : c ∈ encodeBytes bytes) :
    isDigit c = true := by
  induction bytes with
  | nil => cases h
  | cons b bytes ih =>
    have hb : b.toNat < 256 := b.toNat_lt
    rcases List.mem_cons.mp h with rfl | h
    · exact isDigit_digit (by omega)
    · rcases List.mem_cons.mp h with rfl | h
      · exact isDigit_digit (by omega)
      · exact ih h

theorem decode?_encode (bytes : List UInt8) : decode? (encode bytes) = some bytes := by
  unfold decode? encode
  rw [String.toList_ofList, decodeChars_encodeBytes]

end Text.Hex

namespace LiteralText

open Text

/-- Digits between an opening and a closing that are taken for two words. -/
theorem digitsBetween_encodeBytes {before after : String} {opening closing : List Char}
    (hopening : ∀ rest, takeWord before.toList (opening ++ rest) = some rest)
    (hclosing : takeWord after.toList closing = some []) (hstops : Stops Hex.isDigit closing)
    (bytes : List UInt8) :
    digitsBetween before after (opening ++ (Hex.encodeBytes bytes ++ closing)) =
      some (Hex.encodeBytes bytes) := by
  have hdigits : ∀ c ∈ Hex.encodeBytes bytes, Hex.isDigit c = true :=
    fun _ => Hex.isDigit_of_mem_encodeBytes
  simp only [digitsBetween, hopening, hstops.dropWhile_append hdigits,
    hstops.takeWhile_append hdigits, hclosing, bind, Option.bind]
  rfl

/-- An opening that starts with another character is not there. -/
theorem digitsBetween_eq_none {before after : String} {w c : Char} {word : List Char}
    (hbefore : before.toList = w :: word) (hc : standsFor c w = false) (cs : List Char) :
    digitsBetween before after (c :: cs) = none := by
  unfold digitsBetween
  rw [hbefore, takeWord_of_not_standsFor hc]
  rfl

theorem hexDigits?_eq {s : String} {c : Char} {cs ds : List Char} (hs : s.toList = c :: cs)
    (hblank : isBlank c = false)
    (hread : ((digitsBetween "X'" "'" (c :: cs)).or (digitsBetween "HEXTORAW('" "')" (c :: cs))).or
      (digitsBetween "'\\X" "'::BYTEA" (c :: cs)) = some ds) :
    hexDigits? s = some (String.ofList ds) := by
  have hfront : trimFront (c :: cs) = c :: cs := (stops_cons hblank cs).dropWhile_eq
  unfold hexDigits?
  simp only [hs, hfront, hread, Option.map_some]

section

variable (bytes : List UInt8)

theorem hexDigits?_hexString :
    hexDigits? (SqlLiteral.hexString bytes) = some (Hex.encode bytes) := by
  have hread : digitsBetween "X'" "'"
      (['X', '\''] ++ (Hex.encodeBytes bytes ++ ['\''])) = _ :=
    digitsBetween_encodeBytes (takeWord_append _) rfl (stops_cons (by decide) _) bytes
  have htext : (SqlLiteral.hexString bytes).toList =
      'X' :: '\'' :: (Hex.encodeBytes bytes ++ ['\'']) := by
    simp [SqlLiteral.hexString, Hex.encode]
  refine hexDigits?_eq htext (by decide) ?_
  show ((digitsBetween "X'" "'" (['X', '\''] ++ (Hex.encodeBytes bytes ++ ['\'']))).or _).or _ = _
  rw [hread]
  rfl

theorem hexDigits?_hexToRaw :
    hexDigits? (SqlLiteral.hexToRaw bytes) = some (Hex.encode bytes) := by
  have hread : digitsBetween "HEXTORAW('" "')"
      ("HEXTORAW('".toList ++ (Hex.encodeBytes bytes ++ ['\'', ')'])) = _ :=
    digitsBetween_encodeBytes (takeWord_append _) rfl (stops_cons (by decide) _) bytes
  have hplain : ∀ cs, digitsBetween "X'" "'" ('H' :: cs) = none :=
    digitsBetween_eq_none (w := 'X') rfl (by decide)
  have htext : (SqlLiteral.hexToRaw bytes).toList =
      'H' :: ("EXTORAW('".toList ++ (Hex.encodeBytes bytes ++ ['\'', ')'])) := by
    simp [SqlLiteral.hexToRaw, Hex.encode]
  refine hexDigits?_eq htext (by decide) ?_
  -- the plain form is tried first, and fails at its first letter
  rw [hplain]
  show ((none : Option (List Char)).or (digitsBetween "HEXTORAW('" "')"
    ("HEXTORAW('".toList ++ (Hex.encodeBytes bytes ++ ['\'', ')'])))).or _ = _
  rw [hread]
  rfl

/-- The small letters of an escaped string stand for the capital ones that are looked for. -/
theorem hexDigits?_escapedBytes :
    hexDigits? (SqlLiteral.escapedBytes bytes) = some (Hex.encode bytes) := by
  have hread : digitsBetween "'\\X" "'::BYTEA"
      (['\'', '\\', 'x'] ++ (Hex.encodeBytes bytes ++ "'::bytea".toList)) = _ :=
    digitsBetween_encodeBytes (fun _ => rfl) rfl (stops_cons (by decide) _) bytes
  have hplain : ∀ cs, digitsBetween "X'" "'" ('\'' :: cs) = none :=
    digitsBetween_eq_none (w := 'X') rfl (by decide)
  have hcalled : ∀ cs, digitsBetween "HEXTORAW('" "')" ('\'' :: cs) = none :=
    digitsBetween_eq_none (w := 'H') rfl (by decide)
  have htext : (SqlLiteral.escapedBytes bytes).toList =
      '\'' :: (['\\', 'x'] ++ (Hex.encodeBytes bytes ++ "'::bytea".toList)) := by
    simp [SqlLiteral.escapedBytes, Hex.encode]
  refine hexDigits?_eq htext (by decide) ?_
  rw [hplain, hcalled]
  exact hread

/-- The digits of bytes are found in the literal of every product. -/
theorem hexDigits?_bytesText (k : DialectKind) :
    hexDigits? (k.vendor.bytesText bytes) = some (Hex.encode bytes) := by
  cases k with
  | oracle => exact hexDigits?_hexToRaw bytes
  | postgres => exact hexDigits?_escapedBytes bytes
  | _ => exact hexDigits?_hexString bytes

end

end LiteralText

/-! ## Conversion -/

namespace Value

open Text

/-- A value of one of these types is equal to itself. -/
theorem same_self {v : Value} {type : LogicalType} (htype : v.logicalType? = some type)
    (hexact : type.isExact = true) : v.same v = true := by
  cases v with
  | bool | byte | short | int | long | bigInt | bytes | blob => simp [same]
  | decimal d => exact beq_self_eq_true (d.signed * _)
  | _ =>
    cases htype
    try cases hexact

theorem toBoolean_boolText (k : DialectKind) (b : Bool) :
    (Value.string (k.vendor.boolText b)).toBoolean = .bool b := by
  have hword : (Value.string (SqlLiteral.wordBool b)).toBoolean = .bool b := by
    cases b <;> rfl
  have hdigit : (Value.string (SqlLiteral.digitBool b)).toBoolean = .bool b := by
    cases b <;> rfl
  cases k with
  | mySql | sqlite | oracle | db2 | sqlServer | derby => exact hdigit
  | _ => exact hword

theorem integer?_intDigits (n : Int128) :
    (Value.string (String.ofList (intDigits n.val))).integer? = some n.val := by
  have hread : Int128.read? (trimmed (String.ofList (intDigits n.val)).toList) = some n := by
    rw [String.toList_ofList, trimmed_intDigits]
    unfold Int128.read?
    rw [readInt?_intDigits, Option.bind_some, Int128.ofInt?_eq_some_iff]
  show (Int128.read? _).map Int128.val = _
  rw [hread, Option.map_some]

/-- A whole number between the bounds of its type is taken from its digits. -/
theorem narrowed_intDigits (target : String) {i least most : Int} (hleast : least ≤ i)
    (hmost : i ≤ most) (hlow : -Int128.bound ≤ least) (hhigh : most < Int128.bound) :
    (Value.string (String.ofList (intDigits i))).narrowed target least most = .ok i := by
  have hread := integer?_intDigits
    ⟨i, Int.le_trans hlow hleast, Int.lt_of_le_of_lt hmost hhigh⟩
  unfold narrowed
  simp only [hread, if_pos (And.intro hleast hmost)]

/-- A whole number is narrowed to its own type without loss. -/
theorem ofResult_narrowed (target : String) (least most : Int) (f : Int → Value) {i : Int}
    (hleast : least ≤ i) (hmost : i < most + 1) (hlow : -Int128.bound ≤ least)
    (hhigh : most < Int128.bound) :
    Streaming.ofResult (do
      let n ← (Value.string (String.ofList (intDigits i))).narrowed target least most
      .ok (f n)) = pure (f i) := by
  rw [narrowed_intDigits target hleast (Int.lt_add_one_iff.mp hmost) hlow hhigh]
  rfl

theorem converted_byte (n : Int8) :
    (Value.string (String.ofList (intDigits n.toInt))).converted .byte = pure (.byte n) := by
  have h := ofResult_narrowed "byte" (-128) 127 (fun i => .byte (Int8.ofInt i))
    n.le_toInt n.toInt_lt (by decide) (by decide)
  rwa [Int8.ofInt_toInt] at h

theorem converted_short (n : Int16) :
    (Value.string (String.ofList (intDigits n.toInt))).converted .short = pure (.short n) := by
  have h := ofResult_narrowed "short" (-32768) 32767 (fun i => .short (Int16.ofInt i))
    n.le_toInt n.toInt_lt (by decide) (by decide)
  rwa [Int16.ofInt_toInt] at h

theorem converted_int (n : Int32) :
    (Value.string (String.ofList (intDigits n.toInt))).converted .int = pure (.int n) := by
  have h := ofResult_narrowed "int" (-2147483648) 2147483647 (fun i => .int (Int32.ofInt i))
    n.le_toInt n.toInt_lt (by decide) (by decide)
  rwa [Int32.ofInt_toInt] at h

theorem converted_long (n : Int64) :
    (Value.string (String.ofList (intDigits n.toInt))).converted .long = pure (.long n) := by
  have h := ofResult_narrowed "long" (-9223372036854775808) 9223372036854775807
    (fun i => .long (Int64.ofInt i)) n.le_toInt n.toInt_lt (by decide) (by decide)
  rwa [Int64.ofInt_toInt] at h

theorem toBigInt_text (n : Int128) : (Value.string n.text).toBigInt = .ok (.bigInt n) := by
  have hread : (Value.string n.text).integer? = some n.val := integer?_intDigits n
  have hwide : Int128.ofInt? n.val = some n := Int128.ofInt?_eq_some_iff.mpr rfl
  unfold toBigInt
  simp only [hread, hwide]

theorem toDecimal_text (d : Decimal) : (Value.string d.text).toDecimal =
    .ok (.decimal { d with negative := d.negative && d.mantissa != 0 }) := by
  unfold toDecimal
  simp only [Decimal.trim_text, Decimal.read_text]

end Value

/-! ## Processors -/

namespace Processor

/-- A processor leaves the text of a truth value or a number as it is. -/
theorem process_numeric (p : Processor) (s : String) {type : LogicalType}
    (h : type = .boolean ∨ type.isNumeric = true) :
    p.process (.string s) type = .ok (.string s) := by
  cases type with
  | boolean | byte | short | int | long | float | double | bigDecimal | bigInteger =>
    cases p <;> rfl
  | _ => rcases h with h | h <;> cases h

/-- A processor leaves bytes as they are where bytes are wanted. -/
theorem process_bytes (p : Processor) (content : List UInt8) {type : LogicalType}
    (h : type = .bytes ∨ type = .blob) :
    p.process (.bytes content) type = .ok (.bytes content) := by
  rcases h with rfl | rfl <;> cases p <;> rfl

/-- The reader of literals makes bytes of the literal of any product. -/
theorem process_bytesText (k : DialectKind) (content : List UInt8) {type : LogicalType}
    (h : type = .bytes ∨ type = .blob) :
    process .typedLiteral (.string (k.vendor.bytesText content)) type = .ok (.bytes content) := by
  have hvalue : hexValue (Text.Hex.encode content) = .ok (.bytes content) := by
    unfold hexValue
    rw [Text.Hex.decode?_encode]
  have hdigits := LiteralText.hexDigits?_bytesText content k
  show readLiteral _ type = _
  unfold readLiteral
  rcases h with rfl | rfl <;>
    simp only [LogicalType.isTemporal, Bool.false_eq_true, if_false, hdigits, hvalue]

end Processor

/-! ## Literals -/

namespace Codec

/-- What every processor leaves as it is, several of them leave as it is. -/
theorem processed_eq_self {v : Value} {type : LogicalType}
    (h : ∀ p : Processor, p.process v type = .ok v) (ps : List Processor) :
    processed ps v type = .ok v := by
  induction ps with
  | nil => rfl
  | cons p rest ih =>
    unfold processed
    rw [h p]
    exact ih

section

variable (c : Codec) {w : Value} {type : LogicalType}

/-- In place of a truth value or a number, a text is read as what it is converted to. -/
theorem deserialize_numeric {s : String} (htype : type = .boolean ∨ type.isNumeric = true)
    (hconverted : (Value.string s).converted type = pure w)
    (hassignable : w.assignable type = true) : c.deserialize (.string s) type = pure w := by
  have hstring : type ≠ .string := by
    rintro rfl
    rcases htype with h | h <;> cases h
  have hconvert : (Value.string s).convert type = pure w := by
    rw [Value.convert_string_eq s hstring, hconverted]
  exact c.deserialize_eq_pure rfl
    (processed_eq_self (fun p => p.process_numeric s htype) c.processors) hconvert hassignable

/-- The literal of bytes is read as what the bytes are converted to. -/
theorem deserialize_bytesText (content : List UInt8) (htype : type = .bytes ∨ type = .blob)
    (hconvert : (Value.bytes content).convert type = pure w)
    (hassignable : w.assignable type = true) :
    c.deserialize (.string (c.dialect.vendor.bytesText content)) type = pure w := by
  obtain ⟨rest, hprocessors⟩ := c.processors_eq_cons
  have hprocessed : processed c.processors (.string (c.dialect.vendor.bytesText content)) type =
      .ok (.bytes content) := by
    rw [hprocessors]
    unfold processed
    have hliteral : Processor.process .typedLiteral
        (.string (c.dialect.vendor.bytesText content)) type = .ok (.bytes content) :=
      Processor.process_bytesText c.dialect.kind content htype
    rw [hliteral]
    exact processed_eq_self (fun p => p.process_bytes content htype) rest
  exact c.deserialize_eq_pure rfl hprocessed hconvert hassignable

end

/-- Every truth value, whole number, decimal and row of bytes is written as a literal that is read
back as an equal value. -/
theorem scalar_round_trip (c : Codec) {v : Value} {type : LogicalType}
    (htype : v.logicalType? = some type) (hexact : type.isExact = true) :
    ∃ text w, c.serialize v none = pure text ∧ c.deserialize (.string text) type = pure w ∧
      w.same v = true := by
  have hsame := Value.same_self htype hexact
  cases v with
  | bool b =>
    cases htype
    have hconverted : (Value.string (c.dialect.vendor.boolText b)).converted .boolean =
        pure (.bool b) := congrArg pure (Value.toBoolean_boolText c.dialect.kind b)
    exact ⟨_, _, rfl, c.deserialize_numeric (.inl rfl) hconverted rfl, hsame⟩
  | byte n =>
    cases htype
    exact ⟨_, _, rfl, c.deserialize_numeric (.inr rfl) (Value.converted_byte n) rfl, hsame⟩
  | short n =>
    cases htype
    exact ⟨_, _, rfl, c.deserialize_numeric (.inr rfl) (Value.converted_short n) rfl, hsame⟩
  | int n =>
    cases htype
    exact ⟨_, _, rfl, c.deserialize_numeric (.inr rfl) (Value.converted_int n) rfl, hsame⟩
  | long n =>
    cases htype
    exact ⟨_, _, rfl, c.deserialize_numeric (.inr rfl) (Value.converted_long n) rfl, hsame⟩
  | bigInt n =>
    cases htype
    have hconverted : (Value.string n.text).converted .bigInteger = pure (.bigInt n) :=
      congrArg Streaming.ofResult (Value.toBigInt_text n)
    exact ⟨_, _, rfl, c.deserialize_numeric (.inr rfl) hconverted rfl, hsame⟩
  | decimal d =>
    cases htype
    -- the sign of a zero is written but not read, so the value that is read may be another one
    have hconverted : (Value.string d.text).converted .bigDecimal = pure (.decimal _) :=
      congrArg Streaming.ofResult (Value.toDecimal_text d)
    exact ⟨_, _, rfl, c.deserialize_numeric (.inr rfl) hconverted rfl, d.sameValue_unsigned⟩
  | bytes content =>
    cases htype
    exact ⟨_, _, rfl, c.deserialize_bytesText content (.inl rfl) rfl rfl, hsame⟩
  | blob content =>
    cases htype
    exact ⟨_, _, rfl, c.deserialize_bytesText content (.inr rfl) rfl rfl, hsame⟩
  | _ =>
    cases htype
    try cases hexact

theorem scalar_round_trip_of_negative_zero :
    let c : Codec := ⟨Dialect.new .oracle, [.storedTemporal]⟩
    let v : Value := .decimal ⟨true, 0, 28, by decide, by decide⟩
    v.logicalType? = some .bigDecimal ∧ LogicalType.bigDecimal.isExact = true ∧ ∃ text w,
      c.serialize v none = pure text ∧ c.deserialize (.string text) .bigDecimal = pure w ∧
      w.same v = true := by
  intro c v
  exact ⟨rfl, rfl, c.scalar_round_trip rfl rfl⟩

end Codec

end SqlCompose
