import SqlCompose.Value.Stream

/-!
# SqlCompose.Proofs.Encoding -- text comes back from its bytes

The bytes of a character are taken back as that character, whatever follows
them. So a text is decoded from its own bytes, and a stream that was opened on a
text is read as that text.
-/

namespace SqlCompose

namespace Text.Utf8

/-! ## Bytes -/

theorem toNat_ofNat {n : Nat} (h : n < 256) : (UInt8.ofNat n).toNat = n := by
  rw [UInt8.toNat_ofNat']
  exact Nat.mod_eq_of_lt h

/-- A byte with the mark of a continuation and six bits. -/
theorem isContinuation_ofNat (n : Nat) : isContinuation (UInt8.ofNat (n % 64 + 128)) = true := by
  have hbyte : (UInt8.ofNat (n % 64 + 128)).toNat = n % 64 + 128 := toNat_ofNat (by omega)
  simp only [isContinuation, Bool.and_eq_true, decide_eq_true_eq, UInt8.le_iff_toNat_le, hbyte,
    UInt8.reduceToNat]
  omega

/-- The six bits of such a byte. -/
theorem low_ofNat (n : Nat) : low (UInt8.ofNat (n % 64 + 128)) = n % 64 := by
  have hbyte : (UInt8.ofNat (n % 64 + 128)).toNat = n % 64 + 128 := toNat_ofNat (by omega)
  unfold low
  rw [hbyte]
  omega

/-- A second byte continues a character, and four first bytes leave it less room. -/
theorem secondOk_of_bounds {first second : UInt8}
    (hcontinues : 128 ≤ second.toNat ∧ second.toNat ≤ 191)
    (hoverlong : first.toNat = 224 → 160 ≤ second.toNat)
    (hsurrogate : first.toNat = 237 → second.toNat ≤ 159)
    (hoverlong' : first.toNat = 240 → 144 ≤ second.toNat)
    (hlast : first.toNat = 244 → second.toNat ≤ 143) : secondOk first second = true := by
  simp only [secondOk, isContinuation, beq_iff_eq, ← UInt8.toNat_inj, UInt8.le_iff_toNat_le,
    UInt8.reduceToNat]
  repeat' split
  all_goals
    simp only [Bool.and_eq_true, decide_eq_true_eq]
    omega

/-! ## One character -/

section

variable {v : Nat} (rest : List UInt8)

theorem next_one (h : v < 128) : next (UInt8.ofNat v :: rest) = .ok (Char.ofNat v, 1) := by
  have hfirst : (UInt8.ofNat v).toNat = v := toNat_ofNat (by omega)
  simp only [next, UInt8.lt_iff_toNat_lt, hfirst, UInt8.reduceToNat, h, if_true]

theorem next_two (hlow : 128 ≤ v) (hhigh : v < 2048) :
    next (UInt8.ofNat (v / 64 % 32 + 192) :: UInt8.ofNat (v % 64 + 128) :: rest) =
      .ok (Char.ofNat v, 2) := by
  have hfirst : (UInt8.ofNat (v / 64 % 32 + 192)).toNat = v / 64 % 32 + 192 :=
    toNat_ofNat (by omega)
  have hwidth : ¬ v / 64 % 32 + 192 < 128 ∧ ¬ v / 64 % 32 + 192 < 194 ∧
      v / 64 % 32 + 192 < 224 := by omega
  have hvalue : (v / 64 % 32 + 192 - 192) * 64 + v % 64 = v := by omega
  simp only [next, UInt8.lt_iff_toNat_lt, hfirst, UInt8.reduceToNat, hwidth, if_true, if_false,
    isContinuation_ofNat, low_ofNat, hvalue]

theorem next_three (hlow : 2048 ≤ v) (hhigh : v < 65536) (hvalid : v < 55296 ∨ 57343 < v) :
    next (UInt8.ofNat (v / 4096 % 16 + 224) :: UInt8.ofNat (v / 64 % 64 + 128) ::
      UInt8.ofNat (v % 64 + 128) :: rest) = .ok (Char.ofNat v, 3) := by
  have hfirst : (UInt8.ofNat (v / 4096 % 16 + 224)).toNat = v / 4096 % 16 + 224 :=
    toNat_ofNat (by omega)
  have hsecond : (UInt8.ofNat (v / 64 % 64 + 128)).toNat = v / 64 % 64 + 128 :=
    toNat_ofNat (by omega)
  have hok : secondOk (UInt8.ofNat (v / 4096 % 16 + 224)) (UInt8.ofNat (v / 64 % 64 + 128)) =
      true := by
    apply secondOk_of_bounds <;> rw [hsecond] <;> omega
  have hwidth : ¬ v / 4096 % 16 + 224 < 128 ∧ ¬ v / 4096 % 16 + 224 < 194 ∧
      ¬ v / 4096 % 16 + 224 < 224 ∧ v / 4096 % 16 + 224 < 240 := by omega
  have hvalue : (v / 4096 % 16 + 224 - 224) * 4096 + v / 64 % 64 * 64 + v % 64 = v := by omega
  simp only [next, UInt8.lt_iff_toNat_lt, hfirst, UInt8.reduceToNat, hwidth, if_true, if_false,
    isContinuation_ofNat, low_ofNat, hok, hvalue]

theorem next_four (hlow : 65536 ≤ v) (hhigh : v < 1114112) :
    next (UInt8.ofNat (v / 262144 % 8 + 240) :: UInt8.ofNat (v / 4096 % 64 + 128) ::
      UInt8.ofNat (v / 64 % 64 + 128) :: UInt8.ofNat (v % 64 + 128) :: rest) =
        .ok (Char.ofNat v, 4) := by
  have hfirst : (UInt8.ofNat (v / 262144 % 8 + 240)).toNat = v / 262144 % 8 + 240 :=
    toNat_ofNat (by omega)
  have hsecond : (UInt8.ofNat (v / 4096 % 64 + 128)).toNat = v / 4096 % 64 + 128 :=
    toNat_ofNat (by omega)
  have hok : secondOk (UInt8.ofNat (v / 262144 % 8 + 240)) (UInt8.ofNat (v / 4096 % 64 + 128)) =
      true := by
    apply secondOk_of_bounds <;> rw [hsecond] <;> omega
  have hwidth : ¬ v / 262144 % 8 + 240 < 128 ∧ ¬ v / 262144 % 8 + 240 < 194 ∧
      ¬ v / 262144 % 8 + 240 < 224 ∧ ¬ v / 262144 % 8 + 240 < 240 ∧
      v / 262144 % 8 + 240 < 245 := by omega
  have hvalue : (v / 262144 % 8 + 240 - 240) * 262144 + v / 4096 % 64 * 4096 +
      v / 64 % 64 * 64 + v % 64 = v := by omega
  simp only [next, UInt8.lt_iff_toNat_lt, hfirst, UInt8.reduceToNat, hwidth, if_true, if_false,
    isContinuation_ofNat, low_ofNat, hok, hvalue]

end

/-- The bytes of a character are taken back as the character, as many as there are. -/
theorem next_utf8EncodeChar (c : Char) (rest : List UInt8) :
    next (String.utf8EncodeChar c ++ rest) = .ok (c, (String.utf8EncodeChar c).length) := by
  have hchar : Char.ofNat c.val.toNat = c := Char.ofNat_toNat c
  have hvalid : c.val.toNat < 55296 ∨ 57343 < c.val.toNat ∧ c.val.toNat < 1114112 := c.valid
  -- one case for each number of bytes; the bounds of the character decide which bytes may follow
  fun_cases String.utf8EncodeChar c with
  | case1 v hone =>
    have h := next_one (v := v) rest (by omega)
    rwa [hchar] at h
  | case2 v hone htwo =>
    have h := next_two (v := v) rest (by omega) (by omega)
    rwa [hchar] at h
  | case3 v hone htwo hthree =>
    have h := next_three (v := v) rest (by omega) (by omega) (by omega)
    rwa [hchar] at h
  | case4 v hone htwo hthree =>
    have h := next_four (v := v) rest (by omega) (by omega)
    rwa [hchar] at h

/-! ## Whole texts -/

theorem encode_eq (s : String) : encode s = s.toList.flatMap String.utf8EncodeChar := by
  unfold encode
  rw [String.toUTF8_eq_toByteArray, ← String.utf8Encode_toList, List.utf8Encode]
  simp

/-- The bytes of a character that was taken are passed over. -/
theorem decodeFrom_skip (bytes rest : List UInt8) (index : Nat) :
    decodeFrom index bytes.length (bytes ++ rest) = decodeFrom (index + bytes.length) 0 rest := by
  induction bytes generalizing index with
  | nil => rfl
  | cons b bytes ih =>
    simp only [List.length_cons, List.cons_append, decodeFrom, ih]
    congr 1
    omega

theorem decodeFrom_encoded (cs : List Char) (index : Nat) :
    decodeFrom index 0 (cs.flatMap String.utf8EncodeChar) = .ok cs := by
  induction cs generalizing index with
  | nil => rfl
  | cons c cs ih =>
    obtain ⟨b, bytes, hbytes⟩ := List.exists_cons_of_ne_nil (String.utf8EncodeChar_ne_nil (c := c))
    have hnext := next_utf8EncodeChar c (cs.flatMap String.utf8EncodeChar)
    rw [List.flatMap_cons, hbytes] at *
    rw [List.cons_append] at hnext ⊢
    simp only [decodeFrom, hnext, List.length_cons, Nat.add_sub_cancel, decodeFrom_skip, ih]
    rfl

/-- A text is decoded from its own bytes. -/
theorem decode_encode (s : String) : decode (encode s) = .ok s := by
  unfold decode
  rw [encode_eq, decodeFrom_encoded]
  exact congrArg Except.ok String.ofList_toList

end Text.Utf8

/-! ## Streams -/

/-- The content of a stream that was just opened is there to be read. -/
theorem StreamStore.source_add (store : StreamStore) (source : StreamSource) :
    (store.add source).2.source (store.add source).1 = source := by
  simp [StreamStore.add, StreamStore.source]

namespace Streaming

/-- The text behind a handle is that of the bytes, which are taken out of the store either way. -/
theorem readText_eq (handle : StreamHandle) (store : StreamStore) :
    (readText handle store : Except SqlError String × StreamStore) =
      ((store.read handle).1.bind textOf, (store.read handle).2) := by
  show ExceptT.bindCont (fun bytes => ofResult (textOf bytes)) (store.read handle).1
    (store.read handle).2 = _
  cases (store.read handle).1 <;> rfl

theorem readText_of_source {store : StreamStore} {handle : StreamHandle} {text : String}
    (h : store.source handle = .content (Text.Utf8.encode text)) :
    (readText handle store).1 = .ok text := by
  have hbytes : (store.read handle).1 = .ok (Text.Utf8.encode text) := by
    unfold StreamStore.read
    rw [h]
  have htext : textOf (Text.Utf8.encode text) = .ok text := by
    unfold textOf
    rw [Text.Utf8.decode_encode]
  rw [readText_eq, hbytes]
  exact htext

/-- A stream that was opened on a text is read as that text. -/
theorem readText_openText (text : String) (store : StreamStore) : ∃ handle after,
    openText text store = (.ok handle, after) ∧ (readText handle after).1 = .ok text :=
  ⟨_, _, rfl, readText_of_source (store.source_add _)⟩

end Streaming

end SqlCompose
