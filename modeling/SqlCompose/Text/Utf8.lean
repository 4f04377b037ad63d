/-!
# SqlCompose.Text.Utf8 -- bytes as characters

Reading stops at the first byte that cannot belong to a character, and reports
where the last whole character ended and how many bytes are at fault. Bytes
that end inside a character have no faulty length: more bytes could complete
them.
-/

namespace SqlCompose.Text.Utf8

/-- Where reading stopped, and the number of bytes at fault if there is one. -/
structure Fault where
  index : Nat
  width : Option Nat
  deriving DecidableEq, Repr

/-- The wording of a fault. -/
def Fault.message (f : Fault) : String :=
  match f.width with
  | some n => s!"invalid utf-8 sequence of {n} bytes from index {f.index}"
  | none => s!"incomplete utf-8 byte sequence from index {f.index}"

/-- A byte that continues a character. -/
def isContinuation (b : UInt8) : Bool := 0x80 ≤ b && b ≤ 0xbf

/-- The bytes that may follow a first byte, which keep out overlong forms,
surrogates and numbers past the last code point. -/
def secondOk (first second : UInt8) : Bool :=
  if first == 0xe0 then 0xa0 ≤ second && second ≤ 0xbf
  else if first == 0xed then 0x80 ≤ second && second ≤ 0x9f
  else if first == 0xf0 then 0x90 ≤ second && second ≤ 0xbf
  else if first == 0xf4 then 0x80 ≤ second && second ≤ 0x8f
  else isContinuation second

/-- The six low bits that a continuing byte carries. -/
def low (b : UInt8) : Nat := b.toNat % 64

/-- One character from the front of the bytes: the character and its width, or
the number of bytes at fault. -/
def next : List UInt8 → Except (Option Nat) (Char × Nat)
  | [] => .error none
  | b :: rest =>
    if b < 0x80 then .ok (Char.ofNat b.toNat, 1)
    else if b < 0xc2 then .error (some 1)
    else if b < 0xe0 then
      match rest with
      | [] => .error none
      | c :: _ =>
        if isContinuation c then .ok (Char.ofNat ((b.toNat - 0xc0) * 64 + low c), 2)
        else .error (some 1)
    else if b < 0xf0 then
      match rest with
      | [] => .error none
      | c :: rest =>
        if secondOk b c then
          match rest with
          | [] => .error none
          | d :: _ =>
            if isContinuation d then
              .ok (Char.ofNat ((b.toNat - 0xe0) * 4096 + low c * 64 + low d), 3)
            else .error (some 2)
        else .error (some 1)
    else if b < 0xf5 then
      match rest with
      | [] => .error none
      | c :: rest =>
        if secondOk b c then
          match rest with
          | [] => .error none
          | d :: rest =>
            if isContinuation d then
              match rest with
              | [] => .error none
              | e :: _ =>
                if isContinuation e then
                  .ok
                    (Char.ofNat ((b.toNat - 0xf0) * 262144 + low c * 4096 + low d * 64 + low e), 4)
                else .error (some 3)
            else .error (some 2)
        else .error (some 1)
    else .error (some 1)

/-- Read characters until the bytes are used up; `skip` counts the bytes of the
current character that are still to be passed. -/
def decodeFrom (index skip : Nat) : List UInt8 → Except Fault (List Char)
  | [] => .ok []
  | b :: rest =>
    match skip with
    | k + 1 => decodeFrom (index + 1) k rest
    | 0 =>
      match next (b :: rest) with
      | .error width => .error ⟨index, width⟩
      | .ok (c, width) => (decodeFrom (index + 1) (width - 1) rest).map (c :: ·)

/-- The text that bytes encode. -/
def decode (bytes : List UInt8) : Except Fault String :=
  (decodeFrom 0 0 bytes).map String.ofList

/-- The bytes of a text. -/
def encode (s : String) : List UInt8 := s.toUTF8.data.toList

end SqlCompose.Text.Utf8
