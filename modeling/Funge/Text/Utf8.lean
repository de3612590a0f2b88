/-!
# UTF-8

`encode` writes characters as bytes and `decode?` reads them back: `decode?_eq_some_iff` says that
a byte sequence is read exactly when it is what some text is written as, so there is one written
form of each text.

`decodeLossy` reads any bytes. Each maximal part of a sequence that could still have become a
character, and each byte that cannot begin one, gives one U+FFFD.
-/

namespace Funge.Utf8

/-- The bytes of a text. -/
def encode (cs : List Char) : List UInt8 := cs.flatMap String.utf8EncodeChar

/-- The text with these bytes, if they are the UTF-8 form of one. -/
def decode? (bytes : List UInt8) : Option (List Char) :=
  bytes.toByteArray.utf8Decode?.map Array.toList

@[simp] theorem encode_nil : encode [] = [] := rfl

@[simp] theorem encode_cons (c : Char) (cs : List Char) :
    encode (c :: cs) = String.utf8EncodeChar c ++ encode cs := rfl

@[simp] theorem encode_append (cs ds : List Char) : encode (cs ++ ds) = encode cs ++ encode ds :=
  List.flatMap_append

theorem toByteArray_encode (cs : List Char) : (encode cs).toByteArray = cs.utf8Encode := rfl

theorem toByteArray_inj {bs cs : List UInt8} (h : bs.toByteArray = cs.toByteArray) : bs = cs := by
  have h' := congrArg (fun b => b.data.toList) h
  simpa using h'

@[simp] theorem decode?_encode (cs : List Char) : decode? (encode cs) = some cs := by
  simp [decode?, toByteArray_encode]

theorem eq_encode_of_decode? {bs : List UInt8} {cs : List Char} (h : decode? bs = some cs) :
    bs = encode cs := by
  obtain ⟨a, ha, rfl⟩ := Option.map_eq_some_iff.1 h
  have hs : bs.toByteArray.utf8Decode?.isSome := by rw [ha]; rfl
  have he := ByteArray.utf8Encode_get_utf8Decode? (h := hs)
  apply toByteArray_inj
  rw [toByteArray_encode, ← he]
  simp [ha]

theorem decode?_eq_some_iff {bs : List UInt8} {cs : List Char} :
    decode? bs = some cs ↔ bs = encode cs :=
  ⟨eq_encode_of_decode?, fun h => h ▸ decode?_encode cs⟩

/-! ### Reading any bytes -/

/-- What a reader knows between two bytes: either nothing is begun, or a character is, whose
bits so far are `bits`, which needs `owed` more bytes, the next of them from `low` to `high`. -/
inductive Begun where
  | nothing
  | character (owed low high bits : Nat)
deriving DecidableEq, Repr

/-- What a first byte begins: the character it is, a longer one, or `none` where no character
starts with it. The bounds exclude overlong forms, surrogates and values above U+10FFFF. -/
def first (b : Nat) : Option (Begun × List Char) :=
  if b < 0x80 then some (.nothing, [Char.ofNat b])
  else if b < 0xC2 then none
  else if b < 0xE0 then some (.character 1 0x80 0xBF (b - 0xC0), [])
  else if b < 0xF0 then
    some (.character 2 (if b = 0xE0 then 0xA0 else 0x80) (if b = 0xED then 0x9F else 0xBF)
      (b - 0xE0), [])
  else if b < 0xF5 then
    some (.character 3 (if b = 0xF0 then 0x90 else 0x80) (if b = 0xF4 then 0x8F else 0xBF)
      (b - 0xF0), [])
  else none

/-- A first byte, with U+FFFD for one that begins nothing. -/
def firstLossy (b : Nat) : Begun × List Char := (first b).getD (.nothing, ['\uFFFD'])

/-- One more byte: the reader's knowledge after it, and the characters that are settled by it. A
byte that does not continue the begun character settles that one as U+FFFD and is read afresh. -/
def next : Begun → Nat → Begun × List Char
  | .nothing, b => firstLossy b
  | .character owed low high bits, b =>
    if low ≤ b ∧ b ≤ high then
      let bits := bits * 64 + (b - 0x80)
      if owed ≤ 1 then (.nothing, [Char.ofNat bits]) else (.character (owed - 1) 0x80 0xBF bits, [])
    else
      let (begun, cs) := firstLossy b
      (begun, '\uFFFD' :: cs)

/-- The rest of a text, from a reader's knowledge and the bytes to come. -/
def readLossy : Begun → List UInt8 → List Char
  | .nothing, [] => []
  | .character .., [] => ['\uFFFD']
  | begun, b :: bytes => (next begun b.toNat).2 ++ readLossy (next begun b.toNat).1 bytes

/-- The text of any bytes, with U+FFFD where they are not UTF-8. -/
def decodeLossy (bytes : List UInt8) : List Char := readLossy .nothing bytes

end Funge.Utf8
