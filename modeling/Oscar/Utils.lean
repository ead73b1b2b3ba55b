import Mathlib.Data.List.Basic
import Mathlib.Data.List.Nodup
import Mathlib.Algebra.Group.Nat.Basic

/-!
# Integers as bytes, and random strings

`int64ToBytes` and `bytesToInt64` (`utils.go`) write and read an `int64` with Go's
`encoding/binary` in little-endian order. An `int64` is its sixty-four two's-complement bits
(`BitVec 64`). `binary.Write` into a `bytes.Buffer` never fails, so `int64ToBytes` never
panics; `binary.Read` needs eight bytes, so `bytesToInt64` panics on fewer, with the error
`io.ReadFull` gives, and reads only the first eight of more.

The little-endian bytes of a number are its base-256 digits, and the digits of a byte list
read back as that list (`littleEndianBytes_littleEndianValue`), so the two functions are
inverse on every `int64` and on every eight bytes (`int64_bytes_round_trip`).

`randAlphaNum` spells one letter or digit of `gAlphaNums` for each call of `crandUint64n`. What
those calls return is its input (`draws`): each is below `len(gAlphaNums)`, as the contracts of
`crypto/rand`'s `Int` and of its fallback `math/rand`'s `Int63n` say, so indexing never panics.
The letters are distinct, so the string spells its draws back: the map from draws to strings of
that many letters and digits is a bijection (`randAlphaNum_bijective`), and uniform draws give
every such string with the same chance.
-/

namespace Oscar

/-! ## Little-endian bytes -/

/-- `count` bytes of `v`, least significant first: `byte(v)`, `byte(v >> 8)`, … as
`binary.LittleEndian.PutUint64` writes them for `count = 8`. -/
def littleEndianBytes : Nat → Nat → List UInt8
  | 0, _ => []
  | count + 1, v => UInt8.ofNat v :: littleEndianBytes count (v >>> 8)

/-- The number whose bytes, least significant first, are `b`, as `binary.LittleEndian.Uint64`
reads eight of them. -/
def littleEndianValue : List UInt8 → Nat
  | [] => 0
  | byte :: rest => byte.toNat + 256 * littleEndianValue rest

/-- `count` bytes are written, whatever the value. -/
@[simp] theorem length_littleEndianBytes : ∀ count v, (littleEndianBytes count v).length = count
  | 0, _ => rfl
  | count + 1, v => by simp [littleEndianBytes, length_littleEndianBytes count]

/-- The byte of `v` holds `v` modulo 256. -/
theorem toNat_ofNat_byte (v : Nat) : (UInt8.ofNat v).toNat = v % 256 := by
  simp [UInt8.toNat, UInt8.ofNat]

/-- Shifting right by eight bits drops the low byte. -/
theorem shiftRight_byte (v : Nat) : v >>> 8 = v / 256 := Nat.shiftRight_eq_div_pow v 8

/-- A byte holds less than 256. -/
theorem toNat_byte_lt (byte : UInt8) : byte.toNat < 256 := byte.toBitVec.isLt

/-- The bytes of `v` read back as `v` modulo the numbers they can hold. -/
theorem littleEndianValue_littleEndianBytes :
    ∀ count v, littleEndianValue (littleEndianBytes count v) = v % 256 ^ count
  | 0, v => by simp [littleEndianBytes, littleEndianValue, Nat.mod_one]
  | count + 1, v => by
    rw [littleEndianBytes, littleEndianValue, littleEndianValue_littleEndianBytes count,
      toNat_ofNat_byte, shiftRight_byte, Nat.pow_succ', Nat.mod_mul]

/-- The value of `b.length` bytes is below `256 ^ b.length`. -/
theorem littleEndianValue_lt : ∀ b : List UInt8, littleEndianValue b < 256 ^ b.length
  | [] => by simp [littleEndianValue]
  | byte :: rest => by
    have low := toNat_byte_lt byte
    have high := littleEndianValue_lt rest
    rw [littleEndianValue, List.length_cons, Nat.pow_succ']
    omega

/-- Bytes read as a number and written back, as many of them, are the same bytes. -/
theorem littleEndianBytes_littleEndianValue :
    ∀ b : List UInt8, littleEndianBytes b.length (littleEndianValue b) = b
  | [] => rfl
  | byte :: rest => by
    have low := toNat_byte_lt byte
    have high : (byte.toNat + 256 * littleEndianValue rest) / 256 = littleEndianValue rest := by
      omega
    rw [List.length_cons, littleEndianBytes, littleEndianValue, shiftRight_byte, high,
      littleEndianBytes_littleEndianValue rest]
    congr 1
    apply UInt8.toNat.inj
    rw [toNat_ofNat_byte]
    omega

/-! ## `int64ToBytes` and `bytesToInt64` -/

/-- `int64ToBytes`: `binary.Write(buf, binary.LittleEndian, i)` writes `PutUint64` of the
bits of `i` into a `bytes.Buffer`, which never fails. -/
def int64ToBytes (i : BitVec 64) : List UInt8 := littleEndianBytes 8 i.toNat

/-- `bytesToInt64`: `binary.Read(bytes.NewReader(b), binary.LittleEndian, &i)` reads eight
bytes with `io.ReadFull`, which fails with `io.EOF` on no byte and `io.ErrUnexpectedEOF` on
fewer than eight, and the function panics with that error; otherwise the first eight bytes,
least significant first, are the bits of `i`. -/
def bytesToInt64 (b : List UInt8) : Except String (BitVec 64) :=
  if b.length < 8 then .error (if b.isEmpty then "EOF" else "unexpected EOF")
  else .ok (BitVec.ofNat 64 (littleEndianValue (b.take 8)))

/-- Eight bytes read as the number they hold. -/
theorem bytesToInt64_of_length {b : List UInt8} (eight : b.length = 8) :
    bytesToInt64 b = .ok (BitVec.ofNat 64 (littleEndianValue b)) := by
  rw [bytesToInt64, if_neg (by omega), ← eight, List.take_length]

/-- Every `int64` is eight bytes that read back as it, and every eight bytes are the bytes
of the `int64` they read as. -/
theorem int64_bytes_round_trip :
    (∀ i : BitVec 64, (int64ToBytes i).length = 8 ∧ bytesToInt64 (int64ToBytes i) = .ok i) ∧
      ∀ b : List UInt8, b.length = 8 → ∃ i, bytesToInt64 b = .ok i ∧ int64ToBytes i = b := by
  have words : (256 : Nat) ^ 8 = 2 ^ 64 := rfl
  refine ⟨fun i => ⟨length_littleEndianBytes 8 _, ?_⟩,
    fun b eight => ⟨_, bytesToInt64_of_length eight, ?_⟩⟩
  · rw [int64ToBytes, bytesToInt64_of_length (length_littleEndianBytes 8 _),
      littleEndianValue_littleEndianBytes, words, Nat.mod_eq_of_lt i.isLt, BitVec.ofNat_toNat,
      BitVec.setWidth_eq]
  · have fits : littleEndianValue b < 2 ^ 64 := words ▸ eight ▸ littleEndianValue_lt b
    rw [int64ToBytes, BitVec.toNat_ofNat, Nat.mod_eq_of_lt fits, ← eight,
      littleEndianBytes_littleEndianValue]

/-- `-1` is eight bytes `0xff`, which read back as `-1`. -/
theorem int64_bytes_round_trip_minus_one :
    int64ToBytes (-1) = List.replicate 8 255 ∧ bytesToInt64 (int64ToBytes (-1)) = .ok (-1) ∧
      ∃ i, bytesToInt64 (List.replicate 8 255) = .ok i ∧ int64ToBytes i = List.replicate 8 255 :=
  ⟨by decide, (int64_bytes_round_trip.1 (-1)).2, int64_bytes_round_trip.2 _ (by decide)⟩

/-- Byte `k` of `count` little-endian bytes of `v` is its base-256 digit `k`: the least
significant byte comes first. -/
theorem getElem?_littleEndianBytes : ∀ (count v k : Nat),
    (littleEndianBytes count v)[k]? =
      if k < count then some (UInt8.ofNat (v / 256 ^ k)) else none
  | 0, _, _ => by simp [littleEndianBytes]
  | _ + 1, _, 0 => by simp [littleEndianBytes]
  | count + 1, v, k + 1 => by
    rw [littleEndianBytes, List.getElem?_cons_succ, getElem?_littleEndianBytes, shiftRight_byte,
      Nat.div_div_eq_div_mul, ← pow_succ']
    simp

/-- `int64ToBytes` writes byte `k` of the bits of `i` at position `k`, least significant
first. -/
theorem getElem?_int64ToBytes (i : BitVec 64) (k : Nat) :
    (int64ToBytes i)[k]? = if k < 8 then some (UInt8.ofNat (i.toNat / 256 ^ k)) else none :=
  getElem?_littleEndianBytes 8 i.toNat k

example : int64ToBytes 258 = [2, 1, 0, 0, 0, 0, 0, 0] := by decide

/-! ## `randAlphaNum` -/

/-- The bytes of the string `gAlphaNums` is split from, in order. -/
def alphaNums : List UInt8 :=
  "abcdefghijklmnopqrstuvwxyzABCDEFGHIJKLMNOPQRSTUVWXYZ0123456789".toList.map
    fun c => c.toNat.toUInt8

/-- `gAlphaNums` — `strings.Split` of the alphabet on the empty string: each letter or digit as a
string of its own. -/
def gAlphaNums : List (List UInt8) := alphaNums.map fun c => [c]

/-- `randAlphaNum` — `length` letters and digits, the `i`-th of them `gAlphaNums[draws i]`, where
`draws i` is what the `i`-th call of `crandUint64n(numRunes)` returned. -/
def randAlphaNum (length : Int) (draws : Nat → Fin gAlphaNums.length) : List UInt8 :=
  loop 0 []
where
  /-- The loop `for i := 0; i < length; i++` from `i`, with `s` spelt so far. -/
  loop (i : Nat) (s : List UInt8) : List UInt8 :=
    if (i : Int) < length then loop (i + 1) (s ++ gAlphaNums.get (draws i)) else s
  termination_by length.toNat - i

/-- The letters are distinct: decided on their values, which the kernel compares at once. -/
theorem alphaNums_nodup : alphaNums.Nodup := List.Nodup.of_map UInt8.toNat (by decide)

/-- `gAlphaNums` has one entry per letter or digit of the alphabet. -/
theorem length_gAlphaNums : gAlphaNums.length = alphaNums.length := List.length_map _ _

/-- The letter or digit a draw picks. -/
def alphaNum (k : Fin gAlphaNums.length) : UInt8 := alphaNums.get (k.cast length_gAlphaNums)

/-- Each entry of `gAlphaNums` is the one-byte string of its letter or digit. -/
theorem gAlphaNums_get (k : Fin gAlphaNums.length) : gAlphaNums.get k = [alphaNum k] := by
  simp [gAlphaNums, alphaNum]

/-- Different draws pick different letters. -/
theorem alphaNum_injective : Function.Injective alphaNum := fun _ _ same =>
  Fin.ext (congrArg Fin.val (alphaNums_nodup.get_inj_iff.mp same))

/-- Every letter or digit of the alphabet is picked by some draw. -/
theorem alphaNum_surjective {c : UInt8} (letter : c ∈ alphaNums) : ∃ k, alphaNum k = c := by
  obtain ⟨k, picked⟩ := List.mem_iff_get.mp letter
  exact ⟨k.cast length_gAlphaNums.symm, picked⟩

/-- The loop from `i` appends the letters of the draws from `i` up to `length`. -/
theorem randAlphaNum_loop (length : Int) (draws : Nat → Fin gAlphaNums.length) (i : Nat)
    (s : List UInt8) : randAlphaNum.loop length draws i s =
      s ++ (List.range' i (length.toNat - i)).map fun j => alphaNum (draws j) := by
  induction i, s using randAlphaNum.loop.induct length draws with
  | case1 i s below next =>
    have remaining : length.toNat - i = length.toNat - (i + 1) + 1 := by omega
    rw [randAlphaNum.loop, if_pos below, next, remaining, List.range'_succ, gAlphaNums_get]
    simp
  | case2 i s done =>
    rw [randAlphaNum.loop, if_neg done, show length.toNat - i = 0 by omega]
    simp

/-- `randAlphaNum` spells, in order, the letters its first `length` draws pick. -/
theorem randAlphaNum_eq (length : Int) (draws : Nat → Fin gAlphaNums.length) :
    randAlphaNum length draws = (List.range length.toNat).map fun i => alphaNum (draws i) := by
  rw [randAlphaNum, randAlphaNum_loop, List.range_eq_range', List.nil_append, Nat.sub_zero]

/-- `randAlphaNum` spells its draws: it is `length` letters and digits (none for a negative
`length`), two draws give one string exactly when they agree on the calls made, and every string
of that many letters and digits is spelt by some draws. -/
theorem randAlphaNum_bijective (length : Int) :
    (∀ draws, (randAlphaNum length draws).length = length.toNat ∧
      ∀ c ∈ randAlphaNum length draws, c ∈ alphaNums) ∧
    (∀ draws draws', randAlphaNum length draws = randAlphaNum length draws' ↔
      ∀ i < length.toNat, draws i = draws' i) ∧
    ∀ s : List UInt8, s.length = length.toNat → (∀ c ∈ s, c ∈ alphaNums) →
      ∃ draws, randAlphaNum length draws = s := by
  refine ⟨fun draws => ?_, fun draws draws' => ?_, fun s count letters => ?_⟩
  · rw [randAlphaNum_eq]
    refine ⟨by simp, fun c spelt => ?_⟩
    obtain ⟨i, -, rfl⟩ := List.mem_map.mp spelt
    exact List.get_mem _ _ _
  · simp only [randAlphaNum_eq, List.map_inj_left, List.mem_range, alphaNum_injective.eq_iff]
  · choose pick picked using fun i : Fin s.length =>
      alphaNum_surjective (letters _ (s.get_mem i i.isLt))
    refine ⟨fun i => if h : i < s.length then pick ⟨i, h⟩ else ⟨0, by decide⟩, ?_⟩
    rw [randAlphaNum_eq]
    refine List.ext_get (by simp [count]) fun i within _ => ?_
    have below : i < s.length := by simpa [count] using within
    simp [below, picked]

/-- Some draws spell `a0`. -/
theorem randAlphaNum_bijective_a0 : ∃ draws, randAlphaNum 2 draws = [97, 48] :=
  (randAlphaNum_bijective 2).2.2 [97, 48] (by decide) (by decide)

end Oscar
