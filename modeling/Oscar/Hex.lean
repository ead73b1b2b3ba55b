import Mathlib.Data.List.Basic

/-!
# Hex spellings of drop-box ids

Go's `encoding/hex` as the drop-box code uses it. `EncodeToString` writes two lower-case
digits per byte; `DecodeString` reads digits of either case and reports the first bad digit
before an odd length. Go strings are byte sequences, so a spelling is a `List UInt8`.
Reading the encoding of any bytes gives them back (`decodeString_encodeToString`), and
encoding what was read gives the input with its upper-case digits lowered
(`encodeToString_decodeString`): a spelling is the one `EncodeToString` writes exactly when
it has no upper-case digit.
-/

namespace Oscar.Hex

/-- `hextable` — the digit `EncodeToString` writes for a value below sixteen. -/
def hextable (value : Nat) : UInt8 :=
  if value < 10 then UInt8.ofNat (48 + value) else UInt8.ofNat (87 + value)

/-- `hex.EncodeToString` — two lower-case digits per byte, high half first. -/
def encodeToString (src : List UInt8) : List UInt8 :=
  src.flatMap fun byte => [hextable (byte.toNat >>> 4), hextable (byte.toNat &&& 0x0f)]

/-- `fromHexChar` — the value of one digit of either case. -/
def fromHexChar (c : UInt8) : Option UInt8 :=
  if 48 ≤ c ∧ c ≤ 57 then some (c - 48)
  else if 97 ≤ c ∧ c ≤ 102 then some (c - 97 + 10)
  else if 65 ≤ c ∧ c ≤ 70 then some (c - 65 + 10)
  else none

/-- `InvalidByteError` and `ErrLength`, the two errors of `Decode`. -/
inductive HexError where
  | invalidByte (byte : UInt8)
  | errLength
  deriving DecidableEq, Repr

/-- `hex.DecodeString` — each pair of digits to the byte `(a << 4) | b`; a bad digit is
reported before an odd length. The bytes read before an error are dropped, as every caller
discards them. -/
def decodeString : List UInt8 → Except HexError (List UInt8)
  | [] => .ok []
  | [c] => if (fromHexChar c).isSome then .error .errLength else .error (.invalidByte c)
  | a :: b :: rest =>
    match fromHexChar a, fromHexChar b with
    | none, _ => .error (.invalidByte a)
    | some _, none => .error (.invalidByte b)
    | some high, some low => (decodeString rest).map fun tail => (high <<< 4 ||| low) :: tail

/-- The upper-case digit `%X` writes for a value below sixteen. -/
def upperDigit (value : Nat) : Char :=
  Char.ofNat (if value < 10 then 48 + value else 55 + value)

/-- `strconv.IsPrint` on the runes below 256. -/
def isPrint (rune : Nat) : Bool :=
  (0x20 ≤ rune && rune ≤ 0x7e) || (0xa1 ≤ rune && rune ≤ 0xff && rune != 0xad)

/-- `Error` — the text of an error; an invalid byte is shown as `%#U` of its rune. -/
def HexError.error : HexError → String
  | .invalidByte byte =>
    let quote := Char.ofNat 39
    "encoding/hex: invalid byte: U+00" ++
      String.mk [upperDigit (byte.toNat / 16), upperDigit (byte.toNat % 16)] ++
      if isPrint byte.toNat then String.mk [' ', quote, Char.ofNat byte.toNat, quote] else ""
  | .errLength => "encoding/hex: odd length hex string"

/-- An upper-case digit in lower case; every other byte unchanged. -/
def lowerDigit (c : UInt8) : UInt8 := if 65 ≤ c ∧ c ≤ 70 then c + 32 else c

/-! ## Digits -/

/-- Every digit `EncodeToString` writes reads back as its value. -/
theorem fromHexChar_hextable : ∀ value : Fin 16,
    fromHexChar (hextable value) = some (UInt8.ofNat value) := by
  decide

set_option maxRecDepth 20000 in
/-- The two halves of a byte, shifted and or-ed, give the byte back. -/
theorem join_halves : ∀ byte : Fin 256,
    (UInt8.ofNat (byte / 16) <<< 4 ||| UInt8.ofNat (byte % 16)) = UInt8.ofNat byte := by
  decide

set_option maxRecDepth 20000 in
/-- The byte of two digit values is sixteen times the first plus the second. -/
theorem toNat_join : ∀ high low : Fin 16,
    (UInt8.ofNat high <<< 4 ||| UInt8.ofNat low).toNat = high * 16 + low := by
  decide

set_option maxRecDepth 20000 in
/-- A digit of either case is worth less than sixteen, and is written back in lower case. -/
theorem hextable_fromHexChar : ∀ c : Fin 256, ∀ value, fromHexChar (UInt8.ofNat c) = some value →
    value.toNat < 16 ∧ hextable value.toNat = lowerDigit (UInt8.ofNat c) := by
  decide

/-- A byte is the byte of its value. -/
theorem ofNat_toNat (byte : UInt8) : UInt8.ofNat byte.toNat = byte :=
  UInt8.toNat.inj (UInt8.toNat_ofNat_of_lt byte.toNat_lt_size)

/-- A hex digit read as `value` has a value below sixteen, and writing `value` back gives the digit
in lower case. -/
theorem hextable_of_digit {c value : UInt8} (digit : fromHexChar c = some value) :
    value.toNat < 16 ∧ hextable value.toNat = lowerDigit c := by
  have read := hextable_fromHexChar ⟨c.toNat, c.toNat_lt_size⟩ value
  simp only [ofNat_toNat] at read
  exact read digit

/-- The digits written for one byte. -/
theorem encodeToString_cons (byte : UInt8) (rest : List UInt8) :
    encodeToString (byte :: rest) =
      hextable (byte.toNat / 16) :: hextable (byte.toNat % 16) :: encodeToString rest := by
  have high : byte.toNat >>> 4 = byte.toNat / 16 := Nat.shiftRight_eq_div_pow _ 4
  have low : byte.toNat &&& 0x0f = byte.toNat % 16 := Nat.and_pow_two_sub_one_eq_mod _ 4
  simp [encodeToString, high, low]

/-- A pair of digits read without error, followed by the rest read without error. -/
theorem decodeString_pair {a b : UInt8} {rest bytes : List UInt8} :
    decodeString (a :: b :: rest) = .ok bytes ↔ ∃ high low tail, fromHexChar a = some high ∧
      fromHexChar b = some low ∧ decodeString rest = .ok tail ∧
        bytes = (high <<< 4 ||| low) :: tail := by
  simp only [decodeString]
  cases fromHexChar a <;> cases fromHexChar b <;> cases decodeString rest <;>
    simp [Except.map, eq_comm]

/-- A single digit is never read without error. -/
theorem decodeString_single (c : UInt8) (bytes : List UInt8) :
    decodeString [c] ≠ .ok bytes := by
  simp only [decodeString]
  split <;> simp

/-! ## Round trips -/

/-- Reading the spelling `EncodeToString` writes gives the bytes back. -/
theorem decodeString_encodeToString (src : List UInt8) :
    decodeString (encodeToString src) = .ok src := by
  induction src with
  | nil => rfl
  | cons byte rest ih =>
    have small : byte.toNat < 256 := byte.toNat_lt_size
    have joined := join_halves ⟨byte.toNat, small⟩
    simp only [ofNat_toNat] at joined
    rw [encodeToString_cons, decodeString_pair]
    exact ⟨_, _, rest, fromHexChar_hextable ⟨byte.toNat / 16, by omega⟩,
      fromHexChar_hextable ⟨byte.toNat % 16, by omega⟩, ih, congrArg (· :: rest) joined.symm⟩

/-- Two byte strings with one spelling are one. -/
theorem encodeToString_injective {a b : List UInt8} (same : encodeToString a = encodeToString b) :
    a = b := by
  have read := decodeString_encodeToString a
  rw [same, decodeString_encodeToString] at read
  exact (Except.ok.inj read).symm

/-- Encoding what was read gives the spelling read, with its upper-case digits lowered. -/
theorem encodeToString_decodeString : ∀ {s bytes : List UInt8},
    decodeString s = .ok bytes → encodeToString bytes = s.map lowerDigit
  | [], _, read => by cases read; rfl
  | [c], _, read => absurd read (decodeString_single c _)
  | a :: b :: rest, _, read => by
    obtain ⟨high, low, tail, first, second, inner, rfl⟩ := decodeString_pair.mp read
    obtain ⟨highSmall, highDigit⟩ := hextable_of_digit first
    obtain ⟨lowSmall, lowDigit⟩ := hextable_of_digit second
    have joined := toNat_join ⟨high.toNat, highSmall⟩ ⟨low.toNat, lowSmall⟩
    simp only [ofNat_toNat] at joined
    have quotient : (high <<< 4 ||| low).toNat / 16 = high.toNat := by omega
    have remainder : (high <<< 4 ||| low).toNat % 16 = low.toNat := by omega
    rw [encodeToString_cons, quotient, remainder, highDigit, lowDigit,
      encodeToString_decodeString inner]
    rfl

set_option maxRecDepth 20000 in
/-- Lowering changes exactly the bytes `A` to `F`, checked on each of the 256 values. -/
theorem lowerDigit_eq_self_iff' : ∀ c : Fin 256,
    lowerDigit (UInt8.ofNat c) = UInt8.ofNat c ↔ ¬(65 ≤ UInt8.ofNat c ∧ UInt8.ofNat c ≤ 70) := by
  decide

/-- Lowering changes exactly the upper-case digits. -/
theorem lowerDigit_eq_self_iff (c : UInt8) : lowerDigit c = c ↔ ¬(65 ≤ c ∧ c ≤ 70) := by
  simpa only [ofNat_toNat] using lowerDigit_eq_self_iff' ⟨c.toNat, c.toNat_lt_size⟩

/-- Lowering leaves a spelling unchanged exactly when it has no upper-case digit. -/
theorem map_lowerDigit_eq_self_iff (s : List UInt8) :
    s.map lowerDigit = s ↔ ∀ c ∈ s, ¬(65 ≤ c ∧ c ≤ 70) := by
  induction s with
  | nil => simp
  | cons c rest ih =>
    simp only [List.map_cons, List.cons.injEq, ih, lowerDigit_eq_self_iff, List.mem_cons,
      forall_eq_or_imp]

/-- A spelling read without error is the one `EncodeToString` writes for its bytes exactly
when it has no upper-case digit. -/
theorem encodeToString_decodeString_eq_iff {s bytes : List UInt8}
    (read : decodeString s = .ok bytes) :
    encodeToString bytes = s ↔ ∀ c ∈ s, ¬(65 ≤ c ∧ c ≤ 70) := by
  rw [encodeToString_decodeString read, map_lowerDigit_eq_self_iff]

end Oscar.Hex
