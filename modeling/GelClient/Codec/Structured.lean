import GelClient.Codec.Scalar

/-!
# Decoders of structured scalars

The `RawCodec::decode`s of `raw_scalar.rs` for `Decimal`, `BigInt`, `Duration`,
`RelativeDuration`, `DateDuration`, `LocalDate` and `LocalTime`. Each reads its fields with a
cursor (`get_u16`, `get_i64`, ...), checking sizes, the sign word and reserved fields on the
way.

Beside each decoder stands its wire form as spec §4.3 states it (`decimalWire`, ...), written
with fixed offsets: the word at each offset, the conditions the spec puts on them, and the
error the spec names for each way a buffer can fail. `decodeDecimal_eq_wire`, ... show the
decoders compute exactly these on every buffer.
-/

namespace GelClient.Codec

def wordAt (b : List Byte) (off k : Nat) : BitVec (8 * k) :=
  BitVec.ofNat (8 * k) (beVal ((b.drop off).take k))

@[simp] theorem getBE_fst (k : Nat) (b : List Byte) : (getBE k b).1 = wordAt b 0 k := rfl

@[simp] theorem getBE_snd (k : Nat) (b : List Byte) : (getBE k b).2 = b.drop k := rfl

theorem wordAt_drop (b : List Byte) (n off k : Nat) : wordAt (b.drop n) off k = wordAt b (n + off) k := by
  simp [wordAt, List.drop_drop, Nat.add_comm]

def getDigits : Nat → List Byte → List (BitVec 16)
  | 0, _ => []
  | n + 1, buf => (getBE 2 buf).1 :: getDigits n (getBE 2 buf).2

theorem getDigits_eq (n : Nat) (buf : List Byte) :
    getDigits n buf = (List.range n).map fun i => wordAt buf (2 * i) 2 := by
  induction n generalizing buf with
  | zero => rfl
  | succ n ih =>
    rw [getDigits, List.range_succ_eq_map, List.map_cons, List.map_map, getBE_fst, getBE_snd, ih]
    congr 1
    refine List.map_congr_left fun i _ => ?_
    simp only [Function.comp, wordAt_drop]
    congr 1; omega

/-! ## Decimal and BigInt -/

/-- `Decimal`: sign, base-10000 weight, display scale, and base-10000 digits. -/
structure Decimal where
  negative : Bool
  weight : BitVec 16
  decimalDigits : BitVec 16
  digits : List (BitVec 16)

structure BigInt where
  negative : Bool
  weight : BitVec 16
  digits : List (BitVec 16)

/-- The sign word: `0x0000` positive, `0x4000` negative, anything else `BadSign`. -/
def readSign (sign : BitVec 16) : Except DecodeError Bool :=
  if sign = 0x0000 then .ok false else if sign = 0x4000 then .ok true else .error .badSign

def decodeDecimal (buf : List Byte) : Except DecodeError Decimal := do
  if ¬ buf.length ≥ 8 then throw .underflow
  let (ndigits, buf) := getBE 2 buf
  let (weight, buf) := getBE 2 buf
  let (sign, buf) := getBE 2 buf
  let negative ← readSign sign
  let (decimalDigits, buf) := getBE 2 buf
  ensureExactSize buf (ndigits.toNat * 2)
  pure ⟨negative, weight, decimalDigits, getDigits ndigits.toNat buf⟩

def decodeBigInt (buf : List Byte) : Except DecodeError BigInt := do
  if ¬ buf.length ≥ 8 then throw .underflow
  let (ndigits, buf) := getBE 2 buf
  let (weight, buf) := getBE 2 buf
  let (sign, buf) := getBE 2 buf
  let negative ← readSign sign
  let (decimalDigits, buf) := getBE 2 buf
  if ¬ decimalDigits = 0 then throw .nonZeroReservedBytes
  ensureExactSize buf (ndigits.toNat * 2)
  pure ⟨negative, weight, getDigits ndigits.toNat buf⟩

/-- Spec §4.3, `decimal`: `u16 ndigits, i16 weight, u16 sign ∈ {0, 0x4000}, u16 dscale,
ndigits × u16`, exactly. -/
def decimalWire (b : List Byte) : Except DecodeError Decimal :=
  let ndigits := (wordAt b 0 2).toNat
  let sign := wordAt b 4 2
  if b.length < 8 then .error .underflow
  else if sign ≠ 0x0000 ∧ sign ≠ 0x4000 then .error .badSign
  else if b.length < 8 + 2 * ndigits then .error .underflow
  else if 8 + 2 * ndigits < b.length then .error .extraData
  else .ok ⟨sign = 0x4000, wordAt b 2 2, wordAt b 6 2,
    (List.range ndigits).map fun i => wordAt b (8 + 2 * i) 2⟩

/-- Spec §4.3, `big-int`: as `decimal`, with `dscale` zero. -/
def bigIntWire (b : List Byte) : Except DecodeError BigInt :=
  let ndigits := (wordAt b 0 2).toNat
  let sign := wordAt b 4 2
  if b.length < 8 then .error .underflow
  else if sign ≠ 0x0000 ∧ sign ≠ 0x4000 then .error .badSign
  else if wordAt b 6 2 ≠ 0 then .error .nonZeroReservedBytes
  else if b.length < 8 + 2 * ndigits then .error .underflow
  else if 8 + 2 * ndigits < b.length then .error .extraData
  else .ok ⟨sign = 0x4000, wordAt b 2 2, (List.range ndigits).map fun i => wordAt b (8 + 2 * i) 2⟩

theorem readSign_eq (sign : BitVec 16) :
    readSign sign = if sign ≠ 0x0000 ∧ sign ≠ 0x4000 then .error .badSign
      else .ok (sign = 0x4000) := by
  unfold readSign
  split_ifs <;> simp_all

theorem ensureExactSize_eq (buf : List Byte) (n : Nat) :
    ensureExactSize buf n = if buf.length < n then .error .underflow
      else if n < buf.length then .error .extraData else .ok () := by
  unfold ensureExactSize
  split_ifs <;> first | rfl | omega

theorem ensureExactSize_after_header {α : Type} (b : List Byte) (n : Nat) (x : α)
    (h8 : ¬ b.length < 8) :
    (ensureExactSize (b.drop 8) (n * 2) >>= fun _ => pure x) =
      if b.length < 8 + 2 * n then .error .underflow
      else if 8 + 2 * n < b.length then .error .extraData else .ok x := by
  rw [ensureExactSize_eq, List.length_drop]
  split_ifs <;> first | omega | rfl

theorem decodeDecimal_eq_wire (b : List Byte) : decodeDecimal b = decimalWire b := by
  simp only [decodeDecimal, decimalWire, getBE_fst, getBE_snd, List.drop_drop, wordAt_drop,
    readSign_eq, getDigits_eq, Nat.reduceAdd, Nat.add_zero, ge_iff_le, Nat.not_le]
  by_cases h8 : b.length < 8
  · rw [if_pos h8, if_pos h8]; rfl
  rw [if_neg h8, if_neg h8]
  by_cases hs : wordAt b 4 2 ≠ 0 ∧ wordAt b 4 2 ≠ 16384
  · rw [if_pos hs, if_pos hs]; rfl
  rw [if_neg hs, if_neg hs]
  simp only [ensureExactSize_after_header b _ _ h8]
  rfl

theorem decodeBigInt_eq_wire (b : List Byte) : decodeBigInt b = bigIntWire b := by
  simp only [decodeBigInt, bigIntWire, getBE_fst, getBE_snd, List.drop_drop, wordAt_drop,
    readSign_eq, getDigits_eq, Nat.reduceAdd, Nat.add_zero, ge_iff_le, Nat.not_le]
  by_cases h8 : b.length < 8
  · rw [if_pos h8, if_pos h8]; rfl
  rw [if_neg h8, if_neg h8]
  by_cases hs : wordAt b 4 2 ≠ 0 ∧ wordAt b 4 2 ≠ 16384
  · rw [if_pos hs, if_pos hs]; rfl
  rw [if_neg hs, if_neg hs]
  by_cases hd : wordAt b 6 2 = 0
  · simp only [hd, ne_eq, not_true_eq_false, if_false, ensureExactSize_after_header b _ _ h8]
    rfl
  · simp only [if_pos hd]; rfl

/-! ## Durations and dates -/

structure Duration where
  micros : BitVec 64

structure RelativeDuration where
  micros : BitVec 64
  days : BitVec 32
  months : BitVec 32

structure DateDuration where
  days : BitVec 32
  months : BitVec 32

structure LocalDate where
  days : BitVec 32

structure LocalTime where
  micros : BitVec 64

def decodeDuration (buf : List Byte) : Except DecodeError Duration := do
  ensureExactSize buf 16
  let (micros, buf) := getBE 8 buf
  let (days, buf) := getBE 4 buf
  let (months, _) := getBE 4 buf
  if ¬ (months = 0 ∧ days = 0) then throw .nonZeroReservedBytes
  pure ⟨micros⟩

def decodeRelativeDuration (buf : List Byte) : Except DecodeError RelativeDuration := do
  ensureExactSize buf 16
  let (micros, buf) := getBE 8 buf
  let (days, buf) := getBE 4 buf
  let (months, _) := getBE 4 buf
  pure ⟨micros, days, months⟩

def decodeDateDuration (buf : List Byte) : Except DecodeError DateDuration := do
  ensureExactSize buf 16
  let (micros, buf) := getBE 8 buf
  let (days, buf) := getBE 4 buf
  let (months, _) := getBE 4 buf
  if ¬ micros = 0 then throw .nonZeroReservedBytes
  pure ⟨days, months⟩

def decodeLocalDate (buf : List Byte) : Except DecodeError LocalDate := do
  let days ← decodeI32 buf
  pure ⟨days⟩

def decodeLocalTime (buf : List Byte) : Except DecodeError LocalTime := do
  let micros ← decodeI64 buf
  if ¬ (0 ≤ micros.toInt ∧ micros.toInt < 86400 * 1000000) then throw .invalidDate
  pure ⟨micros⟩

def sizeWire (b : List Byte) (size : Nat) : Except DecodeError Unit :=
  if b.length < size then .error .underflow
  else if size < b.length then .error .extraData
  else .ok ()

/-- Spec §4.3, `duration`: `i64 micros, u32 days == 0, u32 months == 0`. -/
def durationWire (b : List Byte) : Except DecodeError Duration :=
  (sizeWire b 16).bind fun _ =>
    if wordAt b 8 4 ≠ 0 ∨ wordAt b 12 4 ≠ 0 then .error .nonZeroReservedBytes
    else .ok ⟨wordAt b 0 8⟩

/-- Spec §4.3, `relative-duration`: `i64 micros, i32 days, i32 months`. -/
def relativeDurationWire (b : List Byte) : Except DecodeError RelativeDuration :=
  (sizeWire b 16).bind fun _ => .ok ⟨wordAt b 0 8, wordAt b 8 4, wordAt b 12 4⟩

/-- Spec §4.3, `date-duration`: `i64 micros == 0, i32 days, i32 months`. -/
def dateDurationWire (b : List Byte) : Except DecodeError DateDuration :=
  (sizeWire b 16).bind fun _ =>
    if wordAt b 0 8 ≠ 0 then .error .nonZeroReservedBytes else .ok ⟨wordAt b 8 4, wordAt b 12 4⟩

/-- Spec §4.3, `local-date`: `i32 days`. -/
def localDateWire (b : List Byte) : Except DecodeError LocalDate :=
  (sizeWire b 4).bind fun _ => .ok ⟨wordAt b 0 4⟩

/-- Spec §4.3, `local-time`: `i64 micros` in `[0, 86_400·10⁶)`, else `InvalidDate`. -/
def localTimeWire (b : List Byte) : Except DecodeError LocalTime :=
  (sizeWire b 8).bind fun _ =>
    if 0 ≤ (wordAt b 0 8).toInt ∧ (wordAt b 0 8).toInt < 86400000000 then .ok ⟨wordAt b 0 8⟩
    else .error .invalidDate

theorem ensureExactSize_eq_sizeWire (b : List Byte) (n : Nat) : ensureExactSize b n = sizeWire b n := by
  rw [ensureExactSize_eq]; rfl

theorem decodeDuration_eq_wire (b : List Byte) : decodeDuration b = durationWire b := by
  simp only [decodeDuration, durationWire, ensureExactSize_eq_sizeWire, getBE_fst, getBE_snd,
    wordAt_drop, Nat.add_zero, Nat.reduceAdd]
  cases sizeWire b 16 with
  | error e => rfl
  | ok u =>
    simp only [bind, Except.bind, pure, Except.pure, throw, throwThe, MonadExceptOf.throw]
    split_ifs <;> simp_all

theorem decodeRelativeDuration_eq_wire (b : List Byte) :
    decodeRelativeDuration b = relativeDurationWire b := by
  simp only [decodeRelativeDuration, relativeDurationWire, ensureExactSize_eq_sizeWire, getBE_fst,
    getBE_snd, wordAt_drop, Nat.add_zero, Nat.reduceAdd]
  cases sizeWire b 16 <;> rfl

theorem decodeDateDuration_eq_wire (b : List Byte) : decodeDateDuration b = dateDurationWire b := by
  simp only [decodeDateDuration, dateDurationWire, ensureExactSize_eq_sizeWire, getBE_fst,
    getBE_snd, wordAt_drop, Nat.add_zero, Nat.reduceAdd]
  cases sizeWire b 16 with
  | error e => rfl
  | ok u => simp only [bind, Except.bind, pure, Except.pure, throw, throwThe, MonadExceptOf.throw]

theorem decodeI_eq (k : Nat) (b : List Byte) :
    decodeBE k b = (sizeWire b k).bind fun _ => .ok (wordAt b 0 k) := by
  simp only [decodeBE, ensureExactSize_eq_sizeWire, getBE_fst]
  cases sizeWire b k <;> rfl

theorem decodeLocalDate_eq_wire (b : List Byte) : decodeLocalDate b = localDateWire b := by
  simp only [decodeLocalDate, localDateWire, decodeI32, decodeI_eq]
  cases sizeWire b 4 <;> rfl

theorem decodeLocalTime_eq_wire (b : List Byte) : decodeLocalTime b = localTimeWire b := by
  simp only [decodeLocalTime, localTimeWire, decodeI64, decodeI_eq]
  cases sizeWire b 8 with
  | error e => rfl
  | ok u =>
    simp only [Except.bind, bind, pure, Except.pure, throw, throwThe, MonadExceptOf.throw]
    split_ifs <;> simp_all

/-- On every buffer, each structured decoder of `raw_scalar.rs` computes the wire form spec §4.3
gives it, failing with the error the spec names. -/
theorem decoders_eq_wire :
    decodeDecimal = decimalWire ∧ decodeBigInt = bigIntWire ∧ decodeDuration = durationWire ∧
    decodeRelativeDuration = relativeDurationWire ∧ decodeDateDuration = dateDurationWire ∧
    decodeLocalDate = localDateWire ∧ decodeLocalTime = localTimeWire :=
  ⟨funext decodeDecimal_eq_wire, funext decodeBigInt_eq_wire, funext decodeDuration_eq_wire,
    funext decodeRelativeDuration_eq_wire, funext decodeDateDuration_eq_wire,
    funext decodeLocalDate_eq_wire, funext decodeLocalTime_eq_wire⟩

end GelClient.Codec
