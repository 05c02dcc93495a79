import GelClient.Wire.Bytes

/-!
# Raw scalar codecs

`raw_scalar.rs` gives each scalar type a `RawCodec::decode` from a byte slice and a
`ScalarArg::encode` that appends to the encoder's buffer. Fixed-size decoders check the size with
`ensure_exact_size`; strings and JSON check UTF-8. `RoundTrip` says an encoder and a decoder are
mutually inverse, and holds of every scalar type whose two halves are both in `raw_scalar.rs`;
`f32` and `f64` are their bit patterns. The last two sections are encoders only: a vector writes
its length as a `u16`, and a range its flags byte and then every bound it holds.
-/

namespace GelClient.Codec

inductive DecodeError where
  | underflow
  | extraData
  | invalidUtf8
  | invalidJsonFormat
  | invalidBool (val : Byte)
  | badSign
  | nonZeroReservedBytes
  | invalidDate
  deriving DecidableEq, Repr

inductive EncodeError where
  /-- A length-prefixed element whose length does not fit its four bytes. -/
  | elementTooLong
  deriving DecidableEq, Repr

/-- `ScalarArg::encode`: from the encoder's buffer to the buffer with the value appended. -/
abbrev Encode (T : Type) := T → List Byte → Except EncodeError (List Byte)

/-- The encoder appends exactly the bytes the decoder reads back as the value. -/
def RoundTrip {T : Type} (encode : Encode T) (decode : List Byte → Except DecodeError T) : Prop :=
  ∀ (v : T) (bs buf : List Byte), encode v buf = .ok (buf ++ bs) ↔ decode bs = .ok v

theorem roundTrip_of {T : Type} {encode : Encode T} {decode : List Byte → Except DecodeError T}
    (bytesOf : T → List Byte) (henc : ∀ v buf, encode v buf = .ok (buf ++ bytesOf v))
    (hdec : ∀ bs v, decode bs = .ok v ↔ bs = bytesOf v) : RoundTrip encode decode := by
  intro v bs buf
  rw [henc, hdec, Except.ok.injEq, List.append_cancel_left_eq, eq_comm]

def ensureExactSize (buf : List Byte) (expectedSize : Nat) : Except DecodeError Unit :=
  if buf.length ≠ expectedSize then
    if buf.length < expectedSize then .error .underflow else .error .extraData
  else .ok ()

@[simp] theorem ensureExactSize_eq_ok {buf : List Byte} {n : Nat} :
    ensureExactSize buf n = .ok () ↔ buf.length = n := by
  unfold ensureExactSize
  split_ifs <;> simp_all

/-! ## Fixed-width numbers -/

/-- `Buf::get_iN` after `ensure_exact_size`: the decoders of `i16`, `i32`, `i64`. -/
def decodeBE (k : Nat) (buf : List Byte) : Except DecodeError (BitVec (8 * k)) := do
  ensureExactSize buf k
  pure (getBE k buf).1

def encodeBE {k : Nat} : Encode (BitVec (8 * k)) := fun v buf => .ok (buf ++ putBE v)

theorem decodeBE_eq_ok {k : Nat} {bs : List Byte} {v : BitVec (8 * k)} :
    decodeBE k bs = .ok v ↔ bs = putBE v := by
  constructor
  · intro h
    simp only [decodeBE, bind, Except.bind] at h
    split at h
    · cases h
    · rename_i hs
      cases h
      exact (putBE_getBE bs (ensureExactSize_eq_ok.mp hs)).symm
  · rintro rfl
    have hget := getBE_putBE v []
    have hs : ensureExactSize (putBE v) k = .ok () := ensureExactSize_eq_ok.mpr (length_putBE v)
    simp only [List.append_nil] at hget
    simp [decodeBE, bind, Except.bind, pure, Except.pure, hget, hs]

theorem roundTrip_BE (k : Nat) : RoundTrip (encodeBE (k := k)) (decodeBE k) :=
  roundTrip_of putBE (fun _ _ => rfl) fun _ _ => decodeBE_eq_ok

def decodeI16 : List Byte → Except DecodeError (BitVec 16) := decodeBE 2
def encodeI16 : Encode (BitVec 16) := encodeBE (k := 2)
def decodeI32 : List Byte → Except DecodeError (BitVec 32) := decodeBE 4
def encodeI32 : Encode (BitVec 32) := encodeBE (k := 4)
def decodeI64 : List Byte → Except DecodeError (BitVec 64) := decodeBE 8
def encodeI64 : Encode (BitVec 64) := encodeBE (k := 8)

/-- An `f32`, as its IEEE-754 bit pattern. -/
structure F32 where
  bits : BitVec 32

structure F64 where
  bits : BitVec 64

structure ConfigMemory where
  bytes : BitVec 64

def decodeF32 (buf : List Byte) : Except DecodeError F32 := F32.mk <$> decodeBE 4 buf
def encodeF32 : Encode F32 := fun v => encodeBE (k := 4) v.bits
def decodeF64 (buf : List Byte) : Except DecodeError F64 := F64.mk <$> decodeBE 8 buf
def encodeF64 : Encode F64 := fun v => encodeBE (k := 8) v.bits
def decodeConfigMemory (buf : List Byte) : Except DecodeError ConfigMemory :=
  ConfigMemory.mk <$> decodeBE 8 buf
def encodeConfigMemory : Encode ConfigMemory := fun v => encodeBE (k := 8) v.bytes

theorem roundTrip_map {k : Nat} {T : Type} (mk : BitVec (8 * k) → T) (get : T → BitVec (8 * k))
    (hget : ∀ v, mk (get v) = v) (hmk : ∀ w, get (mk w) = w) :
    RoundTrip (fun v => encodeBE (get v)) (fun buf => mk <$> decodeBE k buf) := by
  refine roundTrip_of (fun v => putBE (get v)) (fun _ _ => rfl) fun bs v => ?_
  constructor
  · intro h
    cases hd : decodeBE k bs with
    | error e => simp [hd, Functor.map, Except.map] at h
    | ok w =>
      simp only [hd, Functor.map, Except.map, Except.ok.injEq] at h
      subst h
      show bs = putBE (get (mk w))
      rw [hmk]; exact decodeBE_eq_ok.mp hd
  · rintro rfl
    simp [decodeBE_eq_ok.mpr rfl, Functor.map, Except.map, hget]

/-! ## Booleans, UUIDs, strings, JSON, bytes -/

def decodeBool (buf : List Byte) : Except DecodeError Bool := do
  ensureExactSize buf 1
  let v := buf.headD 0
  if v = 0x00 then pure false else if v = 0x01 then pure true else throw (.invalidBool v)

def encodeBool : Encode Bool := fun v buf => .ok (buf ++ [if v then 0x01 else 0x00])

structure Uuid where
  bytes : List Byte
  size : bytes.length = 16

/-- `RawCodec for Uuid`: `Uuid::from_slice(buf).unwrap()` after the size check. -/
def decodeUuid (buf : List Byte) : Except DecodeError Uuid := do
  ensureExactSize buf 16
  if h : buf.length = 16 then pure ⟨buf, h⟩ else throw .underflow

def encodeUuid : Encode Uuid := fun v buf => .ok (buf ++ v.bytes)

def decodeStr (buf : List Byte) : Except DecodeError RustStr :=
  match RustStr.fromUtf8 buf with
  | some s => .ok s
  | none => .error .invalidUtf8

def decodeString (buf : List Byte) : Except DecodeError RustStr := decodeStr buf

def encodeStr : Encode RustStr := fun s buf => .ok (buf ++ s.bytes)

def encodeString : Encode RustStr := fun s buf => .ok (buf ++ s.bytes)

structure Json where
  val : RustStr

/-- `RawCodec for Json`: the format byte `1`, then UTF-8. -/
def decodeJson : List Byte → Except DecodeError Json
  | [] => .error .underflow
  | format :: buf =>
    if format ≠ 1 then .error .invalidJsonFormat
    else
      match RustStr.fromUtf8 buf with
      | some s => .ok ⟨s⟩
      | none => .error .invalidUtf8

/-- `ScalarArg for Json`: `put_u8(1)`, then the text. -/
def encodeJson : Encode Json := fun j buf => .ok (buf ++ (1 :: j.val.bytes))

def decodeSlice (buf : List Byte) : Except DecodeError (List Byte) := .ok buf
def encodeSlice : Encode (List Byte) := fun b buf => .ok (buf ++ b)
def decodeBytes (buf : List Byte) : Except DecodeError (List Byte) := .ok buf
def encodeBytes : Encode (List Byte) := fun b buf => .ok (buf ++ b)

theorem decodeBool_eq_ok {bs : List Byte} {v : Bool} :
    decodeBool bs = .ok v ↔ bs = [if v then 0x01 else 0x00] := by
  constructor
  · intro h
    simp only [decodeBool, bind, Except.bind] at h
    split at h
    · cases h
    · rename_i hs
      obtain ⟨b, rfl⟩ := List.length_eq_one.mp (ensureExactSize_eq_ok.mp hs)
      simp only [List.headD_cons] at h
      split_ifs at h with h0 h1 <;> cases h <;> simp_all
  · rintro rfl
    cases v <;> rfl

theorem decodeUuid_eq_ok {bs : List Byte} {v : Uuid} : decodeUuid bs = .ok v ↔ bs = v.bytes := by
  constructor
  · intro h
    simp only [decodeUuid, bind, Except.bind] at h
    split at h
    · cases h
    · rename_i hs
      simp only [ensureExactSize_eq_ok.mp hs, dite_true, pure, Except.pure, Except.ok.injEq] at h
      rw [← h]
  · rintro rfl
    simp [decodeUuid, bind, Except.bind, ensureExactSize_eq_ok.mpr v.size, v.size, pure,
      Except.pure]

theorem decodeStr_eq_ok {bs : List Byte} {s : RustStr} : decodeStr bs = .ok s ↔ bs = s.bytes := by
  constructor
  · intro h
    unfold decodeStr at h
    split at h
    · cases h; exact (RustStr.bytes_of_fromUtf8 ‹_›).symm
    · cases h
  · rintro rfl
    simp [decodeStr]

theorem decodeJson_eq_ok {bs : List Byte} {j : Json} :
    decodeJson bs = .ok j ↔ bs = 1 :: j.val.bytes := by
  constructor
  · intro h
    match bs, h with
    | format :: buf, h =>
      simp only [decodeJson] at h
      split_ifs at h with hf
      split at h
      · cases h
        rw [not_not] at hf
        rw [hf, RustStr.bytes_of_fromUtf8 ‹_›]
      · cases h
  · rintro rfl
    simp [decodeJson]

theorem roundTrip_F32 : RoundTrip encodeF32 decodeF32 :=
  roundTrip_map (k := 4) F32.mk F32.bits (fun _ => rfl) fun _ => rfl

theorem roundTrip_F64 : RoundTrip encodeF64 decodeF64 :=
  roundTrip_map (k := 8) F64.mk F64.bits (fun _ => rfl) fun _ => rfl

theorem roundTrip_ConfigMemory : RoundTrip encodeConfigMemory decodeConfigMemory :=
  roundTrip_map (k := 8) ConfigMemory.mk ConfigMemory.bytes (fun _ => rfl) fun _ => rfl

/-- For every scalar type whose `ScalarArg::encode` and `RawCodec::decode` are both in
`raw_scalar.rs`, the encoder appends exactly the bytes that decode to the value. -/
theorem raw_scalar_roundTrip :
    RoundTrip encodeBool decodeBool ∧ RoundTrip encodeI16 decodeI16 ∧
    RoundTrip encodeI32 decodeI32 ∧ RoundTrip encodeI64 decodeI64 ∧
    RoundTrip encodeF32 decodeF32 ∧ RoundTrip encodeF64 decodeF64 ∧
    RoundTrip encodeConfigMemory decodeConfigMemory ∧ RoundTrip encodeUuid decodeUuid ∧
    RoundTrip encodeString decodeString ∧ RoundTrip encodeStr decodeStr ∧
    RoundTrip encodeJson decodeJson ∧ RoundTrip encodeBytes decodeBytes ∧
    RoundTrip encodeSlice decodeSlice :=
  ⟨roundTrip_of _ (fun _ _ => rfl) fun _ _ => decodeBool_eq_ok,
    roundTrip_BE 2, roundTrip_BE 4, roundTrip_BE 8,
    roundTrip_F32, roundTrip_F64, roundTrip_ConfigMemory,
    roundTrip_of _ (fun _ _ => rfl) fun _ _ => decodeUuid_eq_ok,
    roundTrip_of _ (fun _ _ => rfl) fun _ _ => decodeStr_eq_ok,
    roundTrip_of _ (fun _ _ => rfl) fun _ _ => decodeStr_eq_ok,
    roundTrip_of _ (fun _ _ => rfl) fun _ _ => decodeJson_eq_ok,
    roundTrip_of _ (fun _ _ => rfl) fun _ _ => by simp [decodeBytes, eq_comm],
    roundTrip_of _ (fun _ _ => rfl) fun _ _ => by simp [decodeSlice, eq_comm]⟩

/-! ## Vectors -/

/-- `ScalarArg for VectorRef`: the length as a `u16` (`len() as u16`), a reserved zero `u16`,
then each element's bits. -/
def encodeVectorRef : Encode (List F32) := fun v buf =>
  .ok (buf ++ putBE (k := 2) (BitVec.ofNat 16 v.length) ++ putBE (k := 2) 0 ++
    (v.map fun x => putBE (k := 4) x.bits).flatten)

def encodeVector : Encode (List F32) := fun v => encodeVectorRef v

theorem encodeVectorRef_eq (v : List F32) (buf : List Byte) :
    encodeVectorRef v buf = .ok (buf ++ beBytes 2 (v.length % 2 ^ 16) ++ beBytes 2 0 ++
      (v.map fun x => beBytes 4 x.bits.toNat).flatten) := by
  simp [encodeVectorRef, putBE, BitVec.toNat_ofNat]

theorem length_flatten_bits (v : List F32) :
    ((v.map fun x => beBytes 4 x.bits.toNat).flatten).length = 4 * v.length := by
  induction v with
  | nil => rfl
  | cons x v ih => simp only [List.map_cons, List.flatten_cons, List.length_append,
      length_beBytes, ih, List.length_cons]; omega

/-- A vector of `2 ^ 16` elements is written, with `0` in its length field. -/
theorem encodeVectorRef_wraps :
    ∃ bs, encodeVectorRef (List.replicate 65536 ⟨0⟩) [] = .ok bs ∧
      bs.take 2 = [0#8, 0#8] ∧ bs.length = 4 + 4 * 65536 := by
  refine ⟨_, encodeVectorRef_eq _ [], ?_, ?_⟩
  · simp only [List.length_replicate, List.nil_append, List.append_assoc]
    decide
  · simp only [List.nil_append, List.length_append, length_beBytes, length_flatten_bits,
      List.length_replicate]

/-! ## Ranges

The flags `EMPTY` … `UB_INF` of `model::range` and `Encoder::length_prefixed` are not in this
repository and are modelled from the spec (§4.3). -/

structure Range (T : Type) where
  lower : Option T
  upper : Option T
  incLower : Bool
  incUpper : Bool
  empty : Bool

def EMPTY : Nat := 0x01
def LB_INC : Nat := 0x02
def UB_INC : Nat := 0x04
def LB_INF : Nat := 0x08
def UB_INF : Nat := 0x10

def rangeFlags {T : Type} (r : Range T) : Nat :=
  if r.empty then EMPTY
  else (if r.incLower then LB_INC else 0) ||| (if r.incUpper then UB_INC else 0) |||
    (if r.lower.isNone then LB_INF else 0) ||| (if r.upper.isNone then UB_INF else 0)

/-- Modelled from the spec: `Encoder::length_prefixed` reserves four bytes, runs the element's
encoder, and writes the element's length over them as a `u32`; a longer element is refused. -/
def lengthPrefixed (f : List Byte → Except EncodeError (List Byte)) (buf : List Byte) :
    Except EncodeError (List Byte) := do
  let pos := buf.length
  let buf ← f (buf ++ putBE (k := 4) 0)
  let len := buf.length - pos - 4
  if len < 2 ^ 32 then pure (buf.take pos ++ beBytes 4 len ++ buf.drop (pos + 4))
  else throw .elementTooLong

/-- `ScalarArg for Range<T>`: the flags byte, then each bound that is present, length-prefixed. -/
def encodeRange {T : Type} (encodeT : Encode T) : Encode (Range T) := fun r buf => do
  let buf := buf ++ [BitVec.ofNat 8 (rangeFlags r)]
  let buf ← match r.lower with
    | some lower => lengthPrefixed (encodeT lower) buf
    | none => pure buf
  match r.upper with
    | some upper => lengthPrefixed (encodeT upper) buf
    | none => pure buf

def prefixedBytes (e : List Byte) : List Byte := beBytes 4 e.length ++ e

theorem lengthPrefixed_of_appends {f : List Byte → Except EncodeError (List Byte)}
    {e : List Byte} (hf : ∀ buf, f buf = .ok (buf ++ e)) (hlen : e.length < 2 ^ 32)
    (buf : List Byte) : lengthPrefixed f buf = .ok (buf ++ prefixedBytes e) := by
  have hput : (putBE (k := 4) 0).length = 4 := length_putBE _
  have hsize : (buf ++ (putBE (k := 4) 0 ++ e)).length - buf.length - 4 = e.length := by
    simp only [List.length_append, hput]; omega
  have hdrop : (buf ++ (putBE (k := 4) 0 ++ e)).drop (buf.length + 4) = e := by
    rw [List.drop_append_eq_append_drop, List.drop_eq_nil_of_le (by omega), List.nil_append,
      Nat.add_sub_cancel_left, List.drop_left' hput]
  simp only [lengthPrefixed, hf, bind, Except.bind, List.append_assoc, hsize, if_pos hlen, pure,
    Except.pure, List.take_left, hdrop, prefixedBytes]

def boundBytes {T : Type} (bytesOf : T → List Byte) : Option T → List Byte
  | some v => prefixedBytes (bytesOf v)
  | none => []

/-- A bound's encoding succeeds: the element's encoder appends `bytesOf v`, whose length fits
the `u32` prefix. -/
def BoundEncodes {T : Type} (encodeT : Encode T) (bytesOf : T → List Byte) (v : T) : Prop :=
  (∀ buf, encodeT v buf = .ok (buf ++ bytesOf v)) ∧ (bytesOf v).length < 2 ^ 32

theorem encodeBound_eq {T : Type} {encodeT : Encode T} {bytesOf : T → List Byte}
    {b : Option T} (hb : ∀ v, b = some v → BoundEncodes encodeT bytesOf v) (buf : List Byte) :
    (match b with
      | some v => lengthPrefixed (encodeT v) buf
      | none => pure buf) = .ok (buf ++ boundBytes bytesOf b) := by
  cases b with
  | none => simp [boundBytes, pure, Except.pure]
  | some v =>
    obtain ⟨henc, hfit⟩ := hb v rfl
    exact lengthPrefixed_of_appends henc hfit buf

/-- When its bounds encode, `Range::encode` writes the flags byte and then every bound that is
present, whatever the flags say. -/
theorem encodeRange_eq {T : Type} {encodeT : Encode T} {bytesOf : T → List Byte} (r : Range T)
    (hlower : ∀ v, r.lower = some v → BoundEncodes encodeT bytesOf v)
    (hupper : ∀ v, r.upper = some v → BoundEncodes encodeT bytesOf v) (buf : List Byte) :
    encodeRange encodeT r buf =
      .ok (buf ++ [BitVec.ofNat 8 (rangeFlags r)] ++ boundBytes bytesOf r.lower ++
        boundBytes bytesOf r.upper) := by
  have hsplit : encodeRange encodeT r buf =
      (match r.lower with
        | some v => lengthPrefixed (encodeT v) (buf ++ [BitVec.ofNat 8 (rangeFlags r)])
        | none => pure (buf ++ [BitVec.ofNat 8 (rangeFlags r)])) >>= fun buf =>
      match r.upper with
        | some v => lengthPrefixed (encodeT v) buf
        | none => pure buf := by
    unfold encodeRange; cases r.lower <;> rfl
  rw [hsplit, encodeBound_eq hlower]
  exact encodeBound_eq hupper _


theorem rangeFlags_testBit {T : Type} (r : Range T) :
    (rangeFlags r).testBit 0 = r.empty ∧
      (r.empty = false → (rangeFlags r).testBit 1 = r.incLower ∧
        (rangeFlags r).testBit 2 = r.incUpper ∧ (rangeFlags r).testBit 3 = r.lower.isNone ∧
        (rangeFlags r).testBit 4 = r.upper.isNone) := by
  -- the flags depend on five booleans only
  have bits : ∀ e il iu ln un : Bool,
      let f := if e then EMPTY else (if il then LB_INC else 0) ||| (if iu then UB_INC else 0) |||
        (if ln then LB_INF else 0) ||| (if un then UB_INF else 0)
      f.testBit 0 = e ∧ (e = false → f.testBit 1 = il ∧ f.testBit 2 = iu ∧ f.testBit 3 = ln ∧
        f.testBit 4 = un) := by decide
  exact bits r.empty r.incLower r.incUpper r.lower.isNone r.upper.isNone

/-- For a range whose bounds encode and that is empty only without bounds, `Range::encode` writes the
flags byte and exactly the bounds a reader following the flags takes; the flags follow the fields. -/
theorem encodeRange_follows_flags {T : Type} {encodeT : Encode T} {bytesOf : T → List Byte}
    (r : Range T)
    (hbounds : ∀ v, r.lower = some v ∨ r.upper = some v → BoundEncodes encodeT bytesOf v)
    (hshape : r.empty = true → r.lower = none ∧ r.upper = none) (buf : List Byte) :
    encodeRange encodeT r buf = .ok (buf ++ [BitVec.ofNat 8 (rangeFlags r)] ++
        (if (rangeFlags r).testBit 0 || (rangeFlags r).testBit 3 then []
          else boundBytes bytesOf r.lower) ++
        (if (rangeFlags r).testBit 0 || (rangeFlags r).testBit 4 then []
          else boundBytes bytesOf r.upper)) ∧
      (rangeFlags r).testBit 0 = r.empty ∧
      (r.empty = false → (rangeFlags r).testBit 1 = r.incLower ∧
        (rangeFlags r).testBit 2 = r.incUpper ∧ (rangeFlags r).testBit 3 = r.lower.isNone ∧
        (rangeFlags r).testBit 4 = r.upper.isNone) := by
  obtain ⟨hempty, hbits⟩ := rangeFlags_testBit r
  refine ⟨?_, hempty, hbits⟩
  rw [encodeRange_eq r (fun v h => hbounds v (.inl h)) (fun v h => hbounds v (.inr h)), hempty]
  cases he : r.empty
  case true =>
    obtain ⟨hl, hu⟩ := hshape he
    simp only [hl, hu, boundBytes, Bool.true_or, if_true]
  case false =>
    obtain ⟨-, -, hlower, hupper⟩ := hbits he
    rw [hlower, hupper]
    cases r.lower <;> cases r.upper <;> rfl

/-- The spec's range `[1, 10)` over `i64`. -/
def oneToTen : Range (BitVec 64) := ⟨some 1, some 10, true, false, false⟩

theorem encodeRange_oneToTen :
    encodeRange encodeI64 oneToTen [] =
      .ok ([0x02#8] ++ [0#8, 0#8, 0#8, 8#8] ++ [0#8, 0#8, 0#8, 0#8, 0#8, 0#8, 0#8, 1#8] ++
        [0#8, 0#8, 0#8, 8#8] ++ [0#8, 0#8, 0#8, 0#8, 0#8, 0#8, 0#8, 10#8]) :=
  @encodeRange_follows_flags _ _ (putBE (k := 8)) oneToTen
    (fun _ _ => ⟨fun _ => rfl, by rw [length_putBE]; decide⟩) (by decide) [] |>.1.trans rfl

/-- The empty range `[1, ∞)` over `i64`, which still holds its lower bound. -/
def emptyWithLower : Range (BitVec 64) := ⟨some 1, none, true, false, true⟩

/-- `Range::encode` writes `EMPTY` and then the lower bound all the same. -/
theorem encodeRange_empty_writes_bound :
    rangeFlags emptyWithLower = EMPTY ∧
      encodeRange encodeI64 emptyWithLower [] =
        .ok ([0x01#8] ++ [0#8, 0#8, 0#8, 8#8] ++ [0#8, 0#8, 0#8, 0#8, 0#8, 0#8, 0#8, 1#8]) :=
  ⟨rfl, rfl⟩

end GelClient.Codec
