import GelClient.Wire.Bytes

/-!
# `protocol!` field layouts

`protocol.rs` declares every message as a `protocol!` struct: typed fields, some with a declared
value (`mtype: u8 = 'E'`), integers, `LString`s, `Uuid`s, nested structs, `Array`s with an
`i16`, `i32` or `u32` count, and at most a trailing `Rest`. The macro crate that turns these into
codecs (`gel_protogen`) is not among the sources, so the codec here is modelled from the spec
(§3, §4.2). A field's type is a `FieldTy`, and `FieldTy.Val` the Rust type of its value.
-/

namespace GelClient.Protocol

/-- The integer type an `Array` writes its element count as. -/
inductive CountTy where
  | i16
  | i32
  | u32
  deriving DecidableEq, Repr

namespace CountTy

def width : CountTy → Nat
  | i16 => 2
  | i32 => 4
  | u32 => 4

def max : CountTy → Nat
  | i16 => 2 ^ 15 - 1
  | i32 => 2 ^ 31 - 1
  | u32 => 2 ^ 32 - 1

theorem max_lt (c : CountTy) : c.max < 256 ^ c.width := by
  cases c <;> decide

/-- Modelled from the spec: read a count. A signed count reads as negative exactly when it is
above `max`, and a negative count is refused. -/
def read (c : CountTy) (bs : List Byte) : Option (Nat × List Byte) :=
  if c.width ≤ bs.length ∧ beVal (bs.take c.width) ≤ c.max then
    some (beVal (bs.take c.width), bs.drop c.width)
  else none

theorem read_beBytes (c : CountTy) {n : Nat} (h : n ≤ c.max) (tail : List Byte) :
    c.read (beBytes c.width n ++ tail) = some (n, tail) := by
  have hn : n % 256 ^ c.width = n := Nat.mod_eq_of_lt (Nat.lt_of_le_of_lt h c.max_lt)
  simp [read, List.take_left' (length_beBytes _ _), List.drop_left' (length_beBytes _ _),
    beVal_beBytes, hn, h]

end CountTy

/-- The type of a field of a `protocol!` struct. -/
inductive FieldTy where
  /-- `u8`, `u16`, `i16`, `u32`, `i32`, `u64`: an integer of `width` big-endian bytes. -/
  | int (width : Nat)
  /-- A field with a declared value, such as `auth_status: i32 = 0x0A`. -/
  | fixed (width : Nat) (value : Nat)
  /-- `[u8; N]` and `Uuid`: `len` raw bytes. -/
  | bytes (len : Nat)
  /-- `LString`: a `u32` length, then that many bytes. -/
  | lstring
  /-- A `#[repr(u8)]` enum deriving `Protocol`: one byte, one of its discriminants. -/
  | enumU8 (values : List Nat)
  /-- `Array<'a, C, T>`: a count of type `C`, then that many `T`. -/
  | array (count : CountTy) (elem : FieldTy)
  /-- A nested struct (`KeyValue`, `Annotation`, ...): its fields in order. -/
  | struct (fields : List FieldTy)
  /-- `Rest<'a>`: every byte up to the end of the message. -/
  | rest

mutual

def FieldTy.Val : FieldTy → Type
  | .int w => BitVec (8 * w)
  | .fixed _ _ => Unit
  | .bytes n => {bs : List Byte // bs.length = n}
  | .lstring => List Byte
  | .enumU8 vs => {b : Byte // b.toNat ∈ vs}
  | .array _ elem => List elem.Val
  | .struct fs => FieldTy.Row fs
  | .rest => List Byte

def FieldTy.Row : List FieldTy → Type
  | [] => Unit
  | t :: ts => t.Val × FieldTy.Row ts

end

mutual

def FieldTy.encode : (t : FieldTy) → t.Val → List Byte
  | .int _, v => putBE v
  | .fixed w c, _ => beBytes w c
  | .bytes _, v => v.1
  | .lstring, (v : List Byte) => beBytes 4 v.length ++ v
  | .enumU8 _, v => [v.1]
  | .array c elem, (vs : List elem.Val) => beBytes c.width vs.length ++ (vs.map elem.encode).flatten
  | .struct fs, v => FieldTy.encodeRow fs v
  | .rest, (v : List Byte) => v

def FieldTy.encodeRow : (ts : List FieldTy) → FieldTy.Row ts → List Byte
  | [], _ => []
  | t :: ts, (v, vs) => t.encode v ++ FieldTy.encodeRow ts vs

end

def repeatDecode {α : Type} (f : List Byte → Option (α × List Byte)) :
    Nat → List Byte → Option (List α × List Byte)
  | 0, bs => some ([], bs)
  | n + 1, bs => do
    let (a, bs) ← f bs
    let (as, bs) ← repeatDecode f n bs
    pure (a :: as, bs)

mutual

/-- Modelled from the spec: read a field from the front of a buffer, returning the bytes after
it. A field with a declared value reads as that value or not at all. -/
def FieldTy.decode : (t : FieldTy) → List Byte → Option (t.Val × List Byte)
  | .int w, bs => if w ≤ bs.length then some (getBE w bs) else none
  | .fixed w c, bs => if w ≤ bs.length ∧ beVal (bs.take w) = c then some ((), bs.drop w) else none
  | .bytes n, bs => if h : n ≤ bs.length then some (⟨bs.take n, by simp [h]⟩, bs.drop n) else none
  | .lstring, bs =>
    match CountTy.u32.read bs with
    | some (n, bs) => if n ≤ bs.length then some (bs.take n, bs.drop n) else none
    | none => none
  | .enumU8 vs, b :: bs => if h : b.toNat ∈ vs then some (⟨b, h⟩, bs) else none
  | .enumU8 _, [] => none
  | .array c elem, bs =>
    match c.read bs with
    | some (n, bs) => repeatDecode elem.decode n bs
    | none => none
  | .struct fs, bs => FieldTy.decodeRow fs bs
  | .rest, bs => some (bs, [])

def FieldTy.decodeRow : (ts : List FieldTy) → List Byte → Option (FieldTy.Row ts × List Byte)
  | [], bs => some ((), bs)
  | t :: ts, bs => do
    let (v, bs) ← t.decode bs
    let (vs, bs) ← FieldTy.decodeRow ts bs
    pure ((v, vs), bs)

end

/-! ## Well-formed values -/

mutual

def FieldTy.countsFit : (t : FieldTy) → t.Val → Bool
  | .array c elem, (vs : List elem.Val) => decide (vs.length ≤ c.max) && vs.all elem.countsFit
  | .struct fs, v => FieldTy.countsFitRow fs v
  | .int _, _ | .fixed _ _, _ | .bytes _, _ | .lstring, _ | .enumU8 _, _ | .rest, _ => true

def FieldTy.countsFitRow : (ts : List FieldTy) → FieldTy.Row ts → Bool
  | [], _ => true
  | t :: ts, (v, vs) => t.countsFit v && FieldTy.countsFitRow ts vs

end

mutual

/-- The field ends where its own bytes end (no `Rest` inside), and every declared value fits
its width. -/
def FieldTy.bounded : FieldTy → Bool
  | .fixed w c => decide (c < 256 ^ w)
  | .array _ elem => elem.bounded
  | .struct fs => FieldTy.boundedRow fs
  | .rest => false
  | .int _ | .bytes _ | .lstring | .enumU8 _ => true

def FieldTy.boundedRow : List FieldTy → Bool
  | [] => true
  | t :: ts => t.bounded && FieldTy.boundedRow ts

end

/-! ## Reading back what was written -/

theorem repeatDecode_flatten {α : Type} {f : List Byte → Option (α × List Byte)}
    {enc : α → List Byte} :
    ∀ (vs : List α) (tail : List Byte), (∀ v ∈ vs, ∀ tail, f (enc v ++ tail) = some (v, tail)) →
      repeatDecode f vs.length ((vs.map enc).flatten ++ tail) = some (vs, tail)
  | [], _, _ => rfl
  | v :: vs, tail, h => by
    have hv := h v (List.mem_cons_self v vs) ((vs.map enc).flatten ++ tail)
    have hvs := repeatDecode_flatten vs tail fun w hw => h w (List.mem_cons_of_mem v hw)
    simp [repeatDecode, hv, hvs]

theorem length_le_flatten {α : Type} {f : α → List Byte} {vs : List α} {v : α} (h : v ∈ vs) :
    (f v).length ≤ ((vs.map f).flatten).length := by
  induction vs with
  | nil => cases h
  | cons w vs ih =>
    simp only [List.map_cons, List.flatten_cons, List.length_append]
    rcases List.mem_cons.mp h with rfl | h
    · omega
    · have := ih h; omega

mutual

/-- Field-level round trip. -/
theorem FieldTy.decode_encode : ∀ (t : FieldTy) (v : t.Val) (tail : List Byte),
    t.bounded = true → t.countsFit v = true → (t.encode v).length < 2 ^ 32 →
      t.decode (t.encode v ++ tail) = some (v, tail)
  | .int w, v, tail, _, _, _ => by
    simp [FieldTy.encode, FieldTy.decode]
  | .fixed w c, (), tail, hb, _, _ => by
    simp only [FieldTy.bounded, decide_eq_true_eq] at hb
    simp [FieldTy.encode, FieldTy.decode, List.take_left' (length_beBytes _ _),
      List.drop_left' (length_beBytes _ _), beVal_beBytes, Nat.mod_eq_of_lt hb]
  | .bytes n, ⟨bs, hbs⟩, tail, _, _, _ => by
    subst hbs
    simp [FieldTy.encode, FieldTy.decode]
  | .lstring, (v : List Byte), tail, _, _, hlen => by
    simp only [FieldTy.encode, List.length_append, length_beBytes] at hlen
    have := CountTy.read_beBytes .u32 (n := v.length) (by simp [CountTy.max]; omega) (v ++ tail)
    simp only [CountTy.width] at this
    simp [FieldTy.encode, FieldTy.decode, this]
  | .enumU8 vs, v, tail, _, _, _ => by
    simp [FieldTy.encode, FieldTy.decode, v.2]
  | .array c elem, (vs : List elem.Val), tail, hb, hc, hlen => by
    simp only [FieldTy.bounded] at hb
    simp only [FieldTy.countsFit, Bool.and_eq_true, decide_eq_true_eq, List.all_eq_true] at hc
    simp only [FieldTy.encode, List.length_append] at hlen
    have hread := c.read_beBytes hc.1 ((vs.map elem.encode).flatten ++ tail)
    have hrep := repeatDecode_flatten vs tail fun v hv tail =>
      FieldTy.decode_encode elem v tail hb (hc.2 v hv)
        (by have := length_le_flatten (f := elem.encode) hv; omega)
    simp only [FieldTy.encode, List.append_assoc, FieldTy.decode, hread, hrep]
  | .struct fs, v, tail, hr, hc, hlen => FieldTy.decodeRow_encodeRow fs v tail hr hc hlen
  | .rest, _, _, hr, _, _ => by cases hr

/-- Struct-level round trip. -/
theorem FieldTy.decodeRow_encodeRow : ∀ (ts : List FieldTy) (vs : FieldTy.Row ts) (tail : List Byte),
    FieldTy.boundedRow ts = true → FieldTy.countsFitRow ts vs = true →
      (FieldTy.encodeRow ts vs).length < 2 ^ 32 →
      FieldTy.decodeRow ts (FieldTy.encodeRow ts vs ++ tail) = some (vs, tail)
  | [], (), _, _, _, _ => rfl
  | t :: ts, (v, vs), tail, hr, hc, hlen => by
    simp only [FieldTy.boundedRow, FieldTy.countsFitRow, Bool.and_eq_true] at hr hc
    simp only [FieldTy.encodeRow, List.length_append] at hlen
    have h1 := FieldTy.decode_encode t v (FieldTy.encodeRow ts vs ++ tail) hr.1 hc.1 (by omega)
    have h2 := FieldTy.decodeRow_encodeRow ts vs tail hr.2 hc.2 (by omega)
    simp [FieldTy.encodeRow, FieldTy.decodeRow, h1, h2]

end

end GelClient.Protocol
