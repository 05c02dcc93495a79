import Mathlib.Data.BitVec

/-!
# Bytes on the wire

Every encoder of the client appends to a byte buffer and every decoder reads a byte slice. A byte
is a `BitVec 8` and a buffer a `List Byte`. Integers go over the wire in network byte order:
`beBytes k n` is what `BufMut::put_u16`, `put_i32`, ... write and `beVal` reads it back; a Rust
`i16` and `u16` are both a `BitVec 16`. `Buf::get_*` panics on a short buffer, but every read the
client makes follows a size check, so `getBE` reads with `take`/`drop`. A Rust `str` is a byte
string that is valid UTF-8 by the automaton of Unicode Table 3-7 (`utf8Step`).
-/

namespace GelClient

abbrev Byte := BitVec 8

/-- The `k`-byte big-endian form of `n` (taken modulo `256 ^ k`). -/
def beBytes : Nat → Nat → List Byte
  | 0, _ => []
  | k + 1, n => beBytes k (n / 256) ++ [BitVec.ofNat 8 n]

def beVal (bs : List Byte) : Nat := bs.foldl (fun acc b => acc * 256 + b.toNat) 0

@[simp] theorem length_beBytes (k n : Nat) : (beBytes k n).length = k := by
  induction k generalizing n with
  | zero => rfl
  | succ k ih => simp [beBytes, ih]

@[simp] theorem beVal_nil : beVal [] = 0 := rfl

theorem beVal_append_single (bs : List Byte) (b : Byte) :
    beVal (bs ++ [b]) = beVal bs * 256 + b.toNat := by
  simp [beVal, List.foldl_append]

theorem beVal_lt (bs : List Byte) : beVal bs < 256 ^ bs.length := by
  induction bs using List.reverseRecOn with
  | nil => simp
  | append_singleton bs b ih =>
    have := b.isLt
    rw [beVal_append_single, List.length_append, List.length_singleton, Nat.pow_succ]
    simp only [Nat.reducePow] at this
    omega

theorem beVal_beBytes (k n : Nat) : beVal (beBytes k n) = n % 256 ^ k := by
  induction k generalizing n with
  | zero => simp [beBytes, Nat.mod_one]
  | succ k ih =>
    rw [beBytes, beVal_append_single, ih, BitVec.toNat_ofNat, show 256 ^ (k + 1) = 256 * 256 ^ k
      from Nat.pow_succ', Nat.mod_mul]
    omega

theorem beBytes_beVal (bs : List Byte) : beBytes bs.length (beVal bs) = bs := by
  induction bs using List.reverseRecOn with
  | nil => rfl
  | append_singleton bs b ih =>
    have := b.isLt
    simp only [List.length_append, List.length_singleton, beBytes, beVal_append_single]
    rw [show (beVal bs * 256 + b.toNat) / 256 = beVal bs by omega, ih]
    congr
    apply BitVec.eq_of_toNat_eq
    simp only [BitVec.toNat_ofNat]
    omega

/-- `Buf::get_uN`, `get_iN`: the first `k` bytes as a big-endian word, and the bytes after them. -/
def getBE (k : Nat) (bs : List Byte) : BitVec (8 * k) × List Byte :=
  (BitVec.ofNat (8 * k) (beVal (bs.take k)), bs.drop k)

/-- `BufMut::put_uN`, `put_iN`: a word's `k` big-endian bytes. -/
def putBE {k : Nat} (v : BitVec (8 * k)) : List Byte := beBytes k v.toNat

@[simp] theorem length_putBE {k : Nat} (v : BitVec (8 * k)) : (putBE v).length = k :=
  length_beBytes k _

theorem pow_eight_mul (k : Nat) : 2 ^ (8 * k) = 256 ^ k := by
  rw [Nat.pow_mul]

@[simp] theorem getBE_putBE {k : Nat} (v : BitVec (8 * k)) (rest : List Byte) :
    getBE k (putBE v ++ rest) = (v, rest) := by
  have hv := v.isLt
  rw [pow_eight_mul] at hv
  simp only [getBE, putBE, List.take_left' (length_beBytes k _),
    List.drop_left' (length_beBytes k _), beVal_beBytes, Nat.mod_eq_of_lt hv, BitVec.ofNat_toNat,
    BitVec.setWidth_eq]

theorem putBE_getBE {k : Nat} (bs : List Byte) (h : bs.length = k) :
    putBE (getBE k bs).1 = bs := by
  subst h
  have := beVal_lt bs
  simp only [putBE, getBE, List.take_length, BitVec.toNat_ofNat, pow_eight_mul,
    Nat.mod_eq_of_lt this, beBytes_beVal]

/-! ## UTF-8 -/

/-- The state after the first byte of a character: continuation bytes still owed, and the
range the next one must lie in. `none` for a byte no character starts with. -/
def utf8Lead (b : Byte) : Option (Nat × Nat × Nat) :=
  let n := b.toNat
  if n ≤ 0x7F then some (0, 0x80, 0xBF)
  else if 0xC2 ≤ n ∧ n ≤ 0xDF then some (1, 0x80, 0xBF)
  else if n = 0xE0 then some (2, 0xA0, 0xBF)
  else if n = 0xED then some (2, 0x80, 0x9F)
  else if 0xE1 ≤ n ∧ n ≤ 0xEF then some (2, 0x80, 0xBF)
  else if n = 0xF0 then some (3, 0x90, 0xBF)
  else if n = 0xF4 then some (3, 0x80, 0x8F)
  else if 0xF1 ≤ n ∧ n ≤ 0xF3 then some (3, 0x80, 0xBF)
  else none

/-- One byte of `run_utf8_validation`. -/
def utf8Step : Nat × Nat × Nat → Byte → Option (Nat × Nat × Nat)
  | (0, _, _), b => utf8Lead b
  | (k + 1, lo, hi), b => if lo ≤ b.toNat ∧ b.toNat ≤ hi then some (k, 0x80, 0xBF) else none

def utf8Valid (bs : List Byte) : Bool :=
  match bs.foldlM utf8Step (0, 0x80, 0xBF) with
  | some (0, _, _) => true
  | _ => false

/-- A Rust `str` (or `String`): its bytes, which are valid UTF-8. -/
structure RustStr where
  bytes : List Byte
  valid : utf8Valid bytes = true

def RustStr.fromUtf8 (bs : List Byte) : Option RustStr :=
  if h : utf8Valid bs = true then some ⟨bs, h⟩ else none

@[simp] theorem RustStr.fromUtf8_bytes (s : RustStr) : RustStr.fromUtf8 s.bytes = some s := by
  simp [fromUtf8, s.valid]

theorem RustStr.bytes_of_fromUtf8 {bs : List Byte} {s : RustStr} (h : RustStr.fromUtf8 bs = some s) :
    s.bytes = bs := by
  unfold fromUtf8 at h
  split at h
  · cases h; rfl
  · cases h

end GelClient
