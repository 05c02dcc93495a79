import GelClient.Config.Dsn

/-!
# PEM text of the trusted certificates

`to_pem` (`config.rs`) writes each DER certificate of `tls_ca` as a PEM block: the BEGIN line,
the certificate's standard base64 in lines of 64 characters, and the END line. Each certificate
can make the loop panic at five places: the `usize` arithmetic of the buffer length (checked, as
in debug builds), `vec!` past `isize::MAX` bytes, the engine's `encode_slice` and its unwrapped
error, and `str::from_utf8(line).unwrap()`. The target's pointers are `w` bits wide, at least 16.
For every certificate of `n` bytes with `4n ≤ usize::MAX`, none of them fires.
-/

namespace GelClient.Dsn

/-! ## `usize` arithmetic on a `w`-bit target -/

def usizeMax (w : Nat) : Nat := 2 ^ w - 1

/-- `isize::MAX`: the most bytes a `Vec` holds. -/
def isizeMax (w : Nat) : Nat := 2 ^ (w - 1) - 1

/-- `a * b` on `usize`, checked as in debug builds. -/
def usizeMul (w a b : Nat) : Except String Nat :=
  if a * b ≤ usizeMax w then .ok (a * b) else .error "attempt to multiply with overflow"

def usizeAdd (w a b : Nat) : Except String Nat :=
  if a + b ≤ usizeMax w then .ok (a + b) else .error "attempt to add with overflow"

def vecZeros (w len : Nat) : Except String (List Byte) :=
  if len ≤ isizeMax w then .ok (List.replicate len 0) else .error "capacity overflow"

def unwrapFailed : String := "called `Result::unwrap()` on an `Err` value"

def unwrap {ε α : Type} : Except ε α → Except String α
  | .ok a => .ok a
  | .error _ => .error unwrapFailed

theorem usizeMul_of_le {w a b : Nat} (h : a * b ≤ usizeMax w) : usizeMul w a b = .ok (a * b) :=
  if_pos h

theorem usizeAdd_of_le {w a b : Nat} (h : a + b ≤ usizeMax w) : usizeAdd w a b = .ok (a + b) :=
  if_pos h

theorem vecZeros_of_le {w len : Nat} (h : len ≤ isizeMax w) :
    vecZeros w len = .ok (List.replicate len 0) :=
  if_pos h

/-! ## The base64 engine

The `base64` crate is not in this repository: `encodedLen` and `encodeSlice` are modelled from
the crate, and `base64Encode` is the standard encoding with padding of RFC 4648 §4. -/

def asciiBytes (s : String) : List Byte := s.toList.map fun c => BitVec.ofNat 8 c.toNat

def standardAlphabet : List Byte :=
  asciiBytes "ABCDEFGHIJKLMNOPQRSTUVWXYZabcdefghijklmnopqrstuvwxyz0123456789+/"

def sextet (v : Nat) : Byte := standardAlphabet.getD v 0

def padByte : Byte := 0x3D

/-- The standard base64 of the input with padding: four characters for each three bytes, and
for a last group of two bytes or one, three characters or two, with `=` to four. -/
def base64Encode : List Byte → List Byte
  | a :: b :: c :: rest =>
    let v := a.toNat * 65536 + b.toNat * 256 + c.toNat
    [sextet (v / 262144), sextet (v / 4096 % 64), sextet (v / 64 % 64), sextet (v % 64)] ++
      base64Encode rest
  | [a, b] =>
    let v := a.toNat * 65536 + b.toNat * 256
    [sextet (v / 262144), sextet (v / 4096 % 64), sextet (v / 64 % 64), padByte]
  | [a] =>
    let v := a.toNat * 65536
    [sextet (v / 262144), sextet (v / 4096 % 64), padByte, padByte]
  | [] => []

example : base64Encode (asciiBytes "Man") = asciiBytes "TWFu" := by decide
example : base64Encode (asciiBytes "Ma") = asciiBytes "TWE=" := by decide
example : base64Encode (asciiBytes "M") = asciiBytes "TQ==" := by decide

/-- `encoded_len(bytes_len, padding)`: `none` when the length overflows `usize`. -/
def encodedLen (w bytesLen : Nat) (padding : Bool) : Option Nat :=
  let rem := bytesLen % 3
  let completeInputChunks := bytesLen / 3
  if completeInputChunks * 4 ≤ usizeMax w then
    let completeChunkOutput := completeInputChunks * 4
    if rem > 0 then
      let encodedRem := if padding then 4 else if rem = 1 then 2 else 3
      if completeChunkOutput + encodedRem ≤ usizeMax w then some (completeChunkOutput + encodedRem)
      else none
    else some completeChunkOutput
  else none

inductive EncodeSliceError where
  | outputSliceTooSmall
  deriving DecidableEq

/-- `Engine::encode_slice(input, output_buf)` for the standard engine, which pads: the number
of bytes written, with the buffer after the write. -/
def encodeSlice (w : Nat) (input outputBuf : List Byte) :
    Except String (Except EncodeSliceError Nat × List Byte) :=
  match encodedLen w input.length true with
  | none => .error "usize overflow when calculating buffer size"
  | some encodedSize =>
    if outputBuf.length < encodedSize then .ok (.error .outputSliceTooSmall, outputBuf)
    else .ok (.ok encodedSize, base64Encode input ++ outputBuf.drop encodedSize)

/-! ## `to_pem` -/

/-- `<[T]>::chunks(size)`, for `size > 0`: consecutive pieces of `size` elements, the last
possibly shorter, and none for an empty slice. -/
def chunks {α : Type} (size : Nat) (l : List α) : List (List α) := go l.length l
where
  /-- `fuel` bounds the number of pieces. -/
  go : Nat → List α → List (List α)
    | 0, _ => []
    | _ + 1, [] => []
    | fuel + 1, a :: l => (a :: l).take size :: go fuel ((a :: l).drop size)

def pemPrefix : List Byte := asciiBytes "-----BEGIN CERTIFICATE-----\n"

def pemSuffix : List Byte := asciiBytes "-----END CERTIFICATE-----\n"

/-- One line of the inner loop: `pem.push_str(std::str::from_utf8(line).unwrap())`, then
`pem.push('\n')`. -/
def pushLine (pem line : List Byte) : Except String (List Byte) :=
  match RustStr.fromUtf8 line with
  | some s => .ok (pem ++ s.bytes ++ [0x0A])
  | none => .error unwrapFailed

def pushCert (w : Nat) (pem cert : List Byte) : Except String (List Byte) := do
  let pem := pem ++ pemPrefix
  let quadruple ← usizeMul w cert.length 4
  let bufLen ← usizeAdd w (quadruple / 3) 4
  let b64 ← vecZeros w bufLen
  let (written, b64) ← encodeSlice w cert b64
  let len ← unwrap written
  let b64 := b64.take len
  let pem ← (chunks 64 b64).foldlM pushLine pem
  pure (pem ++ pemSuffix)

/-- `to_pem`: the PEM text, or the message of the panic. -/
def toPem (w : Nat) (certs : List (List Byte)) : Except String (List Byte) :=
  certs.foldlM (pushCert w) []

def Config.tlsCaPem (w : Nat) (c : Config) : Except String (Option (List Byte)) :=
  match c.tlsCa with
  | none => .ok none
  | some certs => (toPem w certs).map some

/-! ## The encoding -/

theorem length_base64Encode (input : List Byte) :
    (base64Encode input).length = 4 * ((input.length + 2) / 3) := by
  induction input using base64Encode.induct with
  | case1 a b c rest ih =>
    simp only [base64Encode, List.length_append, ih, List.length_cons, List.length_nil]
    omega
  | _ => simp [base64Encode]

theorem sextet_lt (v : Nat) : (sextet v).toNat < 128 := by
  have halpha : ∀ b ∈ standardAlphabet, b.toNat < 128 := by
    simp only [standardAlphabet, asciiBytes, List.forall_mem_map, BitVec.toNat_ofNat]
    decide
  unfold sextet
  rw [List.getD_eq_getElem?_getD]
  cases h : standardAlphabet[v]? with
  | none => decide
  | some b => exact halpha b (List.getElem?_mem h)

theorem base64Encode_ascii (input : List Byte) : ∀ b ∈ base64Encode input, b.toNat < 128 := by
  have hpad : padByte.toNat < 128 := by decide
  induction input using base64Encode.induct with
  | case1 a b c rest ih =>
    simp only [base64Encode, List.mem_append, List.mem_cons, List.not_mem_nil, or_false]
    rintro x ((rfl | rfl | rfl | rfl) | hx)
    all_goals first | exact sextet_lt _ | exact ih x hx
  | case2 | case3 =>
    simp only [base64Encode, List.mem_cons, List.not_mem_nil, or_false]
    rintro x (rfl | rfl | rfl | rfl)
    all_goals first | exact sextet_lt _ | exact hpad
  | case4 => simp [base64Encode]

theorem utf8Valid_of_ascii {bs : List Byte} (h : ∀ b ∈ bs, b.toNat < 128) : utf8Valid bs = true := by
  have hfold : ∀ bs : List Byte, (∀ b ∈ bs, b.toNat < 128) →
      bs.foldlM utf8Step (0, 0x80, 0xBF) = some (0, 0x80, 0xBF) := by
    intro bs hbs
    induction bs with
    | nil => rfl
    | cons b bs ih =>
      have hb : utf8Step (0, 0x80, 0xBF) b = some (0, 0x80, 0xBF) := by
        simp only [utf8Step, utf8Lead]
        rw [if_pos (by have := hbs b (List.mem_cons_self _ _); omega)]
      rw [List.foldlM_cons, hb]
      exact ih fun b' hb' => hbs b' (List.mem_cons_of_mem _ hb')
  rw [utf8Valid, hfold bs h]

/-! ## Lines -/

/-- `lines` is `text` in lines of 64 characters, the last of one to 64, and none when `text` is
empty. -/
def Lines64 (text : List Byte) (lines : List (List Byte)) : Prop :=
  lines.flatten = text ∧ (∀ line ∈ lines, line ≠ [] ∧ line.length ≤ 64) ∧
    ∀ line ∈ lines.dropLast, line.length = 64

section Chunks

variable {α : Type} {size : Nat}

theorem flatten_chunks_go (hs : 0 < size) :
    ∀ (fuel : Nat) (l : List α), l.length ≤ fuel → (chunks.go size fuel l).flatten = l
  | 0, [], _ => rfl
  | _ + 1, [], _ => rfl
  | fuel + 1, a :: l, h => by
    rw [chunks.go, List.flatten_cons,
      flatten_chunks_go hs fuel _ (by simp only [List.length_drop, List.length_cons] at h ⊢; omega),
      List.take_append_drop]

theorem mem_chunks_go (hs : 0 < size) :
    ∀ {fuel : Nat} {l : List α}, ∀ piece ∈ chunks.go size fuel l, piece ≠ [] ∧ piece.length ≤ size
  | 0, _, _, h => absurd h (List.not_mem_nil _)
  | _ + 1, [], _, h => absurd h (List.not_mem_nil _)
  | fuel + 1, a :: l, piece, h => by
    rw [chunks.go, List.mem_cons] at h
    rcases h with rfl | h
    · exact ⟨by simp [List.take_cons hs], List.length_take_le _ _⟩
    · exact mem_chunks_go hs piece h

theorem dropLast_chunks_go (hs : 0 < size) :
    ∀ {fuel : Nat} {l : List α}, l.length ≤ fuel →
      ∀ piece ∈ (chunks.go size fuel l).dropLast, piece.length = size
  | 0, _, _, _, h => absurd h (by simp [chunks.go])
  | _ + 1, [], _, _, h => absurd h (by simp [chunks.go])
  | fuel + 1, a :: l, hl, piece, h => by
    rw [chunks.go] at h
    cases hrest : chunks.go size fuel ((a :: l).drop size) with
    | nil => simp [hrest] at h
    | cons next pieces =>
      have hlong : size < (a :: l).length := by
        by_contra hle
        rw [List.drop_eq_nil_of_le (by omega)] at hrest
        cases fuel <;> simp [chunks.go] at hrest
      rw [hrest, List.dropLast_cons₂, List.mem_cons] at h
      rcases h with rfl | h
      · exact List.length_take_of_le (by omega)
      · rw [← hrest] at h
        exact dropLast_chunks_go hs
          (by simp only [List.length_drop, List.length_cons] at hl hlong ⊢; omega) piece h

theorem lines64_chunks (text : List Byte) : Lines64 text (chunks 64 text) :=
  ⟨flatten_chunks_go (by decide) _ _ le_rfl, mem_chunks_go (by decide),
    dropLast_chunks_go (by decide) le_rfl⟩

end Chunks

theorem mem_of_mem_chunks {text line : List Byte} {b : Byte} (hline : line ∈ chunks 64 text)
    (hb : b ∈ line) : b ∈ text := by
  rw [← (lines64_chunks text).1]
  exact List.mem_flatten.2 ⟨line, hline, hb⟩

/-! ## No panic -/

theorem foldlM_append_ok {β : Type} {f : List Byte → β → Except String (List Byte)}
    {g : β → List Byte} : ∀ {xs : List β} {acc : List Byte},
      (∀ acc, ∀ x ∈ xs, f acc x = .ok (acc ++ g x)) → xs.foldlM f acc = .ok (acc ++ xs.flatMap g)
  | [], acc, _ => by simp [pure, Except.pure]
  | x :: xs, acc, h => by
    rw [List.foldlM_cons, h acc x (List.mem_cons_self _ _)]
    refine (foldlM_append_ok fun acc y hy => h acc y (List.mem_cons_of_mem _ hy)).trans ?_
    simp

theorem encodedLen_padded {w n : Nat} (h : 4 * n ≤ usizeMax w) :
    encodedLen w n true = some (4 * ((n + 2) / 3)) := by
  simp only [encodedLen]
  split_ifs <;> first | omega | (congr 1; omega)

theorem encodedLen_le_bufLen (n : Nat) : 4 * ((n + 2) / 3) ≤ n * 4 / 3 + 4 := by omega

/-- On a target of at least 16 bits, with `4n ≤ usize::MAX` the buffer length is computed
without overflow and fits a `Vec`. -/
theorem bufLen_bounds {w n : Nat} (hw : 16 ≤ w) (h : 4 * n ≤ usizeMax w) :
    n * 4 ≤ usizeMax w ∧ n * 4 / 3 + 4 ≤ usizeMax w ∧ n * 4 / 3 + 4 ≤ isizeMax w := by
  have hpow : 2 ^ w = 2 * 2 ^ (w - 1) := by
    conv_lhs => rw [show w = w - 1 + 1 by omega]
    rw [Nat.pow_succ, Nat.mul_comm]
  have hbig : 2 ^ 15 ≤ 2 ^ (w - 1) := Nat.pow_le_pow_right (by decide) (by omega)
  unfold usizeMax isizeMax at *
  omega

theorem encodeSlice_buffer {w : Nat} {cert : List Byte} (h : 4 * cert.length ≤ usizeMax w) :
    encodeSlice w cert (List.replicate (cert.length * 4 / 3 + 4) 0) =
      .ok (.ok (4 * ((cert.length + 2) / 3)),
        base64Encode cert ++ (List.replicate (cert.length * 4 / 3 + 4) 0).drop (4 * ((cert.length + 2) / 3))) := by
  simp only [encodeSlice, encodedLen_padded h, List.length_replicate,
    if_neg (Nat.not_lt.2 (encodedLen_le_bufLen _))]

theorem pushLine_ascii {pem line : List Byte} (h : ∀ b ∈ line, b.toNat < 128) :
    pushLine pem line = .ok (pem ++ (line ++ [0x0A])) := by
  simp only [pushLine, RustStr.fromUtf8, dif_pos (utf8Valid_of_ascii h), List.append_assoc]

def pemBlock (cert : List Byte) : List Byte :=
  pemPrefix ++ (chunks 64 (base64Encode cert)).flatMap (· ++ [0x0A]) ++ pemSuffix

theorem pushCert_ok {w : Nat} (hw : 16 ≤ w) {cert : List Byte} (h : 4 * cert.length ≤ usizeMax w)
    (pem : List Byte) : pushCert w pem cert = .ok (pem ++ pemBlock cert) := by
  obtain ⟨hmul, hadd, hcap⟩ := bufLen_bounds hw h
  have hlines : (chunks 64 (base64Encode cert)).foldlM pushLine (pem ++ pemPrefix) =
      .ok (pem ++ pemPrefix ++ (chunks 64 (base64Encode cert)).flatMap (· ++ [0x0A])) :=
    foldlM_append_ok fun acc line hline => pushLine_ascii fun b hb =>
      base64Encode_ascii cert b (mem_of_mem_chunks hline hb)
  have htake : (base64Encode cert ++
      (List.replicate (cert.length * 4 / 3 + 4) 0).drop (4 * ((cert.length + 2) / 3))).take
        (4 * ((cert.length + 2) / 3)) = base64Encode cert := by
    rw [← length_base64Encode, List.take_left]
  simp only [pushCert, usizeMul_of_le hmul, usizeAdd_of_le hadd, vecZeros_of_le hcap,
    encodeSlice_buffer h, bind, Except.bind, unwrap, htake, hlines, pure, Except.pure, pemBlock,
    List.append_assoc]

theorem toPem_eq {w : Nat} (hw : 16 ≤ w) {certs : List (List Byte)}
    (hcerts : ∀ cert ∈ certs, 4 * cert.length ≤ usizeMax w) :
    toPem w certs = .ok (certs.flatMap pemBlock) := by
  rw [toPem, foldlM_append_ok fun pem cert hc => pushCert_ok hw (hcerts cert hc) pem, List.nil_append]

/-- For certificates of `n` bytes with `4n ≤ usize::MAX` each, `to_pem` does not panic, and its
text is each certificate's BEGIN line, standard base64 in lines of 64, and END line. -/
theorem toPem_blocks (w : Nat) (hw : 16 ≤ w) (certs : List (List Byte))
    (hcerts : ∀ cert ∈ certs, 4 * cert.length ≤ usizeMax w) :
    toPem w certs = .ok (certs.flatMap pemBlock) ∧
      ∀ cert ∈ certs,
        encodedLen w cert.length true = some (4 * ((cert.length + 2) / 3)) ∧
        4 * ((cert.length + 2) / 3) ≤ cert.length * 4 / 3 + 4 ∧
        (base64Encode cert).length = 4 * ((cert.length + 2) / 3) ∧
        Lines64 (base64Encode cert) (chunks 64 (base64Encode cert)) ∧
        ∀ line ∈ chunks 64 (base64Encode cert), utf8Valid line = true := by
  refine ⟨toPem_eq hw hcerts, fun cert hc => ⟨encodedLen_padded (hcerts cert hc), encodedLen_le_bufLen _,
    length_base64Encode cert, lines64_chunks _, fun line hline => utf8Valid_of_ascii fun b hb =>
      base64Encode_ascii cert b (mem_of_mem_chunks hline hb)⟩⟩

theorem toPem_blocks_der :
    (16 ≤ 64 ∧ ∀ cert ∈ [[0x30, 0x03, 0x02, 0x01, 0x05]], 4 * List.length cert ≤ usizeMax 64) ∧
      toPem 64 [[0x30, 0x03, 0x02, 0x01, 0x05]] =
        .ok ([[0x30, 0x03, 0x02, 0x01, 0x05]].flatMap pemBlock) :=
  ⟨⟨by decide, by simp [usizeMax]⟩,
    (toPem_blocks 64 (by decide) [[0x30, 0x03, 0x02, 0x01, 0x05]] (by simp [usizeMax])).1⟩

theorem Config.tlsCaPem_eq {w : Nat} (hw : 16 ≤ w) {c : Config}
    (hca : ∀ certs, c.tlsCa = some certs → ∀ cert ∈ certs, 4 * cert.length ≤ usizeMax w) :
    c.tlsCaPem w = .ok (c.tlsCa.map (·.flatMap pemBlock)) := by
  unfold Config.tlsCaPem
  split
  · simp_all
  · rename_i certs hc
    rw [toPem_eq hw (hca certs hc), hc]
    rfl

end GelClient.Dsn
