import GelClient.Protocol.Layout

/-!
# Message frames and message groups

Every message is `mtype`, `mlen` and a payload, where `mlen` counts its own four bytes and the
payload's (spec §3). Writing prepends the tag and back-patches `mlen`, failing with
`MessageTooLarge` past a `u32`; reading takes the header, refuses `mlen < 4`, and splits off
`mlen + 1` bytes, so a message the group cannot read still leaves the stream at the next one.
A `message_group!` dispatches on the tag and, for the four `'R'` messages, on the declared values
after `mlen`: `Message.pattern` is that discriminator. The encoder, framer and group decoder the
macros generate live in `gel_protogen`, not in this repository, and are modelled from the spec.
-/

namespace GelClient.Protocol

/-- Why a message could not be read or written. -/
inductive ProtocolError where
  /-- The buffer ends inside the message. -/
  | underflow
  /-- `mlen < 4`. -/
  | messageTooShort
  /-- The payload does not fit a `u32` length. -/
  | messageTooLarge
  /-- No member of the group has the message's tag and discriminator. -/
  | unexpectedMessage
  /-- The payload does not follow the member's layout. -/
  | invalidData
  deriving DecidableEq, Repr

/-- A `protocol!` message struct: its `mtype` and the fields after `mlen`. -/
structure Message where
  mtype : Byte
  fields : List FieldTy

abbrev Message.Val (M : Message) : Type := FieldTy.Row M.fields

def Message.encode (M : Message) (m : M.Val) : Except ProtocolError (List Byte) :=
  let payload := FieldTy.encodeRow M.fields m
  if payload.length + 4 < 2 ^ 32 then .ok (M.mtype :: (beBytes 4 (payload.length + 4) ++ payload))
  else .error .messageTooLarge

def splitFrame : List Byte → Except ProtocolError (List Byte × List Byte)
  | [] => .error .underflow
  | t :: bs =>
    if bs.length < 4 then .error .underflow
    else if beVal (bs.take 4) < 4 then .error .messageTooShort
    else if bs.length < beVal (bs.take 4) then .error .underflow
    else .ok (t :: bs.take (beVal (bs.take 4)), bs.drop (beVal (bs.take 4)))

structure Decoded (M : Message) where
  mtype : Byte
  mlen : BitVec 32
  body : M.Val

def Message.decodeFrame (M : Message) : List Byte → Option (Decoded M)
  | [] => none
  | t :: bs =>
    match FieldTy.decodeRow M.fields (getBE 4 bs).2 with
    | some (body, []) => if t = M.mtype then some ⟨t, (getBE 4 bs).1, body⟩ else none
    | _ => none

/-! ## Discriminators -/

/-- The bytes every encoding of the fields starts with, as far as they are fixed: `some` for
a byte of a declared value, `none` for any other byte of a fixed-size field. It ends at the
first field whose size varies. -/
def fieldsPattern : List FieldTy → List (Option Byte)
  | .fixed w c :: fs => (beBytes w c).map some ++ fieldsPattern fs
  | .int w :: fs => List.replicate w none ++ fieldsPattern fs
  | .bytes n :: fs => List.replicate n none ++ fieldsPattern fs
  | .enumU8 _ :: fs => none :: fieldsPattern fs
  | _ => []

/-- The discriminator `message_group!` peeks: the tag, the four bytes of `mlen`, and the
leading fixed bytes of the payload. -/
def Message.pattern (M : Message) : List (Option Byte) :=
  some M.mtype :: (List.replicate 4 none ++ fieldsPattern M.fields)

def patternMatches : List (Option Byte) → List Byte → Bool
  | [], _ => true
  | _ :: _, [] => false
  | none :: ps, _ :: bs => patternMatches ps bs
  | some p :: ps, b :: bs => p == b && patternMatches ps bs

def patternsClash : List (Option Byte) → List (Option Byte) → Bool
  | some a :: ps, some b :: qs => a != b || patternsClash ps qs
  | _ :: ps, _ :: qs => patternsClash ps qs
  | _, _ => false

structure MessageGroup where
  members : List Message

namespace MessageGroup

def identify (G : MessageGroup) (frame : List Byte) : Option Message :=
  G.members.find? fun M => patternMatches M.pattern frame

def decodeFrame (G : MessageGroup) (frame : List Byte) :
    Except ProtocolError ((M : Message) × Decoded M) :=
  match G.identify frame with
  | none => .error .unexpectedMessage
  | some M =>
    match M.decodeFrame frame with
    | some d => .ok ⟨M, d⟩
    | none => .error .invalidData

/-- Modelled from the spec: split one message off the buffer and decode it through the group.
The outer error is a frame that cannot be split; once it is split, the bytes after it are
returned whatever the group makes of the message. -/
def decode (G : MessageGroup) (buf : List Byte) :
    Except ProtocolError (Except ProtocolError ((M : Message) × Decoded M) × List Byte) := do
  let (frame, rest) ← splitFrame buf
  pure (G.decodeFrame frame, rest)

end MessageGroup

/-! ## Well-formed groups -/

def FieldTy.isRest : FieldTy → Bool
  | .rest => true
  | _ => false

def restLast : List FieldTy → Bool
  | [] => true
  | [t] => t.bounded || t.isRest
  | t :: t' :: ts => t.bounded && restLast (t' :: ts)

def pairwiseClash : List Message → Bool
  | [] => true
  | M :: Ms => Ms.all (fun N => patternsClash M.pattern N.pattern) && pairwiseClash Ms

/-- A group `message_group!` can dispatch: every member's layout reads back, and no buffer
matches two members' discriminators. -/
def MessageGroup.wellFormed (G : MessageGroup) : Bool :=
  G.members.all (fun M => restLast M.fields) && pairwiseClash G.members

/-! ## Matching a discriminator -/

theorem patternMatches_append : ∀ {ps : List (Option Byte)} {bs : List Byte}
    (qs : List (Option Byte)) (rest : List Byte), ps.length = bs.length →
    patternMatches ps bs = true → patternMatches qs rest = true →
    patternMatches (ps ++ qs) (bs ++ rest) = true
  | [], [], _, _, _, _, h => h
  | none :: ps, _ :: bs, qs, rest, hl, hp, hq =>
    @patternMatches_append ps bs qs rest (by simpa using hl) hp hq
  | some _ :: _, _ :: _, qs, rest, hl, hp, hq => by
    simp only [patternMatches, Bool.and_eq_true] at hp
    simp only [List.cons_append, patternMatches, hp.1, Bool.true_and]
    exact patternMatches_append qs rest (by simpa using hl) hp.2 hq
  | [], _ :: _, _, _, hl, _, _ | _ :: _, [], _, _, hl, _, _ => by simp at hl

theorem patternMatches_replicate (bs : List Byte) :
    patternMatches (List.replicate bs.length none) bs = true := by
  induction bs with
  | nil => rfl
  | cons b bs ih => exact ih

theorem patternMatches_map_some (bs : List Byte) : patternMatches (bs.map some) bs = true := by
  induction bs with
  | nil => rfl
  | cons b bs ih => simpa [patternMatches] using ih

theorem fieldsPattern_encodeRow : ∀ (ts : List FieldTy) (vs : FieldTy.Row ts) (tail : List Byte),
    patternMatches (fieldsPattern ts) (FieldTy.encodeRow ts vs ++ tail) = true
  | .fixed w c :: ts, ((), vs), tail => by
    simp only [fieldsPattern, FieldTy.encodeRow, FieldTy.encode, List.append_assoc]
    exact patternMatches_append _ _ (by simp) (patternMatches_map_some _)
      (fieldsPattern_encodeRow ts vs tail)
  | .int w :: ts, (v, vs), tail => by
    simp only [fieldsPattern, FieldTy.encodeRow, FieldTy.encode, List.append_assoc]
    have := patternMatches_replicate (putBE v)
    rw [length_putBE] at this
    exact patternMatches_append _ _ (by simp) this (fieldsPattern_encodeRow ts vs tail)
  | .bytes n :: ts, (⟨bs, hbs⟩, vs), tail => by
    subst hbs
    simp only [fieldsPattern, FieldTy.encodeRow, FieldTy.encode, List.append_assoc]
    exact patternMatches_append _ _ (by simp) (patternMatches_replicate bs)
      (fieldsPattern_encodeRow ts vs tail)
  | .enumU8 _ :: ts, (v, vs), tail => fieldsPattern_encodeRow ts vs tail
  | [], _, _ | .lstring :: _, _, _ | .array _ _ :: _, _, _ | .struct _ :: _, _, _
  | .rest :: _, _, _ => by simp [fieldsPattern, patternMatches]

theorem not_matches_of_clash {p q : List (Option Byte)} {bs : List Byte}
    (hc : patternsClash p q = true) (hp : patternMatches p bs = true) :
    patternMatches q bs = false := by
  induction p generalizing q bs with
  | nil => simp [patternsClash] at hc
  | cons x ps ih =>
    cases q with
    | nil => cases x <;> simp [patternsClash] at hc
    | cons y qs =>
      cases bs with
      | nil => simp [patternMatches] at hp
      | cons c bs =>
        cases x <;> cases y <;>
          simp only [patternsClash, patternMatches, Bool.or_eq_true, bne_iff_ne, ne_eq,
            Bool.and_eq_true, beq_iff_eq, Bool.and_eq_false_iff] at hc hp ⊢
        · exact ih hc hp
        · exact .inr (ih hc hp)
        · exact ih hc hp.2
        · rcases hc with hc | hc
          · obtain ⟨rfl, -⟩ := hp
            exact .inl (by simpa [beq_eq_false_iff_ne] using Ne.symm hc)
          · exact .inr (ih hc hp.2)

theorem patternsClash_comm (p q : List (Option Byte)) : patternsClash p q = patternsClash q p := by
  induction p generalizing q with
  | nil => cases q <;> simp [patternsClash]
  | cons x ps ih =>
    cases q with
    | nil => cases x <;> simp [patternsClash]
    | cons y qs =>
      cases x <;> cases y <;> simp only [patternsClash, ih, bne, Bool.beq_comm]

/-- In a group whose members clash pairwise, a frame that matches member `M`'s discriminator
identifies `M`. -/
theorem find?_of_pairwiseClash : ∀ {Ms : List Message} {M : Message} {bs : List Byte},
    pairwiseClash Ms = true → M ∈ Ms → patternMatches M.pattern bs = true →
      Ms.find? (fun N => patternMatches N.pattern bs) = some M
  | N :: Ns, M, bs, hc, hM, hm => by
    simp only [pairwiseClash, Bool.and_eq_true, List.all_eq_true] at hc
    rcases List.mem_cons.mp hM with rfl | hM
    · simp [hm]
    · have hN : patternMatches N.pattern bs = false :=
        not_matches_of_clash ((patternsClash_comm _ _).trans (hc.1 M hM)) hm
      simp [List.find?_cons, hN, find?_of_pairwiseClash hc.2 hM hm]

/-! ## The round trip -/

theorem splitFrame_frame (t : Byte) (payload rest : List Byte) (h : payload.length + 4 < 2 ^ 32) :
    splitFrame ((t :: (beBytes 4 (payload.length + 4) ++ payload)) ++ rest) =
      .ok (t :: (beBytes 4 (payload.length + 4) ++ payload), rest) := by
  have hv : beVal (beBytes 4 (payload.length + 4)) = payload.length + 4 := by
    rw [beVal_beBytes]; exact Nat.mod_eq_of_lt h
  have hl : (beBytes 4 (payload.length + 4) ++ payload).length = payload.length + 4 := by
    simp [Nat.add_comm]
  simp only [List.cons_append, splitFrame, List.append_assoc,
    List.take_left' (length_beBytes 4 _), hv]
  simp only [List.length_append, length_beBytes, List.length_cons, ← List.append_assoc,
    List.take_left' hl, List.drop_left' hl]
  rw [if_neg (by omega), if_neg (by omega), if_neg (by omega)]

theorem decodeRow_encodeRow_restLast : ∀ (ts : List FieldTy) (vs : FieldTy.Row ts),
    restLast ts = true → FieldTy.countsFitRow ts vs = true →
      (FieldTy.encodeRow ts vs).length < 2 ^ 32 →
      FieldTy.decodeRow ts (FieldTy.encodeRow ts vs) = some (vs, [])
  | [], (), _, _, _ => rfl
  | [t], (v, ()), hr, hc, hlen => by
    simp only [restLast, Bool.or_eq_true] at hr
    rcases hr with hr | hr
    · simp only [FieldTy.countsFitRow, Bool.and_true] at hc
      simp only [FieldTy.encodeRow, List.append_nil] at hlen ⊢
      have := FieldTy.decode_encode t v [] hr hc hlen
      simp only [List.append_nil] at this
      simp [FieldTy.decodeRow, this]
    · cases t <;> simp only [FieldTy.isRest, Bool.false_eq_true] at hr
      simp [FieldTy.decodeRow, FieldTy.decode, FieldTy.encodeRow, FieldTy.encode]
  | t :: t' :: ts, (v, vs), hr, hc, hlen => by
    rw [restLast, Bool.and_eq_true] at hr
    rw [FieldTy.countsFitRow, Bool.and_eq_true] at hc
    rw [FieldTy.encodeRow, List.length_append] at hlen
    have h1 := FieldTy.decode_encode t v (FieldTy.encodeRow (t' :: ts) vs) hr.1 hc.1 (by omega)
    have h2 := decodeRow_encodeRow_restLast (t' :: ts) vs hr.2 hc.2 (by omega)
    rw [FieldTy.encodeRow, FieldTy.decodeRow, h1]
    simp [h2]

/-- In a well-formed group, a member's message whose arrays fit their count types and whose payload
fits a `u32` length encodes, and decodes back as that member and value, followed by anything. -/
theorem MessageGroup.decode_encode (G : MessageGroup) (hG : G.wellFormed = true) {M : Message}
    (hM : M ∈ G.members) (m : M.Val) (hfit : FieldTy.countsFitRow M.fields m = true)
    (hsize : (FieldTy.encodeRow M.fields m).length + 4 < 2 ^ 32) :
    ∃ bs, M.encode m = .ok bs ∧ ∀ rest, G.decode (bs ++ rest) =
      .ok (.ok ⟨M, ⟨M.mtype, BitVec.ofNat 32 (bs.length - 1), m⟩⟩, rest) := by
  simp only [wellFormed, Bool.and_eq_true, List.all_eq_true] at hG
  set payload := FieldTy.encodeRow M.fields m with hp
  refine ⟨M.mtype :: (beBytes 4 (payload.length + 4) ++ payload), by
    unfold Message.encode; rw [← hp, if_pos hsize], ?_⟩
  intro rest
  have hmatch : patternMatches M.pattern (M.mtype :: (beBytes 4 (payload.length + 4) ++ payload)) := by
    have h4 := patternMatches_replicate (beBytes 4 (payload.length + 4))
    have hf := fieldsPattern_encodeRow M.fields m []
    rw [length_beBytes] at h4
    rw [List.append_nil, ← hp] at hf
    simp only [Message.pattern, patternMatches, beq_self_eq_true, Bool.true_and]
    exact patternMatches_append _ _ (by simp) h4 hf
  have hid : G.identify (M.mtype :: (beBytes 4 (payload.length + 4) ++ payload)) = some M :=
    find?_of_pairwiseClash hG.2 hM hmatch
  have hsize' : payload.length + 4 < 4294967296 := hsize
  have hrow := decodeRow_encodeRow_restLast M.fields m (hG.1 M hM) hfit (by rw [← hp]; omega)
  have hget : getBE 4 (beBytes 4 (payload.length + 4) ++ payload) =
      (BitVec.ofNat 32 (payload.length + 4), payload) := by
    simp [getBE, List.take_left' (length_beBytes 4 _), List.drop_left' (length_beBytes 4 _),
      beVal_beBytes, Nat.mod_eq_of_lt hsize']
  have hframe : G.decodeFrame (M.mtype :: (beBytes 4 (payload.length + 4) ++ payload)) =
      .ok ⟨M, ⟨M.mtype, BitVec.ofNat 32 (payload.length + 4), m⟩⟩ := by
    simp [decodeFrame, hid, Message.decodeFrame, hget, ← hp, hrow]
  have hlen : (M.mtype :: (beBytes 4 (payload.length + 4) ++ payload)).length - 1 =
      payload.length + 4 := by simp [Nat.add_comm]
  rw [hlen]
  simp only [decode, splitFrame_frame _ _ _ hsize]
  exact congrArg (fun r => Except.ok (r, rest)) hframe

end GelClient.Protocol
