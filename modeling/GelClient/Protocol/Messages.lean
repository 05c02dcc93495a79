import GelClient.Protocol.Frame

/-!
# The messages of `protocol.rs`

Every `protocol!` struct that a `message_group!` lists, as a `Message` layout: its tag and the
types of its fields after `mlen`, in declaration order. Each of the three groups is well formed:
tags are distinct except for the four `'R'` authentication messages, whose declared
`auth_status` values sit right after `mlen`, and the only `Rest` is `Restore`'s last field.
-/

namespace GelClient.Protocol

def tag (c : Char) : Byte := BitVec.ofNat 8 c.toNat

/-! ## Field types -/

def u8 : FieldTy := .int 1
def u16 : FieldTy := .int 2
def i16 : FieldTy := .int 2
def u32 : FieldTy := .int 4
def i32 : FieldTy := .int 4
def u64 : FieldTy := .int 8
def uuid : FieldTy := .bytes 16

def ioFormat : FieldTy := .enumU8 [0x62, 0x6a, 0x4a, 0x6e]

def inputLanguage : FieldTy := .enumU8 [0x00, 0x45, 0x53]

def transactionState : FieldTy := .enumU8 [0x49, 0x54, 0x45]

def keyValue : FieldTy := .struct [u16, .array .u32 u8]

def annotation : FieldTy := .struct [.lstring, .lstring]

def dataElement : FieldTy := .struct [.array .i32 u8]

def dumpTypeInfo : FieldTy := .struct [.lstring, .lstring, uuid]

def dumpObjectDesc : FieldTy := .struct [uuid, .array .u32 u8, .array .i16 uuid]

def protocolExtension : FieldTy := .struct [.lstring, .array .i16 annotation]

def connectionParam : FieldTy := .struct [.lstring, .lstring]

/-! ## Server messages -/

def errorResponse : Message := ⟨tag 'E', [u8, u32, .lstring, .array .i16 keyValue]⟩

def logMessage : Message := ⟨tag 'L', [u8, i32, .lstring, .array .i16 annotation]⟩

def readyForCommand : Message := ⟨tag 'Z', [.array .i16 annotation, transactionState]⟩

def restoreReady : Message := ⟨tag '+', [.array .i16 keyValue, u16]⟩

def commandComplete : Message :=
  ⟨tag 'C', [.array .i16 annotation, u64, .lstring, uuid, .array .u32 u8]⟩

def commandDataDescription : Message :=
  ⟨tag 'T', [.array .i16 annotation, u64, u8, uuid, .array .u32 u8, uuid, .array .u32 u8]⟩

def stateDataDescription : Message := ⟨tag 's', [uuid, .array .u32 u8]⟩

def data : Message := ⟨tag 'D', [.array .i16 dataElement]⟩

def dumpHeader : Message :=
  ⟨tag '@', [.array .i16 keyValue, i16, i16, .lstring, .array .i32 dumpTypeInfo,
    .array .i32 dumpObjectDesc]⟩

def dumpBlock : Message := ⟨tag '=', [.array .i16 keyValue]⟩

def serverKeyData : Message := ⟨tag 'K', [.bytes 32]⟩

def parameterStatus : Message := ⟨tag 'S', [.array .u32 u8, .array .u32 u8]⟩

def serverHandshake : Message := ⟨tag 'v', [u16, u16, .array .i16 protocolExtension]⟩

def authenticationOk : Message := ⟨tag 'R', [.fixed 4 0x0]⟩

def authenticationRequiredSASLMessage : Message :=
  ⟨tag 'R', [.fixed 4 0x0A, .array .i32 .lstring]⟩

def authenticationSASLContinue : Message := ⟨tag 'R', [.fixed 4 0x0B, .array .u32 u8]⟩

def authenticationSASLFinal : Message := ⟨tag 'R', [.fixed 4 0x0C, .array .u32 u8]⟩

/-! ## Client messages -/

def clientHandshake : Message :=
  ⟨tag 'V', [u16, u16, .array .i16 connectionParam, .array .i16 protocolExtension]⟩

def authenticationSASLInitialResponse : Message := ⟨tag 'p', [.lstring, .array .u32 u8]⟩

def authenticationSASLResponse : Message := ⟨tag 'r', [.array .u32 u8]⟩

def parse2 : Message :=
  ⟨tag 'P', [.array .i16 annotation, u64, u64, u64, ioFormat, u8, .lstring, uuid,
    .array .u32 u8]⟩

def parse : Message :=
  ⟨tag 'P', [.array .i16 annotation, u64, u64, u64, inputLanguage, ioFormat, u8, .lstring, uuid,
    .array .u32 u8]⟩

def execute2 : Message :=
  ⟨tag 'O', [.array .i16 annotation, u64, u64, u64, ioFormat, u8, .lstring, uuid,
    .array .u32 u8, uuid, uuid, .array .u32 u8]⟩

def execute : Message :=
  ⟨tag 'O', [.array .i16 annotation, u64, u64, u64, inputLanguage, ioFormat, u8, .lstring, uuid,
    .array .u32 u8, uuid, uuid, .array .u32 u8]⟩

def sync : Message := ⟨tag 'S', []⟩

def terminate : Message := ⟨tag 'X', []⟩

def dump2 : Message := ⟨tag '>', [.array .i16 keyValue]⟩

def dump3 : Message := ⟨tag '>', [.array .i16 annotation, u64]⟩

def restore : Message := ⟨tag '<', [.array .i16 keyValue, u16, .rest]⟩

def restoreBlock : Message := ⟨tag '=', [.array .u32 u8]⟩

def restoreEof : Message := ⟨tag '.', []⟩

/-! ## Groups -/

def edgeDBBackend : MessageGroup :=
  ⟨[authenticationOk, authenticationRequiredSASLMessage, authenticationSASLContinue,
    authenticationSASLFinal, serverKeyData, parameterStatus, serverHandshake, readyForCommand,
    restoreReady, commandComplete, commandDataDescription, stateDataDescription, data, dumpHeader,
    dumpBlock, errorResponse, logMessage]⟩

def edgeDBFrontend2 : MessageGroup :=
  ⟨[clientHandshake, authenticationSASLInitialResponse, authenticationSASLResponse, parse2,
    execute2, sync, terminate, dump2, restore, restoreBlock, restoreEof]⟩

def edgeDBFrontend : MessageGroup :=
  ⟨[clientHandshake, authenticationSASLInitialResponse, authenticationSASLResponse, parse,
    execute, sync, terminate, dump3, restore, restoreBlock, restoreEof]⟩

def messageGroups : List MessageGroup := [edgeDBBackend, edgeDBFrontend2, edgeDBFrontend]

theorem edgeDBBackend_wellFormed : edgeDBBackend.wellFormed = true := by decide

theorem edgeDBFrontend2_wellFormed : edgeDBFrontend2.wellFormed = true := by decide

theorem edgeDBFrontend_wellFormed : edgeDBFrontend.wellFormed = true := by decide

theorem wellFormed_of_mem {G : MessageGroup} (hG : G ∈ messageGroups) : G.wellFormed = true := by
  simp only [messageGroups, List.mem_cons, List.mem_singleton, List.not_mem_nil, or_false] at hG
  rcases hG with rfl | rfl | rfl
  · exact edgeDBBackend_wellFormed
  · exact edgeDBFrontend2_wellFormed
  · exact edgeDBFrontend_wellFormed

/-- For every member of every group of `protocol.rs`, a message whose arrays fit their count types
and whose payload fits `mlen` encodes, and the group reads it back, with its tag and `mlen`,
handing back exactly the bytes after it. -/
theorem decode_encode_message {G : MessageGroup} (hG : G ∈ messageGroups) {M : Message}
    (hM : M ∈ G.members) (m : M.Val) (hfit : FieldTy.countsFitRow M.fields m = true)
    (hsize : (FieldTy.encodeRow M.fields m).length + 4 < 2 ^ 32) :
    ∃ bs, M.encode m = .ok bs ∧ ∀ rest, G.decode (bs ++ rest) =
      .ok (.ok ⟨M, ⟨M.mtype, BitVec.ofNat 32 (bs.length - 1), m⟩⟩, rest) :=
  G.decode_encode (wellFormed_of_mem hG) hM m hfit hsize

theorem decode_encode_readyForCommand :
    FieldTy.countsFitRow readyForCommand.fields ([([0x6b#8], [0x76#8], ())], ⟨0x49#8, by decide⟩, ()) = true ∧
    (FieldTy.encodeRow readyForCommand.fields ([([0x6b#8], [0x76#8], ())], ⟨0x49#8, by decide⟩, ())).length + 4 < 2 ^ 32 ∧
    ∃ bs, readyForCommand.encode ([([0x6b#8], [0x76#8], ())], ⟨0x49#8, by decide⟩, ()) = .ok bs ∧
      ∀ rest, edgeDBBackend.decode (bs ++ rest) = .ok (.ok ⟨readyForCommand,
        ⟨tag 'Z', BitVec.ofNat 32 (bs.length - 1), ([([0x6b#8], [0x76#8], ())], ⟨0x49#8, by decide⟩, ())⟩⟩, rest) :=
  ⟨by decide, by decide, decode_encode_message (G := edgeDBBackend) (by simp [messageGroups])
    (by simp only [edgeDBBackend, List.mem_cons, true_or, or_true]) _ (by decide) (by decide)⟩

end GelClient.Protocol
