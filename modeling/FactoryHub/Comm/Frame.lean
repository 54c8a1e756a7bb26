import FactoryHub.Lib.Bytes

/-!
# Frames and the message register

The headers of `frame_header.h`, the outgoing queue entry of `queue_entry.h` and the two functions
of `message_register.cpp` that fill and read them.

Header fields hold the host-order value; `bytes` and `ofBytes` are the network-order image that
`htons`/`htonl` and the packed structs put on the wire. The protobuf runtime itself is not part of
the repository: `Protobuf` names the two operations of it that are called.
-/

namespace FactoryHub.Comm

open Lib

inductive FrameHeaderVersion where
  | v1  -- PB_FRAME_V1
  | v2  -- PB_FRAME_V2
  deriving DecidableEq, Repr

/-- The `PB_ENCRYPTION_*` constants. -/
def encryptionNone : UInt8 := 0x00
def encryptionAes128Ecb : UInt8 := 0x01
def encryptionAes128Cbc : UInt8 := 0x02
def encryptionAes256Ecb : UInt8 := 0x03
def encryptionAes256Cbc : UInt8 := 0x04

/-- `frame_header_t`. -/
structure FrameHeader where
  headerVersion : UInt8
  cipher : UInt8
  reserved2 : UInt8
  reserved3 : UInt8
  payloadSize : UInt32
  deriving DecidableEq, Repr

/-- `message_header_t`. -/
structure MessageHeader where
  componentId : UInt16
  msgType : UInt16
  deriving DecidableEq, Repr

/-- `frame_header_v1_t`. -/
structure FrameHeaderV1 where
  componentId : UInt16
  msgType : UInt16
  payloadSize : UInt32
  deriving DecidableEq, Repr

/-- `sizeof(frame_header_t)`. -/
def frameHeaderSize : Nat := 8
/-- `sizeof(message_header_t)`. -/
def messageHeaderSize : Nat := 4
/-- `sizeof(frame_header_v1_t)`. -/
def frameHeaderV1Size : Nat := 8

namespace FrameHeader

def bytes (h : FrameHeader) : List Byte :=
  [h.headerVersion, h.cipher, h.reserved2, h.reserved3] ++ toBytes 4 h.payloadSize.toNat

/-- The `frame_header_t` at the start of a buffer. -/
def ofBytes (buf : List Byte) : FrameHeader where
  headerVersion := buf.getD 0 0
  cipher := buf.getD 1 0
  reserved2 := buf.getD 2 0
  reserved3 := buf.getD 3 0
  payloadSize := UInt32.ofNat (Lib.ofBytes (slice buf 4 4))

@[simp] theorem length_bytes (h : FrameHeader) : h.bytes.length = frameHeaderSize := by
  simp [bytes, frameHeaderSize]

/-- Whatever follows it, a written frame header is read back. -/
@[simp] theorem ofBytes_bytes_append (h : FrameHeader) (rest : List Byte) :
    ofBytes (h.bytes ++ rest) = h := by
  have hsize : slice (h.bytes ++ rest) 4 4 = toBytes 4 h.payloadSize.toNat := by
    rw [bytes]
    exact slice_append_right rfl (length_toBytes 4 _)
  rw [ofBytes, hsize, ofBytes_toBytes_uint32]
  simp [bytes]

end FrameHeader

namespace MessageHeader

def bytes (h : MessageHeader) : List Byte :=
  toBytes 2 h.componentId.toNat ++ toBytes 2 h.msgType.toNat

/-- The `message_header_t` at offset `off` of a buffer. -/
def ofBytes (buf : List Byte) (off : Nat) : MessageHeader where
  componentId := UInt16.ofNat (Lib.ofBytes (slice buf off 2))
  msgType := UInt16.ofNat (Lib.ofBytes (slice buf (off + 2) 2))

@[simp] theorem length_bytes (h : MessageHeader) : h.bytes.length = messageHeaderSize := by
  simp [bytes, messageHeaderSize]

@[simp] theorem ofBytes_append_bytes_append (h : MessageHeader) (front rest : List Byte) :
    ofBytes (front ++ h.bytes ++ rest) front.length = h := by
  have hcomp : slice (front ++ h.bytes ++ rest) front.length 2 =
      toBytes 2 h.componentId.toNat := by
    have hassoc : front ++ h.bytes ++ rest =
        front ++ toBytes 2 h.componentId.toNat ++ (toBytes 2 h.msgType.toNat ++ rest) := by
      simp [bytes, List.append_assoc]
    rw [hassoc]
    exact slice_append_right rfl (length_toBytes 2 _)
  have htype : slice (front ++ h.bytes ++ rest) (front.length + 2) 2 =
      toBytes 2 h.msgType.toNat := by
    have hassoc : front ++ h.bytes ++ rest =
        (front ++ toBytes 2 h.componentId.toNat) ++ toBytes 2 h.msgType.toNat ++ rest := by
      simp [bytes, List.append_assoc]
    rw [hassoc]
    exact slice_append_right (by simp) (length_toBytes 2 _)
  rw [ofBytes, hcomp, htype, ofBytes_toBytes_uint16, ofBytes_toBytes_uint16]

end MessageHeader

namespace FrameHeaderV1

def bytes (h : FrameHeaderV1) : List Byte :=
  toBytes 2 h.componentId.toNat ++ toBytes 2 h.msgType.toNat ++ toBytes 4 h.payloadSize.toNat

/-- The `frame_header_v1_t` at the start of a buffer. -/
def ofBytes (buf : List Byte) : FrameHeaderV1 where
  componentId := UInt16.ofNat (Lib.ofBytes (slice buf 0 2))
  msgType := UInt16.ofNat (Lib.ofBytes (slice buf 2 2))
  payloadSize := UInt32.ofNat (Lib.ofBytes (slice buf 4 4))

@[simp] theorem length_bytes (h : FrameHeaderV1) : h.bytes.length = frameHeaderV1Size := by
  simp [bytes, frameHeaderV1Size]

@[simp] theorem ofBytes_bytes_append (h : FrameHeaderV1) (rest : List Byte) :
    ofBytes (h.bytes ++ rest) = h := by
  have hcomp : slice (h.bytes ++ rest) 0 2 = toBytes 2 h.componentId.toNat := by
    have hassoc : h.bytes ++ rest = [] ++ toBytes 2 h.componentId.toNat ++
        (toBytes 2 h.msgType.toNat ++ toBytes 4 h.payloadSize.toNat ++ rest) := by
      simp [bytes, List.append_assoc]
    rw [hassoc]
    exact slice_append_right rfl (length_toBytes 2 _)
  have htype : slice (h.bytes ++ rest) 2 2 = toBytes 2 h.msgType.toNat := by
    have hassoc : h.bytes ++ rest = toBytes 2 h.componentId.toNat ++ toBytes 2 h.msgType.toNat ++
        (toBytes 4 h.payloadSize.toNat ++ rest) := by
      simp [bytes, List.append_assoc]
    rw [hassoc]
    exact slice_append_right (length_toBytes 2 _) (length_toBytes 2 _)
  have hsize : slice (h.bytes ++ rest) 4 4 = toBytes 4 h.payloadSize.toNat := by
    rw [bytes]
    exact slice_append_right (by simp) (length_toBytes 4 _)
  rw [ofBytes, hcomp, htype, hsize, ofBytes_toBytes_uint16, ofBytes_toBytes_uint16,
    ofBytes_toBytes_uint32]

end FrameHeaderV1

/-! ## Outgoing entries -/

/-- `QueueEntry`: one outgoing message. `buffers` are the three `const_buffer`s handed to the
socket; a default-constructed one is empty. -/
structure QueueEntry where
  serializedMessage : List Byte
  frameHeader : FrameHeader
  frameHeaderV1 : FrameHeaderV1
  messageHeader : MessageHeader
  buffers : List Byte × List Byte × List Byte
  encryptedMessage : List Byte

/-- `QueueEntry()` sets the version and the cipher of the frame header and leaves every other
header field to whatever the memory held: `mem` is a frame header with those contents. -/
def QueueEntry.new (mem : FrameHeader) (memV1 : FrameHeaderV1) (memMsg : MessageHeader) :
    QueueEntry where
  serializedMessage := []
  frameHeader := { mem with headerVersion := 2, cipher := encryptionNone }
  frameHeaderV1 := memV1
  messageHeader := memMsg
  buffers := ([], [], [])
  encryptedMessage := []

/-- What the socket sends for an entry: its buffers, one after the other. -/
def QueueEntry.wire (e : QueueEntry) : List Byte :=
  e.buffers.1 ++ e.buffers.2.1 ++ e.buffers.2.2

/-! ## The message register -/

/-- The operations of the protobuf runtime that the register calls: `SerializeToString` of a
message, and `ParseFromArray` into a fresh message of the prototype's type. -/
structure Protobuf (Msg Proto : Type) where
  serializeToString : Msg → Option (List Byte)
  parseFromArray : Proto → List Byte → Option Msg

/-- `MessageRegister`, as far as (de)serialisation reads it. -/
structure MessageRegister (Proto : Type) where
  messageByCompType : UInt16 × UInt16 → Option Proto

namespace MessageRegister

variable {Msg Proto : Type}

/-- `serialize`: fills both headers and returns the payload. -/
def serialize (pb : Protobuf Msg Proto) (componentId msgType : UInt16) (msg : Msg)
    (frameHeader : FrameHeader) : Except String (FrameHeader × MessageHeader × List Byte) :=
  match pb.serializeToString msg with
  | some data =>
      .ok ({ frameHeader with payloadSize := UInt32.ofNat (messageHeaderSize + data.length) },
        ⟨componentId, msgType⟩, data)
  | none => .error "Cannot serialize message"

/-- `new_message_for`. -/
def newMessageFor (mr : MessageRegister Proto) (componentId msgType : UInt16) :
    Except String Proto :=
  match mr.messageByCompType (componentId, msgType) with
  | some m => .ok m
  | none => .error ("Message type " ++ toString componentId.toNat ++ ":" ++
      toString msgType.toNat ++ " not registered")

/-- The arguments of one call of `deserialize`. `data` points `offset` bytes into `buffer`, of
which the first `filled` bytes were received (or decrypted) for the frame at hand. -/
structure Call where
  frameHeader : FrameHeader
  messageHeader : MessageHeader
  buffer : List Byte
  offset : Nat
  filled : Nat

/-- `data_size = ntohl(frame_header.payload_size) - sizeof(message_header)`, a `size_t`. -/
def Call.dataSize (c : Call) : UInt64 :=
  c.frameHeader.payloadSize.toUInt64 - UInt64.ofNat messageHeaderSize

/-- The bytes handed to `ParseFromArray`. -/
def Call.data (c : Call) : List Byte :=
  slice c.buffer c.offset c.dataSize.toNat

/-- `deserialize`. -/
def deserialize (pb : Protobuf Msg Proto) (mr : MessageRegister Proto) (c : Call) :
    Except String Msg := do
  let m ← mr.newMessageFor c.messageHeader.componentId c.messageHeader.msgType
  match pb.parseFromArray m c.data with
  | some msg => .ok msg
  | none => .error "Failed to parse message"

/-- The length arithmetic of a call is sound: the subtraction does not wrap, and the payload lies
within the bytes received for the frame. -/
def Call.Sound (c : Call) : Prop :=
  messageHeaderSize ≤ c.frameHeader.payloadSize.toNat ∧
    c.offset + (c.frameHeader.payloadSize.toNat - messageHeaderSize) ≤ c.filled

instance (c : Call) : Decidable c.Sound := by
  unfold Call.Sound
  infer_instance

/-- Without a wrap, `data_size` is the payload size less the message header. -/
theorem Call.dataSize_toNat {c : Call}
    (h : messageHeaderSize ≤ c.frameHeader.payloadSize.toNat) :
    c.dataSize.toNat = c.frameHeader.payloadSize.toNat - messageHeaderSize := by
  have hlt : c.frameHeader.payloadSize.toNat < 2 ^ 32 := c.frameHeader.payloadSize.toNat_lt
  simp only [messageHeaderSize] at h ⊢
  rw [Call.dataSize, UInt64.toNat_sub_of_le]
  · simp [messageHeaderSize]
  · rw [UInt64.le_iff_toNat_le]
    simpa [messageHeaderSize] using h

end MessageRegister

end FactoryHub.Comm
