import FactoryHub.Comm.Frame

/-!
# Reading frames from a stream

The read handlers of `server.cpp` (a session) and `client.cpp`. Both read eight header bytes, then
as many bytes as the header announces into one buffer that only grows, and call `deserialize`;
`Reader` is what differs. Between two frames the buffer keeps the bytes of the earlier ones.

When the buffer cannot grow, both handlers say that they are disconnected and go on to read. The client
has closed its socket by then (`disconnect_nosig`), and nothing more arrives. The server has only
forgotten the session (`ProtobufStreamServer::disconnected`): its socket is open, and the message is
received past the end of the old block.
-/

namespace FactoryHub.Comm

open Lib MessageRegister

/-- How an end of a stream understands its eight header bytes, and the arguments it passes to
`deserialize` for the header and the `to_read` bytes at the start of `in_data_`. -/
structure Reader where
  toRead : List Byte → Nat
  callOf : List Byte → List Byte → Call

/-- `ProtobufStreamServer::Session`. -/
def session : Reader where
  toRead header := (FrameHeader.ofBytes header).payloadSize.toNat
  callOf header inData :=
    { frameHeader := FrameHeader.ofBytes header
      messageHeader := MessageHeader.ofBytes inData 0
      buffer := inData
      offset := messageHeaderSize
      filled := (FrameHeader.ofBytes header).payloadSize.toNat }

/-- `ProtobufStreamClient`. A V1 frame has the message header in its frame header, and the message
register is told of it again. -/
def streamClient (frameHeaderVersion : FrameHeaderVersion) : Reader :=
  match frameHeaderVersion with
  | .v1 =>
      { toRead := fun header => (FrameHeaderV1.ofBytes header).payloadSize.toNat
        callOf := fun header inData =>
          let h := FrameHeaderV1.ofBytes header
          { frameHeader :=
              ⟨1, encryptionNone, 0, 0, h.payloadSize + UInt32.ofNat messageHeaderSize⟩
            messageHeader := ⟨h.componentId, h.msgType⟩
            buffer := inData
            offset := 0
            filled := h.payloadSize.toNat } }
  | .v2 => session

/-- A message, or the reason why there is none, for a component and type. -/
inductive StreamSignal (Msg : Type) where
  | rcvd (componentId msgType : UInt16) (msg : Msg)
  | recvFailed (componentId msgType : UInt16) (what : String)

/-- The signal `handle_read_message` raises after its call of `deserialize`. -/
def StreamSignal.ofCall {Msg Proto : Type} (pb : Protobuf Msg Proto) (mr : MessageRegister Proto)
    (call : Call) : StreamSignal Msg :=
  match deserialize pb mr call with
  | .ok m => .rcvd call.messageHeader.componentId call.messageHeader.msgType m
  | .error e => .recvFailed call.messageHeader.componentId call.messageHeader.msgType e

namespace Reader

variable (r : Reader) (closes : Bool) (realloc : Nat → Bool)

/-- `handle_read_header` and `handle_read_message` in turn, until the stream ends or the socket is
closed because `realloc` failed, if the end `closes` it then; the calls of `deserialize`, in order.
`inData` is the block, with what was received past its end. -/
def read (inData stream : List Byte) : List Call :=
  if stream.length < frameHeaderSize then []
  else
    let header := stream.take frameHeaderSize
    let rest := stream.drop frameHeaderSize
    let toRead := r.toRead header
    if inData.length < toRead ∧ realloc toRead = false ∧ closes = true then []
    else if rest.length < toRead then []
    else
      let inData := overwrite inData 0 (rest.take toRead)
      r.callOf header inData :: read inData (rest.drop toRead)
termination_by stream.length
decreasing_by
  simp only [List.length_drop, frameHeaderSize] at *
  omega

/-- The signals a stream raises. -/
def signals {Msg Proto : Type} (pb : Protobuf Msg Proto) (mr : MessageRegister Proto)
    (inData stream : List Byte) : List (StreamSignal Msg) :=
  (r.read closes realloc inData stream).map (StreamSignal.ofCall pb mr)

/-! ## Complete frames -/

/-- The bytes of one frame: its header and what the header announces. -/
structure Frame where
  header : List Byte
  body : List Byte
  length_header : header.length = frameHeaderSize
  length_body : body.length = r.toRead header

def Frame.bytes {r : Reader} (f : Frame r) : List Byte := f.header ++ f.body

/-- The socket stays open for each of the frames. -/
def StaysOpen : Nat → List (Frame r) → Prop
  | _, [] => True
  | size, f :: fs =>
      (size < f.body.length → closes = true → realloc f.body.length = true) ∧
        StaysOpen (max size f.body.length) fs

variable {r closes realloc} {inData : List Byte}

/-- An end that does not close its socket keeps it open. -/
theorem staysOpen_of_not_closes : ∀ (size : Nat) (frames : List (Frame r)),
    r.StaysOpen false realloc size frames
  | _, [] => trivial
  | size, f :: frames =>
      ⟨fun _ hcloses => absurd hcloses Bool.false_ne_true,
        staysOpen_of_not_closes (max size f.body.length) frames⟩

theorem length_overwrite_zero (inData body : List Byte) :
    (overwrite inData 0 body).length = max inData.length body.length := by
  rw [overwrite_zero, List.length_append, List.length_drop]
  omega

/-- A complete frame at the front of the stream leads to one call; the rest is read with the grown
buffer. -/
theorem read_frame_append (f : Frame r) (rest : List Byte)
    (hopen : inData.length < f.body.length → closes = true → realloc f.body.length = true) :
    r.read closes realloc inData (f.bytes ++ rest) =
      r.callOf f.header (overwrite inData 0 f.body) ::
        r.read closes realloc (overwrite inData 0 f.body) rest := by
  have htake : (f.header ++ (f.body ++ rest)).take frameHeaderSize = f.header :=
    List.take_left' f.length_header
  have hdrop : (f.header ++ (f.body ++ rest)).drop frameHeaderSize = f.body ++ rest :=
    List.drop_left' f.length_header
  have hlong : ¬ (f.header ++ (f.body ++ rest)).length < frameHeaderSize := by
    rw [List.length_append, f.length_header]
    omega
  rw [Frame.bytes, List.append_assoc, read, if_neg hlong]
  simp only [htake, hdrop, ← f.length_body]
  rw [if_neg, if_neg (by simp), List.take_left, List.drop_left]
  rintro ⟨hlt, hfail, hcloses⟩
  rw [hopen hlt hcloses] at hfail
  cases hfail

end Reader

end FactoryHub.Comm
