import FactoryHub.Comm.Stream
import FactoryHub.Lib.PrefixCode
import FactoryHub.Lib.Settle
import FactoryHub.Lib.Simulation

/-!
# Frames on a stream

What `Session::send` and `ProtobufStreamClient::send` write, and how the read handlers take it from a
stream that arrives in chunks. `async_read` calls its handler when all the bytes it was asked for are
there, so the handlers run between the arrivals as the chunks allow.

* `Receiver.has_of_run` — the handlers have read complete frames, and nothing of the next one.
* `Receiver.calls_eq_read` — so they do to the chunks what `Reader.read` does to the whole stream.
* `Written.exists_frame` — what is written is one frame, and its call carries the message.
* `framing_lossless` — the messages that are written are read, whatever the chunks.
-/

namespace FactoryHub.Comm

open Lib MessageRegister

variable {Msg Proto : Type}

/-! ## Sending -/

/-- The arguments of a call of `send`, and the uninitialised headers of the entry it makes. -/
structure Outgoing (Msg : Type) where
  mem : FrameHeader
  memV1 : FrameHeaderV1
  memMsg : MessageHeader
  componentId : UInt16
  msgType : UInt16
  msg : Msg

/-- `Session::send`: the entry that is written. -/
def sessionSend (pb : Protobuf Msg Proto) (o : Outgoing Msg) : Except String QueueEntry :=
  let entry := QueueEntry.new o.mem o.memV1 o.memMsg
  match MessageRegister.serialize pb o.componentId o.msgType o.msg entry.frameHeader with
  | .error e => .error e
  | .ok (frameHeader, messageHeader, data) =>
      let entry := { entry with frameHeader, messageHeader, serializedMessage := data }
      .ok { entry with buffers := (frameHeader.bytes, messageHeader.bytes, data) }

/-- `ProtobufStreamClient::send`: the entry that is written. -/
def streamClientSend (pb : Protobuf Msg Proto) (frameHeaderVersion : FrameHeaderVersion)
    (connected : Bool) (o : Outgoing Msg) : Except String QueueEntry :=
  if connected = false then .error "Cannot send while not connected"
  else
    let entry := QueueEntry.new o.mem o.memV1 o.memMsg
    match MessageRegister.serialize pb o.componentId o.msgType o.msg entry.frameHeader with
    | .error e => .error e
    | .ok (frameHeader, messageHeader, data) =>
        let entry := { entry with frameHeader, messageHeader, serializedMessage := data }
        match frameHeaderVersion with
        | .v1 =>
            let frameHeaderV1 : FrameHeaderV1 :=
              ⟨messageHeader.componentId, messageHeader.msgType,
                frameHeader.payloadSize - UInt32.ofNat messageHeaderSize⟩
            .ok { entry with frameHeaderV1, buffers := (frameHeaderV1.bytes, [], data) }
        | .v2 => .ok { entry with buffers := (frameHeader.bytes, messageHeader.bytes, data) }

/-- The end of a stream that writes. -/
inductive Writer where
  | session
  | streamClient (frameHeaderVersion : FrameHeaderVersion)

namespace Writer

/-- A session writes V2 only. -/
def frameHeaderVersion : Writer → FrameHeaderVersion
  | .session => .v2
  | .streamClient frameHeaderVersion => frameHeaderVersion

/-- `send` writes the entry. -/
def Writes (w : Writer) (pb : Protobuf Msg Proto) (o : Outgoing Msg) (entry : QueueEntry) : Prop :=
  match w with
  | .session => sessionSend pb o = .ok entry
  | .streamClient frameHeaderVersion =>
      ∃ connected, streamClientSend pb frameHeaderVersion connected o = .ok entry

end Writer

/-- A call of `send` that has written its message. -/
structure Written (w : Writer) (pb : Protobuf Msg Proto) where
  out : Outgoing Msg
  entry : QueueEntry
  writes : w.Writes pb out entry

/-- `SerializeToString` fails for messages of more than `INT_MAX` bytes. -/
def Protobuf.Limited (pb : Protobuf Msg Proto) : Prop :=
  ∀ m data, pb.serializeToString m = some data → data.length < 2 ^ 31

/-! ## Receiving -/

/-- A read handler's end of a stream: what arrived and was not yet read by it, `in_frame_header_`
while the message is awaited, and the calls of `deserialize` so far. -/
structure Receiver where
  inData : List Byte
  header : Option (List Byte) := none
  unread : List Byte := []
  calls : List Call := []
  /-- The end has closed its socket for want of memory. -/
  closed : Bool := false

inductive ReceiverEvent where
  | arrive (chunk : List Byte)
  | handleReadHeader
  | handleReadMessage

/-- What an event brings. -/
def ReceiverEvent.bytes : ReceiverEvent → List Byte
  | .arrive chunk => chunk
  | .handleReadHeader | .handleReadMessage => []

namespace Receiver

variable (r : Reader) (closes : Bool) (realloc : Nat → Bool)

def step (s : Receiver) : ReceiverEvent → Option Receiver
  | .arrive chunk => some { s with unread := s.unread ++ chunk }
  | .handleReadHeader =>
      if s.closed = false ∧ s.header = none ∧ frameHeaderSize ≤ s.unread.length then
        let header := s.unread.take frameHeaderSize
        let toRead := r.toRead header
        some { s with
          header := some header
          unread := s.unread.drop frameHeaderSize
          closed := s.inData.length < toRead && !realloc toRead && closes }
      else none
  | .handleReadMessage =>
      match s.header with
      | none => none
      | some header =>
          let toRead := r.toRead header
          if s.closed = false ∧ toRead ≤ s.unread.length then
            let inData := overwrite s.inData 0 (s.unread.take toRead)
            some { s with
              inData
              header := none
              unread := s.unread.drop toRead
              calls := s.calls ++ [r.callOf header inData] }
          else none

/-- One of the handlers runs. -/
def Reads (s s' : Receiver) : Prop :=
  s.step r closes realloc .handleReadHeader = some s' ∨ s.step r closes realloc .handleReadMessage = some s'

end Receiver

/-- A run of a receiver whose buffer `in_data_` holds `inData` at first. -/
abbrev ReceiverRun (r : Reader) (closes : Bool) (realloc : Nat → Bool) (inData : List Byte)
    (tr : List (Step Receiver ReceiverEvent)) (s : Receiver) : Prop :=
  Run (fun (s : Receiver) e s' => s.step r closes realloc e = some s') { inData } tr s

/-! ## Complete frames -/

namespace Reader

variable {r : Reader} {closes : Bool} {realloc : Nat → Bool}

/-- `in_data_` after some frames. -/
def bufferAfter (inData : List Byte) (frames : List (Frame r)) : List Byte :=
  frames.foldl (fun inData f => overwrite inData 0 f.body) inData

/-- The calls of `deserialize` for some frames. -/
def callsOf : List Byte → List (Frame r) → List Call
  | _, [] => []
  | inData, f :: frames =>
      r.callOf f.header (overwrite inData 0 f.body) :: callsOf (overwrite inData 0 f.body) frames

theorem callsOf_concat (inData : List Byte) (frames : List (Frame r)) (f : Frame r) :
    callsOf inData (frames ++ [f]) =
      callsOf inData frames ++ [r.callOf f.header (overwrite (bufferAfter inData frames) 0 f.body)] := by
  induction frames generalizing inData with
  | nil => rfl
  | cons g frames ih =>
      show _ :: callsOf _ (frames ++ [f]) = _
      rw [ih]
      rfl

theorem bufferAfter_concat (inData : List Byte) (frames : List (Frame r)) (f : Frame r) :
    bufferAfter inData (frames ++ [f]) = overwrite (bufferAfter inData frames) 0 f.body := by
  simp [bufferAfter]

/-- A frame says where it ends. -/
theorem prefixCode_frame : PrefixCode (Frame.bytes (r := r)) where
  ne_nil f hnil := by
    have hheader := f.length_header
    rw [(List.append_eq_nil_iff.mp hnil).1] at hheader
    cases hheader
  unique := by
    rintro ⟨header, body, hheader, hbody⟩ ⟨header', body', hheader', hbody'⟩ a b heq
    simp only [Frame.bytes, List.append_assoc] at heq
    obtain ⟨rfl, hrest⟩ := List.append_inj heq (hheader.trans hheader'.symm)
    obtain ⟨rfl, -⟩ := List.append_inj hrest (hbody.trans hbody'.symm)
    rfl

/-- `read` takes the frames one by one. -/
theorem read_frames (halloc : ∀ n, realloc n = true) (inData : List Byte) (frames : List (Frame r))
    (rest : List Byte) :
    r.read closes realloc inData (frames.flatMap Frame.bytes ++ rest) =
      callsOf inData frames ++ r.read closes realloc (bufferAfter inData frames) rest := by
  induction frames generalizing inData with
  | nil => rfl
  | cons f frames ih =>
      rw [List.flatMap_cons, List.append_assoc, read_frame_append f _ (fun _ _ => halloc _), ih]
      rfl

/-- `read` stops before a frame that is not complete. -/
theorem read_of_incomplete {rest : List Byte} (hrest : Incomplete (Frame.bytes (r := r)) rest)
    (inData : List Byte) : r.read closes realloc inData rest = [] := by
  rw [read]
  split
  · rfl
  · next hlen =>
    dsimp only
    split
    · rfl
    · split
      · rfl
      · next hbody =>
        rw [not_lt] at hlen hbody
        have hheader : (rest.take frameHeaderSize).length = frameHeaderSize := by
          rw [List.length_take]
          omega
        let f : Frame r := ⟨_, (rest.drop frameHeaderSize).take (r.toRead (rest.take frameHeaderSize)),
          hheader, List.length_take_of_le hbody⟩
        refine absurd ?_ (hrest f ((rest.drop frameHeaderSize).drop (r.toRead f.header)))
        simp only [Frame.bytes, f, List.append_assoc, List.take_append_drop]

end Reader

/-! ## The handlers -/

namespace Receiver

variable {r : Reader} {closes : Bool} {realloc : Nat → Bool} {inData arrived : List Byte} {s s' : Receiver}
  {frames : List (Reader.Frame r)}

/-- What arrived are the frames that were read and the beginning of the next one. -/
structure Has (realloc : Nat → Bool) (inData arrived : List Byte) (frames : List (Reader.Frame r))
    (s : Receiver) : Prop where
  arrived : frames.flatMap Reader.Frame.bytes ++ (s.header.getD [] ++ s.unread) = arrived
  calls : s.calls = Reader.callsOf inData frames
  inData : s.inData = Reader.bufferAfter inData frames
  length_header : ∀ header, s.header = some header → header.length = frameHeaderSize
  closed : s.closed = true → ∃ n, realloc n = false

theorem Has.isOpen (h : Has realloc inData arrived frames s) (halloc : ∀ n, realloc n = true) :
    s.closed = false := by
  by_contra hclosed
  rw [Bool.not_eq_false] at hclosed
  obtain ⟨n, hfail⟩ := h.closed hclosed
  rw [halloc n] at hfail
  cases hfail

theorem has_arrive (h : Has realloc inData arrived frames s) (chunk : List Byte) :
    Has realloc inData (arrived ++ chunk) frames { s with unread := s.unread ++ chunk } where
  arrived := by simp [← h.arrived]
  calls := h.calls
  inData := h.inData
  length_header := h.length_header
  closed := h.closed

theorem has_handleReadHeader (h : Has realloc inData arrived frames s)
    (hs : s.step r closes realloc .handleReadHeader = some s') : Has realloc inData arrived frames s' := by
  rw [step, Option.ite_none_right_eq_some, Option.some.injEq] at hs
  obtain ⟨⟨-, hheader, hlen⟩, rfl⟩ := hs
  refine ⟨?_, h.calls, h.inData, ?_, ?_⟩
  · have harrived := h.arrived
    rw [hheader] at harrived
    show _ ++ (s.unread.take frameHeaderSize ++ s.unread.drop frameHeaderSize) = arrived
    rw [List.take_append_drop]
    exact harrived
  · rintro header ⟨rfl⟩
    rw [List.length_take]
    omega
  · intro hclosed
    simp only [Bool.and_eq_true, Bool.not_eq_true'] at hclosed
    exact ⟨_, hclosed.1.2⟩

theorem has_handleReadMessage (h : Has realloc inData arrived frames s)
    (hs : s.step r closes realloc .handleReadMessage = some s') :
    ∃ f, Has realloc inData arrived (frames ++ [f]) s' := by
  rw [step] at hs
  split at hs
  · cases hs
  · next header hheader =>
    simp only [Option.ite_none_right_eq_some, Option.some.injEq] at hs
    obtain ⟨⟨-, hlen⟩, rfl⟩ := hs
    have hbody : (s.unread.take (r.toRead header)).length = r.toRead header := by
      rw [List.length_take]
      omega
    refine ⟨⟨header, s.unread.take (r.toRead header), h.length_header header hheader, hbody⟩,
      ?_, ?_, ?_, ?_, h.closed⟩
    · have harrived := h.arrived
      rw [hheader] at harrived
      simpa [Reader.Frame.bytes] using harrived
    · rw [Reader.callsOf_concat, ← h.calls, ← h.inData]
    · rw [Reader.bufferAfter_concat, ← h.inData]
    · rintro header' ⟨⟩

/-- Whatever the chunks, the handlers have read complete frames, in order. -/
theorem has_of_run {tr : List (Step Receiver ReceiverEvent)}
    (h : ReceiverRun r closes realloc inData tr s) :
    ∃ frames, Has realloc inData (shown ReceiverEvent.bytes tr) (r := r) frames s := by
  induction h with
  | init =>
      refine ⟨[], rfl, rfl, rfl, ?_, ?_⟩
      · rintro header ⟨⟩
      · rintro ⟨⟩
  | @step tr s s' e hrun hs ih =>
      obtain ⟨frames, hhas⟩ := ih
      rw [shown_cons]
      cases e with
      | arrive chunk =>
          cases hs
          exact ⟨frames, has_arrive hhas chunk⟩
      | handleReadHeader =>
          rw [ReceiverEvent.bytes, List.append_nil]
          exact ⟨frames, has_handleReadHeader hhas hs⟩
      | handleReadMessage =>
          rw [ReceiverEvent.bytes, List.append_nil]
          obtain ⟨f, hhas'⟩ := has_handleReadMessage hhas hs
          exact ⟨_, hhas'⟩

/-- When no handler can run, the bytes that are left are no frame. -/
theorem incomplete_of_atRest (hopen : s.closed = false)
    (hlen : ∀ header, s.header = some header → header.length = frameHeaderSize)
    (hrest : AtRest (Reads r closes realloc) s) :
    Incomplete (Reader.Frame.bytes (r := r)) (s.header.getD [] ++ s.unread) := by
  rintro ⟨header, body, hheader, hbody⟩ tail heq
  simp only [Reader.Frame.bytes, List.append_assoc] at heq
  cases hs : s.header with
  | none =>
      rw [hs, Option.getD_none, List.nil_append] at heq
      refine hrest _ (Or.inl (if_pos ⟨hopen, hs, ?_⟩))
      rw [heq, List.length_append, hheader]
      omega
  | some header' =>
      rw [hs, Option.getD_some] at heq
      obtain ⟨rfl, hunread⟩ := List.append_inj heq ((hlen header' hs).trans hheader.symm)
      have hle : r.toRead header' ≤ s.unread.length := by
        rw [hunread, List.length_append, hbody]
        omega
      have hsome : (s.step r closes realloc .handleReadMessage).isSome := by
        simp [step, hs, hopen, hle]
      obtain ⟨s', hs'⟩ := Option.isSome_iff_exists.mp hsome
      exact hrest s' (Or.inr hs')

/-- The handlers do to the chunks what `read` does to the whole stream. -/
theorem calls_eq_read (halloc : ∀ n, realloc n = true) {tr : List (Step Receiver ReceiverEvent)}
    (hrun : ReceiverRun r closes realloc inData tr s) (hrest : AtRest (Reads r closes realloc) s) :
    s.calls = r.read closes realloc inData (shown ReceiverEvent.bytes tr) := by
  obtain ⟨frames, hhas⟩ := has_of_run hrun
  have hincomplete := incomplete_of_atRest (hhas.isOpen halloc) hhas.length_header hrest
  rw [← hhas.arrived, Reader.read_frames halloc, Reader.read_of_incomplete hincomplete,
    List.append_nil, hhas.calls]

/-- Each handler has less left to read. -/
theorem settles (r : Reader) (closes : Bool) (realloc : Nat → Bool) (s : Receiver) : Settles (Reads r closes realloc) s := by
  refine settles_of_measure (I := fun _ => True)
    (fun s => 2 * s.unread.length + s.header.isSome.toNat) ?_ trivial
  rintro s s' - (hs | hs)
  · rw [step, Option.ite_none_right_eq_some, Option.some.injEq] at hs
    obtain ⟨⟨-, -, hlen⟩, rfl⟩ := hs
    refine ⟨trivial, ?_⟩
    show 2 * (s.unread.drop frameHeaderSize).length + 1 < _
    rw [List.length_drop]
    simp only [frameHeaderSize] at hlen ⊢
    omega
  · rw [step] at hs
    split at hs
    · cases hs
    · next header hheader =>
      simp only [Option.ite_none_right_eq_some, Option.some.injEq] at hs
      obtain ⟨⟨-, hlen⟩, rfl⟩ := hs
      refine ⟨trivial, ?_⟩
      show 2 * (s.unread.drop (r.toRead header)).length + 0 < _
      rw [List.length_drop, hheader, Option.isSome_some, Bool.toNat_true]
      omega

end Receiver

/-! ## What is written -/

/-- The message of a call of `deserialize`. -/
def MessageRegister.Call.message (c : Call) : UInt16 × UInt16 × List Byte :=
  (c.messageHeader.componentId, c.messageHeader.msgType, c.data)

namespace Written

variable {w : Writer} {pb : Protobuf Msg Proto}

/-- The message that was sent: its component, its type and its payload. -/
def message (x : Written w pb) : UInt16 × UInt16 × List Byte :=
  (x.out.componentId, x.out.msgType, (pb.serializeToString x.out.msg).getD [])

end Written

/-- The size of the frame header is that of the message header and the payload, whichever header
the payload follows. -/
theorem MessageRegister.Call.data_eq {c : Call} (front payload old : List Byte)
    (hsize : c.frameHeader.payloadSize.toNat = messageHeaderSize + payload.length)
    (hbuffer : c.buffer = front ++ payload ++ old) (hoffset : front.length = c.offset) :
    c.data = payload := by
  have hdata : c.dataSize.toNat = payload.length := by
    rw [Call.dataSize_toNat (by omega)]
    omega
  rw [Call.data, hdata, hbuffer]
  exact slice_append_right hoffset rfl

/-- A V2 frame. -/
theorem exists_frame_v2 {componentId msgType : UInt16} {payload : List Byte}
    {frameHeader : FrameHeader} (hlen : payload.length < 2 ^ 31)
    (hsize : frameHeader.payloadSize = UInt32.ofNat (messageHeaderSize + payload.length)) :
    ∃ f : Reader.Frame session,
      f.bytes = frameHeader.bytes ++ (MessageHeader.mk componentId msgType).bytes ++ payload ∧
        ∀ inData, (session.callOf f.header (overwrite inData 0 f.body)).message =
          (componentId, msgType, payload) := by
  have hnat : frameHeader.payloadSize.toNat = messageHeaderSize + payload.length := by
    rw [hsize, UInt32.toNat_ofNat', Nat.mod_eq_of_lt]
    simp only [messageHeaderSize]
    omega
  have hheader : FrameHeader.ofBytes frameHeader.bytes = frameHeader := by
    have happend := FrameHeader.ofBytes_bytes_append frameHeader []
    rwa [List.append_nil] at happend
  let messageHeader : MessageHeader := ⟨componentId, msgType⟩
  refine ⟨⟨frameHeader.bytes, messageHeader.bytes ++ payload, frameHeader.length_bytes, ?_⟩,
    ?_, fun inData => ?_⟩
  · show _ = (FrameHeader.ofBytes frameHeader.bytes).payloadSize.toNat
    rw [hheader, hnat, List.length_append, MessageHeader.length_bytes]
  · rw [Reader.Frame.bytes, List.append_assoc]
  · rw [overwrite_zero]
    generalize List.drop _ inData = old
    have hmessage : MessageHeader.ofBytes (messageHeader.bytes ++ payload ++ old) 0 =
        messageHeader := by
      rw [List.append_assoc]
      exact MessageHeader.ofBytes_append_bytes_append messageHeader [] (payload ++ old)
    rw [Call.message, Call.data_eq messageHeader.bytes payload old]
    · simp only [session, hmessage]
      rfl
    · simp only [session, hheader]
      exact hnat
    · rfl
    · exact messageHeader.length_bytes

/-- A V1 frame. The reader adds to the size what the writer has taken from it. -/
theorem exists_frame_v1 {componentId msgType : UInt16} {payload : List Byte} {size : UInt32}
    (hlen : payload.length < 2 ^ 31)
    (hsize : size = UInt32.ofNat (messageHeaderSize + payload.length)) :
    ∃ f : Reader.Frame (streamClient .v1),
      f.bytes = (FrameHeaderV1.mk componentId msgType
          (size - UInt32.ofNat messageHeaderSize)).bytes ++ [] ++ payload ∧
        ∀ inData, ((streamClient .v1).callOf f.header (overwrite inData 0 f.body)).message =
          (componentId, msgType, payload) := by
  let header : FrameHeaderV1 := ⟨componentId, msgType, size - UInt32.ofNat messageHeaderSize⟩
  have hadd : header.payloadSize + UInt32.ofNat messageHeaderSize = size := UInt32.sub_add_cancel ..
  have hnat : size.toNat = messageHeaderSize + payload.length := by
    rw [hsize, UInt32.toNat_ofNat', Nat.mod_eq_of_lt]
    simp only [messageHeaderSize]
    omega
  have hpayload : header.payloadSize.toNat = payload.length := by
    have hle : UInt32.ofNat messageHeaderSize ≤ size := by
      rw [UInt32.le_iff_toNat_le, hnat]
      simp [messageHeaderSize]
    show (size - UInt32.ofNat messageHeaderSize).toNat = _
    rw [UInt32.toNat_sub_of_le _ _ hle, hnat]
    simp [messageHeaderSize]
  have hheader : FrameHeaderV1.ofBytes header.bytes = header := by
    have happend := FrameHeaderV1.ofBytes_bytes_append header []
    rwa [List.append_nil] at happend
  refine ⟨⟨header.bytes, payload, header.length_bytes, ?_⟩, ?_, fun inData => ?_⟩
  · show _ = (FrameHeaderV1.ofBytes header.bytes).payloadSize.toNat
    rw [hheader, hpayload]
  · rw [List.append_nil]
    rfl
  · rw [overwrite_zero]
    generalize List.drop _ inData = old
    rw [Call.message, Call.data_eq [] payload old]
    · simp only [streamClient, hheader]
      rfl
    · simp only [streamClient, hheader, hadd]
      exact hnat
    · rfl
    · rfl

namespace Written

variable {w : Writer} {pb : Protobuf Msg Proto}

/-- What `send` writes is one frame for a reader of the same version, and carries the message. -/
theorem exists_frame (hpb : pb.Limited) (x : Written w pb) :
    ∃ f : Reader.Frame (streamClient w.frameHeaderVersion), f.bytes = x.entry.wire ∧
      ∀ inData, ((streamClient w.frameHeaderVersion).callOf f.header
        (overwrite inData 0 f.body)).message = x.message := by
  obtain ⟨o, entry, hwrites⟩ := x
  cases hdata : pb.serializeToString o.msg with
  | none =>
      cases w with
      | session => simp [Writer.Writes, sessionSend, serialize, hdata] at hwrites
      | streamClient version => simp [Writer.Writes, streamClientSend, serialize, hdata] at hwrites
  | some payload =>
      have hlen := hpb _ _ hdata
      simp only [message, hdata, Option.getD_some]
      cases w with
      | session =>
          simp only [Writer.Writes, sessionSend, serialize, hdata, Except.ok.injEq] at hwrites
          subst hwrites
          exact exists_frame_v2 hlen rfl
      | streamClient version =>
          obtain ⟨connected, hsend⟩ := hwrites
          cases connected with
          | false => cases hsend
          | true =>
              cases version with
              | v1 =>
                  simp only [streamClientSend, serialize, hdata, Bool.true_eq_false, if_false,
                    Except.ok.injEq] at hsend
                  subst hsend
                  exact exists_frame_v1 hlen rfl
              | v2 =>
                  simp only [streamClientSend, serialize, hdata, Bool.true_eq_false, if_false,
                    Except.ok.injEq] at hsend
                  subst hsend
                  exact exists_frame_v2 hlen rfl

/-- The frames of what is written are the messages. -/
theorem exists_frames (hpb : pb.Limited) (xs : List (Written w pb)) :
    ∃ frames : List (Reader.Frame (streamClient w.frameHeaderVersion)),
      frames.flatMap Reader.Frame.bytes = xs.flatMap (fun x => x.entry.wire) ∧
        ∀ inData, (Reader.callsOf inData frames).map Call.message = xs.map message := by
  induction xs with
  | nil => exact ⟨[], rfl, fun _ => rfl⟩
  | cons x xs ih =>
      obtain ⟨f, hbytes, hmessage⟩ := x.exists_frame hpb
      obtain ⟨frames, hbytes', hmessages⟩ := ih
      refine ⟨f :: frames, ?_, fun inData => ?_⟩
      · rw [List.flatMap_cons, List.flatMap_cons, hbytes, hbytes']
      · rw [Reader.callsOf, List.map_cons, List.map_cons, hmessage, hmessages]

/-- The reader knows the type of the message, and parses what was serialized. -/
def Parses (mr : MessageRegister Proto) (x : Written w pb) : Prop :=
  ∃ proto, mr.messageByCompType (x.out.componentId, x.out.msgType) = some proto ∧
    pb.parseFromArray proto ((pb.serializeToString x.out.msg).getD []) = some x.out.msg

/-- The signal for such a message brings it. -/
theorem ofCall_of_parses {mr : MessageRegister Proto} {x : Written w pb} (hparses : x.Parses mr)
    {call : Call} (hmessage : call.message = x.message) :
    StreamSignal.ofCall pb mr call = .rcvd x.out.componentId x.out.msgType x.out.msg := by
  obtain ⟨proto, hproto, hparse⟩ := hparses
  simp only [Call.message, message, Prod.mk.injEq] at hmessage
  obtain ⟨hcomponent, htype, hdata⟩ := hmessage
  rw [StreamSignal.ofCall, deserialize, newMessageFor, hcomponent, htype, hproto, hdata]
  simp only [bind, Except.bind, hparse]

theorem map_ofCall_of_parses {mr : MessageRegister Proto} {xs : List (Written w pb)}
    (hparses : ∀ x ∈ xs, x.Parses mr) {calls : List Call}
    (hmessages : calls.map Call.message = xs.map message) :
    calls.map (StreamSignal.ofCall pb mr) =
      xs.map fun x => .rcvd x.out.componentId x.out.msgType x.out.msg := by
  induction xs generalizing calls with
  | nil =>
      rw [List.map_nil, List.map_eq_nil_iff] at hmessages
      rw [hmessages]
      rfl
  | cons x xs ih =>
      cases calls with
      | nil => cases hmessages
      | cons call calls =>
          rw [List.map_cons, List.map_cons, List.cons.injEq] at hmessages
          rw [List.map_cons, List.map_cons, ih (fun y hy => hparses y (List.mem_cons_of_mem _ hy))
            hmessages.2, ofCall_of_parses (hparses x (List.mem_cons_self ..)) hmessages.1]

end Written

/-! ## Lossless -/

/-- Whatever the chunks: when the bytes that are written have arrived, the handlers come to an end,
and by then they have read the messages that were written, in order, and all bytes. Those of a type
that the reader knows are signalled. -/
theorem framing_lossless {w : Writer} {pb : Protobuf Msg Proto} (hpb : pb.Limited)
    {closes : Bool} {realloc : Nat → Bool} (halloc : ∀ n, realloc n = true) (xs : List (Written w pb))
    {inData : List Byte} {tr : List (Step Receiver ReceiverEvent)} {s : Receiver}
    (hrun : ReceiverRun (streamClient w.frameHeaderVersion) closes realloc inData tr s)
    (harrived : shown ReceiverEvent.bytes tr = xs.flatMap (fun x => x.entry.wire)) :
    Settles (Receiver.Reads (streamClient w.frameHeaderVersion) closes realloc) s ∧
      (AtRest (Receiver.Reads (streamClient w.frameHeaderVersion) closes realloc) s →
        s.calls.map Call.message = xs.map Written.message ∧ s.unread = [] ∧ s.header = none ∧
          ∀ mr : MessageRegister Proto, (∀ x ∈ xs, x.Parses mr) →
            s.calls.map (StreamSignal.ofCall pb mr) =
              xs.map fun x => .rcvd x.out.componentId x.out.msgType x.out.msg) := by
  refine ⟨Receiver.settles _ _ _ s, fun hrest => ?_⟩
  obtain ⟨frames, hhas⟩ := Receiver.has_of_run hrun
  obtain ⟨written, hbytes, hmessages⟩ := Written.exists_frames hpb xs
  have hincomplete :=
    Receiver.incomplete_of_atRest (hhas.isOpen halloc) hhas.length_header hrest
  have heq := hhas.arrived
  rw [harrived, ← hbytes] at heq
  obtain ⟨rfl, hnil⟩ := Reader.prefixCode_frame.eq_of_flatMap hincomplete heq
  obtain ⟨hheader, hunread⟩ := List.append_eq_nil_iff.mp hnil
  have hcalls : s.calls.map Call.message = xs.map Written.message := by
    rw [hhas.calls]
    exact hmessages inData
  refine ⟨hcalls, hunread, ?_, fun mr hparses => Written.map_ofCall_of_parses hparses hcalls⟩
  cases hs : s.header with
  | none => rfl
  | some header =>
      have hlen := hhas.length_header header hs
      rw [hs, Option.getD_some] at hheader
      rw [hheader] at hlen
      cases hlen

/-- Messages that are their own serialization, up to the limit. -/
def shortMessages : Protobuf (List Byte) Unit where
  serializeToString data := if data.length < 2 ^ 31 then some data else none
  parseFromArray _ data := some data

theorem shortMessages_limited : shortMessages.Limited := by
  intro m data hdata
  obtain ⟨hlt, heq⟩ := Option.ite_none_right_eq_some.mp hdata
  cases heq
  exact hlt

/-- A message that a V1 client has written. -/
def writtenV1 (componentId msgType : UInt16) (m : List Byte) (hlt : m.length < 2 ^ 31) :
    Written (.streamClient .v1) shortMessages where
  out := ⟨⟨0, 0, 0, 0, 0⟩, ⟨0, 0, 0⟩, ⟨0, 0⟩, componentId, msgType, m⟩
  entry := _
  writes := ⟨true, by
    simp only [streamClientSend, Bool.true_eq_false, if_false, serialize, shortMessages, hlt, if_true]
    rfl⟩

/-- Two V1 messages, one of them empty, that arrive in three chunks. -/
theorem framing_lossless_of_chunks :
    ∃ (tr : List (Step Receiver ReceiverEvent)) (s : Receiver),
      ReceiverRun (streamClient .v1) true (fun _ => true) [0] tr s ∧
        s.calls.map Call.message = [(1, 2, [7, 8, 9]), (3, 4, [])] ∧ s.unread = [] ∧
          s.header = none := by
  have hrun := @run_of_trace Receiver ReceiverEvent
    (Receiver.step (streamClient .v1) true (fun _ => true)) { inData := [0] }
    [.arrive [0, 1, 0, 2, 0], .arrive [0, 0, 3, 7], .handleReadHeader,
      .arrive [8, 9, 0, 3, 0, 4, 0, 0, 0, 0], .handleReadMessage, .handleReadHeader,
      .handleReadMessage] _ rfl
  have hlossless := framing_lossless (w := .streamClient .v1) shortMessages_limited (fun _ => rfl)
    [writtenV1 1 2 [7, 8, 9] (by decide), writtenV1 3 4 [] (by decide)] hrun rfl
  have hrest := hlossless.2 (by
    rintro s (hs | hs)
    · cases hs
    · cases hs)
  exact ⟨_, _, hrun, hrest.1, hrest.2.1, hrest.2.2.1⟩

end FactoryHub.Comm
