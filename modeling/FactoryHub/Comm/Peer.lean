import FactoryHub.Comm.Crypto

/-!
# The broadcast peer

`ProtobufBroadcastPeer` of `peer.cpp`: what `send` and `start_send` put into a datagram, and what
`handle_recv` makes of one. A receive is asynchronous: `start_recv` chooses the buffer the next
datagram is written to, and `setup_crypto` may change the keys before it arrives, so the choice
(`pendingEnc`) is part of the state next to `crypto_buf_`.

Handlers run one at a time on the ASIO thread; a handler and the receive that triggered it are one
step (`Peer.receive`).
-/

namespace FactoryHub.Comm

open Lib MessageRegister

/-- `max_packet_length`, also `in_data_size_`. -/
def maxPacketLength : Nat := 1024

/-- `ProtobufBroadcastPeer`. `crypto` holds `crypto_enc_` and `crypto_dec_` while `crypto_` is set.
The two last fields say what `setup_crypto` and `start_recv` keep true of the flags. -/
structure Peer (Endpoint : Type) where
  frameHeaderVersion : FrameHeaderVersion
  crypto : Option (BufferEncryptor × BufferDecryptor)
  cryptoBuf : Bool
  /-- The pending receive writes to `enc_in_data_`. -/
  pendingEnc : Bool
  inData : List Byte
  encInData : List Byte
  filterSelf : Bool
  localEndpoints : List Endpoint
  /-- `sig_rcvd_.num_slots()`. -/
  numSlots : Nat
  keyed : cryptoBuf = true → crypto.isSome = true ∧ pendingEnc = true
  v1_plain : frameHeaderVersion = .v1 → crypto = none ∧ pendingEnc = false

/-- What a peer tells its subscribers. -/
inductive Signal (Endpoint Msg : Type) where
  | rcvdRaw (endpoint : Endpoint) (frameHeader : FrameHeader) (data : List Byte)
  | rcvd (endpoint : Endpoint) (componentId msgType : UInt16) (msg : Msg)
  | recvError (endpoint : Endpoint) (what : String)

/-- The outcome of one `handle_recv`: the signals raised, the call of `deserialize` if there was
one, and the peer afterwards. -/
structure Outcome (Endpoint Msg : Type) where
  signals : List (Signal Endpoint Msg)
  call : Option Call
  peer : Peer Endpoint

namespace Peer

variable {Endpoint Msg Proto : Type}

/-! ## Keys and pending receives -/

/-- `start_recv`. -/
def startRecv (p : Peer Endpoint) : Peer Endpoint :=
  { p with
    cryptoBuf := p.crypto.isSome
    pendingEnc := p.crypto.isSome
    keyed := fun h => ⟨h, h⟩
    v1_plain := fun h => ⟨(p.v1_plain h).1, by rw [(p.v1_plain h).1]; rfl⟩ }

/-- `setup_crypto`; `iv` is the random start of the encryptor's IV counter. The pending receive is
left as it is. -/
def setupCrypto (p : Peer Endpoint) (key cipher : String) (iv : UInt64) :
    Except String Unit × Peer Endpoint :=
  match hv : p.frameHeaderVersion with
  | .v1 => (.error "Crypto support only available with V2+ frame header", p)
  | .v2 =>
      let plain : Peer Endpoint :=
        { p with
          crypto := none
          cryptoBuf := false
          keyed := fun h => by cases h
          v1_plain := fun h => by rw [hv] at h; cases h }
      if key ≠ "" ∧ cipher ≠ "" then
        match BufferEncryptor.new key cipher iv with
        | .error e => (.error e, plain)
        | .ok enc =>
            (.ok (),
              { plain with
                crypto := some (enc, ⟨key⟩)
                keyed := fun h => by cases h
                v1_plain := fun h => by change p.frameHeaderVersion = .v1 at h; rw [hv] at h; cases h })
      else (.ok (), plain)

/-- The peer its constructor starts from. `mem` and `memEnc` are the fresh receive buffers,
`localEndpoints` what `determine_local_endpoints` found. -/
def fresh (localEndpoints : List Endpoint) (headerVersion : FrameHeaderVersion)
    (mem memEnc : List Byte) : Peer Endpoint where
  frameHeaderVersion := headerVersion
  crypto := none
  cryptoBuf := false
  pendingEnc := false
  inData := mem
  encInData := memEnc
  filterSelf := true
  localEndpoints := localEndpoints
  numSlots := 0
  keyed h := by cases h
  v1_plain _ := ⟨rfl, rfl⟩

/-- The constructor. -/
def ctor (localEndpoints : List Endpoint) (cryptoKey cipher : String) (iv : UInt64)
    (headerVersion : FrameHeaderVersion) (mem memEnc : List Byte) : Except String (Peer Endpoint) :=
  let p := fresh localEndpoints headerVersion mem memEnc
  if cryptoKey ≠ "" then
    match p.setupCrypto cryptoKey cipher iv with
    | (.ok (), p) => .ok p.startRecv
    | (.error e, _) => .error e
  else .ok p.startRecv

/-- A subscriber connects to `sig_rcvd_`. -/
def connect (p : Peer Endpoint) : Peer Endpoint := { p with numSlots := p.numSlots + 1 }

/-- The pending receive was started with the keys the peer has now, as it is after `start_recv`.
`setup_crypto` ends this until the next datagram. -/
def Listening (p : Peer Endpoint) : Prop :=
  p.cryptoBuf = p.crypto.isSome ∧ p.pendingEnc = p.crypto.isSome

theorem listening_startRecv (p : Peer Endpoint) : p.startRecv.Listening := ⟨rfl, rfl⟩

theorem listening_ctor {localEndpoints : List Endpoint} {cryptoKey cipher : String} {iv : UInt64}
    {headerVersion : FrameHeaderVersion} {mem memEnc : List Byte} {p : Peer Endpoint}
    (h : ctor localEndpoints cryptoKey cipher iv headerVersion mem memEnc = .ok p) :
    p.Listening := by
  unfold ctor at h
  dsimp only at h
  split at h
  · split at h
    · cases h
      exact listening_startRecv _
    · cases h
  · cases h
    exact listening_startRecv _

/-! ## Sending -/

/-- `send`: the entry it queues. `mem`, `memV1` and `memMsg` are the uninitialised headers of the
new entry. -/
def send (pb : Protobuf Msg Proto) (p : Peer Endpoint) (mem : FrameHeader) (memV1 : FrameHeaderV1)
    (memMsg : MessageHeader) (componentId msgType : UInt16) (m : Msg) : Except String QueueEntry :=
  let entry := QueueEntry.new mem memV1 memMsg
  match MessageRegister.serialize pb componentId msgType m entry.frameHeader with
  | .error e => .error e
  | .ok (frameHeader, messageHeader, data) =>
      let entry :=
        { entry with frameHeader, messageHeader, serializedMessage := data }
      if maxPacketLength < data.length then .error "Serialized message too big"
      else
        match p.frameHeaderVersion with
        | .v1 =>
            let frameHeaderV1 : FrameHeaderV1 :=
              ⟨messageHeader.componentId, messageHeader.msgType, frameHeader.payloadSize⟩
            .ok { entry with frameHeaderV1, buffers := (frameHeaderV1.bytes, [], data) }
        | .v2 => .ok { entry with buffers := (frameHeader.bytes, messageHeader.bytes, data) }

/-- `start_send`, for the entry it takes from the queue. Encryption replaces the frame header's
size and cipher; `buffers[0]` refers to that header. -/
def startSend (evp : Evp) (p : Peer Endpoint) (entry : QueueEntry) : QueueEntry × Peer Endpoint :=
  match hc : p.crypto with
  | none => (entry, p)
  | some (enc, dec) =>
      let plainBuf := entry.buffers.2.1 ++ entry.buffers.2.2
      let (encrypted, enc') := enc.encrypt evp plainBuf
      let frameHeader :=
        { entry.frameHeader with
          payloadSize := UInt32.ofNat encrypted.length
          cipher := enc.cipherId }
      ({ entry with frameHeader, encryptedMessage := encrypted,
                    buffers := (frameHeader.bytes, encrypted, []) },
        { p with
          crypto := some (enc', dec)
          keyed := fun h => ⟨rfl, (p.keyed h).2⟩
          v1_plain := fun h => by
            have hnone := (p.v1_plain h).1
            rw [hc] at hnone
            cases hnone })

/-! ## Receiving -/

/-- The pending receive: the start of the datagram is written to the buffer it was started on. -/
def fill (p : Peer Endpoint) (packet : List Byte) : Peer Endpoint :=
  if p.pendingEnc then { p with encInData := overwrite p.encInData 0 packet }
  else { p with inData := overwrite p.inData 0 packet }

@[simp] theorem fill_numSlots (p : Peer Endpoint) (packet : List Byte) : (p.fill packet).numSlots = p.numSlots := by
  unfold fill; split <;> rfl

@[simp] theorem fill_frameHeaderVersion (p : Peer Endpoint) (packet : List Byte) :
    (p.fill packet).frameHeaderVersion = p.frameHeaderVersion := by
  unfold fill; split <;> rfl

@[simp] theorem fill_cryptoBuf (p : Peer Endpoint) (packet : List Byte) :
    (p.fill packet).cryptoBuf = p.cryptoBuf := by
  unfold fill; split <;> rfl

@[simp] theorem fill_pendingEnc (p : Peer Endpoint) (packet : List Byte) :
    (p.fill packet).pendingEnc = p.pendingEnc := by
  unfold fill; split <;> rfl

@[simp] theorem fill_crypto (p : Peer Endpoint) (packet : List Byte) : (p.fill packet).crypto = p.crypto := by
  unfold fill; split <;> rfl

theorem fill_inData_of_plain {p : Peer Endpoint} (packet : List Byte) (hpend : p.pendingEnc = false) :
    (p.fill packet).inData = packet ++ p.inData.drop packet.length := by
  simp [fill, hpend, overwrite_zero]

theorem fill_encInData {p : Peer Endpoint} (packet : List Byte) (hpend : p.pendingEnc = true) :
    (p.fill packet).encInData = packet ++ p.encInData.drop packet.length := by
  simp [fill, hpend, overwrite_zero]

theorem fill_inData_of_enc {p : Peer Endpoint} (packet : List Byte) (hpend : p.pendingEnc = true) :
    (p.fill packet).inData = p.inData := by
  simp [fill, hpend]

/-- The local variables of `handle_recv` once the frame header is known, and `in_data_`, of which
the first `filled` bytes stem from the received datagram. -/
structure Reading where
  frameHeader : FrameHeader
  bytesRcvd : Nat
  inData : List Byte
  filled : Nat

/-- `expected_min_size`. -/
def expectedMinSize (p : Peer Endpoint) : Nat :=
  match p.frameHeaderVersion with
  | .v1 => frameHeaderV1Size
  | .v2 => frameHeaderSize + messageHeaderSize

/-- How many bytes of `in_data_` a datagram of the given size filled. -/
def filledBy (p : Peer Endpoint) (bytesRcvd : Nat) : Nat :=
  if p.pendingEnc then 0 else bytesRcvd

/-- `handle_recv`, the V1 branch of its first part. -/
def readV1 (p : Peer Endpoint) (bytesRcvd : Nat) : Reading where
  frameHeader := ⟨1, encryptionNone, 0, 0, (FrameHeaderV1.ofBytes p.inData).payloadSize⟩
  bytesRcvd := bytesRcvd
  inData := p.inData
  filled := p.filledBy bytesRcvd

/-- `handle_recv`, the V2 branch of its first part. Each of the three errors is reported and the
function goes on to the size check; a failed decryption sets `bytes_rcvd` to 0. -/
def readV2 (Msg : Type) (evp : Evp) (p : Peer Endpoint) (endpoint : Endpoint) (bytesRcvd : Nat) :
    List (Signal Endpoint Msg) × Reading :=
  let buf := if p.cryptoBuf then p.encInData else p.inData
  let frameHeader := FrameHeader.ofBytes buf
  let body := slice buf frameHeaderSize (bytesRcvd - frameHeaderSize)
  let raw := Signal.rcvdRaw endpoint frameHeader body
  let reading : Reading := ⟨frameHeader, bytesRcvd, p.inData, p.filledBy bytesRcvd⟩
  if p.numSlots = 0 then ([raw], reading)
  else if p.cryptoBuf = false ∧ frameHeader.cipher ≠ encryptionNone then
    ([raw, .recvError endpoint "Received encrypted message but encryption is disabled"], reading)
  else if p.cryptoBuf = true ∧ frameHeader.cipher = encryptionNone then
    ([raw, .recvError endpoint "Received plain text message but encryption is enabled"], reading)
  else if p.cryptoBuf = true then
    match p.crypto with
    | none => ([raw], reading)  -- excluded by `keyed`
    | some (_, dec) =>
        let inData := overwrite p.inData 0 (p.encInData.take frameHeaderSize)
        match dec.decrypt evp frameHeader.cipher body with
        | .ok plain =>
            ([raw],
              { frameHeader := { frameHeader with payloadSize := UInt32.ofNat plain.length }
                bytesRcvd := plain.length + frameHeaderSize
                inData := overwrite inData frameHeaderSize plain
                filled := frameHeaderSize + plain.length })
        | .error e =>
            ([raw, .recvError endpoint ("Decryption fail: " ++ e)],
              { reading with
                bytesRcvd := 0
                inData := overwrite inData frameHeaderSize
                  (dec.leftover evp frameHeader.cipher body) })
  else ([raw], reading)

/-- `handle_recv`, its first part: which frame header counts. -/
def readFrame (Msg : Type) (evp : Evp) (p : Peer Endpoint) (endpoint : Endpoint)
    (bytesRcvd : Nat) : List (Signal Endpoint Msg) × Reading :=
  match p.frameHeaderVersion with
  | .v1 => ([], p.readV1 bytesRcvd)
  | .v2 => p.readV2 Msg evp endpoint bytesRcvd

/-- The arguments `handle_recv` passes to `deserialize`. -/
def callOf (p : Peer Endpoint) (r : Reading) : Call :=
  match p.frameHeaderVersion with
  | .v1 =>
      let frameHeaderV1 := FrameHeaderV1.ofBytes r.inData
      { frameHeader :=
          -- the message register expects the payload size to include the message header
          { r.frameHeader with
            payloadSize := r.frameHeader.payloadSize + UInt32.ofNat messageHeaderSize }
        messageHeader := ⟨frameHeaderV1.componentId, frameHeaderV1.msgType⟩
        buffer := r.inData
        offset := frameHeaderV1Size
        filled := r.filled }
  | .v2 =>
      { frameHeader := r.frameHeader
        messageHeader := MessageHeader.ofBytes r.inData frameHeaderSize
        buffer := r.inData
        offset := frameHeaderSize + messageHeaderSize
        filled := r.filled }

section Receive

variable [DecidableEq Endpoint] (evp : Evp) (pb : Protobuf Msg Proto) (mr : MessageRegister Proto)

/-- `header_size`; both frame headers have eight bytes. -/
def headerSize (p : Peer Endpoint) : Nat :=
  match p.frameHeaderVersion with
  | .v1 => frameHeaderV1Size
  | .v2 => frameHeaderSize

/-- Datagrams from this endpoint reach a subscriber. -/
def Hears (p : Peer Endpoint) (endpoint : Endpoint) : Prop :=
  0 < p.numSlots ∧ (p.filterSelf = true → endpoint ∉ p.localEndpoints)

instance (p : Peer Endpoint) (endpoint : Endpoint) : Decidable (p.Hears endpoint) := by
  unfold Hears
  infer_instance

omit [DecidableEq Endpoint] in
@[simp] theorem hears_fill (p : Peer Endpoint) (endpoint : Endpoint) (packet : List Byte) :
    (p.fill packet).Hears endpoint ↔ p.Hears endpoint := by
  unfold fill; split <;> rfl

/-- `handle_recv`, its second part: the size check, the filter and the call of `deserialize`. -/
def dispatch (p : Peer Endpoint) (endpoint : Endpoint) (r : Reading) :
    List (Signal Endpoint Msg) × Option Call :=
  if p.numSlots = 0 then ([], none)
  else if r.bytesRcvd = p.headerSize + r.frameHeader.payloadSize.toNat then
    if p.filterSelf = false ∨ endpoint ∉ p.localEndpoints then
      let call := p.callOf r
      match deserialize pb mr call with
      | .ok m =>
          ([.rcvd endpoint call.messageHeader.componentId call.messageHeader.msgType m], some call)
      | .error e => ([.recvError endpoint ("Deserialization fail: " ++ e)], some call)
    else ([], none)
  else ([.recvError endpoint "Invalid number of bytes received"], none)

/-- `handle_recv`. -/
def handleRecv (p : Peer Endpoint) (endpoint : Endpoint) (error : Bool) (bytesRcvd : Nat) :
    Outcome Endpoint Msg :=
  if error = false ∧ p.expectedMinSize ≤ bytesRcvd then
    let (signals, r) := p.readFrame Msg evp endpoint bytesRcvd
    let (signals', call) := p.dispatch pb mr endpoint r
    ⟨signals ++ signals', call, startRecv { p with inData := r.inData }⟩
  else
    ⟨[.recvError endpoint "General receiving error or truncated message"], none, p.startRecv⟩

/-- A datagram arrives: the pending receive takes what fits and runs its handler. -/
def receive (p : Peer Endpoint) (endpoint : Endpoint) (datagram : List Byte) :
    Outcome Endpoint Msg :=
  let packet := datagram.take maxPacketLength
  (p.fill packet).handleRecv evp pb mr endpoint false packet.length

end Receive

/-! ## The ways to read a frame -/

section ReadFrame

variable {evp : Evp} {p : Peer Endpoint} {endpoint : Endpoint}

theorem readFrame_v1 (hv : p.frameHeaderVersion = .v1) (n : Nat) :
    p.readFrame Msg evp endpoint n = ([], p.readV1 n) := by
  rw [readFrame, hv]

theorem readFrame_v2 (hv : p.frameHeaderVersion = .v2) (n : Nat) :
    p.readFrame Msg evp endpoint n = p.readV2 Msg evp endpoint n := by
  rw [readFrame, hv]

/-- No message is handed on before the size check. -/
theorem rcvd_not_mem_readFrame {n : Nat} {ep : Endpoint} {c t : UInt16} {m : Msg} :
    Signal.rcvd ep c t m ∉ (p.readFrame Msg evp endpoint n).1 := by
  unfold readFrame readV2
  dsimp only
  repeat' split
  all_goals simp

variable (hslots : 0 < p.numSlots) (n : Nat)

include hslots

/-- Without a key in use, the header in `in_data_` counts, whatever cipher it names. -/
theorem readV2_plain (hbuf : p.cryptoBuf = false) :
    (p.readV2 Msg evp endpoint n).2 =
      ⟨FrameHeader.ofBytes p.inData, n, p.inData, p.filledBy n⟩ := by
  have hne : p.numSlots ≠ 0 := by omega
  by_cases hcipher : (FrameHeader.ofBytes p.inData).cipher = encryptionNone
  · simp [readV2, hbuf, hne, hcipher]
  · simp [readV2, hbuf, hne, hcipher]

/-- A plain text frame to an encrypted peer is reported, and then read from `in_data_`, to which
nothing was received. -/
theorem readV2_cleartext (hbuf : p.cryptoBuf = true)
    (hcipher : (FrameHeader.ofBytes p.encInData).cipher = encryptionNone) :
    (p.readV2 Msg evp endpoint n).2 =
      ⟨FrameHeader.ofBytes p.encInData, n, p.inData, 0⟩ := by
  have hne : p.numSlots ≠ 0 := by omega
  have hpend := (p.keyed hbuf).2
  simp [readV2, hbuf, hne, hcipher, filledBy, hpend]

variable {enc : BufferEncryptor} {dec : BufferDecryptor} (hkeys : p.crypto = some (enc, dec))
  (hbuf : p.cryptoBuf = true)
  (hcipher : (FrameHeader.ofBytes p.encInData).cipher ≠ encryptionNone)

include hkeys hbuf hcipher

/-- A decrypted frame has the length of the plain text, whatever its header said. -/
theorem readV2_decrypt_ok {plain : List Byte}
    (hdec : dec.decrypt evp (FrameHeader.ofBytes p.encInData).cipher
      (slice p.encInData frameHeaderSize (n - frameHeaderSize)) = .ok plain) :
    (p.readV2 Msg evp endpoint n).2 =
      { frameHeader :=
          { FrameHeader.ofBytes p.encInData with payloadSize := UInt32.ofNat plain.length }
        bytesRcvd := plain.length + frameHeaderSize
        inData := overwrite (overwrite p.inData 0 (p.encInData.take frameHeaderSize))
          frameHeaderSize plain
        filled := frameHeaderSize + plain.length } := by
  have hne : p.numSlots ≠ 0 := by omega
  simp [readV2, hbuf, hne, hcipher, hkeys, hdec]

/-- After a failed decryption no byte counts as received. -/
theorem readV2_decrypt_error {e : String}
    (hdec : dec.decrypt evp (FrameHeader.ofBytes p.encInData).cipher
      (slice p.encInData frameHeaderSize (n - frameHeaderSize)) = .error e) :
    (p.readV2 Msg evp endpoint n).2.bytesRcvd = 0 := by
  have hne : p.numSlots ≠ 0 := by omega
  simp [readV2, hbuf, hne, hcipher, hkeys, hdec]

end ReadFrame

/-! ## What a datagram leads to -/

section Spec

variable [DecidableEq Endpoint] {evp : Evp} {pb : Protobuf Msg Proto} {mr : MessageRegister Proto}
  {p : Peer Endpoint} {endpoint : Endpoint} {datagram : List Byte}

/-- `deserialize` is called exactly when someone listens and the sizes add up. -/
theorem dispatch_call (r : Reading) :
    (p.dispatch pb mr endpoint r).2 =
      if p.Hears endpoint ∧ r.bytesRcvd = p.headerSize + r.frameHeader.payloadSize.toNat then
        some (p.callOf r)
      else none := by
  have hfilter : (p.filterSelf = false ∨ endpoint ∉ p.localEndpoints) ↔
      (p.filterSelf = true → endpoint ∉ p.localEndpoints) := by
    cases p.filterSelf <;> simp
  by_cases hslots : p.numSlots = 0
  · simp [dispatch, Hears, hslots]
  have hpos : 0 < p.numSlots := Nat.pos_of_ne_zero hslots
  simp only [dispatch, if_neg hslots, hfilter, Hears, hpos, true_and]
  by_cases hsize : r.bytesRcvd = p.headerSize + r.frameHeader.payloadSize.toNat
  · by_cases hself : p.filterSelf = true → endpoint ∉ p.localEndpoints
    · rw [if_pos hsize, if_pos hself, if_pos ⟨hself, hsize⟩]
      split <;> rfl
    · rw [if_pos hsize, if_neg hself, if_neg (fun h => hself h.1)]
  · rw [if_neg hsize, if_neg (fun h => hsize h.2)]

/-- A message is handed on exactly when `deserialize` was called and returned it. -/
theorem rcvd_mem_dispatch (r : Reading) {ep : Endpoint} {c t : UInt16} {m : Msg} :
    Signal.rcvd ep c t m ∈ (p.dispatch pb mr endpoint r).1 ↔
      ep = endpoint ∧ ∃ call, (p.dispatch pb mr endpoint r).2 = some call ∧
        call.messageHeader = ⟨c, t⟩ ∧ deserialize pb mr call = .ok m := by
  unfold dispatch
  split
  · simp
  split
  · split
    · cases hd : deserialize pb mr (p.callOf r) with
      | ok m' =>
          simp only [List.mem_singleton, Signal.rcvd.injEq, Option.some.injEq, exists_eq_left', hd,
            Except.ok.injEq]
          constructor
          · rintro ⟨rfl, rfl, rfl, rfl⟩
            exact ⟨rfl, rfl, rfl⟩
          · rintro ⟨rfl, hmh, rfl⟩
            rw [hmh]
            exact ⟨rfl, rfl, rfl, rfl⟩
      | error e => simp [hd]
    · simp
  · simp

variable (n : Nat)

/-- The call of `deserialize` for a datagram of `n` bytes. -/
theorem handleRecv_call :
    (p.handleRecv evp pb mr endpoint false n).call =
      if p.expectedMinSize ≤ n then
        (p.dispatch pb mr endpoint (p.readFrame Msg evp endpoint n).2).2
      else none := by
  unfold handleRecv
  by_cases hmin : p.expectedMinSize ≤ n
  · rw [if_pos ⟨rfl, hmin⟩, if_pos hmin]
  · rw [if_neg (fun h => hmin h.2), if_neg hmin]

/-- A received message is handed on exactly when `deserialize` was called and returned it. -/
theorem rcvd_mem_handleRecv {ep : Endpoint} {c t : UInt16} {m : Msg} :
    Signal.rcvd ep c t m ∈ (p.handleRecv evp pb mr endpoint false n).signals ↔
      ep = endpoint ∧ ∃ call, (p.handleRecv evp pb mr endpoint false n).call = some call ∧
        call.messageHeader = ⟨c, t⟩ ∧ deserialize pb mr call = .ok m := by
  rw [handleRecv_call]
  by_cases hmin : p.expectedMinSize ≤ n
  · rw [if_pos hmin, ← rcvd_mem_dispatch, handleRecv, if_pos ⟨rfl, hmin⟩]
    show Signal.rcvd ep c t m ∈ (p.readFrame Msg evp endpoint n).1 ++ _ ↔ _
    rw [List.mem_append]
    exact or_iff_right rcvd_not_mem_readFrame
  · rw [if_neg hmin, handleRecv, if_neg (fun h => hmin h.2)]
    simp

/-- After every datagram the peer waits for the next one under its present keys. -/
theorem listening_receive : (p.receive evp pb mr endpoint datagram).peer.Listening := by
  unfold receive handleRecv
  dsimp only
  split <;> exact listening_startRecv _

/-- The frame as `handle_recv` understands it, for a datagram. -/
def frameOf (Msg : Type) (evp : Evp) (p : Peer Endpoint) (endpoint : Endpoint)
    (datagram : List Byte) : Reading :=
  let packet := datagram.take maxPacketLength
  ((p.fill packet).readFrame Msg evp endpoint packet.length).2

/-- `deserialize` is called for a datagram exactly when it is no shorter than the headers, someone
listens, and the sizes add up. -/
theorem receive_call :
    (p.receive evp pb mr endpoint datagram).call =
      if p.expectedMinSize ≤ (datagram.take maxPacketLength).length ∧ p.Hears endpoint ∧
          (p.frameOf Msg evp endpoint datagram).bytesRcvd =
            p.headerSize + (p.frameOf Msg evp endpoint datagram).frameHeader.payloadSize.toNat then
        some (p.callOf (p.frameOf Msg evp endpoint datagram))
      else none := by
  have hmin : (p.fill (datagram.take maxPacketLength)).expectedMinSize = p.expectedMinSize := by
    simp [expectedMinSize]
  have hsize : (p.fill (datagram.take maxPacketLength)).headerSize = p.headerSize := by
    simp [headerSize]
  have hcall : ∀ r, (p.fill (datagram.take maxPacketLength)).callOf r = p.callOf r := by
    intro r
    simp [callOf]
  simp only [receive, handleRecv_call, hmin, dispatch_call, hears_fill, hsize, hcall, frameOf]
  by_cases h : p.expectedMinSize ≤ (datagram.take maxPacketLength).length
  · simp only [h, if_true, true_and]
  · simp only [h, if_false, false_and]

end Spec

end Peer

end FactoryHub.Comm
