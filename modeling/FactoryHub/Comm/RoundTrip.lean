import FactoryHub.Comm.Peer

/-!
# From one broadcast peer to another

When a message that `send` accepts is delivered by the peer that receives its datagram.

* `v2_delivers_iff` — with frame header V2, exactly when the whole datagram fits the receive
  buffer (`largestPayload`), the receiver listens to the sender and its register reads the payload.
  `send` bounds the payload alone, so it accepts messages whose datagram is cut off.
* `v1_not_delivered` — with frame header V1, never: the header announces the payload with the
  message header, which a V1 datagram does not contain.
-/

namespace FactoryHub.Comm

open Lib MessageRegister

variable {Endpoint Msg Proto : Type}

/-- The register knows the message and parses the payload. -/
def MessageRegister.Reads (pb : Protobuf Msg Proto) (mr : MessageRegister Proto)
    (componentId msgType : UInt16) (payload : List Byte) : Prop :=
  ∃ proto m, mr.messageByCompType (componentId, msgType) = some proto ∧
    pb.parseFromArray proto payload = some m

/-- The peer read exactly this payload as a message of this component and type, and handed the
result on. -/
def Outcome.Delivers (pb : Protobuf Msg Proto) (mr : MessageRegister Proto)
    (out : Outcome Endpoint Msg) (endpoint : Endpoint) (componentId msgType : UInt16)
    (payload : List Byte) : Prop :=
  ∃ call m, out.call = some call ∧ call.messageHeader = ⟨componentId, msgType⟩ ∧
    call.data = payload ∧ deserialize pb mr call = .ok m ∧
    .rcvd endpoint componentId msgType m ∈ out.signals

theorem deserialize_eq_ok_iff {pb : Protobuf Msg Proto} {mr : MessageRegister Proto} {call : Call}
    {c t : UInt16} (hmh : call.messageHeader = ⟨c, t⟩) :
    (∃ m, deserialize pb mr call = .ok m) ↔ mr.Reads pb c t call.data := by
  unfold deserialize newMessageFor Reads
  rw [hmh]
  cases hproto : mr.messageByCompType (c, t) with
  | none => simp [bind, Except.bind]
  | some proto =>
      cases hparse : pb.parseFromArray proto call.data with
      | none => simp [bind, Except.bind, hparse]
      | some m => simp [bind, Except.bind, hparse]

namespace Peer

section Delivery

variable [DecidableEq Endpoint] {evp : Evp} {pb : Protobuf Msg Proto} {mr : MessageRegister Proto}
  {p : Peer Endpoint} {endpoint : Endpoint} {datagram : List Byte}

theorem delivers_receive_iff {c t : UInt16} {payload : List Byte} :
    (p.receive evp pb mr endpoint datagram).Delivers pb mr endpoint c t payload ↔
      ∃ call, (p.receive evp pb mr endpoint datagram).call = some call ∧
        call.messageHeader = ⟨c, t⟩ ∧ call.data = payload ∧ mr.Reads pb c t payload := by
  constructor
  · rintro ⟨call, m, hcall, hmh, rfl, hm, -⟩
    exact ⟨call, hcall, hmh, rfl, (deserialize_eq_ok_iff hmh).mp ⟨m, hm⟩⟩
  · rintro ⟨call, hcall, hmh, rfl, hreads⟩
    obtain ⟨m, hm⟩ := (deserialize_eq_ok_iff hmh).mpr hreads
    exact ⟨call, m, hcall, hmh, rfl, hm, (rcvd_mem_handleRecv _).mpr ⟨rfl, call, hcall, hmh, hm⟩⟩

end Delivery

/-! ## What the sender puts into a datagram -/

section Sending

variable {pb : Protobuf Msg Proto} {p : Peer Endpoint} {mem : FrameHeader} {memV1 : FrameHeaderV1}
  {memMsg : MessageHeader} {c t : UInt16} {m : Msg} {entry : QueueEntry}

/-- What `send` queues: the headers of the message and its serialisation, in the format of the peer. -/
theorem send_eq_ok (hsend : p.send pb mem memV1 memMsg c t m = .ok entry) :
    ∃ payload, pb.serializeToString m = some payload ∧ payload.length ≤ maxPacketLength ∧
      entry.frameHeader.payloadSize = UInt32.ofNat (messageHeaderSize + payload.length) ∧
      entry.frameHeader.cipher = encryptionNone ∧
      entry.buffers = match p.frameHeaderVersion with
        | .v1 => ((FrameHeaderV1.mk c t entry.frameHeader.payloadSize).bytes, [], payload)
        | .v2 => (entry.frameHeader.bytes, (MessageHeader.mk c t).bytes, payload) := by
  unfold send MessageRegister.serialize at hsend
  cases hser : pb.serializeToString m with
  | none => simp [hser] at hsend
  | some payload =>
      simp only [hser] at hsend
      split at hsend
      · cases hsend
      · next hlen =>
          refine ⟨payload, rfl, by omega, ?_⟩
          cases hv : p.frameHeaderVersion with
          | v1 =>
              rw [hv] at hsend
              cases hsend
              exact ⟨rfl, rfl, rfl⟩
          | v2 =>
              rw [hv] at hsend
              cases hsend
              exact ⟨rfl, rfl, rfl⟩

theorem send_v2 (hv : p.frameHeaderVersion = .v2)
    (hsend : p.send pb mem memV1 memMsg c t m = .ok entry) :
    ∃ payload, pb.serializeToString m = some payload ∧ payload.length ≤ maxPacketLength ∧
      entry.frameHeader.payloadSize = UInt32.ofNat (messageHeaderSize + payload.length) ∧
      entry.frameHeader.cipher = encryptionNone ∧
      entry.buffers = (entry.frameHeader.bytes, (MessageHeader.mk c t).bytes, payload) := by
  have hok := send_eq_ok hsend
  rw [hv] at hok
  exact hok

theorem send_v1 (hv : p.frameHeaderVersion = .v1)
    (hsend : p.send pb mem memV1 memMsg c t m = .ok entry) :
    ∃ payload, pb.serializeToString m = some payload ∧ payload.length ≤ maxPacketLength ∧
      entry.buffers =
        ((FrameHeaderV1.mk c t (UInt32.ofNat (messageHeaderSize + payload.length))).bytes, [],
          payload) := by
  obtain ⟨payload, hser, hlen, hsize, -, hbuffers⟩ := send_eq_ok hsend
  rw [hv, hsize] at hbuffers
  exact ⟨payload, hser, hlen, hbuffers⟩

/-- `send` accepts what the protobuf runtime serialises to at most 1024 bytes. -/
theorem send_accepts {payload : List Byte} (hser : pb.serializeToString m = some payload)
    (hlen : payload.length ≤ maxPacketLength) :
    ∃ entry, p.send pb mem memV1 memMsg c t m = .ok entry := by
  simp only [send, MessageRegister.serialize, hser, if_neg (Nat.not_lt.mpr hlen)]
  split <;> exact ⟨_, rfl⟩

theorem startSend_plain {evp : Evp} (hkeys : p.crypto = none) (entry : QueueEntry) :
    (p.startSend evp entry).1 = entry := by
  unfold startSend
  split
  · rfl
  · next h => rw [hkeys] at h; cases h

/-- With a key, the two last buffers are encrypted as one block behind the frame header. -/
theorem wire_startSend_encrypted (evp : Evp) {enc : BufferEncryptor} {dec : BufferDecryptor}
    (hkeys : p.crypto = some (enc, dec)) (entry : QueueEntry) :
    ∃ h : FrameHeader, h.cipher = enc.cipherId ∧
      (p.startSend evp entry).1.wire =
        h.bytes ++ (enc.encrypt evp (entry.buffers.2.1 ++ entry.buffers.2.2)).1 := by
  unfold startSend
  split
  · next h => rw [hkeys] at h; cases h
  · next enc' dec' h =>
      rw [hkeys] at h
      cases h
      refine ⟨{ entry.frameHeader with
          payloadSize := UInt32.ofNat
            (enc.encrypt evp (entry.buffers.2.1 ++ entry.buffers.2.2)).1.length
          cipher := enc.cipherId }, rfl, ?_⟩
      simp only [QueueEntry.wire, List.append_nil]

end Sending

/-! ## V2, the plain path -/

/-- Both peers are unencrypted, or both were given the same key. -/
def SharesKey (snd rcv : Peer Endpoint) : Prop :=
  match snd.crypto, rcv.crypto with
  | none, none => True
  | some (enc, _), some (_, dec) => dec.key = enc.key
  | _, _ => False

/-- The longest payload whose datagram fits the receive buffer: the two headers take 12 bytes; an
encrypted message takes the frame header, the IV and whole padded blocks. -/
def largestPayload (p : Peer Endpoint) : Nat :=
  match p.crypto with
  | none => 1012
  | some (enc, _) => if enc.ivSize = 0 then 1003 else 987

theorem toNat_payloadSize {n : Nat} (h : n ≤ maxPacketLength) :
    (UInt32.ofNat (messageHeaderSize + n)).toNat = messageHeaderSize + n := by
  rw [UInt32.toNat_ofNat', Nat.mod_eq_of_lt]
  simp only [maxPacketLength, messageHeaderSize] at h ⊢
  omega

/-- The first eight bytes of a datagram survive the cut. -/
theorem take_header_append (h : FrameHeader) (rest : List Byte) :
    (h.bytes ++ rest).take maxPacketLength = h.bytes ++ rest.take 1016 := by
  rw [List.take_append, List.take_of_length_le (by simp [frameHeaderSize, maxPacketLength])]
  simp [frameHeaderSize, maxPacketLength]

/-- `in_data_` holding a frame header, a message header and the payload gives the call its
arguments. -/
theorem callOf_v2 {p : Peer Endpoint} (hv : p.frameHeaderVersion = .v2) (r : Reading)
    (mh : MessageHeader) (payload : List Byte) {front rest : List Byte} (hfront : front.length = frameHeaderSize)
    (hbuf : r.inData = front ++ mh.bytes ++ payload ++ rest)
    (hsize : r.frameHeader.payloadSize.toNat = messageHeaderSize + payload.length) :
    (p.callOf r).messageHeader = mh ∧ (p.callOf r).data = payload := by
  constructor
  · simp only [callOf, hv, hbuf, ← hfront]
    rw [List.append_assoc (front ++ mh.bytes)]
    exact MessageHeader.ofBytes_append_bytes_append ..
  · have hcall : (p.callOf r).dataSize.toNat = payload.length := by
      rw [Call.dataSize_toNat]
      · simp only [callOf, hv]
        omega
      · simp only [callOf, hv]
        omega
    rw [Call.data, hcall]
    simp only [callOf, hv, hbuf]
    exact slice_append_right (by simp [hfront]) rfl

section V2

variable [DecidableEq Endpoint] {evp : Evp} {pb : Protobuf Msg Proto} {mr : MessageRegister Proto}
  {p : Peer Endpoint} {endpoint : Endpoint} {datagram : List Byte}

omit [DecidableEq Endpoint] in
theorem frameOf_plain (hv : p.frameHeaderVersion = .v2) (hslots : 0 < p.numSlots)
    (hbuf : p.cryptoBuf = false) (hpend : p.pendingEnc = false) (h : FrameHeader)
    (rest : List Byte) :
    p.frameOf Msg evp endpoint (h.bytes ++ rest) =
      let packet := h.bytes ++ rest.take 1016
      ⟨h, packet.length, packet ++ p.inData.drop packet.length, packet.length⟩ := by
  simp only [frameOf, take_header_append]
  rw [readFrame_v2 (by simpa using hv), readV2_plain (by simpa using hslots) _ (by simpa using hbuf)]
  simp [fill_inData_of_plain _ hpend, filledBy, hpend, List.append_assoc]

/-- An unencrypted peer delivers the payload of a datagram exactly when all of it arrived. -/
theorem delivers_plain_iff (hv : p.frameHeaderVersion = .v2) (hbuf : p.cryptoBuf = false)
    (hpend : p.pendingEnc = false) {h : FrameHeader} {c t : UInt16} {payload : List Byte}
    (hlen : payload.length ≤ maxPacketLength)
    (hsize : h.payloadSize = UInt32.ofNat (messageHeaderSize + payload.length)) :
    (p.receive evp pb mr endpoint (h.bytes ++ ((MessageHeader.mk c t).bytes ++ payload))).Delivers
        pb mr endpoint c t payload ↔
      payload.length ≤ 1012 ∧ p.Hears endpoint ∧ mr.Reads pb c t payload := by
  have hsize' : h.payloadSize.toNat = messageHeaderSize + payload.length := by
    rw [hsize, toNat_payloadSize hlen]
  rw [delivers_receive_iff, receive_call]
  by_cases hears : p.Hears endpoint
  swap
  · simp [hears]
  rw [frameOf_plain hv hears.1 hbuf hpend]
  simp only [hears, take_header_append, true_and]
  by_cases hfit : payload.length ≤ 1012
  · -- nothing is cut off
    have htake : ((MessageHeader.mk c t).bytes ++ payload).take 1016 =
        (MessageHeader.mk c t).bytes ++ payload := by
      apply List.take_of_length_le
      simp only [List.length_append, MessageHeader.length_bytes, messageHeaderSize]
      omega
    rw [htake]
    generalize hpacket : h.bytes ++ ((MessageHeader.mk c t).bytes ++ payload) = packet
    have hplen : packet.length = 12 + payload.length := by
      rw [← hpacket]
      simp only [List.length_append, FrameHeader.length_bytes, MessageHeader.length_bytes,
        frameHeaderSize, messageHeaderSize]
      omega
    have hcond : p.expectedMinSize ≤ packet.length ∧
        packet.length = p.headerSize + h.payloadSize.toNat := by
      simp only [expectedMinSize, headerSize, hv, hsize', frameHeaderSize, messageHeaderSize]
      omega
    rw [if_pos hcond]
    obtain ⟨hmh, hdata⟩ := callOf_v2 hv
      ⟨h, packet.length, packet ++ p.inData.drop packet.length, packet.length⟩ ⟨c, t⟩ payload
      h.length_bytes (by simp only [← hpacket, List.append_assoc]; rfl) hsize'
    constructor
    · rintro ⟨call, -, -, -, hreads⟩
      exact ⟨hfit, hreads⟩
    · rintro ⟨-, hreads⟩
      exact ⟨_, rfl, hmh, hdata, hreads⟩
  · -- the payload is cut at 1012 bytes, the header still announces all of it
    have hcut : (h.bytes ++ ((MessageHeader.mk c t).bytes ++ payload).take 1016).length = 1024 := by
      simp only [List.length_append, List.length_take, FrameHeader.length_bytes,
        MessageHeader.length_bytes, frameHeaderSize, messageHeaderSize]
      omega
    rw [if_neg]
    · simp [hfit]
    · simp only [hcut, headerSize, hv, hsize', frameHeaderSize, messageHeaderSize]
      omega

/-! ## V2, the encrypted path -/

section Encrypted

variable (hevp : evp.Lawful) {enc encRcv : BufferEncryptor} {dec : BufferDecryptor}
  (hv : p.frameHeaderVersion = .v2) (hbuf : p.cryptoBuf = true)
  (hkeys : p.crypto = some (encRcv, dec)) (hkey : dec.key = enc.key)

include hevp in
/-- The largest payload is the longest one whose ciphertext and IV fit behind the frame header. -/
theorem encryptedBufferSize_fits_iff (plain : List Byte) (n : Nat)
    (hplain : plain.length = messageHeaderSize + n) :
    (enc.encrypt evp plain).1.length ≤ 1016 ↔ n ≤ if enc.ivSize = 0 then 1003 else 987 := by
  rw [enc.length_encrypt hevp, BufferEncryptor.encryptedBufferSize, hplain]
  simp only [blockSize, messageHeaderSize]
  rcases enc.ivSize_cases with hiv | hiv
  · rw [hiv, if_pos rfl]
    omega
  · rw [hiv, if_neg (by omega)]
    omega

include hevp in
/-- A ciphertext that was cut off is no whole number of blocks any more. -/
theorem decrypt_cut {cipherText : List Byte} (hlen : cipherText.length = 1016) :
    ∃ e, dec.decrypt evp enc.cipherId cipherText = .error e := by
  cases hdec : dec.decrypt evp enc.cipherId cipherText with
  | error e => exact ⟨e, rfl⟩
  | ok plain =>
      obtain ⟨-, hblocks⟩ := BufferDecryptor.decrypt_blocks hevp enc hdec
      simp only [hlen, blockSize] at hblocks
      rcases enc.ivSize_cases with hiv | hiv
      · omega
      · omega

omit [DecidableEq Endpoint] in
/-- The receive buffers of a peer with a key, after a datagram. -/
theorem encInData_fill (hpend : p.pendingEnc = true) (h : FrameHeader) (rest : List Byte) :
    FrameHeader.ofBytes (p.fill (h.bytes ++ rest)).encInData = h ∧
      slice (p.fill (h.bytes ++ rest)).encInData frameHeaderSize
        ((h.bytes ++ rest).length - frameHeaderSize) = rest ∧
      (p.fill (h.bytes ++ rest)).encInData.take frameHeaderSize = h.bytes := by
  rw [fill_encInData _ hpend]
  refine ⟨?_, ?_, ?_⟩
  · rw [List.append_assoc]
    exact h.ofBytes_bytes_append _
  · exact slice_append_right h.length_bytes (by simp)
  · rw [List.append_assoc, List.take_left' h.length_bytes]

include hevp hv hbuf hkeys

omit [DecidableEq Endpoint] in
include hkey in
/-- A ciphertext that arrived is decrypted behind the frame header. -/
theorem frameOf_decrypted (hslots : 0 < p.numSlots) {h : FrameHeader}
    (hcipher : h.cipher = enc.cipherId) {plain : List Byte}
    (hfit : (enc.encrypt evp plain).1.length ≤ 1016) :
    ∃ rest filled, p.frameOf Msg evp endpoint (h.bytes ++ (enc.encrypt evp plain).1) =
      { frameHeader := { h with payloadSize := UInt32.ofNat plain.length }
        bytesRcvd := plain.length + frameHeaderSize
        inData := h.bytes ++ plain ++ rest
        filled } := by
  have hpend := (p.keyed hbuf).2
  generalize hct : (enc.encrypt evp plain).1 = cipherText at *
  have htake : cipherText.take 1016 = cipherText := List.take_of_length_le hfit
  simp only [frameOf, take_header_append, htake,
    readFrame_v2 ((fill_frameHeaderVersion p _).trans hv)]
  obtain ⟨hheader, hbody, hfront⟩ := encInData_fill hpend h cipherText
  have hdec : dec.decrypt evp (FrameHeader.ofBytes (p.fill (h.bytes ++ cipherText)).encInData).cipher
      (slice (p.fill (h.bytes ++ cipherText)).encInData frameHeaderSize
        ((h.bytes ++ cipherText).length - frameHeaderSize)) = .ok plain := by
    rw [hheader, hbody, hcipher, ← hct]
    exact BufferDecryptor.decrypt_encrypt hevp enc _ dec hkey
  have hcipher' : (FrameHeader.ofBytes (p.fill (h.bytes ++ cipherText)).encInData).cipher ≠
      encryptionNone := by
    rw [hheader, hcipher]
    exact enc.cipherId_ne_none
  rw [readV2_decrypt_ok (by rwa [fill_numSlots]) _ (by rwa [fill_crypto]) (by rwa [fill_cryptoBuf])
    hcipher' hdec, hheader, hfront, overwrite_zero, overwrite, List.take_left' h.length_bytes]
  exact ⟨_, _, rfl⟩

omit [DecidableEq Endpoint] in
/-- Of a ciphertext that was cut off, no byte counts. -/
theorem bytesRcvd_of_cut (hslots : 0 < p.numSlots) {h : FrameHeader}
    (hcipher : h.cipher = enc.cipherId) {cipherText : List Byte} (hcut : 1016 < cipherText.length) :
    (p.frameOf Msg evp endpoint (h.bytes ++ cipherText)).bytesRcvd = 0 := by
  have hpend := (p.keyed hbuf).2
  simp only [frameOf, take_header_append, readFrame_v2 ((fill_frameHeaderVersion p _).trans hv)]
  obtain ⟨hheader, hbody, _⟩ := encInData_fill hpend h (cipherText.take 1016)
  have hlen : (cipherText.take 1016).length = 1016 := by
    rw [List.length_take]
    omega
  obtain ⟨e, he⟩ := decrypt_cut hevp hlen
  have hcipher' : (FrameHeader.ofBytes
      (p.fill (h.bytes ++ cipherText.take 1016)).encInData).cipher ≠ encryptionNone := by
    rw [hheader, hcipher]
    exact enc.cipherId_ne_none
  apply readV2_decrypt_error (by rwa [fill_numSlots]) _ (by rwa [fill_crypto])
    (by rwa [fill_cryptoBuf]) hcipher'
  rw [hheader, hbody, hcipher]
  exact he

include hkey in
/-- An encrypted peer delivers the payload exactly when all of its ciphertext arrived. -/
theorem delivers_encrypted_iff {h : FrameHeader} (hcipher : h.cipher = enc.cipherId)
    {c t : UInt16} {payload : List Byte} (hlen : payload.length ≤ maxPacketLength) :
    (p.receive evp pb mr endpoint
        (h.bytes ++ (enc.encrypt evp ((MessageHeader.mk c t).bytes ++ payload)).1)).Delivers
          pb mr endpoint c t payload ↔
      (payload.length ≤ if enc.ivSize = 0 then 1003 else 987) ∧ p.Hears endpoint ∧
        mr.Reads pb c t payload := by
  have hplain : ((MessageHeader.mk c t).bytes ++ payload).length =
      messageHeaderSize + payload.length := by simp
  rw [delivers_receive_iff, receive_call]
  by_cases hears : p.Hears endpoint
  swap
  · simp [hears]
  rw [← encryptedBufferSize_fits_iff hevp _ _ hplain]
  simp only [hears, take_header_append, true_and]
  by_cases hfit : (enc.encrypt evp ((MessageHeader.mk c t).bytes ++ payload)).1.length ≤ 1016
  · -- all of the ciphertext arrived, and decrypts
    obtain ⟨rest, filled, hframe⟩ := @frameOf_decrypted _ Msg _ _ endpoint hevp _ _ _ hv hbuf hkeys
      hkey hears.1 _ hcipher _ hfit
    have hmin : p.expectedMinSize ≤
        (h.bytes ++ (enc.encrypt evp ((MessageHeader.mk c t).bytes ++ payload)).1).length := by
      rw [List.length_append, enc.length_encrypt hevp, h.length_bytes]
      simp only [expectedMinSize, hv, BufferEncryptor.encryptedBufferSize, blockSize,
        frameHeaderSize, messageHeaderSize]
      omega
    rw [List.take_of_length_le hfit]
    generalize p.frameOf Msg evp endpoint _ = r at hframe ⊢
    have hinData : r.inData = h.bytes ++ (MessageHeader.mk c t).bytes ++ payload ++ rest := by
      rw [hframe]
      simp only [List.append_assoc]
    have hsize : r.frameHeader.payloadSize.toNat = messageHeaderSize + payload.length := by
      rw [hframe]
      exact hplain ▸ toNat_payloadSize hlen
    have hrcvd : r.bytesRcvd = p.headerSize + r.frameHeader.payloadSize.toNat := by
      rw [hsize, hframe]
      simp only [headerSize, hv, hplain]
      omega
    rw [if_pos ⟨hmin, hrcvd⟩]
    obtain ⟨hmh, hdata⟩ := callOf_v2 hv r ⟨c, t⟩ payload h.length_bytes hinData hsize
    constructor
    · rintro ⟨call, -, -, -, hreads⟩
      exact ⟨hfit, hreads⟩
    · rintro ⟨-, hreads⟩
      exact ⟨_, rfl, hmh, hdata, hreads⟩
  · -- the cut leaves half a block
    rw [if_neg]
    · simp [hfit]
    · rw [bytesRcvd_of_cut hevp hv hbuf hkeys hears.1 hcipher (by omega)]
      simp only [headerSize, hv, frameHeaderSize]
      omega

end Encrypted

/-! ## The protocol -/

section Protocol

variable {snd rcv : Peer Endpoint} {mem : FrameHeader} {memV1 : FrameHeaderV1}
  {memMsg : MessageHeader} {c t : UInt16} {m : Msg} {entry : QueueEntry} {payload : List Byte}

/-- A message that a V2 peer sends is delivered by a V2 peer with the same key exactly when its
datagram fits the receive buffer, the receiver listens to the sender and its register reads the
payload. -/
theorem v2_delivers_iff (hevp : evp.Lawful) (hsnd : snd.frameHeaderVersion = .v2)
    (hrcv : rcv.frameHeaderVersion = .v2) (hkey : SharesKey snd rcv) (hlistening : rcv.Listening)
    (hser : pb.serializeToString m = some payload)
    (hsend : snd.send pb mem memV1 memMsg c t m = .ok entry) :
    (rcv.receive evp pb mr endpoint (snd.startSend evp entry).1.wire).Delivers
        pb mr endpoint c t payload ↔
      payload.length ≤ snd.largestPayload ∧ rcv.Hears endpoint ∧ mr.Reads pb c t payload := by
  obtain ⟨payload', hser', hlen, hsize, -, hbuffers⟩ := send_v2 hsnd hsend
  obtain rfl : payload = payload' := Option.some.inj (hser.symm.trans hser')
  rw [SharesKey] at hkey
  cases hsndKeys : snd.crypto with
  | none =>
      cases hrcvKeys : rcv.crypto with
      | some keys => simp [hsndKeys, hrcvKeys] at hkey
      | none =>
          have hbuf : rcv.cryptoBuf = false := by rw [hlistening.1, hrcvKeys]; rfl
          have hpend : rcv.pendingEnc = false := by rw [hlistening.2, hrcvKeys]; rfl
          rw [startSend_plain hsndKeys, QueueEntry.wire, hbuffers, largestPayload, hsndKeys,
            List.append_assoc]
          exact delivers_plain_iff hrcv hbuf hpend hlen hsize
  | some keys =>
      obtain ⟨enc, decSnd⟩ := keys
      cases hrcvKeys : rcv.crypto with
      | none => simp [hsndKeys, hrcvKeys] at hkey
      | some keys' =>
          obtain ⟨encRcv, dec⟩ := keys'
          simp only [hsndKeys, hrcvKeys] at hkey
          have hbuf : rcv.cryptoBuf = true := by rw [hlistening.1, hrcvKeys]; rfl
          obtain ⟨h, hcipher, hwire⟩ := wire_startSend_encrypted evp hsndKeys entry
          rw [hwire, hbuffers, largestPayload, hsndKeys]
          exact delivers_encrypted_iff hevp hrcv hbuf hrcvKeys hkey hcipher hlen

/-- A V1 datagram never passes the size check of a V1 peer. -/
theorem receive_call_v1 (hsnd : snd.frameHeaderVersion = .v1)
    (hrcv : rcv.frameHeaderVersion = .v1)
    (hsend : snd.send pb mem memV1 memMsg c t m = .ok entry) :
    (rcv.receive evp pb mr endpoint (snd.startSend evp entry).1.wire).call = none := by
  obtain ⟨payload, -, hlen, hbuffers⟩ := send_v1 hsnd hsend
  have hpend := (rcv.v1_plain hrcv).2
  rw [startSend_plain (snd.v1_plain hsnd).1, QueueEntry.wire, hbuffers, List.append_nil,
    receive_call]
  generalize hh : FrameHeaderV1.mk c t (UInt32.ofNat (messageHeaderSize + payload.length)) = h
  have hannounced : h.payloadSize.toNat = messageHeaderSize + payload.length := by
    rw [← hh]
    exact toNat_payloadSize hlen
  have hframe : (rcv.frameOf Msg evp endpoint (h.bytes ++ payload)).frameHeader.payloadSize =
        h.payloadSize ∧
      (rcv.frameOf Msg evp endpoint (h.bytes ++ payload)).bytesRcvd ≤
        frameHeaderV1Size + payload.length := by
    have htake : (h.bytes ++ payload).take maxPacketLength = h.bytes ++ payload.take 1016 := by
      rw [List.take_append, List.take_of_length_le (by simp [frameHeaderV1Size, maxPacketLength])]
      simp [frameHeaderV1Size, maxPacketLength]
    simp only [frameOf, htake]
    rw [readFrame_v1 ((fill_frameHeaderVersion rcv _).trans hrcv), readV1,
      fill_inData_of_plain _ hpend, List.append_assoc, FrameHeaderV1.ofBytes_bytes_append]
    refine ⟨rfl, ?_⟩
    simp only [List.length_append, FrameHeaderV1.length_bytes, List.length_take]
    omega
  -- the header announces four bytes more than the datagram has
  rw [if_neg]
  rintro ⟨-, -, hsum⟩
  rw [hframe.1, hannounced, headerSize, hrcv] at hsum
  have hle := hframe.2
  rw [hsum] at hle
  simp only [messageHeaderSize] at hle
  omega

/-- No message that a V1 peer sends is delivered by a V1 peer. -/
theorem v1_not_delivered (hsnd : snd.frameHeaderVersion = .v1)
    (hrcv : rcv.frameHeaderVersion = .v1)
    (hsend : snd.send pb mem memV1 memMsg c t m = .ok entry) :
    ¬ (rcv.receive evp pb mr endpoint (snd.startSend evp entry).1.wire).Delivers
        pb mr endpoint c t payload := by
  rintro ⟨call, -, hcall, -⟩
  rw [receive_call_v1 hsnd hrcv hsend] at hcall
  cases hcall

end Protocol

/-! ## Two peers without encryption

Messages that are their own serialisation, a register that knows every type, and peers with one
subscriber. -/

section Open

def rawMessages : Protobuf (List Byte) Unit where
  serializeToString bytes := some bytes
  parseFromArray _ bytes := some bytes

def anyMessage : MessageRegister Unit where
  messageByCompType _ := some ()

def openPeer (version : FrameHeaderVersion) : Peer Nat :=
  (fresh [] version (List.replicate 1024 0) []).startRecv.connect

/-- The entry `openPeer` queues for a message of component 2000, type 1. -/
abbrev sends (version : FrameHeaderVersion) (m : List Byte) : Except String QueueEntry :=
  (openPeer version).send rawMessages ⟨0, 0, 0, 0, 0⟩ ⟨0, 0, 0⟩ ⟨0, 0⟩ 2000 1 m

/-- Another `openPeer` delivers the message of this entry. -/
abbrev Arrives (version : FrameHeaderVersion) (entry : QueueEntry) (m : List Byte) : Prop :=
  ((openPeer version).receive pkcsOnly rawMessages anyMessage 7
    ((openPeer version).startSend pkcsOnly entry).1.wire).Delivers rawMessages anyMessage 7 2000 1 m

theorem v2_delivers_short : ∃ entry, sends .v2 [8, 42] = .ok entry ∧ Arrives .v2 entry [8, 42] := by
  refine ⟨_, rfl, (v2_delivers_iff pkcsOnly_lawful rfl rfl ?_ ⟨rfl, rfl⟩ rfl rfl).mpr ?_⟩
  · exact trivial
  · exact ⟨by decide, by decide, (), [8, 42], rfl, rfl⟩

/-- 1020 bytes are accepted, but their datagram of 1032 bytes is cut off. -/
theorem v2_loses_long_payload :
    ∃ entry, sends .v2 (List.replicate 1020 0) = .ok entry ∧
      ¬ Arrives .v2 entry (List.replicate 1020 0) := by
  have hlen : (List.replicate 1020 (0 : Byte)).length = 1020 := List.length_replicate
  have hfits : (List.replicate 1020 (0 : Byte)).length ≤ maxPacketLength := by rw [hlen]; decide
  obtain ⟨entry, hsend⟩ : ∃ entry, sends .v2 (List.replicate 1020 0) = .ok entry :=
    send_accepts rfl hfits
  refine ⟨entry, hsend, ?_⟩
  obtain ⟨payload, hser, -, hsize, -, hbuffers⟩ := send_v2 rfl hsend
  obtain rfl := Option.some.inj hser
  rw [Arrives, startSend_plain rfl, QueueEntry.wire, hbuffers, List.append_assoc,
    delivers_plain_iff rfl rfl rfl hfits hsize, hlen]
  rintro ⟨hle, -⟩
  exact absurd hle (by decide)

theorem v1_loses_short : ∃ entry, sends .v1 [8, 42] = .ok entry ∧ ¬ Arrives .v1 entry [8, 42] := by
  obtain ⟨entry, hsend⟩ : ∃ entry, sends .v1 [8, 42] = .ok entry := ⟨_, rfl⟩
  exact ⟨entry, hsend, v1_not_delivered rfl rfl hsend⟩

/-- Even a datagram of eleven bytes is dropped. -/
theorem v1_drops_three_bytes :
    ∃ entry, sends .v1 [8, 42, 0] = .ok entry ∧ ¬ Arrives .v1 entry [8, 42, 0] := by
  obtain ⟨entry, hsend⟩ : ∃ entry, sends .v1 [8, 42, 0] = .ok entry := ⟨_, rfl⟩
  refine ⟨entry, hsend, ?_⟩
  rintro ⟨call, -, hcall, -⟩
  rw [receive_call_v1 rfl rfl hsend] at hcall
  cases hcall

end Open

end V2

end Peer

end FactoryHub.Comm
