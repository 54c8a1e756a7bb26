import FactoryHub.Comm.Peer
import FactoryHub.Comm.Stream

/-!
# The length arithmetic of `deserialize`

`deserialize` subtracts the size of the message header from the payload size it is given
(`Call.Sound`). The receive paths check different things before they call it:

* `Reader.read_sound_iff` — a stream end checks nothing, so its calls are sound exactly when the
  frames of the stream are.
* `Peer.receive_sound_iff` — a broadcast peer compares the header with the size of the datagram,
  which protects the plain path (`receive_sound_of_plain`), but not a decrypted frame and not one
  for which the wrong buffer is read (`Misreads`).
-/

namespace FactoryHub.Comm

open Lib MessageRegister

/-! ## Streams -/

namespace Reader

variable {r : Reader} {closes : Bool} {realloc : Nat → Bool} {ok : Nat → Prop}

/-- Each frame that is received on the open socket is given to a call. -/
theorem ok_of_read_sound (hok : ∀ header inData, (r.callOf header inData).Sound ↔ ok (r.toRead header))
    (inData stream : List Byte) (hsound : ∀ call ∈ r.read closes realloc inData stream, call.Sound) :
    ∀ (frames : List (Frame r)) (rest : List Byte),
      r.StaysOpen closes realloc inData.length frames → stream = frames.flatMap Frame.bytes ++ rest →
        ∀ f ∈ frames, ok f.body.length := by
  intro frames
  induction frames generalizing inData stream with
  | nil =>
      intro rest hopen hstream f hf
      cases hf
  | cons g frames ih =>
      intro rest hopen hstream f hf
      rw [List.flatMap_cons, List.append_assoc] at hstream
      rw [hstream, read_frame_append g _ hopen.1] at hsound
      rcases List.mem_cons.mp hf with rfl | hf
      · rw [f.length_body]
        exact (hok _ _).mp (hsound _ (List.mem_cons_self ..))
      · refine ih (overwrite inData 0 g.body) _ ?_ rest ?_ rfl f hf
        · intro call hcall
          exact hsound call (List.mem_cons_of_mem _ hcall)
        · rw [length_overwrite_zero]
          exact hopen.2

/-- Each call is given a frame that is received on the open socket. -/
theorem read_sound_of_ok (hok : ∀ header inData, (r.callOf header inData).Sound ↔ ok (r.toRead header))
    (inData stream : List Byte)
    (hframes : ∀ (frames : List (Frame r)) (rest : List Byte),
      r.StaysOpen closes realloc inData.length frames → stream = frames.flatMap Frame.bytes ++ rest →
        ∀ f ∈ frames, ok f.body.length) :
    ∀ call ∈ r.read closes realloc inData stream, call.Sound := by
  fun_induction r.read closes realloc inData stream with
  | case1 => simp
  | case2 => simp
  | case3 => simp
  | case4 inData stream hshort header rest toRead hopen hrest inData' ih =>
      have hheader : header.length = frameHeaderSize := by
        simp only [header, List.length_take]
        omega
      have hbody : (rest.take toRead).length = r.toRead header := by
        rw [List.length_take]
        omega
      let f : Frame r := ⟨header, rest.take toRead, hheader, hbody⟩
      have hsplit : ∀ tail, rest.drop toRead = tail → stream = f.bytes ++ tail := by
        rintro _ rfl
        simp only [Frame.bytes, f, header, rest, List.append_assoc, List.take_append_drop]
      have hgrow : inData.length < f.body.length → closes = true →
          realloc f.body.length = true := by
        intro hlt hcloses
        simp only [f, hbody] at hlt ⊢
        by_contra hfail
        exact hopen ⟨hlt, by simpa using hfail, hcloses⟩
      intro call hcall
      rcases List.mem_cons.mp hcall with rfl | hcall
      · rw [hok, ← hbody]
        refine hframes [f] (rest.drop toRead) ⟨hgrow, trivial⟩ ?_ f (List.mem_singleton.mpr rfl)
        simpa using hsplit _ rfl
      · refine ih (fun frames tail hopens htail g hg => ?_) call hcall
        refine hframes (f :: frames) tail ⟨hgrow, ?_⟩ ?_ g (List.mem_cons_of_mem _ hg)
        · rw [← length_overwrite_zero]
          exact hopens
        · rw [List.flatMap_cons, List.append_assoc]
          exact hsplit _ htail

/-- The calls for a stream are sound exactly when every frame received on the open socket announces
an acceptable size. -/
theorem read_sound_iff (hok : ∀ header inData, (r.callOf header inData).Sound ↔ ok (r.toRead header))
    (inData stream : List Byte) :
    (∀ call ∈ r.read closes realloc inData stream, call.Sound) ↔
      ∀ (frames : List (Frame r)) (rest : List Byte),
        r.StaysOpen closes realloc inData.length frames → stream = frames.flatMap Frame.bytes ++ rest →
          ∀ f ∈ frames, ok f.body.length :=
  ⟨ok_of_read_sound hok inData stream, read_sound_of_ok hok inData stream⟩

end Reader

/-- A session's call is sound exactly when the frame announces at least a message header. -/
theorem session_callOf_sound (header inData : List Byte) :
    (session.callOf header inData).Sound ↔ messageHeaderSize ≤ session.toRead header := by
  simp only [session, Call.Sound]
  omega

/-- The sizes a frame of the stream may announce to a client: a V1 client adds the message header to
the size itself, and only the last four sizes wrap. -/
def streamClientSize : FrameHeaderVersion → Nat → Prop
  | .v1, size => size < 2 ^ 32 - messageHeaderSize
  | .v2, size => messageHeaderSize ≤ size

theorem streamClient_callOf_sound (v : FrameHeaderVersion) (header inData : List Byte) :
    ((streamClient v).callOf header inData).Sound ↔
      streamClientSize v ((streamClient v).toRead header) := by
  cases v with
  | v1 =>
      have hlt := (FrameHeaderV1.ofBytes header).payloadSize.toNat_lt
      simp only [streamClient, streamClientSize, Call.Sound, UInt32.toNat_add, messageHeaderSize,
        UInt32.reduceOfNat, UInt32.reduceToNat]
      omega
  | v2 => exact session_callOf_sound header inData

/-- The calls of a client are sound exactly when every frame that it receives before it closes its
socket for want of memory announces such a size. -/
theorem streamClient_read_sound_iff (v : FrameHeaderVersion) (realloc : Nat → Bool)
    (inData stream : List Byte) :
    (∀ call ∈ (streamClient v).read true realloc inData stream, call.Sound) ↔
      ∀ (frames : List (Reader.Frame (streamClient v))) (rest : List Byte),
        (streamClient v).StaysOpen true realloc inData.length frames →
          stream = frames.flatMap Reader.Frame.bytes ++ rest →
            ∀ f ∈ frames, streamClientSize v f.body.length :=
  Reader.read_sound_iff (streamClient_callOf_sound v) inData stream

/-! ## Datagrams -/

theorem FrameHeader.ofBytes_append {a : List Byte} (h : frameHeaderSize ≤ a.length)
    (b : List Byte) : FrameHeader.ofBytes (a ++ b) = FrameHeader.ofBytes a := by
  simp only [frameHeaderSize] at h
  have hget : ∀ i, i < 8 → (a ++ b).getD i 0 = a.getD i 0 := by
    intro i hi
    rw [List.getD_eq_getElem?_getD, List.getD_eq_getElem?_getD,
      List.getElem?_append_left (by omega)]
  have hsize : slice (a ++ b) 4 4 = slice a 4 4 := slice_append_left (by omega)
  simp only [FrameHeader.ofBytes, hget 0 (by omega), hget 1 (by omega), hget 2 (by omega),
    hget 3 (by omega), hsize]

namespace Peer

variable {Endpoint Msg Proto : Type} [DecidableEq Endpoint]

/-- The datagrams that a peer reads wrongly: a plain text frame to an encrypted peer and a frame
that arrives in `enc_in_data_` after the keys were changed are looked up in `in_data_`, and an
encrypted frame may decrypt to less than a message header. -/
def Misreads (evp : Evp) (p : Peer Endpoint) (endpoint : Endpoint) (datagram : List Byte) : Prop :=
  let packet := datagram.take maxPacketLength
  let header := FrameHeader.ofBytes packet
  p.frameHeaderVersion = .v2 ∧ p.Hears endpoint ∧
    frameHeaderSize + messageHeaderSize ≤ packet.length ∧
      ((p.cryptoBuf = true ∧ header.cipher = encryptionNone ∧
          packet.length = frameHeaderSize + header.payloadSize.toNat) ∨
        (p.cryptoBuf = true ∧ header.cipher ≠ encryptionNone ∧
          ∃ enc dec plain, p.crypto = some (enc, dec) ∧
            dec.decrypt evp header.cipher (packet.drop frameHeaderSize) = .ok plain ∧
            plain.length < messageHeaderSize) ∨
        (p.cryptoBuf = false ∧ p.pendingEnc = true ∧
          packet.length = frameHeaderSize + (FrameHeader.ofBytes p.inData).payloadSize.toNat))

section

variable {evp : Evp} {pb : Protobuf Msg Proto} {mr : MessageRegister Proto} {p : Peer Endpoint}
  {endpoint : Endpoint} {datagram : List Byte}

omit [DecidableEq Endpoint] in
theorem callOf_sound_v2 (hv : p.frameHeaderVersion = .v2) (r : Reading) :
    (p.callOf r).Sound ↔ messageHeaderSize ≤ r.frameHeader.payloadSize.toNat ∧
      frameHeaderSize + messageHeaderSize + (r.frameHeader.payloadSize.toNat - messageHeaderSize) ≤
        r.filled := by
  simp only [callOf, hv, Call.Sound]

/-- The soundness of the call, in terms of the frame `handle_recv` made out. -/
theorem call_sound_iff :
    (∀ call, (p.receive evp pb mr endpoint datagram).call = some call → call.Sound) ↔
      (p.expectedMinSize ≤ (datagram.take maxPacketLength).length → p.Hears endpoint →
        (p.frameOf Msg evp endpoint datagram).bytesRcvd =
          p.headerSize + (p.frameOf Msg evp endpoint datagram).frameHeader.payloadSize.toNat →
        (p.callOf (p.frameOf Msg evp endpoint datagram)).Sound) := by
  rw [receive_call]
  constructor
  · intro h hmin hears hsum
    exact h _ (if_pos ⟨hmin, hears, hsum⟩)
  · intro h call hcall
    split at hcall
    · next hcond =>
        cases hcall
        exact h hcond.1 hcond.2.1 hcond.2.2
    · cases hcall

/-- The size check of a V1 peer is enough. -/
theorem receive_sound_v1 (hv : p.frameHeaderVersion = .v1) :
    ∀ call, (p.receive evp pb mr endpoint datagram).call = some call → call.Sound := by
  rw [call_sound_iff]
  intro hmin hears hsum
  have hpend := (p.v1_plain hv).2
  have hmax : (datagram.take maxPacketLength).length ≤ 1024 := List.length_take_le ..
  simp only [frameOf, readFrame_v1 ((fill_frameHeaderVersion p _).trans hv)] at hsum ⊢
  simp only [readV1, filledBy, fill_pendingEnc, hpend, headerSize, hv, frameHeaderV1Size] at hsum ⊢
  generalize (FrameHeaderV1.ofBytes _).payloadSize = size at hsum ⊢
  simp only [callOf, hv, Call.Sound, UInt32.toNat_add, messageHeaderSize, UInt32.reduceOfNat,
    UInt32.reduceToNat, frameHeaderV1Size, Bool.false_eq_true, if_false]
  omega

/-- Without a key in use or a receive pending under one, the size check of V2 is enough. -/
theorem receive_sound_of_plain (hv : p.frameHeaderVersion = .v2) (hbuf : p.cryptoBuf = false)
    (hpend : p.pendingEnc = false) :
    ∀ call, (p.receive evp pb mr endpoint datagram).call = some call → call.Sound := by
  rw [call_sound_iff]
  intro hmin hears hsum
  rw [callOf_sound_v2 hv]
  simp only [frameOf, readFrame_v2 ((fill_frameHeaderVersion p _).trans hv)] at hsum ⊢
  rw [readV2_plain ((fill_numSlots p _).symm ▸ hears.1) _ ((fill_cryptoBuf p _).trans hbuf)]
    at hsum ⊢
  simp only [filledBy, fill_pendingEnc, hpend, expectedMinSize, headerSize, hv, frameHeaderSize,
    messageHeaderSize, Bool.false_eq_true, if_false] at hmin hsum ⊢
  omega

omit [DecidableEq Endpoint] in
/-- The frame header that an encrypted peer reads. -/
theorem ofBytes_encInData
    (hmin : frameHeaderSize + messageHeaderSize ≤ (datagram.take maxPacketLength).length)
    (hpend : p.pendingEnc = true) :
    FrameHeader.ofBytes (p.fill (datagram.take maxPacketLength)).encInData =
      FrameHeader.ofBytes (datagram.take maxPacketLength) := by
  rw [fill_encInData _ hpend]
  exact FrameHeader.ofBytes_append (Nat.le_trans (Nat.le_add_right ..) hmin) _

section V2

variable (hv : p.frameHeaderVersion = .v2) (hears : p.Hears endpoint)
  (hmin : frameHeaderSize + messageHeaderSize ≤ (datagram.take maxPacketLength).length)

include hv hears hmin

/-- A datagram received into `enc_in_data_` before the key was taken away: the header is one that
`in_data_` holds from earlier, and no byte of `in_data_` is from this frame. -/
theorem receive_sound_of_stale (hbuf : p.cryptoBuf = false) (hpend : p.pendingEnc = true) :
    (∀ call, (p.receive evp pb mr endpoint datagram).call = some call → call.Sound) ↔
      (datagram.take maxPacketLength).length ≠
        frameHeaderSize + (FrameHeader.ofBytes p.inData).payloadSize.toNat := by
  rw [call_sound_iff, callOf_sound_v2 hv]
  simp only [frameOf, readFrame_v2 ((fill_frameHeaderVersion p _).trans hv)]
  rw [readV2_plain ((fill_numSlots p _).symm ▸ hears.1) _ ((fill_cryptoBuf p _).trans hbuf),
    fill_inData_of_enc _ hpend]
  simp only [filledBy, fill_pendingEnc, hpend, expectedMinSize, headerSize, hv, hears, hmin,
    if_true, forall_const]
  simp only [frameHeaderSize, messageHeaderSize] at hmin ⊢
  omega

/-- A plain text frame to an encrypted peer is not in the buffer that is read. -/
theorem receive_sound_of_cleartext (hbuf : p.cryptoBuf = true)
    (hcipher : (FrameHeader.ofBytes (datagram.take maxPacketLength)).cipher = encryptionNone) :
    (∀ call, (p.receive evp pb mr endpoint datagram).call = some call → call.Sound) ↔
      (datagram.take maxPacketLength).length ≠ frameHeaderSize +
        (FrameHeader.ofBytes (datagram.take maxPacketLength)).payloadSize.toNat := by
  have hheader := ofBytes_encInData hmin (p.keyed hbuf).2
  rw [call_sound_iff, callOf_sound_v2 hv]
  simp only [frameOf, readFrame_v2 ((fill_frameHeaderVersion p _).trans hv)]
  rw [readV2_cleartext ((fill_numSlots p _).symm ▸ hears.1) _ ((fill_cryptoBuf p _).trans hbuf)
    (hheader.symm ▸ hcipher), hheader]
  simp only [expectedMinSize, headerSize, hv, hears, hmin, forall_const]
  simp only [frameHeaderSize, messageHeaderSize] at hmin ⊢
  omega

/-- A decrypted frame is as long as its plain text, which is checked against itself. -/
theorem receive_sound_of_encrypted (hbuf : p.cryptoBuf = true) {enc : BufferEncryptor}
    {dec : BufferDecryptor} (hkeys : p.crypto = some (enc, dec))
    (hcipher : (FrameHeader.ofBytes (datagram.take maxPacketLength)).cipher ≠ encryptionNone) :
    (∀ call, (p.receive evp pb mr endpoint datagram).call = some call → call.Sound) ↔
      ∀ plain, dec.decrypt evp (FrameHeader.ofBytes (datagram.take maxPacketLength)).cipher
          ((datagram.take maxPacketLength).drop frameHeaderSize) = .ok plain →
        messageHeaderSize ≤ plain.length := by
  have hpend := (p.keyed hbuf).2
  have hheader := ofBytes_encInData hmin hpend
  have hbody : slice (p.fill (datagram.take maxPacketLength)).encInData frameHeaderSize
      ((datagram.take maxPacketLength).length - frameHeaderSize) =
        (datagram.take maxPacketLength).drop frameHeaderSize := by
    rw [fill_encInData _ hpend, slice_append_left (by omega), slice]
    exact List.take_of_length_le (by rw [List.length_drop])
  have hslots : 0 < (p.fill (datagram.take maxPacketLength)).numSlots := by
    rw [fill_numSlots]
    exact hears.1
  have hbuf' := (fill_cryptoBuf p (datagram.take maxPacketLength)).trans hbuf
  have hkeys' := (fill_crypto p (datagram.take maxPacketLength)).trans hkeys
  rw [call_sound_iff, callOf_sound_v2 hv]
  simp only [frameOf, readFrame_v2 ((fill_frameHeaderVersion p _).trans hv), expectedMinSize,
    headerSize, hv, hears, hmin, forall_const]
  cases hdec : dec.decrypt evp (FrameHeader.ofBytes (datagram.take maxPacketLength)).cipher
      ((datagram.take maxPacketLength).drop frameHeaderSize) with
  | error e =>
      rw [← hheader, ← hbody] at hdec
      rw [readV2_decrypt_error hslots _ hkeys' hbuf' (hheader.symm ▸ hcipher) hdec]
      simp only [reduceCtorEq, false_implies, implies_true, iff_true]
      intro hsum
      simp only [frameHeaderSize] at hsum
      omega
  | ok plain =>
      rw [← hheader, ← hbody] at hdec
      rw [readV2_decrypt_ok hslots _ hkeys' hbuf' (hheader.symm ▸ hcipher) hdec]
      simp only [Except.ok.injEq, forall_eq', UInt32.toNat_ofNat', frameHeaderSize,
        messageHeaderSize]
      have hmod : plain.length % 2 ^ 32 ≤ plain.length := Nat.mod_le ..
      have hsmall : plain.length < 2 ^ 32 → plain.length % 2 ^ 32 = plain.length := Nat.mod_eq_of_lt
      omega

end V2

/-- **Exactly the misread datagrams** lead to a call with unsound lengths. -/
theorem receive_sound_iff :
    (∀ call, (p.receive evp pb mr endpoint datagram).call = some call → call.Sound) ↔
      ¬ p.Misreads evp endpoint datagram := by
  cases hv : p.frameHeaderVersion with
  | v1 =>
      refine iff_of_true (receive_sound_v1 hv) ?_
      rintro ⟨hv2, -⟩
      rw [hv] at hv2
      cases hv2
  | v2 =>
      by_cases hears : p.Hears endpoint
      swap
      · exact iff_of_true (call_sound_iff.mpr fun _ h => absurd h hears)
          (fun hmis => hears hmis.2.1)
      by_cases hmin : frameHeaderSize + messageHeaderSize ≤ (datagram.take maxPacketLength).length
      swap
      · refine iff_of_true (call_sound_iff.mpr fun h => ?_) (fun hmis => hmin hmis.2.2.1)
        rw [expectedMinSize, hv] at h
        exact absurd h hmin
      simp only [Misreads, hv, hears, hmin, true_and]
      cases hbuf : p.cryptoBuf with
      | false =>
          cases hpend : p.pendingEnc with
          | false => simpa using receive_sound_of_plain hv hbuf hpend
          | true => simpa using receive_sound_of_stale hv hears hmin hbuf hpend
      | true =>
          obtain ⟨⟨enc, dec⟩, hkeys⟩ := Option.isSome_iff_exists.mp (p.keyed hbuf).1
          by_cases hcipher :
            (FrameHeader.ofBytes (datagram.take maxPacketLength)).cipher = encryptionNone
          · simpa [hcipher] using receive_sound_of_cleartext hv hears hmin hbuf hcipher
          · rw [receive_sound_of_encrypted hv hears hmin hbuf hkeys hcipher]
            simp [hcipher, hkeys]

end

end Peer

/-! ## Both receive paths -/

/-- The calls of `deserialize` for a client's stream are sound exactly when each of its frames
announces at least a message header, also when the buffer cannot grow; the call for a datagram is sound exactly when the datagram is
not misread. -/
theorem deserialize_sound_iff {Endpoint Msg Proto : Type} [DecidableEq Endpoint] (evp : Evp)
    (pb : Protobuf Msg Proto) (mr : MessageRegister Proto) :
    (∀ (realloc : Nat → Bool) (inData stream : List Byte),
      (∀ call ∈ session.read false realloc inData stream, call.Sound) ↔
        ∀ (frames : List (Reader.Frame session)) (rest : List Byte),
          stream = frames.flatMap Reader.Frame.bytes ++ rest →
            ∀ f ∈ frames, messageHeaderSize ≤ f.body.length) ∧
      ∀ (p : Peer Endpoint) (endpoint : Endpoint) (datagram : List Byte),
        (∀ call, (p.receive evp pb mr endpoint datagram).call = some call → call.Sound) ↔
          ¬ p.Misreads evp endpoint datagram := by
  refine ⟨fun realloc inData stream => ?_, fun _ _ _ => Peer.receive_sound_iff⟩
  rw [Reader.read_sound_iff session_callOf_sound inData stream]
  constructor
  · intro h frames rest
    exact h frames rest (Reader.staysOpen_of_not_closes _ frames)
  · intro h frames rest _
    exact h frames rest

/-- A header that announces an empty payload makes the session call `deserialize` with a data size
of 2⁶⁴ − 4. -/
theorem session_read_empty_frame :
    ∃ call ∈ session.read false (fun _ => true) (List.replicate 1024 0) [2, 0, 0, 0, 0, 0, 0, 0],
      ¬ call.Sound ∧ call.dataSize.toNat = 2 ^ 64 - 4 := by
  let f : Reader.Frame session := ⟨[2, 0, 0, 0, 0, 0, 0, 0], [], rfl, rfl⟩
  have hread : session.read false (fun _ => true) (List.replicate 1024 0) (f.bytes ++ []) = _ :=
    Reader.read_frame_append f [] (fun _ _ => rfl)
  refine ⟨session.callOf f.header (overwrite (List.replicate 1024 0) 0 f.body), ?_, ?_, ?_⟩
  · exact hread ▸ List.mem_cons_self ..
  · rw [session_callOf_sound]
    decide
  · rfl

end FactoryHub.Comm
