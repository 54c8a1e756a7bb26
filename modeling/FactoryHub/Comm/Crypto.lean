import FactoryHub.Comm.Frame
import Mathlib.Tactic.SplitIfs

/-!
# Buffer encryption

`BufferEncryptor` and `BufferDecryptor` of `crypto.cpp` over an abstract OpenSSL (`Evp`). What the
code relies on is stated once, in `Evp.Lawful`: decryption undoes encryption, the ciphertext has
the PKCS-padded length, and a ciphertext that is no whole number of blocks is rejected.

`pkcsOnly` is an `Evp` with the identity as its block function. It pads and checks as the library
does, so it satisfies `Evp.Lawful`.
-/

namespace FactoryHub.Comm

open Lib

/-- The part of OpenSSL that is called. Ciphers are named by their `PB_ENCRYPTION_*` id; the
initialisation vector is empty for a cipher without one. -/
structure Evp where
  /-- `EVP_BytesToKey`. -/
  bytesToKey : UInt8 → String → List Byte
  /-- `SHA256` of the IV counter. -/
  sha256 : UInt64 → List Byte
  /-- `EVP_EncryptInit`, `EVP_EncryptUpdate` and `EVP_EncryptFinal_ex`: cipher, key, IV, plain. -/
  encrypt : UInt8 → List Byte → List Byte → List Byte → List Byte
  /-- `EVP_DecryptInit`, `EVP_DecryptUpdate` and `EVP_DecryptFinal`; `none` when one fails. -/
  decrypt : UInt8 → List Byte → List Byte → List Byte → Option (List Byte)
  /-- What a decryption that fails leaves in its output buffer. -/
  leftover : UInt8 → List Byte → List Byte → List Byte → List Byte

/-- `EVP_CIPHER_block_size`, the same for all supported ciphers. -/
def blockSize : Nat := 16

/-- `EVP_CIPHER_iv_length(cipher_by_id(cipher))`. -/
def ivLength (cipher : UInt8) : Except String Nat :=
  if cipher = encryptionAes128Ecb then .ok 0
  else if cipher = encryptionAes128Cbc then .ok 16
  else if cipher = encryptionAes256Ecb then .ok 0
  else if cipher = encryptionAes256Cbc then .ok 16
  else .error "Unknown cipher type"

/-- `cipher_name_to_id`. -/
def cipherNameToId (cipher : String) : Except String UInt8 :=
  if cipher = "aes-128-ecb" then .ok encryptionAes128Ecb
  else if cipher = "aes-128-cbc" then .ok encryptionAes128Cbc
  else if cipher = "aes-256-ecb" then .ok encryptionAes256Ecb
  else if cipher = "aes-256-cbc" then .ok encryptionAes256Cbc
  else .error "Unknown cipher type"

/-- The documented behaviour of the library that the code relies on. -/
structure Evp.Lawful (evp : Evp) : Prop where
  decrypt_encrypt : ∀ cipher key iv plain,
    evp.decrypt cipher key iv (evp.encrypt cipher key iv plain) = some plain
  length_encrypt : ∀ cipher key iv plain,
    (evp.encrypt cipher key iv plain).length = (plain.length / blockSize + 1) * blockSize
  decrypt_blocks : ∀ cipher key iv enc plain,
    evp.decrypt cipher key iv enc = some plain → enc.length % blockSize = 0
  length_sha256 : ∀ counter, (evp.sha256 counter).length = 32

/-- An encryption key names one of the supported ciphers; the constructor of `BufferEncryptor`
throws otherwise. -/
structure BufferEncryptor where
  key : String
  cipherId : UInt8
  ivSize : Nat
  iv : UInt64
  known : ivLength cipherId = .ok ivSize

namespace BufferEncryptor

/-- `BufferEncryptor(key, cipher_name)`; the IV counter starts at a random value. -/
def new (key cipherName : String) (iv : UInt64) : Except String BufferEncryptor :=
  match cipherNameToId cipherName with
  | .ok cipher =>
      match h : ivLength cipher with
      | .ok ivSize => .ok ⟨key, cipher, ivSize, iv, h⟩
      | .error e => .error e
  | .error e => .error e

/-- `encrypted_buffer_size`. -/
def encryptedBufferSize (e : BufferEncryptor) (plainLength : Nat) : Nat :=
  (plainLength / blockSize + 1) * blockSize + e.ivSize

/-- `encrypt`: counts the IV up if the cipher has one, and puts it in front of the ciphertext. -/
def encrypt (evp : Evp) (e : BufferEncryptor) (plain : List Byte) : List Byte × BufferEncryptor :=
  let e' := if 0 < e.ivSize then { e with iv := e.iv + 1 } else e
  let iv := (evp.sha256 e'.iv).take e.ivSize
  (iv ++ evp.encrypt e.cipherId (evp.bytesToKey e.cipherId e.key) iv plain, e')

end BufferEncryptor

/-- `BufferDecryptor`; the keys it derives per cipher are a cache. -/
structure BufferDecryptor where
  key : String

/-- `decrypt`. A buffer shorter than the IV leaves a negative length, which the library rejects. -/
def BufferDecryptor.decrypt (evp : Evp) (d : BufferDecryptor) (cipher : UInt8) (enc : List Byte) :
    Except String (List Byte) :=
  match ivLength cipher with
  | .error e => .error e
  | .ok ivSize =>
      if enc.length < ivSize then .error "DecryptUpdate failed"
      else
        match evp.decrypt cipher (evp.bytesToKey cipher d.key) (enc.take ivSize)
          (enc.drop ivSize) with
        | some plain => .ok plain
        | none => .error "DecryptFinal failed"

/-- What a failed `decrypt` has written to its output buffer. -/
def BufferDecryptor.leftover (evp : Evp) (d : BufferDecryptor) (cipher : UInt8) (enc : List Byte) :
    List Byte :=
  match ivLength cipher with
  | .error _ => []
  | .ok ivSize =>
      if enc.length < ivSize then []
      else evp.leftover cipher (evp.bytesToKey cipher d.key) (enc.take ivSize) (enc.drop ivSize)

/-! ## What the laws give -/

/-- A supported cipher chains blocks under a 16-byte IV or uses none. -/
theorem ivLength_cases {cipher : UInt8} {n : Nat} (h : ivLength cipher = .ok n) :
    n = 0 ∨ n = 16 := by
  unfold ivLength at h
  split_ifs at h <;> simp only [Except.ok.injEq] at h <;> omega

theorem BufferEncryptor.ivSize_cases (e : BufferEncryptor) : e.ivSize = 0 ∨ e.ivSize = 16 :=
  ivLength_cases e.known

/-- No supported cipher has the id of plain text. -/
theorem BufferEncryptor.cipherId_ne_none (e : BufferEncryptor) : e.cipherId ≠ encryptionNone := by
  intro hnone
  have hknown := e.known
  rw [hnone] at hknown
  cases hknown

section Laws

variable {evp : Evp} (hevp : evp.Lawful) (e : BufferEncryptor)

include hevp

/-- The IV written in front of the ciphertext has the length the cipher asks for. -/
theorem BufferEncryptor.length_iv (counter : UInt64) :
    ((evp.sha256 counter).take e.ivSize).length = e.ivSize := by
  have hle := e.ivSize_cases
  rw [List.length_take, hevp.length_sha256]
  omega

/-- `encrypted_buffer_size` is the size of what `encrypt` returns. -/
theorem BufferEncryptor.length_encrypt (plain : List Byte) :
    (e.encrypt evp plain).1.length = e.encryptedBufferSize plain.length := by
  simp only [encrypt, List.length_append, e.length_iv hevp, hevp.length_encrypt,
    encryptedBufferSize]
  omega

/-- A peer with the same key reads what was encrypted. -/
theorem BufferDecryptor.decrypt_encrypt (plain : List Byte) (d : BufferDecryptor)
    (hkey : d.key = e.key) :
    d.decrypt evp e.cipherId (e.encrypt evp plain).1 = .ok plain := by
  have hiv := fun counter => e.length_iv hevp counter
  simp only [decrypt, e.known, hkey, BufferEncryptor.encrypt]
  rw [if_neg (by simp [hiv])]
  rw [List.take_left' (hiv _), List.drop_left' (hiv _), hevp.decrypt_encrypt]

/-- Decryption succeeds only on whole blocks. -/
theorem BufferDecryptor.decrypt_blocks {d : BufferDecryptor} {enc plain : List Byte}
    (h : d.decrypt evp e.cipherId enc = .ok plain) :
    e.ivSize ≤ enc.length ∧ (enc.length - e.ivSize) % blockSize = 0 := by
  simp only [decrypt, e.known] at h
  split at h
  · cases h
  next hlen =>
    split at h
    · next p hp =>
        have hblocks := hevp.decrypt_blocks _ _ _ _ _ hp
        rw [List.length_drop] at hblocks
        exact ⟨by omega, hblocks⟩
    · cases h

end Laws

/-! ## An instance of the laws -/

/-- PKCS padding: up to the next multiple of the block size, at least one byte, each byte the
number of bytes added. -/
def pkcsPad (plain : List Byte) : List Byte :=
  let k := blockSize - plain.length % blockSize
  plain ++ List.replicate k (UInt8.ofNat k)

/-- Checks and strips the padding. -/
def pkcsUnpad (enc : List Byte) : Option (List Byte) :=
  if enc.length % blockSize = 0 then
    match enc.getLast? with
    | some k =>
        let plain := enc.take (enc.length - k.toNat)
        if enc = pkcsPad plain then some plain else none
    | none => none
  else none

def pkcsOnly : Evp where
  bytesToKey _ _ := []
  sha256 _ := List.replicate 32 0
  encrypt _ _ _ plain := pkcsPad plain
  decrypt _ _ _ enc := pkcsUnpad enc
  leftover _ _ _ enc := enc.take (enc.length - blockSize)

theorem length_pkcsPad (plain : List Byte) :
    (pkcsPad plain).length = (plain.length / blockSize + 1) * blockSize := by
  simp only [pkcsPad, List.length_append, List.length_replicate, blockSize]
  omega

theorem pkcsUnpad_pkcsPad (plain : List Byte) : pkcsUnpad (pkcsPad plain) = some plain := by
  have hmod : (pkcsPad plain).length % blockSize = 0 := by
    rw [length_pkcsPad, Nat.mul_mod_left]
  obtain ⟨k, hk, hpos, hle⟩ : ∃ k, k = blockSize - plain.length % blockSize ∧ 0 < k ∧ k ≤ 16 :=
    ⟨_, rfl, by simp only [blockSize]; omega, by simp only [blockSize]; omega⟩
  have hlast : (pkcsPad plain).getLast? = some (UInt8.ofNat k) := by
    have hrep : (List.replicate k (UInt8.ofNat k)).getLast? = some (UInt8.ofNat k) := by
      rw [List.getLast?_replicate, if_neg (by omega)]
    rw [pkcsPad, ← hk, List.getLast?_append, hrep, Option.some_or]
  have hbyte : (UInt8.ofNat k).toNat = k := by
    rw [UInt8.toNat_ofNat']
    omega
  have htake : (pkcsPad plain).take ((pkcsPad plain).length - k) = plain := by
    simp [pkcsPad, ← hk]
  simp only [pkcsUnpad, hmod, hlast, hbyte, htake, if_true]

theorem pkcsOnly_lawful : pkcsOnly.Lawful where
  decrypt_encrypt _ _ _ plain := pkcsUnpad_pkcsPad plain
  length_encrypt _ _ _ plain := length_pkcsPad plain
  decrypt_blocks _ _ _ enc plain h := by
    change pkcsUnpad enc = some plain at h
    rw [pkcsUnpad] at h
    by_contra hne
    rw [if_neg hne] at h
    cases h
  length_sha256 _ := List.length_replicate

end FactoryHub.Comm
