import Mathlib.Data.Nat.ModEq
import Mathlib.Tactic.Ring

/-!
# Integers in network byte order

`toBytes w n` writes `n` as `w` bytes, most significant first; `ofBytes` reads such a list back.
Reading back gives `n` modulo `256 ^ w` (`ofBytes_toBytes`), so a fixed-width integer survives the
trip (`ofBytes_toBytes_uint16`, `ofBytes_toBytes_uint32`).
-/

namespace FactoryHub.Lib

abbrev Byte := UInt8

/-- The `w` bytes of `n`, most significant first. -/
def toBytes : Nat → Nat → List Byte
  | 0, _ => []
  | w + 1, n => toBytes w (n / 256) ++ [UInt8.ofNat n]

/-- The number a list of bytes stands for, most significant first. -/
def ofBytes (bs : List Byte) : Nat :=
  bs.foldl (fun acc b => acc * 256 + b.toNat) 0

@[simp] theorem length_toBytes (w n : Nat) : (toBytes w n).length = w := by
  induction w generalizing n with
  | zero => rfl
  | succ w ih => simp [toBytes, ih]

theorem ofBytes_append_singleton (bs : List Byte) (b : Byte) :
    ofBytes (bs ++ [b]) = ofBytes bs * 256 + b.toNat := by
  simp [ofBytes]

theorem ofBytes_toBytes (w n : Nat) : ofBytes (toBytes w n) = n % 256 ^ w := by
  induction w generalizing n with
  | zero => simp [toBytes, ofBytes, Nat.mod_one]
  | succ w ih =>
      have hlow : (UInt8.ofNat n).toNat = n % 256 := by simp
      have hsplit : n % 256 ^ (w + 1) = n % 256 + 256 * (n / 256 % 256 ^ w) := by
        rw [pow_succ, Nat.mul_comm, Nat.mod_mul]
      rw [toBytes, ofBytes_append_singleton, ih, hlow, hsplit]
      ring

theorem ofBytes_toBytes_uint16 (x : UInt16) : UInt16.ofNat (ofBytes (toBytes 2 x.toNat)) = x := by
  rw [ofBytes_toBytes]
  have hlt : x.toNat < 256 ^ 2 := x.toNat_lt
  rw [Nat.mod_eq_of_lt hlt]
  exact UInt16.ofNat_toNat

theorem ofBytes_toBytes_uint32 (x : UInt32) : UInt32.ofNat (ofBytes (toBytes 4 x.toNat)) = x := by
  rw [ofBytes_toBytes]
  have hlt : x.toNat < 256 ^ 4 := x.toNat_lt
  rw [Nat.mod_eq_of_lt hlt]
  exact UInt32.ofNat_toNat

/-! ## Buffers

A receive buffer is a list of bytes; writing a packet replaces its beginning and leaves the rest
as it was. -/

/-- `buf` after `bs` was written at offset `off`. -/
def overwrite (buf : List Byte) (off : Nat) (bs : List Byte) : List Byte :=
  buf.take off ++ bs ++ buf.drop (off + bs.length)

/-- `n` bytes of `buf` from offset `off`. -/
def slice (buf : List Byte) (off n : Nat) : List Byte :=
  (buf.drop off).take n

theorem overwrite_zero (buf bs : List Byte) :
    overwrite buf 0 bs = bs ++ buf.drop bs.length := by
  simp [overwrite]

theorem slice_append_left {a b : List Byte} {off n : Nat} (h : off + n ≤ a.length) :
    slice (a ++ b) off n = slice a off n := by
  have hoff : off ≤ a.length := by omega
  have hn : n ≤ (a.drop off).length := by simp; omega
  rw [slice, List.drop_append_of_le_length hoff, List.take_append_of_le_length hn, slice]

/-- A slice that starts where `a` ends reads the next block. -/
theorem slice_append_right {a b c : List Byte} {off n : Nat} (ha : a.length = off)
    (hb : b.length = n) : slice (a ++ b ++ c) off n = b := by
  subst ha hb
  simp [slice, List.append_assoc]

end FactoryHub.Lib
