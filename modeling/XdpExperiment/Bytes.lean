import Mathlib.Algebra.Group.Nat.Defs
import Mathlib.Data.List.Induction
import Mathlib.Tactic.Common

/-!
# Integers as bytes in memory

A machine stores an integer of any width as a list of bytes in one of two orders. Reading back
what was written gives the integer, and writing what was read gives the bytes.
-/

namespace Bytes

/-- Order in which a machine stores the bytes of an integer. -/
inductive Endian
  | little
  | big
  deriving DecidableEq

/-- Value of the bytes with the most significant one first. -/
def value (bytes : List UInt8) : Nat :=
  bytes.foldl (fun value byte => value * 256 + byte.toNat) 0

/-- The lowest `width` bytes of an integer, most significant one first. -/
def digits : Nat → Nat → List UInt8
  | 0, _ => []
  | width + 1, number => digits width (number / 256) ++ [UInt8.ofNat number]

@[simp] theorem value_nil : value [] = 0 := rfl

@[simp] theorem value_concat (bytes : List UInt8) (byte : UInt8) :
    value (bytes ++ [byte]) = value bytes * 256 + byte.toNat := by
  simp [value]

@[simp] theorem length_digits (width number : Nat) : (digits width number).length = width := by
  induction width generalizing number with
  | zero => rfl
  | succ width ih => simp [digits, ih]

theorem value_lt (bytes : List UInt8) : value bytes < 256 ^ bytes.length := by
  induction bytes using List.reverseRecOn with
  | nil => simp
  | append_singleton bytes byte ih =>
      have byte_lt := byte.toNat_lt
      rw [value_concat, List.length_append, List.length_singleton, Nat.pow_succ]
      omega

theorem value_digits (width number : Nat) : value (digits width number) = number % 256 ^ width := by
  induction width generalizing number with
  | zero => simp [digits, Nat.mod_one]
  | succ width ih =>
      have split : number % 256 ^ (width + 1) =
          number % 256 + 256 * (number / 256 % 256 ^ width) := by
        rw [Nat.pow_succ, Nat.mul_comm, Nat.mod_mul]
      rw [digits, value_concat, ih, UInt8.toNat_ofNat', split]
      omega

theorem digits_value (bytes : List UInt8) : digits bytes.length (value bytes) = bytes := by
  induction bytes using List.reverseRecOn with
  | nil => rfl
  | append_singleton bytes byte ih =>
      have byte_lt := byte.toNat_lt
      have front : (value bytes * 256 + byte.toNat) / 256 = value bytes := by omega
      have last : UInt8.ofNat (value bytes * 256 + byte.toNat) = byte := by
        apply UInt8.toNat_inj.mp
        rw [UInt8.toNat_ofNat']
        omega
      rw [List.length_append, List.length_singleton, digits, value_concat, front, last, ih]

namespace Endian

/-- The integer stored in the bytes. -/
def read : Endian → List UInt8 → Nat
  | .big, bytes => value bytes
  | .little, bytes => value bytes.reverse

/-- The bytes in which an integer of some width is stored. -/
def write : Endian → Nat → Nat → List UInt8
  | .big, width, number => digits width number
  | .little, width, number => (digits width number).reverse

@[simp] theorem length_write (endian : Endian) (width number : Nat) :
    (endian.write width number).length = width := by
  cases endian <;> simp [write]

theorem read_lt (endian : Endian) (bytes : List UInt8) :
    endian.read bytes < 256 ^ bytes.length := by
  cases endian with
  | big => exact value_lt bytes
  | little => simpa [read] using value_lt bytes.reverse

theorem read_write (endian : Endian) (width number : Nat) :
    endian.read (endian.write width number) = number % 256 ^ width := by
  cases endian <;> simp [read, write, value_digits]

theorem write_read (endian : Endian) (bytes : List UInt8) :
    endian.write bytes.length (endian.read bytes) = bytes := by
  cases endian with
  | big => exact digits_value bytes
  | little =>
      have reversed := digits_value bytes.reverse
      rw [List.length_reverse] at reversed
      rw [read, write, reversed, List.reverse_reverse]

end Endian
end Bytes
