import Mathlib.Algebra.Group.Nat.Defs
import Mathlib.Tactic.Common

namespace Thermometer.Memory

-- An access outside the bytes that a pointer may reach is a fault, `none`.
def load (memory : List UInt8) (offset count : Nat) : Option (List UInt8) :=
  if offset + count ≤ memory.length then some ((memory.drop offset).take count) else none

-- Storing keeps the size of the array, so the size is part of its type.
def store (memory : Vector UInt8 capacity) (offset : Nat) (bytes : List UInt8) :
    Option (Vector UInt8 capacity) :=
  if inside : offset + bytes.length ≤ capacity then
    some ⟨(memory.toList.take offset ++ bytes ++ memory.toList.drop (offset + bytes.length)).toArray,
      by simp only [List.size_toArray,List.length_append,List.length_take,List.length_drop,
           Vector.length_toList]; omega⟩
  else none

theorem store_inside (memory : Vector UInt8 capacity) (offset : Nat) (bytes : List UInt8)
    (inside : offset + bytes.length ≤ capacity) :
    ∃ later, store memory offset bytes = some later := by
  unfold store
  rw [dif_pos inside]
  exact ⟨_,rfl⟩

def u16Bytes (value : UInt16) : List UInt8 := [value.toUInt8,(value >>> 8).toUInt8]

def u32Bytes (value : UInt32) : List UInt8 :=
  [value.toUInt8,(value >>> 8).toUInt8,(value >>> 16).toUInt8,(value >>> 24).toUInt8]

def readU16 (memory : List UInt8) (offset : Nat) : Option UInt16 := do
  let low ← memory[offset]?
  let high ← memory[offset + 1]?
  some (low.toUInt16 ||| high.toUInt16 <<< 8)

def readU32 (memory : List UInt8) (offset : Nat) : Option UInt32 := do
  let b0 ← memory[offset]?
  let b1 ← memory[offset + 1]?
  let b2 ← memory[offset + 2]?
  let b3 ← memory[offset + 3]?
  some (b0.toUInt32 ||| b1.toUInt32 <<< 8 ||| b2.toUInt32 <<< 16 ||| b3.toUInt32 <<< 24)

@[simp] theorem u16Bytes_length : (u16Bytes value).length = 2 := rfl
@[simp] theorem u32Bytes_length : (u32Bytes value).length = 4 := rfl

theorem or_shift (low high : Nat) (small : low < 2 ^ k) : low ||| high <<< k = high * 2 ^ k + low := by
  rw [Nat.or_comm,← Nat.shiftLeft_add_eq_or_of_lt small,Nat.shiftLeft_eq]

@[simp] theorem u16_join (value : UInt16) :
    value.toUInt8.toUInt16 ||| (value >>> 8).toUInt8.toUInt16 <<< 8 = value := by
  have bound := value.toNat_lt
  apply UInt16.toNat_inj.mp
  simp only [UInt16.toNat_or,UInt16.toNat_shiftLeft,UInt8.toNat_toUInt16,UInt16.toNat_toUInt8,UInt16.toNat_shiftRight,
    UInt16.reduceToNat,Nat.reduceMod]
  rw [Nat.mod_eq_of_lt (a := _ <<< 8) (by rw [Nat.shiftLeft_eq]; omega),or_shift _ _ (by omega),Nat.shiftRight_eq_div_pow]
  omega

@[simp] theorem u32_join (value : UInt32) :
    value.toUInt8.toUInt32 ||| (value >>> 8).toUInt8.toUInt32 <<< 8 ||| (value >>> 16).toUInt8.toUInt32 <<< 16 |||
      (value >>> 24).toUInt8.toUInt32 <<< 24 = value := by
  have bound := value.toNat_lt
  apply UInt32.toNat_inj.mp
  simp only [UInt32.toNat_or,UInt32.toNat_shiftLeft,UInt8.toNat_toUInt32,UInt32.toNat_toUInt8,UInt32.toNat_shiftRight,
    UInt32.reduceToNat,Nat.reduceMod,Nat.shiftRight_eq_div_pow]
  have small : ∀ (n k : Nat), k ≤ 24 → (n % 2 ^ 8) <<< k % 2 ^ 32 = (n % 2 ^ 8) <<< k := by
    intro n k le
    apply Nat.mod_eq_of_lt
    have := Nat.pow_le_pow_right (n := 2) (by decide) le
    rw [Nat.shiftLeft_eq]
    calc n % 2 ^ 8 * 2 ^ k ≤ n % 2 ^ 8 * 2 ^ 24 := Nat.mul_le_mul_left _ this
      _ < 2 ^ 32 := by omega
  rw [small _ 8 (by decide),small _ 16 (by decide),small _ 24 (by decide),
    or_shift (value.toNat % 2 ^ 8) (value.toNat / 2 ^ 8 % 2 ^ 8) (by omega),
    or_shift _ (value.toNat / 2 ^ 16 % 2 ^ 8) (by omega),or_shift _ (value.toNat / 2 ^ 24 % 2 ^ 8) (by omega)]
  omega

def Holds (memory : Vector UInt8 capacity) (offset : Nat) (bytes : List UInt8) : Prop :=
  offset + bytes.length ≤ capacity ∧ (memory.toList.drop offset).take bytes.length = bytes

theorem Holds.nil (memory : Vector UInt8 capacity) (inside : offset ≤ capacity) : Holds memory offset [] :=
  ⟨inside,rfl⟩

theorem store_toList {memory later : Vector UInt8 capacity} (stored : store memory offset bytes = some later) :
    offset + bytes.length ≤ capacity ∧
      later.toList = memory.toList.take offset ++ bytes ++ memory.toList.drop (offset + bytes.length) := by
  unfold store at stored
  split at stored
  · rename_i inside
    cases Option.some.inj stored
    exact ⟨inside,by simp⟩
  · cases stored

theorem Holds.append {memory later : Vector UInt8 capacity} (held : Holds memory offset bytes)
    (stored : store memory (offset + bytes.length) more = some later) : Holds later offset (bytes ++ more) := by
  obtain ⟨inside,same⟩ := store_toList stored
  obtain ⟨bound,content⟩ := held
  refine ⟨by rw [List.length_append]; omega,?_⟩
  have front : (memory.toList.take (offset + bytes.length)).drop offset = bytes := by
    rw [List.drop_take,Nat.add_sub_cancel_left,content]
  rw [same,List.append_assoc,List.drop_append_of_le_length (by simp; omega),front,← List.append_assoc,
    List.take_left' rfl]

theorem Holds.behind {memory later : Vector UInt8 capacity} (held : Holds memory offset bytes)
    (stored : store memory place more = some later) (front : place + more.length ≤ offset) : Holds later offset bytes := by
  obtain ⟨inside,same⟩ := store_toList stored
  refine ⟨held.1,?_⟩
  have length : (memory.toList.take place ++ more).length = place + more.length := by
    have bound := held.1
    simp
    omega
  obtain ⟨gap,rfl⟩ := Nat.exists_eq_add_of_le front
  rw [same,List.drop_append,List.drop_eq_nil_of_le (by omega),length,List.drop_drop,List.nil_append]
  simpa [Nat.add_comm,Nat.add_assoc,Nat.add_left_comm] using held.2

theorem Holds.join {memory : Vector UInt8 capacity} (front : Holds memory offset bytes)
    (back : Holds memory (offset + bytes.length) more) : Holds memory offset (bytes ++ more) := by
  refine ⟨by rw [List.length_append]; have := back.1; omega,?_⟩
  rw [List.length_append,List.take_add,front.2,List.drop_drop,back.2]

theorem Holds.take {memory : Vector UInt8 capacity} (held : Holds memory 0 bytes) :
    memory.toList.take bytes.length = bytes := held.2

end Thermometer.Memory
