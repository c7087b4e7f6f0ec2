import Thermometer.Lib.Memory
import Mathlib.Control.Monad.Basic

-- Little-endian records as Python's `struct` reads them: field by field from the front.
namespace Thermometer.Struct
open Memory

abbrev Layout (α : Type) := StateT (List UInt8) Option α

def u8 : Layout UInt8
  | byte :: rest => some (byte,rest)
  | [] => none

def u16 : Layout UInt16
  | low :: high :: rest => some (low.toUInt16 ||| high.toUInt16 <<< 8,rest)
  | _ => none

def i16 : Layout Int16 := UInt16.toInt16 <$> u16

def u32 : Layout UInt32
  | b0 :: b1 :: b2 :: b3 :: rest =>
    some (b0.toUInt32 ||| b1.toUInt32 <<< 8 ||| b2.toUInt32 <<< 16 ||| b3.toUInt32 <<< 24,rest)
  | _ => none

def bytes (count : Nat) : Layout (List UInt8) := fun data =>
  if count ≤ data.length then some (data.take count,data.drop count) else none

def unpack (layout : Layout α) (data : List UInt8) : Option α :=
  match layout.run data with
  | some (value,[]) => some value
  | _ => none

variable {rest : List UInt8}

theorem run_of_unpack {layout : Layout α} (unpacked : unpack layout data = some value) : layout.run data = some (value,[]) := by
  unfold unpack at unpacked
  split at unpacked
  · rename_i whole
    cases unpacked
    exact whole
  · cases unpacked

@[simp] theorem u8_run (byte : UInt8) : u8.run (byte :: rest) = some (byte,rest) := rfl

@[simp] theorem u16_run (value : UInt16) : u16.run (u16Bytes value ++ rest) = some (value,rest) := by
  show some (_,rest) = _
  rw [u16_join]

@[simp] theorem i16_run (value : Int16) : i16.run (u16Bytes value.toUInt16 ++ rest) = some (value,rest) := by
  simp [i16]

@[simp] theorem u32_run (value : UInt32) : u32.run (u32Bytes value ++ rest) = some (value,rest) := by
  show some (_,rest) = _
  rw [u32_join]

@[simp] theorem u32_run_last (value : UInt32) : u32.run (u32Bytes value) = some (value,[]) := u32_run value

theorem bytes_run (data : List UInt8) (length : data.length = count) :
    (bytes count).run (data ++ rest) = some (data,rest) := by
  subst length
  show (if data.length ≤ (data ++ rest).length then _ else _) = _
  simp

theorem bytes_run_last (data : List UInt8) (length : data.length = count) : (bytes count).run data = some (data,[]) := by
  have whole : (bytes count).run (data ++ []) = some (data,[]) := bytes_run data length
  rwa [List.append_nil] at whole

theorem bytes_length (read : (bytes count).run data = some (value,rest)) : value.length = count := by
  change (if count ≤ data.length then _ else _) = _ at read
  split at read
  · rename_i enough
    cases read
    rw [List.length_take,Nat.min_eq_left enough]
  · cases read

theorem unpack_run {layout : Layout α} (whole : layout.run data = some (value,[])) : unpack layout data = some value := by
  simp [unpack,whole]

structure Sized (layout : Layout α) (size : Nat) : Prop where
  reads : ∀ data, size ≤ data.length → ∃ value, layout.run data = some (value,data.drop size)
  short : ∀ data, data.length < size → layout.run data = none

theorem Sized.pure (value : α) : Sized (pure value : Layout α) 0 := by
  refine ⟨fun data _ => ⟨value,rfl⟩,fun data less => ?_⟩
  exact absurd less (Nat.not_lt_zero _)

theorem Sized.bind {layout : Layout α} {next : α → Layout β} (first : Sized layout size) (rest : ∀ value, Sized (next value) more) :
    Sized (layout >>= next) (size + more) := by
  refine ⟨fun data enough => ?_,fun data less => ?_⟩
  · obtain ⟨value,read⟩ := first.reads data (by omega)
    obtain ⟨last,later⟩ := (rest value).reads (data.drop size) (by rw [List.length_drop]; omega)
    refine ⟨last,?_⟩
    rw [StateT.run_bind,read]
    rw [List.drop_drop] at later
    exact later
  · rw [StateT.run_bind]
    by_cases enough : size ≤ data.length
    · obtain ⟨value,read⟩ := first.reads data enough
      rw [read]
      exact (rest value).short (data.drop size) (by rw [List.length_drop]; omega)
    · rw [first.short data (by omega)]
      rfl

theorem Sized.map {layout : Layout α} (sized : Sized layout size) (f : α → β) : Sized (f <$> layout) size := by
  refine ⟨fun data enough => ?_,fun data less => ?_⟩
  · obtain ⟨value,read⟩ := sized.reads data enough
    exact ⟨f value,by rw [StateT.run_map,read]; rfl⟩
  · rw [StateT.run_map,sized.short data less]
    rfl

theorem u8_sized : Sized u8 1 := by
  refine ⟨fun data enough => ?_,fun data less => ?_⟩
  · match data with
    | byte :: rest => exact ⟨byte,rfl⟩
  · match data with
    | [] => rfl

theorem u16_sized : Sized u16 2 := by
  refine ⟨fun data enough => ?_,fun data less => ?_⟩
  · match data with
    | low :: high :: rest => exact ⟨_,rfl⟩
  · match data with
    | [] => rfl
    | [_] => rfl

theorem i16_sized : Sized i16 2 := u16_sized.map _

theorem u32_sized : Sized u32 4 := by
  refine ⟨fun data enough => ?_,fun data less => ?_⟩
  · match data with
    | _ :: _ :: _ :: _ :: rest => exact ⟨_,rfl⟩
  · match data with
    | [] => rfl
    | [_] => rfl
    | [_,_] => rfl
    | [_,_,_] => rfl

theorem bytes_sized (count : Nat) : Sized (bytes count) count := by
  refine ⟨fun data enough => ⟨data.take count,if_pos enough⟩,fun data less => if_neg (Nat.not_le.mpr less)⟩

theorem Sized.unpack {layout : Layout α} (sized : Sized layout size) (data : List UInt8) :
    (unpack layout data).isSome ↔ data.length = size := by
  by_cases enough : size ≤ data.length
  · obtain ⟨value,read⟩ := sized.reads data enough
    unfold Struct.unpack
    rw [read]
    cases left : data.drop size with
    | nil =>
      have none := List.drop_eq_nil_iff.mp left
      exact ⟨fun _ => by omega,fun _ => rfl⟩
    | cons byte rest =>
      refine ⟨nofun,fun same => ?_⟩
      rw [List.drop_eq_nil_iff.mpr (Nat.le_of_eq same)] at left
      cases left
  · unfold Struct.unpack
    rw [sized.short data (by omega)]
    exact ⟨nofun,fun same => by omega⟩

-- Standard sizes, without alignment.
def itemSize : Char → Option Nat
  | 'b' | 'B' | 'c' | '?' => some 1
  | 'h' | 'H' | 'e' => some 2
  | 'i' | 'I' | 'l' | 'L' | 'f' => some 4
  | 'q' | 'Q' | 'd' => some 8
  | _ => none

-- The sizes of the items of a format. A number in front of `s` is the length of one item,
-- in front of another code the number of items.
def itemSizes (count : Option Nat) : List Char → Option (List Nat)
  | [] => if count.isNone then some [] else none
  | code :: rest =>
    if code.isDigit then itemSizes (some (10 * count.getD 0 + (code.toNat - 48))) rest
    else if code = 's' then (count.getD 1 :: ·) <$> itemSizes none rest
    else do
      let size ← itemSize code
      let sizes ← itemSizes none rest
      some (List.replicate (count.getD 1) size ++ sizes)

def itemOffsets (start : Nat) : List Nat → List Nat
  | [] => []
  | size :: rest => start :: itemOffsets (start + size) rest

theorem itemSizes_append {first second : List Char} {count : Option Nat} {sizes : List Nat}
    (whole : itemSizes count first = some sizes) :
    itemSizes count (first ++ second) = (sizes ++ ·) <$> itemSizes none second := by
  induction first generalizing count sizes with
  | nil =>
    unfold itemSizes at whole
    split at whole
    · rename_i absent
      cases whole
      rw [Option.isNone_iff_eq_none.mp absent]
      simp
    · cases whole
  | cons code rest ih =>
    simp only [List.cons_append,itemSizes] at whole ⊢
    split at whole
    · rename_i digit
      rw [if_pos digit]
      exact ih whole
    · rename_i other
      rw [if_neg other]
      split at whole
      · rename_i bytes
        obtain ⟨later,read,rfl⟩ := Option.map_eq_some_iff.mp whole
        rw [if_pos bytes,ih read]
        simp [Function.comp_def]
      · rename_i plain
        rw [if_neg plain]
        obtain ⟨size,known,rest'⟩ := Option.bind_eq_some_iff.mp whole
        obtain ⟨later,read,made⟩ := Option.bind_eq_some_iff.mp rest'
        cases made
        rw [known,ih read]
        cases itemSizes none second <;> simp

@[simp] theorem itemOffsets_length (start : Nat) (sizes : List Nat) :
    (itemOffsets start sizes).length = sizes.length := by
  induction sizes generalizing start with
  | nil => rfl
  | cons size rest ih => simp [itemOffsets,ih]

end Thermometer.Struct
