import Mathlib.Data.Rat.Floor
import Mathlib.Tactic.Common
import Mathlib.Tactic.Linarith

namespace Thermometer.Decimal

-- Decimal literals as doubles, doubles as decimal literals, and fixed-point columns.

-- Rounding of exact values: halves go away from zero.
def roundHalfAway (value : Rat) : Int := if value < 0 then -(-value + 1 / 2).floor else (value + 1 / 2).floor

def doubleValue (double : Float) : Rat :=
  match double.toModel.unpack with
  | .finite sign mantissa exponent _ =>
    let magnitude : Rat := if exponent < 0 then mantissa / 2 ^ exponent.natAbs else mantissa * 2 ^ exponent.natAbs
    if sign == .negative then -magnitude else magnitude
  | _ => 0

def literal (digits : Int) (decimals : Nat) : Float :=
  if digits < 0 then -Float.ofScientific digits.natAbs true decimals else Float.ofScientific digits.natAbs true decimals

-- The shortest decimal that reads back as the double.
def shortest (double : Float) : Rat :=
  let digits (decimals : Nat) : Int := roundHalfAway (doubleValue double * 10 ^ decimals)
  match (List.range 18).find? fun decimals => literal (digits decimals) decimals == double with
  | some decimals => digits decimals / 10 ^ decimals
  | none => doubleValue double

-- A column with two decimals keeps hundredths.
def hundredths (double : Float) : Int := roundHalfAway (shortest double * 100)

theorem roundHalfAway_mono (ordered : x ≤ y) : roundHalfAway x ≤ roundHalfAway y := by
  unfold roundHalfAway
  split
  case isTrue negative =>
    have below : 0 ≤ (-x + 1 / 2).floor := Rat.le_floor_iff.mpr (by push_cast; linarith)
    split
    case isTrue => exact neg_le_neg (Rat.floor_monotone (by linarith))
    case isFalse nonnegative =>
      have above : 0 ≤ (y + 1 / 2).floor := Rat.le_floor_iff.mpr (by push_cast; linarith)
      omega
  case isFalse nonnegative =>
    split
    case isTrue => linarith
    case isFalse => exact Rat.floor_monotone (by linarith)

theorem roundHalfAway_int (n : Int) : roundHalfAway n = n := by
  have settled (m : Int) : ((m : Rat) + 1 / 2).floor = m := by
    apply le_antisymm
    · exact Int.lt_add_one_iff.mp (Rat.floor_lt_iff.mpr (by push_cast; linarith))
    · exact Rat.le_floor_iff.mpr (by linarith)
  unfold roundHalfAway
  split
  · have back := settled (-n)
    push_cast at back
    omega
  · exact settled n

end Thermometer.Decimal
