import Mathlib.Data.List.Basic
import Mathlib.Tactic.Common

-- `int` and `float` of a text without blanks around it. `decimal` is the value of a decimal
-- digit, of any script that the interpreter knows.
namespace Thermometer.Numerals

variable (decimal : Char → Option Nat)

def digitGroup : List Char → Option (List Nat)
  | [] => none
  | group => group.mapM decimal

-- Single underscores may stand between digits.
def digits (text : List Char) : Option (List Nat) := ((text.splitOn '_').mapM (digitGroup decimal)).map List.flatten

def magnitude (found : List Nat) : Nat := found.foldl (fun value digit => 10 * value + digit) 0

def signed : List Char → Bool × List Char
  | '-' :: rest => (true,rest)
  | '+' :: rest => (false,rest)
  | text => (false,text)

def withSign (negative : Bool) (value : Nat) : Int := if negative then -value else value

-- The default of `sys.get_int_max_str_digits`.
def maxDigits : Nat := 4300

def integer (text : List Char) : Option Int := do
  let found ← digits decimal (signed text).2
  if maxDigits < found.length then none else return withSign (signed text).1 (magnitude found)

def exponentPart : List Char → Option Int
  | [] => some 0
  | _ :: rest => (digits decimal (signed rest).2).map fun found => withSign (signed rest).1 (magnitude found)

def fractionPart : List Char → Option (List Nat)
  | [] | [_] => some []
  | _ :: rest => digits decimal rest

def isExponentMark (c : Char) : Bool := c = 'e' || c = 'E'

-- The digits of a literal as one integer, and the power of ten that scales it.
def scientific (text : List Char) : Option (Nat × Int) := do
  let mantissa := text.takeWhile fun c => !isExponentMark c
  let whole := mantissa.takeWhile (· ≠ '.')
  let fraction := mantissa.dropWhile (· ≠ '.')
  if whole = [] ∧ fraction.length ≤ 1 then none
  else
    let wholeDigits ← if whole = [] then some [] else digits decimal whole
    let fractionDigits ← fractionPart decimal fraction
    let exponent ← exponentPart decimal (text.dropWhile fun c => !isExponentMark c)
    return (magnitude (wholeDigits ++ fractionDigits),exponent - fractionDigits.length)

def nan : Float := Float.ofBits 0x7ff8000000000000

def infinity : Float := Float.ofBits 0x7ff0000000000000

def unsigned (text : List Char) : Option Float :=
  let word := String.ofList (text.map Char.toLower)
  if word = "nan" then some nan
  else if word = "inf" ∨ word = "infinity" then some infinity
  else (scientific decimal text).map fun found => Float.ofScientific found.1 (found.2 < 0) found.2.natAbs

def float (text : List Char) : Option Float :=
  (unsigned decimal (signed text).2).map fun value => if (signed text).1 then -value else value

end Thermometer.Numerals
