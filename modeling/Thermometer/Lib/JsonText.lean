import Mathlib.Data.List.Sort
import Thermometer.Lib.Json

-- `json.dumps(value, sort_keys=True)`.
namespace Thermometer.Json

def hexDigit (n : Nat) : Char := "0123456789abcdef".toList.getD n '0'

def unicodeEscape (unit : Nat) : List Char :=
  ['\\','u',hexDigit (unit / 4096),hexDigit (unit / 256 % 16),hexDigit (unit / 16 % 16),hexDigit (unit % 16)]

-- What is no printable ASCII is written in UTF-16 units.
def escapeChar (c : Char) : List Char :=
  if c = '"' ∨ c = '\\' then ['\\',c]
  else if 32 ≤ c.toNat ∧ c.toNat ≤ 126 then [c]
  else if c = '\n' then ['\\','n']
  else if c = '\r' then ['\\','r']
  else if c = '\t' then ['\\','t']
  else if c.toNat = 8 then ['\\','b']
  else if c.toNat = 12 then ['\\','f']
  else if c.toNat < 0x10000 then unicodeEscape c.toNat
  else unicodeEscape (0xd800 + (c.toNat - 0x10000) / 1024) ++ unicodeEscape (0xdc00 + (c.toNat - 0x10000) % 1024)

def quoted (text : String) : String := "\"" ++ String.ofList (text.toList.flatMap escapeChar) ++ "\""

-- The members as they are after a later member of one name has replaced an earlier one.
def members (texts : List (String × String)) : String :=
  let sorted := (OrderedMap.assignAll [] texts).insertionSort fun first second => first.1 ≤ second.1
  "\x7b" ++ ", ".intercalate (sorted.map fun member => quoted member.1 ++ ": " ++ member.2) ++ "\x7d"

mutual

-- `repr` writes a double.
def dumps (repr : Float → String) : Value → String
  | .null => "null"
  | .boolean value => if value then "true" else "false"
  | .integer value => toString value
  | .double value => repr value
  | .text value => quoted value
  | .array items => "[" ++ ", ".intercalate (dumpItems repr items) ++ "]"
  | .object pairs => members (dumpMembers repr pairs)

def dumpItems (repr : Float → String) : List Value → List String
  | [] => []
  | item :: rest => dumps repr item :: dumpItems repr rest

def dumpMembers (repr : Float → String) : List (String × Value) → List (String × String)
  | [] => []
  | (name,value) :: rest => (name,dumps repr value) :: dumpMembers repr rest

end

example : dumps (fun _ => "") (.object [("b",.array [.null,.integer 2]),("a",.text "é\n")]) =
    "\x7b\"a\": \"\\u00e9\\n\", \"b\": [null, 2]\x7d" := by decide +kernel

end Thermometer.Json
