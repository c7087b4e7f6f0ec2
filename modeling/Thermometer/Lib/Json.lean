import Thermometer.Lib.OrderedMap
import Thermometer.Lib.Decimal

-- JSON documents as Python loads them, and the operators that a program applies to them.
namespace Thermometer.Json

-- An object keeps the pairs of the text; what they mean is `entries`.
inductive Value where
  | null
  | boolean (value : Bool)
  | integer (value : Int)
  | double (value : Float)
  | text (value : String)
  | array (items : List Value)
  | object (pairs : List (String × Value))

-- The exceptions. A message may show a value between two texts.
inductive Error where
  | valueError (message : String)
  | valueErrorShowing (before : String) (shown : Value) (after : String)
  | typeError
  | keyError (key : Value)
  | attributeError
  | overflowError

abbrev Checked := Except Error

theorem bind_ok {α β : Type} {first : Checked α} {next : α → Checked β} {result : β}
    (done : (first >>= next) = .ok result) : ∃ value, first = .ok value ∧ next value = .ok result := by
  cases first with
  | error failure => cases done
  | ok value => exact ⟨value,rfl,done⟩

theorem map_ok {α β : Type} {first : Checked α} {f : α → β} {result : β} (done : f <$> first = .ok result) :
    ∃ value, first = .ok value ∧ f value = result := by
  cases first with
  | error failure => cases done
  | ok value => exact ⟨value,rfl,Except.ok.inj done⟩

theorem of_toBool {α : Type} {checked : Checked α} (done : checked.toBool = true) : ∃ result, checked = .ok result := by
  cases checked with
  | error failure => cases done
  | ok result => exact ⟨result,rfl⟩

theorem mapM_mem {α β : Type} {f : α → Checked β} {list : List α} {results : List β}
    (done : list.mapM f = .ok results) : ∀ input ∈ list, ∃ result, f input = .ok result := by
  induction list generalizing results with
  | nil => exact nofun
  | cons first rest ih =>
    rw [List.mapM_cons] at done
    obtain ⟨result,made,done⟩ := bind_ok done
    obtain ⟨others,later,_⟩ := bind_ok done
    intro input member
    rcases List.mem_cons.mp member with rfl | old
    · exact ⟨result,made⟩
    · exact ih later input old

theorem forM_mem {α : Type} {f : α → Checked Unit} {list : List α} (done : list.forM f = .ok ()) :
    ∀ input ∈ list, f input = .ok () := by
  induction list with
  | nil => exact nofun
  | cons first rest ih =>
    obtain ⟨_,now,later⟩ := bind_ok done
    intro input member
    rcases List.mem_cons.mp member with rfl | old
    · exact now
    · exact ih later input old

theorem mapM_flatten {α β γ : Type} {f : α → Checked (List β)} {view : β → Option γ} {expected : α → List γ}
    {list : List α} {groups : List (List β)}
    (each : ∀ input ∈ list, ∀ group, f input = .ok group → group.filterMap view = expected input)
    (done : list.mapM f = .ok groups) : groups.flatten.filterMap view = list.flatMap expected := by
  induction list generalizing groups with
  | nil =>
    cases done
    rfl
  | cons first rest ih =>
    rw [List.mapM_cons] at done
    obtain ⟨group,made,done⟩ := bind_ok done
    obtain ⟨others,later,same⟩ := bind_ok done
    cases same
    rw [List.flatten_cons,List.filterMap_append,List.flatMap_cons,each first List.mem_cons_self group made]
    rw [ih (fun input member => each input (List.mem_cons_of_mem _ member)) later]

-- `if not condition: raise error`.
def require (condition : Bool) (error : Error) : Checked Unit := if condition then .ok () else .error error

theorem require_ok {condition : Bool} (done : require condition error = .ok ()) : condition = true := by
  cases condition with
  | true => rfl
  | false => cases done

inductive Number where
  | integer (value : Int)
  | double (value : Float)

-- The exact value: doubles and integers are compared as they are.
inductive Exact where
  | finite (value : Rat)
  | infinite (negative : Bool)
  | nan
  deriving DecidableEq

namespace Number

def exact : Number → Exact
  | .integer value => .finite value
  | .double value =>
    match value.toModel.unpack with
    | .infinity sign => .infinite (sign == .negative)
    | .notANumber => .nan
    | _ => .finite (Decimal.doubleValue value)

def le (a b : Number) : Bool :=
  match a.exact,b.exact with
  | .finite x,.finite y => x ≤ y
  | .nan,_ | _,.nan => false
  | .infinite negative,.finite _ => negative
  | .finite _,.infinite negative => !negative
  | .infinite first,.infinite second => first || !second

def lt (a b : Number) : Bool := a.le b && !b.le a

theorem le_total {a b : Number} (left : a.exact ≠ .nan) (right : b.exact ≠ .nan) : a.le b = true ∨ b.le a = true := by
  unfold le
  cases first : a.exact with
  | nan => exact absurd first left
  | finite x =>
    cases second : b.exact with
    | nan => exact absurd second right
    | finite y => simpa using (Rat.le_total : x ≤ y ∨ y ≤ x)
    | infinite negative => cases negative <;> simp
  | infinite negative =>
    cases second : b.exact with
    | nan => exact absurd second right
    | finite y => cases negative <;> simp
    | infinite other => cases negative <;> cases other <;> simp

theorem not_lt_iff {a b : Number} (left : a.exact ≠ .nan) (right : b.exact ≠ .nan) : a.lt b = false ↔ b.le a = true := by
  have total := le_total left right
  unfold lt
  cases below : a.le b <;> cases above : b.le a <;> simp_all

theorem not_nan_of_le {a b : Number} (below : a.le b = true) : a.exact ≠ .nan ∧ b.exact ≠ .nan := by
  unfold le at below
  constructor
  · intro first
    rw [first] at below
    cases below
  · intro second
    rw [second] at below
    cases first : a.exact <;> rw [first] at below <;> cases below

def toDouble : Number → Checked Float
  | .integer value => if (Float.ofInt value).isInf then .error .overflowError else .ok (Float.ofInt value)
  | .double value => .ok value

-- Two integers stay integers, anything else is rounded to doubles first.
def arithmetic (exact : Int → Int → Int) (rounded : Float → Float → Float) (a b : Number) : Checked Number :=
  match a,b with
  | .integer x,.integer y => .ok (.integer (exact x y))
  | _,_ => do
    let x ← a.toDouble
    let y ← b.toDouble
    .ok (.double (rounded x y))

def add : Number → Number → Checked Number := arithmetic (· + ·) (· + ·)

def sub : Number → Number → Checked Number := arithmetic (· - ·) (· - ·)

def mul : Number → Number → Checked Number := arithmetic (· * ·) (· * ·)

-- Python's `max`: the first of the greatest.
def max (a b : Number) : Number := if a.lt b then b else a

def toValue : Number → Value
  | .integer value => .integer value
  | .double value => .double value

@[simp] theorem le_integer (x y : Int) : (integer x).le (.integer y) = decide (x ≤ y) := by
  simp [le,exact]

@[simp] theorem lt_integer (x y : Int) : (integer x).lt (.integer y) = decide (x < y) := by
  unfold lt
  rw [le_integer,le_integer,← decide_not,← Bool.decide_and]
  apply decide_eq_decide.mpr
  omega

@[simp] theorem add_integer (x y : Int) : (integer x).add (.integer y) = .ok (.integer (x + y)) := rfl

@[simp] theorem sub_integer (x y : Int) : (integer x).sub (.integer y) = .ok (.integer (x - y)) := rfl

@[simp] theorem mul_integer (x y : Int) : (integer x).mul (.integer y) = .ok (.integer (x * y)) := rfl

theorem max_integer (x y : Int) : (integer x).max (.integer y) = .integer (Max.max x y) := by
  unfold max
  rw [lt_integer]
  by_cases less : x < y
  · rw [if_pos (by simpa using less),max_eq_right (le_of_lt less)]
  · rw [if_neg (by simpa using less),max_eq_left (not_lt.mp less)]

-- The chain `low <= first <= second ...`: nothing behind a failed comparison is evaluated.
def ordered (low : Number) : List (Checked Number) → Checked Bool
  | [] => .ok true
  | next :: rest => do
    let value ← next
    if low.le value then ordered value rest else .ok false

theorem ordered_cons {low : Number} {next : Checked Number} {rest : List (Checked Number)}
    (done : ordered low (next :: rest) = .ok true) :
    ∃ value, next = .ok value ∧ low.le value ∧ ordered value rest = .ok true := by
  obtain ⟨value,read,chained⟩ := bind_ok done
  split at chained
  · rename_i below
    exact ⟨value,read,below,chained⟩
  · cases chained

end Number

-- What equality and hashing see: a boolean is a number, and numbers of one value are one key.
inductive Key where
  | null
  | number (value : Exact)
  | text (value : String)
  deriving DecidableEq

namespace Value

def number : Value → Checked Number
  | .boolean value => .ok (.integer (if value then 1 else 0))
  | .integer value => .ok (.integer value)
  | .double value => .ok (.double value)
  | _ => .error .typeError

def isInteger : Value → Bool
  | .boolean _ | .integer _ => true
  | _ => false

def isBoolean : Value → Bool
  | .boolean _ => true
  | _ => false

-- Lists and dictionaries are not hashable.
def key : Value → Checked Key
  | .null => .ok .null
  | .text value => .ok (.text value)
  | .array _ | .object _ => .error .typeError
  | .boolean value => .ok (.number (Number.integer (if value then 1 else 0)).exact)
  | .integer value => .ok (.number (Number.integer value).exact)
  | .double value => .ok (.number (Number.double value).exact)

-- `value == expected` for an expected number or text.
def equals (value : Value) (expected : Key) : Bool :=
  match value.key with
  | .ok key => key = expected
  | .error _ => false

def entries : Value → List (String × Value)
  | .object pairs => OrderedMap.assignAll [] pairs
  | _ => []

def field (value : Value) (name : String) : Option Value :=
  (value.entries.find? fun entry => entry.1 = name).map (·.2)

def dictionary : Value → Checked (List (String × Value))
  | .object pairs => .ok (entries (.object pairs))
  | _ => .error .attributeError

-- `value.get(name, default)`.
def get (value : Value) (name : String) (default : Value := .null) : Checked Value := do
  let _ ← value.dictionary
  .ok ((value.field name).getD default)

-- `value[name]`.
def subscript (value : Value) (name : String) : Checked Value :=
  match value with
  | .object _ =>
    match value.field name with
    | some found => .ok found
    | none => .error (.keyError (.text name))
  | _ => .error .typeError

def items : Value → Checked (List Value)
  | .array items => .ok items
  | .text value => .ok (value.toList.map fun character => .text (String.singleton character))
  | .object pairs => .ok ((entries (.object pairs)).map fun entry => .text entry.1)
  | _ => .error .typeError

-- `len(value)`.
def length (value : Value) : Checked Nat := List.length <$> value.items

def truthy : Value → Bool
  | .null => false
  | .boolean value => value
  | .integer value => value ≠ 0
  | .double value => (Number.double value).exact ≠ .finite 0
  | .text value => value ≠ ""
  | .array items => items ≠ []
  | .object pairs => pairs ≠ []

def follow (value : Value) : List String → Value
  | [] => value
  | name :: path => ((value.field name).getD .null).follow path

variable {value found : Value} {known : List (String × Value)} {name : String} {path : List String}

theorem entries_nodup (value : Value) : (value.entries.map Prod.fst).Nodup := by
  cases value with
  | object pairs => exact OrderedMap.assignAll_nodup pairs List.nodup_nil
  | _ => exact List.nodup_nil

theorem dictionary_ok (done : value.dictionary = .ok known) : known = value.entries := by
  cases value <;> cases done
  rfl

theorem get_ok {default : Value} (done : value.get name default = .ok found) :
    found = (value.field name).getD default := by
  obtain ⟨entries,_,same⟩ := bind_ok done
  exact (Except.ok.inj same).symm

theorem entries_default (value : Option Value) : (value.getD (.object [])).entries = (value.getD .null).entries := by
  cases value <;> rfl

theorem field_of_mem (present : (name,found) ∈ value.entries) : value.field name = some found := by
  unfold field
  cases searched : value.entries.find? fun entry => entry.1 = name with
  | none => exact absurd (List.find?_eq_none.mp searched _ present) (by simp)
  | some entry =>
    have named : entry.1 = name := by simpa using List.find?_some searched
    have same := List.inj_on_of_nodup_map value.entries_nodup (List.mem_of_find?_eq_some searched) present named
    rw [same]
    rfl

theorem subscript_ok (done : value.subscript name = .ok found) : value.field name = some found := by
  unfold subscript at done
  split at done
  · split at done
    · cases done
      assumption
    · cases done
  · cases done

theorem follow_of_field (present : value.field name = some found) : value.follow (name :: path) = found.follow path := by
  rw [follow,present,Option.getD_some]

end Value

end Thermometer.Json
