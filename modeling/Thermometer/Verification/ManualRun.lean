import Thermometer.Lib.Json
import Thermometer.Lib.Numerals
import Thermometer.Verification.Coverage

-- execution.py: a guided manual run, and the limits of manual/fields.json.
namespace Thermometer.Verification.Manual
open Json (Value Number Checked)
open Texts (strip)
open OrderedMap

inductive RunError where
  | endOfFile
  | osError
  | raised (error : Json.Error)

-- What the interpreter knows of characters (beyond ASCII its tables depend on the version), how
-- it shows values, and which files there are.
structure Interpreter where
  decimal : Char → Option Nat
  isDigit : Char → Bool
  casefold : Char → List Char
  str : Value → String
  repr : Value → String
  pathExists : String → Except RunError Bool
  ascii : ∀ c, c.toNat < 128 → decimal c = (if c.isDigit then some (c.toNat - 48) else none) ∧
    isDigit c = c.isDigit ∧ casefold c = [c.toLower]

variable (t : Interpreter)

def folded (text : String) : String := String.ofList (text.toList.flatMap t.casefold)

-- The lines that the operator types are the state.
abbrev Console := StateT (List String) (Except RunError)

namespace Console

variable {α β : Type} {lines rest : List String}

theorem bind_ok {first : Console α} {next : α → Console β} {result : β} (done : (first >>= next) lines = .ok (result,rest)) :
    ∃ value between, first lines = .ok (value,between) ∧ next value between = .ok (result,rest) := by
  cases ran : first lines with
  | error failure =>
    simp only [bind,StateT.bind,ran] at done
    cases done
  | ok pair =>
    simp only [bind,StateT.bind,ran] at done
    exact ⟨pair.1,pair.2,rfl,done⟩

theorem lift_ok {outcome : Except RunError α} {value : α} (done : (liftM outcome : Console α) lines = .ok (value,rest)) :
    outcome = .ok value := by
  cases outcome with
  | error failure => cases done
  | ok other =>
    cases done
    rfl

end Console

def input : Console String
  | [] => .error .endOfFile
  | line :: rest => .ok (line,rest)

-- `int` refuses digits that are no decimals, and nothing catches that.
def numbered (options : List String) (raw : String) : Except RunError (Option String) :=
  if raw ≠ "" ∧ raw.toList.all t.isDigit then
    match Numerals.integer t.decimal raw.toList with
    | none => .error (.raised (.valueErrorShowing "invalid literal for int() with base 10: " (.text raw) ""))
    | some index => .ok (if 1 ≤ index ∧ index ≤ options.length then options[(index - 1).toNat]? else none)
  else .ok none

def choice (options : List String) : Console String
  | [] => .error .endOfFile
  | line :: rest =>
    let raw := strip line
    match numbered t options raw with
    | .error error => .error error
    | .ok (some option) => .ok (option,rest)
    | .ok none =>
      match options.find? fun option => folded t option = folded t raw with
      | some option => .ok (option,rest)
      | none => choice options rest

-- By its number, or by its text in any case.
def Names (options : List String) (option line : String) : Prop :=
  numbered t options (strip line) = .ok (some option) ∨ option ∈ options ∧ folded t option = folded t (strip line)

theorem choice_ok {t : Interpreter} {options lines rest : List String} {option : String}
    (chosen : choice t options lines = .ok (option,rest)) :
    ∃ refused line, lines = refused ++ line :: rest ∧ Names t options option line := by
  induction lines with
  | nil => cases chosen
  | cons line later ih =>
    unfold choice at chosen
    dsimp only at chosen
    split at chosen
    · cases chosen
    · rename_i number
      cases chosen
      exact ⟨[],line,rfl,.inl number⟩
    · split at chosen
      · rename_i found
        cases chosen
        exact ⟨[],line,rfl,.inr ⟨List.mem_of_find?_eq_some found,by simpa using List.find?_some found⟩⟩
      · obtain ⟨refused,named,rfl,names⟩ := ih chosen
        exact ⟨line :: refused,named,rfl,names⟩

-- A type that the catalogue does not name, or that is none of these, is read as a text.
inductive FieldType where
  | number | integer | boolean | choice | photo | text
  deriving DecidableEq

structure ManualField where
  id : String
  type : FieldType
  choices : Option (List String)
  expected : Option Value
  minimum : Option Value
  maximum : Option Value
  exclusiveMaximum : Option Value

-- manual/fields.json.
abbrev FieldCatalogue := List (String × List ManualField)

def fieldsOf (catalog : FieldCatalogue) (testId : String) : List ManualField := (catalog.lookup testId).getD []

def answerTo (deferPhotos : Bool) (field : ManualField) : Console String :=
  match field.type with
  | .boolean => choice t ["Yes","No"]
  | .choice =>
    match field.choices with
    | some choices => choice t choices
    | none => throw (.raised (.keyError (.text "choices")))
  | .photo => if deferPhotos then pure "DEFERRED" else strip <$> input
  | .number | .integer | .text => strip <$> input

def valueError (message : String) : Except RunError α := .error (.raised (.valueError message))

def convert (type : FieldType) (raw : String) : Except RunError Value :=
  match type with
  | .number =>
    match Numerals.float t.decimal raw.toList with
    | some value => .ok (.double value)
    | none => .error (.raised (.valueErrorShowing "could not convert string to float: " (.text raw) ""))
  | .integer =>
    match Numerals.integer t.decimal raw.toList with
    | some value => .ok (.integer value)
    | none => .error (.raised (.valueErrorShowing "invalid literal for int() with base 10: " (.text raw) ""))
  | .boolean =>
    if ["yes","y","true"].contains (folded t raw) then .ok (.boolean true)
    else if ["no","n","false"].contains (folded t raw) then .ok (.boolean false)
    else valueError "enter yes or no"
  | .choice => .ok (.text raw)
  | .photo => do
    if raw ≠ "DEFERRED" ∧ !(← t.pathExists raw) then valueError "photo path does not exist (or run with --defer-photos)"
    else return .text raw
  | .text => if raw = "" then valueError "a value is required" else .ok (.text raw)

-- `==`; NaN equals nothing.
def same (a b : Value) : Bool :=
  match a.key,b.key with
  | .ok first,.ok second => first = second && first ≠ .number .nan
  | _,_ => false

-- `<` and `>=` of a measurement, which is a number, a boolean or a text.
def lessThan (a b : Value) : Checked Bool :=
  match a,b with
  | .text first,.text second => .ok (first < second)
  | _,_ => do return (← a.number).lt (← b.number)

def atLeast (a b : Value) : Checked Bool :=
  match a,b with
  | .text first,.text second => .ok !(first < second)
  | _,_ => do return (← b.number).le (← a.number)

inductive Failure where
  | invalid (id : String) (error : Json.Error)
  | expected (id : String) (wanted value : Value)
  | below (id : String) (value minimum : Value)
  | exceeds (id : String) (value maximum : Value)
  | notBelow (id : String) (value exclusiveMaximum : Value)

def errorText : Json.Error → String
  | .valueError message => message
  | .valueErrorShowing before shown after => before ++ t.repr shown ++ after
  | _ => ""

def Failure.text : Failure → String
  | .invalid id error => s!"{id}: invalid value ({errorText t error})"
  | .expected id wanted value => s!"{id}: expected {t.repr wanted}, got {t.repr value}"
  | .below id value minimum => s!"{id}: {t.str value} is below {t.str minimum}"
  | .exceeds id value maximum => s!"{id}: {t.str value} exceeds {t.str maximum}"
  | .notBelow id value exclusiveMaximum => s!"{id}: {t.str value} must be below {t.str exclusiveMaximum}"

def expectation (field : ManualField) (value : Value) : List Failure :=
  match field.expected with
  | some expected => if same value expected then [] else [.expected field.id expected value]
  | none => []

def limited (limit : Option Value) (violated : Value → Checked Bool) (failure : Value → Failure) : Checked (List Failure) :=
  match limit with
  | some limit => do return if ← violated limit then [failure limit] else []
  | none => .ok []

def check (field : ManualField) (value : Value) : Checked (List Failure) := do
  let below ← limited field.minimum (fun limit => lessThan value limit) (.below field.id value)
  let above ← limited field.maximum (fun limit => lessThan limit value) (.exceeds field.id value)
  let reached ← limited field.exclusiveMaximum (fun limit => atLeast value limit) (.notBelow field.id value)
  return expectation field value ++ below ++ above ++ reached

structure Reading where
  field : ManualField
  answer : String
  value : Value
  failures : List Failure

def isValueError : RunError → Option Json.Error
  | .raised (.valueError message) => some (.valueError message)
  | .raised (.valueErrorShowing before shown after) => some (.valueErrorShowing before shown after)
  | _ => none

def judge (field : ManualField) (answer : String) : Except RunError Reading :=
  match convert t field.type answer with
  | .ok value =>
    match check field value with
    | .ok failures => .ok ⟨field,answer,value,failures⟩
    | .error error => .error (.raised error)
  | .error error =>
    match isValueError error with
    | some error => .ok ⟨field,answer,.text answer,[.invalid field.id error]⟩
    | none => .error error

def readField (deferPhotos : Bool) (field : ManualField) : Console Reading := do
  let answer ← answerTo t deferPhotos field
  judge t field answer

def manualMeasurements (catalog : FieldCatalogue) (testId : String) (deferPhotos : Bool) : Console (List Reading) :=
  (fieldsOf catalog testId).mapM (readField t deferPhotos)

-- The two results of `_manual_measurements`.
def valuesOf (readings : List Reading) : List (String × Value) :=
  assignAll [] (readings.map fun reading => (reading.field.id,reading.value))

def failuresOf (readings : List Reading) : List Failure := readings.flatMap (·.failures)

structure ManualStep where
  id : String
  instruction : String

structure GuidedTest where
  id : String
  steps : List ManualStep

def perform (steps : List ManualStep) : Console (List (String × String)) :=
  assignAll [] <$> steps.mapM fun step => do return (step.id,← choice t ["Yes / complete","No / failed","Cannot perform"])

def negative : List String := ["n","no","false","not ready","failed","fail","no / failed","cannot perform"]

def denied (answers : List (String × String)) (step : String) : Bool :=
  (answers.lookup step).any fun answer => negative.contains (folded t (strip answer))

def chosenOutcome (option : String) : Outcome :=
  if option = "PASS" then .pass else if option = "FAIL" then .fail else .blocked

theorem chosenOutcome_pass {option : String} : chosenOutcome option = .pass ↔ option = "PASS" := by
  unfold chosenOutcome
  split
  · simp [*]
  · split <;> simp [*]

def functionalOutcome (answers : List (String × String)) (failures : List Failure) (chosen : Outcome) : Outcome :=
  if failures ≠ [] then .fail
  else if denied t answers "setup" then .blocked
  else if denied t answers "procedure" || denied t answers "evidence" then .fail
  else chosen

-- manual-evidence.json, with the readings that `measurements` and `validation_failures` come from.
structure ManualRecord where
  answers : List (String × String)
  readings : List Reading
  operatorInitials : String
  comments : String
  deferredEvidence : List String
  functionalOutcome : Outcome

structure ManualResult where
  outcome : Outcome
  metrics : List (String × Value)
  failureReason : Option String
  pendingEvidence : Option (List String)
  fixtures : List (String × String)
  instrumentation : List (String × String)
  evidence : List String

def deferredOf (readings : List Reading) : List String :=
  ((valuesOf readings).filter fun entry => same entry.2 (.text "DEFERRED")).map (·.1)

def confirmed (statuses : List (String × String)) : List (String × String) :=
  statuses.map fun entry => if entry.2 = "CONFIRM_REQUIRED" then (entry.1,"CONFIRMED") else entry

def manualResult (test : GuidedTest) (fixtures instrumentation : List (String × String)) (record : ManualRecord) : ManualResult :=
  let outcome := if record.deferredEvidence ≠ [] ∧ record.functionalOutcome = .pass then .blocked else record.functionalOutcome
  { outcome := outcome
    metrics := valuesOf record.readings
    failureReason :=
      if failuresOf record.readings ≠ [] then some ("; ".intercalate ((failuresOf record.readings).map (Failure.text t)))
      else if record.deferredEvidence ≠ [] then some "required photo evidence deferred; attach it with the evidence add command"
      else none
    pendingEvidence :=
      if failuresOf record.readings = [] ∧ record.deferredEvidence ≠ [] then some record.deferredEvidence else none
    fixtures := if outcome = .blocked then fixtures else confirmed fixtures
    instrumentation := if outcome = .blocked then instrumentation else confirmed instrumentation
    evidence := [s!"evidence/{test.id}/manual-evidence.json"] }

def unattended (fixtures instrumentation : List (String × String)) : ManualResult :=
  ⟨.blocked,[],some "operator interaction required; rerun without --non-interactive in a terminal",none,fixtures,instrumentation,[]⟩

-- A test without an assisted workflow. Without an operator there is no record.
def runManual (catalog : FieldCatalogue) (test : GuidedTest) (fixtures instrumentation : List (String × String))
    (attended deferPhotos : Bool) : Console (ManualResult × Option ManualRecord) := do
  if !attended then return (unattended fixtures instrumentation,none)
  let answers ← perform t test.steps
  let readings ← manualMeasurements t catalog test.id deferPhotos
  let chosen ← choice t ["PASS","FAIL","BLOCKED"]
  let operator ← strip <$> input
  let comments ← strip <$> input
  let record : ManualRecord :=
    ⟨answers,readings,operator,comments,deferredOf readings,functionalOutcome t answers (failuresOf readings) (chosenOutcome chosen)⟩
  return (manualResult t test fixtures instrumentation record,some record)

end Thermometer.Verification.Manual
