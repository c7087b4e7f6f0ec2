import Thermometer.Lib.OrderedMap
import Thermometer.Lib.Texts
import Thermometer.Frontend.AlertRoundTrip

-- alertEngine.ts over the rules that App.tsx makes of a configuration.
namespace Thermometer.Frontend.Console
open OrderedMap

inductive AlertSource where
  | sensor1
  | sensor2
  deriving DecidableEq

inductive RuleState where
  | normal
  | high
  | low
  deriving DecidableEq

def AlertSource.text : AlertSource → String
  | .sensor1 => "SENSOR_1"
  | .sensor2 => "SENSOR_2"

def RuleState.text : RuleState → String
  | .normal => "NORMAL"
  | .high => "HIGH"
  | .low => "LOW"

structure AlertRule where
  id : String
  source : AlertSource
  minC : Rat
  maxC : Rat
  enabled : Bool
  recipientId : Option String
  highMessage : String
  lowMessage : String
  clearMessage : String

structure AlertRecipient where
  id : String
  destination : String
  enabled : Bool

structure AlertEvent where
  id : String
  timestamp : Int
  recipientId : String
  ruleId : String
  source : AlertSource
  transition : RuleState
  destination : String
  message : String
  celsius : Rat
  deriving DecidableEq

structure ThermometerFrame where
  timestamp : Int
  sensor1 : Option Rat
  sensor2 : Option Rat

def sourceCelsius (frame : ThermometerFrame) : AlertSource → Option Rat
  | .sensor1 => frame.sensor1
  | .sensor2 => frame.sensor2

def sep : String := "::"

def ruleStateKey (recipientId ruleId : String) (source : AlertSource) : String := sep.intercalate [recipientId,ruleId,source.text]

def zoneFor (celsius : Rat) (rule : AlertRule) : RuleState :=
  if celsius > rule.maxC then .high else if celsius < rule.minC then .low else .normal

def messageFor (rule : AlertRule) : RuleState → String
  | .high => rule.highMessage
  | .low => rule.lowMessage
  | .normal => rule.clearMessage

abbrev AlertEngineState := List (String × RuleState)

structure AlertEngineStep where
  states : AlertEngineState
  events : List AlertEvent

-- The body of the inner loop.
def stepRule (frame : ThermometerFrame) (recipient : AlertRecipient) (step : AlertEngineStep) (rule : AlertRule) : AlertEngineStep :=
  if !rule.enabled then step
  else if rule.recipientId.any fun id => id ≠ "" && id ≠ recipient.id then step
  else
    let key := ruleStateKey recipient.id rule.id rule.source
    let current := (step.states.lookup key).getD .normal
    match sourceCelsius frame rule.source with
    | none => step
    | some celsius =>
      let zone := zoneFor celsius rule
      if zone = current then step
      else {
        states := assign step.states key zone
        events := step.events ++ [{
          id := sep.intercalate [key,zone.text,toString frame.timestamp]
          timestamp := frame.timestamp
          recipientId := recipient.id
          ruleId := rule.id
          source := rule.source
          transition := zone
          destination := recipient.destination
          message := messageFor rule zone
          celsius := celsius }] }

def stepRecipient (frame : ThermometerFrame) (rules : List AlertRule) (step : AlertEngineStep) (recipient : AlertRecipient) :
    AlertEngineStep :=
  if recipient.enabled then rules.foldl (stepRule frame recipient) step else step

def stepAlertEngine (prev : AlertEngineState) (frame : ThermometerFrame) (rules : List AlertRule)
    (recipients : List AlertRecipient) : AlertEngineStep := recipients.foldl (stepRecipient frame rules) ⟨prev,[]⟩

def clearMessage : String := "Temperature back within the configured range."

-- The two rules of a recipient, as App.tsx builds them.
def recipientRule (config : PersistedAlertConfig) (recipient : PersistedRecipient) (ending : String) (source : AlertSource) : AlertRule := {
  id := recipient.id ++ ending
  source := source
  minC := recipient.minC
  maxC := recipient.maxC
  enabled := config.enabled && recipient.enabled
  recipientId := some recipient.id
  highMessage := recipient.maxMessage
  lowMessage := recipient.minMessage
  clearMessage := clearMessage }

def configRules (config : PersistedAlertConfig) : List AlertRule :=
  config.recipients.flatMap fun recipient =>
    [recipientRule config recipient ":sensor-1" .sensor1,recipientRule config recipient ":sensor-2" .sensor2]

def configRecipients (config : PersistedAlertConfig) : List AlertRecipient :=
  config.recipients.map fun recipient => ⟨recipient.id,recipient.destination,config.enabled && recipient.enabled⟩

def ruleName (recipientId : String) : AlertSource → String
  | .sensor1 => recipientId ++ ":sensor-1"
  | .sensor2 => recipientId ++ ":sensor-2"

structure Named (event : AlertEvent) : Prop where
  ruleId : event.ruleId = ruleName event.recipientId event.source
  id : event.id = sep.intercalate [ruleStateKey event.recipientId event.ruleId event.source,event.transition.text,toString event.timestamp]

variable {js : LowerCase} {config : PersistedAlertConfig} {frame : ThermometerFrame} {recipient : AlertRecipient} {step : AlertEngineStep}

theorem accepted_id {given : PersistedRecipient} (accepted : js.Accepted given) : given.id ≠ "" := by
  intro empty
  have short := accepted.id.1
  rw [empty] at short
  exact absurd short (by decide +kernel)

theorem stepRule_named (each : ∀ given ∈ config.recipients, js.Accepted given) (rule : AlertRule) (member : rule ∈ configRules config)
    (named : ∀ event ∈ step.events, Named event) : ∀ event ∈ (stepRule frame recipient step rule).events, Named event := by
  obtain ⟨given,inside,built⟩ := List.mem_flatMap.mp member
  have present := accepted_id (each given inside)
  have owner : rule.recipientId = some given.id ∧ rule.id = ruleName given.id rule.source := by
    simp only [List.mem_cons,List.not_mem_nil,or_false] at built
    obtain rfl | rfl := built
    · exact ⟨rfl,rfl⟩
    · exact ⟨rfl,rfl⟩
  unfold stepRule
  split
  case isTrue => exact named
  case isFalse =>
    split
    case isTrue => exact named
    case isFalse mine =>
      have same : given.id = recipient.id := by
        rw [owner.1] at mine
        simpa [present] using mine
      split
      case h_1 => exact named
      case h_2 celsius read =>
        dsimp only
        split
        case isTrue => exact named
        case isFalse =>
          intro event among
          rcases List.mem_append.mp among with old | new
          · exact named event old
          · rw [List.mem_singleton.mp new]
            exact ⟨by rw [owner.2,same],rfl⟩

theorem rules_named (each : ∀ given ∈ config.recipients, js.Accepted given) (rules : List AlertRule)
    (made : ∀ rule ∈ rules, rule ∈ configRules config) (named : ∀ event ∈ step.events, Named event) :
    ∀ event ∈ (rules.foldl (stepRule frame recipient) step).events, Named event := by
  induction rules generalizing step with
  | nil => exact named
  | cons rule rest ih =>
    apply ih fun other member => made other (List.mem_cons_of_mem _ member)
    exact stepRule_named each rule (made rule List.mem_cons_self) named

theorem recipients_named (each : ∀ given ∈ config.recipients, js.Accepted given) (recipients : List AlertRecipient)
    (named : ∀ event ∈ step.events, Named event) :
    ∀ event ∈ (recipients.foldl (stepRecipient frame (configRules config)) step).events, Named event := by
  induction recipients generalizing step with
  | nil => exact named
  | cons recipient rest ih =>
    apply ih
    unfold stepRecipient
    split
    · exact rules_named each _ (fun _ member => member) named
    · exact named

theorem engine_named (each : ∀ given ∈ config.recipients, js.Accepted given) (prev : AlertEngineState) :
    ∀ event ∈ (stepAlertEngine prev frame (configRules config) (configRecipients config)).events, Named event :=
  recipients_named each _ (by simp)

def crossing (event : AlertEvent) : String × AlertSource × RuleState × Int :=
  (event.recipientId,event.source,event.transition,event.timestamp)

def crossingId (parts : String × AlertSource × RuleState × Int) : String :=
  sep.intercalate [ruleStateKey parts.1 (ruleName parts.1 parts.2.1) parts.2.1,parts.2.2.1.text,toString parts.2.2.2]

theorem Named.crossing_id {event : AlertEvent} (named : Named event) : event.id = crossingId (crossing event) := by
  rw [named.id,named.ruleId]
  rfl

theorem sep_parts (a b c : String) : (sep.intercalate [a,b,c]).toList = (a.toList ++ [':'] ++ ':' :: b.toList ++ [':']) ++ ':' :: c.toList := by
  have text : sep.intercalate [a,b,c] = a ++ sep ++ b ++ sep ++ c := rfl
  have colons : sep.toList = [':',':'] := by decide +kernel
  rw [text]
  simp [String.toList_append,colons]

theorem digit_of_repr {n : Nat} {c : Char} (member : c ∈ (Nat.repr n).toList) : c.isDigit := by
  rw [Nat.toList_repr] at member
  exact Nat.isDigit_of_mem_toDigits (by decide) (by decide) member

theorem timestamp_text : (n : Int) → (toString n).toList =
    match n with
    | .ofNat m => (Nat.repr m).toList
    | .negSucc m => '-' :: (Nat.repr (m + 1)).toList
  | .ofNat _ => rfl
  | .negSucc m => by
    have text : toString (Int.negSucc m) = "-" ++ Nat.repr (m + 1) := rfl
    rw [text,String.toList_append]
    rfl

theorem timestamp_plain (n : Int) : ':' ∉ (toString n).toList := by
  rw [timestamp_text]
  cases n with
  | ofNat m => exact fun member => absurd (digit_of_repr member) (by decide)
  | negSucc m =>
    intro member
    rcases List.mem_cons.mp member with sign | digit
    · exact absurd sign (by decide)
    · exact absurd (digit_of_repr digit) (by decide)

theorem timestamp_inj {m n : Int} (same : (toString m).toList = (toString n).toList) : m = n := by
  rw [timestamp_text,timestamp_text] at same
  have sign {a b : Nat} (text : (Nat.repr a).toList = '-' :: (Nat.repr b).toList) : False := by
    have digit : '-'.isDigit := digit_of_repr (text ▸ List.mem_cons_self)
    exact absurd digit (by decide)
  cases m with
  | ofNat a =>
    cases n with
    | ofNat b => exact congrArg Int.ofNat (Texts.repr_inj (String.toList_inj.mp same))
    | negSucc b => exact (sign same).elim
  | negSucc a =>
    cases n with
    | ofNat b => exact (sign same.symm).elim
    | negSucc b =>
      have tail := Texts.repr_inj (String.toList_inj.mp (List.cons.inj same).2)
      exact congrArg Int.negSucc (Nat.succ.inj tail)

theorem source_plain (source : AlertSource) : ':' ∉ source.text.toList := by
  cases source with
  | sensor1 => decide +kernel
  | sensor2 => decide +kernel

theorem source_inj {a b : AlertSource} (same : a.text.toList = b.text.toList) : a = b := by
  revert same
  cases a <;> cases b <;> decide +kernel

theorem state_plain (state : RuleState) : ':' ∉ state.text.toList := by
  cases state with
  | normal => decide +kernel
  | high => decide +kernel
  | low => decide +kernel

theorem state_inj {a b : RuleState} (same : a.text.toList = b.text.toList) : a = b := by
  revert same
  cases a <;> cases b <;> decide +kernel

-- The id tells all its parts apart: it is taken to pieces from its end, and the recipient
-- stands twice in what is left, so that its length is known.
theorem crossingId_inj {a b : String × AlertSource × RuleState × Int} (same : crossingId a = crossingId b) : a = b := by
  obtain ⟨recipientA,sourceA,stateA,timeA⟩ := a
  obtain ⟨recipientB,sourceB,stateB,timeB⟩ := b
  have texts := congrArg String.toList same
  unfold crossingId at texts
  rw [sep_parts,sep_parts] at texts
  obtain ⟨before,times⟩ := Texts.split_last (timestamp_plain _) (timestamp_plain _) texts
  obtain ⟨before,states⟩ := Texts.split_last (state_plain _) (state_plain _) (List.append_cancel_right before)
  have keys := List.append_cancel_right before
  unfold ruleStateKey at keys
  rw [sep_parts,sep_parts] at keys
  obtain ⟨before,sources⟩ := Texts.split_last (source_plain _) (source_plain _) keys
  dsimp only at before sources states times
  obtain rfl := source_inj sources
  have rules : recipientA.toList ++ [':'] ++ ':' :: (ruleName recipientA sourceA).toList =
      recipientB.toList ++ [':'] ++ ':' :: (ruleName recipientB sourceA).toList := List.append_cancel_right before
  have pairs : recipientA.toList ++ ([':',':'] ++ recipientA.toList) = recipientB.toList ++ ([':',':'] ++ recipientB.toList) := by
    have ended (ending : String) (named : ∀ recipient, ruleName recipient sourceA = recipient ++ ending) :
        recipientA.toList ++ ([':',':'] ++ recipientA.toList) ++ ending.toList =
          recipientB.toList ++ ([':',':'] ++ recipientB.toList) ++ ending.toList := by
      rw [named,named] at rules
      simpa [String.toList_append] using rules
    cases sourceA with
    | sensor1 => exact List.append_cancel_right (ended ":sensor-1" fun _ => rfl)
    | sensor2 => exact List.append_cancel_right (ended ":sensor-2" fun _ => rfl)
  have lengths := congrArg List.length pairs
  simp only [List.length_append,List.length_cons,List.length_nil] at lengths
  have recipients := (List.append_inj pairs (by omega)).1
  rw [String.toList_inj.mp recipients,state_inj states,timestamp_inj times]

end Thermometer.Frontend.Console
