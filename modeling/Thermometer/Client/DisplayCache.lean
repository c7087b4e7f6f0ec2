import Mathlib.Logic.Function.Basic
import Thermometer.Lib.Execution
import Thermometer.Client.Protocol

-- `self._last_current.snapshot` between polls and display commands. A history anchor and
-- the first snapshot of a connection go through the function of the polls.
namespace Thermometer.Client.DisplayCache
open Execution Protocol Wire

inductive Received where
  | snapshot (snapshot : Protocol.CurrentSnapshot)
  | display (result : DisplayResult)
  deriving DecidableEq

-- The awaits of `set_display`: for the command, for the confirmation behind a timeout, and
-- for the database. A response that has arrived is known by its number; `written` is a
-- command that has changed the cache.
inductive Stage where
  | requested
  | confirming
  | confirmed (confirmation : Protocol.CurrentSnapshot) (response : Nat)
  | persisting (result : DisplayResult) (response : Nat)
  | written (result : DisplayResult) (response : Nat)
  | returned
  deriving DecidableEq

def Stage.response : Stage → Option Nat
  | .confirmed _ k | .persisting _ k | .written _ k => some k
  | _ => none

def Received.Displays (sensorId : Nat) (visibleState : VisibleState) (displayEnabled : Bool) : Received → Prop
  | .snapshot current => ∃ sensor ∈ current.sensors,
      sensor.sensorId = sensorId ∧ sensor.visibleState = visibleState ∧ sensor.displayEnabled = displayEnabled
  | .display result =>
    result.sensorId.toNat = sensorId ∧ result.visibleState = visibleState ∧ result.displayEnabled = displayEnabled

def Stage.Reported (received : Nat → Option Received) : Stage → Prop
  | .confirmed confirmation k => received k = some (.snapshot confirmation)
  | .persisting result k | .written result k => ∃ response, received k = some response ∧
      response.Displays result.sensorId.toNat result.visibleState result.displayEnabled
  | _ => True

structure Command where
  sensorId : UInt8
  enabled : Bool
  stage : Stage
  deriving DecidableEq

-- The last four fields are not part of the source: the responses of the device in the order
-- in which the service got them, the number of the one that the temperatures in the cache
-- are from, and for each sensor the number of the one that its display state is from.
structure State where
  ready : Bool
  snapshot : Option Protocol.CurrentSnapshot
  commands : List Command
  count : Nat
  received : Nat → Option Received
  measured : Nat
  shown : Nat → Nat

-- What a button on the device does is seen in the next responses only.
inductive Action where
  | setReady (ready : Bool)
  | setDisplay (sensorId : Int) (enabled : Bool)
  | displayed (index : Nat) (result : DisplayResult)
  | timedOut (index : Nat)
  | confirmationReceived (index : Nat) (confirmation : Protocol.CurrentSnapshot)
  | confirmationHandled (index : Nat)
  | failed (index : Nat)
  | persisted (index : Nat)
  | current (snapshot : Protocol.CurrentSnapshot)
  | missing

namespace State

variable (s : State)

def initial : State := ⟨false,none,[],0,fun _ => none,0,fun _ => 0⟩

def receive (response : Received) : State :=
  { s with count := s.count + 1, received := Function.update s.received (s.count + 1) (some response) }

def setStage (index : Nat) (stage : Stage) : State :=
  { s with commands := s.commands.modify index ({ · with stage := stage }) }

def publishCurrentSnapshot (snapshot : Protocol.CurrentSnapshot) (response : Nat) : State :=
  { s with snapshot := some snapshot, measured := response, shown := fun _ => response }

def shows (sensorId : Nat) : Bool := s.snapshot.any fun snapshot => snapshot.sensors.any (·.sensorId = sensorId)

def replaceDisplay (result : DisplayResult) (sensor : SensorSnapshot) : SensorSnapshot :=
  if sensor.sensorId = result.sensorId.toNat then
    { sensor with visibleState := result.visibleState, displayEnabled := result.displayEnabled }
  else sensor

def updateCachedDisplay (result : DisplayResult) (response : Nat) : State :=
  match s.snapshot with
  | none => s
  | some snapshot =>
    { s with
      snapshot := some { snapshot with sensors := snapshot.sensors.map (replaceDisplay result) }
      shown := if s.shows result.sensorId.toNat then Function.update s.shown result.sensorId.toNat response else s.shown }

def confirmedResult (command : Command) (confirmation : Protocol.CurrentSnapshot) : Option DisplayResult := do
  let sensor ← confirmation.sensors.find? (·.sensorId = command.sensorId.toNat)
  if sensor.displayEnabled = command.enabled then some ⟨command.sensorId,sensor.visibleState,sensor.displayEnabled⟩
  else none

def confirmationHandled (index : Nat) (command : Command) : Option State :=
  match command.stage with
  | .confirmed confirmation response =>
    match confirmedResult command confirmation with
    | none => some (s.setStage index .returned)
    | some result => some ((s.publishCurrentSnapshot confirmation response).setStage index (.persisting result response))
  | _ => none

-- Behind the wait for the database, which may be long or cut off.
def persisted (index : Nat) (command : Command) : Option State :=
  match command.stage with
  | .persisting result response =>
    some ((s.updateCachedDisplay result response).setStage index
      (if s.shows result.sensorId.toNat then .written result response else .returned))
  | _ => none

def step (s : State) : Action → Option State
  | .setReady ready => some { s with ready := ready }
  | .setDisplay sensorId enabled =>
    if 1 ≤ sensorId ∧ sensorId ≤ sensorCount ∧ s.ready then
      some { s with commands := s.commands ++ [⟨UInt8.ofNat sensorId.toNat,enabled,.requested⟩] }
    else none
  | .displayed index result => s.commands[index]?.bind fun command =>
    if command.stage = .requested then some ((s.receive (.display result)).setStage index (.persisting result (s.count + 1)))
    else none
  | .timedOut index => s.commands[index]?.bind fun command =>
    if command.stage = .requested then some (s.setStage index .confirming) else none
  | .confirmationReceived index confirmation => s.commands[index]?.bind fun command =>
    if command.stage = .confirming then
      some ((s.receive (.snapshot confirmation)).setStage index (.confirmed confirmation (s.count + 1)))
    else none
  | .confirmationHandled index => s.commands[index]?.bind (s.confirmationHandled index)
  | .failed index => s.commands[index]?.bind fun command =>
    if command.stage = .requested ∨ command.stage = .confirming then some (s.setStage index .returned) else none
  | .persisted index => s.commands[index]?.bind (s.persisted index)
  | .current snapshot => some ((s.receive (.snapshot snapshot)).publishCurrentSnapshot snapshot (s.count + 1))
  | .missing => some { s with snapshot := none }

def latest (response : Nat) (concerns : Nat → Bool) : Bool :=
  decide (s.measured ≤ response) && s.commands.all fun command =>
    match command.stage with
    | .written result later => !concerns result.sensorId.toNat || decide (later ≤ response)
    | _ => true

def inTime (s : State) : Action → Bool
  | .persisted index => s.commands[index]?.all fun command =>
    match command.stage with
    | .persisting result response => !s.shows result.sensorId.toNat || s.latest response (· = result.sensorId.toNat)
    | _ => true
  | .confirmationHandled index => s.commands[index]?.all fun command =>
    match command.stage with
    | .confirmed confirmation response => (confirmedResult command confirmation).isNone || s.latest response fun _ => true
    | _ => true
  | _ => true

variable {s}

theorem setStage_here {index : Nat} {stage : Stage} :
    (s.setStage index stage).commands[index]? = s.commands[index]?.map ({ · with stage := stage }) := by
  simp [setStage]

theorem setStage_apart {index place : Nat} {stage : Stage} (apart : index ≠ place) :
    (s.setStage index stage).commands[place]? = s.commands[place]? := by
  simp [setStage,apart]

theorem mem_setStage {index : Nat} {stage : Stage} {command : Command} (member : command ∈ (s.setStage index stage).commands) :
    command ∈ s.commands ∨ ∃ old, s.commands[index]? = some old ∧ command = { old with stage := stage } := by
  obtain ⟨place,found⟩ := List.mem_iff_getElem?.mp member
  by_cases here : index = place
  · subst here
    rw [setStage_here] at found
    obtain ⟨old,present,same⟩ := Option.map_eq_some_iff.mp found
    exact .inr ⟨old,present,same.symm⟩
  · rw [setStage_apart here] at found
    exact .inl (List.mem_of_getElem? found)

theorem setStage_mem {index : Nat} {stage : Stage} {command old : Command} (present : s.commands[index]? = some old)
    (member : command ∈ s.commands) (other : command.stage ≠ old.stage) : command ∈ (s.setStage index stage).commands := by
  obtain ⟨place,found⟩ := List.mem_iff_getElem?.mp member
  have apart : index ≠ place := by
    rintro rfl
    rw [present] at found
    cases found
    exact other rfl
  exact List.mem_of_getElem? ((setStage_apart apart).trans found)

def Written (s : State) (n k : Nat) : Prop :=
  ∃ command ∈ s.commands, ∃ result, command.stage = .written result k ∧ result.sensorId.toNat = n

theorem written_setStage {index n k : Nat} {stage : Stage} {old : Command} (present : s.commands[index]? = some old)
    (before : ∀ result k, old.stage ≠ .written result k) (after : ∀ result k, stage ≠ .written result k) :
    (s.setStage index stage).Written n k ↔ s.Written n k := by
  constructor
  · rintro ⟨command,member,result,written,sensor⟩
    rcases mem_setStage member with old | ⟨_,_,rfl⟩
    · exact ⟨command,old,result,written,sensor⟩
    · exact absurd written (after result k)
  · rintro ⟨command,member,result,written,sensor⟩
    refine ⟨command,setStage_mem present member ?_,result,written,sensor⟩
    rw [written]
    exact fun same => before result k same.symm

theorem written_write {index n k response : Nat} {result : DisplayResult} {old : Command} (present : s.commands[index]? = some old)
    (before : ∀ result k, old.stage ≠ .written result k) :
    (s.setStage index (.written result response)).Written n k ↔ s.Written n k ∨ (n = result.sensorId.toNat ∧ k = response) := by
  constructor
  · rintro ⟨command,member,other,written,sensor⟩
    rcases mem_setStage member with old | ⟨_,_,rfl⟩
    · exact .inl ⟨command,old,other,written,sensor⟩
    · cases written
      exact .inr ⟨sensor.symm,rfl⟩
  · rintro (⟨command,member,other,written,sensor⟩ | ⟨rfl,rfl⟩)
    · refine ⟨command,setStage_mem present member ?_,other,written,sensor⟩
      rw [written]
      exact fun same => before other k same.symm
    · have now : (s.setStage index (.written result k)).commands[index]? = some { old with stage := .written result k } := by
        rw [setStage_here,present]
        rfl
      exact ⟨_,List.mem_of_getElem? now,result,rfl,rfl⟩

theorem latest_iff {response : Nat} {concerns : Nat → Bool} :
    s.latest response concerns = true ↔
      s.measured ≤ response ∧ ∀ n k, s.Written n k → concerns n = true → k ≤ response := by
  simp only [latest,Bool.and_eq_true,decide_eq_true_eq,List.all_eq_true]
  refine and_congr_right fun _ => ⟨?_,?_⟩
  · rintro all n k ⟨command,member,result,written,rfl⟩ concerned
    have older := all command member
    rw [written] at older
    simpa [concerned] using older
  · intro all command member
    split
    · rename_i result later written
      cases concerned : concerns result.sensorId.toNat with
      | false => rfl
      | true => simpa using all _ _ ⟨command,member,result,written,rfl⟩ concerned
    · rfl

def replaced (snapshot : Protocol.CurrentSnapshot) (result : DisplayResult) (response : Nat) : State :=
  { s with
    snapshot := some { snapshot with sensors := snapshot.sensors.map (replaceDisplay result) }
    shown := Function.update s.shown result.sensorId.toNat response }

theorem replaced_here (snapshot : Protocol.CurrentSnapshot) (result : DisplayResult) (response : Nat) :
    (s.replaced snapshot result response).shown result.sensorId.toNat = response := Function.update_self _ _ _

theorem replaced_apart (snapshot : Protocol.CurrentSnapshot) {result : DisplayResult} (response : Nat)
    (apart : n ≠ result.sensorId.toNat) : (s.replaced snapshot result response).shown n = s.shown n :=
  Function.update_of_ne apart _ _

inductive Effect (s : State) : Action → State → Prop where
  | rests (ready : Bool) (snapshot : Option Protocol.CurrentSnapshot) (commands : List Command) :
      s.inTime action = true → snapshot = s.snapshot ∨ snapshot = none →
      (∀ command ∈ commands, command ∈ s.commands ∨ ∀ k, command.stage.response ≠ some k) →
      (∀ n k, { s with commands := commands }.Written n k ↔ s.Written n k) →
      Effect s action { s with ready := ready, snapshot := snapshot, commands := commands }
  | answers (response : Received) (index : Nat) (old : Command) (stage : Stage) : s.inTime action = true →
      s.commands[index]? = some old → (∀ result k, old.stage ≠ .written result k) → (∀ result k, stage ≠ .written result k) →
      stage.Reported (s.receive response).received →
      Effect s action ((s.receive response).setStage index stage)
  | publishes (snapshot : Protocol.CurrentSnapshot) : s.inTime action = true →
      Effect s action ((s.receive (.snapshot snapshot)).publishCurrentSnapshot snapshot (s.count + 1))
  | confirms (index : Nat) (command : Command) (confirmation : Protocol.CurrentSnapshot) (response : Nat) (result : DisplayResult) :
      s.commands[index]? = some command → command.stage = .confirmed confirmation response →
      confirmedResult command confirmation = some result → s.inTime action = s.latest response (fun _ => true) →
      Effect s action ((s.publishCurrentSnapshot confirmation response).setStage index (.persisting result response))
  | writes (index : Nat) (command : Command) (result : DisplayResult) (response : Nat) (snapshot : Protocol.CurrentSnapshot) :
      s.commands[index]? = some command → command.stage = .persisting result response → s.snapshot = some snapshot →
      s.shows result.sensorId.toNat = true → s.inTime action = s.latest response (· = result.sensorId.toNat) →
      Effect s action ((s.replaced snapshot result response).setStage index (.written result response))

theorem inTime_persisted {index : Nat} {command : Command} (present : s.commands[index]? = some command)
    (stage : command.stage = .persisting result response) :
    s.inTime (.persisted index) = (!s.shows result.sensorId.toNat || s.latest response (· = result.sensorId.toNat)) := by
  rw [inTime,present,Option.all_some,stage]

theorem inTime_confirmation {index : Nat} {command : Command} (present : s.commands[index]? = some command)
    (stage : command.stage = .confirmed confirmation response) : s.inTime (.confirmationHandled index) =
      ((confirmedResult command confirmation).isNone || s.latest response fun _ => true) := by
  rw [inTime,present,Option.all_some,stage]

theorem rests_setStage {index : Nat} {old : Command} {stage : Stage} (timely : s.inTime action = true)
    (present : s.commands[index]? = some old) (before : ∀ result k, old.stage ≠ .written result k)
    (idle : ∀ k, stage.response ≠ some k) : Effect s action (s.setStage index stage) := by
  refine .rests s.ready s.snapshot _ timely (.inl rfl) (fun command member => ?_) fun n k => ?_
  · rcases mem_setStage member with known | ⟨_,_,rfl⟩
    · exact .inl known
    · exact .inr idle
  · refine written_setStage present before fun result k same => ?_
    rw [same] at idle
    exact idle k rfl

theorem replaceDisplay_absent {result : DisplayResult} {snapshot : Protocol.CurrentSnapshot} (found : s.snapshot = some snapshot)
    (absent : s.shows result.sensorId.toNat = false) : snapshot.sensors.map (replaceDisplay result) = snapshot.sensors := by
  rw [shows,found,Option.any_some,List.any_eq_false] at absent
  refine (List.map_congr_left fun sensor member => ?_).trans (List.map_id _)
  have other := absent sensor member
  rw [replaceDisplay,if_neg (by simpa using other)]
  rfl

theorem persisted_effect {index : Nat} {command : Command} (present : s.commands[index]? = some command)
    (ran : s.persisted index command = some next) : Effect s (.persisted index) next := by
  unfold persisted at ran
  split at ran
  · rename_i result response stage
    cases ran
    have timely := inTime_persisted present stage
    have waiting : ∀ result k, command.stage ≠ .written result k := by
      rw [stage]
      nofun
    unfold updateCachedDisplay
    cases shown : s.shows result.sensorId.toNat with
    | false =>
      rw [shown] at timely
      have quiet : Effect s (.persisted index) (s.setStage index .returned) := rests_setStage timely present waiting (by nofun)
      split
      · exact quiet
      · rename_i snapshot found
        rw [replaceDisplay_absent found shown,← found]
        exact quiet
    | true =>
      rw [shown] at timely
      split
      · rename_i missing
        rw [shows,missing] at shown
        cases shown
      · rename_i snapshot found
        exact .writes index command result response snapshot present stage found shown timely
  · cases ran

theorem confirmationHandled_effect {index : Nat} {command : Command} (present : s.commands[index]? = some command)
    (ran : s.confirmationHandled index command = some next) : Effect s (.confirmationHandled index) next := by
  unfold confirmationHandled at ran
  split at ran
  · rename_i confirmation response stage
    have timely := inTime_confirmation present stage
    split at ran
    · rename_i refused
      cases ran
      rw [refused] at timely
      refine rests_setStage timely present ?_ (by nofun)
      rw [stage]
      nofun
    · rename_i result agreed
      cases ran
      rw [agreed] at timely
      exact .confirms index command confirmation response result present stage agreed timely
  · cases ran

theorem step_effect (stepped : s.step action = some next) : Effect s action next := by
  -- A command that waits for the device has written nothing.
  have unwritten {command : Command} {stage : Stage} (waits : command.stage = stage) (idle : stage.response = none) :
      ∀ result k, command.stage ≠ .written result k := by
    rintro result k written
    rw [← waits,written] at idle
    cases idle
  cases action with
  | setReady ready =>
    cases stepped
    exact .rests ready s.snapshot s.commands rfl (.inl rfl) (fun _ member => .inl member) fun _ _ => Iff.rfl
  | setDisplay sensorId enabled =>
    dsimp only [step] at stepped
    split at stepped
    · cases stepped
      refine .rests s.ready s.snapshot _ rfl (.inl rfl) (fun command member => ?_) fun n k => ⟨?_,?_⟩
      · rcases List.mem_append.mp member with old | new
        · exact .inl old
        · rw [List.mem_singleton.mp new]
          exact .inr nofun
      · rintro ⟨command,member,result,written,sensor⟩
        rcases List.mem_append.mp member with old | new
        · exact ⟨command,old,result,written,sensor⟩
        · rw [List.mem_singleton.mp new] at written
          cases written
      · rintro ⟨command,member,result,written,sensor⟩
        exact ⟨command,List.mem_append_left _ member,result,written,sensor⟩
    · cases stepped
  | displayed index result =>
    obtain ⟨command,present,ran⟩ := Option.bind_eq_some_iff.mp stepped
    split at ran
    · rename_i waits
      cases ran
      refine .answers _ index command _ rfl present (unwritten waits rfl) (by nofun) ⟨.display result,?_,rfl,rfl,rfl⟩
      exact Function.update_self _ _ _
    · cases ran
  | timedOut index =>
    obtain ⟨command,present,ran⟩ := Option.bind_eq_some_iff.mp stepped
    split at ran
    · rename_i waits
      cases ran
      exact rests_setStage rfl present (unwritten waits rfl) (by nofun)
    · cases ran
  | confirmationReceived index confirmation =>
    obtain ⟨command,present,ran⟩ := Option.bind_eq_some_iff.mp stepped
    split at ran
    · rename_i waits
      cases ran
      refine .answers _ index command _ rfl present (unwritten waits rfl) (by nofun) ?_
      exact Function.update_self _ _ _
    · cases ran
  | confirmationHandled index =>
    obtain ⟨command,present,ran⟩ := Option.bind_eq_some_iff.mp stepped
    exact confirmationHandled_effect present ran
  | failed index =>
    obtain ⟨command,present,ran⟩ := Option.bind_eq_some_iff.mp stepped
    split at ran
    · rename_i waits
      cases ran
      refine rests_setStage rfl present ?_ (by nofun)
      rcases waits with requested | confirming
      · exact unwritten requested rfl
      · exact unwritten confirming rfl
    · cases ran
  | persisted index =>
    obtain ⟨command,present,ran⟩ := Option.bind_eq_some_iff.mp stepped
    exact persisted_effect present ran
  | current snapshot =>
    cases stepped
    exact .publishes snapshot rfl
  | missing =>
    cases stepped
    exact .rests s.ready none s.commands rfl (.inr rfl) (fun _ member => .inl member) fun _ _ => Iff.rfl

structure Sound (s : State) : Prop where
  ahead : ∀ k, s.count < k → s.received k = none
  measured : s.measured ≤ s.count
  shown : ∀ n, s.shown n ≤ s.count
  reported : ∀ command ∈ s.commands, command.stage.Reported s.received
  displays : ∀ snapshot, s.snapshot = some snapshot → ∀ sensor ∈ snapshot.sensors, ∃ response,
    s.received (s.shown sensor.sensorId) = some response ∧
      response.Displays sensor.sensorId sensor.visibleState sensor.displayEnabled
  temperatures : ∀ snapshot, s.snapshot = some snapshot → ∃ current, s.received s.measured = some (.snapshot current) ∧
    ∀ sensor ∈ snapshot.sensors, ∃ other ∈ current.sensors,
      other.sensorId = sensor.sensorId ∧ other.temperatureC = sensor.temperatureC

theorem sound_initial : initial.Sound :=
  ⟨fun _ _ => rfl,Nat.le_refl _,fun _ => Nat.le_refl _,by nofun,by nofun,by nofun⟩

theorem Sound.receives (sound : s.Sound) {k : Nat} {old : Received} (known : s.received k = some old) (response : Received) :
    (s.receive response).received k = some old := by
  have other : k ≠ s.count + 1 := by
    rintro rfl
    rw [sound.ahead _ (Nat.lt_succ_self _)] at known
    cases known
  exact (Function.update_of_ne other _ _).trans known

theorem Sound.numbered (sound : s.Sound) {k : Nat} {response : Received} (known : s.received k = some response) : k ≤ s.count := by
  by_cases small : k ≤ s.count
  · exact small
  · rw [sound.ahead k (Nat.lt_of_not_le small)] at known
    cases known

theorem Sound.receive_reported (sound : s.Sound) {stage : Stage} (reported : stage.Reported s.received) (response : Received) :
    stage.Reported (s.receive response).received := by
  cases stage with
  | confirmed confirmation k => exact sound.receives reported response
  | persisting result k | written result k =>
    obtain ⟨old,known,displays⟩ := reported
    exact ⟨old,sound.receives known response,displays⟩
  | _ => trivial

theorem Sound.receive (sound : s.Sound) (response : Received) : (s.receive response).Sound where
  ahead k above := by
    have other : k ≠ s.count + 1 := Nat.ne_of_gt above
    exact (Function.update_of_ne other _ _).trans (sound.ahead k (Nat.lt_of_succ_lt above))
  measured := Nat.le_succ_of_le sound.measured
  shown n := Nat.le_succ_of_le (sound.shown n)
  reported command member := sound.receive_reported (sound.reported command member) response
  displays snapshot cached sensor member := by
    obtain ⟨old,known,displays⟩ := sound.displays snapshot cached sensor member
    exact ⟨old,sound.receives known response,displays⟩
  temperatures snapshot cached := by
    obtain ⟨current,known,same⟩ := sound.temperatures snapshot cached
    exact ⟨current,sound.receives known response,same⟩

theorem Sound.setStage (sound : s.Sound) (index : Nat) {stage : Stage} (reported : stage.Reported s.received) :
    (s.setStage index stage).Sound := by
  refine ⟨sound.ahead,sound.measured,sound.shown,fun command member => ?_,sound.displays,sound.temperatures⟩
  rcases mem_setStage member with old | ⟨_,_,rfl⟩
  · exact sound.reported command old
  · exact reported

theorem Sound.publish (sound : s.Sound) {snapshot : Protocol.CurrentSnapshot} {k : Nat}
    (known : s.received k = some (.snapshot snapshot)) : (s.publishCurrentSnapshot snapshot k).Sound := by
  have small := sound.numbered known
  refine ⟨sound.ahead,small,fun _ => small,sound.reported,?_,?_⟩
  · rintro _ ⟨⟩ sensor member
    exact ⟨_,known,sensor,member,rfl,rfl,rfl⟩
  · rintro _ ⟨⟩
    exact ⟨snapshot,known,fun sensor member => ⟨sensor,member,rfl,rfl⟩⟩

theorem Sound.write (sound : s.Sound) {snapshot : Protocol.CurrentSnapshot} {result : DisplayResult} {k : Nat} {response : Received}
    (cached : s.snapshot = some snapshot) (known : s.received k = some response)
    (displays : response.Displays result.sensorId.toNat result.visibleState result.displayEnabled) :
    (s.replaced snapshot result k).Sound := by
  refine ⟨sound.ahead,sound.measured,fun n => ?_,sound.reported,?_,?_⟩
  · by_cases here : n = result.sensorId.toNat
    · rw [here,replaced_here]
      exact sound.numbered known
    · rw [replaced_apart snapshot k here]
      exact sound.shown n
  · rintro _ ⟨⟩ sensor member
    obtain ⟨before,old,rfl⟩ := List.mem_map.mp member
    by_cases here : before.sensorId = result.sensorId.toNat
    · rw [replaceDisplay,if_pos here]
      refine ⟨response,?_,here ▸ displays⟩
      dsimp only
      rw [here,replaced_here]
      exact known
    · rw [replaceDisplay,if_neg here]
      obtain ⟨response,shown,displays⟩ := sound.displays snapshot cached before old
      refine ⟨response,?_,displays⟩
      rw [replaced_apart snapshot k here]
      exact shown
  · rintro _ ⟨⟩
    obtain ⟨current,known,same⟩ := sound.temperatures snapshot cached
    refine ⟨current,known,fun sensor member => ?_⟩
    obtain ⟨before,old,rfl⟩ := List.mem_map.mp member
    obtain ⟨other,among,number,temperature⟩ := same before old
    refine ⟨other,among,?_,?_⟩
    · rw [replaceDisplay]
      split <;> exact number
    · rw [replaceDisplay]
      split <;> exact temperature

theorem confirmedResult_displays {command : Command} {confirmation : Protocol.CurrentSnapshot}
    (agreed : confirmedResult command confirmation = some result) :
    (Received.snapshot confirmation).Displays result.sensorId.toNat result.visibleState result.displayEnabled := by
  obtain ⟨sensor,found,agreed⟩ := Option.bind_eq_some_iff.mp agreed
  split at agreed
  · cases agreed
    have number : sensor.sensorId = command.sensorId.toNat := by simpa using List.find?_some found
    exact ⟨sensor,List.mem_of_find?_eq_some found,number,rfl,rfl⟩
  · cases agreed

theorem Sound.step (sound : s.Sound) (stepped : s.step action = some next) : next.Sound := by
  cases step_effect stepped with
  | rests ready snapshot commands _ cached old _ =>
    have reported : ∀ command ∈ commands, command.stage.Reported s.received := by
      intro command member
      rcases old command member with known | idle
      · exact sound.reported command known
      · cases stage : command.stage with
        | confirmed confirmation k | persisting result k | written result k =>
          rw [stage] at idle
          exact absurd rfl (idle k)
        | _ => trivial
    refine ⟨sound.ahead,sound.measured,sound.shown,reported,?_,?_⟩
    · intro present held
      rcases cached with rfl | rfl
      · exact sound.displays present held
      · cases held
    · intro present held
      rcases cached with rfl | rfl
      · exact sound.temperatures present held
      · cases held
  | answers response index _ stage _ _ _ _ reported => exact (sound.receive response).setStage index reported
  | publishes snapshot _ =>
    exact (sound.receive (.snapshot snapshot)).publish (Function.update_self _ _ _)
  | confirms index command confirmation response result present stage agreed _ =>
    have known : command.stage.Reported s.received := sound.reported command (List.mem_of_getElem? present)
    rw [stage] at known
    exact (sound.publish known).setStage index ⟨_,known,confirmedResult_displays agreed⟩
  | writes index command result response snapshot present stage cached _ _ =>
    have reported : command.stage.Reported s.received := sound.reported command (List.mem_of_getElem? present)
    rw [stage] at reported
    obtain ⟨received,known,displays⟩ := reported
    exact (sound.write cached known displays).setStage index ⟨received,known,displays⟩

structure Ordered (s : State) : Prop where
  measured : ∀ n, s.measured ≤ s.shown n
  written : ∀ n k, s.Written n k → k ≤ s.shown n
  origin : ∀ n, s.shown n = s.measured ∨ s.Written n (s.shown n)

theorem ordered_initial : initial.Ordered :=
  ⟨fun _ => Nat.le_refl _,fun _ _ ⟨_,member,_⟩ => (List.not_mem_nil member).elim,fun _ => .inl rfl⟩

theorem Ordered.shown_le (ordered : s.Ordered) {response : Nat} {concerns : Nat → Bool}
    (latest : s.latest response concerns = true) (concerned : concerns n = true) : s.shown n ≤ response := by
  obtain ⟨newer,written⟩ := latest_iff.mp latest
  rcases ordered.origin n with same | wrote
  · rw [same]
    exact newer
  · exact written n _ wrote concerned

theorem Ordered.shown_gt (ordered : s.Ordered) {response : Nat} {concerns : Nat → Bool}
    (overtaken : s.latest response concerns = false) (concerned : concerns m = true) :
    ∃ n, concerns n = true ∧ response < s.shown n := by
  by_cases newer : s.measured ≤ response
  · have some : ∃ n k, s.Written n k ∧ concerns n = true ∧ response < k := by
      by_contra none
      refine Bool.eq_false_iff.mp overtaken (latest_iff.mpr ⟨newer,fun n k written concerned => ?_⟩)
      by_contra above
      exact none ⟨n,k,written,concerned,Nat.lt_of_not_le above⟩
    obtain ⟨n,k,written,concerned,above⟩ := some
    exact ⟨n,concerned,Nat.lt_of_lt_of_le above (ordered.written n k written)⟩
  · exact ⟨m,concerned,Nat.lt_of_lt_of_le (Nat.lt_of_not_le newer) (ordered.measured m)⟩

theorem Ordered.step (sound : s.Sound) (ordered : s.Ordered) (timely : s.inTime action = true) (stepped : s.step action = some next) :
    next.Ordered ∧ ∀ n, s.shown n ≤ next.shown n := by
  cases step_effect stepped with
  | rests ready snapshot commands _ _ _ same =>
    refine ⟨⟨ordered.measured,fun n k wrote => ordered.written n k ((same n k).mp wrote),fun n => ?_⟩,fun n => Nat.le_refl _⟩
    exact (ordered.origin n).imp_right (same n _).mpr
  | answers response index old stage _ present before after _ =>
    have same (n k : Nat) : ((s.receive response).setStage index stage).Written n k ↔ s.Written n k :=
      written_setStage (s := s.receive response) present before after
    refine ⟨⟨ordered.measured,fun n k wrote => ordered.written n k ((same n k).mp wrote),fun n => ?_⟩,fun n => Nat.le_refl _⟩
    exact (ordered.origin n).imp_right (same n _).mpr
  | publishes snapshot _ =>
    have newer (n : Nat) : s.shown n ≤ s.count + 1 := Nat.le_succ_of_le (sound.shown n)
    refine ⟨⟨fun n => Nat.le_refl _,fun n k wrote => ?_,fun n => .inl rfl⟩,newer⟩
    exact Nat.le_trans (ordered.written n k wrote) (newer n)
  | confirms index command confirmation response result present stage _ same =>
    have latest : s.latest response (fun _ => true) = true := same ▸ timely
    have kept (n k : Nat) : ((s.publishCurrentSnapshot confirmation response).setStage index (.persisting result response)).Written n k ↔
        s.Written n k := by
      refine written_setStage (s := s.publishCurrentSnapshot confirmation response) present ?_ (by nofun)
      rw [stage]
      nofun
    refine ⟨⟨fun n => Nat.le_refl _,fun n k wrote => ?_,fun n => .inl rfl⟩,fun n => ordered.shown_le latest rfl⟩
    exact (latest_iff.mp latest).2 n k ((kept n k).mp wrote) rfl
  | writes index command result response snapshot present stage _ _ same =>
    have latest : s.latest response (· = result.sensorId.toNat) = true := same ▸ timely
    have newer : s.shown result.sensorId.toNat ≤ response := ordered.shown_le latest (by simp)
    have grown (n : Nat) : s.shown n ≤ (s.replaced snapshot result response).shown n := by
      by_cases here : n = result.sensorId.toNat
      · rw [here,replaced_here]
        exact newer
      · rw [replaced_apart snapshot response here]
    have wrote (n k : Nat) : ((s.replaced snapshot result response).setStage index (.written result response)).Written n k ↔
        s.Written n k ∨ (n = result.sensorId.toNat ∧ k = response) := by
      refine written_write (s := s.replaced snapshot result response) present ?_
      rw [stage]
      nofun
    refine ⟨⟨fun n => Nat.le_trans (ordered.measured n) (grown n),fun n k late => ?_,fun n => ?_⟩,grown⟩
    · rcases (wrote n k).mp late with old | ⟨rfl,rfl⟩
      · exact Nat.le_trans (ordered.written n k old) (grown n)
      · exact Nat.le_of_eq (replaced_here snapshot result k).symm
    · by_cases here : n = result.sensorId.toNat
      · exact .inr ((wrote n _).mpr (.inr ⟨here,by rw [here]; exact replaced_here snapshot result response⟩))
      · have kept := replaced_apart (s := s) snapshot response here
        rcases ordered.origin n with same | old
        · exact .inl (kept.trans same)
        · refine .inr ((wrote n _).mpr (.inl ?_))
          change s.Written n ((s.replaced snapshot result response).shown n)
          rw [kept]
          exact old

theorem Ordered.overtaken (ordered : s.Ordered) (late : s.inTime action = false) (stepped : s.step action = some next) :
    ∃ n, next.shown n < s.shown n := by
  cases step_effect stepped with
  | rests _ _ _ timely => rw [timely] at late; cases late
  | answers _ _ _ _ timely => rw [timely] at late; cases late
  | publishes _ timely => rw [timely] at late; cases late
  | confirms index command confirmation response result present stage _ same =>
    obtain ⟨n,_,newer⟩ := ordered.shown_gt (same ▸ late) (m := 0) rfl
    exact ⟨n,newer⟩
  | writes index command result response snapshot present stage _ _ same =>
    obtain ⟨n,concerned,newer⟩ := ordered.shown_gt (same ▸ late) (m := result.sensorId.toNat) (by simp)
    have here : n = result.sensorId.toNat := by simpa using concerned
    refine ⟨n,?_⟩
    change (s.replaced snapshot result response).shown n < s.shown n
    rw [here,replaced_here]
    exact here ▸ newer

def Mixed (s : State) : Prop :=
  ∃ snapshot, s.snapshot = some snapshot ∧ ∃ sensor ∈ snapshot.sensors,
    sensor.temperatureC = none ∧ sensor.visibleState ≠ .disconnected ∧ s.shown sensor.sensorId < s.measured

def Forward (s : State) (action : Action) : Prop :=
  ∀ next, s.step action = some next → (∀ n, s.shown n ≤ next.shown n) ∧ ¬ next.Mixed

theorem Ordered.unmixed (ordered : s.Ordered) : ¬ s.Mixed := by
  intro ⟨_,_,sensor,_,_,_,older⟩
  exact Nat.not_lt_of_le (ordered.measured sensor.sensorId) older

theorem Ordered.forward (sound : s.Sound) (ordered : s.Ordered) (timely : s.inTime action = true) : Forward s action := by
  intro next stepped
  obtain ⟨kept,newer⟩ := ordered.step sound timely stepped
  exact ⟨newer,kept.unmixed⟩

theorem Ordered.inTime (ordered : s.Ordered) (stepped : s.step action = some next) (forward : Forward s action) :
    s.inTime action = true := by
  cases timely : s.inTime action with
  | true => rfl
  | false =>
    obtain ⟨n,older⟩ := ordered.overtaken timely stepped
    exact absurd ((forward next stepped).1 n) (Nat.not_le_of_lt older)

theorem forward_iff (path : Path step anyStep initial trace s) :
    ((∀ entry ∈ trace, entry.1.inTime entry.2 = true) ↔ ∀ entry ∈ trace, Forward entry.1 entry.2) ∧
      ((∀ entry ∈ trace, entry.1.inTime entry.2 = true) → s.Ordered) ∧ s.Sound := by
  induction path with
  | nil => exact ⟨⟨by nofun,by nofun⟩,fun _ => ordered_initial,sound_initial⟩
  | @snoc trace s action next prior _ stepped ih =>
    obtain ⟨same,ordered,sound⟩ := ih
    simp only [List.forall_mem_append,List.forall_mem_singleton]
    refine ⟨⟨fun ⟨before,now⟩ => ?_,fun ⟨before,now⟩ => ?_⟩,fun ⟨before,now⟩ => ?_,sound.step stepped⟩
    · exact ⟨same.mp before,(ordered before).forward sound now⟩
    · have timely := same.mpr before
      exact ⟨timely,(ordered timely).inTime stepped now⟩
    · exact ((ordered before).step sound now stepped).1

end State

open State

-- The numbers of the service are those of the responses behind the cache, and they grow at
-- every step of a run if and only if no write to the cache is overtaken.
theorem display_in_order (path : Path step anyStep initial trace s) :
    s.Sound ∧ ((∀ entry ∈ trace, entry.1.inTime entry.2 = true) ↔ ∀ entry ∈ trace, Forward entry.1 entry.2) :=
  have facts := forward_iff path
  ⟨facts.2.2,facts.1⟩

def sensorOn (temperatureC : Option Rat) : SensorSnapshot := ⟨1,temperatureC,.on,true⟩

def firstPoll : Protocol.CurrentSnapshot := ⟨7,1,[⟨1,some 21,.off,false⟩,⟨2,some 22,.off,false⟩],some (43 / 2)⟩

def unplugged : Protocol.CurrentSnapshot := ⟨7,2,[⟨1,none,.disconnected,false⟩,⟨2,some 22,.off,false⟩],none⟩

def switchOn : List Action := [.setReady true,.current firstPoll,.setDisplay 1 true,.displayed 0 ⟨1,.on,true⟩]

theorem display_in_order_switched :
    ∃ trace s, Path step anyStep initial trace s ∧ s.snapshot.any (sensorOn (some 21) ∈ ·.sensors) = true ∧
      ∀ entry ∈ trace, Forward entry.1 entry.2 := by
  have ran : (run (guarded step inTime) initial (switchOn ++ [.persisted 0])).any
      (fun s => s.snapshot.any (sensorOn (some 21) ∈ ·.sensors)) = true := by decide +kernel
  obtain ⟨trace,s,path,shown⟩ := guarded_checked ran
  have timely : ∀ entry ∈ trace, entry.1.inTime entry.2 = true := path.all_allowed
  exact ⟨trace,s,path.unrestricted,shown,(display_in_order path.unrestricted).2.mp timely⟩

-- The device reports the sensor unplugged while the database still waits.
theorem display_overtaken :
    ∃ trace s next, Path step anyStep initial trace s ∧ s.step (.persisted 0) = some next ∧
      next.shown 1 < s.shown 1 ∧ next.Mixed := by
  have ran : (run step initial (switchOn ++ [.current unplugged])).any (fun s => (s.step (.persisted 0)).any fun next =>
      decide (next.shown 1 < s.shown 1) && decide (next.shown 1 < next.measured) &&
        next.snapshot.any (sensorOn none ∈ ·.sensors)) = true := by decide +kernel
  obtain ⟨trace,s,path,checked⟩ := run_checked ran
  obtain ⟨next,stepped,facts⟩ := (Option.any_eq_true _ _).mp checked
  simp only [Bool.and_eq_true,decide_eq_true_eq] at facts
  obtain ⟨⟨back,older⟩,shown⟩ := facts
  obtain ⟨snapshot,cached,member⟩ := (Option.any_eq_true _ _).mp shown
  exact ⟨trace,s,next,path,stepped,back,snapshot,cached,sensorOn none,by simpa using member,rfl,by nofun,older⟩

end Thermometer.Client.DisplayCache
