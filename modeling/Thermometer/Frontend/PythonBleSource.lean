import Mathlib.Algebra.Order.Ring.Rat
import Thermometer.Lib.Execution

-- pythonBleSource.ts, what it uses of bleMap.ts, and useThermometer.ts, the hook that listens to it.
-- A step is what the page's event loop does at once: a call, a timer, or what runs once a reply is there.
namespace Thermometer.Frontend.DataSource
open Execution

inductive SensorId where
  | one
  | two
  deriving DecidableEq

def SensorId.number : SensorId → Int
  | .one => 1
  | .two => 2

def sensorOf (number : Int) : Option SensorId :=
  if number = 1 then some .one else if number = 2 then some .two else none

inductive SwitchState where
  | on
  | off
  deriving DecidableEq

inductive SampleStatus where
  | valid
  | disconnected
  | notRetrieved
  | missing
  deriving DecidableEq

structure SensorReading where
  sensorId : SensorId
  celsius : Option Rat
  connected : Bool
  enabled : Bool
  deriving DecidableEq

structure ThermometerFrame where
  timestamp : Int
  switchState : SwitchState
  readings : SensorId → SensorReading

structure BleStatus where
  phase : String
  connected : Bool
  ready : Bool
  target : Option (String × String)
  lastError : Option String
  displays : Option (List (Int × Bool))

-- A temperature as the samples API may send it.
inductive Cell where
  | null
  | number (value : Rat)
  | text (value : String)

structure SampleRow where
  observedAtUtc : String
  celsius : SensorId → Cell
  status : SensorId → SampleStatus

-- `Date.parse` and `Number`, where they give a finite number.
structure JavaScript where
  dateParse : String → Option Int
  number : String → Option Rat

variable (js : JavaScript)

def celsiusOrNull : Cell → Option Rat
  | .null => none
  | .number value => some value
  | .text value => if value = "" then none else js.number value

def readingFromSample (celsiusRaw : Cell) (status : SampleStatus) (enabled : Bool) (id : SensorId) : SensorReading := {
  sensorId := id
  celsius := if status = .valid then celsiusOrNull js celsiusRaw else none
  connected := status ≠ .disconnected
  enabled := enabled }

def frameFromSample (row : SampleRow) (displays : SensorId → Bool) (switchState : SwitchState) (now : Int) : ThermometerFrame := {
  timestamp := (js.dateParse row.observedAtUtc).getD now
  switchState := switchState
  readings := fun id => readingFromSample js (row.celsius id) (row.status id) (displays id) id }

def offlineFrame (now : Int) : ThermometerFrame := {
  timestamp := now
  switchState := .off
  readings := fun id => ⟨id,none,false,false⟩ }

def offlineStatus : BleStatus := ⟨"DISCOVERING",false,false,none,none,none⟩

def windowS : Int := 320
def historyMs : Int := (windowS + 10) * 1000

structure Override where
  enabled : Bool
  heldUntil : Int

-- What waits for a reply: the three requests of a tick, a display command, or one of
-- connect, disconnect and reconnect with the status request after it.
inductive Waiting where
  | status
  | latest
  | history
  | display (id : SensorId) (enabled : Bool)
  | control
  | controlStatus
  deriving DecidableEq

structure ThermometerState where
  frame : ThermometerFrame
  history : List ThermometerFrame

structure Page where
  now : Int
  last : ThermometerFrame
  history : List ThermometerFrame
  lastStatus : BleStatus
  displays : SensorId → Bool
  displayLocks : SensorId → Bool
  confirmedOverrides : SensorId → Option Override
  lastSample : Option SampleRow
  timer : Bool
  inFlight : Bool
  waiting : List Waiting
  -- what the callers' promises were rejected with
  rejections : List String
  subscribed : Bool
  state : ThermometerState

def opened (now : Int) : Page := {
  now := now
  last := offlineFrame now
  history := []
  lastStatus := offlineStatus
  displays := fun _ => true
  displayLocks := fun _ => false
  confirmedOverrides := fun _ => none
  lastSample := none
  timer := false
  inFlight := false
  waiting := []
  rejections := []
  subscribed := false
  state := ⟨offlineFrame now,[]⟩ }

namespace Page

def getHistory (s : Page) (seconds : Int) : List ThermometerFrame :=
  s.history.filter fun frame => s.now - seconds * 1000 ≤ frame.timestamp

def trim (history : List ThermometerFrame) (now : Int) : List ThermometerFrame :=
  history.dropWhile fun frame => frame.timestamp < now - windowS * 1000

def listener (s : Page) (frame : ThermometerFrame) : Page :=
  let seeded := s.getHistory windowS
  { s with state := ⟨frame,trim (if seeded = [] then s.state.history ++ [frame] else seeded) frame.timestamp⟩ }

def emit (s : Page) (frame : ThermometerFrame) : Page := if s.subscribed then s.listener frame else s

def current (s : Page) : ThermometerFrame :=
  match s.lastSample with
  | some row => frameFromSample js row s.displays (if s.lastStatus.ready then .on else .off) s.now
  | none => offlineFrame s.now

def windowed (s : Page) : Page := { s with
  last := s.current js
  history := s.history.dropWhile fun frame => frame.timestamp < s.now - historyMs }

def updateFrame (s : Page) : Page := (s.windowed js).emit (s.windowed js).last

def tick (s : Page) : Page :=
  if s.inFlight then s else { s with inFlight := true, waiting := s.waiting ++ [.status] }

def takes (s : Page) (id : SensorId) (enabled : Bool) : Bool :=
  !s.displayLocks id && !(s.confirmedOverrides id).any fun confirmed => confirmed.enabled ≠ enabled ∧ s.now < confirmed.heldUntil

def showDisplay (s : Page) (display : Int × Bool) : Page :=
  match sensorOf display.1 with
  | none => s
  | some id =>
    if s.takes id display.2 then { s with
      confirmedOverrides := Function.update s.confirmedOverrides id none
      displays := Function.update s.displays id display.2 }
    else s

def statusReplied (s : Page) : Except String BleStatus → Page
  | .ok status => (status.displays.getD []).foldl showDisplay { s with lastStatus := status }
  | .error _ => { s with lastStatus := { offlineStatus with lastError := some "status unreachable" } }

def latestReplied (s : Page) : Except String (Option SampleRow) → Page
  | .ok row => { s with lastSample := row }
  | .error _ => { s with lastSample := none }

def appendFrame (history : List ThermometerFrame) (frame : ThermometerFrame) : List ThermometerFrame :=
  match history.getLast? with
  | none => history ++ [frame]
  | some last =>
    if last.timestamp < frame.timestamp then history ++ [frame]
    else if last.timestamp = frame.timestamp then history.dropLast ++ [frame]
    else history

def readHistory (s : Page) : Except String (List SampleRow) → List ThermometerFrame
  | .ok rows => rows.map fun row => frameFromSample js row s.displays .on s.now
  | .error _ => s.history

def receivedHistory (s : Page) (reply : Except String (List SampleRow)) : List ThermometerFrame :=
  match s.lastSample with
  | some row => appendFrame (s.readHistory js reply) (frameFromSample js row s.displays .on s.now)
  | none => s.readHistory js reply

def historyReplied (s : Page) (reply : Except String (List SampleRow)) : Page :=
  { { s with history := s.receivedHistory js reply }.updateFrame js with inFlight := false }

def setSensorEnabled (s : Page) (id : SensorId) (enabled : Bool) : Page :=
  if s.displayLocks id then s
  else { s with displayLocks := Function.update s.displayLocks id true, waiting := s.waiting ++ [.display id enabled] }

def unconfirmed (id : SensorId) : String :=
  "Sensor " ++ toString id.number ++ " did not confirm the requested display state"

def displayReplied (s : Page) (id : SensorId) (enabled : Bool) : Except String Bool → Page
  | .ok confirmed =>
    let shown := { s with
      displays := Function.update s.displays id confirmed
      confirmedOverrides := Function.update s.confirmedOverrides id (some ⟨confirmed,s.now + 3000⟩) }.updateFrame js
    { shown with
      displayLocks := Function.update shown.displayLocks id false
      rejections := if confirmed = enabled then shown.rejections else shown.rejections ++ [unconfirmed id] }
  | .error message => { s with
      displayLocks := Function.update s.displayLocks id false
      rejections := s.rejections ++ [message] }

def controlReplied (s : Page) : Except String Unit → Page
  | .ok _ => { s with waiting := s.waiting ++ [.controlStatus] }
  | .error message => { s with rejections := s.rejections ++ [message] }

def refreshed (s : Page) : Except String BleStatus → Page
  | .ok status => { s with lastStatus := status }.updateFrame js
  | .error message => { s with rejections := s.rejections ++ [message] }

def start (s : Page) : Page := if s.timer then s else { s.tick with timer := true }

def stop (s : Page) : Page := { s with timer := false }

def mount (s : Page) : Page :=
  { s with state := ⟨s.last,trim (s.getHistory windowS) s.now⟩, subscribed := true }.start

def resume (s : Page) (waited : Waiting) (continuation : Page → Page) : Option Page :=
  if waited ∈ s.waiting then some (continuation { s with waiting := s.waiting.erase waited }) else none

end Page

inductive Event where
  | pass (elapsed : Nat)
  | mount
  | unmount
  | start
  | stop
  | timer
  | setSensorEnabled (id : SensorId) (enabled : Bool)
  | control
  | status (reply : Except String BleStatus)
  | latest (reply : Except String (Option SampleRow))
  | history (reply : Except String (List SampleRow))
  | display (id : SensorId) (enabled : Bool) (reply : Except String Bool)
  | controlled (reply : Except String Unit)
  | refreshed (reply : Except String BleStatus)

open Page in
def step (s : Page) : Event → Option Page
  | .pass elapsed => some { s with now := s.now + elapsed }
  | .mount => some s.mount
  | .unmount => some { s with subscribed := false }
  | .start => some s.start
  | .stop => some s.stop
  | .timer => if s.timer then some s.tick else none
  | .setSensorEnabled id enabled => some (s.setSensorEnabled id enabled)
  | .control => some { s with waiting := s.waiting ++ [.control] }
  | .status reply => s.resume .status fun s => { s.statusReplied reply with waiting := s.waiting ++ [.latest] }
  | .latest reply => s.resume .latest fun s => { s.latestReplied reply with waiting := s.waiting ++ [.history] }
  | .history reply => s.resume .history fun s => s.historyReplied js reply
  | .display id enabled reply => s.resume (.display id enabled) fun s => s.displayReplied js id enabled reply
  | .controlled reply => s.resume .control fun s => s.controlReplied reply
  | .refreshed reply => s.resume .controlStatus fun s => s.refreshed js reply

namespace Page

variable {js}

theorem resume_some {s next : Page} {waited : Waiting} {continuation : Page → Page} :
    s.resume waited continuation = some next ↔
      waited ∈ s.waiting ∧ next = continuation { s with waiting := s.waiting.erase waited } := by
  unfold resume
  split <;> simp [*,eq_comm]

theorem emit_eq (s : Page) (frame : ThermometerFrame) :
    ∃ state, s.emit frame = { s with state := state } ∧ (state = s.state ∨ state.frame = frame) := by
  unfold emit
  split
  · exact ⟨_,rfl,.inr rfl⟩
  · exact ⟨_,rfl,.inl rfl⟩

theorem updateFrame_eq (s : Page) : ∃ state, s.updateFrame js = { s.windowed js with state := state } := by
  obtain ⟨state,eq,_⟩ := emit_eq (s.windowed js) (s.windowed js).last
  exact ⟨state,eq⟩

@[simp] theorem updateFrame_waiting (s : Page) : (s.updateFrame js).waiting = s.waiting := by
  obtain ⟨_,eq⟩ := updateFrame_eq s
  rw [eq]
  rfl

@[simp] theorem updateFrame_inFlight (s : Page) : (s.updateFrame js).inFlight = s.inFlight := by
  obtain ⟨_,eq⟩ := updateFrame_eq s
  rw [eq]
  rfl

@[simp] theorem updateFrame_displayLocks (s : Page) : (s.updateFrame js).displayLocks = s.displayLocks := by
  obtain ⟨_,eq⟩ := updateFrame_eq s
  rw [eq]
  rfl

@[simp] theorem updateFrame_now (s : Page) : (s.updateFrame js).now = s.now := by
  obtain ⟨_,eq⟩ := updateFrame_eq s
  rw [eq]
  rfl

@[simp] theorem updateFrame_displays (s : Page) : (s.updateFrame js).displays = s.displays := by
  obtain ⟨_,eq⟩ := updateFrame_eq s
  rw [eq]
  rfl

@[simp] theorem updateFrame_confirmedOverrides (s : Page) :
    (s.updateFrame js).confirmedOverrides = s.confirmedOverrides := by
  obtain ⟨_,eq⟩ := updateFrame_eq s
  rw [eq]
  rfl

@[simp] theorem updateFrame_last (s : Page) : (s.updateFrame js).last = s.current js := by
  obtain ⟨_,eq⟩ := updateFrame_eq s
  rw [eq]
  rfl

@[simp] theorem updateFrame_lastSample (s : Page) : (s.updateFrame js).lastSample = s.lastSample := by
  obtain ⟨_,eq⟩ := updateFrame_eq s
  rw [eq]
  rfl

@[simp] theorem updateFrame_history (s : Page) :
    (s.updateFrame js).history = s.history.dropWhile fun frame => frame.timestamp < s.now - historyMs := by
  obtain ⟨_,eq⟩ := updateFrame_eq s
  rw [eq]
  rfl

theorem statusReplied_eq (s : Page) (reply : Except String BleStatus) : ∃ status displays overrides, s.statusReplied reply =
    { s with lastStatus := status, displays := displays, confirmedOverrides := overrides } := by
  have shows : ∀ (listed : List (Int × Bool)) (s : Page), ∃ displays overrides, listed.foldl showDisplay s =
      { s with displays := displays, confirmedOverrides := overrides } := by
    intro listed
    induction listed with
    | nil => exact fun s => ⟨_,_,rfl⟩
    | cons display rest ih =>
      intro s
      obtain ⟨displays,overrides,eq⟩ := ih (s.showDisplay display)
      rw [List.foldl_cons,eq]
      unfold showDisplay
      split
      · exact ⟨_,_,rfl⟩
      · split <;> exact ⟨_,_,rfl⟩
  cases reply with
  | ok status =>
    obtain ⟨displays,overrides,eq⟩ := shows (status.displays.getD []) { s with lastStatus := status }
    exact ⟨_,_,_,eq⟩
  | error message => exact ⟨_,_,_,rfl⟩

end Page

section
open Page

variable {js : JavaScript} {s next : Page}

theorem step_status {reply : Except String BleStatus} : step js s (.status reply) = some next ↔ .status ∈ s.waiting ∧
    next = { { s with waiting := s.waiting.erase .status }.statusReplied reply with
      waiting := s.waiting.erase .status ++ [.latest] } := by
  unfold step
  exact resume_some

theorem step_latest {reply : Except String (Option SampleRow)} : step js s (.latest reply) = some next ↔ .latest ∈ s.waiting ∧
    next = { { s with waiting := s.waiting.erase .latest }.latestReplied reply with
      waiting := s.waiting.erase .latest ++ [.history] } := by
  unfold step
  exact resume_some

theorem step_history {reply : Except String (List SampleRow)} : step js s (.history reply) = some next ↔
    .history ∈ s.waiting ∧ next = { s with waiting := s.waiting.erase .history }.historyReplied js reply := by
  unfold step
  exact resume_some

theorem step_display {id : SensorId} {enabled : Bool} {reply : Except String Bool} :
    step js s (.display id enabled reply) = some next ↔ .display id enabled ∈ s.waiting ∧
      next = { s with waiting := s.waiting.erase (.display id enabled) }.displayReplied js id enabled reply := by
  unfold step
  exact resume_some

theorem step_controlled {reply : Except String Unit} : step js s (.controlled reply) = some next ↔
    .control ∈ s.waiting ∧ next = { s with waiting := s.waiting.erase .control }.controlReplied reply := by
  unfold step
  exact resume_some

theorem step_refreshed {reply : Except String BleStatus} : step js s (.refreshed reply) = some next ↔
    .controlStatus ∈ s.waiting ∧ next = { s with waiting := s.waiting.erase .controlStatus }.refreshed js reply := by
  unfold step
  exact resume_some

theorem step_timer : step js s .timer = some next ↔ s.timer = true ∧ next = s.tick := by
  simp only [step]
  split <;> simp [*,eq_comm]

end

end Thermometer.Frontend.DataSource
