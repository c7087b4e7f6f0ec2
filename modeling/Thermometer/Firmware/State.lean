import Thermometer.Firmware.HistoryBuffer
import Thermometer.Lib.Execution

namespace Thermometer.Firmware
open Wire

inductive VisibleState where
  | off | on | disconnected
  deriving DecidableEq, Repr

-- The macros generated from the `device` section. The limits are only required
-- to be positive; they are compared as `unsigned int`.
structure DeviceConfig where
  capacity : Capacity
  failedReadLimit : Nat
  successfulReadLimit : Nat
  failedPositive : 0 < failedReadLimit
  successfulPositive : 0 < successfulReadLimit

structure SensorSnapshot where
  temperatureCentiC : Int16
  dataStatus : DataStatus
  displayEnabled : Bool
  sequence : UInt32
  deriving DecidableEq, Repr

structure SensorRuntime (c : Capacity) where
  latest : SensorSnapshot
  history : HistoryBuffer c
  failedReads : UInt16
  successfulReads : UInt16

structure CurrentSnapshot where
  bootId : UInt32
  newestSequence : UInt32
  sensors : Fin sensorCount → SensorSnapshot
  averageCentiC : Int16
  averageValid : Bool

structure HistoryMeta where
  bootId : UInt32
  newestSequence : UInt32
  counts : Fin sensorCount → UInt16
  oldestSequences : Fin sensorCount → UInt32

structure SensorReading where
  valid : Bool
  temperatureCentiC : Int16

-- The static variables of thermometer.c. The two mutexes make every function
-- below one atomic step on them.
structure State (cfg : DeviceConfig) where
  sensors : Fin sensorCount → SensorRuntime cfg.capacity
  historySnapshot : Fin sensorCount → HistoryBuffer cfg.capacity
  historySnapshotValid : Bool
  bootId : UInt32
  latestSequence : UInt32

variable {cfg : DeviceConfig}

def sensorIsAvailable (sensor : SensorSnapshot) : Bool := sensor.dataStatus = .valid

def sensorIsVisible (sensor : SensorSnapshot) : Bool := sensorIsAvailable sensor && sensor.displayEnabled

def visibleState (sensor : SensorSnapshot) : VisibleState :=
  if !sensorIsAvailable sensor then .disconnected
  else if sensor.displayEnabled then .on else .off

-- `(int16_t)(temperature_sum / 2)`: the sum is widened, C division truncates.
def averageOf (first second : Int16) : Int16 := Int16.ofInt ((first.toInt + second.toInt).tdiv 2)

def currentSnapshot (s : State cfg) : CurrentSnapshot :=
  let sensors := fun i => (s.sensors i).latest
  let valid := sensorIsVisible (sensors 0) && sensorIsVisible (sensors 1)
  { bootId := s.bootId
    newestSequence := s.latestSequence
    sensors := sensors
    averageCentiC := if valid then averageOf (sensors 0).temperatureCentiC (sensors 1).temperatureCentiC else 0
    averageValid := valid }

-- `++counter` below UINT16_MAX, where it stays.
def saturatingIncrement (counter : UInt16) : UInt16 := if counter < 65535 then counter + 1 else counter

def applySensorReading (sensor : SensorRuntime cfg.capacity) (reading : SensorReading) :
    SensorRuntime cfg.capacity :=
  if reading.valid then
    let successfulReads := saturatingIncrement sensor.successfulReads
    let counted := { sensor with failedReads := 0, successfulReads := successfulReads }
    if sensor.latest.dataStatus = .valid ∨ cfg.successfulReadLimit ≤ successfulReads.toNat then
      let latest := { sensor.latest with temperatureCentiC := reading.temperatureCentiC, dataStatus := .valid }
      { counted with latest := latest }
    else counted
  else
    let failedReads := saturatingIncrement sensor.failedReads
    let counted := { sensor with successfulReads := 0, failedReads := failedReads }
    if cfg.failedReadLimit ≤ failedReads.toNat then
      { counted with latest := { sensor.latest with dataStatus := .disconnected } }
    else counted

def appendHistoryRecord (latestSequence : UInt32) (sensor : SensorRuntime cfg.capacity) :
    SensorRuntime cfg.capacity :=
  { sensor with
    history := sensor.history.append
      ⟨latestSequence,sensor.latest.temperatureCentiC,sensor.latest.dataStatus⟩
    latest := { sensor.latest with sequence := latestSequence } }

-- `thermometer_start` on cleared memory with the random boot identity.
def start (cfg : DeviceConfig) (bootId : UInt32) : State cfg where
  sensors := fun _ => ⟨⟨0,.disconnected,false,0⟩,.init _,0,0⟩
  historySnapshot := fun _ => .init _
  historySnapshotValid := false
  bootId := bootId
  latestSequence := 0

-- The due branch of `thermometer_state_task`.
def sampleTick (s : State cfg) : State cfg :=
  let latestSequence := s.latestSequence + 1
  { s with latestSequence := latestSequence
           sensors := fun i => appendHistoryRecord latestSequence (s.sensors i) }

-- Its other branch, a reading received from a sensor task.
def sensorEvent (s : State cfg) (index : Fin sensorCount) (reading : SensorReading) : State cfg :=
  { s with sensors := Function.update s.sensors index (applySensorReading (s.sensors index) reading) }

-- `sensor_id == 0U || sensor_id > THERMOMETER_SENSOR_COUNT` is the case `none`.
def sensorIndex (sensorId : UInt8) : Option (Fin sensorCount) :=
  if h : sensorId.toNat - 1 < sensorCount then
    if sensorId = 0 then none else some ⟨sensorId.toNat - 1,h⟩
  else none

def setEnabled (s : State cfg) (index : Fin sensorCount) (enabled : Bool) : State cfg :=
  let sensor := s.sensors index
  let shown := { sensor with latest := { sensor.latest with displayEnabled := enabled } }
  { s with sensors := Function.update s.sensors index shown }

structure DisplayOutcome where
  available : Bool
  resultingState : VisibleState
  resultingEnabled : Bool

-- `none` is the early `return false`, which leaves the result arguments alone.
def setDisplay (s : State cfg) (sensorId : UInt8) (enabled : Bool) : Option DisplayOutcome × State cfg :=
  match sensorIndex sensorId with
  | none => (none,s)
  | some index =>
    let available := sensorIsAvailable (s.sensors index).latest
    let next := if available then setEnabled s index enabled else s
    let latest := (next.sensors index).latest
    (some ⟨available,visibleState latest,latest.displayEnabled⟩,next)

@[simp] theorem setEnabled_bootId (s : State cfg) : (setEnabled s index enabled).bootId = s.bootId := rfl

@[simp] theorem setDisplay_bootId (s : State cfg) : (setDisplay s sensorId enabled).2.bootId = s.bootId := by
  unfold setDisplay
  split
  · rfl
  · dsimp only; split <;> rfl

def toggleDisplay (s : State cfg) (sensorId : UInt8) : Bool × State cfg :=
  match sensorIndex sensorId with
  | none => (false,s)
  | some index =>
    let latest := (s.sensors index).latest
    if sensorIsAvailable latest then (true,setEnabled s index !latest.displayEnabled) else (false,s)

def getHistoryMeta (s : State cfg) : HistoryMeta × State cfg :=
  let snapshot := fun i => (s.sensors i).history
  ({ bootId := s.bootId
     newestSequence := s.latestSequence
     counts := fun i => (snapshot i).count
     oldestSequences := fun i => (snapshot i).oldestSequence },
   { s with historySnapshot := snapshot, historySnapshotValid := true })

def copyHistory (s : State cfg) (sensorId : UInt8) (startSequence : UInt32) (requestedCount : Nat) :
    Option (List HistoryRecord) :=
  match sensorIndex sensorId with
  | none => none
  | some index =>
    (if s.historySnapshotValid then s.historySnapshot index else (s.sensors index).history).copy
      startSequence requestedCount

inductive Event where
  | tick
  | reading (index : Fin sensorCount) (reading : SensorReading)
  | setDisplay (sensorId : UInt8) (enabled : Bool)
  | toggleDisplay (sensorId : UInt8)
  | getCurrent
  | getHistoryMeta
  | copyHistory (sensorId : UInt8) (startSequence : UInt32) (requestedCount : Nat)

def step (s : State cfg) : Event → State cfg
  | .tick => sampleTick s
  | .reading index reading => sensorEvent s index reading
  | .setDisplay sensorId enabled => (setDisplay s sensorId enabled).2
  | .toggleDisplay sensorId => (toggleDisplay s sensorId).2
  | .getCurrent => s
  | .getHistoryMeta => (getHistoryMeta s).2
  | .copyHistory .. => s

theorem step_bootId (s : State cfg) (event : Event) : (step s event).bootId = s.bootId := by
  cases event with
  | toggleDisplay sensorId =>
    simp only [step,toggleDisplay]
    split
    · rfl
    · split <;> rfl
  | setDisplay sensorId enabled => exact setDisplay_bootId s
  | _ => rfl

def run (s : State cfg) (events : List Event) : State cfg := events.foldl step s

theorem run_bootId (s : State cfg) (events : List Event) : (run s events).bootId = s.bootId := by
  induction events generalizing s with
  | nil => rfl
  | cons event rest ih => exact (ih (step s event)).trans (step_bootId s event)

end Thermometer.Firmware
