import Thermometer.Lib.Decimal
import Thermometer.Client.HistorySync

-- database_adapter.py, with the samples that ble_service.py builds for it. The device of
-- a sample is left out, since the table has no column for it.
namespace Thermometer.Client
open Wire

inductive SensorStatus where
  | valid | disconnected | notRetrieved | missing
  deriving DecidableEq, Repr

inductive RecordSource where
  | live | history | provisional
  deriving DecidableEq, Repr

structure SensorReading where
  sensorId : Nat
  temperatureC : Option Float
  status : SensorStatus
  deriving DecidableEq

structure SampleRecord where
  observedAtUtc : Rat
  bootId : Option UInt32
  sampleSequence : Option UInt32
  sensorReadings : List SensorReading
  averageTemperatureC : Option Float
  source : RecordSource
  failureReason : Option String
  deriving DecidableEq

def SampleRecord.key (sample : SampleRecord) : Option (UInt32 × UInt32) := do
  return (← sample.bootId,← sample.sampleSequence)

structure HistoryBatch where
  samples : List SampleRecord
  deriving DecidableEq

structure PersistenceResult where
  configured : Bool
  persisted : Bool
  detail : Option String
  deriving DecidableEq, Repr

def pythonFloat (value : Rat) : Float := Float.ofInt value.num / Float.ofNat value.den

def DataStatus.name : DataStatus → SensorStatus
  | .valid => .valid
  | .disconnected => .disconnected

-- `sum(temperatures) / sensor_count`, when every sensor has a temperature.
def averageOf (readings : List SensorReading) : Option Float :=
  let temperatures := readings.filterMap (·.temperatureC)
  if temperatures.length = sensorCount then some (temperatures.foldl (· + ·) 0 / Float.ofNat sensorCount) else none

def assignRecord (entries : List (UInt32 × (SensorId → Option TimedHistoryRecord))) (record : TimedHistoryRecord) :
    List (UInt32 × (SensorId → Option TimedHistoryRecord)) :=
  let sensorRecords := (entries.find? (·.1 = record.sequence)).elim (fun _ => none) (·.2)
  OrderedMap.assign entries record.sequence (Function.update sensorRecords record.sensorId (some record))

def bySequence (records : List TimedHistoryRecord) : List (UInt32 × (SensorId → Option TimedHistoryRecord)) :=
  records.foldl assignRecord []

def historyReading (sensorRecords : SensorId → Option TimedHistoryRecord) (sensorId : SensorId) : SensorReading :=
  match sensorRecords sensorId with
  | none => ⟨sensorId.number,none,.notRetrieved⟩
  | some record => ⟨sensorId.number,record.temperatureC.map pythonFloat,DataStatus.name record.dataStatus⟩

def historySample (bootId : UInt32) (utcNow : Rat) (entry : UInt32 × (SensorId → Option TimedHistoryRecord)) : SampleRecord :=
  let readings := (List.finRange sensorCount).map (historyReading entry.2)
  let sampleTime := ((List.finRange sensorCount).filterMap entry.2).getLast?.map (·.sampledAt)
  { observedAtUtc := sampleTime.getD utcNow
    bootId := some bootId
    sampleSequence := some entry.1
    sensorReadings := readings
    averageTemperatureC := averageOf readings
    source := .history
    failureReason := none }

def buildHistoryBatch (history : HistorySync) (utcNow : Rat) : HistoryBatch :=
  let samples := (bySequence history.records).map (historySample history.historyMeta.bootId utcNow)
  ⟨samples.mergeSort fun left right => left.observedAtUtc ≤ right.observedAtUtc⟩

-- `_publish_current_snapshot`, from what the snapshot says of each sensor.
def currentSample (observedAt : Rat) (snapshot : CurrentSnapshot) (temperatureC : SensorId → Option Rat) : SampleRecord :=
  let readings := (List.finRange sensorCount).map fun sensorId : SensorId =>
    (⟨sensorId.number,(temperatureC sensorId).map pythonFloat,
      if (temperatureC sensorId).isSome then .valid else .disconnected⟩ : SensorReading)
  { observedAtUtc := observedAt
    bootId := some snapshot.bootId
    sampleSequence := some snapshot.newestSequence
    sensorReadings := readings
    averageTemperatureC := averageOf readings
    source := .live
    failureReason := none }

def missingInterval (observedAt : Rat) (reason : String) : SampleRecord where
  observedAtUtc := observedAt
  bootId := none
  sampleSequence := none
  sensorReadings := (List.finRange sensorCount).map fun sensorId => ⟨SensorId.number sensorId,none,.missing⟩
  averageTemperatureC := none
  source := .provisional
  failureReason := some reason

end Thermometer.Client
