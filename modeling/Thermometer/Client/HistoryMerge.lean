import Thermometer.Client.Protocol
import Thermometer.Client.MysqlAdapter

-- Repeated partial history batches against one batch of all that they retrieved.
namespace Thermometer.Client
open Wire Decimal Protocol

-- Per boot, sequence and sensor: hundredths of a degree, or nothing from a sensor that
-- was disconnected.
abbrev DeviceRecords := UInt32 → UInt32 → SensorId → Option Int16

def deviceReading (recorded : Option Int16) (sensorId : SensorId) : SensorReading :=
  ⟨sensorId.number,recorded.map fun centi => pythonFloat (centigrade centi),if recorded.isSome then .valid else .disconnected⟩

def drawnReading (recorded : SensorId → Option Int16) (retrieved : SensorId → Bool) (sensorId : SensorId) : SensorReading :=
  if retrieved sensorId then deviceReading (recorded sensorId) sensorId else ⟨sensorId.number,none,.notRetrieved⟩

def drawnSample (device : DeviceRecords) (bootId sequence : UInt32) (retrieved : SensorId → Bool) (observedAtUtc : Rat) :
    SampleRecord :=
  let readings := (List.finRange sensorCount).map (drawnReading (device bootId sequence) retrieved)
  ⟨observedAtUtc,some bootId,some sequence,readings,averageOf readings,.history,none⟩

def Drawn (device : DeviceRecords) (sample : SampleRecord) : Prop :=
  ∃ bootId sequence retrieved observedAtUtc, sample = drawnSample device bootId sequence retrieved observedAtUtc

def SampleRecord.retrieves (sample : SampleRecord) (sensorId : SensorId) : Bool :=
  sample.sensorReadings.any fun reading => reading.sensorId = sensorId.number ∧ reading.status ≠ .notRetrieved

structure Gathers (device : DeviceRecords) (batches : List HistoryBatch) (whole : HistoryBatch) : Prop where
  drawn : ∀ sample ∈ whole.samples, Drawn device sample
  single : (whole.samples.map (·.key)).Nodup
  keys : ∀ key, (∃ sample ∈ whole.samples, sample.key = key) ↔ ∃ batch ∈ batches, ∃ sample ∈ batch.samples, sample.key = key
  fields : ∀ key sensorId, (∃ sample ∈ whole.samples, sample.key = key ∧ sample.retrieves sensorId) ↔
    ∃ batch ∈ batches, ∃ sample ∈ batch.samples, sample.key = key ∧ sample.retrieves sensorId

def Recorded (device : DeviceRecords) (bootId : UInt32) (record : TimedHistoryRecord) : Prop :=
  record.temperatureC = (device bootId record.sequence record.sensorId).map centigrade ∧
  record.dataStatus = if (device bootId record.sequence record.sensorId).isSome then .valid else .disconnected

def Belongs (holds : TimedHistoryRecord → Prop) (entry : UInt32 × (SensorId → Option TimedHistoryRecord)) : Prop :=
  ∀ sensorId found, entry.2 sensorId = some found → found.sequence = entry.1 ∧ found.sensorId = sensorId ∧ holds found

theorem assignRecord_belongs {entries : List (UInt32 × (SensorId → Option TimedHistoryRecord))} {record : TimedHistoryRecord}
    (fresh : holds record) (kept : ∀ entry ∈ entries, Belongs holds entry) :
    ∀ entry ∈ assignRecord entries record, Belongs holds entry := by
  intro entry member
  rcases OrderedMap.mem_assign member with rfl | old
  · intro sensorId found present
    dsimp only at present ⊢
    by_cases same : sensorId = record.sensorId
    · subst same
      rw [Function.update_self] at present
      cases present
      exact ⟨rfl,rfl,fresh⟩
    · rw [Function.update_of_ne same] at present
      cases earlier : entries.find? (·.1 = record.sequence) with
      | none =>
        rw [earlier] at present
        cases present
      | some entry =>
        rw [earlier] at present
        obtain ⟨sequence,sensor,held⟩ := kept entry (List.mem_of_find?_eq_some earlier) sensorId found present
        have named : entry.1 = record.sequence := by simpa using List.find?_some earlier
        exact ⟨sequence.trans named,sensor,held⟩
  · exact kept entry old

theorem assignRecords_belongs {records : List TimedHistoryRecord}
    {entries : List (UInt32 × (SensorId → Option TimedHistoryRecord))} (all : ∀ record ∈ records, holds record)
    (kept : ∀ entry ∈ entries, Belongs holds entry) : ∀ entry ∈ records.foldl assignRecord entries, Belongs holds entry := by
  induction records generalizing entries with
  | nil => exact kept
  | cons record rest ih =>
    apply ih
    · exact fun other member => all other (List.mem_cons_of_mem _ member)
    · exact assignRecord_belongs (all record List.mem_cons_self) kept

theorem historyReading_drawn {device : DeviceRecords} {bootId : UInt32} {entry : UInt32 × (SensorId → Option TimedHistoryRecord)}
    (held : Belongs (Recorded device bootId) entry) (sensorId : SensorId) :
    historyReading entry.2 sensorId = drawnReading (device bootId entry.1) (fun other => (entry.2 other).isSome) sensorId := by
  unfold historyReading drawnReading
  cases present : entry.2 sensorId with
  | none => simp [present]
  | some found =>
    obtain ⟨sequence,sensor,temperature,status⟩ := held sensorId found present
    rw [sequence,sensor] at temperature status
    have retrieved : (entry.2 sensorId).isSome = true := by rw [present]; rfl
    rw [if_pos retrieved,deviceReading]
    dsimp only
    rw [temperature,status]
    cases device bootId entry.1 sensorId <;> rfl

theorem buildHistoryBatch_drawn {device : DeviceRecords} (history : HistorySync) (utcNow : Rat)
    (recorded : ∀ record ∈ history.records, Recorded device history.historyMeta.bootId record) :
    ∀ sample ∈ (buildHistoryBatch history utcNow).samples, Drawn device sample := by
  intro sample member
  obtain ⟨entry,among,rfl⟩ := List.mem_map.mp ((List.mergeSort_perm _ _).mem_iff.mp member)
  have held : Belongs (Recorded device history.historyMeta.bootId) entry := assignRecords_belongs recorded (by simp) entry among
  have readings : historyReading entry.2 =
      drawnReading (device history.historyMeta.bootId entry.1) fun other => (entry.2 other).isSome :=
    funext (historyReading_drawn held)
  refine ⟨history.historyMeta.bootId,entry.1,fun other => (entry.2 other).isSome,
    (historySample history.historyMeta.bootId utcNow entry).observedAtUtc,?_⟩
  unfold historySample drawnSample
  rw [readings]

def SampleColumns.field (columns : SampleColumns) (sensorId : SensorId) : Option Int × SensorStatus :=
  if sensorId = 0 then (columns.sensor1C,columns.sensor1Status) else (columns.sensor2C,columns.sensor2Status)

structure Measured where
  field : SensorId → Option Int × SensorStatus
  averageC : Option Int
  averageValid : Bool

def SampleColumns.measured (columns : SampleColumns) : Measured := ⟨columns.field,columns.averageC,columns.averageValid⟩

def UpsertLaw (t : TemperatureSamples) (device : DeviceRecords) : Prop :=
  ∀ batches : List HistoryBatch, (∀ batch ∈ batches, ∀ sample ∈ batch.samples, Drawn device sample) →
    ∃ after, batches.foldlM upsertHistory t = some after ∧
      (∀ row ∈ t.rows, row.recordSource ≠ .history → row ∈ after.rows) ∧
      (∀ row ∈ t.rows, row.recordSource = .history → ∃ kept ∈ after.rows, kept.id = row.id ∧ kept.key = row.key ∧
        kept.recordSource = .history ∧
        ∀ sensorId, (row.field sensorId).2 ≠ .notRetrieved → kept.field sensorId = row.field sensorId) ∧
      ∀ whole, Gathers device batches whole → ∃ once, upsertHistory t whole = some once ∧
        ∀ key, (after.stored key).map (·.measured) = (once.stored key).map (·.measured)

-- What a column keeps of a temperature, and of Python's mean of two.
def storedTemperature (centi : Int16) : Int := hundredths (pythonFloat (centigrade centi))

def storedMean (first second : Int16) : Int :=
  hundredths ((0 + pythonFloat (centigrade first) + pythonFloat (centigrade second)) / Float.ofNat sensorCount)

def deviceField (recorded : Option Int16) : Option Int × SensorStatus :=
  (recorded.map storedTemperature,if recorded.isSome then .valid else .disconnected)

-- The mean of the service rounds as the statement does.
def MeanAgrees (recorded : SensorId → Option Int16) : Prop :=
  ∀ first second, recorded 0 = some first → recorded 1 = some second →
    storedMean first second = roundedAverage (storedTemperature first) (storedTemperature second)

-- No temperature is stored under NOT_RETRIEVED that the device does not have, unless the
-- average counts it already.
def Settled (recorded : SensorId → Option Int16) (measured : Measured) : Prop :=
  ∀ sensorId left right, measured.field sensorId = (some left,.notRetrieved) → recorded sensorId = none →
    ((measured.field (sensorId + 1)).1 = some right ∨
      (measured.field (sensorId + 1)).2 = .notRetrieved ∧
        ∃ centi, recorded (sensorId + 1) = some centi ∧ right = storedTemperature centi) →
    measured.averageC = some (roundedAverage left right) ∧ measured.averageValid = true

def Mergeable (t : TemperatureSamples) (device : DeviceRecords) : Prop :=
  ∀ bootId sequence,
    match t.stored (bootId,sequence) with
    | none => MeanAgrees (device bootId sequence)
    | some row => row.recordSource = .history → Settled (device bootId sequence) row.measured

def drawnColumns (device : DeviceRecords) (bootId sequence : UInt32) (retrieved : SensorId → Bool) (observedAtUtc : Rat) :
    SampleColumns :=
  let field (sensorId : SensorId) : Option Int × SensorStatus :=
    if retrieved sensorId then deviceField (device bootId sequence sensorId) else (none,.notRetrieved)
  let average := averageOf ((List.finRange sensorCount).map (drawnReading (device bootId sequence) retrieved))
  ⟨some bootId,some sequence,storedSeconds observedAtUtc,(field 0).1,(field 0).2,(field 1).1,(field 1).2,
    average.map hundredths,average.isSome,.history,none⟩

theorem sampleParams_drawn (device : DeviceRecords) (bootId sequence : UInt32) (retrieved : SensorId → Bool) (observedAtUtc : Rat) :
    sampleParams (drawnSample device bootId sequence retrieved observedAtUtc) =
      some (drawnColumns device bootId sequence retrieved observedAtUtc) := by
  have both : List.finRange sensorCount = [0,1] := rfl
  have stored : storedTemperature = fun centi => hundredths (pythonFloat (centigrade centi)) := rfl
  rw [sampleParams,drawnSample,drawnColumns,both]
  by_cases first : retrieved 0 <;> by_cases second : retrieved 1 <;>
    simp [drawnReading,deviceReading,deviceField,first,second,SensorId.number,stored,Function.comp_def]

def retrieveField (recorded : SensorId → Option Int16) (retrieved : SensorId → Bool)
    (field : SensorId → Option Int × SensorStatus) (sensorId : SensorId) : Option Int × SensorStatus :=
  if (field sensorId).2 = .notRetrieved ∧ retrieved sensorId then deviceField (recorded sensorId) else field sensorId

def averageOfFields (field : SensorId → Option Int × SensorStatus) : Option Int :=
  match (field 0).1,(field 1).1 with
  | some first,some second => some (roundedAverage first second)
  | _,_ => none

def retrieve (recorded : SensorId → Option Int16) (retrieved : SensorId → Bool) (before : Measured) : Measured :=
  let field := retrieveField recorded retrieved before.field
  match averageOfFields field with
  | some average => ⟨field,some average,true⟩
  | none => ⟨field,before.averageC,before.averageValid⟩

def unmeasured : Measured := ⟨fun _ => (none,.notRetrieved),none,false⟩

variable {device : DeviceRecords} {bootId sequence : UInt32} {recorded : SensorId → Option Int16}
variable {retrieved more : SensorId → Bool} {field : SensorId → Option Int × SensorStatus} {before : Measured}

theorem deviceField_known (recorded : Option Int16) : (deviceField recorded).2 ≠ .notRetrieved := by
  cases recorded <;> nofun

theorem roundedAverage_comm (left right : Int) : roundedAverage left right = roundedAverage right left := by
  unfold roundedAverage
  rw [add_comm]

theorem averageOfFields_pair {sensorId : SensorId} (here : (field sensorId).1 = some left)
    (other : (field (sensorId + 1)).1 = some right) : averageOfFields field = some (roundedAverage left right) := by
  unfold averageOfFields
  rcases Fin.exists_fin_two.mp ⟨sensorId,rfl⟩ with rfl | rfl
  · have second : (field 1).1 = some right := other
    rw [here,second]
  · have first : (field 0).1 = some right := other
    rw [here,first,roundedAverage_comm]

theorem averageOfFields_some (complete : averageOfFields field = some average) (sensorId : SensorId) :
    ∃ left right, (field sensorId).1 = some left ∧ (field (sensorId + 1)).1 = some right ∧ average = roundedAverage left right := by
  unfold averageOfFields at complete
  split at complete
  · rename_i first second zero one
    cases complete
    rcases Fin.exists_fin_two.mp ⟨sensorId,rfl⟩ with rfl | rfl
    · exact ⟨first,second,zero,one,rfl⟩
    · exact ⟨second,first,one,zero,roundedAverage_comm first second⟩
  · cases complete

theorem averageOfFields_none (incomplete : averageOfFields field = none) : ∃ sensorId, (field sensorId).1 = none := by
  unfold averageOfFields at incomplete
  split at incomplete
  · cases incomplete
  · rename_i missing
    cases first : (field 0).1 with
    | none => exact ⟨0,first⟩
    | some left =>
      cases second : (field 1).1 with
      | none => exact ⟨1,second⟩
      | some right => exact absurd second (missing left right first)

theorem retrieveField_twice : retrieveField recorded more (retrieveField recorded retrieved field) =
    retrieveField recorded (fun sensorId => retrieved sensorId || more sensorId) field := by
  funext sensorId
  have known := deviceField_known (recorded sensorId)
  unfold retrieveField
  by_cases missing : (field sensorId).2 = .notRetrieved
  · cases now : retrieved sensorId <;> simp [missing,now,known]
  · simp [missing]

theorem retrieveField_some (present : (retrieveField recorded retrieved field sensorId).1 = some value) :
    (field sensorId).1 = some value ∨
      (field sensorId).2 = .notRetrieved ∧ ∃ centi, recorded sensorId = some centi ∧ value = storedTemperature centi := by
  unfold retrieveField at present
  split at present
  · rename_i now
    obtain ⟨centi,held,stored⟩ := Option.map_eq_some_iff.mp present
    exact .inr ⟨now.1,centi,held,stored.symm⟩
  · exact .inl present

theorem retrieveField_lost (present : (field sensorId).1 = some value)
    (lost : (retrieveField recorded more field sensorId).1 = none) :
    field sensorId = (some value,.notRetrieved) ∧ recorded sensorId = none := by
  unfold retrieveField at lost
  split at lost
  · rename_i now
    refine ⟨Prod.ext present now.1,?_⟩
    simpa [deviceField] using lost
  · rw [present] at lost
    cases lost

theorem retrieveField_kept (same : retrieveField recorded retrieved field sensorId = (value,.notRetrieved)) :
    field sensorId = (value,.notRetrieved) := by
  unfold retrieveField at same
  split at same
  · exact absurd (congrArg Prod.snd same) (deviceField_known _)
  · exact same

theorem retrieve_field : (retrieve recorded retrieved before).field = retrieveField recorded retrieved before.field := by
  unfold retrieve
  dsimp only
  split <;> rfl

theorem retrieve_complete (complete : averageOfFields (retrieveField recorded retrieved before.field) = some average) :
    retrieve recorded retrieved before = ⟨retrieveField recorded retrieved before.field,some average,true⟩ := by
  unfold retrieve
  dsimp only
  rw [complete]

theorem retrieve_incomplete (incomplete : averageOfFields (retrieveField recorded retrieved before.field) = none) :
    retrieve recorded retrieved before =
      ⟨retrieveField recorded retrieved before.field,before.averageC,before.averageValid⟩ := by
  unfold retrieve
  dsimp only
  rw [incomplete]

theorem retrieve_twice (settled : Settled recorded before) :
    retrieve recorded more (retrieve recorded retrieved before) =
      retrieve recorded (fun sensorId => retrieved sensorId || more sensorId) before := by
  have twice : retrieveField recorded more (retrieveField recorded retrieved before.field) =
      retrieveField recorded (fun sensorId => retrieved sensorId || more sensorId) before.field := retrieveField_twice
  cases final : averageOfFields (retrieveField recorded (fun sensorId => retrieved sensorId || more sensorId) before.field) with
  | some average =>
    rw [retrieve_complete final,retrieve_complete (by rw [retrieve_field,twice]; exact final),retrieve_field,twice]
  | none =>
    rw [retrieve_incomplete final,retrieve_incomplete (by rw [retrieve_field,twice]; exact final),retrieve_field,twice]
    cases between : averageOfFields (retrieveField recorded retrieved before.field) with
    | none => rw [retrieve_incomplete between]
    | some average =>
      obtain ⟨sensorId,lost⟩ := averageOfFields_none final
      obtain ⟨left,right,here,other,rfl⟩ := averageOfFields_some between sensorId
      rw [← twice] at lost
      obtain ⟨held,disconnected⟩ := retrieveField_lost here lost
      obtain ⟨counted,valid⟩ := settled sensorId left right (retrieveField_kept held) disconnected (retrieveField_some other)
      rw [retrieve_complete between,counted,valid]

theorem onDuplicateKeyUpdate_field {row incoming : SampleColumns} (history : row.recordSource = .history) (sensorId : SensorId) :
    (onDuplicateKeyUpdate row incoming).field sensorId =
      if (row.field sensorId).2 = .notRetrieved ∧ (incoming.field sensorId).2 ≠ .notRetrieved then incoming.field sensorId
      else row.field sensorId := by
  unfold SampleColumns.field onDuplicateKeyUpdate
  dsimp only
  by_cases first : sensorId = 0
  · simp only [if_pos first,history,true_and]
    split <;> rfl
  · simp only [if_neg first,history,true_and]
    split <;> rfl

theorem onDuplicateKeyUpdate_average {row : SampleColumns} (history : row.recordSource = .history) (incoming : SampleColumns) :
    ((onDuplicateKeyUpdate row incoming).averageC,(onDuplicateKeyUpdate row incoming).averageValid) =
      match averageOfFields (onDuplicateKeyUpdate row incoming).field with
      | some average => (some average,true)
      | none => (row.averageC,row.averageValid) := by
  have averageC := onDuplicateKeyUpdate_averageC row incoming
  have averageValid := onDuplicateKeyUpdate_averageValid row incoming
  generalize onDuplicateKeyUpdate row incoming = merged at *
  have first : (merged.field 0).1 = merged.sensor1C := rfl
  have second : (merged.field 1).1 = merged.sensor2C := rfl
  rw [averageC,averageValid,averageOfFields,first,second,history]
  cases merged.sensor1C with
  | none => simp
  | some sensor1C => cases merged.sensor2C <;> simp

theorem drawnColumns_field (sensorId : SensorId) :
    (drawnColumns device bootId sequence retrieved observedAtUtc).field sensorId =
      if retrieved sensorId then deviceField (device bootId sequence sensorId) else (none,.notRetrieved) := by
  rcases Fin.exists_fin_two.mp ⟨sensorId,rfl⟩ with rfl | rfl <;> rfl

theorem onDuplicateKeyUpdate_measured {row : SampleColumns} (history : row.recordSource = .history) :
    (onDuplicateKeyUpdate row (drawnColumns device bootId sequence retrieved observedAtUtc)).measured =
      retrieve (device bootId sequence) retrieved row.measured := by
  have field : (onDuplicateKeyUpdate row (drawnColumns device bootId sequence retrieved observedAtUtc)).field =
      retrieveField (device bootId sequence) retrieved row.measured.field := by
    funext sensorId
    rw [onDuplicateKeyUpdate_field history,drawnColumns_field,retrieveField]
    cases now : retrieved sensorId with
    | false => simp [SampleColumns.measured]
    | true => simp [deviceField_known,SampleColumns.measured]
  have average := onDuplicateKeyUpdate_average history (drawnColumns device bootId sequence retrieved observedAtUtc)
  rw [field] at average
  cases complete : averageOfFields (retrieveField (device bootId sequence) retrieved row.measured.field) with
  | some value =>
    rw [complete,Prod.mk.injEq] at average
    rw [retrieve_complete complete,SampleColumns.measured,field,average.1,average.2]
  | none =>
    rw [complete,Prod.mk.injEq] at average
    rw [retrieve_incomplete complete,SampleColumns.measured,field,average.1,average.2]
    rfl

theorem averageOf_drawn : (averageOf ((List.finRange sensorCount).map (drawnReading recorded retrieved))).map hundredths =
    match (if retrieved 0 then recorded 0 else none),(if retrieved 1 then recorded 1 else none) with
    | some first,some second => some (storedMean first second)
    | _,_ => none := by
  have both : List.finRange sensorCount = [0,1] := rfl
  rw [both]
  cases now : retrieved 0 with
  | false =>
    cases later : retrieved 1 <;> cases second : recorded 1 <;>
      simp [averageOf,drawnReading,deviceReading,now,later,second]
  | true =>
    cases later : retrieved 1 <;> cases first : recorded 0 <;> cases second : recorded 1 <;>
      simp [averageOf,drawnReading,deviceReading,now,later,first,second,storedMean]

theorem averageOfFields_drawn : averageOfFields (retrieveField recorded retrieved unmeasured.field) =
    match (if retrieved 0 then recorded 0 else none),(if retrieved 1 then recorded 1 else none) with
    | some first,some second => some (roundedAverage (storedTemperature first) (storedTemperature second))
    | _,_ => none := by
  unfold averageOfFields retrieveField
  cases now : retrieved 0 with
  | false => simp [unmeasured]
  | true =>
    cases later : retrieved 1 <;> cases recorded 0 <;> cases recorded 1 <;> simp [unmeasured,deviceField]

theorem drawnColumns_measured (agrees : MeanAgrees (device bootId sequence)) :
    (drawnColumns device bootId sequence retrieved observedAtUtc).measured =
      retrieve (device bootId sequence) retrieved unmeasured := by
  have field : (drawnColumns device bootId sequence retrieved observedAtUtc).field =
      retrieveField (device bootId sequence) retrieved unmeasured.field := by
    funext sensorId
    rw [drawnColumns_field,retrieveField]
    simp [unmeasured]
  have valid : (drawnColumns device bootId sequence retrieved observedAtUtc).averageValid =
      (drawnColumns device bootId sequence retrieved observedAtUtc).averageC.isSome := by
    simp [drawnColumns]
  have average : (drawnColumns device bootId sequence retrieved observedAtUtc).averageC =
      averageOfFields (retrieveField (device bootId sequence) retrieved unmeasured.field) := by
    rw [drawnColumns,averageOf_drawn,averageOfFields_drawn]
    split
    · rename_i first second one two
      simp only [Option.ite_none_right_eq_some] at one two
      rw [agrees first second one.2 two.2]
    · rfl
  rw [SampleColumns.measured,field,valid,average]
  cases complete : averageOfFields (retrieveField (device bootId sequence) retrieved unmeasured.field) with
  | some value => rw [retrieve_complete complete]; rfl
  | none => rw [retrieve_incomplete complete]; rfl

def DrawnColumns (device : DeviceRecords) (columns : SampleColumns) : Prop :=
  ∃ bootId sequence retrieved observedAtUtc, columns = drawnColumns device bootId sequence retrieved observedAtUtc

def heldAfter (key : UInt32 × UInt32) (before : Option SampleColumns) (rows : List SampleColumns) : Option SampleColumns :=
  rows.foldl (fun held columns =>
    if columns.key = some key then some (held.elim columns (onDuplicateKeyUpdate · columns)) else held) before

theorem stored_fold {key : UInt32 × UInt32} (drawn : ∀ columns ∈ rows, DrawnColumns device columns) :
    (rows.foldl TemperatureSamples.upsert t).stored key = heldAfter key (t.stored key) rows := by
  induction rows generalizing t with
  | nil => rfl
  | cons columns rest ih =>
    obtain ⟨bootId,sequence,retrieved,observedAtUtc,rfl⟩ := drawn columns List.mem_cons_self
    have named : (drawnColumns device bootId sequence retrieved observedAtUtc).key = some (bootId,sequence) := rfl
    rw [List.foldl_cons,ih fun columns member => drawn columns (List.mem_cons_of_mem _ member),
      TemperatureSamples.stored_upsert named,heldAfter,heldAfter,List.foldl_cons,named]
    simp only [Option.some.injEq]

def gathered (rows : List SampleColumns) (key : UInt32 × UInt32) (sensorId : SensorId) : Bool :=
  rows.any fun columns => columns.key = some key ∧ (columns.field sensorId).2 ≠ .notRetrieved

theorem gathered_drawn (rest : List SampleColumns) :
    gathered (drawnColumns device bootId sequence retrieved observedAtUtc :: rest) (bootId,sequence) =
      fun sensorId => retrieved sensorId || gathered rest (bootId,sequence) sensorId := by
  funext sensorId
  rw [gathered,List.any_cons,drawnColumns_field]
  cases now : retrieved sensorId with
  | false => simp [gathered]
  | true =>
    have known := deviceField_known (device bootId sequence sensorId)
    have named : (drawnColumns device bootId sequence retrieved observedAtUtc).key = some (bootId,sequence) := rfl
    simp [named,known]

theorem gathered_other (rest : List SampleColumns) (other : columns.key ≠ some key) :
    gathered (columns :: rest) key = gathered rest key := by
  funext sensorId
  simp [gathered,other]

theorem heldAfter_other (rest : List SampleColumns) (other : columns.key ≠ some key) :
    heldAfter key held (columns :: rest) = heldAfter key held rest := by
  rw [heldAfter,List.foldl_cons,if_neg other]
  rfl

theorem heldAfter_same (rest : List SampleColumns) (named : columns.key = some key) :
    heldAfter key held (columns :: rest) = heldAfter key (some (held.elim columns (onDuplicateKeyUpdate · columns))) rest := by
  rw [heldAfter,List.foldl_cons,if_pos named]
  rfl

theorem heldAfter_untouched (untouched : ∀ columns ∈ rows, columns.key ≠ some key) : heldAfter key held rows = held := by
  induction rows with
  | nil => rfl
  | cons columns rest ih =>
    rw [heldAfter_other rest (untouched columns List.mem_cons_self)]
    exact ih fun columns member => untouched columns (List.mem_cons_of_mem _ member)

theorem heldAfter_frozen (other : row.recordSource ≠ .history) : heldAfter key (some row) rows = some row := by
  induction rows with
  | nil => rfl
  | cons columns rest ih =>
    by_cases named : columns.key = some key
    · rw [heldAfter_same rest named,Option.elim_some,onDuplicateKeyUpdate_other row columns other]
      exact ih
    · rw [heldAfter_other rest named]
      exact ih

theorem heldAfter_merged {row : SampleColumns} {start : Measured} (drawn : ∀ columns ∈ rows, DrawnColumns device columns)
    (settled : Settled (device bootId sequence) start) (history : row.recordSource = .history)
    (measured : row.measured = retrieve (device bootId sequence) retrieved start) :
    (heldAfter (bootId,sequence) (some row) rows).map (·.measured) =
      some (retrieve (device bootId sequence)
        (fun sensorId => retrieved sensorId || gathered rows (bootId,sequence) sensorId) start) := by
  induction rows generalizing row retrieved with
  | nil => simp [heldAfter,gathered,measured]
  | cons columns rest ih =>
    have tail : ∀ columns ∈ rest, DrawnColumns device columns := fun columns member => drawn columns (List.mem_cons_of_mem _ member)
    by_cases named : columns.key = some (bootId,sequence)
    · obtain ⟨_,_,now,observedAtUtc,rfl⟩ := drawn columns List.mem_cons_self
      cases named
      have next : (onDuplicateKeyUpdate row (drawnColumns device bootId sequence now observedAtUtc)).measured =
          retrieve (device bootId sequence) (fun sensorId => retrieved sensorId || now sensorId) start := by
        rw [onDuplicateKeyUpdate_measured history,measured,retrieve_twice settled]
      rw [heldAfter_same rest rfl,gathered_drawn]
      have kept : (onDuplicateKeyUpdate row (drawnColumns device bootId sequence now observedAtUtc)).recordSource = .history :=
        history
      simpa only [Option.elim_some,Bool.or_assoc] using ih tail kept next
    · rw [heldAfter_other rest named,gathered_other rest named]
      exact ih tail history measured

def startOf (held : Option SampleColumns) : Measured := held.elim unmeasured (·.measured)

def Ready (recorded : SensorId → Option Int16) : Option SampleColumns → Prop
  | none => MeanAgrees recorded
  | some row => row.recordSource = .history ∧ Settled recorded row.measured

theorem heldAfter_touched {held : Option SampleColumns} (drawn : ∀ columns ∈ rows, DrawnColumns device columns)
    (touched : ∃ columns ∈ rows, columns.key = some (bootId,sequence)) (ready : Ready (device bootId sequence) held) :
    (heldAfter (bootId,sequence) held rows).map (·.measured) =
      some (retrieve (device bootId sequence) (gathered rows (bootId,sequence)) (startOf held)) := by
  induction rows with
  | nil =>
    obtain ⟨_,member,_⟩ := touched
    cases member
  | cons columns rest ih =>
    have tail : ∀ columns ∈ rest, DrawnColumns device columns := fun columns member => drawn columns (List.mem_cons_of_mem _ member)
    by_cases named : columns.key = some (bootId,sequence)
    · obtain ⟨_,_,now,observedAtUtc,rfl⟩ := drawn columns List.mem_cons_self
      cases named
      rw [heldAfter_same rest rfl,gathered_drawn]
      cases held with
      | none =>
        have blank : Settled (device bootId sequence) unmeasured := by
          intro sensorId left right missing
          cases missing
        exact heldAfter_merged tail blank rfl (drawnColumns_measured ready)
      | some row => exact heldAfter_merged tail ready.2 ready.1 (onDuplicateKeyUpdate_measured ready.1)
    · rw [heldAfter_other rest named,gathered_other rest named]
      obtain ⟨other,member,same⟩ := touched
      rcases List.mem_cons.mp member with rfl | later
      · exact absurd same named
      · exact ih tail ⟨other,later,same⟩

theorem mapM_drawn {samples : List SampleRecord} (drawn : ∀ sample ∈ samples, Drawn device sample) :
    samples.mapM sampleParams = some (samples.filterMap sampleParams) := by
  induction samples with
  | nil => rfl
  | cons sample rest ih =>
    obtain ⟨bootId,sequence,retrieved,observedAtUtc,rfl⟩ := drawn sample List.mem_cons_self
    rw [List.mapM_cons,sampleParams_drawn,ih fun sample member => drawn sample (List.mem_cons_of_mem _ member),
      List.filterMap_cons_some (sampleParams_drawn device bootId sequence retrieved observedAtUtc)]
    rfl

theorem upsertHistory_drawn {batch : HistoryBatch} (drawn : ∀ sample ∈ batch.samples, Drawn device sample) :
    upsertHistory t batch = some ((batch.samples.filterMap sampleParams).foldl TemperatureSamples.upsert t) :=
  upsertHistory_fold (mapM_drawn drawn)

theorem upsertBatches_drawn {batches : List HistoryBatch} (drawn : ∀ batch ∈ batches, ∀ sample ∈ batch.samples, Drawn device sample) :
    batches.foldlM upsertHistory t =
      some (((batches.flatMap (·.samples)).filterMap sampleParams).foldl TemperatureSamples.upsert t) := by
  induction batches generalizing t with
  | nil => rfl
  | cons batch rest ih =>
    rw [List.foldlM_cons,upsertHistory_drawn (drawn batch List.mem_cons_self),List.flatMap_cons,List.filterMap_append,
      List.foldl_append]
    exact ih fun other member => drawn other (List.mem_cons_of_mem _ member)

theorem drawn_columns {samples : List SampleRecord} (drawn : ∀ sample ∈ samples, Drawn device sample) :
    ∀ columns ∈ samples.filterMap sampleParams, DrawnColumns device columns := by
  intro columns member
  obtain ⟨sample,among,params⟩ := List.mem_filterMap.mp member
  obtain ⟨bootId,sequence,retrieved,observedAtUtc,rfl⟩ := drawn sample among
  rw [sampleParams_drawn] at params
  cases params
  exact ⟨bootId,sequence,retrieved,observedAtUtc,rfl⟩

theorem drawnReading_id (sensorId : SensorId) : (drawnReading recorded retrieved sensorId).sensorId = sensorId.number := by
  unfold drawnReading
  split <;> rfl

theorem drawnReading_status (sensorId : SensorId) :
    (drawnReading recorded retrieved sensorId).status ≠ .notRetrieved ↔ retrieved sensorId = true := by
  unfold drawnReading
  cases now : retrieved sensorId with
  | false => simp
  | true =>
    have known := deviceField_known (recorded sensorId)
    simpa [deviceReading,deviceField] using known

theorem drawnSample_retrieves (sensorId : SensorId) :
    (drawnSample device bootId sequence retrieved observedAtUtc).retrieves sensorId = retrieved sensorId := by
  have status : (drawnReading (device bootId sequence) retrieved sensorId).status ≠ .notRetrieved ↔ retrieved sensorId = true :=
    drawnReading_status sensorId
  rw [Bool.eq_iff_iff,← status]
  unfold SampleRecord.retrieves drawnSample
  rw [List.any_map,List.any_eq_true]
  constructor
  · rintro ⟨other,_,found⟩
    obtain ⟨same,status⟩ := of_decide_eq_true found
    rw [drawnReading_id] at same
    have equal : other = sensorId := Fin.ext (Nat.succ.inj same)
    exact equal ▸ status
  · intro status
    exact ⟨sensorId,List.mem_finRange sensorId,decide_eq_true ⟨drawnReading_id sensorId,status⟩⟩

theorem drawn_params {sample : SampleRecord} (drawn : Drawn device sample) : ∃ columns, sampleParams sample = some columns ∧
    columns.key = sample.key ∧ ∀ sensorId, (columns.field sensorId).2 ≠ .notRetrieved ↔ sample.retrieves sensorId = true := by
  obtain ⟨bootId,sequence,retrieved,observedAtUtc,rfl⟩ := drawn
  refine ⟨_,sampleParams_drawn device bootId sequence retrieved observedAtUtc,rfl,fun sensorId => ?_⟩
  rw [drawnColumns_field,drawnSample_retrieves]
  cases retrieved sensorId with
  | false => simp
  | true => simp [deviceField_known]

theorem columns_touch {samples : List SampleRecord} (drawn : ∀ sample ∈ samples, Drawn device sample) :
    (∃ columns ∈ samples.filterMap sampleParams, columns.key = key) ↔ ∃ sample ∈ samples, sample.key = key := by
  constructor
  · rintro ⟨columns,member,named⟩
    obtain ⟨sample,among,params⟩ := List.mem_filterMap.mp member
    obtain ⟨other,same,keys,_⟩ := drawn_params (drawn sample among)
    rw [params] at same
    cases same
    exact ⟨sample,among,keys ▸ named⟩
  · rintro ⟨sample,among,named⟩
    obtain ⟨columns,params,keys,_⟩ := drawn_params (drawn sample among)
    exact ⟨columns,List.mem_filterMap.mpr ⟨sample,among,params⟩,keys.trans named⟩

theorem columns_gathered {samples : List SampleRecord} (drawn : ∀ sample ∈ samples, Drawn device sample) :
    gathered (samples.filterMap sampleParams) key sensorId = true ↔
      ∃ sample ∈ samples, sample.key = some key ∧ sample.retrieves sensorId = true := by
  rw [gathered,List.any_eq_true]
  constructor
  · rintro ⟨columns,member,counted⟩
    obtain ⟨named,known⟩ := of_decide_eq_true counted
    obtain ⟨sample,among,params⟩ := List.mem_filterMap.mp member
    obtain ⟨other,same,keys,fields⟩ := drawn_params (drawn sample among)
    rw [params] at same
    cases same
    exact ⟨sample,among,keys ▸ named,(fields sensorId).mp known⟩
  · rintro ⟨sample,among,named,retrieved⟩
    obtain ⟨columns,params,keys,fields⟩ := drawn_params (drawn sample among)
    exact ⟨columns,List.mem_filterMap.mpr ⟨sample,among,params⟩,
      decide_eq_true ⟨keys.trans named,(fields sensorId).mpr retrieved⟩⟩

theorem fold_known (rows : List SampleColumns) (member : row ∈ t.rows) (history : row.recordSource = .history) :
    ∃ kept ∈ (rows.foldl TemperatureSamples.upsert t).rows, kept.id = row.id ∧ kept.key = row.key ∧
      kept.recordSource = .history ∧
      ∀ sensorId, (row.field sensorId).2 ≠ .notRetrieved → kept.field sensorId = row.field sensorId := by
  induction rows generalizing t row with
  | nil => exact ⟨row,member,rfl,rfl,history,fun _ _ => rfl⟩
  | cons columns rest ih =>
    rw [List.foldl_cons]
    rcases TemperatureSamples.mem_upsert columns member with same | changed
    · exact ih same history
    · obtain ⟨kept,present,id,key,source,fields⟩ := ih changed history
      refine ⟨kept,present,id,key.trans (onDuplicateKeyUpdate_key _ _),source,fun sensorId known => ?_⟩
      have held : (onDuplicateKeyUpdate row.toSampleColumns columns).field sensorId = row.field sensorId := by
        rw [onDuplicateKeyUpdate_field history,if_neg fun missing => known missing.1]
      rw [fields sensorId (held ▸ known)]
      exact held

theorem measured_same {first second : List SampleRecord} {key : UInt32 × UInt32} (mergeable : Mergeable t device)
    (firstDrawn : ∀ sample ∈ first, Drawn device sample) (secondDrawn : ∀ sample ∈ second, Drawn device sample)
    (keys : (∃ sample ∈ second, sample.key = some key) ↔ ∃ sample ∈ first, sample.key = some key)
    (fields : ∀ sensorId, (∃ sample ∈ second, sample.key = some key ∧ sample.retrieves sensorId) ↔
      ∃ sample ∈ first, sample.key = some key ∧ sample.retrieves sensorId) :
    (((first.filterMap sampleParams).foldl TemperatureSamples.upsert t).stored key).map (·.measured) =
      (((second.filterMap sampleParams).foldl TemperatureSamples.upsert t).stored key).map (·.measured) := by
  rw [stored_fold (drawn_columns firstDrawn),stored_fold (drawn_columns secondDrawn)]
  rw [← columns_touch firstDrawn,← columns_touch secondDrawn] at keys
  have gathers : gathered (second.filterMap sampleParams) key = gathered (first.filterMap sampleParams) key := by
    funext sensorId
    rw [Bool.eq_iff_iff,columns_gathered firstDrawn,columns_gathered secondDrawn]
    exact fields sensorId
  by_cases touched : ∃ columns ∈ first.filterMap sampleParams, columns.key = some key
  · have condition := mergeable key.1 key.2
    have ready (ready : Ready (device key.1 key.2) (t.stored key)) :
        (heldAfter key (t.stored key) (first.filterMap sampleParams)).map (·.measured) =
          (heldAfter key (t.stored key) (second.filterMap sampleParams)).map (·.measured) := by
      rw [heldAfter_touched (drawn_columns firstDrawn) touched ready,
        heldAfter_touched (drawn_columns secondDrawn) (keys.mpr touched) ready,gathers]
    cases held : t.stored key with
    | none =>
      rw [held] at condition ready
      exact ready condition
    | some row =>
      rw [held] at condition ready
      by_cases history : row.recordSource = .history
      · exact ready ⟨history,condition history⟩
      · rw [heldAfter_frozen history,heldAfter_frozen history]
  · have neither : ¬ ∃ columns ∈ second.filterMap sampleParams, columns.key = some key := fun other => touched (keys.mp other)
    rw [heldAfter_untouched fun columns member named => touched ⟨columns,member,named⟩,
      heldAfter_untouched fun columns member named => neither ⟨columns,member,named⟩]

theorem exists_flatMap {batches : List HistoryBatch} {holds : SampleRecord → Prop} :
    (∃ sample ∈ batches.flatMap (·.samples), holds sample) ↔ ∃ batch ∈ batches, ∃ sample ∈ batch.samples, holds sample := by
  constructor
  · rintro ⟨sample,member,held⟩
    obtain ⟨batch,among,present⟩ := List.mem_flatMap.mp member
    exact ⟨batch,among,sample,present,held⟩
  · rintro ⟨batch,among,sample,present,held⟩
    exact ⟨sample,List.mem_flatMap.mpr ⟨batch,among,present⟩,held⟩

theorem Mergeable.law (mergeable : Mergeable t device) : UpsertLaw t device := by
  intro batches drawn
  have all : ∀ sample ∈ batches.flatMap (·.samples), Drawn device sample := by
    intro sample member
    obtain ⟨batch,among,present⟩ := List.mem_flatMap.mp member
    exact drawn batch among sample present
  refine ⟨_,upsertBatches_drawn drawn,fun row member other => TemperatureSamples.fold_keeps _ member other,
    fun row member history => fold_known _ member history,fun whole gathers => ?_⟩
  refine ⟨_,upsertHistory_drawn gathers.drawn,fun key => measured_same mergeable all gathers.drawn ?_ fun sensorId => ?_⟩
  · exact (gathers.keys (some key)).trans exists_flatMap.symm
  · exact (gathers.fields (some key) sensorId).trans exists_flatMap.symm

theorem gathers_pair (device : DeviceRecords) (bootId sequence : UInt32) (retrieved more : SensorId → Bool) :
    Gathers device [⟨[drawnSample device bootId sequence retrieved 0]⟩,⟨[drawnSample device bootId sequence more 0]⟩]
      ⟨[drawnSample device bootId sequence (fun sensorId => retrieved sensorId || more sensorId) 0]⟩ where
  drawn sample member := by
    cases List.mem_singleton.mp member
    exact ⟨bootId,sequence,_,0,rfl⟩
  single := by simp
  keys key := by
    have named (retrieved : SensorId → Bool) : (drawnSample device bootId sequence retrieved 0).key = some (bootId,sequence) := rfl
    simp [named]
  fields key sensorId := by
    have named (retrieved : SensorId → Bool) : (drawnSample device bootId sequence retrieved 0).key = some (bootId,sequence) := rfl
    simp only [exists_eq_left,List.mem_cons,List.not_mem_nil,or_false,exists_eq_or_imp,named,
      drawnSample_retrieves,Bool.or_eq_true]
    tauto

theorem UpsertLaw.pair (law : UpsertLaw t device) (bootId sequence : UInt32) (retrieved more : SensorId → Bool) :
    (heldAfter (bootId,sequence) (t.stored (bootId,sequence))
      [drawnColumns device bootId sequence retrieved 0,drawnColumns device bootId sequence more 0]).map (·.measured) =
    (heldAfter (bootId,sequence) (t.stored (bootId,sequence))
      [drawnColumns device bootId sequence (fun sensorId => retrieved sensorId || more sensorId) 0]).map (·.measured) := by
  have drawn (retrieved : SensorId → Bool) : Drawn device (drawnSample device bootId sequence retrieved 0) :=
    ⟨bootId,sequence,retrieved,0,rfl⟩
  have pairDrawn : ∀ batch ∈ [(⟨[drawnSample device bootId sequence retrieved 0]⟩ : HistoryBatch),
      ⟨[drawnSample device bootId sequence more 0]⟩], ∀ sample ∈ batch.samples, Drawn device sample := by
    simp [drawn]
  have gathers := gathers_pair device bootId sequence retrieved more
  obtain ⟨after,stored,_,_,agree⟩ := law _ pairDrawn
  obtain ⟨once,single,same⟩ := agree _ gathers
  rw [upsertBatches_drawn pairDrawn] at stored
  rw [upsertHistory_drawn gathers.drawn] at single
  cases stored
  cases single
  have equal := same (bootId,sequence)
  have allDrawn : ∀ sample ∈ [drawnSample device bootId sequence retrieved 0,drawnSample device bootId sequence more 0],
      Drawn device sample := by
    simp [drawn]
  have pairRows : [drawnSample device bootId sequence retrieved 0,drawnSample device bootId sequence more 0].filterMap
      sampleParams = [drawnColumns device bootId sequence retrieved 0,drawnColumns device bootId sequence more 0] := by
    simp [sampleParams_drawn]
  have singleRows (retrieved : SensorId → Bool) : [drawnSample device bootId sequence retrieved 0].filterMap sampleParams =
      [drawnColumns device bootId sequence retrieved 0] := by
    simp [sampleParams_drawn]
  rw [stored_fold (drawn_columns gathers.drawn),singleRows] at equal
  rw [← equal,← pairRows,← stored_fold (drawn_columns allDrawn)]
  rfl

-- A row that the service inserts must have the average that a later merge gives it.
theorem UpsertLaw.agrees (law : UpsertLaw t device) (missing : t.stored (bootId,sequence) = none) :
    MeanAgrees (device bootId sequence) := by
  intro first second one two
  have equal := law.pair bootId sequence (fun _ => true) (fun _ => true)
  rw [missing,heldAfter_same _ rfl,heldAfter_same _ rfl,heldAfter_same _ rfl] at equal
  have merged : retrieve (device bootId sequence) (fun _ => true)
      (drawnColumns device bootId sequence (fun _ => true) 0).measured =
      (drawnColumns device bootId sequence (fun _ => true) 0).measured := by
    rw [← onDuplicateKeyUpdate_measured rfl]
    exact Option.some.inj equal
  have left : (retrieveField (device bootId sequence) (fun _ => true)
      (drawnColumns device bootId sequence (fun _ => true) 0).field 0).1 = some (storedTemperature first) := by
    simp [retrieveField,drawnColumns_field,deviceField,one]
  have right : (retrieveField (device bootId sequence) (fun _ => true)
      (drawnColumns device bootId sequence (fun _ => true) 0).field 1).1 = some (storedTemperature second) := by
    simp [retrieveField,drawnColumns_field,deviceField,two]
  have inserted : (drawnColumns device bootId sequence (fun _ => true) 0).averageC = some (storedMean first second) := by
    rw [drawnColumns,averageOf_drawn]
    simp [one,two]
  rw [retrieve_complete (averageOfFields_pair left right)] at merged
  have average : some (roundedAverage (storedTemperature first) (storedTemperature second)) = some (storedMean first second) :=
    (congrArg Measured.averageC merged).trans inserted
  exact (Option.some.inj average).symm

theorem UpsertLaw.counted (law : UpsertLaw t device) (held : t.stored (bootId,sequence) = some row)
    (history : row.recordSource = .history) (missing : row.field sensorId = (some left,.notRetrieved))
    (disconnected : device bootId sequence sensorId = none) (retrieved : SensorId → Bool) (later : retrieved sensorId = false)
    (other : (retrieveField (device bootId sequence) retrieved row.field (sensorId + 1)).1 = some right) :
    row.averageC = some (roundedAverage left right) ∧ row.averageValid = true := by
  have equal := law.pair bootId sequence retrieved (fun other => other = sensorId)
  rw [held,heldAfter_same _ rfl,heldAfter_same _ rfl,heldAfter_same _ rfl] at equal
  have merged : retrieve (device bootId sequence) (fun other => other = sensorId)
      (retrieve (device bootId sequence) retrieved row.measured) =
      retrieve (device bootId sequence) (fun other => retrieved other || other = sensorId) row.measured := by
    have first : (onDuplicateKeyUpdate row (drawnColumns device bootId sequence retrieved 0)).measured =
        retrieve (device bootId sequence) retrieved row.measured := onDuplicateKeyUpdate_measured history
    have second : (onDuplicateKeyUpdate (onDuplicateKeyUpdate row (drawnColumns device bootId sequence retrieved 0))
        (drawnColumns device bootId sequence (fun other => other = sensorId) 0)).measured =
        retrieve (device bootId sequence) (fun other => other = sensorId)
          (onDuplicateKeyUpdate row (drawnColumns device bootId sequence retrieved 0)).measured :=
      onDuplicateKeyUpdate_measured history
    rw [← first,← second,← onDuplicateKeyUpdate_measured history]
    exact Option.some.inj equal
  have here : retrieveField (device bootId sequence) retrieved row.field sensorId = (some left,.notRetrieved) := by
    rw [retrieveField,later,missing]
    rfl
  have between := averageOfFields_pair (congrArg Prod.fst here) other
  have lost : (retrieveField (device bootId sequence) (fun other => other = sensorId)
      (retrieveField (device bootId sequence) retrieved row.field) sensorId).1 = none := by
    rw [retrieveField,here]
    simp [deviceField,disconnected]
  have incomplete : averageOfFields (retrieveField (device bootId sequence) (fun other => other = sensorId)
      (retrieveField (device bootId sequence) retrieved row.field)) = none := by
    cases complete : averageOfFields (retrieveField (device bootId sequence) (fun other => other = sensorId)
        (retrieveField (device bootId sequence) retrieved row.field)) with
    | none => rfl
    | some average =>
      obtain ⟨_,_,present,_⟩ := averageOfFields_some complete sensorId
      rw [lost] at present
      cases present
  have once : averageOfFields (retrieveField (device bootId sequence) (fun other => retrieved other || other = sensorId)
      row.field) = none := by
    rw [← retrieveField_twice]
    exact incomplete
  have whole : retrieve (device bootId sequence) (fun other => retrieved other || other = sensorId) row.measured =
      ⟨_,row.averageC,row.averageValid⟩ := retrieve_incomplete once
  rw [whole,retrieve_incomplete (by rw [retrieve_field]; exact incomplete),retrieve_complete between] at merged
  exact ⟨(congrArg Measured.averageC merged).symm,(congrArg Measured.averageValid merged).symm⟩

theorem UpsertLaw.mergeable (law : UpsertLaw t device) : Mergeable t device := by
  have different : ∀ sensorId : SensorId, sensorId ≠ sensorId + 1 := by decide
  intro bootId sequence
  split
  · exact law.agrees ‹_›
  · rename_i row held
    intro history sensorId left right missing disconnected other
    rcases other with present | ⟨absent,centi,recorded,rfl⟩
    · apply law.counted held history missing disconnected (fun _ => false) rfl
      simpa [retrieveField,SampleColumns.measured] using present
    · apply law.counted held history missing disconnected (fun other => other = sensorId + 1)
      · exact decide_eq_false (different sensorId)
      · have absent : (row.field (sensorId + 1)).2 = .notRetrieved := absent
        simp [retrieveField,absent,deviceField,recorded]

-- 19.00 and 19.13 degrees: Python's mean is 19.064999999999998.
def roomRecords : DeviceRecords := fun _ _ sensorId => some (if sensorId = 0 then 1900 else 1913)

-- The second of two equal batches moves the average from 19.06 to 19.07.
theorem upsert_law_fails : ¬ UpsertLaw emptySamples roomRecords := by
  intro law
  have drifts : storedMean 1900 1913 ≠ roundedAverage (storedTemperature 1900) (storedTemperature 1913) := by decide +kernel
  have agrees : MeanAgrees (roomRecords 7 1) := law.agrees rfl
  exact drifts (agrees 1900 1913 rfl rfl)

-- Batches in any order, number and split store what one batch with all their fields
-- stores, LIVE rows and known fields untouched, exactly for the mergeable tables.
theorem history_upsert_law (t : TemperatureSamples) (device : DeviceRecords) : UpsertLaw t device ↔ Mergeable t device :=
  ⟨UpsertLaw.mergeable,Mergeable.law⟩

end Thermometer.Client
