import Thermometer.Client.Samples

-- mysql_adapter.py over the table `temperature_samples` of schema.sql. A statement takes
-- effect as a whole; rows come and go one after another inside it.
namespace Thermometer.Client
open Decimal

-- The columns that an INSERT names. Decimal columns hold hundredths, DATETIME seconds.
structure SampleColumns where
  bootId : Option UInt32
  sampleSeq : Option UInt32
  observedAtUtc : Int
  sensor1C : Option Int
  sensor1Status : SensorStatus
  sensor2C : Option Int
  sensor2Status : SensorStatus
  averageC : Option Int
  averageValid : Bool
  recordSource : RecordSource
  failureReason : Option String
  deriving DecidableEq

structure TemperatureSample extends SampleColumns where
  id : Nat
  deriving DecidableEq

-- NULLs do not collide in `uq_sample`.
def SampleColumns.key (columns : SampleColumns) : Option (UInt32 × UInt32) := do
  return (← columns.bootId,← columns.sampleSeq)

structure TemperatureSamples where
  rows : List TemperatureSample
  autoIncrement : Nat
  primaryKey : (rows.map (·.id)).Nodup ∧ ∀ row ∈ rows, row.id < autoIncrement
  uqSample : (rows.filterMap (·.key)).Nodup

def emptySamples : TemperatureSamples := ⟨[],0,by simp,by simp⟩

-- DATETIME has no fraction of a second.
def storedSeconds (value : Rat) : Int := roundHalfAway value

-- `_sample_params`, as the columns keep the values; `none` for the ValueError.
def sampleParams (sample : SampleRecord) : Option SampleColumns := do
  let sensor1 ← sample.sensorReadings.reverse.find? (·.sensorId = 1)
  let sensor2 ← sample.sensorReadings.reverse.find? (·.sensorId = 2)
  return {
    bootId := sample.bootId
    sampleSeq := sample.sampleSequence
    observedAtUtc := storedSeconds sample.observedAtUtc
    sensor1C := sensor1.temperatureC.map hundredths
    sensor1Status := sensor1.status
    sensor2C := sensor2.temperatureC.map hundredths
    sensor2Status := sensor2.status
    averageC := sample.averageTemperatureC.map hundredths
    averageValid := sample.averageTemperatureC.isSome
    recordSource := sample.source
    failureReason := sample.failureReason }

-- `ROUND((sensor1_c + sensor2_c) / 2, 2)` of two decimals.
def roundedAverage (sensor1C sensor2C : Int) : Int := roundHalfAway ((sensor1C + sensor2C : Rat) / 2)

-- The assignments of ON DUPLICATE KEY UPDATE, each on what the earlier ones left.
def onDuplicateKeyUpdate (row incoming : SampleColumns) : SampleColumns :=
  let row : SampleColumns := { row with
    sensor1C :=
      if row.recordSource = .history ∧ row.sensor1Status = .notRetrieved ∧ incoming.sensor1Status ≠ .notRetrieved then
        incoming.sensor1C
      else row.sensor1C }
  let row : SampleColumns := { row with
    sensor1Status :=
      if row.recordSource = .history ∧ row.sensor1Status = .notRetrieved ∧ incoming.sensor1Status ≠ .notRetrieved then
        incoming.sensor1Status
      else row.sensor1Status }
  let row : SampleColumns := { row with
    sensor2C :=
      if row.recordSource = .history ∧ row.sensor2Status = .notRetrieved ∧ incoming.sensor2Status ≠ .notRetrieved then
        incoming.sensor2C
      else row.sensor2C }
  let row : SampleColumns := { row with
    sensor2Status :=
      if row.recordSource = .history ∧ row.sensor2Status = .notRetrieved ∧ incoming.sensor2Status ≠ .notRetrieved then
        incoming.sensor2Status
      else row.sensor2Status }
  let row : SampleColumns := { row with
    averageC :=
      match row.recordSource,row.sensor1C,row.sensor2C with
      | .history,some sensor1C,some sensor2C => some (roundedAverage sensor1C sensor2C)
      | _,_,_ => row.averageC }
  { row with
    averageValid :=
      if row.recordSource = .history ∧ row.sensor1C.isSome ∧ row.sensor2C.isSome then true else row.averageValid }

theorem onDuplicateKeyUpdate_averageC (row incoming : SampleColumns) : (onDuplicateKeyUpdate row incoming).averageC =
    match row.recordSource,(onDuplicateKeyUpdate row incoming).sensor1C,(onDuplicateKeyUpdate row incoming).sensor2C with
    | .history,some sensor1C,some sensor2C => some (roundedAverage sensor1C sensor2C)
    | _,_,_ => row.averageC := rfl

theorem onDuplicateKeyUpdate_averageValid (row incoming : SampleColumns) : (onDuplicateKeyUpdate row incoming).averageValid =
    if row.recordSource = .history ∧ (onDuplicateKeyUpdate row incoming).sensor1C.isSome ∧
      (onDuplicateKeyUpdate row incoming).sensor2C.isSome then true else row.averageValid := rfl

@[simp] theorem onDuplicateKeyUpdate_key (row incoming : SampleColumns) : (onDuplicateKeyUpdate row incoming).key = row.key := rfl

@[simp] theorem onDuplicateKeyUpdate_source (row incoming : SampleColumns) :
    (onDuplicateKeyUpdate row incoming).recordSource = row.recordSource := rfl

theorem onDuplicateKeyUpdate_other (row incoming : SampleColumns) (other : row.recordSource ≠ .history) :
    onDuplicateKeyUpdate row incoming = row := by
  cases row with
  | mk _ _ _ _ _ _ _ _ _ recordSource _ =>
    cases recordSource with
    | history => exact absurd rfl other
    | live => simp [onDuplicateKeyUpdate]
    | provisional => simp [onDuplicateKeyUpdate]

namespace TemperatureSamples

variable (t : TemperatureSamples)

def find (key : UInt32 × UInt32) : Option TemperatureSample := t.rows.find? (·.key = some key)

def duplicate (columns : SampleColumns) : Bool := columns.key.any fun key => (t.find key).isSome

variable {t} in
theorem fresh_find (fresh : t.duplicate columns = false) (named : columns.key = some key) : t.find key = none := by
  simpa [duplicate,named] using fresh

def append (columns : SampleColumns) (fresh : t.duplicate columns = false) : TemperatureSamples where
  rows := t.rows ++ [⟨columns,t.autoIncrement⟩]
  autoIncrement := t.autoIncrement + 1
  primaryKey := by
    constructor
    · rw [List.map_append,List.nodup_append]
      refine ⟨t.primaryKey.1,by simp,?_⟩
      rintro id old _ new rfl
      obtain ⟨row,member,same⟩ := List.mem_map.mp old
      cases List.mem_singleton.mp new
      exact Nat.ne_of_lt (t.primaryKey.2 row member) same
    · intro row member
      rcases List.mem_append.mp member with old | new
      · exact Nat.lt_succ_of_lt (t.primaryKey.2 row old)
      · cases List.mem_singleton.mp new
        exact Nat.lt_succ_self _
  uqSample := by
    rw [List.filterMap_append,List.nodup_append]
    refine ⟨t.uqSample,?_,?_⟩
    · cases key : columns.key <;> simp [key]
    · rintro key old _ new rfl
      obtain ⟨row,member,named⟩ := List.mem_filterMap.mp old
      obtain ⟨added,among,same⟩ := List.mem_filterMap.mp new
      cases List.mem_singleton.mp among
      have missing := List.find?_eq_none.mp (fresh_find fresh same) row member
      exact missing (decide_eq_true named)

def update (key : UInt32 × UInt32) (change : SampleColumns → SampleColumns)
    (keeps : ∀ columns, (change columns).key = columns.key) : TemperatureSamples where
  rows := t.rows.map fun row => if row.key = some key then ⟨change row.toSampleColumns,row.id⟩ else row
  autoIncrement := t.autoIncrement
  primaryKey := by
    have ids : (fun row : TemperatureSample => row.id) ∘
        (fun row => if row.key = some key then ⟨change row.toSampleColumns,row.id⟩ else row) = (·.id) := by
      funext row
      dsimp only [Function.comp]
      split <;> rfl
    constructor
    · rw [List.map_map,ids]
      exact t.primaryKey.1
    · intro row member
      obtain ⟨old,present,rfl⟩ := List.mem_map.mp member
      split
      · exact t.primaryKey.2 old present
      · exact t.primaryKey.2 old present
  uqSample := by
    have keys : (fun row : TemperatureSample => row.key) ∘
        (fun row => if row.key = some key then ⟨change row.toSampleColumns,row.id⟩ else row) = (·.key) := by
      funext row
      dsimp only [Function.comp]
      split
      · exact keeps _
      · rfl
    rw [List.filterMap_map,keys]
    exact t.uqSample

def keep (kept : TemperatureSample → Bool) : TemperatureSamples where
  rows := t.rows.filter kept
  autoIncrement := t.autoIncrement
  primaryKey := ⟨t.primaryKey.1.sublist (List.filter_sublist.map _),fun row member => t.primaryKey.2 row (List.mem_filter.mp member).1⟩
  uqSample := t.uqSample.sublist (List.filter_sublist.filterMap _)

-- `_INSERT_SAMPLE_SQL`; `none` for a duplicate entry.
def insert (columns : SampleColumns) : Option TemperatureSamples :=
  if fresh : t.duplicate columns = false then some (t.append columns fresh) else none

-- One row of the statement that `_HISTORY_UPSERT_SUFFIX` ends.
def upsert (columns : SampleColumns) : TemperatureSamples :=
  if fresh : t.duplicate columns = false then t.append columns fresh
  else
    match columns.key with
    | none => t
    | some key => t.update key (onDuplicateKeyUpdate · columns) fun row => onDuplicateKeyUpdate_key row columns

def stored (key : UInt32 × UInt32) : Option SampleColumns := (t.find key).map (·.toSampleColumns)

variable {t}

theorem stored_append (fresh : t.duplicate columns = false) :
    (t.append columns fresh).stored key = if columns.key = some key then some columns else t.stored key := by
  rw [stored,find,append,List.find?_append]
  by_cases named : columns.key = some key
  · have missing := fresh_find fresh named
    rw [find] at missing
    simp [missing,named]
  · simp [named,stored,find]

theorem stored_update {other : UInt32 × UInt32} (keeps : ∀ columns, (change columns).key = columns.key) :
    (t.update other change keeps).stored key = if other = key then (t.stored key).map change else t.stored key := by
  have same : (fun row : TemperatureSample => decide (row.key = some key)) ∘
      (fun row => if row.key = some other then ⟨change row.toSampleColumns,row.id⟩ else row) =
      fun row => decide (row.key = some key) := by
    funext row
    dsimp only [Function.comp]
    split
    · rw [keeps]
    · rfl
  rw [stored,find,update,List.find?_map,same,stored,find]
  cases found : t.rows.find? fun row => decide (row.key = some key) with
  | none => simp
  | some row =>
    have named : row.key = some key := by simpa using List.find?_some found
    by_cases equal : other = key
    · simp [named,equal]
    · have different : some key ≠ some other := fun same => equal (Option.some.inj same).symm
      simp [named,equal,different]

theorem stored_upsert {other : UInt32 × UInt32} (named : columns.key = some other) :
    (t.upsert columns).stored key =
      if other = key then some ((t.stored key).elim columns (onDuplicateKeyUpdate · columns)) else t.stored key := by
  unfold upsert
  split
  · rename_i fresh
    have missing := fresh_find fresh named
    rw [stored_append,named]
    by_cases equal : other = key
    · rw [if_pos (congrArg some equal),if_pos equal,← equal,stored,missing]
      rfl
    · rw [if_neg fun same => equal (Option.some.inj same),if_neg equal]
  · rename_i taken
    have present : t.stored other ≠ none := by
      intro missing
      apply taken
      simpa [duplicate,named,stored] using missing
    rw [named]
    dsimp only
    rw [stored_update]
    by_cases equal : other = key
    · rw [if_pos equal,if_pos equal]
      rw [equal] at present
      cases held : t.stored key with
      | none => exact absurd held present
      | some row => rfl
    · rw [if_neg equal,if_neg equal]

theorem mem_upsert (columns : SampleColumns) (member : row ∈ t.rows) :
    row ∈ (t.upsert columns).rows ∨ ⟨onDuplicateKeyUpdate row.toSampleColumns columns,row.id⟩ ∈ (t.upsert columns).rows := by
  unfold upsert
  split
  · exact .inl (List.mem_append_left _ member)
  · split
    · exact .inl member
    · rename_i key _
      by_cases named : row.key = some key
      · refine .inr (List.mem_map.mpr ⟨row,member,?_⟩)
        rw [if_pos named]
      · refine .inl (List.mem_map.mpr ⟨row,member,?_⟩)
        rw [if_neg named]

theorem mem_of_upsert (member : row ∈ (t.upsert columns).rows) : row ∈ t.rows ∨ row.toSampleColumns = columns ∨
    ∃ old ∈ t.rows, row.toSampleColumns = onDuplicateKeyUpdate old.toSampleColumns columns := by
  unfold upsert at member
  split at member
  · rcases List.mem_append.mp member with old | new
    · exact .inl old
    · cases List.mem_singleton.mp new
      exact .inr (.inl rfl)
  · split at member
    · exact .inl member
    · obtain ⟨old,present,rfl⟩ := List.mem_map.mp member
      split
      · exact .inr (.inr ⟨old,present,rfl⟩)
      · exact .inl present

theorem upsert_taken (named : columns.key = some key) : ∃ row ∈ (t.upsert columns).rows, row.key = some key ∧
    (row.recordSource = columns.recordSource ∨ ∃ old ∈ t.rows, old.key = some key ∧ row.recordSource = old.recordSource) := by
  have held : ((t.upsert columns).stored key).isSome := by
    rw [stored_upsert named,if_pos rfl]
    rfl
  obtain ⟨row,found⟩ := Option.isSome_iff_exists.mp (Option.isSome_map.symm.trans held)
  have member := List.mem_of_find?_eq_some found
  have same : row.key = some key := by simpa using List.find?_some found
  refine ⟨row,member,same,?_⟩
  rcases mem_of_upsert member with old | new | ⟨old,present,changed⟩
  · exact .inr ⟨row,old,same,rfl⟩
  · exact .inl (congrArg SampleColumns.recordSource new)
  · refine .inr ⟨old,present,?_,(congrArg SampleColumns.recordSource changed).trans (onDuplicateKeyUpdate_source _ _)⟩
    rw [← same,changed,onDuplicateKeyUpdate_key]

theorem fold_keeps (rows : List SampleColumns) (member : row ∈ t.rows) (other : row.recordSource ≠ .history) :
    row ∈ (rows.foldl upsert t).rows := by
  induction rows generalizing t with
  | nil => exact member
  | cons columns rest ih =>
    apply ih
    rcases mem_upsert columns member with same | changed
    · exact same
    · rw [onDuplicateKeyUpdate_other row.toSampleColumns columns other] at changed
      exact changed

end TemperatureSamples

abbrev historyBatchSize : Nat := 100

def historyGroups : List SampleRecord → List (List SampleRecord)
  | [] => []
  | first :: rest =>
    (first :: rest).take historyBatchSize :: historyGroups ((first :: rest).drop historyBatchSize)
  termination_by samples => samples.length
  decreasing_by
    rw [List.length_drop]
    exact Nat.sub_lt (Nat.succ_pos _) (by decide)

theorem historyGroups_flatten (samples : List SampleRecord) : (historyGroups samples).flatten = samples := by
  induction samples using historyGroups.induct with
  | case1 => simp [historyGroups]
  | case2 first rest ih =>
    rw [historyGroups,List.flatten_cons,ih]
    exact List.take_append_drop _ _

-- One statement; `none` when a sample has no columns and the adapter raises.
def executeGroup (t : TemperatureSamples) (group : List SampleRecord) : Option TemperatureSamples := do
  let values ← group.mapM sampleParams
  return values.foldl TemperatureSamples.upsert t

def upsertHistory (t : TemperatureSamples) (batch : HistoryBatch) : Option TemperatureSamples :=
  (historyGroups batch.samples).foldlM executeGroup t

theorem executeGroups_fold (groups : List (List SampleRecord)) (valid : groups.flatten.mapM sampleParams = some values) :
    groups.foldlM executeGroup t = some (values.foldl TemperatureSamples.upsert t) := by
  induction groups generalizing t values with
  | nil =>
    cases valid
    rfl
  | cons group rest ih =>
    rw [List.flatten_cons,List.mapM_append] at valid
    obtain ⟨first,mapped,valid⟩ := Option.bind_eq_some_iff.mp valid
    obtain ⟨later,remaining,joined⟩ := Option.bind_eq_some_iff.mp valid
    cases joined
    rw [List.foldlM_cons,executeGroup,mapped,List.foldl_append]
    exact ih remaining

theorem upsertHistory_fold {batch : HistoryBatch} (valid : batch.samples.mapM sampleParams = some values) :
    upsertHistory t batch = some (values.foldl TemperatureSamples.upsert t) := by
  apply executeGroups_fold
  rw [historyGroups_flatten]
  exact valid

-- `_publish_one`: a duplicate is reported and leaves the table as it is.
def publishOne (t : TemperatureSamples) (sample : SampleRecord) : Option (TemperatureSamples × PersistenceResult) := do
  let columns ← sampleParams sample
  return match t.insert columns with
  | some stored => (stored,⟨true,true,none⟩)
  | none => (t,⟨true,false,some "duplicate sample rejected: boot_id/sample_seq already recorded"⟩)

def tolerance (samplePeriodMs : Nat) : Rat := samplePeriodMs / 1000 / 2

def near (samplePeriodMs : Nat) (observedAt : Int) (sample : SampleRecord) : Bool :=
  |observedAt - sample.observedAtUtc| ≤ tolerance samplePeriodMs

-- The SELECT over the window of the batch, and the filter over its answer.
def staleIds (samplePeriodMs : Nat) (t : TemperatureSamples) (batch : HistoryBatch) : List Nat :=
  match (batch.samples.map (·.observedAtUtc)).min?,(batch.samples.map (·.observedAtUtc)).max? with
  | some first,some last =>
    let candidates := t.rows.filter fun row => row.recordSource = .provisional ∧
      first - tolerance samplePeriodMs ≤ row.observedAtUtc ∧ row.observedAtUtc ≤ last + tolerance samplePeriodMs
    (candidates.filter fun row => batch.samples.any (near samplePeriodMs row.observedAtUtc)).map (·.id)
  | _,_ => []

def deleteStale (t : TemperatureSamples) (stale : List Nat) : TemperatureSamples :=
  t.keep fun row => !(row.recordSource = .provisional && row.id ∈ stale)

end Thermometer.Client
