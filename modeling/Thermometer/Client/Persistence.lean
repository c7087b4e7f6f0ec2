import Thermometer.Lib.Execution
import Thermometer.Client.MysqlAdapter

-- persistence_worker.py: one worker task that calls the adapter for queued requests.
namespace Thermometer.Client
open Execution Wire

inductive PersistenceRequest where
  | upsertHistory (batch : HistoryBatch)
  | reconcileProvisionalIntervals (batch : HistoryBatch)
  | publishCurrentSample (sample : SampleRecord)
  | publishMissingInterval (sample : SampleRecord)
  -- Connection states and display results, for which there is no table.
  | publishOther (table : String)
  deriving DecidableEq

-- Where the worker task is suspended: in `queue.get`, or in a call before one of its
-- statements. The statements of an upsert are the groups that are left.
inductive Activity where
  | absent
  | waiting
  | upserting (batch : HistoryBatch) (groups : List (List SampleRecord))
  | selecting (batch : HistoryBatch)
  | deleting (batch : HistoryBatch) (staleIds : List Nat)
  | inserting (request : PersistenceRequest) (sample : SampleRecord)
  | calling (table : String)
  | ended
  deriving DecidableEq

structure PersistenceConfig where
  capacity : Nat
  samplePeriodMs : Nat

structure PersistenceWorker where
  table : TemperatureSamples
  queue : List PersistenceRequest
  overflowCount : Nat
  activity : Activity
  results : List (PersistenceRequest × PersistenceResult)

-- `raise` and `cancel` interrupt a call; its statement may have taken effect all the same.
inductive PersistenceEvent where
  | synchronize (history : HistorySync) (utcNow : Rat)
  | currentSample (observedAt : Rat) (snapshot : CurrentSnapshot) (temperatureC : SensorId → Option Rat)
  | missingInterval (observedAt : Rat) (reason : String)
  | other (table : String)
  | start
  | take
  | execute
  | raise (committed : Bool) (message : String)
  | cancel (committed : Bool)
  | stopped

namespace PersistenceWorker

variable (config : PersistenceConfig) (s : PersistenceWorker)

def initial (table : TemperatureSamples) : PersistenceWorker := ⟨table,[],0,.absent,[]⟩

def resolve (request : PersistenceRequest) (result : PersistenceResult) : PersistenceWorker :=
  { s with results := s.results ++ [(request,result)] }

def enqueue (request : PersistenceRequest) : PersistenceWorker :=
  if s.queue.length < config.capacity then { s with queue := s.queue ++ [request] }
  else
    { s with overflowCount := s.overflowCount + 1 }.resolve request
      ⟨true,false,some "persistence queue is full; this record was not queued"⟩

def request : Option PersistenceRequest :=
  match s.activity with
  | .upserting batch _ => some (.upsertHistory batch)
  | .selecting batch | .deleting batch _ => some (.reconcileProvisionalIntervals batch)
  | .inserting request _ => some request
  | .calling table => some (.publishOther table)
  | _ => none

def take : Option PersistenceWorker :=
  match s.activity,s.queue with
  | .waiting,request :: rest =>
    some { s with
      queue := rest
      activity :=
        match request with
        | .upsertHistory batch => .upserting batch (historyGroups batch.samples)
        | .reconcileProvisionalIntervals batch => .selecting batch
        | .publishCurrentSample sample | .publishMissingInterval sample => .inserting request sample
        | .publishOther table => .calling table }
  | _,_ => none

def committed : Option TemperatureSamples :=
  match s.activity with
  | .upserting _ (group :: _) => executeGroup s.table group
  | .deleting _ staleIds => some (deleteStale s.table staleIds)
  | .inserting _ sample => (publishOne s.table sample).map Prod.fst
  | _ => some s.table

def interrupted (effective : Bool) : Option TemperatureSamples := if effective then s.committed else some s.table

def execute : Option PersistenceWorker :=
  match s.activity with
  | .upserting batch (group :: rest) => do
    let table ← executeGroup s.table group
    return { s with table := table, activity := .upserting batch rest }
  | .upserting batch [] =>
    some { s.resolve (.upsertHistory batch)
      ⟨true,true,some s!"history batch: {batch.samples.length} samples stored or already present"⟩ with activity := .waiting }
  | .selecting batch =>
    if batch.samples = [] then
      some { s.resolve (.reconcileProvisionalIntervals batch)
        ⟨true,true,some "no history samples to reconcile against"⟩ with activity := .waiting }
    else
      match staleIds config.samplePeriodMs s.table batch with
      | [] =>
        some { s.resolve (.reconcileProvisionalIntervals batch)
          ⟨true,true,some "removed 0 provisional row(s) superseded by recovered history"⟩ with activity := .waiting }
      | stale => some { s with activity := .deleting batch stale }
  | .deleting batch staleIds =>
    some { s.resolve (.reconcileProvisionalIntervals batch)
      ⟨true,true,some s!"removed {staleIds.length} provisional row(s) superseded by recovered history"⟩ with
      table := deleteStale s.table staleIds
      activity := .waiting }
  | .inserting request sample => do
    let (table,result) ← publishOne s.table sample
    return { s.resolve request result with table := table, activity := .waiting }
  | .calling table =>
    some { s.resolve (.publishOther table) ⟨true,false,some s!"no {table} table; scope decision pending"⟩ with
      activity := .waiting }
  | _ => none

-- `_database_call` turns an exception into a result; the worker goes on.
def raised (effective : Bool) (message : String) : Option PersistenceWorker := do
  let request ← s.request
  let table ← s.interrupted effective
  return { s.resolve request ⟨true,false,some message⟩ with table := table, activity := .waiting }

def cancelled (effective : Bool) : Option PersistenceWorker :=
  match s.activity with
  | .absent | .ended => none
  | .waiting => some { s with activity := .ended }
  | _ => do
    let request ← s.request
    let table ← s.interrupted effective
    return { s.resolve request ⟨true,false,some "persistence worker stopped"⟩ with table := table, activity := .ended }

def failPending (detail : String) : PersistenceWorker :=
  { s with
    queue := []
    results := s.results ++ s.queue.map fun request => (request,⟨true,false,some detail⟩) }

def step : PersistenceEvent → Option PersistenceWorker
  | .synchronize history utcNow =>
    let batch := buildHistoryBatch history utcNow
    some ((s.enqueue config (.upsertHistory batch)).enqueue config (.reconcileProvisionalIntervals batch))
  | .currentSample observedAt snapshot temperatureC =>
    some (s.enqueue config (.publishCurrentSample (Client.currentSample observedAt snapshot temperatureC)))
  | .missingInterval observedAt reason =>
    some (s.enqueue config (.publishMissingInterval (Client.missingInterval observedAt reason)))
  | .other table => some (s.enqueue config (.publishOther table))
  -- The service does not start its worker while a `stop` waits for it.
  | .start =>
    match s.activity with
    | .absent => some { s with activity := .waiting }
    | .ended => none
    | _ => some s
  | .take => s.take
  | .execute => s.execute config
  | .raise effective message => s.raised effective message
  | .cancel effective => s.cancelled effective
  | .stopped =>
    if s.activity = .ended then
      some { s.failPending "service stopped before persistence completed" with activity := .absent }
    else none

def StoredSample (t : TemperatureSamples) (sample : SampleRecord) : Prop :=
  ∃ row ∈ t.rows, row.key = sample.key ∧ row.recordSource ≠ .provisional

def Stored (t : TemperatureSamples) (batch : HistoryBatch) : Prop := ∀ sample ∈ batch.samples, StoredSample t sample

def Unkeyed (t : TemperatureSamples) : Prop := ∀ row ∈ t.rows, row.recordSource = .provisional → row.key = none

def Historical (sample : SampleRecord) : Prop :=
  sample.key.isSome ∧ ∃ columns, sampleParams sample = some columns ∧ columns.key = sample.key ∧ columns.recordSource = .history

def Insertable (sample : SampleRecord) : Prop :=
  ∀ columns, sampleParams sample = some columns → columns.recordSource = .provisional → columns.key = none

variable {t : TemperatureSamples}

theorem upsert_unkeyed (unkeyed : Unkeyed t) (history : columns.recordSource = .history) : Unkeyed (t.upsert columns) := by
  intro row member provisional
  rcases TemperatureSamples.mem_of_upsert member with old | new | ⟨old,present,changed⟩
  · exact unkeyed row old provisional
  · rw [new,history] at provisional
    cases provisional
  · rw [changed] at provisional ⊢
    exact unkeyed old present provisional

theorem upsert_stored (columns : SampleColumns) (stored : StoredSample t sample) : StoredSample (t.upsert columns) sample := by
  obtain ⟨row,member,key,source⟩ := stored
  rcases TemperatureSamples.mem_upsert columns member with same | changed
  · exact ⟨row,same,key,source⟩
  · exact ⟨_,changed,key,source⟩

theorem upsert_stores (unkeyed : Unkeyed t) (historical : Historical sample) (params : sampleParams sample = some columns) :
    StoredSample (t.upsert columns) sample := by
  obtain ⟨present,other,same,key,history⟩ := historical
  rw [params] at same
  cases same
  obtain ⟨name,named⟩ := Option.isSome_iff_exists.mp present
  obtain ⟨row,member,held,source⟩ := TemperatureSamples.upsert_taken (key.trans named)
  refine ⟨row,member,held.trans named.symm,fun provisional => ?_⟩
  rcases source with same | ⟨old,earlier,taken,same⟩
  · rw [same,history] at provisional
    cases provisional
  · rw [unkeyed old earlier (same ▸ provisional)] at taken
    cases taken

theorem executeGroup_stores {group : List SampleRecord} (unkeyed : Unkeyed t) (historical : ∀ sample ∈ group, Historical sample)
    (executed : executeGroup t group = some after) :
    Unkeyed after ∧ (∀ sample, StoredSample t sample → StoredSample after sample) ∧ ∀ sample ∈ group, StoredSample after sample := by
  induction group generalizing t after with
  | nil =>
    cases executed
    exact ⟨unkeyed,fun _ stored => stored,by simp⟩
  | cons first rest ih =>
    obtain ⟨values,mapped,folded⟩ := Option.bind_eq_some_iff.mp executed
    rw [List.mapM_cons] at mapped
    obtain ⟨columns,params,mapped⟩ := Option.bind_eq_some_iff.mp mapped
    obtain ⟨later,remaining,joined⟩ := Option.bind_eq_some_iff.mp mapped
    cases joined
    cases folded
    have fresh := historical first List.mem_cons_self
    have history : columns.recordSource = .history := by
      obtain ⟨_,other,same,_,source⟩ := fresh
      rw [params] at same
      cases same
      exact source
    have tail : executeGroup (t.upsert columns) rest = some (later.foldl TemperatureSamples.upsert (t.upsert columns)) := by
      rw [executeGroup,remaining]
      rfl
    obtain ⟨clean,keeps,stores⟩ := ih (upsert_unkeyed unkeyed history)
      (fun sample member => historical sample (List.mem_cons_of_mem _ member)) tail
    rw [List.foldl_cons]
    refine ⟨clean,fun sample stored => keeps sample (upsert_stored columns stored),fun sample member => ?_⟩
    rcases List.mem_cons.mp member with rfl | among
    · exact keeps _ (upsert_stores unkeyed fresh params)
    · exact stores sample among

theorem publishOne_stores {sample : SampleRecord} (unkeyed : Unkeyed t) (insertable : Insertable sample)
    (published : publishOne t sample = some (after,result)) : Unkeyed after ∧ ∀ row ∈ t.rows, row ∈ after.rows := by
  obtain ⟨columns,params,published⟩ := Option.bind_eq_some_iff.mp published
  dsimp only [pure] at published
  split at published
  · rename_i stored inserted
    cases published
    unfold TemperatureSamples.insert at inserted
    split at inserted
    · cases inserted
      refine ⟨fun row member provisional => ?_,fun row member => List.mem_append_left _ member⟩
      rcases List.mem_append.mp member with old | new
      · exact unkeyed row old provisional
      · cases List.mem_singleton.mp new
        exact insertable columns params provisional
    · cases inserted
  · cases published
    exact ⟨unkeyed,fun _ member => member⟩

theorem deleteStale_keeps (stale : List Nat) (member : row ∈ t.rows) (kept : row.recordSource ≠ .provisional ∨ row.id ∉ stale) :
    row ∈ (deleteStale t stale).rows := by
  refine List.mem_filter.mpr ⟨member,?_⟩
  rcases kept with source | outside
  · simp [source]
  · simp [outside]

theorem deleteStale_stored (stale : List Nat) (stored : StoredSample t sample) : StoredSample (deleteStale t stale) sample := by
  obtain ⟨row,member,key,source⟩ := stored
  exact ⟨row,deleteStale_keeps stale member (.inl source),key,source⟩

theorem stored_of_keeps (keeps : ∀ row ∈ t.rows, row ∈ after.rows) (stored : StoredSample t sample) : StoredSample after sample := by
  obtain ⟨row,member,key,source⟩ := stored
  exact ⟨row,keeps row member,key,source⟩

theorem historyReading_id (entry : SensorId → Option TimedHistoryRecord) (sensorId : SensorId) :
    (historyReading entry sensorId).sensorId = sensorId.number := by
  unfold historyReading
  split <;> rfl

theorem params_source (params : sampleParams sample = some columns) : columns.recordSource = sample.source ∧ columns.key = sample.key := by
  obtain ⟨sensor1,_,params⟩ := Option.bind_eq_some_iff.mp params
  obtain ⟨sensor2,_,params⟩ := Option.bind_eq_some_iff.mp params
  cases params
  exact ⟨rfl,rfl⟩

theorem historySample_historical (bootId : UInt32) (utcNow : Rat) (entry : UInt32 × (SensorId → Option TimedHistoryRecord)) :
    Historical (historySample bootId utcNow entry) := by
  have both : List.finRange sensorCount = [0,1] := rfl
  have first : (historySample bootId utcNow entry).sensorReadings.reverse.find? (·.sensorId = 1) =
      some (historyReading entry.2 0) := by
    simp [historySample,both,historyReading_id,SensorId.number]
  have second : (historySample bootId utcNow entry).sensorReadings.reverse.find? (·.sensorId = 2) =
      some (historyReading entry.2 1) := by
    simp [historySample,both,historyReading_id,SensorId.number]
  obtain ⟨columns,params⟩ : ∃ columns, sampleParams (historySample bootId utcNow entry) = some columns := by
    rw [sampleParams,first,second]
    exact ⟨_,rfl⟩
  exact ⟨rfl,columns,params,(params_source params).2,(params_source params).1⟩

theorem buildHistoryBatch_historical (history : HistorySync) (utcNow : Rat) :
    ∀ sample ∈ (buildHistoryBatch history utcNow).samples, Historical sample := by
  intro sample member
  obtain ⟨entry,_,rfl⟩ := List.mem_map.mp ((List.mergeSort_perm _ _).mem_iff.mp member)
  exact historySample_historical _ _ _

theorem currentSample_insertable (observedAt : Rat) (snapshot : CurrentSnapshot) (temperatureC : SensorId → Option Rat) :
    Insertable (currentSample observedAt snapshot temperatureC) := by
  intro columns params provisional
  rw [(params_source params).1] at provisional
  cases provisional

theorem missingInterval_insertable (observedAt : Rat) (reason : String) : Insertable (missingInterval observedAt reason) := by
  intro columns params _
  rw [(params_source params).2]
  rfl

def Preceded (t : TemperatureSamples) (active : Option PersistenceRequest) (queue : List PersistenceRequest) : Prop :=
  ∀ before batch after, queue = before ++ .reconcileProvisionalIntervals batch :: after →
    Stored t batch ∨ .upsertHistory batch ∈ before ∨ active = some (.upsertHistory batch)

def WellFormed : PersistenceRequest → Prop
  | .upsertHistory batch | .reconcileProvisionalIntervals batch => ∀ sample ∈ batch.samples, Historical sample
  | .publishCurrentSample sample | .publishMissingInterval sample => Insertable sample
  | .publishOther _ => True

def Advanced (samplePeriodMs : Nat) (s : PersistenceWorker) : Prop :=
  match s.activity with
  | .upserting batch groups =>
    (∀ group ∈ groups, ∀ sample ∈ group, Historical sample) ∧
    ∀ sample ∈ batch.samples, StoredSample s.table sample ∨ ∃ group ∈ groups, sample ∈ group
  | .selecting batch => Stored s.table batch ∧ ∀ sample ∈ batch.samples, Historical sample
  | .deleting batch staleIds =>
    (Stored s.table batch ∧ ∀ sample ∈ batch.samples, Historical sample) ∧ ∀ row ∈ s.table.rows, row.id ∈ staleIds →
      ∃ sample ∈ batch.samples, near samplePeriodMs row.observedAtUtc sample = true
  | .inserting request sample => Insertable sample ∧ ∀ batch, request ≠ .upsertHistory batch
  | _ => True

structure Sound (samplePeriodMs : Nat) (s : PersistenceWorker) : Prop where
  unkeyed : Unkeyed s.table
  wellFormed : ∀ request ∈ s.queue, WellFormed request
  advanced : Advanced samplePeriodMs s
  preceded : s.activity ≠ .ended → Preceded s.table s.request s.queue

-- A call of `upsert_history` that raises has stored every sample of its batch.
def Uninterrupted (s : PersistenceWorker) (event : PersistenceEvent) : Prop :=
  ∀ batch groups effective message t, s.activity = .upserting batch groups → event = .raise effective message →
    s.interrupted effective = some t → Stored t batch

variable {config : PersistenceConfig} {s next : PersistenceWorker} {after : TemperatureSamples}
variable {active : Option PersistenceRequest} {queue : List PersistenceRequest} {request : PersistenceRequest}

theorem Preceded.grow (preceded : Preceded t active queue) (grows : ∀ sample, StoredSample t sample → StoredSample after sample) :
    Preceded after active queue := by
  intro before batch rest split
  rcases preceded before batch rest split with stored | later
  · exact .inl fun sample member => grows sample (stored sample member)
  · exact .inr later

theorem Preceded.enqueue (preceded : Preceded t active queue)
    (justified : ∀ batch, request = .reconcileProvisionalIntervals batch →
      Stored t batch ∨ .upsertHistory batch ∈ queue ∨ active = some (.upsertHistory batch)) :
    Preceded t active (queue ++ [request]) := by
  intro before batch rest split
  rcases List.eq_nil_or_concat rest with rfl | ⟨between,last,rfl⟩
  · obtain ⟨rfl,same⟩ := List.append_inj' split rfl
    exact justified batch (List.singleton_inj.mp same)
  · have shifted : queue ++ [request] = (before ++ .reconcileProvisionalIntervals batch :: between) ++ [last] := by simpa using split
    exact preceded before batch between (List.append_inj' shifted rfl).1

theorem Sound.committed (sound : Sound samplePeriodMs s) (done : s.committed = some after) :
    Unkeyed after ∧ (∀ sample, StoredSample s.table sample → StoredSample after sample) ∧
    (∀ row ∈ s.table.rows, row.recordSource = .provisional → row ∉ after.rows →
      ∃ batch staleIds, s.activity = .deleting batch staleIds ∧ row.id ∈ staleIds) := by
  have advanced := sound.advanced
  unfold Advanced at advanced
  unfold PersistenceWorker.committed at done
  split at done
  · rename_i batch group rest activity
    rw [activity] at advanced
    obtain ⟨unkeyed,keeps,_⟩ := executeGroup_stores sound.unkeyed (advanced.1 group List.mem_cons_self) done
    refine ⟨unkeyed,keeps,fun row member provisional gone => absurd ?_ gone⟩
    obtain ⟨values,_,folded⟩ := Option.bind_eq_some_iff.mp done
    cases folded
    refine TemperatureSamples.fold_keeps values member ?_
    rw [provisional]
    nofun
  · rename_i batch staleIds activity
    cases done
    refine ⟨fun row member => sound.unkeyed row (List.mem_filter.mp member).1,fun sample => deleteStale_stored staleIds,
      fun row member _ gone => ⟨batch,staleIds,activity,?_⟩⟩
    by_contra outside
    exact gone (deleteStale_keeps staleIds member (.inr outside))
  · rename_i request sample activity
    rw [activity] at advanced
    obtain ⟨⟨table,result⟩,published,same⟩ := Option.map_eq_some_iff.mp done
    cases same
    obtain ⟨unkeyed,keeps⟩ := publishOne_stores sound.unkeyed advanced.1 published
    exact ⟨unkeyed,fun sample => stored_of_keeps keeps,fun row member _ gone => absurd (keeps row member) gone⟩
  · cases done
    exact ⟨sound.unkeyed,fun _ stored => stored,fun row member _ gone => absurd member gone⟩

theorem Sound.leave (sound : Sound samplePeriodMs s) (table : TemperatureSamples) (unkeyed : Unkeyed table)
    (grows : ∀ sample, StoredSample s.table sample → StoredSample table sample) (running : s.activity ≠ .ended)
    (finished : ∀ batch, s.request = some (.upsertHistory batch) → Stored table batch)
    (results : List (PersistenceRequest × PersistenceResult)) :
    Sound samplePeriodMs { s with table := table, activity := .waiting, results := results } where
  unkeyed := unkeyed
  wellFormed := sound.wellFormed
  advanced := trivial
  preceded _ := by
    intro before batch rest split
    rcases (sound.preceded running).grow grows before batch rest split with stored | ahead | active
    · exact .inl stored
    · exact .inr (.inl ahead)
    · exact .inl (finished batch active)

theorem Sound.enqueue (sound : Sound samplePeriodMs s) (wellFormed : WellFormed request)
    (justified : ∀ batch, request = .reconcileProvisionalIntervals batch →
      Stored s.table batch ∨ .upsertHistory batch ∈ s.queue ∨ s.request = some (.upsertHistory batch)) :
    Sound samplePeriodMs (s.enqueue config request) := by
  unfold PersistenceWorker.enqueue
  split
  · refine ⟨sound.unkeyed,fun other member => ?_,sound.advanced,fun running => (sound.preceded running).enqueue justified⟩
    rcases List.mem_append.mp member with old | new
    · exact sound.wellFormed other old
    · cases List.mem_singleton.mp new
      exact wellFormed
  · exact ⟨sound.unkeyed,sound.wellFormed,sound.advanced,sound.preceded⟩

theorem Sound.synchronize (sound : Sound samplePeriodMs s) {batch : HistoryBatch}
    (historical : ∀ sample ∈ batch.samples, Historical sample) :
    Sound samplePeriodMs ((s.enqueue config (.upsertHistory batch)).enqueue config (.reconcileProvisionalIntervals batch)) := by
  have first : Sound samplePeriodMs (s.enqueue config (.upsertHistory batch)) := sound.enqueue historical nofun
  by_cases room : s.queue.length < config.capacity
  · refine first.enqueue historical fun other same => .inr (.inl ?_)
    cases same
    rw [PersistenceWorker.enqueue,if_pos room]
    exact List.mem_append_right _ (List.mem_singleton.mpr rfl)
  · rw [PersistenceWorker.enqueue,if_neg]
    · exact ⟨first.unkeyed,first.wellFormed,first.advanced,first.preceded⟩
    · rw [PersistenceWorker.enqueue,if_neg room]
      exact room

theorem request_waiting (waiting : s.activity = .waiting) : s.request = none := by
  rw [PersistenceWorker.request,waiting]

theorem Sound.take (sound : Sound samplePeriodMs s) (taken : s.take = some next) : Sound samplePeriodMs next := by
  unfold PersistenceWorker.take at taken
  split at taken
  · rename_i first rest waiting queued
    cases taken
    have behind : Preceded s.table none s.queue := by
      have preceded := sound.preceded (by rw [waiting]; nofun)
      rw [request_waiting waiting] at preceded
      exact preceded
    have wellFormed : WellFormed first := sound.wellFormed first (by rw [queued]; exact List.mem_cons_self)
    refine ⟨sound.unkeyed,fun other member => sound.wellFormed other (by rw [queued]; exact List.mem_cons_of_mem _ member),
      ?_,fun _ before batch after split => ?_⟩
    · cases first with
      | upsertHistory batch =>
        refine ⟨fun group member sample among => wellFormed sample ?_,fun sample member => .inr ?_⟩
        · rw [← historyGroups_flatten batch.samples]
          exact List.mem_flatten.mpr ⟨group,member,among⟩
        · rw [← historyGroups_flatten batch.samples] at member
          exact List.mem_flatten.mp member
      | reconcileProvisionalIntervals batch =>
        rcases behind [] batch rest queued with stored | ahead | active
        · exact ⟨stored,wellFormed⟩
        · cases ahead
        · cases active
      | publishCurrentSample sample => exact ⟨wellFormed,nofun⟩
      | publishMissingInterval sample => exact ⟨wellFormed,nofun⟩
      | publishOther table => trivial
    · dsimp only at split
      rcases behind (first :: before) batch after (by rw [queued,split]; rfl) with stored | ahead | active
      · exact .inl stored
      · rcases List.mem_cons.mp ahead with rfl | later
        · exact .inr (.inr rfl)
        · exact .inr (.inl later)
      · cases active
  · cases taken

theorem Sound.finished (sound : Sound samplePeriodMs s) (activity : s.activity = .upserting batch []) : Stored s.table batch := by
  have advanced := sound.advanced
  rw [Advanced,activity] at advanced
  intro sample member
  rcases advanced.2 sample member with stored | ⟨group,nothing,_⟩
  · exact stored
  · cases nothing

theorem staleIds_near {batch : HistoryBatch} (member : row ∈ t.rows) (stale : row.id ∈ staleIds samplePeriodMs t batch) :
    ∃ sample ∈ batch.samples, near samplePeriodMs row.observedAtUtc sample = true := by
  unfold staleIds at stale
  split at stale
  · obtain ⟨other,found,same⟩ := List.mem_map.mp stale
    obtain ⟨candidate,close⟩ := List.mem_filter.mp found
    have equal : other = row :=
      List.inj_on_of_nodup_map t.primaryKey.1 (List.mem_filter.mp candidate).1 member same
    rw [equal] at close
    exact List.any_eq_true.mp close
  · cases stale

theorem Sound.execute (sound : Sound config.samplePeriodMs s) (executed : s.execute config = some next) :
    Sound config.samplePeriodMs next := by
  have advanced := sound.advanced
  unfold Advanced at advanced
  unfold PersistenceWorker.execute at executed
  split at executed
  · rename_i batch group rest activity
    rw [activity] at advanced
    obtain ⟨table,ran,executed⟩ := Option.bind_eq_some_iff.mp executed
    cases executed
    obtain ⟨unkeyed,keeps,stores⟩ := executeGroup_stores sound.unkeyed (advanced.1 group List.mem_cons_self) ran
    refine ⟨unkeyed,sound.wellFormed,⟨fun other member => advanced.1 other (List.mem_cons_of_mem _ member),
      fun sample member => ?_⟩,fun _ => ?_⟩
    · rcases advanced.2 sample member with stored | ⟨other,among,inside⟩
      · exact .inl (keeps sample stored)
      · rcases List.mem_cons.mp among with rfl | later
        · exact .inl (stores sample inside)
        · exact .inr ⟨other,later,inside⟩
    · have preceded := (sound.preceded (by rw [activity]; nofun)).grow keeps
      rw [PersistenceWorker.request,activity] at preceded
      exact preceded
  · rename_i batch activity
    cases executed
    refine sound.leave s.table sound.unkeyed (fun _ stored => stored) (by rw [activity]; nofun) (fun other active => ?_) _
    rw [PersistenceWorker.request,activity] at active
    cases active
    exact sound.finished activity
  · rename_i batch activity
    have leave (results : List (PersistenceRequest × PersistenceResult)) :
        Sound config.samplePeriodMs { s with activity := .waiting, results := results } := by
      refine sound.leave s.table sound.unkeyed (fun _ stored => stored) (by rw [activity]; nofun) (fun other active => ?_) results
      rw [PersistenceWorker.request,activity] at active
      cases active
    split at executed
    · cases executed
      exact leave _
    · split at executed
      · cases executed
        exact leave _
      · cases executed
        rw [activity] at advanced
        refine ⟨sound.unkeyed,sound.wellFormed,⟨advanced,fun row member stale => staleIds_near member stale⟩,fun _ => ?_⟩
        have preceded := sound.preceded (by rw [activity]; nofun)
        rw [PersistenceWorker.request,activity] at preceded
        exact preceded
  · rename_i batch staleIds activity
    cases executed
    have done : s.committed = some (deleteStale s.table staleIds) := by rw [PersistenceWorker.committed,activity]
    obtain ⟨unkeyed,keeps,_⟩ := sound.committed done
    refine sound.leave _ unkeyed keeps (by rw [activity]; nofun) (fun other active => ?_) _
    rw [PersistenceWorker.request,activity] at active
    cases active
  · rename_i request sample activity
    obtain ⟨⟨table,result⟩,published,executed⟩ := Option.bind_eq_some_iff.mp executed
    cases executed
    have done : s.committed = some table := by rw [PersistenceWorker.committed,activity]; simp [published]
    obtain ⟨unkeyed,keeps,_⟩ := sound.committed done
    refine sound.leave _ unkeyed keeps (by rw [activity]; nofun) (fun other active => ?_) _
    rw [activity] at advanced
    rw [PersistenceWorker.request,activity] at active
    exact absurd (Option.some.inj active) (advanced.2 other)
  · rename_i table activity
    cases executed
    refine sound.leave s.table sound.unkeyed (fun _ stored => stored) (by rw [activity]; nofun) (fun other active => ?_) _
    rw [PersistenceWorker.request,activity] at active
    cases active
  · cases executed

theorem Sound.interrupted (sound : Sound samplePeriodMs s) (left : s.interrupted effective = some after) :
    Unkeyed after ∧ ∀ sample, StoredSample s.table sample → StoredSample after sample := by
  cases effective with
  | true =>
    obtain ⟨unkeyed,keeps,_⟩ := sound.committed left
    exact ⟨unkeyed,keeps⟩
  | false =>
    cases left
    exact ⟨sound.unkeyed,fun _ stored => stored⟩

theorem Sound.upserting (sound : Sound samplePeriodMs s) (active : s.request = some (.upsertHistory batch)) :
    ∃ groups, s.activity = .upserting batch groups := by
  have advanced := sound.advanced
  unfold Advanced at advanced
  unfold PersistenceWorker.request at active
  split at active
  · rename_i groups activity
    cases active
    exact ⟨groups,activity⟩
  · cases active
  · cases active
  · rename_i request sample activity
    rw [activity] at advanced
    exact absurd (Option.some.inj active) (advanced.2 batch)
  · cases active
  · cases active

theorem Sound.raised (sound : Sound samplePeriodMs s) (uninterrupted : Uninterrupted s (.raise effective message))
    (raised : s.raised effective message = some next) : Sound samplePeriodMs next := by
  obtain ⟨request,active,raised⟩ := Option.bind_eq_some_iff.mp raised
  obtain ⟨table,left,raised⟩ := Option.bind_eq_some_iff.mp raised
  cases raised
  obtain ⟨unkeyed,keeps⟩ := sound.interrupted left
  refine sound.leave table unkeyed keeps (fun ended => ?_) (fun batch upsert => ?_) _
  · rw [PersistenceWorker.request,ended] at active
    cases active
  · obtain ⟨groups,activity⟩ := sound.upserting upsert
    exact uninterrupted batch groups effective message table activity rfl left

theorem Sound.cancelled (sound : Sound samplePeriodMs s) (cancelled : s.cancelled effective = some next) :
    Sound samplePeriodMs next := by
  unfold PersistenceWorker.cancelled at cancelled
  split at cancelled
  · cases cancelled
  · cases cancelled
  · cases cancelled
    exact ⟨sound.unkeyed,sound.wellFormed,trivial,fun running => absurd rfl running⟩
  · obtain ⟨request,_,cancelled⟩ := Option.bind_eq_some_iff.mp cancelled
    obtain ⟨table,left,cancelled⟩ := Option.bind_eq_some_iff.mp cancelled
    cases cancelled
    exact ⟨(sound.interrupted left).1,sound.wellFormed,trivial,fun running => absurd rfl running⟩

theorem Sound.step (sound : Sound config.samplePeriodMs s) (uninterrupted : Uninterrupted s event)
    (stepped : s.step config event = some next) : Sound config.samplePeriodMs next := by
  cases event with
  | synchronize history utcNow =>
    cases stepped
    exact sound.synchronize (buildHistoryBatch_historical history utcNow)
  | currentSample observedAt snapshot temperatureC =>
    cases stepped
    exact sound.enqueue (currentSample_insertable observedAt snapshot temperatureC) nofun
  | missingInterval observedAt reason =>
    cases stepped
    exact sound.enqueue (missingInterval_insertable observedAt reason) nofun
  | other table =>
    cases stepped
    exact sound.enqueue trivial nofun
  | start =>
    dsimp only [PersistenceWorker.step] at stepped
    split at stepped
    · rename_i absent
      cases stepped
      refine ⟨sound.unkeyed,sound.wellFormed,trivial,fun _ => ?_⟩
      have preceded := sound.preceded (by rw [absent]; nofun)
      rw [PersistenceWorker.request,absent] at preceded
      exact preceded
    · cases stepped
    · cases stepped
      exact sound
  | take => exact sound.take stepped
  | execute => exact sound.execute stepped
  | raise effective message => exact sound.raised uninterrupted stepped
  | cancel effective => exact sound.cancelled stepped
  | stopped =>
    dsimp only [PersistenceWorker.step] at stepped
    split at stepped
    · cases stepped
      refine ⟨sound.unkeyed,by simp [failPending],trivial,fun _ before batch rest split => ?_⟩
      simp [failPending] at split
    · cases stepped

theorem sound_initial (unkeyed : Unkeyed t) : Sound samplePeriodMs (initial t) where
  unkeyed := unkeyed
  wellFormed := by simp [initial]
  advanced := trivial
  preceded _ before batch rest split := by simp [initial] at split

theorem sound_reached {initial : TemperatureSamples} (unkeyed : Unkeyed initial)
    (path : Path (step config) Uninterrupted (PersistenceWorker.initial initial) trace s) : Sound config.samplePeriodMs s := by
  exact path.invariant (Sound config.samplePeriodMs) (sound_initial unkeyed)
    fun _ _ _ sound uninterrupted stepped => sound.step uninterrupted stepped

theorem enqueue_table (config : PersistenceConfig) (request : PersistenceRequest) : (s.enqueue config request).table = s.table := by
  unfold PersistenceWorker.enqueue
  split <;> rfl

theorem interrupted_table (left : s.interrupted effective = some after) : after = s.table ∨ s.committed = some after := by
  cases effective with
  | true => exact .inr left
  | false => exact .inl (Option.some.inj left).symm

theorem execute_table (executed : s.execute config = some next) : next.table = s.table ∨ s.committed = some next.table := by
  unfold PersistenceWorker.execute at executed
  split at executed
  · rename_i batch group rest activity
    obtain ⟨table,ran,executed⟩ := Option.bind_eq_some_iff.mp executed
    cases executed
    exact .inr (by rw [PersistenceWorker.committed,activity]; exact ran)
  · cases executed
    exact .inl rfl
  · split at executed
    · cases executed
      exact .inl rfl
    · split at executed
      · cases executed
        exact .inl rfl
      · cases executed
        exact .inl rfl
  · rename_i batch staleIds activity
    cases executed
    exact .inr (by rw [PersistenceWorker.committed,activity])
  · rename_i request sample activity
    obtain ⟨⟨table,result⟩,published,executed⟩ := Option.bind_eq_some_iff.mp executed
    cases executed
    exact .inr (by rw [PersistenceWorker.committed,activity]; simp [published])
  · cases executed
    exact .inl rfl
  · cases executed

theorem step_table (stepped : s.step config event = some next) : next.table = s.table ∨ s.committed = some next.table := by
  cases event with
  | synchronize history utcNow =>
    cases stepped
    exact .inl ((enqueue_table _ _).trans (enqueue_table _ _))
  | currentSample observedAt snapshot temperatureC =>
    cases stepped
    exact .inl (enqueue_table _ _)
  | missingInterval observedAt reason =>
    cases stepped
    exact .inl (enqueue_table _ _)
  | other table =>
    cases stepped
    exact .inl (enqueue_table _ _)
  | start =>
    dsimp only [PersistenceWorker.step] at stepped
    split at stepped
    · cases stepped
      exact .inl rfl
    · cases stepped
    · cases stepped
      exact .inl rfl
  | take =>
    dsimp only [PersistenceWorker.step,PersistenceWorker.take] at stepped
    split at stepped
    · cases stepped
      exact .inl rfl
    · cases stepped
  | execute => exact execute_table stepped
  | raise effective message =>
    obtain ⟨request,_,raised⟩ := Option.bind_eq_some_iff.mp stepped
    obtain ⟨table,left,raised⟩ := Option.bind_eq_some_iff.mp raised
    cases raised
    exact interrupted_table left
  | cancel effective =>
    dsimp only [PersistenceWorker.step,PersistenceWorker.cancelled] at stepped
    split at stepped
    · cases stepped
    · cases stepped
    · cases stepped
      exact .inl rfl
    · obtain ⟨request,_,cancelled⟩ := Option.bind_eq_some_iff.mp stepped
      obtain ⟨table,left,cancelled⟩ := Option.bind_eq_some_iff.mp cancelled
      cases cancelled
      exact interrupted_table left
  | stopped =>
    dsimp only [PersistenceWorker.step] at stepped
    split at stepped
    · cases stepped
      exact .inl rfl
    · cases stepped

def Superseded (samplePeriodMs : Nat) (t : TemperatureSamples) (batch : HistoryBatch) (row : TemperatureSample) : Prop :=
  ∃ sample ∈ batch.samples, near samplePeriodMs row.observedAtUtc sample = true ∧
    ∃ kept ∈ t.rows, kept.key = sample.key ∧ kept.key.isSome ∧ (kept.recordSource = .live ∨ kept.recordSource = .history)

-- Provided that no interrupted upsert leaves a sample of its batch out.
theorem provisional_rows_superseded {initial : TemperatureSamples} (unkeyed : Unkeyed initial)
    (path : Path (step config) Uninterrupted (PersistenceWorker.initial initial) trace s)
    (stepped : s.step config event = some next) :
    ∀ row ∈ s.table.rows, row.recordSource = .provisional → row ∉ next.table.rows →
      ∃ batch, s.request = some (.reconcileProvisionalIntervals batch) ∧
        Superseded config.samplePeriodMs next.table batch row := by
  intro row member provisional gone
  have sound := sound_reached unkeyed path
  rcases step_table stepped with same | done
  · rw [same] at gone
    exact absurd member gone
  · obtain ⟨_,keeps,deletes⟩ := sound.committed done
    obtain ⟨batch,staleIds,activity,stale⟩ := deletes row member provisional gone
    have advanced := sound.advanced
    rw [Advanced,activity] at advanced
    obtain ⟨⟨stored,historical⟩,close⟩ := advanced
    obtain ⟨sample,among,near⟩ := close row member stale
    obtain ⟨kept,present,key,source⟩ := keeps sample (stored sample among)
    refine ⟨batch,by rw [PersistenceWorker.request,activity],sample,among,near,kept,present,key,?_,?_⟩
    · rw [key]
      exact (historical sample among).1
    · cases origin : kept.recordSource with
      | live => exact .inl rfl
      | history => exact .inr rfl
      | provisional => exact absurd origin source

def workerConfig : PersistenceConfig := ⟨8,1000⟩

def recoveredSlot : HistorySync where
  historyMeta := ⟨7,1,fun _ => 1,fun _ => 1⟩
  anchor := ⟨7,1⟩
  records := [⟨0,1,10,some 21,.valid⟩,⟨1,1,10,some 21,.valid⟩]
  expectedCounts := fun _ => 1
  retrievedCounts := fun _ => 1
  complete := true
  elapsedSeconds := 1
  failureReason := none

def missedSlot : List PersistenceEvent :=
  [.start,.missingInterval 10 "timed out",.take,.execute,.synchronize recoveredSlot 11,.take]

def quiet (_ : PersistenceWorker) : PersistenceEvent → Bool
  | .raise _ _ => false
  | _ => true

theorem provisional_rows_superseded_slot :
    ∃ trace s next row batch, Path (step workerConfig) Uninterrupted (initial emptySamples) trace s ∧
      s.step workerConfig .execute = some next ∧ row ∈ s.table.rows ∧ row ∉ next.table.rows ∧
      Superseded workerConfig.samplePeriodMs next.table batch row := by
  have passed : (run (guarded (step workerConfig) quiet) (initial emptySamples)
      (missedSlot ++ [.execute,.execute,.take,.execute])).any (fun s => (s.step workerConfig .execute).any fun next =>
        s.table.rows.any fun row => row.recordSource = .provisional && !next.table.rows.contains row) = true := by
    decide +kernel
  obtain ⟨trace,s,path,checked⟩ := guarded_checked passed
  obtain ⟨next,stepped,found⟩ := (Option.any_eq_true _ _).mp checked
  obtain ⟨row,member,placed⟩ := List.any_eq_true.mp found
  obtain ⟨provisional,gone⟩ := Bool.and_eq_true_iff.mp placed
  have uninterrupted : Path (step workerConfig) Uninterrupted (initial emptySamples) trace s := by
    refine path.weaken fun _ event ok batch groups effective message t activity same => ?_
    rw [same] at ok
    cases ok
  have outside : row ∉ next.table.rows := by simpa using gone
  obtain ⟨batch,_,superseded⟩ := provisional_rows_superseded (by simp [Unkeyed,emptySamples]) uninterrupted stepped row member
    (of_decide_eq_true provisional) outside
  exact ⟨trace,s,next,row,batch,uninterrupted,stepped,member,outside,superseded⟩

-- The upsert fails, the reconciliation behind it runs all the same.
theorem placeholder_lost :
    ∃ trace s next row, Path (step workerConfig) anyStep (initial emptySamples) trace s ∧
      s.step workerConfig .execute = some next ∧ row ∈ s.table.rows ∧ row.recordSource = .provisional ∧
      row ∉ next.table.rows ∧ ∀ batch, ¬ Superseded workerConfig.samplePeriodMs next.table batch row := by
  have passed : (run (step workerConfig) (initial emptySamples)
      (missedSlot ++ [.raise false "lost connection to the server",.take,.execute])).any
      (fun s => (s.step workerConfig .execute).any fun next =>
        next.table.rows.isEmpty && s.table.rows.any fun row => row.recordSource = .provisional) = true := by
    decide +kernel
  obtain ⟨trace,s,path,checked⟩ := run_checked passed
  obtain ⟨next,stepped,found⟩ := (Option.any_eq_true _ _).mp checked
  obtain ⟨empty,held⟩ := Bool.and_eq_true_iff.mp found
  obtain ⟨row,member,provisional⟩ := List.any_eq_true.mp held
  have nothing : next.table.rows = [] := List.isEmpty_iff.mp empty
  refine ⟨trace,s,next,row,path,stepped,member,of_decide_eq_true provisional,by rw [nothing]; nofun,fun batch superseded => ?_⟩
  obtain ⟨_,_,_,kept,present,_⟩ := superseded
  rw [nothing] at present
  cases present

end PersistenceWorker

end Thermometer.Client
