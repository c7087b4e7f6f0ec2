import Thermometer.Client.ReconcileIntervals
import Thermometer.Client.SampleWrites

-- Where the rows of the table come from, whatever calls reach it and wherever they break off.
namespace Thermometer.Client

inductive StoreCall where
  | write (write : Write)
  | reconcile (samplePeriodMs : Nat) (batch : HistoryBatch)

def StoreCall.apply (t : TemperatureSamples) : StoreCall → TemperatureSamples
  | .write call => (call.apply t).1
  | .reconcile samplePeriodMs batch => (reconcileProvisionalIntervals samplePeriodMs t batch).1

def StoreCall.samples : StoreCall → List SampleRecord
  | .write call => call.samples
  | .reconcile .. => []

def storeAfter (t : TemperatureSamples) (calls : List StoreCall) : TemperatureSamples := calls.foldl StoreCall.apply t

def Handed (samples : List SampleRecord) (columns : SampleColumns) : Prop :=
  ∃ sample ∈ samples, sampleParams sample = some columns

structure SourcedRow (samples : List SampleRecord) (row : SampleColumns) : Prop where
  time : ∃ columns, Handed samples columns ∧ columns.key = row.key ∧ columns.observedAtUtc = row.observedAtUtc
  fields : ∀ sensorId, ∃ columns, Handed samples columns ∧ columns.key = row.key ∧ columns.field sensorId = row.field sensorId

def Sourced (samples : List SampleRecord) (t : TemperatureSamples) : Prop :=
  ∀ row ∈ t.rows, SourcedRow samples row.toSampleColumns

variable {samples more : List SampleRecord} {columns row : SampleColumns} {t after : TemperatureSamples}

theorem Handed.mono (handed : Handed samples columns) (subset : samples ⊆ more) : Handed more columns := by
  obtain ⟨sample,member,params⟩ := handed
  exact ⟨sample,subset member,params⟩

theorem SourcedRow.mono (sourced : SourcedRow samples row) (subset : samples ⊆ more) : SourcedRow more row := by
  constructor
  · obtain ⟨columns,handed,same⟩ := sourced.time
    exact ⟨columns,handed.mono subset,same⟩
  · intro sensorId
    obtain ⟨columns,handed,same⟩ := sourced.fields sensorId
    exact ⟨columns,handed.mono subset,same⟩

theorem Sourced.mono (sourced : Sourced samples t) (subset : samples ⊆ more) : Sourced more t :=
  fun row member => (sourced row member).mono subset

theorem Handed.sourced (handed : Handed samples columns) : SourcedRow samples columns :=
  ⟨⟨columns,handed,rfl,rfl⟩,fun _ => ⟨columns,handed,rfl,rfl⟩⟩

theorem SourcedRow.updated (sourced : SourcedRow samples row) (handed : Handed samples columns) (same : columns.key = row.key) :
    SourcedRow samples (onDuplicateKeyUpdate row columns) := by
  constructor
  · obtain ⟨earlier,before,key,time⟩ := sourced.time
    exact ⟨earlier,before,key,time⟩
  · intro sensorId
    have field := merged_field columns row sensorId
    change (onDuplicateKeyUpdate row columns).field sensorId = _ at field
    rw [field]
    split
    · exact ⟨columns,handed,same,rfl⟩
    · exact sourced.fields sensorId

theorem upsert_sourced (sourced : Sourced samples t) (handed : Handed samples columns) : Sourced samples (t.upsert columns) := by
  intro row member
  unfold TemperatureSamples.upsert at member
  split at member
  · rcases List.mem_append.mp member with old | new
    · exact sourced row old
    · cases List.mem_singleton.mp new
      exact handed.sourced
  · split at member
    · exact sourced row member
    · rename_i key named
      obtain ⟨old,present,rfl⟩ := List.mem_map.mp member
      split
      · rename_i own
        exact (sourced old present).updated handed (named.trans own.symm)
      · exact sourced old present

theorem insert_sourced (sourced : Sourced samples t) (handed : Handed samples columns) (inserted : t.insert columns = some after) :
    Sourced samples after := by
  unfold TemperatureSamples.insert at inserted
  split at inserted
  · cases inserted
    intro row member
    rcases List.mem_append.mp member with old | new
    · exact sourced row old
    · cases List.mem_singleton.mp new
      exact handed.sourced
  · cases inserted

theorem keep_sourced (sourced : Sourced samples t) (kept : TemperatureSample → Bool) : Sourced samples (t.keep kept) :=
  fun row member => sourced row (List.mem_filter.mp member).1

theorem mapM_handed {group : List SampleRecord} {values : List SampleColumns} (subset : group ⊆ samples)
    (mapped : group.mapM sampleParams = some values) : ∀ columns ∈ values, Handed samples columns := by
  induction group generalizing values with
  | nil =>
    cases mapped
    intro columns member
    cases member
  | cons sample rest ih =>
    rw [List.mapM_cons] at mapped
    obtain ⟨first,params,mapped⟩ := Option.bind_eq_some_iff.mp mapped
    obtain ⟨others,later,joined⟩ := Option.bind_eq_some_iff.mp mapped
    cases joined
    obtain ⟨own,further⟩ := List.cons_subset.mp subset
    intro columns member
    rcases List.mem_cons.mp member with rfl | other
    · exact ⟨sample,own,params⟩
    · exact ih further later columns other

theorem upserts_sourced (values : List SampleColumns) (sourced : Sourced samples t)
    (handed : ∀ columns ∈ values, Handed samples columns) : Sourced samples (values.foldl TemperatureSamples.upsert t) := by
  induction values generalizing t with
  | nil => exact sourced
  | cons columns rest ih =>
    obtain ⟨own,further⟩ := List.forall_mem_cons.mp handed
    exact ih (upsert_sourced sourced own) further

theorem executeGroups_sourced (groups : List (List SampleRecord)) (sourced : Sourced samples t)
    (subset : ∀ group ∈ groups, group ⊆ samples) (executed : groups.foldlM executeGroup t = some after) :
    Sourced samples after := by
  induction groups generalizing t with
  | nil =>
    cases executed
    exact sourced
  | cons group rest ih =>
    obtain ⟨own,further⟩ := List.forall_mem_cons.mp subset
    rw [List.foldlM_cons] at executed
    obtain ⟨middle,first,later⟩ := Option.bind_eq_some_iff.mp executed
    obtain ⟨values,mapped,folded⟩ := Option.bind_eq_some_iff.mp first
    cases folded
    exact ih (upserts_sourced values sourced (mapM_handed own mapped)) further later

theorem groups_subset (samples : List SampleRecord) : ∀ group ∈ historyGroups samples, group ⊆ samples := by
  intro group member sample present
  rw [← historyGroups_flatten samples]
  exact List.mem_flatten.mpr ⟨group,member,present⟩

theorem publishOne_sourced {sample : SampleRecord} {result : PersistenceResult} (sourced : Sourced samples t) (member : sample ∈ samples)
    (published : publishOne t sample = some (after,result)) : Sourced samples after := by
  obtain ⟨columns,params,published⟩ := Option.bind_eq_some_iff.mp published
  cases inserted : t.insert columns with
  | some stored =>
    simp only [inserted] at published
    cases published
    exact insert_sourced sourced ⟨sample,member,params⟩ inserted
  | none =>
    simp only [inserted] at published
    cases published
    exact sourced

theorem write_sourced (call : Write) (sourced : Sourced samples t) (subset : call.samples ⊆ samples) :
    Sourced samples (call.apply t).1 := by
  cases call with
  | publish sample fault =>
    have member := subset List.mem_cons_self
    cases done : publishOne t sample with
    | none =>
      cases fault with
      | none => simpa [Write.apply,done] using sourced
      | some statements => simpa [Write.apply,done] using sourced
    | some stored =>
      have published := publishOne_sourced sourced member done
      cases fault with
      | none => simpa [Write.apply,done] using published
      | some statements =>
        simp only [Write.apply,done]
        split
        · exact sourced
        · exact published
  | upsert batch fault =>
    have groups : ∀ group ∈ historyGroups batch.samples, group ⊆ samples := fun group among =>
      List.Subset.trans (groups_subset batch.samples group among) subset
    cases fault with
    | none =>
      simp only [Write.apply]
      cases done : upsertHistory t batch with
      | none => exact sourced
      | some stored => exact executeGroups_sourced _ sourced groups done
    | some statements =>
      simp only [Write.apply]
      cases done : ((historyGroups batch.samples).take statements).foldlM executeGroup t with
      | none => exact sourced
      | some stored =>
        apply executeGroups_sourced _ sourced _ done
        intro group among
        exact groups group (List.mem_of_mem_take among)

theorem call_sourced (call : StoreCall) (sourced : Sourced samples t) (subset : call.samples ⊆ samples) :
    Sourced samples (call.apply t) := by
  cases call with
  | write call => exact write_sourced call sourced subset
  | reconcile samplePeriodMs batch =>
    unfold StoreCall.apply reconcileProvisionalIntervals
    dsimp only
    split
    · exact sourced
    · dsimp only
      split
      · exact sourced
      · exact keep_sourced sourced _

theorem store_sourced (calls : List StoreCall) : Sourced (calls.flatMap StoreCall.samples) (storeAfter emptySamples calls) := by
  induction calls using List.reverseRecOn with
  | nil =>
    intro row member
    cases member
  | append_singleton calls call ih =>
    rw [storeAfter,List.foldl_append,List.flatMap_append,List.flatMap_singleton]
    apply call_sourced call (ih.mono (List.subset_append_left _ _))
    exact List.subset_append_right _ _

end Thermometer.Client
