import Mathlib.Data.List.Find
import Thermometer.Client.HistoryCompleteness
import Thermometer.Client.HistoryMerge

-- The batch that comes out of a history transfer, for every set of retrieved records.
namespace Thermometer.Client
open Wire

abbrev RetrievedRecords := List ((SensorId × UInt32) × HistoryRecordValue)

def retrievedValue (records : RetrievedRecords) (sensorId : SensorId) (sequence : UInt32) : Option HistoryRecordValue :=
  (records.find? (·.1 = (sensorId,sequence))).map (·.2)

def retrievedReading (records : RetrievedRecords) (sequence : UInt32) (sensorId : SensorId) : SensorReading :=
  match retrievedValue records sensorId sequence with
  | none => ⟨sensorId.number,none,.notRetrieved⟩
  | some value => ⟨sensorId.number,value.temperatureC.map pythonFloat,DataStatus.name value.dataStatus⟩

def retrievedMean (records : RetrievedRecords) (sequence : UInt32) : Option Float :=
  match (retrievedReading records sequence 0).temperatureC,(retrievedReading records sequence 1).temperatureC with
  | some first,some second => some ((0 + first + second) / Float.ofNat 2)
  | _,_ => none

def ringOffset (anchorSequence sequence : UInt32) : Int :=
  if (anchorSequence - sequence).toNat ≤ 2147483647 then -(anchorSequence - sequence).toNat
  else (sequence - anchorSequence).toNat

structure BatchLaw (records : RetrievedRecords) (anchorSequence : UInt32) (anchorTime sampleSeconds : Rat)
    (samples : List SampleRecord) : Prop where
  single : (samples.map (·.sampleSequence)).Nodup
  sequences : ∀ sequence, (∃ sample ∈ samples, sample.sampleSequence = some sequence) ↔ ∃ entry ∈ records, entry.1.2 = sequence
  readings : ∀ sample ∈ samples, ∀ sequence, sample.sampleSequence = some sequence →
    sample.sensorReadings = (List.finRange sensorCount).map (retrievedReading records sequence)
  average : ∀ sample ∈ samples, ∀ sequence, sample.sampleSequence = some sequence →
    sample.averageTemperatureC = retrievedMean records sequence
  placed : ∀ sample ∈ samples, ∃ sequence, sample.sampleSequence = some sequence ∧
    sample.observedAtUtc = anchorTime + ringOffset anchorSequence sequence * sampleSeconds
  ordered : samples.Pairwise fun earlier later => ∃ first second,
    earlier.sampleSequence = some first ∧ later.sampleSequence = some second ∧
    ringOffset anchorSequence first < ringOffset anchorSequence second ∧
    earlier.observedAtUtc < later.observedAtUtc ∧
    later.observedAtUtc - earlier.observedAtUtc = (second - first).toNat * sampleSeconds

theorem sub_toNat (first second : UInt32) : (first - second).toNat = (2 ^ 32 - second.toNat + first.toNat) % 2 ^ 32 := by
  rw [UInt32.toNat_sub]

theorem ringOffset_bounds (anchorSequence sequence : UInt32) :
    -2 ^ 31 < ringOffset anchorSequence sequence ∧ ringOffset anchorSequence sequence ≤ 2 ^ 31 ∧
      (sequence.toNat : Int) = (anchorSequence.toNat + ringOffset anchorSequence sequence) % 2 ^ 32 := by
  have anchorBound := anchorSequence.toNat_lt
  have bound := sequence.toNat_lt
  have backward := sub_toNat anchorSequence sequence
  have forward := sub_toNat sequence anchorSequence
  unfold ringOffset
  split <;> omega

theorem ringOffset_difference {anchorSequence first second : UInt32}
    (less : ringOffset anchorSequence first < ringOffset anchorSequence second) :
    ((second - first).toNat : Int) = ringOffset anchorSequence second - ringOffset anchorSequence first := by
  obtain ⟨firstLow,firstHigh,firstPlace⟩ := ringOffset_bounds anchorSequence first
  obtain ⟨secondLow,secondHigh,secondPlace⟩ := ringOffset_bounds anchorSequence second
  have firstBound := first.toNat_lt
  have secondBound := second.toNat_lt
  have difference := sub_toNat second first
  omega

theorem ringOffset_inj {anchorSequence first second : UInt32}
    (same : ringOffset anchorSequence first = ringOffset anchorSequence second) : first = second := by
  have firstPlace := (ringOffset_bounds anchorSequence first).2.2
  have secondPlace := (ringOffset_bounds anchorSequence second).2.2
  rw [← same] at secondPlace
  apply UInt32.toNat_inj.mp
  omega

theorem timestamp_offset (anchorSequence : UInt32) (anchorTime : Rat) (sequence : UInt32) (sampleSeconds : Rat) :
    timestamp anchorSequence anchorTime sequence sampleSeconds =
      anchorTime + ringOffset anchorSequence sequence * sampleSeconds := by
  unfold timestamp ringOffset
  dsimp only
  split
  · push_cast
    ring
  · rfl

def Distinct (records : List TimedHistoryRecord) : Prop := (records.map fun record => (record.sensorId,record.sequence)).Nodup

abbrev Entries := List (UInt32 × (SensorId → Option TimedHistoryRecord))

def Filed (entries : Entries) (record : TimedHistoryRecord) : Prop :=
  ∃ entry ∈ entries, entry.1 = record.sequence ∧ (entry.2 record.sensorId).isSome

theorem assignRecord_filed (entries : Entries) (record : TimedHistoryRecord) : Filed (assignRecord entries record) record := by
  refine ⟨_,OrderedMap.mem_assign_self _ _ _,rfl,?_⟩
  simp

theorem Filed.assign (filed : Filed entries record) (distinct : (entries.map Prod.fst).Nodup) (other : TimedHistoryRecord) :
    Filed (assignRecord entries other) record := by
  obtain ⟨entry,member,sequence,present⟩ := filed
  by_cases same : entry.1 = other.sequence
  · refine ⟨_,OrderedMap.mem_assign_self _ _ _,same.symm.trans sequence,?_⟩
    cases found : entries.find? (·.1 = other.sequence) with
    | none =>
      have missing := List.find?_eq_none.mp found entry member
      exact absurd (decide_eq_true same) missing
    | some old =>
      have named : old.1 = other.sequence := by simpa using List.find?_some found
      have equal := OrderedMap.entry_unique distinct (List.mem_of_find?_eq_some found) member (named.trans same.symm)
      subst equal
      by_cases sensor : record.sensorId = other.sensorId
      · simp [sensor]
      · simp [sensor,present]
  · exact ⟨entry,OrderedMap.mem_assign_other member same,sequence,present⟩

theorem assignRecords_filed (records : List TimedHistoryRecord) (entries : Entries) (distinct : (entries.map Prod.fst).Nodup) :
    ((records.foldl assignRecord entries).map Prod.fst).Nodup ∧
      (∀ record ∈ records, Filed (records.foldl assignRecord entries) record) ∧
      ∀ record, Filed entries record → Filed (records.foldl assignRecord entries) record := by
  induction records generalizing entries with
  | nil => exact ⟨distinct,fun _ member => (List.not_mem_nil member).elim,fun _ filed => filed⟩
  | cons record rest ih =>
    obtain ⟨keys,later,earlier⟩ := ih (assignRecord entries record) (OrderedMap.assign_nodup distinct)
    refine ⟨keys,fun other member => ?_,fun other filed => earlier other (filed.assign distinct record)⟩
    rcases List.mem_cons.mp member with rfl | behind
    · exact earlier _ (assignRecord_filed entries _)
    · exact later other behind

theorem record_unique (distinct : Distinct records) (first : record ∈ records) (second : other ∈ records)
    (sensor : record.sensorId = other.sensorId) (sequence : record.sequence = other.sequence) : record = other :=
  List.inj_on_of_nodup_map distinct first second (Prod.ext sensor sequence)

theorem bySequence_entry (distinct : Distinct records) (member : entry ∈ bySequence records) (sensorId : SensorId) :
    entry.2 sensorId = records.find? fun record => (record.sensorId,record.sequence) = (sensorId,entry.1) := by
  have belongs : Belongs (· ∈ records) entry := by
    apply assignRecords_belongs (fun record among => among) _ entry member
    exact fun _ nothing => (List.not_mem_nil nothing).elim
  obtain ⟨keys,filed,_⟩ := assignRecords_filed records [] List.nodup_nil
  cases present : entry.2 sensorId with
  | some found =>
    obtain ⟨sequence,sensor,among⟩ := belongs sensorId found present
    cases searched : records.find? fun record => (record.sensorId,record.sequence) = (sensorId,entry.1) with
    | none =>
      have missing := List.find?_eq_none.mp searched found among
      exact absurd (decide_eq_true (Prod.ext sensor sequence)) missing
    | some other =>
      have same : (other.sensorId,other.sequence) = (sensorId,entry.1) := by simpa using List.find?_some searched
      obtain ⟨otherSensor,otherSequence⟩ := Prod.mk.inj same
      rw [record_unique distinct among (List.mem_of_find?_eq_some searched) (sensor.trans otherSensor.symm)
        (sequence.trans otherSequence.symm)]
  | none =>
    apply Eq.symm
    apply List.find?_eq_none.mpr
    intro record among matching
    obtain ⟨sensor,sequence⟩ := Prod.mk.inj (of_decide_eq_true matching)
    obtain ⟨place,at_,named,held⟩ := filed record among
    have equal : place = entry := OrderedMap.entry_unique keys at_ member (named.trans sequence)
    rw [equal,sensor,present] at held
    cases held

theorem assignRecords_named (records : List TimedHistoryRecord) (entries : Entries)
    (member : entry ∈ records.foldl assignRecord entries) :
    (∃ old ∈ entries, old.1 = entry.1) ∨ ∃ record ∈ records, record.sequence = entry.1 := by
  induction records generalizing entries with
  | nil => exact .inl ⟨entry,member,rfl⟩
  | cons record rest ih =>
    rcases ih (assignRecord entries record) member with ⟨old,present,same⟩ | ⟨other,behind,same⟩
    · rcases OrderedMap.mem_assign present with rfl | earlier
      · exact .inr ⟨record,List.mem_cons_self,same⟩
      · exact .inl ⟨old,earlier,same⟩
    · exact .inr ⟨other,List.mem_cons_of_mem _ behind,same⟩

theorem bySequence_sequences (records : List TimedHistoryRecord) (sequence : UInt32) :
    (∃ entry ∈ bySequence records, entry.1 = sequence) ↔ ∃ record ∈ records, record.sequence = sequence := by
  constructor
  · intro ⟨entry,member,same⟩
    rcases assignRecords_named records [] member with ⟨old,nothing,_⟩ | ⟨record,among,named⟩
    · exact (List.not_mem_nil nothing).elim
    · exact ⟨record,among,named.trans same⟩
  · intro ⟨record,among,same⟩
    obtain ⟨entry,member,named,_⟩ := (assignRecords_filed records [] List.nodup_nil).2.1 record among
    exact ⟨entry,member,named.trans same⟩

variable {records : RetrievedRecords} {anchor : CurrentSnapshot} {anchorTime sampleSeconds utcNow : Rat}

def timed (anchorSequence : UInt32) (anchorTime sampleSeconds : Rat) (entry : (SensorId × UInt32) × HistoryRecordValue) :
    TimedHistoryRecord :=
  ⟨entry.1.1,entry.2.sequence,timestamp anchorSequence anchorTime entry.2.sequence sampleSeconds,entry.2.temperatureC,
    entry.2.dataStatus⟩

structure Keyed (records : RetrievedRecords) : Prop where
  distinct : (records.map Prod.fst).Nodup
  sequences : ∀ entry ∈ records, entry.2.sequence = entry.1.2

theorem Keyed.timed_key (keyed : Keyed records) (member : entry ∈ records) :
    ((timed anchorSequence anchorTime sampleSeconds entry).sensorId,
      (timed anchorSequence anchorTime sampleSeconds entry).sequence) = entry.1 :=
  Prod.ext rfl (keyed.sequences entry member)

theorem Keyed.timed_distinct (keyed : Keyed records) :
    Distinct (records.map (timed anchorSequence anchorTime sampleSeconds)) := by
  have same : (records.map (timed anchorSequence anchorTime sampleSeconds)).map
      (fun record => (record.sensorId,record.sequence)) = records.map Prod.fst := by
    rw [List.map_map]
    apply List.map_congr_left
    exact fun entry member => keyed.timed_key member
  unfold Distinct
  rw [same]
  exact keyed.distinct

theorem Keyed.find_timed (keyed : Keyed records) (sensorId : SensorId) (sequence : UInt32) :
    ((records.map (timed anchorSequence anchorTime sampleSeconds)).find? fun record =>
      (record.sensorId,record.sequence) = (sensorId,sequence)) =
      (records.find? (·.1 = (sensorId,sequence))).map (timed anchorSequence anchorTime sampleSeconds) := by
  rw [List.find?_map]
  congr 1
  apply List.find?_congr
  intro entry member
  have key := @Keyed.timed_key records anchorTime sampleSeconds entry anchorSequence keyed member
  simp only [Function.comp_apply,key]

structure Grouped (records : RetrievedRecords) (anchorSequence : UInt32) (anchorTime sampleSeconds : Rat)
    (entry : UInt32 × (SensorId → Option TimedHistoryRecord)) : Prop where
  held : ∀ sensorId, entry.2 sensorId =
    (records.find? (·.1 = (sensorId,entry.1))).map (timed anchorSequence anchorTime sampleSeconds)
  retrieved : ∃ sensorId, (entry.2 sensorId).isSome

theorem Keyed.grouped (keyed : Keyed records)
    (member : entry ∈ bySequence (records.map (timed anchorSequence anchorTime sampleSeconds))) :
    Grouped records anchorSequence anchorTime sampleSeconds entry := by
  have distinct : Distinct (records.map (timed anchorSequence anchorTime sampleSeconds)) := keyed.timed_distinct
  have held := bySequence_entry distinct member
  refine ⟨fun sensorId => (held sensorId).trans (keyed.find_timed sensorId entry.1),?_⟩
  obtain ⟨record,among,named⟩ := (bySequence_sequences _ entry.1).mp ⟨entry,member,rfl⟩
  refine ⟨record.sensorId,?_⟩
  rw [held,List.find?_isSome]
  exact ⟨record,among,decide_eq_true (Prod.ext rfl named)⟩

theorem Grouped.readings (grouped : Grouped records anchorSequence anchorTime sampleSeconds entry) :
    historyReading entry.2 = retrievedReading records entry.1 := by
  funext sensorId
  rw [historyReading,retrievedReading,retrievedValue,grouped.held]
  cases records.find? (·.1 = (sensorId,entry.1)) <;> rfl

theorem averageOf_mean (records : RetrievedRecords) (sequence : UInt32) :
    averageOf ((List.finRange sensorCount).map (retrievedReading records sequence)) = retrievedMean records sequence := by
  have both : List.finRange sensorCount = [0,1] := rfl
  rw [both,retrievedMean]
  cases first : (retrievedReading records sequence 0).temperatureC <;>
    cases second : (retrievedReading records sequence 1).temperatureC <;> simp [averageOf,first,second,sensorCount]

theorem Grouped.time (keyed : Keyed records) (grouped : Grouped records anchorSequence anchorTime sampleSeconds entry) :
    (historySample bootId utcNow entry).observedAtUtc = timestamp anchorSequence anchorTime entry.1 sampleSeconds := by
  have times : ∀ record ∈ (List.finRange sensorCount).filterMap entry.2,
      record.sampledAt = timestamp anchorSequence anchorTime entry.1 sampleSeconds := by
    intro record member
    obtain ⟨sensorId,_,present⟩ := List.mem_filterMap.mp member
    rw [grouped.held] at present
    obtain ⟨found,searched,rfl⟩ := Option.map_eq_some_iff.mp present
    have key : found.1 = (sensorId,entry.1) := by simpa using List.find?_some searched
    have sequence := keyed.sequences found (List.mem_of_find?_eq_some searched)
    rw [timed,sequence,key]
  cases last : ((List.finRange sensorCount).filterMap entry.2).getLast? with
  | none =>
    obtain ⟨sensorId,present⟩ := grouped.retrieved
    obtain ⟨record,held⟩ := Option.isSome_iff_exists.mp present
    have member : record ∈ (List.finRange sensorCount).filterMap entry.2 :=
      List.mem_filterMap.mpr ⟨sensorId,List.mem_finRange sensorId,held⟩
    rw [List.getLast?_eq_none_iff.mp last] at member
    exact (List.not_mem_nil member).elim
  | some record =>
    rw [historySample,last]
    exact times record (List.mem_of_getLast? last)

def groupedSamples (bootId : UInt32) (utcNow : Rat) (records : List TimedHistoryRecord) : List SampleRecord :=
  (bySequence records).map (historySample bootId utcNow)

theorem groupedSamples_single (bootId : UInt32) (utcNow : Rat) (records : List TimedHistoryRecord) :
    ((groupedSamples bootId utcNow records).map (·.sampleSequence)).Nodup := by
  have keys := (assignRecords_filed records [] List.nodup_nil).1
  have same : (groupedSamples bootId utcNow records).map (·.sampleSequence) = ((bySequence records).map Prod.fst).map some := by
    rw [groupedSamples,List.map_map,List.map_map]
    rfl
  rw [same]
  exact keys.map (Option.some_injective _)

theorem sample_order {earlier later : SampleRecord} (period : 0 < sampleSeconds)
    (firstPlace : earlier.observedAtUtc = anchorTime + ringOffset anchorSequence first * sampleSeconds)
    (secondPlace : later.observedAtUtc = anchorTime + ringOffset anchorSequence second * sampleSeconds)
    (sorted : earlier.observedAtUtc ≤ later.observedAtUtc) (other : first ≠ second) :
    ringOffset anchorSequence first < ringOffset anchorSequence second ∧ earlier.observedAtUtc < later.observedAtUtc ∧
      later.observedAtUtc - earlier.observedAtUtc = (second - first).toNat * sampleSeconds := by
  have between : later.observedAtUtc - earlier.observedAtUtc =
      (ringOffset anchorSequence second - ringOffset anchorSequence first : Int) * sampleSeconds := by
    rw [firstPlace,secondPlace]
    push_cast
    ring
  have noLess : 0 ≤ ((ringOffset anchorSequence second - ringOffset anchorSequence first : Int) : Rat) := by
    have positive : 0 ≤ (ringOffset anchorSequence second - ringOffset anchorSequence first : Int) * sampleSeconds := by
      rw [← between]
      exact sub_nonneg.mpr sorted
    exact nonneg_of_mul_nonneg_left positive period
  have ordered : ringOffset anchorSequence first ≤ ringOffset anchorSequence second := by
    have cast : (0 : Int) ≤ ringOffset anchorSequence second - ringOffset anchorSequence first := by exact_mod_cast noLess
    omega
  have apart : ringOffset anchorSequence first ≠ ringOffset anchorSequence second := fun same => other (ringOffset_inj same)
  have less : ringOffset anchorSequence first < ringOffset anchorSequence second := lt_of_le_of_ne ordered apart
  have difference := ringOffset_difference less
  have times : later.observedAtUtc - earlier.observedAtUtc = (second - first).toNat * sampleSeconds := by
    rw [between,← difference]
    rfl
  refine ⟨less,?_,times⟩
  have steps : 0 < (second - first).toNat := by omega
  have positive : 0 < ((second - first).toNat : Rat) * sampleSeconds := mul_pos (by exact_mod_cast steps) period
  rw [← times] at positive
  exact sub_pos.mp positive

theorem groupedSamples_law (keyed : Keyed records)
    (member : sample ∈ groupedSamples bootId utcNow (records.map (timed anchorSequence anchorTime sampleSeconds))) :
    ∃ sequence, sample.sampleSequence = some sequence ∧
      sample.sensorReadings = (List.finRange sensorCount).map (retrievedReading records sequence) ∧
      sample.averageTemperatureC = retrievedMean records sequence ∧
      sample.observedAtUtc = anchorTime + ringOffset anchorSequence sequence * sampleSeconds := by
  obtain ⟨entry,among,rfl⟩ := List.mem_map.mp member
  have grouped := keyed.grouped among
  have readings := grouped.readings
  refine ⟨entry.1,rfl,?_,?_,?_⟩
  · rw [historySample,readings]
  · rw [historySample,readings]
    exact averageOf_mean records entry.1
  · rw [grouped.time keyed]
    exact timestamp_offset anchorSequence anchorTime entry.1 sampleSeconds

-- Whatever was retrieved, and wherever the anchor and the wrap lie.
theorem history_batch_law (env : Surroundings σ) (historyMeta : HistoryMeta) (anchor : CurrentSnapshot)
    (anchorTime started deadline now utcNow : Rat) (transfer : Transfer) (keyed : Keyed transfer.records)
    (period : 0 < env.settings.samplePeriodMs) :
    BatchLaw transfer.records anchor.newestSequence anchorTime (env.settings.samplePeriodMs / 1000)
      (buildHistoryBatch (conclude env historyMeta anchor anchorTime started deadline now transfer).history utcNow).samples := by
  have seconds : (0 : Rat) < env.settings.samplePeriodMs / 1000 := by
    have positive : (0 : Rat) < env.settings.samplePeriodMs := by exact_mod_cast period
    positivity
  let stamp := timed anchor.newestSequence anchorTime (env.settings.samplePeriodMs / 1000)
  let unsorted := groupedSamples historyMeta.bootId utcNow (transfer.records.map stamp)
  have sorted := List.mergeSort_perm unsorted fun left right : SampleRecord => left.observedAtUtc ≤ right.observedAtUtc
  have law (sample : SampleRecord) (member : sample ∈ unsorted) := groupedSamples_law keyed member
  have single := groupedSamples_single historyMeta.bootId utcNow (transfer.records.map stamp)
  change BatchLaw _ _ _ _ (unsorted.mergeSort _)
  have once : ((unsorted.mergeSort fun left right => left.observedAtUtc ≤ right.observedAtUtc).map (·.sampleSequence)).Nodup :=
    (sorted.map _).nodup_iff.mpr single
  constructor
  · exact once
  · intro sequence
    have grouped := bySequence_sequences (transfer.records.map stamp) sequence
    constructor
    · intro ⟨sample,member,named⟩
      obtain ⟨entry,among,rfl⟩ := List.mem_map.mp (sorted.mem_iff.mp member)
      obtain ⟨record,present,same⟩ := grouped.mp ⟨entry,among,Option.some.inj named⟩
      obtain ⟨stored,kept,rfl⟩ := List.mem_map.mp present
      exact ⟨stored,kept,(keyed.sequences stored kept).symm.trans same⟩
    · intro ⟨stored,kept,same⟩
      obtain ⟨entry,among,named⟩ := grouped.mpr
        ⟨stamp stored,List.mem_map.mpr ⟨stored,kept,rfl⟩,(keyed.sequences stored kept).trans same⟩
      exact ⟨_,sorted.mem_iff.mpr (List.mem_map.mpr ⟨entry,among,rfl⟩),congrArg some named⟩
  · intro sample member sequence named
    obtain ⟨other,same,readings,_⟩ := law sample (sorted.mem_iff.mp member)
    cases named.symm.trans same
    exact readings
  · intro sample member sequence named
    obtain ⟨other,same,_,average,_⟩ := law sample (sorted.mem_iff.mp member)
    cases named.symm.trans same
    exact average
  · intro sample member
    obtain ⟨sequence,named,_,_,time⟩ := law sample (sorted.mem_iff.mp member)
    exact ⟨sequence,named,time⟩
  · have ascending := @List.pairwise_mergeSort _ (fun left right : SampleRecord => left.observedAtUtc ≤ right.observedAtUtc)
      (fun _ _ _ first second => by simp only [decide_eq_true_eq] at *; exact first.trans second)
      (fun left right => by simp only [Bool.or_eq_true,decide_eq_true_eq]; exact le_total _ _) unsorted
    have apart := List.pairwise_map.mp once
    apply (ascending.and apart).imp_of_mem
    intro earlier later firstMember secondMember ⟨before,different⟩
    obtain ⟨first,firstNamed,_,_,firstTime⟩ := law earlier (sorted.mem_iff.mp firstMember)
    obtain ⟨second,secondNamed,_,_,secondTime⟩ := law later (sorted.mem_iff.mp secondMember)
    refine ⟨first,second,firstNamed,secondNamed,sample_order seconds firstTime secondTime (of_decide_eq_true before) ?_⟩
    rintro rfl
    exact different (firstNamed.trans secondNamed.symm)

theorem Keyed.advance {historyMeta : HistoryMeta} {transfer next : Transfer} (distinct : (transfer.records.map Prod.fst).Nodup)
    (advance : Advance historyMeta transfer sensorId rest next) : (next.records.map Prod.fst).Nodup := by
  cases advance with
  | failed => exact distinct
  | salvaged => exact distinct
  | accepted => exact OrderedMap.assignAll_nodup _ distinct

theorem drain_distinct {env : Surroundings σ} {historyMeta : HistoryMeta} {transfer next : Transfer}
    (distinct : (transfer.records.map Prod.fst).Nodup)
    (drained : drain env historyMeta deadline transfer s = (.ok next,last)) : (next.records.map Prod.fst).Nodup := by
  fun_induction drain env historyMeta deadline transfer s with
  | case1 =>
    cases drained
    exact distinct
  | case2 transfer s sensorId rest queue _ _ _ _ next _ iterated ih =>
    exact ih (Keyed.advance distinct (iteration_advance iterated)) drained
  | case3 transfer s sensorId rest queue _ _ _ _ next _ iterated =>
    cases drained
    obtain ⟨answers,_,rfl⟩ := iteration_stop iterated
    exact distinct
  | case4 => cases drained
  | case5 =>
    cases drained
    exact distinct

theorem synchronize_law {env : Surroundings σ} (period : 0 < env.settings.samplePeriodMs)
    (synchronized : synchronize env operation s = (.ok result,last)) (utcNow : Rat) :
    ∃ records anchorTime, Keyed records ∧
      BatchLaw records result.retrieval.history.anchor.newestSequence anchorTime (env.settings.samplePeriodMs / 1000)
        (buildHistoryBatch result.retrieval.history utcNow).samples := by
  obtain ⟨historyMeta,anchor,anchorTime,started,deadline,now,_,transfer,⟨_,_,drained⟩,_,equal⟩ :=
    synchronize_drained synchronized
  have sequences := (drain_drained (initial_consistent historyMeta operation) drained).keyed
  have nothing : ((Transfer.initial historyMeta operation [.historyMeta historyMeta]).records.map Prod.fst).Nodup := List.nodup_nil
  have keyed : Keyed transfer.records :=
    ⟨drain_distinct nothing drained,fun entry member => (sequences entry member).1⟩
  rw [equal]
  exact ⟨transfer.records,anchorTime,keyed,history_batch_law env historyMeta anchor anchorTime started deadline now utcNow
    transfer keyed period⟩

-- Sensor 1 on both sides of the wrap, sensor 2 behind it only.
def wrapRecords : RetrievedRecords :=
  [((0,4294967295),⟨4294967295,some 20,.valid⟩),((0,0),⟨0,some 20,.valid⟩),((1,0),⟨0,none,.disconnected⟩)]

def wrapTransfer : Transfer := { Transfer.initial ⟨7,0,![2,1],![4294967295,0]⟩ ⟨0,0⟩ [] with records := wrapRecords }

theorem history_batch_law_wrap : BatchLaw wrapRecords 0 50 (1000 / 1000)
    (buildHistoryBatch (conclude wrapClient ⟨7,0,![2,1],![4294967295,0]⟩ ⟨7,0⟩ 50 0 30 1 wrapTransfer).history 51).samples :=
  history_batch_law wrapClient ⟨7,0,![2,1],![4294967295,0]⟩ ⟨7,0⟩ 50 0 30 1 51 wrapTransfer ⟨by decide,by decide⟩ (by decide)

end Thermometer.Client
