import Thermometer.Client.HistorySync

namespace Thermometer.Client
open Wire Wrapping

variable {σ : Type} {env : Surroundings σ} {historyMeta : HistoryMeta} {transfer next : Transfer}
  {sensorId : SensorId} {rest : List SensorId} {deadline : Rat} {s last : σ}

def booked (records : List ((SensorId × UInt32) × HistoryRecordValue)) (sensorId : SensorId) : List Nat :=
  (records.filter fun entry => entry.1.1 = sensorId).map (·.1.2.toNat)

def snapshot (historyMeta : HistoryMeta) (sensorId : SensorId) (n : Nat) : List Nat :=
  span (2 ^ 32) (historyMeta.oldestSequences sensorId).toNat n

def Validated (answers : List Answer) (sensorId : SensorId) (value : HistoryRecordValue) : Prop :=
  ∃ startSequence requestedCount chunk,
    .historyChunk sensorId startSequence requestedCount chunk ∈ answers ∧
    validateChunk chunk sensorId startSequence requestedCount = .ok () ∧ value ∈ chunk.records

-- One sensor of a transfer without failures: the booked part of the snapshot, what
-- is still to come, and where it continues.
structure OnTrack (historyMeta : HistoryMeta) (transfer : Transfer) (sensorId : SensorId) : Prop where
  divided : transfer.retrieved sensorId + transfer.remaining sensorId = (historyMeta.counts sensorId).toNat
  continues : (transfer.nextSequence sensorId).toNat =
    ((historyMeta.oldestSequences sensorId).toNat + transfer.retrieved sensorId) % 2 ^ 32
  received : booked transfer.records sensorId = snapshot historyMeta sensorId (transfer.retrieved sensorId)

structure Consistent (historyMeta : HistoryMeta) (transfer : Transfer) : Prop where
  first : transfer.answers.head? = some (.historyMeta historyMeta)
  named : ∀ failure ∈ transfer.failures, failure ≠ ""
  keyed : ∀ entry ∈ transfer.records,
    entry.2.sequence = entry.1.2 ∧ Validated transfer.answers entry.1.1 entry.2
  tracked : transfer.failures = [] → ∀ sensorId, OnTrack historyMeta transfer sensorId
  waiting : transfer.failures = [] → ∀ sensorId, 0 < transfer.remaining sensorId → sensorId ∈ transfer.pending

theorem continuous_span {records : List HistoryRecordValue} (connected : continuous startSequence records = true) :
    records.map (·.sequence.toNat) = span (2 ^ 32) startSequence.toNat records.length := by
  induction records generalizing startSequence with
  | nil => rfl
  | cons record rest ih =>
    simp only [continuous,Bool.and_eq_true,beq_iff_eq] at connected
    obtain ⟨equal,connected⟩ := connected
    have tail := ih connected
    have following : (startSequence + 1).toNat = (startSequence.toNat + 1) % 2 ^ 32 := by
      simp [UInt32.toNat_add]
    rw [List.map_cons,List.length_cons,span_cons,tail,following,span_mod,equal,
      Nat.mod_eq_of_lt startSequence.toNat_lt]

theorem Validated.later (held : Validated answers sensorId value) (extended : answers <+: more) :
    Validated more sensorId value := by
  obtain ⟨start,count,chunk,member,valid,inside⟩ := held
  exact ⟨start,count,chunk,extended.subset member,valid,inside⟩

theorem head_later {answers more : List Answer} (first : answers.head? = some answer) (extended : answers <+: more) :
    more.head? = some answer := by
  obtain ⟨rest,rfl⟩ := extended
  rw [List.head?_append,first]; rfl

theorem booked_accept {records : List ((SensorId × UInt32) × HistoryRecordValue)} {values : List HistoryRecordValue}
    (received : booked records sensorId = span (2 ^ 32) start m)
    (continued : values.map (·.sequence.toNat) = span (2 ^ 32) (start + m) n) (bounded : m + n ≤ 2 ^ 32) :
    let later := OrderedMap.assignAll records (values.map fun value => ((sensorId,value.sequence),value))
    booked later sensorId = span (2 ^ 32) start (m + n) ∧
      ∀ other, other ≠ sensorId → booked later other = booked records other := by
  intro later
  have apart : (span (2 ^ 32) start (m + n)).Nodup := span_nodup bounded
  rw [span_add,List.nodup_append] at apart
  obtain ⟨_,distinct,disjoint⟩ := apart
  have appended : later = records ++ values.map fun value => ((sensorId,value.sequence),value) := by
    apply OrderedMap.assignAll_fresh
    · rw [List.map_map]
      rw [← continued] at distinct
      refine List.Nodup.of_map (fun key => key.2.toNat) ?_
      rw [List.map_map]
      exact distinct
    · intro key member known
      rw [List.map_map] at member
      obtain ⟨value,inside,rfl⟩ := List.mem_map.mp member
      obtain ⟨entry,present,equal⟩ := List.mem_map.mp known
      have new : value.sequence.toNat ∈ span (2 ^ 32) (start + m) n := by
        rw [← continued]; exact List.mem_map.mpr ⟨value,inside,rfl⟩
      have old : value.sequence.toNat ∈ span (2 ^ 32) start m := by
        rw [← received]
        refine List.mem_map.mpr ⟨entry,List.mem_filter.mpr ⟨present,?_⟩,?_⟩
        · simp [equal]
        · simp [equal]
      exact disjoint _ old _ new rfl
  rw [appended]
  refine ⟨?_,?_⟩
  · rw [span_add,← received,← continued]
    simp [booked,List.filter_append,List.filter_map,Function.comp_def]
  · intro other differs
    have none : (values.map fun value => ((sensorId,value.sequence),value)).filter
        (fun entry => decide (entry.1.1 = other)) = [] := by
      rw [List.filter_eq_nil_iff]
      rintro entry member
      obtain ⟨value,_,rfl⟩ := List.mem_map.mp member
      simpa using Ne.symm differs
    simp only [booked,List.filter_append,none,List.append_nil]

theorem append_named {texts more : List String} (named : ∀ text ∈ texts, text ≠ "")
    (added : ∀ text ∈ more, text ≠ "") : ∀ text ∈ texts ++ more, text ≠ "" := by
  intro text member
  rcases List.mem_append.mp member with old | new
  · exact named text old
  · exact added text new

theorem OnTrack.accept (track : OnTrack historyMeta transfer sensorId)
    (valid : validateChunk chunk sensorId (transfer.nextSequence sensorId) requestCount = .ok ())
    (bounded : requestCount ≤ transfer.remaining sensorId) (answers : List Answer) (rest : List SensorId)
    (updatedAtUtc : Rat) :
    let next := accept historyMeta { transfer with answers := answers } sensorId rest chunk updatedAtUtc
    OnTrack historyMeta next sensorId ∧
      ∀ other, other ≠ sensorId → booked next.records other = booked transfer.records other := by
  intro next
  obtain ⟨_,requested,connected⟩ := validateChunk_ok valid
  have less : chunk.records.length ≤ transfer.remaining sensorId := by omega
  have counts := (historyMeta.counts sensorId).toNat_lt
  have divided := track.divided
  have fits : transfer.retrieved sensorId + chunk.records.length ≤ 2 ^ 32 := by omega
  have continued : chunk.records.map (·.sequence.toNat) =
      span (2 ^ 32) ((historyMeta.oldestSequences sensorId).toNat + transfer.retrieved sensorId)
        chunk.records.length := by
    rw [continuous_span connected,track.continues,span_mod]
  obtain ⟨own,others⟩ := booked_accept track.received continued fits
  refine ⟨⟨?_,?_,?_⟩,others⟩
  · simp only [next,Client.accept,Function.update_self]
    omega
  · simp only [next,Client.accept,Function.update_self,UInt32.toNat_add,track.continues,UInt32.toNat_ofNat']
    omega
  · simpa only [next,Client.accept,Function.update_self,snapshot] using own

theorem OnTrack.other {other : SensorId} (track : OnTrack historyMeta transfer other)
    (retrieved : next.retrieved other = transfer.retrieved other)
    (remaining : next.remaining other = transfer.remaining other)
    (nextSequence : next.nextSequence other = transfer.nextSequence other)
    (records : booked next.records other = booked transfer.records other) : OnTrack historyMeta next other := by
  refine ⟨?_,?_,?_⟩
  · rw [retrieved,remaining]; exact track.divided
  · rw [nextSequence,retrieved]; exact track.continues
  · rw [records,retrieved]; exact track.received

theorem Consistent.advance (held : Consistent historyMeta transfer) (queue : transfer.pending = sensorId :: rest)
    (advance : Advance historyMeta transfer sensorId rest next) : Consistent historyMeta next := by
  cases advance with
  | failed failures answers some named extended =>
    refine ⟨head_later held.first extended,append_named held.named named,fun entry member => ?_,?_,?_⟩
    · exact ⟨(held.keyed entry member).1,(held.keyed entry member).2.later extended⟩
    · intro none; exact absurd (List.append_eq_nil_iff.mp none).2 some
    · intro none; exact absurd (List.append_eq_nil_iff.mp none).2 some
  | salvaged lost oldest failure answers positive less named extended =>
    refine ⟨head_later held.first extended,append_named held.named (by simpa using named),
      fun entry member => ?_,?_,?_⟩
    · exact ⟨(held.keyed entry member).1,(held.keyed entry member).2.later extended⟩
    · intro none; exact absurd (List.append_eq_nil_iff.mp none).2 (by simp)
    · intro none; exact absurd (List.append_eq_nil_iff.mp none).2 (by simp)
  | accepted chunk requestCount answers updatedAtUtc valid bounded extended answered =>
    refine ⟨head_later held.first extended,held.named,?_,?_,?_⟩
    · intro entry member
      rcases OrderedMap.mem_assignAll member with new | old
      · obtain ⟨value,inside,rfl⟩ := List.mem_map.mp new
        exact ⟨rfl,_,requestCount,chunk,answered,valid,inside⟩
      · exact ⟨(held.keyed entry old).1,(held.keyed entry old).2.later extended⟩
    · intro none other
      obtain ⟨own,others⟩ := (held.tracked none sensorId).accept valid bounded answers rest updatedAtUtc
      by_cases equal : other = sensorId
      · rw [equal]; exact own
      · refine (held.tracked none other).other ?_ ?_ ?_ (others other equal)
        · exact Function.update_of_ne equal _ _
        · exact Function.update_of_ne equal _ _
        · exact Function.update_of_ne equal _ _
    · intro none other left
      by_cases equal : other = sensorId
      · rw [equal] at left ⊢
        simp only [accept] at left ⊢
        rw [if_pos left]
        simp
      · have unchanged : (accept historyMeta { transfer with answers := answers } sensorId rest chunk
            updatedAtUtc).remaining other = transfer.remaining other := Function.update_of_ne equal _ _
        rw [unchanged] at left
        have waits := held.waiting none other left
        rw [queue] at waits
        have behind : other ∈ rest := by simpa [equal] using waits
        simp only [accept]
        split
        · exact List.mem_append_left _ behind
        · exact behind

structure Drained (historyMeta : HistoryMeta) (transfer : Transfer) : Prop where
  first : transfer.answers.head? = some (.historyMeta historyMeta)
  named : ∀ failure ∈ transfer.failures, failure ≠ ""
  keyed : ∀ entry ∈ transfer.records,
    entry.2.sequence = entry.1.2 ∧ Validated transfer.answers entry.1.1 entry.2
  finished : transfer.failures = [] → transfer.pending = [] → transfer.budgetExpired = false →
    ∀ sensorId, OnTrack historyMeta transfer sensorId ∧ transfer.remaining sensorId = 0

theorem Consistent.drained (held : Consistent historyMeta transfer) : Drained historyMeta transfer := by
  refine ⟨held.first,held.named,held.keyed,?_⟩
  intro none empty _ sensorId
  refine ⟨held.tracked none sensorId,Nat.eq_zero_of_not_pos fun left => ?_⟩
  have waits := held.waiting none sensorId left
  rw [empty] at waits
  cases waits

theorem iteration_stop (iterated : iteration env historyMeta deadline transfer sensorId rest s = (.stop next,last)) :
    ∃ answers, transfer.answers <+: answers ∧
      next = { transfer with pending := rest, budgetExpired := true, answers := answers } := by
  unfold iteration at iterated
  split at iterated
  · cases iterated
  · rename_i recordsPerChunk _ _
    dsimp only at iterated
    cases fetched : fetchChunk env sensorId (transfer.nextSequence sensorId)
        (min recordsPerChunk (transfer.remaining sensorId)) deadline (env.settings.historyChunkRetryCount + 1) none
        transfer.answers _ with
    | mk result more =>
      obtain ⟨answers,s⟩ := more
      rw [fetched] at iterated
      cases result with
      | raised failure => cases iterated
      | expired =>
        cases iterated
        exact ⟨answers,(fetchChunk_answers _ _ _ _ fetched).1,rfl⟩
      | missing lastError =>
        dsimp only [recover] at iterated
        split at iterated
        · split at iterated
          · split at iterated
            · cases iterated
            · cases iterated
            · split at iterated <;> cases iterated
          · cases iterated
        · cases iterated
      | chunk chunk =>
        dsimp only at iterated
        split at iterated <;> cases iterated

theorem initial_consistent (historyMeta : HistoryMeta) (operation : SyncOperation) :
    Consistent historyMeta (.initial historyMeta operation [.historyMeta historyMeta]) := by
  refine ⟨rfl,by simp [Transfer.initial],by simp [Transfer.initial],fun _ sensorId => ?_,?_⟩
  · refine ⟨Nat.zero_add _,?_,rfl⟩
    exact (Nat.mod_eq_of_lt (historyMeta.oldestSequences sensorId).toNat_lt).symm
  · intro _ sensorId left
    refine List.mem_filter.mpr ⟨List.mem_finRange _,?_⟩
    simpa [Transfer.initial,UInt16.lt_iff_toNat_lt] using left

theorem drain_drained (held : Consistent historyMeta transfer)
    (drained : drain env historyMeta deadline transfer s = (.ok next,last)) : Drained historyMeta next := by
  fun_induction drain env historyMeta deadline transfer s with
  | case1 transfer s empty =>
    cases drained
    exact held.drained
  | case2 transfer s sensorId rest queue _ _ _ _ next _ iterated ih =>
    exact ih (held.advance queue (iteration_advance iterated)) drained
  | case3 transfer s sensorId rest queue _ _ _ _ next _ iterated =>
    cases drained
    obtain ⟨answers,extended,rfl⟩ := iteration_stop iterated
    refine ⟨head_later held.first extended,held.named,fun entry member => ?_,fun _ _ expired => ?_⟩
    · exact ⟨(held.keyed entry member).1,(held.keyed entry member).2.later extended⟩
    · cases expired
  | case4 => cases drained
  | case5 =>
    cases drained
    exact held.drained

def received (history : HistorySync) (sensorId : SensorId) : List Nat :=
  (history.records.filter fun record => record.sensorId = sensorId).map (·.sequence.toNat)

theorem joinFailures_some {failures : List String} (some : failures ≠ []) (named : ∀ failure ∈ failures, failure ≠ "") :
    (joinFailures failures).isSome = true := by
  cases failures with
  | nil => exact absurd rfl some
  | cons first rest =>
    have filled : "; ".intercalate (first :: rest) ≠ "" := by
      have head := named first List.mem_cons_self
      cases rest with
      | nil => simpa using head
      | cons second rest =>
        rw [String.intercalate_cons_cons]
        exact append_filled (append_filled head)
    simp [joinFailures,filled]

theorem conclude_received (drained : Drained historyMeta transfer) (sensorId : SensorId) :
    received (conclude env historyMeta anchor anchorTime started deadline now transfer).history sensorId =
      booked transfer.records sensorId := by
  simp only [received,booked,conclude,List.filter_map,List.map_map,Function.comp_def]
  refine List.map_congr_left fun entry member => ?_
  rw [(drained.keyed entry (List.mem_filter.mp member).1).1]

theorem conclude_succeeded (drained : Drained historyMeta transfer)
    (none : (conclude env historyMeta anchor anchorTime started deadline now transfer).failures = [])
    (sensorId : SensorId) :
    received (conclude env historyMeta anchor anchorTime started deadline now transfer).history sensorId =
      snapshot historyMeta sensorId (historyMeta.counts sensorId).toNat := by
  simp only [conclude,List.append_eq_nil_iff] at none
  obtain ⟨⟨clean,inTime⟩,_⟩ := none
  have left : transfer.pending = [] ∧ transfer.budgetExpired = false := by
    split at inTime
    · cases inTime
    · rename_i finished
      simpa [not_or] using finished
  obtain ⟨track,nothing⟩ := drained.finished clean left.1 left.2 sensorId
  have all : transfer.retrieved sensorId = (historyMeta.counts sensorId).toNat := by
    have divided := track.divided
    omega
  rw [conclude_received drained,track.received,all]

theorem conclude_named (drained : Drained historyMeta transfer) :
    ∀ failure ∈ (conclude env historyMeta anchor anchorTime started deadline now transfer).failures, failure ≠ "" := by
  simp only [conclude]
  refine append_named (append_named drained.named ?_) ?_
  · split <;> simp
  · split <;> simp

theorem synchronize_drained (synchronized : synchronize env operation s = (.ok result,last)) :
    ∃ historyMeta anchor anchorTime started deadline now transferDeadline transfer,
      (∃ before after, drain env historyMeta transferDeadline (.initial historyMeta operation [.historyMeta historyMeta]) before =
        (.ok transfer,after)) ∧ result.answers = transfer.answers ∧
      result.retrieval = conclude env historyMeta anchor anchorTime started deadline now transfer := by
  unfold synchronize at synchronized
  dsimp only at synchronized
  split at synchronized
  · cases synchronized
  · split at synchronized
    · cases synchronized
    · split at synchronized
      · cases synchronized
      · rename_i historyMeta _ _ _ anchor anchorTime _ _ _ transfer _ drained
        cases synchronized
        exact ⟨historyMeta,anchor,anchorTime,_,_,_,_,transfer,⟨_,_,drained⟩,rfl,rfl⟩

theorem synchronize_parts (synchronized : synchronize env operation s = (.ok result,last)) :
    ∃ historyMeta anchor anchorTime started deadline now transfer,
      Drained historyMeta transfer ∧ result.answers = transfer.answers ∧
      result.retrieval = conclude env historyMeta anchor anchorTime started deadline now transfer := by
  obtain ⟨historyMeta,anchor,anchorTime,started,deadline,now,_,transfer,⟨_,_,drained⟩,answers,equal⟩ :=
    synchronize_drained synchronized
  exact ⟨historyMeta,anchor,anchorTime,started,deadline,now,transfer,
    drain_drained (initial_consistent historyMeta operation) drained,answers,equal⟩

theorem history_sync_complete (env : Surroundings σ) (operation : SyncOperation) (s last : σ)
    (result : Synchronized) (synchronized : synchronize env operation s = (.ok result,last)) :
    let history := result.retrieval.history
    let oldest := fun sensorId => (history.historyMeta.oldestSequences sensorId).toNat
    let count := fun sensorId => (history.historyMeta.counts sensorId).toNat
    result.answers.head? = some (.historyMeta history.historyMeta) ∧
    (history.complete = true → ∀ sensorId,
      received history sensorId = span (2 ^ 32) (oldest sensorId) (count sensorId) ∧
      (received history sensorId).Nodup) ∧
    (∀ record ∈ history.records, ∃ value, Validated result.answers record.sensorId value ∧
      record.sequence = value.sequence ∧ record.temperatureC = value.temperatureC ∧
      record.dataStatus = value.dataStatus) ∧
    (∀ sensorId i, i < count sensorId → (oldest sensorId + i) % 2 ^ 32 ∉ received history sensorId →
      history.complete = false ∧ history.failureReason.isSome = true) := by
  obtain ⟨historyMeta,anchor,anchorTime,started,deadline,now,transfer,drained,answers,equal⟩ :=
    synchronize_parts synchronized
  rw [equal,answers]
  refine ⟨drained.first,?_,?_,?_⟩
  · intro complete sensorId
    have clean : (conclude env historyMeta anchor anchorTime started deadline now transfer).failures = [] := by
      simp only [conclude,decide_eq_true_eq] at complete
      exact complete.2
    have all := conclude_succeeded drained clean sensorId
    have counts := (historyMeta.counts sensorId).toNat_lt
    refine ⟨all,?_⟩
    rw [all]
    exact span_nodup (by omega)
  · intro record member
    obtain ⟨entry,present,rfl⟩ := List.mem_map.mp member
    exact ⟨entry.2,(drained.keyed entry present).2,rfl,rfl,rfl⟩
  · intro sensorId i inside missing
    have failed : (conclude env historyMeta anchor anchorTime started deadline now transfer).failures ≠ [] := by
      intro clean
      rw [conclude_succeeded drained clean sensorId] at missing
      exact missing (mem_span.mpr ⟨i,inside,rfl⟩)
    have reason := joinFailures_some failed (conclude_named drained)
    exact ⟨decide_eq_false fun complete => failed complete.2,reason⟩

-- A client that sends single records; the range of the first sensor crosses the wrap.
def wrapClient : Surroundings Unit where
  settings := ⟨30,1,1000⟩
  monotonic s := (0,s)
  utcNow s := (1000,s)
  sleep s := (.ok (),s)
  currentAnchor _ := (none,none)
  publishCurrent _ _ _ s := (.ok (),s)
  recordsPerChunk s := (.ok 1,s)
  getHistoryMeta _ s := (.ok ⟨7,0,![2,1],![4294967295,0]⟩,s)
  getCurrent _ s := (.ok ⟨7,0⟩,s)
  getHistoryChunk sensorId startSequence _ _ s :=
    (.ok ⟨sensorId.number,startSequence,[⟨startSequence,some 20,.valid⟩]⟩,s)

theorem history_sync_complete_wrap :
    ∃ result, synchronize wrapClient ⟨0,0⟩ () = (.ok result,()) ∧ result.retrieval.history.complete = true ∧
      received result.retrieval.history 0 = [4294967295,0] := by
  have ran : (synchronize wrapClient ⟨0,0⟩ ()).1.toOption.map (fun result =>
      (result.retrieval.history.complete,(result.retrieval.history.historyMeta.oldestSequences 0).toNat,
        (result.retrieval.history.historyMeta.counts 0).toNat)) = some (true,4294967295,2) := by
    decide +kernel
  cases synchronized : synchronize wrapClient ⟨0,0⟩ () with
  | mk outcome last =>
    rw [synchronized] at ran
    cases outcome with
    | error => cases ran
    | ok result =>
      obtain ⟨complete,oldest,count⟩ : _ ∧ _ ∧ _ := by simpa [Except.toOption] using ran
      obtain ⟨_,all,_⟩ := history_sync_complete wrapClient ⟨0,0⟩ () last result synchronized
      refine ⟨result,rfl,complete,?_⟩
      rw [(all complete 0).1]
      simp only [oldest,count]
      decide

end Thermometer.Client
