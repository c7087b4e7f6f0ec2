import Mathlib.Algebra.Order.BigOperators.Group.Finset
import Mathlib.Algebra.Order.Field.Rat
import Mathlib.Logic.Relation
import Thermometer.Client.HistoryCompleteness

-- The end of the transfer loop, its requests, and what it accounts for on the way.
namespace Thermometer.Client
open Wire

variable {σ : Type} {env : Surroundings σ} {historyMeta : HistoryMeta} {transfer next : Transfer}
  {sensorId other : SensorId} {rest : List SensorId} {deadline : Rat} {s last : σ}

def overwritten (sensorId : SensorId) (lost : Nat) : String :=
  s!"sensor {sensorId.number}: {lost} oldest record(s) were overwritten before retrieval"

def overwrittenEnd : String := " oldest record(s) were overwritten before retrieval"

def lostIn (sensorId : SensorId) (failure : String) : Nat :=
  let digits := (failure.toList.drop 10).take (failure.toList.length - 10 - overwrittenEnd.toList.length)
  if failure = overwritten sensorId (Nat.ofDigitChars 10 digits 0) then Nat.ofDigitChars 10 digits 0 else 0

def declaredLost (failures : List String) (sensorId : SensorId) : Nat := (failures.map (lostIn sensorId)).sum

theorem sensor_start (sensorId : SensorId) (tail : String) :
    ("sensor " ++ Nat.repr sensorId.number ++ tail).toList.take 8 = ("sensor " ++ Nat.repr sensorId.number).toList := by
  have eight : ("sensor " ++ Nat.repr sensorId.number).toList.length = 8 := by
    revert sensorId
    decide +kernel
  rw [String.toList_append,List.take_append_of_le_length eight.ge,List.take_of_length_le eight.le]

theorem overwritten_start (sensorId : SensorId) (lost : Nat) :
    (overwritten sensorId lost).toList.take 8 = ("sensor " ++ Nat.repr sensorId.number).toList := by
  have text : overwritten sensorId lost = "sensor " ++ Nat.repr sensorId.number ++ (": " ++ Nat.repr lost ++ overwrittenEnd) := by
    simp only [overwritten,overwrittenEnd,String.append_assoc]
    rfl
  rw [text,sensor_start]

theorem sensor_apart (differs : other ≠ sensorId) :
    ("sensor " ++ Nat.repr sensorId.number).toList ≠ ("sensor " ++ Nat.repr other.number).toList := by
  revert sensorId other
  decide +kernel

theorem lostIn_other (differs : other ≠ sensorId) (tail : String) :
    lostIn other ("sensor " ++ Nat.repr sensorId.number ++ tail) = 0 := by
  refine if_neg fun same => ?_
  have starts := congrArg (fun text => text.toList.take 8) same
  simp only [sensor_start,overwritten_start] at starts
  exact sensor_apart differs starts

theorem lostIn_overwritten (sensorId : SensorId) (lost : Nat) : lostIn sensorId (overwritten sensorId lost) = lost := by
  have text : (overwritten sensorId lost).toList =
      ("sensor " ++ Nat.repr sensorId.number ++ ": ").toList ++ ((Nat.repr lost).toList ++ overwrittenEnd.toList) := by
    simp only [overwritten,overwrittenEnd,← String.toList_append,String.append_assoc]
    rfl
  have ten : ∀ sensorId : SensorId, ("sensor " ++ Nat.repr sensorId.number ++ ": ").toList.length = 10 := by decide +kernel
  have digits : ((overwritten sensorId lost).toList.drop 10).take
      ((overwritten sensorId lost).toList.length - 10 - overwrittenEnd.toList.length) = Nat.toDigits 10 lost := by
    rw [text,List.drop_left' (ten sensorId),List.length_append,List.length_append,ten,Nat.add_sub_cancel_left,Nat.add_sub_cancel,
      List.take_left,Nat.toList_repr]
  unfold lostIn
  dsimp only
  rw [digits,Nat.ofDigitChars_ten_toDigits,if_pos rfl]

inductive Turned (historyMeta : HistoryMeta) (transfer : Transfer) (sensorId : SensorId) (rest : List SensorId) : Transfer → Prop where
  | givenUp (failures : List String) (answers : List Answer) :
      (∀ failure ∈ failures, ∃ tail, failure = "sensor " ++ Nat.repr sensorId.number ++ tail) →
      Turned historyMeta transfer sensorId rest
        { transfer with pending := rest,failures := transfer.failures ++ failures,answers := answers }
  | salvaged (lost : Nat) (oldest : UInt32) (answers : List Answer) :
      0 < lost → lost < transfer.remaining sensorId →
      Turned historyMeta transfer sensorId rest { transfer with
        pending := rest ++ [sensorId]
        remaining := Function.update transfer.remaining sensorId (transfer.remaining sensorId - lost)
        nextSequence := Function.update transfer.nextSequence sensorId oldest
        failures := transfer.failures ++ [overwritten sensorId lost],answers := answers }
  | accepted (chunk : HistoryChunk) (answers : List Answer) (updatedAtUtc : Rat) :
      0 < chunk.records.length → chunk.records.length ≤ transfer.remaining sensorId →
      Turned historyMeta transfer sensorId rest
        (accept historyMeta { transfer with answers := answers } sensorId rest chunk updatedAtUtc)

theorem giveUp_turned (failures : List String) (answers : List Answer) (lastError : Option Failure)
    (own : ∀ failure ∈ failures, ∃ tail, failure = "sensor " ++ Nat.repr sensorId.number ++ tail) :
    Turned historyMeta transfer sensorId rest
      (giveUp { transfer with failures := transfer.failures ++ failures,answers := answers } sensorId rest lastError) := by
  simp only [giveUp,List.append_assoc]
  refine .givenUp _ answers fun failure member => ?_
  rcases List.mem_append.mp member with earlier | final
  · exact own failure earlier
  · rw [List.mem_singleton.mp final]
    exact ⟨": " ++ describeLast lastError,by rw [← String.append_assoc]; rfl⟩

theorem recover_turned {answers : List Answer}
    (recovered : recover env historyMeta deadline { transfer with answers := answers } sensorId rest lastError s =
      (.again next,last)) : Turned historyMeta transfer sensorId rest next := by
  have plain (answers : List Answer) : Turned historyMeta transfer sensorId rest
      (giveUp { transfer with answers := answers } sensorId rest lastError) := by
    simpa using @giveUp_turned historyMeta transfer sensorId rest [] answers lastError (by simp)
  unfold recover at recovered
  split at recovered
  case isFalse =>
    cases recovered
    exact plain answers
  case isTrue =>
    dsimp only at recovered
    split at recovered
    case isFalse =>
      cases recovered
      exact plain answers
    case isTrue =>
      split at recovered
      · cases recovered
      · cases recovered
        rename_i failed _ _
        refine giveUp_turned [_] answers lastError fun failure member => ?_
        rw [List.mem_singleton.mp member]
        refine ⟨" metadata refresh: " ++ describeBleError failed,?_⟩
        rw [← String.append_assoc]
        rfl
      · split at recovered
        case isTrue usable =>
          cases recovered
          exact .salvaged _ _ _ usable.2.1 usable.2.2
        case isFalse =>
          cases recovered
          exact plain _

theorem iteration_turned
    (iterated : iteration env historyMeta deadline transfer sensorId rest s = (.again next,last)) :
    Turned historyMeta transfer sensorId rest next := by
  unfold iteration at iterated
  split at iterated
  · cases iterated
  · rename_i recordsPerChunk _ _
    dsimp only at iterated
    cases fetched : fetchChunk env sensorId (transfer.nextSequence sensorId)
        (min recordsPerChunk (transfer.remaining sensorId)) deadline (env.settings.historyChunkRetryCount + 1) none
        transfer.answers _ with
    | mk result more =>
      obtain ⟨answers,s⟩ := more
      rw [fetched] at iterated
      cases result with
      | raised failure => cases iterated
      | expired => cases iterated
      | missing lastError => exact recover_turned iterated
      | chunk chunk =>
        obtain ⟨valid,_⟩ := (fetchChunk_answers _ _ _ _ fetched).2 chunk rfl
        obtain ⟨some,requested,_⟩ := validateChunk_ok valid
        dsimp only at iterated
        split at iterated
        · cases iterated
        · cases iterated
          exact .accepted chunk answers _ some (by omega)

def totalExpected (historyMeta : HistoryMeta) : Nat := ∑ sensorId, (historyMeta.counts sensorId).toNat

structure Accounted (historyMeta : HistoryMeta) (transfer : Transfer) : Prop where
  queued : ∀ sensorId ∈ transfer.pending, transfer.retrieved sensorId + transfer.remaining sensorId +
    declaredLost transfer.failures sensorId = (historyMeta.counts sensorId).toNat
  expected : ∀ sensorId, transfer.retrieved sensorId + transfer.remaining sensorId ≤ (historyMeta.counts sensorId).toNat
  once : transfer.pending.Nodup
  progress : transfer.operation.progress = (∑ sensorId, transfer.retrieved sensorId : Nat) / (totalExpected historyMeta : Rat)

theorem declaredLost_append (failures more : List String) (sensorId : SensorId) :
    declaredLost (failures ++ more) sensorId = declaredLost failures sensorId + declaredLost more sensorId := by
  simp [declaredLost]

theorem declaredLost_other {failures : List String} (differs : other ≠ sensorId)
    (own : ∀ failure ∈ failures, ∃ tail, failure = "sensor " ++ Nat.repr sensorId.number ++ tail) :
    declaredLost failures other = 0 := by
  unfold declaredLost
  rw [List.sum_eq_zero_iff]
  intro lost member
  obtain ⟨failure,inside,rfl⟩ := List.mem_map.mp member
  obtain ⟨tail,rfl⟩ := own failure inside
  exact lostIn_other differs tail

theorem overwritten_own (sensorId : SensorId) (lost : Nat) :
    ∃ tail, overwritten sensorId lost = "sensor " ++ Nat.repr sensorId.number ++ tail := by
  refine ⟨": " ++ Nat.repr lost ++ overwrittenEnd,?_⟩
  simp only [overwritten,overwrittenEnd,String.append_assoc]
  rfl

theorem initial_accounted (historyMeta : HistoryMeta) (updatedAtUtc : Rat) (answers : List Answer) :
    Accounted historyMeta (.initial historyMeta ⟨0,updatedAtUtc⟩ answers) where
  queued sensorId _ := by simp [Transfer.initial,declaredLost]
  expected sensorId := by simp [Transfer.initial]
  once := (List.nodup_finRange _).filter _
  progress := by simp [Transfer.initial]

theorem requeue_nodup (once : (sensorId :: rest).Nodup) : (rest ++ [sensorId]).Nodup := by
  rw [List.nodup_cons] at once
  rw [List.nodup_append]
  refine ⟨once.2,List.nodup_singleton _,fun x member y last => ?_⟩
  rw [List.mem_singleton.mp last]
  exact fun same => once.1 (same ▸ member)

theorem Accounted.turned (accounted : Accounted historyMeta transfer) (queue : transfer.pending = sensorId :: rest)
    (turned : Turned historyMeta transfer sensorId rest next) : Accounted historyMeta next := by
  obtain ⟨queued,expected,once,progress⟩ := accounted
  rw [queue] at once
  have absent : sensorId ∉ rest := (List.nodup_cons.mp once).1
  have waiting (other : SensorId) (member : other ∈ rest) : other ∈ transfer.pending := by
    rw [queue]
    exact List.mem_cons_of_mem _ member
  have here : sensorId ∈ transfer.pending := by
    rw [queue]
    exact List.mem_cons_self
  cases turned with
  | givenUp failures answers own =>
    refine ⟨fun other member => ?_,expected,(List.nodup_cons.mp once).2,progress⟩
    have differs : other ≠ sensorId := fun same => absent (same ▸ member)
    change _ + _ + declaredLost (transfer.failures ++ failures) other = _
    rw [declaredLost_append,declaredLost_other differs own,Nat.add_zero]
    exact queued other (waiting other member)
  | salvaged lost oldest answers some less =>
    refine ⟨fun other member => ?_,fun other => ?_,requeue_nodup once,progress⟩
    · change transfer.retrieved other + Function.update transfer.remaining sensorId (transfer.remaining sensorId - lost) other +
        declaredLost (transfer.failures ++ [overwritten sensorId lost]) other = _
      rw [declaredLost_append]
      rcases List.mem_append.mp member with behind | own
      · have differs : other ≠ sensorId := fun same => absent (same ▸ behind)
        have none : declaredLost [overwritten sensorId lost] other = 0 := declaredLost_other differs fun failure inside =>
          List.mem_singleton.mp inside ▸ overwritten_own sensorId lost
        rw [Function.update_of_ne differs,none,Nat.add_zero]
        exact queued other (waiting other behind)
      · rw [List.mem_singleton.mp own,Function.update_self]
        have account := queued sensorId here
        have declared : declaredLost [overwritten sensorId lost] sensorId = lost := by
          simp [declaredLost,lostIn_overwritten]
        rw [declared]
        omega
    · change transfer.retrieved other + Function.update transfer.remaining sensorId (transfer.remaining sensorId - lost) other ≤ _
      by_cases same : other = sensorId
      · subst same
        rw [Function.update_self]
        have bound := expected other
        omega
      · rw [Function.update_of_ne same]
        exact expected other
  | accepted chunk answers updatedAtUtc some less =>
    have nonzero : totalExpected historyMeta ≠ 0 := by
      have bound := expected sensorId
      have member := Finset.single_le_sum (f := fun sensorId => (historyMeta.counts sensorId).toNat)
        (fun _ _ => Nat.zero_le _) (Finset.mem_univ sensorId)
      unfold totalExpected
      omega
    have divided (other : SensorId) : (accept historyMeta { transfer with answers := answers } sensorId rest chunk updatedAtUtc).retrieved other +
        (accept historyMeta { transfer with answers := answers } sensorId rest chunk updatedAtUtc).remaining other =
          transfer.retrieved other + transfer.remaining other := by
      by_cases same : other = sensorId
      · subst same
        simp only [accept,Function.update_self]
        omega
      · simp only [accept,Function.update_of_ne same]
    refine ⟨fun other member => ?_,fun other => ?_,?_,if_neg nonzero⟩
    · rw [divided]
      change _ + declaredLost transfer.failures other = _
      apply queued other
      rw [queue]
      simp only [accept] at member
      split at member
      · rcases List.mem_append.mp member with behind | own
        · exact List.mem_cons_of_mem _ behind
        · rw [List.mem_singleton.mp own]
          exact List.mem_cons_self
      · exact List.mem_cons_of_mem _ member
    · rw [divided]
      exact expected other
    · simp only [accept]
      split
      · exact requeue_nodup once
      · exact (List.nodup_cons.mp once).2

theorem turned_retrieved (turned : Turned historyMeta transfer sensorId rest next) (other : SensorId) :
    transfer.retrieved other ≤ next.retrieved other := by
  cases turned with
  | givenUp => exact Nat.le_refl _
  | salvaged => exact Nat.le_refl _
  | accepted chunk answers updatedAtUtc some less =>
    simp only [accept]
    by_cases same : other = sensorId
    · subst same
      rw [Function.update_self]
      exact Nat.le_add_right _ _
    · rw [Function.update_of_ne same]

def Turn (env : Surroundings σ) (historyMeta : HistoryMeta) (deadline : Rat) (before after : Transfer × σ) : Prop :=
  ∃ sensorId rest, before.1.pending = sensorId :: rest ∧ (env.monotonic before.2).1 < deadline ∧
    iteration env historyMeta deadline before.1 sensorId rest (env.monotonic before.2).2 = (.again after.1,after.2)

-- What the variables hold after a turn that does not come back: the budget ended it, or the
-- chunk is booked and the scheduling point may raise.
inductive Halfway (env : Surroundings σ) (historyMeta : HistoryMeta) (deadline : Rat) (before : Transfer × σ) : Transfer → Prop where
  | stopped (sensorId : SensorId) (rest : List SensorId) (next : Transfer) (last : σ) :
      before.1.pending = sensorId :: rest → (env.monotonic before.2).1 < deadline →
      iteration env historyMeta deadline before.1 sensorId rest (env.monotonic before.2).2 = (.stop next,last) →
      Halfway env historyMeta deadline before next
  | booked (sensorId : SensorId) (rest : List SensorId) (recordsPerChunk : Int) (chunk : HistoryChunk) (answers : List Answer)
      (updatedAtUtc : Rat) (ready fetched : σ) :
      before.1.pending = sensorId :: rest → (env.monotonic before.2).1 < deadline →
      env.recordsPerChunk (env.monotonic before.2).2 = (.ok recordsPerChunk,ready) →
      fetchChunk env sensorId (before.1.nextSequence sensorId) (min recordsPerChunk (before.1.remaining sensorId)) deadline
        (env.settings.historyChunkRetryCount + 1) none before.1.answers ready = (.chunk chunk,answers,fetched) →
      (env.utcNow fetched).1 = updatedAtUtc →
      Halfway env historyMeta deadline before
        (accept historyMeta { before.1 with answers := answers } sensorId rest chunk updatedAtUtc)

def Visited (env : Surroundings σ) (historyMeta : HistoryMeta) (deadline : Rat) (start : Transfer × σ) (transfer : Transfer) : Prop :=
  ∃ head, Relation.ReflTransGen (Turn env historyMeta deadline) start head ∧
    (transfer = head.1 ∨ Halfway env historyMeta deadline head transfer)

theorem halfway_accounted {before : Transfer × σ} (accounted : Accounted historyMeta before.1)
    (half : Halfway env historyMeta deadline before next) : Accounted historyMeta next ∧
      ∀ sensorId, before.1.retrieved sensorId ≤ next.retrieved sensorId := by
  cases half with
  | stopped sensorId rest next last queue open_ iterated =>
    obtain ⟨answers,_,rfl⟩ := iteration_stop iterated
    refine ⟨⟨fun other member => ?_,accounted.expected,?_,accounted.progress⟩,fun _ => Nat.le_refl _⟩
    · apply accounted.queued other
      rw [queue]
      exact List.mem_cons_of_mem _ member
    · have once := accounted.once
      rw [queue] at once
      exact (List.nodup_cons.mp once).2
  | booked sensorId rest recordsPerChunk chunk answers updatedAtUtc ready fetched queue open_ sized found observed =>
    obtain ⟨valid,_⟩ := (fetchChunk_answers _ _ _ _ found).2 chunk rfl
    obtain ⟨some,requested,_⟩ := validateChunk_ok valid
    have turned : Turned historyMeta before.1 sensorId rest
        (accept historyMeta { before.1 with answers := answers } sensorId rest chunk updatedAtUtc) :=
      .accepted chunk answers updatedAtUtc some (by omega)
    exact ⟨accounted.turned queue turned,turned_retrieved turned⟩

theorem turns_accounted {start head : Transfer × σ} (accounted : Accounted historyMeta start.1)
    (turns : Relation.ReflTransGen (Turn env historyMeta deadline) start head) : Accounted historyMeta head.1 ∧
      ∀ sensorId, start.1.retrieved sensorId ≤ head.1.retrieved sensorId := by
  induction turns with
  | refl => exact ⟨accounted,fun _ => Nat.le_refl _⟩
  | tail _ turn ih =>
    obtain ⟨sensorId,rest,queue,_,iterated⟩ := turn
    have turned := iteration_turned iterated
    exact ⟨ih.1.turned queue turned,fun other => (ih.2 other).trans (turned_retrieved turned other)⟩

theorem visited_accounted {start : Transfer × σ} (accounted : Accounted historyMeta start.1)
    (visited : Visited env historyMeta deadline start transfer) : Accounted historyMeta transfer ∧
      ∀ sensorId, start.1.retrieved sensorId ≤ transfer.retrieved sensorId := by
  obtain ⟨head,turns,rfl | half⟩ := visited
  · exact turns_accounted accounted turns
  · obtain ⟨there,grown⟩ := turns_accounted accounted turns
    obtain ⟨here,more⟩ := halfway_accounted there half
    exact ⟨here,fun sensorId => (grown sensorId).trans (more sensorId)⟩

theorem Accounted.progress_bounds (accounted : Accounted historyMeta transfer) :
    0 ≤ transfer.operation.progress ∧ transfer.operation.progress ≤ 1 := by
  have total : ∑ sensorId, transfer.retrieved sensorId ≤ totalExpected historyMeta := by
    apply Finset.sum_le_sum
    intro sensorId _
    have bound := accounted.expected sensorId
    omega
  rw [accounted.progress]
  constructor
  · exact div_nonneg (Nat.cast_nonneg _) (Nat.cast_nonneg _)
  · exact div_le_one_of_le₀ (Nat.cast_le.mpr total) (Nat.cast_nonneg _)

theorem Accounted.progress_le (before : Accounted historyMeta transfer) (after : Accounted historyMeta next)
    (grown : ∀ sensorId, transfer.retrieved sensorId ≤ next.retrieved sensorId) :
    transfer.operation.progress ≤ next.operation.progress := by
  have total : ∑ sensorId, transfer.retrieved sensorId ≤ ∑ sensorId, next.retrieved sensorId :=
    Finset.sum_le_sum fun sensorId _ => grown sensorId
  rw [before.progress,after.progress]
  exact div_le_div_of_nonneg_right (Nat.cast_le.mpr total) (Nat.cast_nonneg _)

def carried {α : Type} (action : Call σ α) : Call (σ × Nat) α := fun s => ((action s.1).1,((action s.1).2,s.2))

def counted {α : Type} (action : Call σ α) : Call (σ × Nat) α := fun s => ((action s.1).1,((action s.1).2,s.2 + 1))

def counting (env : Surroundings σ) : Surroundings (σ × Nat) where
  settings := env.settings
  monotonic s := ((env.monotonic s.1).1,((env.monotonic s.1).2,s.2))
  utcNow s := ((env.utcNow s.1).1,((env.utcNow s.1).2,s.2))
  sleep := carried env.sleep
  currentAnchor s := env.currentAnchor s.1
  publishCurrent anchor observed limit := carried (env.publishCurrent anchor observed limit)
  recordsPerChunk := carried env.recordsPerChunk
  getHistoryMeta limit := counted (env.getHistoryMeta limit)
  getCurrent limit := counted (env.getCurrent limit)
  getHistoryChunk sensorId startSequence count limit := counted (env.getHistoryChunk sensorId startSequence count limit)

@[simp] theorem counting_settings : (counting env).settings = env.settings := rfl

@[simp] theorem counting_monotonic (s : σ) (n : Nat) :
    (counting env).monotonic (s,n) = ((env.monotonic s).1,((env.monotonic s).2,n)) := rfl

@[simp] theorem counting_utcNow (s : σ) (n : Nat) : (counting env).utcNow (s,n) = ((env.utcNow s).1,((env.utcNow s).2,n)) := rfl

@[simp] theorem counting_recordsPerChunk (s : σ) (n : Nat) :
    (counting env).recordsPerChunk (s,n) = ((env.recordsPerChunk s).1,((env.recordsPerChunk s).2,n)) := rfl

@[simp] theorem counting_sleep (s : σ) (n : Nat) : (counting env).sleep (s,n) = ((env.sleep s).1,((env.sleep s).2,n)) := rfl

def Costs (limit : Nat) (n : Nat) (plain : α × σ) (run : α × (σ × Nat)) : Prop :=
  ∃ m, m ≤ n + limit ∧ run = (plain.1,(plain.2,m))

theorem Costs.refl (value : α) (s : σ) (n limit : Nat) : Costs limit n (value,s) (value,(s,n)) := ⟨n,Nat.le_add_right _ _,rfl⟩

theorem call_costs {α : Type} (action : Rat → Call σ α) (deadline : Rat) (s : σ) (n : Nat) :
    Costs 1 n (call env action deadline s) (call (counting env) (fun limit => counted (action limit)) deadline (s,n)) := by
  unfold call
  change Costs 1 n _ (if deadline - (env.monotonic s).1 ≤ 0 then _ else _)
  dsimp only
  split
  · exact Costs.refl _ _ _ _
  · exact ⟨n + 1,Nat.le_refl _,rfl⟩

theorem chunk_costs (sensorId : SensorId) (startSequence : UInt32) (requestCount : Int) (deadline : Rat) (s : σ) (n : Nat) :
    Costs 1 n (call env (env.getHistoryChunk sensorId startSequence requestCount) deadline s)
      (call (counting env) ((counting env).getHistoryChunk sensorId startSequence requestCount) deadline (s,n)) :=
  call_costs (env.getHistoryChunk sensorId startSequence requestCount) deadline s n

theorem meta_costs (deadline : Rat) (s : σ) (n : Nat) : Costs 1 n (call env env.getHistoryMeta deadline s)
    (call (counting env) (counting env).getHistoryMeta deadline (s,n)) := call_costs env.getHistoryMeta deadline s n

theorem fetchChunk_costs (startSequence : UInt32) (requestCount : Int) (attempts : Nat) (lastError : Option Failure)
    (answers : List Answer) (s : σ) (n : Nat) :
    ∃ m, m ≤ n + attempts ∧ fetchChunk (counting env) sensorId startSequence requestCount deadline attempts lastError answers (s,n) =
      ((fetchChunk env sensorId startSequence requestCount deadline attempts lastError answers s).1,
        (fetchChunk env sensorId startSequence requestCount deadline attempts lastError answers s).2.1,
        ((fetchChunk env sensorId startSequence requestCount deadline attempts lastError answers s).2.2,m)) := by
  induction attempts generalizing lastError answers s n with
  | zero => exact ⟨n,Nat.le_refl _,rfl⟩
  | succ attempts ih =>
    obtain ⟨m,few,same⟩ := @chunk_costs σ env sensorId startSequence requestCount deadline s n
    have again (failure : Option Failure) (answers : List Answer) (s : σ) :
        ∃ k, k ≤ n + (attempts + 1) ∧
          fetchChunk (counting env) sensorId startSequence requestCount deadline attempts failure answers (s,m) =
            ((fetchChunk env sensorId startSequence requestCount deadline attempts failure answers s).1,
              (fetchChunk env sensorId startSequence requestCount deadline attempts failure answers s).2.1,
              ((fetchChunk env sensorId startSequence requestCount deadline attempts failure answers s).2.2,k)) := by
      obtain ⟨k,fewer,later⟩ := ih failure answers s m
      exact ⟨k,by omega,later⟩
    have spent : m ≤ n + (attempts + 1) := by omega
    unfold fetchChunk
    rw [same]
    cases call env (env.getHistoryChunk sensorId startSequence requestCount) deadline s with
    | mk result s =>
      cases result with
      | ok chunk =>
        dsimp only
        cases validateChunk chunk sensorId startSequence requestCount with
        | ok _ => exact ⟨m,spent,rfl⟩
        | error failure => exact again _ _ _
      | error failure =>
        cases failure with
        | timeout description => exact ⟨m,spent,rfl⟩
        | cancelled => exact ⟨m,spent,rfl⟩
        | protocol description status =>
          dsimp only
          split
          · exact ⟨m,spent,rfl⟩
          · exact again _ _ _
        | other description =>
          dsimp only
          split
          · exact ⟨m,spent,rfl⟩
          · exact again _ _ _

theorem recover_costs (transfer : Transfer) (rest : List SensorId) (lastError : Option Failure) (s : σ) (n : Nat) :
    Costs 1 n (recover env historyMeta deadline transfer sensorId rest lastError s)
      (recover (counting env) historyMeta deadline transfer sensorId rest lastError (s,n)) := by
  unfold recover
  rw [counting_monotonic]
  split
  case isFalse => exact Costs.refl _ _ _ _
  case isTrue =>
    dsimp only
    split
    case isFalse => exact Costs.refl _ _ _ _
    case isTrue =>
      obtain ⟨m,few,same⟩ := @meta_costs σ env deadline (env.monotonic s).2 n
      rw [same]
      cases call env env.getHistoryMeta deadline (env.monotonic s).2 with
      | mk result s =>
        cases result with
        | ok freshMeta =>
          dsimp only
          split
          · exact ⟨m,few,rfl⟩
          · exact ⟨m,few,rfl⟩
        | error failure =>
          cases failure with
          | timeout description => exact ⟨m,few,rfl⟩
          | protocol description status => exact ⟨m,few,rfl⟩
          | other description => exact ⟨m,few,rfl⟩
          | cancelled => exact ⟨m,few,rfl⟩

theorem iteration_costs (transfer : Transfer) (rest : List SensorId) (s : σ) (n : Nat) :
    Costs (env.settings.historyChunkRetryCount + 2) n (iteration env historyMeta deadline transfer sensorId rest s)
      (iteration (counting env) historyMeta deadline transfer sensorId rest (s,n)) := by
  unfold iteration
  rw [counting_recordsPerChunk]
  cases env.recordsPerChunk s with
  | mk result s =>
    cases result with
    | error failure => exact Costs.refl _ _ _ _
    | ok recordsPerChunk =>
      obtain ⟨m,few,same⟩ := @fetchChunk_costs σ env sensorId deadline (transfer.nextSequence sensorId)
        (min recordsPerChunk (transfer.remaining sensorId)) (env.settings.historyChunkRetryCount + 1) none transfer.answers s n
      have spent : m ≤ n + (env.settings.historyChunkRetryCount + 2) := by omega
      dsimp only
      rw [counting_settings,same]
      cases fetchChunk env sensorId (transfer.nextSequence sensorId) (min recordsPerChunk (transfer.remaining sensorId)) deadline
          (env.settings.historyChunkRetryCount + 1) none transfer.answers s with
      | mk fetched more =>
        obtain ⟨answers,s⟩ := more
        cases fetched with
        | raised failure => exact ⟨m,spent,rfl⟩
        | expired => exact ⟨m,spent,rfl⟩
        | missing lastError =>
          obtain ⟨k,fewer,later⟩ := @recover_costs σ env historyMeta sensorId deadline
            { transfer with answers := answers } rest lastError s m
          exact ⟨k,by omega,later⟩
        | chunk chunk =>
          simp only [counting_utcNow,counting_sleep]
          cases env.sleep (env.utcNow s).2 with
          | mk slept s =>
            cases slept with
            | ok _ => exact ⟨m,spent,rfl⟩
            | error failure => exact ⟨m,spent,rfl⟩

theorem drain_empty (empty : transfer.pending = []) : drain env historyMeta deadline transfer s = (.ok transfer,s) := by
  unfold drain
  split
  · rfl
  · rename_i queue
    rw [empty] at queue
    cases queue

theorem drain_turn (queue : transfer.pending = sensorId :: rest) : drain env historyMeta deadline transfer s =
    if (env.monotonic s).1 < deadline then
      match iteration env historyMeta deadline transfer sensorId rest (env.monotonic s).2 with
      | (.again next,s) => drain env historyMeta deadline next s
      | (.stop next,s) => (.ok next,s)
      | (.raised failure,s) => (.error failure,s)
    else (.ok transfer,(env.monotonic s).2) := by
  rw [drain]
  split
  · rename_i empty
    rw [empty] at queue
    cases queue
  · rename_i sensorId' rest' queue'
    obtain ⟨rfl,rfl⟩ : sensorId' = sensorId ∧ rest' = rest := by
      rw [queue'] at queue
      exact List.cons.inj queue
    cases env.monotonic s with
    | mk now s =>
      dsimp only
      split
      case isFalse => rfl
      case isTrue =>
        split
        · rename_i iterated
          rw [iterated]
        · rename_i iterated
          rw [iterated]
        · rename_i iterated
          rw [iterated]

theorem drain_costs (transfer : Transfer) (s : σ) (n : Nat) :
    Costs ((env.settings.historyChunkRetryCount + 2) * transfer.work) n (drain env historyMeta deadline transfer s)
      (drain (counting env) historyMeta deadline transfer (s,n)) := by
  cases queue : transfer.pending with
  | nil =>
    rw [drain_empty queue,drain_empty queue]
    exact Costs.refl _ _ _ _
  | cons sensorId rest =>
    rw [drain_turn queue,drain_turn queue,counting_monotonic]
    split
    case isFalse => exact Costs.refl _ _ _ _
    case isTrue =>
      obtain ⟨m,few,same⟩ := @iteration_costs σ env historyMeta sensorId deadline transfer rest (env.monotonic s).2 n
      rw [same]
      cases iterated : iteration env historyMeta deadline transfer sensorId rest (env.monotonic s).2 with
      | mk result last =>
        have progress (less : 0 < transfer.work) : env.settings.historyChunkRetryCount + 2 ≤
            (env.settings.historyChunkRetryCount + 2) * transfer.work := Nat.le_mul_of_pos_right _ less
        have waiting : 0 < transfer.work := by simp [Transfer.work,queue]
        cases result with
        | again next =>
          have less := advance_work queue (iteration_advance iterated)
          obtain ⟨k,fewer,later⟩ := drain_costs next last m
          refine ⟨k,?_,later⟩
          have step : (env.settings.historyChunkRetryCount + 2) * next.work + (env.settings.historyChunkRetryCount + 2) ≤
              (env.settings.historyChunkRetryCount + 2) * transfer.work := by
            rw [← Nat.mul_succ]
            exact Nat.mul_le_mul_left _ less
          omega
        | stop next => exact ⟨m,by have := progress waiting; omega,rfl⟩
        | raised failure => exact ⟨m,by have := progress waiting; omega,rfl⟩
termination_by transfer.work

theorem drain_visited (transfer : Transfer) (s : σ) (drained : drain env historyMeta deadline transfer s = (.ok next,last)) :
    Visited env historyMeta deadline (transfer,s) next := by
  cases queue : transfer.pending with
  | nil =>
    rw [drain_empty queue] at drained
    cases drained
    exact ⟨_,.refl,Or.inl rfl⟩
  | cons sensorId rest =>
    rw [drain_turn queue] at drained
    split at drained
    case isFalse =>
      cases drained
      exact ⟨_,.refl,Or.inl rfl⟩
    case isTrue inTime =>
      cases iterated : iteration env historyMeta deadline transfer sensorId rest (env.monotonic s).2 with
      | mk result after =>
        rw [iterated] at drained
        cases result with
        | again following =>
          have less := advance_work queue (iteration_advance iterated)
          obtain ⟨head,turns,point⟩ := drain_visited following after drained
          exact ⟨head,.head ⟨sensorId,rest,queue,inTime,iterated⟩ turns,point⟩
        | stop following =>
          cases drained
          exact ⟨_,.refl,Or.inr (.stopped sensorId rest next last queue inTime iterated)⟩
        | raised failure => cases drained
termination_by transfer.work

-- The loop of a new operation: how many requests it makes at most, that it returns one of
-- its points, and what holds at each of them, the later of two points included.
theorem history_loop_progress (env : Surroundings σ) (historyMeta : HistoryMeta) (deadline updatedAtUtc : Rat) (s : σ) :
    let start : Transfer := .initial historyMeta ⟨0,updatedAtUtc⟩ [.historyMeta historyMeta]
    (∃ requests, requests ≤ (env.settings.historyChunkRetryCount + 2) * (start.pending.length + totalExpected historyMeta) ∧
      drain (counting env) historyMeta deadline start (s,0) =
        ((drain env historyMeta deadline start s).1,((drain env historyMeta deadline start s).2,requests))) ∧
    (∀ result last, drain env historyMeta deadline start s = (.ok result,last) → Visited env historyMeta deadline (start,s) result) ∧
    ∀ head, Relation.ReflTransGen (Turn env historyMeta deadline) (start,s) head →
      ∀ transfer, Visited env historyMeta deadline head transfer →
        (∀ sensorId ∈ transfer.pending, transfer.retrieved sensorId + transfer.remaining sensorId +
          declaredLost transfer.failures sensorId = (historyMeta.counts sensorId).toNat) ∧
        head.1.operation.progress ≤ transfer.operation.progress ∧
        0 ≤ transfer.operation.progress ∧ transfer.operation.progress ≤ 1 := by
  intro start
  have accounted : Accounted historyMeta start := initial_accounted historyMeta updatedAtUtc _
  refine ⟨?_,fun result last drained => drain_visited start s drained,fun head turns transfer visited => ?_⟩
  · obtain ⟨requests,few,same⟩ := @drain_costs σ env historyMeta deadline start s 0
    exact ⟨requests,by rw [Nat.zero_add] at few; exact few,same⟩
  · have there := (turns_accounted accounted turns).1
    obtain ⟨here,grown⟩ := visited_accounted there visited
    exact ⟨here.queued,there.progress_le here grown,here.progress_bounds⟩

-- A client whose ring moved on by one record before the first chunk.
def overwritingClient : Surroundings Nat where
  settings := ⟨30,1,1000⟩
  monotonic s := (0,s)
  utcNow s := (1000,s)
  sleep s := (.ok (),s)
  currentAnchor _ := (none,none)
  publishCurrent _ _ _ s := (.ok (),s)
  recordsPerChunk s := (.ok 2,s)
  getHistoryMeta _ s := (.ok ⟨7,1,![3,0],![1,0]⟩,s)
  getCurrent _ s := (.ok ⟨7,1⟩,s)
  getHistoryChunk sensorId startSequence _ _ s :=
    if s = 0 then (.error (.protocol "NOT_AVAILABLE" (some .notAvailable)),s + 1)
    else (.ok ⟨sensorId.number,startSequence,[⟨startSequence,some 20,.valid⟩]⟩,s + 1)

theorem history_loop_progress_overwritten : ∃ result last,
    drain overwritingClient ⟨7,0,![3,0],![0,0]⟩ 27 (.initial ⟨7,0,![3,0],![0,0]⟩ ⟨0,0⟩ [.historyMeta ⟨7,0,![3,0],![0,0]⟩]) 0 =
      (.ok result,last) ∧ declaredLost result.failures 0 = 1 ∧ 0 ≤ result.operation.progress ∧ result.operation.progress ≤ 1 := by
  have ran : (drain overwritingClient ⟨7,0,![3,0],![0,0]⟩ 27
      (.initial ⟨7,0,![3,0],![0,0]⟩ ⟨0,0⟩ [.historyMeta ⟨7,0,![3,0],![0,0]⟩]) 0).1.toOption.map
        (fun result => declaredLost result.failures 0) = some 1 := by decide +kernel
  obtain ⟨_,returned,points⟩ := history_loop_progress overwritingClient ⟨7,0,![3,0],![0,0]⟩ 27 0 0
  cases drained : drain overwritingClient ⟨7,0,![3,0],![0,0]⟩ 27
      (.initial ⟨7,0,![3,0],![0,0]⟩ ⟨0,0⟩ [.historyMeta ⟨7,0,![3,0],![0,0]⟩]) 0 with
  | mk outcome last =>
    rw [drained] at ran
    cases outcome with
    | error failure => cases ran
    | ok result =>
      obtain ⟨_,_,low,high⟩ := points _ .refl result (returned result last drained)
      exact ⟨result,last,rfl,Option.some.inj ran,low,high⟩

end Thermometer.Client
