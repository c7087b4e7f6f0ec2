import Thermometer.Client.HistorySource

-- A device that answers in time is read completely.
namespace Thermometer.Client
open Wire Wrapping

namespace Recorder

variable {σ ι : Type} {recorder : Recorder σ ι} {env : Surroundings σ} {now request : ι} {s last : σ}
  {transfer : Transfer} {historyMeta : HistoryMeta} {sensorId : SensorId} {rest : List SensorId} {bootId : UInt32}
  {deadline : Rat}

structure Prompt (recorder : Recorder σ ι) (env : Surroundings σ) (bootId : UInt32) (deadline : Rat) : Prop where
  clock : ∀ s, (env.monotonic s).1 < deadline
  sleep : ∀ s, (env.sleep s).1 = .ok ()
  publishCurrent : ∀ anchor observed limit s, (env.publishCurrent anchor observed limit s).1 = .ok ()
  recordsPerChunk : ∀ s, ∃ count, (env.recordsPerChunk s).1 = .ok count ∧ 1 ≤ count
  getHistoryMeta : ∀ limit {s now asked}, recorder.At s now asked →
    ∃ answer, (env.getHistoryMeta limit s).1 = .ok answer ∧ answer.bootId = bootId
  getCurrent : ∀ limit {s now asked}, recorder.At s now asked →
    ∃ answer, (env.getCurrent limit s).1 = .ok answer ∧ answer.bootId = bootId
  getHistoryChunk : ∀ {s now asked}, recorder.At s now (some asked) →
    ∀ (sensorId : SensorId) (place : Nat) (inside : place < (recorder.held asked sensorId).length) (count : Int) (limit : Rat),
      1 ≤ count → ∃ length : Nat, 0 < length ∧ length ≤ count ∧
        let start := (recorder.held asked sensorId)[place].sequence
        (env.getHistoryChunk sensorId start count limit s).1 =
          .ok ⟨sensorId.number,start,((recorder.held asked sensorId).drop place).take length⟩

theorem call_prompt {α : Type} (prompt : recorder.Prompt env bootId deadline) (action : Rat → Call σ α) (s : σ) :
    ∃ limit, call env action deadline s = action limit (env.monotonic s).2 := by
  have soon := prompt.clock s
  unfold call
  dsimp only
  rw [if_neg (not_le.mpr (sub_pos.mpr soon))]
  exact ⟨_,rfl⟩

theorem span_continuous {records : List HistoryRecordValue}
    (numbers : records.map (·.sequence.toNat) = span (2 ^ 32) startSequence.toNat records.length) :
    continuous startSequence records = true := by
  induction records generalizing startSequence with
  | nil => rfl
  | cons record rest ih =>
    rw [List.map_cons,List.length_cons,span_cons,List.cons.injEq] at numbers
    obtain ⟨head,tail⟩ := numbers
    have following : (startSequence + 1).toNat = (startSequence.toNat + 1) % 2 ^ 32 := by simp [UInt32.toNat_add]
    rw [Nat.mod_eq_of_lt startSequence.toNat_lt] at head
    rw [← span_mod,← following] at tail
    rw [continuous,Bool.and_eq_true,beq_iff_eq]
    exact ⟨UInt32.toNat_inj.mp head,ih tail⟩

theorem held_number {held : List HistoryRecordValue} (numbers : held.map (·.sequence.toNat) = span (2 ^ 32) oldest n)
    (inside : place < held.length) : held[place].sequence.toNat = (oldest + place) % 2 ^ 32 := by
  have entry := congrArg (fun numbers => numbers[place]?) numbers
  have size : held.length = n := by simpa using congrArg List.length numbers
  have reach : place < (span (2 ^ 32) oldest n).length := by simpa [← size] using inside
  simpa only [List.getElem?_map,List.getElem?_eq_getElem inside,List.getElem?_eq_getElem reach,Option.map_some,
    Option.some.injEq,span_getElem] using entry

theorem validateChunk_held {held : List HistoryRecordValue} (numbers : held.map (·.sequence.toNat) = span (2 ^ 32) oldest n)
    (inside : place < held.length) {length : Nat} (some : 0 < length) {count : Int} (few : length ≤ count) (sensorId : SensorId) :
    let start := held[place].sequence
    validateChunk ⟨sensorId.number,start,(held.drop place).take length⟩ sensorId start count = .ok () := by
  intro start
  have piece : ((held.drop place).take length).map (·.sequence.toNat) =
      span (2 ^ 32) start.toNat ((held.drop place).take length).length := by
    have first : start.toNat = (oldest + place) % 2 ^ 32 := held_number numbers inside
    have size : held.length = n := by simpa using congrArg List.length numbers
    rw [List.map_take,List.map_drop,numbers,span_piece,first,span_mod,List.length_take,List.length_drop,size]
  have filled : (held.drop place).take length ≠ [] := by
    rw [← List.length_pos_iff]
    simp only [List.length_take,List.length_drop]
    omega
  unfold validateChunk
  rw [if_neg (by simp),if_neg,span_continuous piece]
  · simp
  · simp only [not_or,Int.not_lt]
    refine ⟨filled,?_⟩
    simp only [List.length_take]
    omega

structure Flowing (recorder : Recorder σ ι) (historyMeta : HistoryMeta) (request : ι) (transfer : Transfer) (s : σ) : Prop where
  here : ∃ now, recorder.At s now (some request)
  clean : transfer.failures = []
  inTime : transfer.budgetExpired = false
  consistent : Consistent historyMeta transfer
  wanted : ∀ sensorId ∈ transfer.pending, 0 < transfer.remaining sensorId
  distinct : transfer.pending.Nodup

theorem fetchChunk_prompt (prompt : recorder.Prompt env bootId deadline) (serves : recorder.Serves env)
    (announces : recorder.Announces historyMeta request) (here : recorder.At s now (some request))
    (track : OnTrack historyMeta transfer sensorId) (left : 0 < transfer.remaining sensorId) {requestCount : Int}
    (some : 1 ≤ requestCount) (attempts : Nat) (answers : List Answer) :
    ∃ chunk later last, fetchChunk env sensorId (transfer.nextSequence sensorId) requestCount deadline (attempts + 1) none
        answers s = (.chunk chunk,later,last) ∧ recorder.Goes now (.some request) last := by
  have numbers := announces sensorId
  have divided := track.divided
  have size : (recorder.held request sensorId).length = (historyMeta.counts sensorId).toNat := by
    simpa using congrArg List.length numbers
  have inside : transfer.retrieved sensorId < (recorder.held request sensorId).length := by omega
  have start : (recorder.held request sensorId)[transfer.retrieved sensorId].sequence = transfer.nextSequence sensorId := by
    apply UInt32.toNat_inj.mp
    rw [held_number numbers inside,track.continues]
  obtain ⟨limit,called⟩ := call_prompt prompt
    (env.getHistoryChunk sensorId (transfer.nextSequence sensorId) requestCount) s
  obtain ⟨point,before,there⟩ := serves.monotonic s now _ here
  obtain ⟨length,positive,few,answered⟩ := prompt.getHistoryChunk there sensorId _ inside requestCount limit some
  have valid := validateChunk_held numbers inside positive few sensorId
  have onward := (at_goes there).quiet (serves.getHistoryChunk sensorId (transfer.nextSequence sensorId) requestCount limit)
  dsimp only at answered valid
  rw [start] at answered valid
  rw [← called] at answered onward
  unfold fetchChunk
  cases ran : call env (env.getHistoryChunk sensorId (transfer.nextSequence sensorId) requestCount) deadline s with
  | mk outcome last =>
    rw [ran] at answered onward
    dsimp only at answered
    subst answered
    dsimp only
    rw [valid]
    exact ⟨_,_,_,rfl,onward.earlier before⟩

theorem accept_wanted (historyMeta : HistoryMeta) (queue : transfer.pending = sensorId :: rest)
    (wanted : ∀ sensorId ∈ transfer.pending, 0 < transfer.remaining sensorId) (distinct : transfer.pending.Nodup)
    (answers : List Answer) (chunk : HistoryChunk) (updatedAtUtc : Rat) :
    let next := accept historyMeta { transfer with answers := answers } sensorId rest chunk updatedAtUtc
    (∀ other ∈ next.pending, 0 < next.remaining other) ∧ next.pending.Nodup := by
  intro next
  rw [queue] at wanted distinct
  obtain ⟨fresh,apart⟩ := List.nodup_cons.mp distinct
  have others : ∀ other ∈ rest, 0 < next.remaining other := by
    intro other member
    have differs : other ≠ sensorId := by
      rintro rfl
      exact fresh member
    have unchanged : next.remaining other = transfer.remaining other := Function.update_of_ne differs _ _
    rw [unchanged]
    exact wanted other (List.mem_cons_of_mem _ member)
  by_cases left : 0 < next.remaining sensorId
  · have pending : next.pending = rest ++ [sensorId] := if_pos left
    rw [pending]
    refine ⟨?_,?_⟩
    · rw [List.forall_mem_append,List.forall_mem_singleton]
      exact ⟨others,left⟩
    · rw [List.nodup_append]
      refine ⟨apart,List.nodup_singleton _,?_⟩
      intro other member same equal
      rw [List.mem_singleton.mp equal]
      rintro rfl
      exact fresh member
  · have pending : next.pending = rest := if_neg left
    rw [pending]
    exact ⟨others,apart⟩

theorem iteration_prompt (prompt : recorder.Prompt env bootId deadline) (serves : recorder.Serves env)
    (announces : recorder.Announces historyMeta request) (flowing : Flowing recorder historyMeta request transfer s)
    (queue : transfer.pending = sensorId :: rest) :
    ∃ next last, iteration env historyMeta deadline transfer sensorId rest s = (.again next,last) ∧
      Flowing recorder historyMeta request next last := by
  obtain ⟨now,here⟩ := flowing.here
  have left : 0 < transfer.remaining sensorId := flowing.wanted sensorId (by simp [queue])
  obtain ⟨count,counted,some⟩ := prompt.recordsPerChunk s
  obtain ⟨point,before,there⟩ := serves.recordsPerChunk s now _ here
  have asked : 1 ≤ min count (transfer.remaining sensorId : Int) := Int.le_min.mpr ⟨some,by omega⟩
  obtain ⟨chunk,answers,middle,fetched,received⟩ := fetchChunk_prompt prompt serves announces there
    (flowing.consistent.tracked flowing.clean sensorId) left asked env.settings.historyChunkRetryCount transfer.answers
  have slept := (received.quiet serves.utcNow).quiet serves.sleep
  have awake := prompt.sleep (env.utcNow middle).2
  have iterated : iteration env historyMeta deadline transfer sensorId rest s = (.again (accept historyMeta
      { transfer with answers := answers } sensorId rest chunk (env.utcNow middle).1),
        (env.sleep (env.utcNow middle).2).2) := by
    unfold iteration
    cases ready : env.recordsPerChunk s with
    | mk outcome counting =>
      rw [ready] at counted fetched
      dsimp only at counted fetched
      subst counted
      dsimp only
      rw [fetched]
      dsimp only
      cases rested : env.sleep (env.utcNow middle).2 with
      | mk outcome last =>
        rw [rested] at awake
        dsimp only at awake
        subst awake
        rfl
  obtain ⟨wanted,distinct⟩ := accept_wanted historyMeta queue flowing.wanted flowing.distinct answers
    chunk (env.utcNow middle).1
  obtain ⟨later,_,arrived⟩ := slept
  exact ⟨_,_,iterated,⟨later,arrived⟩,flowing.clean,flowing.inTime,
    flowing.consistent.advance queue (iteration_advance iterated),wanted,distinct⟩

theorem drain_prompt (prompt : recorder.Prompt env bootId deadline) (serves : recorder.Serves env)
    (announces : recorder.Announces historyMeta request) (flowing : Flowing recorder historyMeta request transfer s) :
    ∃ next last, drain env historyMeta deadline transfer s = (.ok next,last) ∧ next.pending = [] ∧
      Flowing recorder historyMeta request next last := by
  have ticked : ∀ {transfer : Transfer} {s : σ}, Flowing recorder historyMeta request transfer s →
      Flowing recorder historyMeta request transfer (env.monotonic s).2 := by
    intro transfer s flowing
    obtain ⟨now,here⟩ := flowing.here
    obtain ⟨later,_,there⟩ := serves.monotonic s now _ here
    exact { flowing with here := ⟨later,there⟩ }
  fun_induction drain env historyMeta deadline transfer s with
  | case1 transfer s empty => exact ⟨_,_,rfl,empty,flowing⟩
  | case2 transfer s sensorId rest queue now middle read soon next last iterated ih =>
    have read' := ticked flowing
    rw [read] at read'
    obtain ⟨other,final,ran,flows⟩ := iteration_prompt prompt serves announces read' queue
    rw [iterated] at ran
    cases ran
    exact ih flows
  | case3 transfer s sensorId rest queue now middle read soon next last iterated =>
    have read' := ticked flowing
    rw [read] at read'
    obtain ⟨other,final,ran,_⟩ := iteration_prompt prompt serves announces read' queue
    rw [iterated] at ran
    cases ran
  | case4 transfer s sensorId rest queue now middle read soon failure last iterated =>
    have read' := ticked flowing
    rw [read] at read'
    obtain ⟨other,final,ran,_⟩ := iteration_prompt prompt serves announces read' queue
    rw [iterated] at ran
    cases ran
  | case5 transfer s sensorId rest queue now middle read late =>
    have soon := prompt.clock s
    rw [read] at soon
    exact absurd soon late

theorem initial_flowing (here : recorder.At s now (some request)) (operation : SyncOperation) :
    Flowing recorder historyMeta request (.initial historyMeta operation [.historyMeta historyMeta]) s := by
  refine ⟨⟨now,here⟩,rfl,rfl,initial_consistent historyMeta operation,?_,(List.nodup_finRange _).filter _⟩
  intro sensorId member
  have counted := (List.mem_filter.mp member).2
  simpa [Transfer.initial,UInt16.lt_iff_toNat_lt] using counted

theorem resolveAnchor_prompt (prompt : recorder.Prompt env bootId deadline) (serves : recorder.Serves env)
    (boot : historyMeta.bootId = bootId) (here : recorder.At s now asked) (known : Option CurrentSnapshot)
    (observed : Option Rat) :
    ∃ anchor last, resolveAnchor env historyMeta deadline known observed s = (.ok anchor,last) ∧
      anchor.1.bootId = bootId ∧ recorder.Goes now asked last := by
  have resolving : ∃ anchor last, resolveAnchor.resolve env deadline s = (.ok anchor,last) ∧ anchor.1.bootId = bootId := by
    obtain ⟨limit,called⟩ := call_prompt prompt env.getCurrent s
    obtain ⟨point,_,there⟩ := serves.monotonic s now _ here
    obtain ⟨answer,answered,same⟩ := prompt.getCurrent limit there
    rw [← called] at answered
    unfold resolveAnchor.resolve
    cases ran : call env env.getCurrent deadline s with
    | mk outcome middle =>
      rw [ran] at answered
      dsimp only at answered
      subst answered
      have soon := prompt.clock (env.utcNow middle).2
      have published := prompt.publishCurrent answer (env.utcNow middle).1
        (deadline - (env.monotonic (env.utcNow middle).2).1) (env.monotonic (env.utcNow middle).2).2
      dsimp only
      rw [if_neg (not_le.mpr (sub_pos.mpr soon))]
      cases done : env.publishCurrent answer (env.utcNow middle).1
          (deadline - (env.monotonic (env.utcNow middle).2).1) (env.monotonic (env.utcNow middle).2).2 with
      | mk outcome last =>
        rw [done] at published
        dsimp only at published
        subst published
        exact ⟨_,_,rfl,same⟩
  have quiet := resolveAnchor_quiet serves historyMeta deadline known observed s now asked here
  have resolved : ∃ anchor last, resolveAnchor env historyMeta deadline known observed s = (.ok anchor,last) ∧
      anchor.1.bootId = bootId := by
    unfold resolveAnchor
    split
    · split
      · exact ⟨_,_,rfl,‹_ = _›.trans boot⟩
      · exact resolving
    · exact resolving
  obtain ⟨anchor,last,ran,same⟩ := resolved
  rw [ran] at quiet
  exact ⟨anchor,last,ran,same,quiet⟩

theorem synchronize_prompt (serves : recorder.Serves env) (here : recorder.At s now asked)
    (prompt : recorder.Prompt env bootId ((env.monotonic s).1 + env.settings.historySyncBudgetSeconds -
      min 1 (env.settings.historySyncBudgetSeconds / 10))) (operation : SyncOperation) :
    ∃ result last, synchronize env operation s = (.ok result,last) ∧ result.retrieval.history.complete = true := by
  obtain ⟨point,_,there⟩ := serves.monotonic s now _ here
  obtain ⟨limit,called⟩ := call_prompt prompt env.getHistoryMeta (env.monotonic s).2
  obtain ⟨second,_,standing⟩ := serves.monotonic _ _ _ there
  obtain ⟨historyMeta,answered,boot⟩ := prompt.getHistoryMeta limit standing
  cases asking : env.getHistoryMeta limit (env.monotonic (env.monotonic s).2).2 with
  | mk outcome middle =>
    rw [asking] at answered called
    dsimp only at answered
    subst answered
    obtain ⟨request,_,⟨ready,_,found⟩,announces⟩ := serves.answeredMeta standing asking
    obtain ⟨anchor,settled,resolved,same,onward⟩ := resolveAnchor_prompt prompt serves boot found
      (env.currentAnchor (env.monotonic s).2).1 (env.currentAnchor (env.monotonic s).2).2
    obtain ⟨beginning,_,stands⟩ := onward
    obtain ⟨transfer,last,drained,empty,flowing⟩ := drain_prompt prompt serves announces
      (initial_flowing stands operation)
    have concluded : ∃ anchorTime started deadline now final, synchronize env operation s =
        (.ok ⟨conclude env historyMeta anchor.1 anchorTime started deadline now transfer,transfer.operation,
          transfer.answers⟩,final) := by
      unfold synchronize
      dsimp only
      rw [called]
      dsimp only
      rw [resolved]
      dsimp only
      rw [drained]
      exact ⟨_,_,_,_,_,rfl⟩
    obtain ⟨anchorTime,started,deadline,now,final,ran⟩ := concluded
    refine ⟨_,final,ran,?_⟩
    have finished := flowing.consistent.drained.finished flowing.clean empty flowing.inTime
    simp only [conclude,decide_eq_true_eq,flowing.clean,empty,flowing.inTime]
    refine ⟨fun sensorId => ?_,?_⟩
    · obtain ⟨track,none⟩ := finished sensorId
      have divided := track.divided
      omega
    · simp [same,boot]

end Recorder

end Thermometer.Client
