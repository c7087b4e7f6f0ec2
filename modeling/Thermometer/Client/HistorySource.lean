import Thermometer.Client.HistoryCompleteness

-- The history transfer from a device that keeps a log: what the synchronizer relies on
-- besides the form of the answers, and what follows for the records that it returns.
namespace Thermometer.Client
open Wire Wrapping

-- A device that samples. Points of its past are ordered; up to each of them it has logged
-- some records, of which it still holds the last ones. A state of the surroundings is at a
-- point, and at the one that the last metadata request has frozen.
structure Recorder (σ ι : Type) where
  Before : ι → ι → Prop
  refl : ∀ point, Before point point
  trans : ∀ {first second third}, Before first second → Before second third → Before first third
  logged : ι → SensorId → List HistoryRecordValue
  held : ι → SensorId → List HistoryRecordValue
  grows : ∀ {past now}, Before past now → ∀ sensorId, logged past sensorId <+: logged now sensorId
  kept : ∀ point sensorId, held point sensorId <:+ logged point sensorId
  At : σ → ι → Option ι → Prop
  past : ∀ {s now asked}, At s now (some asked) → Before asked now

namespace Recorder

variable {σ ι : Type} (recorder : Recorder σ ι)

def Goes (now : ι) (asked : Option ι) (s : σ) : Prop := ∃ later, recorder.Before now later ∧ recorder.At s later asked

def Quiet {α : Type} (action : σ → α × σ) : Prop :=
  ∀ s now asked, recorder.At s now asked → recorder.Goes now asked (action s).2

def Announces (answer : HistoryMeta) (request : ι) : Prop :=
  ∀ sensorId, (recorder.held request sensorId).map (·.sequence.toNat) =
    span (2 ^ 32) (answer.oldestSequences sensorId).toNat (answer.counts sensorId).toNat

-- What the requests of the synchronizer do. An answer is either lost or true: a chunk holds
-- records from the frozen point.
structure Serves (env : Surroundings σ) : Prop where
  monotonic : recorder.Quiet env.monotonic
  utcNow : recorder.Quiet env.utcNow
  sleep : recorder.Quiet env.sleep
  publishCurrent : ∀ anchor observed limit, recorder.Quiet (env.publishCurrent anchor observed limit)
  recordsPerChunk : recorder.Quiet env.recordsPerChunk
  getCurrent : ∀ limit, recorder.Quiet (env.getCurrent limit)
  answeredMeta : ∀ {limit s now asked answer last}, recorder.At s now asked →
    env.getHistoryMeta limit s = (.ok answer,last) → ∃ request, recorder.Before now request ∧
      recorder.Goes request (some request) last ∧ recorder.Announces answer request
  failedMeta : ∀ {limit s now asked failure last}, recorder.At s now (some asked) →
    env.getHistoryMeta limit s = (.error failure,last) → ∃ request, recorder.Goes now (some request) last
  getHistoryChunk : ∀ sensorId startSequence count limit,
    recorder.Quiet (env.getHistoryChunk sensorId startSequence count limit)
  answeredChunk : ∀ {sensorId startSequence count limit s now asked chunk last}, recorder.At s now (some asked) →
    env.getHistoryChunk sensorId startSequence count limit s = (.ok chunk,last) →
    ∀ record ∈ chunk.records, record ∈ recorder.held asked sensorId

variable {recorder : Recorder σ ι} {env : Surroundings σ} {now later asked : ι} {s last : σ}

theorem at_goes {asked : Option ι} (here : recorder.At s now asked) : recorder.Goes now asked s :=
  ⟨now,recorder.refl now,here⟩

theorem Goes.earlier {asked : Option ι} (goes : recorder.Goes later asked s) (before : recorder.Before now later) :
    recorder.Goes now asked s := by
  obtain ⟨point,follows,here⟩ := goes
  exact ⟨point,recorder.trans before follows,here⟩

theorem Goes.quiet {α : Type} {action : σ → α × σ} {asked : Option ι} (goes : recorder.Goes now asked s)
    (quiet : recorder.Quiet action) : recorder.Goes now asked (action s).2 := by
  obtain ⟨point,before,here⟩ := goes
  exact (quiet s point asked here).earlier before

theorem call_quiet {α : Type} (serves : recorder.Serves env) {action : Rat → Call σ α}
    (quiet : ∀ limit, recorder.Quiet (action limit)) (deadline : Rat) : recorder.Quiet (call env action deadline) := by
  intro s now asked here
  have read := serves.monotonic s now asked here
  unfold call
  dsimp only
  split
  · exact read
  · exact read.quiet (quiet _)

theorem call_answered {α : Type} {answer : α} (serves : recorder.Serves env) {action : Rat → Call σ α} {asked : Option ι}
    (here : recorder.At s now asked) (called : call env action deadline s = (.ok answer,last)) :
    ∃ limit sent point, recorder.Before now point ∧ recorder.At sent point asked ∧
      action limit sent = (.ok answer,last) := by
  obtain ⟨point,before,read⟩ := serves.monotonic s now asked here
  unfold call at called
  dsimp only at called
  split at called
  · cases called
  · exact ⟨_,_,point,before,read,called⟩

theorem callMeta_failed {failure : Failure} (serves : recorder.Serves env) (here : recorder.At s now (some asked))
    (called : call env env.getHistoryMeta deadline s = (.error failure,last)) :
    ∃ request, recorder.Goes now (some request) last := by
  obtain ⟨point,before,read⟩ := serves.monotonic s now _ here
  unfold call at called
  dsimp only at called
  split at called
  · cases called
    exact ⟨asked,point,before,read⟩
  · obtain ⟨request,goes⟩ := serves.failedMeta read called
    exact ⟨request,goes.earlier before⟩

theorem fetchChunk_source (serves : recorder.Serves env) {sensorId : SensorId} {startSequence : UInt32}
    {requestCount : Int} (attempts : Nat) (lastError : Option Failure) (answers : List Answer)
    (here : recorder.At s now (some asked))
    (fetched : fetchChunk env sensorId startSequence requestCount deadline attempts lastError answers s =
      (result,rest,last)) :
    recorder.Goes now (some asked) last ∧ ∀ chunk, result = .chunk chunk →
      ∀ record ∈ chunk.records, record ∈ recorder.held asked sensorId := by
  induction attempts generalizing lastError answers s now with
  | zero =>
    cases fetched
    exact ⟨at_goes here,fun _ impossible => by cases impossible⟩
  | succ attempts ih =>
    have quiet := call_quiet serves (serves.getHistoryChunk sensorId startSequence requestCount) deadline s now _ here
    unfold fetchChunk at fetched
    split at fetched
    · rename_i called
      rw [called] at quiet
      cases fetched
      exact ⟨quiet,fun _ impossible => by cases impossible⟩
    · rename_i called
      rw [called] at quiet
      cases fetched
      exact ⟨quiet,fun _ impossible => by cases impossible⟩
    · rename_i called
      rw [called] at quiet
      split at fetched
      · cases fetched
        exact ⟨quiet,fun _ impossible => by cases impossible⟩
      · obtain ⟨point,before,there⟩ := quiet
        obtain ⟨goes,true⟩ := ih _ _ there fetched
        exact ⟨goes.earlier before,true⟩
    · rename_i called
      rw [called] at quiet
      dsimp only at fetched
      split at fetched
      · cases fetched
        obtain ⟨limit,sent,point,_,there,answered⟩ := call_answered serves here called
        refine ⟨quiet,fun chunk same => ?_⟩
        cases same
        exact serves.answeredChunk there answered
      · obtain ⟨point,before,there⟩ := quiet
        obtain ⟨goes,true⟩ := ih _ _ there fetched
        exact ⟨goes.earlier before,true⟩

structure Taken (recorder : Recorder σ ι) (request now : ι) (transfer : Transfer) : Prop where
  logged : ∀ entry ∈ transfer.records, entry.2 ∈ recorder.logged now entry.1.1
  clean : transfer.failures = [] → ∀ entry ∈ transfer.records, entry.2 ∈ recorder.held request entry.1.1

def Reached (recorder : Recorder σ ι) (request now : ι) (transfer : Transfer) (s : σ) : Prop :=
  ∃ later asked, recorder.Before now later ∧ recorder.At s later (some asked) ∧
    (transfer.failures = [] → asked = request) ∧ Taken recorder request later transfer

variable {transfer next : Transfer} {historyMeta : HistoryMeta} {sensorId : SensorId} {rest : List SensorId} {request : ι}

theorem held_logged (here : recorder.At s now (some asked)) (held : value ∈ recorder.held asked sensorId) :
    value ∈ recorder.logged now sensorId :=
  (recorder.grows (recorder.past here) sensorId).subset ((recorder.kept asked sensorId).subset held)

theorem Taken.grown (taken : Taken recorder request now transfer) (before : recorder.Before now later) :
    Taken recorder request later transfer :=
  ⟨fun entry member => (recorder.grows before _).subset (taken.logged entry member),taken.clean⟩

theorem Taken.failed (taken : Taken recorder request now transfer) (same : next.records = transfer.records)
    (noted : next.failures ≠ []) : Taken recorder request now next :=
  ⟨by rw [same]; exact taken.logged,fun none => absurd none noted⟩

theorem recover_source (serves : recorder.Serves env) {lastError : Option Failure} (here : recorder.At s now (some asked))
    (recovered : recover env historyMeta deadline transfer sensorId rest lastError s = (.again next,last)) :
    (∃ later asked, recorder.Before now later ∧ recorder.At last later (some asked)) ∧
      next.records = transfer.records ∧ next.failures ≠ [] := by
  have giving (before : Transfer) : (giveUp before sensorId rest lastError).failures ≠ [] := by simp [giveUp]
  have stay : ∀ {s : σ}, recorder.Goes now (some asked) s →
      ∃ later asked, recorder.Before now later ∧ recorder.At s later (some asked) := by
    intro s goes
    obtain ⟨point,before,there⟩ := goes
    exact ⟨point,asked,before,there⟩
  have read := serves.monotonic s now _ here
  unfold recover at recovered
  split at recovered
  · dsimp only at recovered
    split at recovered
    · obtain ⟨point,before,there⟩ := read
      split at recovered
      · cases recovered
      · rename_i failed
        cases recovered
        obtain ⟨fresh,last,after,found⟩ := callMeta_failed serves there failed
        exact ⟨⟨last,fresh,recorder.trans before after,found⟩,rfl,giving _⟩
      · rename_i answered
        obtain ⟨_,sent,point,follows,asking,received⟩ := call_answered serves there answered
        obtain ⟨fresh,between,⟨last,after,found⟩,_⟩ := serves.answeredMeta asking received
        have whole := recorder.trans before (recorder.trans follows (recorder.trans between after))
        split at recovered
        · cases recovered
          exact ⟨⟨last,fresh,whole,found⟩,rfl,by simp⟩
        · cases recovered
          exact ⟨⟨last,fresh,whole,found⟩,rfl,giving _⟩
    · cases recovered
      exact ⟨stay read,rfl,giving _⟩
  · cases recovered
    exact ⟨stay (at_goes here),rfl,giving _⟩

theorem recover_continues {lastError : Option Failure} (next : Transfer) :
    recover env historyMeta deadline transfer sensorId rest lastError s ≠ (.stop next,last) := by
  intro recovered
  unfold recover at recovered
  split at recovered
  · dsimp only at recovered
    split at recovered
    · split at recovered
      · cases recovered
      · cases recovered
      · split at recovered <;> cases recovered
    · cases recovered
  · cases recovered

theorem Taken.accepted (taken : Taken recorder request now transfer) (here : recorder.At s now (some asked))
    (same : transfer.failures = [] → asked = request) {chunk : HistoryChunk}
    (held : ∀ record ∈ chunk.records, record ∈ recorder.held asked sensorId) (answers : List Answer)
    (updatedAtUtc : Rat) :
    Taken recorder request now
      (accept historyMeta { transfer with answers := answers } sensorId rest chunk updatedAtUtc) := by
  refine ⟨fun entry member => ?_,fun none entry member => ?_⟩
  · rcases OrderedMap.mem_assignAll member with new | old
    · obtain ⟨value,inside,rfl⟩ := List.mem_map.mp new
      exact held_logged here (held value inside)
    · exact taken.logged entry old
  · rcases OrderedMap.mem_assignAll member with new | old
    · obtain ⟨value,inside,rfl⟩ := List.mem_map.mp new
      exact same none ▸ held value inside
    · exact taken.clean none entry old

theorem Reached.earlier (reached : Reached recorder request later transfer s) (before : recorder.Before now later) :
    Reached recorder request now transfer s := by
  obtain ⟨point,asked,follows,rest⟩ := reached
  exact ⟨point,asked,recorder.trans before follows,rest⟩

theorem iteration_source (serves : recorder.Serves env) (reached : Reached recorder request now transfer s)
    (iterated : iteration env historyMeta deadline transfer sensorId rest s = (result,last)) :
    ∀ next, result = .again next ∨ result = .stop next → Reached recorder request now next last := by
  obtain ⟨point,asked,before,here,same,taken⟩ := reached
  have asking := serves.recordsPerChunk s point _ here
  unfold iteration at iterated
  split at iterated
  · cases iterated
    simp
  · rename_i recordsPerChunk middle counted
    rw [counted] at asking
    obtain ⟨asked',follows,there⟩ := asking
    dsimp only at iterated
    cases fetched : fetchChunk env sensorId (transfer.nextSequence sensorId)
        (min recordsPerChunk (transfer.remaining sensorId)) deadline (env.settings.historyChunkRetryCount + 1) none
        transfer.answers middle with
    | mk outcome more =>
      obtain ⟨answers,fetching⟩ := more
      obtain ⟨⟨received,after,found⟩,held⟩ := fetchChunk_source serves _ _ _ there fetched
      have whole := recorder.trans before (recorder.trans follows after)
      have kept := taken.grown (recorder.trans follows after)
      rw [fetched] at iterated
      cases outcome with
      | raised failure =>
        cases iterated
        simp
      | expired =>
        cases iterated
        intro next stopped
        simp only [reduceCtorEq,Iterated.stop.injEq,false_or] at stopped
        subst stopped
        exact ⟨received,asked,whole,found,same,kept.logged,kept.clean⟩
      | missing lastError =>
        intro next ended
        rcases ended with rfl | rfl
        · obtain ⟨⟨later,fresh,onward,arrived⟩,records,noted⟩ := recover_source serves found iterated
          refine ⟨later,fresh,recorder.trans whole onward,arrived,fun none => absurd none noted,?_⟩
          exact (kept.grown onward).failed records noted
        · exact absurd iterated (recover_continues _)
      | chunk chunk =>
        dsimp only at iterated
        have booked : Taken recorder request received
            (accept historyMeta { transfer with answers := answers } sensorId rest chunk (env.utcNow fetching).1) :=
          kept.accepted found same (held chunk rfl) answers _
        have slept : recorder.Goes received (some asked) (env.sleep (env.utcNow fetching).2).2 :=
          ((at_goes found).quiet serves.utcNow).quiet serves.sleep
        split at iterated
        · cases iterated
          simp
        · rename_i awoken
          rw [awoken] at slept
          obtain ⟨later,onward,arrived⟩ := slept
          cases iterated
          intro next ended
          simp only [reduceCtorEq,Iterated.again.injEq,or_false] at ended
          subst ended
          exact ⟨later,asked,recorder.trans whole onward,arrived,same,booked.grown onward⟩

theorem drain_source (serves : recorder.Serves env) (reached : Reached recorder request now transfer s)
    (drained : drain env historyMeta deadline transfer s = (.ok next,last)) :
    Reached recorder request now next last := by
  have ticked : ∀ {transfer : Transfer} {s : σ}, Reached recorder request now transfer s →
      Reached recorder request now transfer (env.monotonic s).2 := by
    intro transfer s reached
    obtain ⟨point,asked,before,here,same,taken⟩ := reached
    obtain ⟨later,follows,there⟩ := serves.monotonic s point _ here
    exact ⟨later,asked,recorder.trans before follows,there,same,taken.grown follows⟩
  fun_induction drain env historyMeta deadline transfer s with
  | case1 =>
    cases drained
    exact reached
  | case2 transfer s sensorId rest queue now middle read soon next final iterated ih =>
    have started := ticked reached
    rw [read] at started
    exact ih (iteration_source serves started iterated next (.inl rfl)) drained
  | case3 transfer s sensorId rest queue now middle read soon next final iterated =>
    cases drained
    have started := ticked reached
    rw [read] at started
    exact iteration_source serves started iterated _ (.inr rfl)
  | case4 => cases drained
  | case5 transfer s sensorId rest queue now middle read late =>
    cases drained
    have started := ticked reached
    rw [read] at started
    exact started

theorem resolveAnchor_quiet (serves : recorder.Serves env) (historyMeta : HistoryMeta) (deadline : Rat)
    (anchor : Option CurrentSnapshot) (anchorTime : Option Rat) :
    recorder.Quiet (resolveAnchor env historyMeta deadline anchor anchorTime) := by
  have resolving : recorder.Quiet (resolveAnchor.resolve env deadline) := by
    intro s now asked here
    have asking := call_quiet serves serves.getCurrent deadline s now asked here
    unfold resolveAnchor.resolve
    split
    · rename_i called
      rwa [called] at asking
    · rename_i snapshot middle called
      rw [called] at asking
      have timed := (asking.quiet serves.utcNow).quiet serves.monotonic
      dsimp only
      split
      · exact timed
      · have published := timed.quiet (serves.publishCurrent snapshot (env.utcNow middle).1
          (deadline - (env.monotonic (env.utcNow middle).2).1))
        split
        · rename_i done
          rwa [done] at published
        · rename_i done
          rwa [done] at published
  intro s now asked here
  unfold resolveAnchor
  split
  · split
    · exact at_goes here
    · exact resolving s now asked here
  · exact resolving s now asked here

end Recorder

def TimedHistoryRecord.value (record : TimedHistoryRecord) : HistoryRecordValue :=
  ⟨record.sequence,record.temperatureC,record.dataStatus⟩

def HistorySync.values (history : HistorySync) (sensorId : SensorId) : List HistoryRecordValue :=
  (history.records.filter fun record => record.sensorId = sensorId).map TimedHistoryRecord.value

theorem conclude_values {σ : Type} {env : Surroundings σ} (transfer : Transfer) (sensorId : SensorId) :
    (conclude env historyMeta anchor anchorTime started deadline now transfer).history.values sensorId =
      (transfer.records.filter fun entry => entry.1.1 = sensorId).map (·.2) := by
  simp only [HistorySync.values,conclude,List.filter_map,List.map_map]
  rfl

theorem eq_of_numbers {values held : List α} {number : α → Nat} (numbers : values.map number = held.map number)
    (taken : ∀ value ∈ values, value ∈ held) (distinct : (held.map number).Nodup) : values = held := by
  have size : values.length = held.length := by simpa using congrArg List.length numbers
  refine List.ext_getElem size fun i left right => ?_
  have same : number values[i] = number held[i] := by
    have entry := congrArg (fun numbers => numbers[i]?) numbers
    simpa [left,right] using entry
  exact List.inj_on_of_nodup_map distinct (taken _ (List.getElem_mem left)) (List.getElem_mem right) same

namespace Recorder

variable {σ ι : Type} {recorder : Recorder σ ι} {env : Surroundings σ}

theorem conclude_source {transfer : Transfer} {request later : ι} (drained : Drained historyMeta transfer)
    (taken : Taken recorder request later transfer) (announces : recorder.Announces historyMeta request)
    (complete : (conclude env historyMeta anchor anchorTime started deadline now transfer).history.complete = true)
    (sensorId : SensorId) :
    (conclude env historyMeta anchor anchorTime started deadline now transfer).history.values sensorId =
      recorder.held request sensorId := by
  have none : (conclude env historyMeta anchor anchorTime started deadline now transfer).failures = [] := by
    simp only [conclude,decide_eq_true_eq] at complete
    exact complete.2
  have clean : transfer.failures = [] := (List.append_eq_nil_iff.mp (List.append_eq_nil_iff.mp none).1).1
  have arrived := conclude_succeeded drained none sensorId
  rw [conclude_received drained,snapshot,← announces sensorId,booked] at arrived
  have counts := (historyMeta.counts sensorId).toNat_lt
  rw [conclude_values]
  apply eq_of_numbers
  · rw [← arrived,List.map_map]
    refine List.map_congr_left fun entry member => ?_
    exact congrArg UInt32.toNat (drained.keyed entry (List.mem_filter.mp member).1).1
  · intro value member
    obtain ⟨entry,present,rfl⟩ := List.mem_map.mp member
    obtain ⟨inside,own⟩ := List.mem_filter.mp present
    have sensor : entry.1.1 = sensorId := by simpa using own
    exact sensor ▸ taken.clean clean entry inside
  · rw [announces sensorId]
    exact span_nodup (by omega)

theorem synchronize_source (serves : recorder.Serves env) {now : ι} {asked : Option ι} {s last : σ}
    (here : recorder.At s now asked) (synchronized : synchronize env operation s = (.ok result,last)) :
    ∃ request later, recorder.Before now request ∧
      (∃ sent ready, recorder.At sent ready (some request) ∧ recorder.Before ready later) ∧
      (∃ frozen, recorder.At last later (some frozen)) ∧
      let history := result.retrieval.history
      recorder.Announces history.historyMeta request ∧
      (∀ record ∈ history.records, record.value ∈ recorder.logged later record.sensorId) ∧
      (history.complete = true → ∀ sensorId, history.values sensorId = recorder.held request sensorId) := by
  have started := serves.monotonic s now asked here
  unfold synchronize at synchronized
  dsimp only at synchronized
  split at synchronized
  · cases synchronized
  · rename_i historyMeta _ called
    obtain ⟨begun,before,there⟩ := started
    obtain ⟨_,sent,point,follows,asking,answered⟩ := call_answered serves there called
    obtain ⟨request,between,goes,announces⟩ := serves.answeredMeta asking answered
    have first := recorder.trans before (recorder.trans follows between)
    split at synchronized
    · cases synchronized
    · rename_i resolved
      obtain ⟨ready,_,found⟩ := goes
      have anchored := (at_goes found).quiet (resolveAnchor_quiet serves historyMeta
        ((env.monotonic s).1 + env.settings.historySyncBudgetSeconds -
          min 1 (env.settings.historySyncBudgetSeconds / 10)) (env.currentAnchor (env.monotonic s).2).1
        (env.currentAnchor (env.monotonic s).2).2)
      rw [resolved] at anchored
      obtain ⟨settled,_,stands⟩ := anchored
      split at synchronized
      · cases synchronized
      · rename_i transfer _ drained
        have reached : Reached recorder request settled
            (.initial historyMeta operation [.historyMeta historyMeta]) _ :=
          ⟨settled,request,recorder.refl settled,stands,fun _ => rfl,by simp [Transfer.initial],by simp [Transfer.initial]⟩
        obtain ⟨ended,frozen,spent,stood,_,taken⟩ := drain_source serves reached drained
        have held := drain_drained (initial_consistent historyMeta operation) drained
        obtain ⟨later,final,stopped⟩ := serves.monotonic _ _ _ stood
        cases synchronized
        refine ⟨request,later,first,⟨_,settled,stands,recorder.trans spent final⟩,⟨frozen,stopped⟩,announces,?_,?_⟩
        · intro record member
          obtain ⟨entry,present,rfl⟩ := List.mem_map.mp member
          exact (recorder.grows final _).subset (taken.logged entry present)
        · intro complete sensorId
          exact conclude_source held taken announces complete sensorId

end Recorder

end Thermometer.Client
