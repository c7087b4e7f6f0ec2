import Thermometer.Lib.OrderedMap
import Thermometer.Lib.Wrapping
import Thermometer.Wire
import Mathlib.Data.Rat.Defs
import Mathlib.Algebra.Order.Ring.Unbundled.Rat
import Mathlib.Algebra.BigOperators.Fin

-- history_sync.py. Sensors are counted from zero; seconds and datetimes are rationals.
namespace Thermometer.Client
open Wire

abbrev SensorId := Fin sensorCount

def SensorId.number (sensorId : SensorId) : Nat := sensorId.val + 1

structure HistoryMeta where
  bootId : UInt32
  newestSequence : UInt32
  counts : SensorId → UInt16
  oldestSequences : SensorId → UInt32

structure CurrentSnapshot where
  bootId : UInt32
  newestSequence : UInt32
  deriving DecidableEq, Repr

structure HistoryRecordValue where
  sequence : UInt32
  temperatureC : Option Rat
  dataStatus : DataStatus
  deriving DecidableEq

structure HistoryChunk where
  sensorId : Nat
  startSequence : UInt32
  records : List HistoryRecordValue
  deriving DecidableEq

structure TimedHistoryRecord where
  sensorId : SensorId
  sequence : UInt32
  sampledAt : Rat
  temperatureC : Option Rat
  dataStatus : DataStatus

structure HistorySync where
  historyMeta : HistoryMeta
  anchor : CurrentSnapshot
  records : List TimedHistoryRecord
  expectedCounts : SensorId → UInt16
  retrievedCounts : SensorId → Nat
  complete : Bool
  elapsedSeconds : Rat
  failureReason : Option String

structure HistoryRetrieval where
  history : HistorySync
  deadline : Rat
  failures : List String

-- An exception as the `except` clauses tell them apart, with its description.
-- Cancellation is not an `Exception` and passes every clause.
inductive Failure where
  | timeout (description : String)
  | protocol (description : String) (status : Option Status)
  | other (description : String)
  | cancelled
  deriving DecidableEq

def describeBleError : Failure → String
  | .timeout description | .protocol description _ | .other description => description
  | .cancelled => "CancelledError"

structure ServiceConfig where
  historySyncBudgetSeconds : Rat
  historyChunkRetryCount : Nat
  samplePeriodMs : Nat

abbrev Call (σ α : Type) := σ → Except Failure α × σ

-- Everything the synchronizer is constructed with. The clock, the client and the
-- rest of the service share an arbitrary state; a request receives its time limit.
structure Surroundings (σ : Type) where
  settings : ServiceConfig
  monotonic : σ → Rat × σ
  utcNow : σ → Rat × σ
  sleep : Call σ Unit
  currentAnchor : σ → Option CurrentSnapshot × Option Rat
  publishCurrent : CurrentSnapshot → Rat → Rat → Call σ Unit
  recordsPerChunk : Call σ Int
  getHistoryMeta : Rat → Call σ HistoryMeta
  getCurrent : Rat → Call σ CurrentSnapshot
  getHistoryChunk : SensorId → UInt32 → Int → Rat → Call σ HistoryChunk

inductive Answer where
  | historyMeta (answer : HistoryMeta)
  | historyChunk (sensorId : SensorId) (startSequence : UInt32) (requestedCount : Int) (answer : HistoryChunk)

-- The loop of `validate_chunk` over the records.
def continuous : UInt32 → List HistoryRecordValue → Bool
  | _,[] => true
  | expectedSequence,record :: rest =>
    record.sequence == expectedSequence && continuous (expectedSequence + 1) rest

def validateChunk (chunk : HistoryChunk) (sensorId : SensorId) (startSequence : UInt32)
    (requestedCount : Int) : Except Failure Unit :=
  if chunk.sensorId ≠ sensorId.number ∨ chunk.startSequence ≠ startSequence then
    .error (.protocol "history chunk does not match its request" none)
  else if chunk.records = [] ∨ requestedCount < chunk.records.length then
    .error (.protocol "history chunk has an invalid record count" none)
  else if !continuous startSequence chunk.records then
    .error (.protocol "history chunk sequence is discontinuous" none)
  else .ok ()

-- The difference of two sequences is taken forward or backward, whichever is short.
def timestamp (anchorSequence : UInt32) (anchorTime : Rat) (recordSequence : UInt32) (sampleSeconds : Rat) : Rat :=
  let backward := (anchorSequence - recordSequence).toNat
  if backward ≤ 2147483647 then anchorTime - backward * sampleSeconds
  else anchorTime + (recordSequence - anchorSequence).toNat * sampleSeconds

-- The fields of the tracked operation that the synchronizer writes.
structure SyncOperation where
  progress : Rat
  updatedAtUtc : Rat

structure Transfer where
  pending : List SensorId
  remaining : SensorId → Nat
  nextSequence : SensorId → UInt32
  retrieved : SensorId → Nat
  records : List ((SensorId × UInt32) × HistoryRecordValue)
  failures : List String
  budgetExpired : Bool
  operation : SyncOperation
  answers : List Answer

variable {σ : Type} (env : Surroundings σ)

-- `_call`: the time limit of a request is what is left until the deadline.
def call {α : Type} (action : Rat → Call σ α) (deadline : Rat) : Call σ α := fun s =>
  let (now,s) := env.monotonic s
  let remaining := deadline - now
  if remaining ≤ 0 then (.error (.timeout "TimeoutError"),s) else action remaining s

inductive Fetched where
  | chunk (chunk : HistoryChunk)
  | expired
  | missing (lastError : Option Failure)
  | raised (failure : Failure)

def notAvailable : Failure → Bool
  | .protocol _ status => status = some .notAvailable
  | _ => false

def fetchChunk (sensorId : SensorId) (startSequence : UInt32) (requestCount : Int) (deadline : Rat) :
    Nat → Option Failure → List Answer → σ → Fetched × List Answer × σ
  | 0,lastError,answers,s => (.missing lastError,answers,s)
  | attempts + 1,_,answers,s =>
    match call env (env.getHistoryChunk sensorId startSequence requestCount) deadline s with
    | (.error .cancelled,s) => (.raised .cancelled,answers,s)
    | (.error (.timeout _),s) => (.expired,answers,s)
    | (.error failure,s) =>
      if notAvailable failure then (.missing (some failure),answers,s)
      else fetchChunk sensorId startSequence requestCount deadline attempts (some failure) answers s
    | (.ok chunk,s) =>
      let answers := answers ++ [.historyChunk sensorId startSequence requestCount chunk]
      match validateChunk chunk sensorId startSequence requestCount with
      | .ok _ => (.chunk chunk,answers,s)
      | .error failure =>
        fetchChunk sensorId startSequence requestCount deadline attempts (some failure) answers s

inductive Iterated where
  | again (transfer : Transfer)
  | stop (transfer : Transfer)
  | raised (failure : Failure)

def describeLast (lastError : Option Failure) : String :=
  (lastError.map describeBleError).getD "unknown history error"

def giveUp (transfer : Transfer) (sensorId : SensorId) (rest : List SensorId) (lastError : Option Failure) :
    Transfer :=
  let failure := s!"sensor {sensorId.number}: {describeLast lastError}"
  { transfer with pending := rest, failures := transfer.failures ++ [failure] }

-- No chunk: the surviving suffix of an overwritten range, or the end for the sensor.
def recover (historyMeta : HistoryMeta) (deadline : Rat) (transfer : Transfer) (sensorId : SensorId)
    (rest : List SensorId) (lastError : Option Failure) (s : σ) : Iterated × σ :=
  if lastError.any notAvailable then
    let (now,s) := env.monotonic s
    if now < deadline then
      match call env env.getHistoryMeta deadline s with
      | (.error .cancelled,s) => (.raised .cancelled,s)
      | (.error failure,s) =>
        let refresh := s!"sensor {sensorId.number} metadata refresh: {describeBleError failure}"
        let transfer := { transfer with failures := transfer.failures ++ [refresh] }
        (.again (giveUp transfer sensorId rest lastError),s)
      | (.ok freshMeta,s) =>
        let transfer := { transfer with answers := transfer.answers ++ [.historyMeta freshMeta] }
        let freshOldest := freshMeta.oldestSequences sensorId
        let lost := (freshOldest - transfer.nextSequence sensorId).toNat
        if freshMeta.bootId = historyMeta.bootId ∧ 0 < lost ∧ lost < transfer.remaining sensorId then
          let failure := s!"sensor {sensorId.number}: {lost} oldest record(s) were overwritten before retrieval"
          (.again { transfer with
            pending := rest ++ [sensorId]
            remaining := Function.update transfer.remaining sensorId (transfer.remaining sensorId - lost)
            nextSequence := Function.update transfer.nextSequence sensorId freshOldest
            failures := transfer.failures ++ [failure] },s)
        else (.again (giveUp transfer sensorId rest lastError),s)
    else (.again (giveUp transfer sensorId rest lastError),s)
  else (.again (giveUp transfer sensorId rest lastError),s)

def accept (historyMeta : HistoryMeta) (transfer : Transfer) (sensorId : SensorId) (rest : List SensorId)
    (chunk : HistoryChunk) (updatedAtUtc : Rat) : Transfer :=
  let length := chunk.records.length
  let retrieved := Function.update transfer.retrieved sensorId (transfer.retrieved sensorId + length)
  let remaining := Function.update transfer.remaining sensorId (transfer.remaining sensorId - length)
  let totalExpected := ∑ sensorId, (historyMeta.counts sensorId).toNat
  let totalRetrieved := ∑ sensorId, retrieved sensorId
  { transfer with
    pending := if 0 < remaining sensorId then rest ++ [sensorId] else rest
    remaining := remaining
    nextSequence := Function.update transfer.nextSequence sensorId
      (transfer.nextSequence sensorId + UInt32.ofNat length)
    retrieved := retrieved
    records := OrderedMap.assignAll transfer.records
      (chunk.records.map fun record => ((sensorId,record.sequence),record))
    operation :=
      ⟨if totalExpected = 0 then 1 else (totalRetrieved : Rat) / totalExpected,updatedAtUtc⟩ }

def iteration (historyMeta : HistoryMeta) (deadline : Rat) (transfer : Transfer) (sensorId : SensorId)
    (rest : List SensorId) (s : σ) : Iterated × σ :=
  match env.recordsPerChunk s with
  | (.error failure,s) => (.raised failure,s)
  | (.ok recordsPerChunk,s) =>
    let requestCount := min recordsPerChunk (transfer.remaining sensorId)
    let startSequence := transfer.nextSequence sensorId
    match fetchChunk env sensorId startSequence requestCount deadline (env.settings.historyChunkRetryCount + 1)
        none transfer.answers s with
    | (.raised failure,_,s) => (.raised failure,s)
    | (.expired,answers,s) =>
      (.stop { transfer with pending := rest, budgetExpired := true, answers := answers },s)
    | (.missing lastError,answers,s) =>
      recover env historyMeta deadline { transfer with answers := answers } sensorId rest lastError s
    | (.chunk chunk,answers,s) =>
      let (updatedAtUtc,s) := env.utcNow s
      let transfer := accept historyMeta { transfer with answers := answers } sensorId rest chunk updatedAtUtc
      match env.sleep s with
      | (.error failure,s) => (.raised failure,s)
      | (.ok _,s) => (.again transfer,s)

-- How much there is left to do at most: every iteration lowers it.
def Transfer.work (transfer : Transfer) : Nat :=
  transfer.pending.length + ∑ sensorId, transfer.remaining sensorId

inductive Advance (historyMeta : HistoryMeta) (transfer : Transfer) (sensorId : SensorId)
    (rest : List SensorId) : Transfer → Prop where
  | failed (failures : List String) (answers : List Answer) :
      failures ≠ [] → (∀ failure ∈ failures, failure ≠ "") → transfer.answers <+: answers →
      Advance historyMeta transfer sensorId rest { transfer with
        pending := rest, failures := transfer.failures ++ failures, answers := answers }
  | salvaged (lost : Nat) (oldest : UInt32) (failure : String) (answers : List Answer) :
      0 < lost → lost < transfer.remaining sensorId → failure ≠ "" → transfer.answers <+: answers →
      Advance historyMeta transfer sensorId rest { transfer with
        pending := rest ++ [sensorId]
        remaining := Function.update transfer.remaining sensorId (transfer.remaining sensorId - lost)
        nextSequence := Function.update transfer.nextSequence sensorId oldest
        failures := transfer.failures ++ [failure], answers := answers }
  | accepted (chunk : HistoryChunk) (requestCount : Int) (answers : List Answer) (updatedAtUtc : Rat) :
      validateChunk chunk sensorId (transfer.nextSequence sensorId) requestCount = .ok () →
      requestCount ≤ transfer.remaining sensorId → transfer.answers <+: answers →
      .historyChunk sensorId (transfer.nextSequence sensorId) requestCount chunk ∈ answers →
      Advance historyMeta transfer sensorId rest
        (accept historyMeta { transfer with answers := answers } sensorId rest chunk updatedAtUtc)

theorem append_filled {head tail : String} (filled : head ≠ "") : head ++ tail ≠ "" := by
  intro empty
  exact filled (String.append_eq_empty_iff.mp empty).1

theorem sensor_filled : toString "sensor " ≠ "" := by decide

section
variable {env : Surroundings σ} {historyMeta : HistoryMeta} {transfer next : Transfer} {sensorId : SensorId}
  {rest : List SensorId} {deadline : Rat} {s last : σ}

theorem fetchChunk_answers (attempts : Nat) (lastError : Option Failure) (answers later : List Answer)
    (fetched : fetchChunk env sensorId startSequence requestCount deadline attempts lastError answers s =
      (result,later,last)) :
    answers <+: later ∧ ∀ chunk, result = .chunk chunk →
      validateChunk chunk sensorId startSequence requestCount = .ok () ∧
        .historyChunk sensorId startSequence requestCount chunk ∈ later := by
  induction attempts generalizing lastError answers s with
  | zero =>
    cases fetched
    exact ⟨List.prefix_refl _,fun _ impossible => by cases impossible⟩
  | succ attempts ih =>
    unfold fetchChunk at fetched
    split at fetched
    · cases fetched
      exact ⟨List.prefix_refl _,fun _ impossible => by cases impossible⟩
    · cases fetched
      exact ⟨List.prefix_refl _,fun _ impossible => by cases impossible⟩
    · split at fetched
      · cases fetched
        exact ⟨List.prefix_refl _,fun _ impossible => by cases impossible⟩
      · exact ih _ _ fetched
    · dsimp only at fetched
      split at fetched
      · rename_i accepted
        cases fetched
        refine ⟨List.prefix_append _ _,fun _ equal => ?_⟩
        cases equal
        exact ⟨accepted,by simp⟩
      · obtain ⟨extended,valid⟩ := ih _ _ fetched
        exact ⟨(List.prefix_append _ _).trans extended,valid⟩

theorem giveUp_advance (failures : List String) (answers : List Answer)
    (named : ∀ failure ∈ failures, failure ≠ "") (extended : transfer.answers <+: answers)
    (lastError : Option Failure) :
    Advance historyMeta transfer sensorId rest (giveUp
      { transfer with failures := transfer.failures ++ failures, answers := answers } sensorId rest lastError) := by
  simp only [giveUp,List.append_assoc]
  refine .failed _ answers (by simp) ?_ extended
  intro failure member
  rcases List.mem_append.mp member with earlier | own
  · exact named failure earlier
  · rw [List.mem_singleton.mp own]
    exact append_filled (append_filled (append_filled sensor_filled))

theorem recover_advance {answers : List Answer} (extended : transfer.answers <+: answers)
    (recovered : recover env historyMeta deadline { transfer with answers := answers } sensorId rest lastError s =
      (.again next,last)) :
    Advance historyMeta transfer sensorId rest next := by
  have plain : Advance historyMeta transfer sensorId rest
      (giveUp { transfer with answers := answers } sensorId rest lastError) := by
    simpa using giveUp_advance [] answers (by simp) extended lastError
  unfold recover at recovered
  split at recovered
  · dsimp only at recovered
    split at recovered
    · split at recovered
      · cases recovered
      · cases recovered
        refine giveUp_advance [_] answers ?_ extended lastError
        intro failure member
        rw [List.mem_singleton.mp member]
        exact append_filled (append_filled (append_filled sensor_filled))
      · rename_i freshMeta _ _
        have fresh : transfer.answers <+: answers ++ [.historyMeta freshMeta] :=
          extended.trans (List.prefix_append _ _)
        split at recovered
        · rename_i usable
          cases recovered
          exact .salvaged _ _ _ _ usable.2.1 usable.2.2
            (append_filled (append_filled (append_filled (append_filled sensor_filled)))) fresh
        · cases recovered
          simpa using giveUp_advance [] _ (by simp) fresh lastError
    · cases recovered
      exact plain
  · cases recovered
    exact plain

theorem iteration_advance
    (iterated : iteration env historyMeta deadline transfer sensorId rest s = (.again next,last)) :
    Advance historyMeta transfer sensorId rest next := by
  unfold iteration at iterated
  split at iterated
  · cases iterated
  · rename_i recordsPerChunk _ _
    dsimp only at iterated
    cases fetched : fetchChunk env sensorId (transfer.nextSequence sensorId)
        (min recordsPerChunk (transfer.remaining sensorId)) deadline (env.settings.historyChunkRetryCount + 1) none
        transfer.answers _ with
    | mk result more =>
      obtain ⟨answers,s⟩ := more
      obtain ⟨extended,valid⟩ := fetchChunk_answers _ _ _ _ fetched
      rw [fetched] at iterated
      cases result with
      | raised failure => cases iterated
      | expired => cases iterated
      | missing lastError => exact recover_advance extended iterated
      | chunk chunk =>
        obtain ⟨accepted,answered⟩ := valid chunk rfl
        dsimp only at iterated
        split at iterated
        · cases iterated
        · cases iterated
          exact .accepted chunk _ answers _ accepted (min_le_right _ _) extended answered

theorem validateChunk_ok (valid : validateChunk chunk sensorId startSequence requestCount = .ok ()) :
    0 < chunk.records.length ∧ chunk.records.length ≤ requestCount ∧
      continuous startSequence chunk.records = true := by
  unfold validateChunk at valid
  split at valid
  · cases valid
  · split at valid
    · cases valid
    · rename_i counted
      simp only [not_or,Int.not_lt] at counted
      split at valid
      · cases valid
      · rename_i connected
        exact ⟨List.length_pos_iff.mpr counted.1,counted.2,by simpa using connected⟩

theorem sum_update (amounts : SensorId → Nat) (sensorId : SensorId) (less : taken ≤ amounts sensorId) :
    ∑ i, Function.update amounts sensorId (amounts sensorId - taken) i + taken = ∑ i, amounts i := by
  rw [Finset.sum_update_of_mem (Finset.mem_univ _),Finset.sdiff_singleton_eq_erase,
    ← Finset.add_sum_erase _ amounts (Finset.mem_univ sensorId)]
  omega

theorem advance_work (queue : transfer.pending = sensorId :: rest)
    (advance : Advance historyMeta transfer sensorId rest next) : next.work < transfer.work := by
  cases advance with
  | failed failures answers _ _ _ => simp [Transfer.work,queue]
  | salvaged lost oldest failure answers some less _ _ =>
    have total := sum_update transfer.remaining sensorId less.le
    simp only [Transfer.work,queue,List.length_append,List.length_cons,List.length_nil]
    omega
  | accepted chunk requestCount answers updatedAtUtc valid bounded _ _ =>
    obtain ⟨some,requested,_⟩ := validateChunk_ok valid
    have less : chunk.records.length ≤ transfer.remaining sensorId := by omega
    have total := sum_update transfer.remaining sensorId less
    have queued : (if 0 < Function.update transfer.remaining sensorId
        (transfer.remaining sensorId - chunk.records.length) sensorId then rest ++ [sensorId] else rest).length ≤
          rest.length + 1 := by
      split <;> simp
    simp only [Transfer.work,accept,queue,List.length_cons] at queued ⊢
    omega

end

-- The transfer loop. Its exit condition reads the clock only while sensors wait.
def drain (historyMeta : HistoryMeta) (deadline : Rat) (transfer : Transfer) :
    Call σ Transfer := fun s =>
  match _ : transfer.pending with
  | [] => (.ok transfer,s)
  | sensorId :: rest =>
    let (now,s) := env.monotonic s
    if now < deadline then
      match _ : iteration env historyMeta deadline transfer sensorId rest s with
      | (.again next,s) => drain historyMeta deadline next s
      | (.stop next,s) => (.ok next,s)
      | (.raised failure,s) => (.error failure,s)
    else (.ok transfer,s)
termination_by transfer.work
decreasing_by exact advance_work ‹transfer.pending = _› (iteration_advance ‹_›)

def Transfer.initial (historyMeta : HistoryMeta) (operation : SyncOperation) (answers : List Answer) : Transfer where
  pending := (List.finRange sensorCount).filter fun sensorId => 0 < historyMeta.counts sensorId
  remaining sensorId := (historyMeta.counts sensorId).toNat
  nextSequence := historyMeta.oldestSequences
  retrieved _ := 0
  records := []
  failures := []
  budgetExpired := false
  operation := operation
  answers := answers

-- The anchor of the timestamps: the latest reading of this boot or a new one.
def resolveAnchor (historyMeta : HistoryMeta) (deadline : Rat) (anchor : Option CurrentSnapshot)
    (anchorTime : Option Rat) : Call σ (CurrentSnapshot × Rat) := fun s =>
  match anchor,anchorTime with
  | some known,some observed =>
    if known.bootId = historyMeta.bootId then (.ok (known,observed),s) else resolve s
  | _,_ => resolve s
where
  resolve : Call σ (CurrentSnapshot × Rat) := fun s =>
    match call env env.getCurrent deadline s with
    | (.error failure,s) => (.error failure,s)
    | (.ok anchor,s) =>
      let (observed,s) := env.utcNow s
      let (now,s) := env.monotonic s
      let remaining := deadline - now
      if remaining ≤ 0 then (.error (.timeout "TimeoutError"),s)
      else match env.publishCurrent anchor observed remaining s with
        | (.error failure,s) => (.error failure,s)
        | (.ok _,s) => (.ok (anchor,observed),s)

-- `"; ".join(failures) or None`.
def joinFailures (failures : List String) : Option String :=
  let joined := "; ".intercalate failures
  if joined = "" then none else some joined

def conclude (historyMeta : HistoryMeta) (anchor : CurrentSnapshot) (anchorTime started deadline now : Rat)
    (transfer : Transfer) : HistoryRetrieval :=
  let late := if transfer.pending ≠ [] ∨ transfer.budgetExpired then
    ["history synchronization exceeded its time budget"] else []
  let rebooted := if anchor.bootId ≠ historyMeta.bootId then
    ["device rebooted during history synchronization"] else []
  let failures := transfer.failures ++ late ++ rebooted
  let sampleSeconds : Rat := env.settings.samplePeriodMs / 1000
  { history :=
      { historyMeta := historyMeta
        anchor := anchor
        records := transfer.records.map fun entry =>
          { sensorId := entry.1.1
            sequence := entry.2.sequence
            sampledAt := timestamp anchor.newestSequence anchorTime entry.2.sequence sampleSeconds
            temperatureC := entry.2.temperatureC
            dataStatus := entry.2.dataStatus }
        expectedCounts := historyMeta.counts
        retrievedCounts := transfer.retrieved
        complete := (∀ sensorId, transfer.retrieved sensorId = (historyMeta.counts sensorId).toNat) ∧ failures = []
        elapsedSeconds := now - started
        failureReason := joinFailures failures }
    deadline := deadline
    failures := failures }

structure Synchronized where
  retrieval : HistoryRetrieval
  operation : SyncOperation
  answers : List Answer

def synchronize (operation : SyncOperation) : Call σ Synchronized := fun s =>
  let (started,s) := env.monotonic s
  let deadline := started + env.settings.historySyncBudgetSeconds
  let transferDeadline := deadline - min 1 (env.settings.historySyncBudgetSeconds / 10)
  let (anchor,anchorTime) := env.currentAnchor s
  match call env env.getHistoryMeta transferDeadline s with
  | (.error failure,s) => (.error failure,s)
  | (.ok historyMeta,s) =>
    match resolveAnchor env historyMeta transferDeadline anchor anchorTime s with
    | (.error failure,s) => (.error failure,s)
    | (.ok (anchor,anchorTime),s) =>
      match drain env historyMeta transferDeadline (.initial historyMeta operation [.historyMeta historyMeta]) s with
      | (.error failure,s) => (.error failure,s)
      | (.ok transfer,s) =>
        let (now,s) := env.monotonic s
        (.ok ⟨conclude env historyMeta anchor anchorTime started deadline now transfer,transfer.operation,
          transfer.answers⟩,s)

end Thermometer.Client
