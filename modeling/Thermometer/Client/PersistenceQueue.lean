import Thermometer.Lib.Execution
import Thermometer.Lib.Promises
import Thermometer.Client.Samples

-- persistence_worker.py as its callers see it: a bounded queue, one worker task and a
-- future for each request, around any adapter.
namespace Thermometer.PersistenceQueue
open Execution Promises Client

structure PersistenceRequest (α : Type) where
  methodName : String
  value : α
  future : Nat

-- `future.cancel()` is a call of whoever waits for the result.
inductive Outcome where
  | result (value : PersistenceResult)
  | cancelled
  deriving DecidableEq

inductive WorkerTask (α : Type) where
  | absent
  | waiting
  | executing (request : PersistenceRequest α)
  | ended

structure PersistenceWorker (α : Type) where
  capacity : Nat
  -- What `self._configured()` returns at present.
  configured : Bool
  queue : List (PersistenceRequest α)
  unfinishedTasks : Nat
  overflowCount : Nat
  created : Nat
  futures : Table Outcome
  task : WorkerTask α
  -- `cancel` was called on the task and has not reached it.
  cancelRequested : Bool
  -- The calls of `stop` that wait in `join`, and those that wait for the task.
  joining : Nat
  gathering : Nat

structure PersistenceHealth where
  pending : Nat
  capacity : Nat
  overflowCount : Nat

-- What can happen between two suspensions. An adapter call returns, raises or is
-- cancelled, and may catch a cancellation; consecutive steps of the worker without a
-- pause are separate here.
inductive WorkerEvent (α : Type) where
  | enqueue (methodName : String) (value : α)
  | cancelFuture (n : Nat)
  | setConfigured (configured : Bool)
  | start
  | take
  | result (value : PersistenceResult)
  | exception (typeName text : String)
  | cancelledError
  | cancellationCaught
  | workerCancelled
  | stop
  | joined
  | joinAbandoned
  | stopped
  | stopAbandoned

namespace PersistenceWorker

variable {α : Type} (s : PersistenceWorker α)

def create (capacity : Int) (configured : Bool) : Except String (PersistenceWorker α) :=
  if capacity ≤ 0 then .error "persistence queue capacity must be positive"
  else .ok ⟨capacity.toNat,configured,[],0,0,0,fun _ => none,.absent,false,0,0⟩

def health : PersistenceHealth := ⟨s.queue.length,s.capacity,s.overflowCount⟩

-- `asyncio.Queue.full`.
def full : Bool := 0 < s.capacity && s.capacity ≤ s.queue.length

def notPersisted (detail : String) : Outcome := .result ⟨s.configured,false,some detail⟩

-- `set_result` behind a test of `done()`. The rejected request gets its result without
-- one, on a future that is new.
def setResult (n : Nat) (outcome : Outcome) : PersistenceWorker α := { s with futures := settle s.futures n outcome }

def enqueue (methodName : String) (value : α) : PersistenceWorker α :=
  if s.full then
    { s.setResult s.created (s.notPersisted "persistence queue is full; this record was not queued") with
      overflowCount := s.overflowCount + 1
      created := s.created + 1 }
  else
    { s with
      queue := s.queue ++ [⟨methodName,value,s.created⟩]
      unfinishedTasks := s.unfinishedTasks + 1
      created := s.created + 1 }

def start : Option (PersistenceWorker α) :=
  match s.task with
  | .absent | .ended =>
    -- The service does not start its worker while a `stop` waits for it.
    if s.joining = 0 ∧ s.gathering = 0 then some { s with task := .waiting, cancelRequested := false } else none
  | _ => some s

def take : Option (PersistenceWorker α) :=
  match s.task,s.queue with
  | .waiting,request :: rest =>
    if s.cancelRequested then none else some { s with queue := rest, task := .executing request }
  | _,_ => none

def leave (request : PersistenceRequest α) (outcome : Outcome) (task : WorkerTask α) : PersistenceWorker α :=
  { s.setResult request.future outcome with
    unfinishedTasks := s.unfinishedTasks - 1
    task := task
    cancelRequested := false }

def callEnded (outcome : Outcome) : Option (PersistenceWorker α) :=
  match s.task with
  | .executing request => if s.cancelRequested then none else some (s.leave request outcome .waiting)
  | _ => none

def callCancelled : Option (PersistenceWorker α) :=
  match s.task with
  | .executing request => some (s.leave request (s.notPersisted "persistence worker stopped") .ended)
  | _ => none

-- `stop` returns at once when there is no task.
def stop : PersistenceWorker α :=
  match s.task with
  | .absent => s
  | _ => { s with joining := s.joining + 1 }

-- The queue is flushed or the time is over. When another call of `stop` has finished in
-- the meantime, `self._task.cancel()` raises.
def joined : Option (PersistenceWorker α) :=
  if s.joining = 0 then none
  else
    match s.task with
    | .absent => some { s with joining := s.joining - 1 }
    | .ended => some { s with joining := s.joining - 1, gathering := s.gathering + 1 }
    | _ => some { s with joining := s.joining - 1, gathering := s.gathering + 1, cancelRequested := true }

def failPending (detail : String) : PersistenceWorker α :=
  { s with
    futures := settleAll s.futures (s.queue.map (·.future)) (s.notPersisted detail)
    unfinishedTasks := s.unfinishedTasks - s.queue.length
    queue := [] }

def stopped : Option (PersistenceWorker α) :=
  if s.gathering = 0 then none
  else
    match s.task with
    | .absent | .ended =>
      some ({ s with task := .absent, gathering := s.gathering - 1 }.failPending "service stopped before persistence completed")
    | _ => none

-- The caller of `stop` is cancelled. `gather` passes the cancellation on to the task.
def stopAbandoned : Option (PersistenceWorker α) :=
  if s.gathering = 0 then none
  else
    match s.task with
    | .absent | .ended => some { s with gathering := s.gathering - 1 }
    | _ => some { s with gathering := s.gathering - 1, cancelRequested := true }

def step : WorkerEvent α → Option (PersistenceWorker α)
  | .enqueue methodName value => some (s.enqueue methodName value)
  | .cancelFuture n => if n < s.created then some (s.setResult n .cancelled) else none
  | .setConfigured configured => some { s with configured := configured }
  | .start => s.start
  | .take => s.take
  | .result value => s.callEnded (.result value)
  | .exception typeName text => s.callEnded (s.notPersisted s!"persistence adapter raised {typeName}: {text}")
  | .cancelledError => s.callCancelled
  | .cancellationCaught =>
    match s.task with
    | .executing _ => if s.cancelRequested then some { s with cancelRequested := false } else none
    | _ => none
  | .workerCancelled =>
    match s.task with
    | .waiting => if s.cancelRequested then some { s with task := .ended, cancelRequested := false } else none
    | _ => none
  | .stop => some s.stop
  | .joined => s.joined
  | .joinAbandoned => if s.joining = 0 then none else some { s with joining := s.joining - 1 }
  | .stopped => s.stopped
  | .stopAbandoned => s.stopAbandoned

def running : WorkerTask α → List (PersistenceRequest α)
  | .executing request => [request]
  | _ => []

def held : List (PersistenceRequest α) := running s.task ++ s.queue

def accepts : WorkerEvent α → List (PersistenceRequest α)
  | .enqueue methodName value => if s.full then [] else [⟨methodName,value,s.created⟩]
  | _ => []

def rejects : WorkerEvent α → List Nat
  | .enqueue _ _ => if s.full then [s.created] else []
  | _ => []

def executes : WorkerEvent α → List (PersistenceRequest α)
  | .take => s.queue.take 1
  | _ => []

def fails : WorkerEvent α → List Nat
  | .exception _ _ | .cancelledError => (running s.task).map (·.future)
  | _ => []

def drains : WorkerEvent α → List Nat
  | .stopped => s.queue.map (·.future)
  | _ => []

def quiet : WorkerEvent α → Bool
  | .enqueue _ _ | .cancelFuture _ | .take | .result _ | .exception _ _ | .cancelledError | .stopped => false
  | _ => true

inductive Effect (s : PersistenceWorker α) : WorkerEvent α → PersistenceWorker α → Prop where
  | accepted : s.full = false → Effect s (.enqueue methodName value)
      { s with
        queue := s.queue ++ [⟨methodName,value,s.created⟩]
        unfinishedTasks := s.unfinishedTasks + 1
        created := s.created + 1 }
  | rejected : s.full = true → Effect s (.enqueue methodName value)
      { s.setResult s.created (s.notPersisted "persistence queue is full; this record was not queued") with
        overflowCount := s.overflowCount + 1
        created := s.created + 1 }
  | cancelled : n < s.created → Effect s (.cancelFuture n) (s.setResult n .cancelled)
  | taken : s.task = .waiting → s.queue = request :: rest → Effect s .take { s with queue := rest, task := .executing request }
  | returned : s.task = .executing request → Effect s (.result value) (s.leave request (.result value) .waiting)
  | failed : s.task = .executing request → Effect s (.exception typeName text)
      (s.leave request (s.notPersisted s!"persistence adapter raised {typeName}: {text}") .waiting)
  | interrupted : s.task = .executing request →
      Effect s .cancelledError (s.leave request (s.notPersisted "persistence worker stopped") .ended)
  | drained : running s.task = [] →
      Effect s .stopped ({ s with task := .absent, gathering := s.gathering - 1 }.failPending "service stopped before persistence completed")
  | kept {later : WorkerTask α} : quiet event = true → running later = running s.task →
      Effect s event { s with configured := b, task := later, cancelRequested := c, joining := j, gathering := g }

variable {s}

theorem callEnded_cases (ended : s.callEnded outcome = some next) :
    ∃ request, s.task = .executing request ∧ next = s.leave request outcome .waiting := by
  unfold callEnded at ended
  split at ended
  · rename_i request executing
    split at ended
    · cases ended
    · exact ⟨request,executing,(Option.some.inj ended).symm⟩
  · cases ended

theorem enqueue_effect (methodName : String) (value : α) : Effect s (.enqueue methodName value) (s.enqueue methodName value) := by
  unfold enqueue
  cases room : s.full with
  | true => exact .rejected room
  | false => exact .accepted room

theorem start_effect (started : s.start = some next) : Effect s .start next := by
  unfold start at started
  split at started
  · rename_i absent
    split at started
    · cases started
      exact .kept rfl (by rw [absent]; rfl)
    · cases started
  · rename_i ended
    split at started
    · cases started
      exact .kept rfl (by rw [ended]; rfl)
    · cases started
  · cases started
    exact .kept rfl rfl

theorem take_effect (taken : s.take = some next) : Effect s .take next := by
  unfold take at taken
  split at taken
  · rename_i waiting queue
    split at taken
    · cases taken
    · cases taken
      exact .taken waiting queue
  · cases taken

theorem joined_effect (joined : s.joined = some next) : Effect s .joined next := by
  unfold PersistenceWorker.joined at joined
  split at joined
  · cases joined
  · split at joined <;>
    · cases joined
      exact .kept rfl rfl

theorem stopped_effect (stopped : s.stopped = some next) : Effect s .stopped next := by
  unfold PersistenceWorker.stopped at stopped
  split at stopped
  · cases stopped
  · split at stopped
    · rename_i absent
      cases stopped
      exact .drained (by rw [absent]; rfl)
    · rename_i ended
      cases stopped
      exact .drained (by rw [ended]; rfl)
    · cases stopped

theorem stopAbandoned_effect (abandoned : s.stopAbandoned = some next) : Effect s .stopAbandoned next := by
  unfold stopAbandoned at abandoned
  split at abandoned
  · cases abandoned
  · split at abandoned <;>
    · cases abandoned
      exact .kept rfl rfl

theorem step_effect (stepped : s.step event = some next) : Effect s event next := by
  cases event with
  | enqueue methodName value =>
    cases stepped
    exact enqueue_effect methodName value
  | cancelFuture n =>
    dsimp only [step] at stepped
    split at stepped
    · cases stepped
      exact .cancelled ‹_›
    · cases stepped
  | setConfigured configured =>
    cases stepped
    exact .kept rfl rfl
  | start => exact start_effect stepped
  | take => exact take_effect stepped
  | result value =>
    obtain ⟨request,executing,rfl⟩ := callEnded_cases stepped
    exact .returned executing
  | exception typeName text =>
    obtain ⟨request,executing,rfl⟩ := callEnded_cases stepped
    exact .failed executing
  | cancelledError =>
    dsimp only [step,callCancelled] at stepped
    split at stepped
    · cases stepped
      exact .interrupted ‹_›
    · cases stepped
  | cancellationCaught =>
    dsimp only [step] at stepped
    split at stepped
    · split at stepped
      · cases stepped
        exact .kept rfl rfl
      · cases stepped
    · cases stepped
  | workerCancelled =>
    dsimp only [step] at stepped
    split at stepped
    · rename_i waiting
      split at stepped
      · cases stepped
        exact .kept rfl (by rw [waiting]; rfl)
      · cases stepped
    · cases stepped
  | stop =>
    cases stepped
    unfold stop
    split <;> exact .kept rfl rfl
  | joined => exact joined_effect stepped
  | joinAbandoned =>
    dsimp only [step] at stepped
    split at stepped
    · cases stepped
    · cases stepped
      exact .kept rfl rfl
  | stopped => exact stopped_effect stepped
  | stopAbandoned => exact stopAbandoned_effect stepped

def numbers (s : PersistenceWorker α) : List Nat := s.held.map (·.future)

structure Sound (s : PersistenceWorker α) : Prop where
  positive : 0 < s.capacity
  bounded : s.queue.length ≤ s.capacity
  counted : s.unfinishedTasks = s.held.length
  numbered : ∀ n ∈ s.numbers, n < s.created
  ordered : s.numbers.Pairwise (· < ·)
  pending : ∀ n < s.created, s.futures n = none → n ∈ s.numbers
  unanswered : ∀ n ∈ s.numbers, ∀ outcome, s.futures n = some outcome → outcome = .cancelled
  ahead : ∀ n, s.created ≤ n → s.futures n = none

theorem sound_created {capacity : Int} {configured : Bool} (created : create capacity configured = .ok s) :
    Sound s ∧ (s.capacity : Int) = capacity ∧ s.created = 0 ∧ s.queue = [] ∧ s.overflowCount = 0 ∧ s.futures = fun _ => none := by
  unfold create at created
  split at created
  · cases created
  · rename_i positive
    cases created
    refine ⟨⟨?_,by simp,rfl,by simp [numbers,held,running],by simp [numbers,held,running],by simp,
      by simp,fun _ _ => rfl⟩,?_,rfl,rfl,rfl,rfl⟩
    · dsimp only
      omega
    · dsimp only
      omega

theorem held_executing (executing : s.task = .executing request) : s.held = request :: s.queue := by
  rw [held,executing]
  rfl

theorem held_idle (idle : running s.task = []) : s.held = s.queue := by
  rw [held,idle]
  rfl

theorem Sound.accepted (sound : Sound s) (room : s.full = false) (methodName : String) (value : α) :
    Sound { s with
      queue := s.queue ++ [⟨methodName,value,s.created⟩]
      unfinishedTasks := s.unfinishedTasks + 1
      created := s.created + 1 } := by
  have below : s.queue.length < s.capacity := by
    have positive := sound.positive
    simp only [full,positive,decide_true,Bool.true_and,decide_eq_false_iff_not,Nat.not_le] at room
    exact room
  have grown : ({ s with
      queue := s.queue ++ [⟨methodName,value,s.created⟩]
      unfinishedTasks := s.unfinishedTasks + 1
      created := s.created + 1 } : PersistenceWorker α).numbers = s.numbers ++ [s.created] := by
    simp [numbers,held]
  constructor
  · exact sound.positive
  · simpa using Nat.succ_le_of_lt below
  · simp [held,sound.counted,Nat.add_assoc]
  · rw [grown]
    intro n member
    rcases List.mem_append.mp member with old | new
    · exact Nat.lt_succ_of_lt (sound.numbered n old)
    · rw [List.mem_singleton.mp new]
      exact Nat.lt_succ_self _
  · rw [grown]
    refine List.pairwise_append.mpr ⟨sound.ordered,List.pairwise_singleton _ _,fun n old m new => ?_⟩
    rw [List.mem_singleton.mp new]
    exact sound.numbered n old
  · rw [grown]
    intro n small pending
    by_cases new : n = s.created
    · exact List.mem_append_right _ (List.mem_singleton.mpr new)
    · exact List.mem_append_left _ (sound.pending n (by dsimp only at small; omega) pending)
  · rw [grown]
    intro n member outcome settled
    rcases List.mem_append.mp member with old | new
    · exact sound.unanswered n old outcome settled
    · have untouched := sound.ahead n (Nat.le_of_eq (List.mem_singleton.mp new).symm)
      rw [show s.futures n = some outcome from settled] at untouched
      cases untouched
  · intro n above
    exact sound.ahead n (by dsimp only at above; omega)

theorem Sound.cancelled (sound : Sound s) (small : n < s.created) : Sound (s.setResult n .cancelled) where
  positive := sound.positive
  bounded := sound.bounded
  counted := sound.counted
  numbered := sound.numbered
  ordered := sound.ordered
  pending m below pending := sound.pending m below (pending_of_settle pending).1
  unanswered m member outcome settled := by
    rcases settle_cases settled with old | ⟨_,new⟩
    · exact sound.unanswered m member outcome old
    · exact new
  ahead m above := by
    have other : m ≠ n := Nat.ne_of_gt (Nat.lt_of_lt_of_le small above)
    exact (settle_other other).trans (sound.ahead m above)

theorem Sound.rejected (sound : Sound s) (outcome : Outcome) :
    Sound { s.setResult s.created outcome with overflowCount := s.overflowCount + 1, created := s.created + 1 } where
  positive := sound.positive
  bounded := sound.bounded
  counted := sound.counted
  numbered n member := Nat.lt_succ_of_lt (sound.numbered n member)
  ordered := sound.ordered
  pending n below pending := by
    obtain ⟨old,different⟩ := pending_of_settle pending
    exact sound.pending n (by dsimp only at below; omega) old
  unanswered n member outcome settled := by
    have small := sound.numbered n member
    exact sound.unanswered n member outcome ((settle_other (Nat.ne_of_lt small)).symm.trans settled)
  ahead n above := by
    have other : n ≠ s.created := Nat.ne_of_gt above
    exact (settle_other other).trans (sound.ahead n (Nat.le_of_succ_le above))

theorem Sound.moved (sound : Sound s) {next : PersistenceWorker α} (held : next.held = s.held) (positive : 0 < next.capacity)
    (bounded : next.queue.length ≤ next.capacity) (unfinished : next.unfinishedTasks = s.unfinishedTasks)
    (created : next.created = s.created) (futures : next.futures = s.futures) : Sound next := by
  have same : next.numbers = s.numbers := by rw [numbers,held,numbers]
  refine ⟨positive,bounded,?_,?_,?_,?_,?_,?_⟩
  · rw [unfinished,held]
    exact sound.counted
  · rw [same,created]
    exact sound.numbered
  · rw [same]
    exact sound.ordered
  · rw [same,created,futures]
    exact sound.pending
  · rw [same,futures]
    exact sound.unanswered
  · rw [created,futures]
    exact sound.ahead

theorem Sound.taken (sound : Sound s) (waiting : s.task = .waiting) (queue : s.queue = request :: rest) :
    Sound { s with queue := rest, task := .executing request } := by
  have same : ({ s with queue := rest, task := .executing request } : PersistenceWorker α).held = s.held := by
    have now : ({ s with queue := rest, task := .executing request } : PersistenceWorker α).held = request :: rest := held_executing rfl
    rw [now,held_idle (by rw [waiting]; rfl),queue]
  have shorter := sound.bounded
  rw [queue,List.length_cons] at shorter
  exact sound.moved same sound.positive (Nat.le_of_succ_le shorter) rfl rfl rfl

theorem Sound.leave (sound : Sound s) (executing : s.task = .executing request) (outcome : Outcome) {later : WorkerTask α}
    (idle : running later = []) : Sound (s.leave request outcome later) := by
  have before : s.numbers = request.future :: s.queue.map (·.future) := by
    rw [numbers,held_executing executing]
    rfl
  have after : (s.leave request outcome later).held = s.queue := held_idle idle
  have numbered := sound.numbered
  have ordered := sound.ordered
  rw [before] at numbered ordered
  refine ⟨sound.positive,sound.bounded,?_,?_,?_,?_,?_,?_⟩
  · have counted := sound.counted
    rw [held_executing executing,List.length_cons] at counted
    rw [after]
    dsimp only [PersistenceWorker.leave]
    omega
  · rw [numbers,after]
    exact fun n member => numbered n (List.mem_cons_of_mem _ member)
  · rw [numbers,after]
    exact ordered.tail
  · rw [numbers,after]
    intro n small pending
    obtain ⟨old,different⟩ := pending_of_settle pending
    have member := sound.pending n small old
    rw [before] at member
    exact (List.mem_cons.mp member).resolve_left different
  · rw [numbers,after]
    intro n member held settled
    have apart : n ≠ request.future := Nat.ne_of_gt (List.rel_of_pairwise_cons ordered member)
    have member : n ∈ s.numbers := before ▸ List.mem_cons_of_mem _ member
    exact sound.unanswered n member held ((settle_other apart).symm.trans settled)
  · intro n above
    have small := numbered request.future List.mem_cons_self
    have other : n ≠ request.future := Nat.ne_of_gt (Nat.lt_of_lt_of_le small above)
    exact (settle_other other).trans (sound.ahead n above)

theorem Sound.drained (sound : Sound s) (idle : running s.task = []) (detail : String) :
    Sound ({ s with task := .absent, gathering := g }.failPending detail) ∧
    ∀ n < s.created, (({ s with task := .absent, gathering := g }.failPending detail).futures n).isSome := by
  have held : s.numbers = s.queue.map (·.future) := by rw [numbers,held_idle idle]
  have resolved : ∀ n < s.created, (settleAll s.futures (s.queue.map (·.future)) (s.notPersisted detail) n).isSome := by
    intro n small
    cases pending : settleAll s.futures (s.queue.map (·.future)) (s.notPersisted detail) n with
    | some outcome => rfl
    | none =>
      obtain ⟨old,outside⟩ := pending_of_settleAll pending
      exact absurd (held ▸ sound.pending n small old) outside
  refine ⟨⟨sound.positive,Nat.zero_le _,?_,by nofun,List.Pairwise.nil,fun n small pending => ?_,by nofun,fun n above => ?_⟩,resolved⟩
  · have counted := sound.counted
    rw [held_idle idle] at counted
    dsimp only [failPending]
    rw [counted,Nat.sub_self]
    rfl
  · have some := resolved n small
    dsimp only [failPending] at pending
    rw [show settleAll s.futures (s.queue.map (·.future)) (s.notPersisted detail) n = none from pending] at some
    cases some
  · cases found : ({ s with task := .absent, gathering := g }.failPending detail).futures n with
    | none => rfl
    | some outcome =>
      rcases settleAll_cases found with old | ⟨among,_⟩
      · rw [sound.ahead n above] at old
        cases old
      · have small := sound.numbered n (held ▸ among)
        dsimp only [failPending] at above
        omega

theorem Sound.step (sound : Sound s) (stepped : s.step event = some next) : Sound next := by
  cases step_effect stepped with
  | accepted room => exact sound.accepted room _ _
  | rejected _ => exact sound.rejected _
  | cancelled small => exact sound.cancelled small
  | taken waiting queue => exact sound.taken waiting queue
  | returned executing => exact sound.leave executing _ rfl
  | failed executing => exact sound.leave executing _ rfl
  | interrupted executing => exact sound.leave executing _ rfl
  | drained idle => exact (sound.drained idle _).1
  | kept _ same => exact sound.moved (congrArg (· ++ s.queue) same) sound.positive sound.bounded rfl rfl rfl

theorem sound_reached {capacity : Int} {configured : Bool} {first : PersistenceWorker α}
    (created : create capacity configured = .ok first) (path : Path step anyStep first trace s) : Sound s :=
  path.invariant Sound (sound_created created).1 fun _ _ _ sound _ stepped => sound.step stepped

theorem step_keeps (stepped : s.step event = some next) : Keeps s.futures next.futures := by
  cases step_effect stepped with
  | accepted | taken | kept => exact Keeps.refl _
  | rejected | cancelled | returned | failed | interrupted => exact settle_keeps _ _ _
  | drained => exact settleAll_keeps _ _ _

def log (what : PersistenceWorker α → WorkerEvent α → List β) (trace : List (PersistenceWorker α × WorkerEvent α)) : List β :=
  trace.flatMap fun entry => what entry.1 entry.2

theorem log_snoc {what : PersistenceWorker α → WorkerEvent α → List β} (added : what s event = items)
    (trace : List (PersistenceWorker α × WorkerEvent α)) : log what (trace ++ [(s,event)]) = log what trace ++ items := by
  simp [log,added]

theorem log_silent {what : PersistenceWorker α → WorkerEvent α → List β} (silent : what s event = [])
    (trace : List (PersistenceWorker α × WorkerEvent α)) : log what (trace ++ [(s,event)]) = log what trace := by
  rw [log_snoc silent,List.append_nil]

def accepted (trace : List (PersistenceWorker α × WorkerEvent α)) := log accepts trace
def rejected (trace : List (PersistenceWorker α × WorkerEvent α)) := log rejects trace
def executed (trace : List (PersistenceWorker α × WorkerEvent α)) := log executes trace
def failed (trace : List (PersistenceWorker α × WorkerEvent α)) := log fails trace
def drained (trace : List (PersistenceWorker α × WorkerEvent α)) := log drains trace

def remaining (trace : List (PersistenceWorker α × WorkerEvent α)) : List (PersistenceRequest α) :=
  (accepted trace).filter fun request => request.future ∉ drained trace

def Unpersisted (outcome : Option Outcome) : Prop :=
  outcome = some .cancelled ∨ ∃ result, outcome = some (.result result) ∧ result.persisted = false

theorem quiet_logs (quiet : PersistenceWorker.quiet event = true) :
    s.accepts event = [] ∧ s.rejects event = [] ∧ s.executes event = [] ∧ s.fails event = [] ∧ s.drains event = [] := by
  cases event with
  | enqueue | cancelFuture | take | result | exception | cancelledError | stopped => cases quiet
  | _ => exact ⟨rfl,rfl,rfl,rfl,rfl⟩

structure Ordered (trace : List (PersistenceWorker α × WorkerEvent α)) (s : PersistenceWorker α) : Prop where
  order : executed trace ++ s.queue = remaining trace
  increasing : ((accepted trace).map (·.future)).Pairwise (· < ·)
  below : ∀ request ∈ accepted trace, request.future < s.created
  gone : ∀ n ∈ drained trace, n < s.created
  apart : ∀ n ∈ rejected trace, n < s.created ∧ n ∉ (accepted trace).map (·.future)

variable {trace : List (PersistenceWorker α × WorkerEvent α)}

theorem Ordered.carry (ordered : Ordered trace s) (accepts : s.accepts event = []) (rejects : s.rejects event = [])
    (drains : s.drains event = []) (moved : s.executes event ++ next.queue = s.queue) (created : next.created = s.created) :
    Ordered (trace ++ [(s,event)]) next := by
  have same : accepted (trace ++ [(s,event)]) = accepted trace := log_silent accepts trace
  have left : drained (trace ++ [(s,event)]) = drained trace := log_silent drains trace
  constructor
  · rw [executed,log_snoc rfl,List.append_assoc,moved,remaining,same,left]
    exact ordered.order
  · rw [same]
    exact ordered.increasing
  · rw [same,created]
    exact ordered.below
  · rw [left,created]
    exact ordered.gone
  · rw [same,created,rejected,log_silent rejects]
    exact ordered.apart

theorem Ordered.accepted (ordered : Ordered trace s) (room : s.full = false) (methodName : String) (value : α) :
    Ordered (trace ++ [(s,.enqueue methodName value)]) { s with
      queue := s.queue ++ [⟨methodName,value,s.created⟩]
      unfinishedTasks := s.unfinishedTasks + 1
      created := s.created + 1 } := by
  have grown : PersistenceWorker.accepted (trace ++ [(s,.enqueue methodName value)]) =
      PersistenceWorker.accepted trace ++ [⟨methodName,value,s.created⟩] := log_snoc (by rw [accepts,room]; rfl) trace
  have left : drained (trace ++ [(s,.enqueue methodName value)]) = drained trace := log_silent rfl trace
  have fresh : s.created ∉ drained trace := fun member => Nat.lt_irrefl _ (ordered.gone _ member)
  constructor
  · rw [executed,log_silent rfl,remaining,grown,left,List.filter_append,List.filter_cons_of_pos (by simpa using fresh),
      List.filter_nil,← List.append_assoc]
    exact congrArg (· ++ _) ordered.order
  · rw [grown,List.map_append]
    refine List.pairwise_append.mpr ⟨ordered.increasing,List.pairwise_singleton _ _,fun n old m new => ?_⟩
    obtain ⟨request,member,rfl⟩ := List.mem_map.mp old
    rw [List.mem_singleton.mp new]
    exact ordered.below request member
  · rw [grown]
    intro request member
    rcases List.mem_append.mp member with old | new
    · exact Nat.lt_succ_of_lt (ordered.below request old)
    · rw [List.mem_singleton.mp new]
      exact Nat.lt_succ_self _
  · rw [left]
    exact fun n member => Nat.lt_succ_of_lt (ordered.gone n member)
  · rw [grown,rejected,log_silent (by rw [rejects,room]; rfl)]
    intro n member
    obtain ⟨small,outside⟩ := ordered.apart n member
    refine ⟨Nat.lt_succ_of_lt small,fun among => ?_⟩
    rw [List.map_append] at among
    rcases List.mem_append.mp among with old | new
    · exact outside old
    · exact Nat.ne_of_lt small (List.mem_singleton.mp new)

theorem Ordered.rejected (ordered : Ordered trace s) (full : s.full = true) (methodName : String) (value : α) (outcome : Outcome) :
    Ordered (trace ++ [(s,.enqueue methodName value)])
      { s.setResult s.created outcome with overflowCount := s.overflowCount + 1, created := s.created + 1 } := by
  have same : PersistenceWorker.accepted (trace ++ [(s,.enqueue methodName value)]) = PersistenceWorker.accepted trace :=
    log_silent (by rw [accepts,full,if_pos rfl]) trace
  have left : drained (trace ++ [(s,.enqueue methodName value)]) = drained trace := log_silent rfl trace
  constructor
  · rw [executed,log_silent rfl,remaining,same,left]
    exact ordered.order
  · rw [same]
    exact ordered.increasing
  · rw [same]
    exact fun request member => Nat.lt_succ_of_lt (ordered.below request member)
  · rw [left]
    exact fun n member => Nat.lt_succ_of_lt (ordered.gone n member)
  · rw [same,PersistenceWorker.rejected,log_snoc (by rw [rejects,full,if_pos rfl])]
    intro n member
    rcases List.mem_append.mp member with old | new
    · exact ⟨Nat.lt_succ_of_lt (ordered.apart n old).1,(ordered.apart n old).2⟩
    · rw [List.mem_singleton.mp new]
      refine ⟨Nat.lt_succ_self _,fun among => ?_⟩
      obtain ⟨request,member,number⟩ := List.mem_map.mp among
      exact Nat.ne_of_lt (ordered.below request member) number

theorem Ordered.pairwise (ordered : Ordered trace s) : ((executed trace ++ s.queue).map (·.future)).Pairwise (· < ·) := by
  rw [ordered.order]
  exact ordered.increasing.sublist (List.filter_sublist.map _)

theorem Ordered.drained (ordered : Ordered trace s) (detail : String) :
    Ordered (trace ++ [(s,.stopped)]) ({ s with task := .absent, gathering := g }.failPending detail) := by
  have same : PersistenceWorker.accepted (trace ++ [(s,.stopped)]) = PersistenceWorker.accepted trace := log_silent rfl trace
  have taken : PersistenceWorker.drained (trace ++ [(s,.stopped)]) =
      PersistenceWorker.drained trace ++ s.queue.map (·.future) := log_snoc rfl trace
  have queued : ∀ request ∈ s.queue, request ∈ PersistenceWorker.accepted trace := by
    intro request member
    have among : request ∈ remaining trace := ordered.order ▸ List.mem_append_right _ member
    exact (List.mem_filter.mp among).1
  have separate : ∀ request ∈ executed trace, request.future ∉ s.queue.map (·.future) := by
    intro request member among
    have sorted := ordered.pairwise
    rw [List.map_append] at sorted
    exact Nat.lt_irrefl _ ((List.pairwise_append.mp sorted).2.2 _ (List.mem_map_of_mem member) _ among)
  constructor
  · have split : remaining (trace ++ [(s,.stopped)]) =
        (remaining trace).filter fun request => request.future ∉ s.queue.map (·.future) := by
      rw [remaining,same,taken,remaining,List.filter_filter]
      refine List.filter_congr fun request _ => ?_
      rw [← Bool.decide_and]
      exact decide_eq_decide.mpr (by rw [List.mem_append,not_or,and_comm])
    rw [split,← ordered.order,List.filter_append,executed,log_silent rfl]
    have kept : (executed trace).filter (fun request => request.future ∉ s.queue.map (·.future)) = executed trace :=
      List.filter_eq_self.mpr fun request member => by simpa using separate request member
    have none : s.queue.filter (fun request => request.future ∉ s.queue.map (·.future)) = [] :=
      List.filter_eq_nil_iff.mpr fun request member => by simpa using ⟨request,member,rfl⟩
    rw [kept,none]
    rfl
  · rw [same]
    exact ordered.increasing
  · rw [same]
    exact ordered.below
  · rw [taken]
    intro n among
    rcases List.mem_append.mp among with old | new
    · exact ordered.gone n old
    · obtain ⟨request,member,rfl⟩ := List.mem_map.mp new
      exact ordered.below request (queued request member)
  · rw [same,PersistenceWorker.rejected,log_silent rfl]
    exact ordered.apart

theorem Ordered.step (ordered : Ordered trace s) (stepped : s.step event = some next) : Ordered (trace ++ [(s,event)]) next := by
  cases step_effect stepped with
  | accepted room => exact ordered.accepted room _ _
  | rejected full => exact ordered.rejected full _ _ _
  | cancelled => exact ordered.carry rfl rfl rfl rfl rfl
  | taken waiting queue => exact ordered.carry rfl rfl rfl (by rw [executes,queue]; rfl) rfl
  | returned => exact ordered.carry rfl rfl rfl rfl rfl
  | failed => exact ordered.carry rfl rfl rfl rfl rfl
  | interrupted => exact ordered.carry rfl rfl rfl rfl rfl
  | drained => exact ordered.drained _
  | kept silent =>
    obtain ⟨accepts,rejects,executes,_,drains⟩ := quiet_logs (s := s) silent
    exact ordered.carry accepts rejects drains (by rw [executes]; rfl) rfl

structure Answered (trace : List (PersistenceWorker α × WorkerEvent α)) (s : PersistenceWorker α) : Prop where
  counted : s.overflowCount = (rejected trace).length
  refused : ∀ n ∈ rejected trace ++ failed trace ++ drained trace, Unpersisted (s.futures n)
  callers : ∀ n, s.futures n = some .cancelled → ∃ earlier, (earlier,.cancelFuture n) ∈ trace

theorem Unpersisted.keeps {next : PersistenceWorker α} {n : Nat} (unpersisted : Unpersisted (s.futures n)) (keeps : Keeps s.futures next.futures) :
    Unpersisted (next.futures n) := by
  rcases unpersisted with cancelled | ⟨result,settled,failed⟩
  · exact .inl (keeps n _ cancelled)
  · exact .inr ⟨result,keeps n _ settled,failed⟩

theorem settle_unpersisted {n : Nat} (unanswered : ∀ outcome, s.futures n = some outcome → outcome = .cancelled) (detail : String) :
    Unpersisted (settle s.futures n (s.notPersisted detail) n) := by
  cases settled : s.futures n with
  | none => exact .inr ⟨_,settle_pending settled,rfl⟩
  | some outcome =>
    rw [unanswered outcome settled] at settled
    exact .inl (settle_keeps _ _ _ _ _ settled)

theorem settleAll_unpersisted {n : Nat} {numbers : List Nat} (unanswered : ∀ outcome, s.futures n = some outcome → outcome = .cancelled)
    (among : n ∈ numbers) (detail : String) : Unpersisted (settleAll s.futures numbers (s.notPersisted detail) n) := by
  have settled : (settleAll s.futures numbers (s.notPersisted detail) n).isSome := settleAll_settled among
  obtain ⟨outcome,found⟩ := Option.isSome_iff_exists.mp settled
  rcases settleAll_cases found with old | ⟨_,new⟩
  · rw [unanswered outcome old] at found
    exact .inl found
  · exact .inr ⟨_,found.trans (congrArg _ new),rfl⟩

theorem Sound.refuses (sound : Sound s) (stepped : s.step event = some next) :
    ∀ n ∈ s.rejects event ++ s.fails event ++ s.drains event, Unpersisted (next.futures n) := by
  have executing {request : PersistenceRequest α} (task : s.task = .executing request) (detail : String) :
      Unpersisted (settle s.futures request.future (s.notPersisted detail) request.future) := by
    refine settle_unpersisted (sound.unanswered _ ?_) detail
    rw [numbers,held_executing task]
    exact List.mem_cons_self
  cases step_effect stepped with
  | accepted room =>
    intro n member
    rw [rejects,room] at member
    cases member
  | rejected full =>
    intro n member
    rw [rejects,full] at member
    rw [List.mem_singleton.mp member]
    refine settle_unpersisted (fun outcome settled => ?_) _
    rw [sound.ahead _ (Nat.le_refl _)] at settled
    cases settled
  | cancelled | taken | returned => nofun
  | failed task =>
    intro n member
    rw [fails,task] at member
    rw [List.mem_singleton.mp member]
    exact executing task _
  | interrupted task =>
    intro n member
    rw [fails,task] at member
    rw [List.mem_singleton.mp member]
    exact executing task _
  | drained idle =>
    intro n member
    have among : n ∈ s.queue.map (·.future) := member
    refine settleAll_unpersisted (sound.unanswered n ?_) among _
    rw [numbers,held_idle idle]
    exact among
  | kept silent =>
    obtain ⟨_,rejects,_,fails,drains⟩ := quiet_logs (s := s) silent
    rw [rejects,fails,drains]
    nofun

theorem step_cancels {n : Nat} (stepped : s.step event = some next) (cancelled : next.futures n = some .cancelled) :
    s.futures n = some .cancelled ∨ event = .cancelFuture n := by
  cases step_effect stepped with
  | accepted | taken | kept => exact .inl cancelled
  | cancelled small =>
    rcases settle_cases cancelled with old | ⟨same,_⟩
    · exact .inl old
    · exact .inr (by rw [same])
  | rejected | returned | failed | interrupted =>
    rcases settle_cases cancelled with old | ⟨_,new⟩
    · exact .inl old
    · cases new
  | drained =>
    rcases settleAll_cases cancelled with old | ⟨_,new⟩
    · exact .inl old
    · cases new

theorem step_counts (stepped : s.step event = some next) : next.overflowCount = s.overflowCount + (s.rejects event).length := by
  cases step_effect stepped with
  | accepted room =>
    rw [rejects,room]
    rfl
  | rejected full =>
    rw [rejects,full]
    rfl
  | kept silent =>
    rw [(quiet_logs (s := s) silent).2.1]
    rfl
  | _ => rfl

theorem Answered.step (sound : Sound s) (answered : Answered trace s) (stepped : s.step event = some next) :
    Answered (trace ++ [(s,event)]) next := by
  refine ⟨?_,fun n member => ?_,fun n cancelled => ?_⟩
  · rw [rejected,log_snoc rfl,List.length_append,step_counts stepped,answered.counted]
    rfl
  · rw [rejected,failed,drained,log_snoc rfl,log_snoc rfl,log_snoc rfl] at member
    have parts : n ∈ rejected trace ++ failed trace ++ drained trace ∨ n ∈ s.rejects event ++ s.fails event ++ s.drains event := by
      simp only [List.mem_append] at member ⊢
      tauto
    rcases parts with old | new
    · exact (answered.refused n old).keeps (step_keeps stepped)
    · exact sound.refuses stepped n new
  · rcases step_cancels stepped cancelled with old | rfl
    · obtain ⟨earlier,member⟩ := answered.callers n old
      exact ⟨earlier,List.mem_append_left _ member⟩
    · exact ⟨s,List.mem_append_right _ (List.mem_singleton.mpr rfl)⟩

theorem run_recorded {capacity : Int} {configured : Bool} {first : PersistenceWorker α}
    (created : create capacity configured = .ok first) (path : Path step anyStep first trace s) :
    Ordered trace s ∧ Answered trace s ∧ s.capacity = first.capacity := by
  obtain ⟨_,_,none,empty,count,fresh⟩ := sound_created created
  refine path.history (fun trace s => Ordered trace s ∧ Answered trace s ∧ s.capacity = first.capacity) ?_ ?_
  · refine ⟨⟨?_,List.Pairwise.nil,by nofun,by nofun,by nofun⟩,⟨count,by nofun,fun n cancelled => ?_⟩,rfl⟩
    · rw [empty]
      rfl
    · rw [fresh] at cancelled
      cases cancelled
  · intro trace s event next prior ⟨ordered,answered,same⟩ _ stepped
    refine ⟨ordered.step stepped,answered.step (sound_reached created prior) stepped,?_⟩
    rw [← same]
    cases step_effect stepped <;> rfl

-- The requests that found room are executed in the order of their calls and once at most,
-- and none is passed over but by a stop; the others are counted. A future keeps its first
-- outcome, and has one when the `stop` of a worker returns: no success where the request was
-- refused, failed or left behind, unless its caller cancelled it.
theorem requests_settled {capacity : Int} {configured : Bool} {first : PersistenceWorker α}
    (created : create capacity configured = .ok first) (path : Path step anyStep first trace s) :
    executed trace ++ s.queue = remaining trace ∧
    ((accepted trace).map (·.future)).Pairwise (· < ·) ∧
    ((executed trace).map (·.future)).Pairwise (· < ·) ∧
    (∀ n ∈ rejected trace, n ∉ (executed trace).map (·.future)) ∧
    s.health.overflowCount = (rejected trace).length ∧
    s.health.pending ≤ s.health.capacity ∧ (s.health.capacity : Int) = capacity ∧
    s.unfinishedTasks = s.held.length ∧
    (∀ event next, s.step event = some next → Keeps s.futures next.futures) ∧
    (∀ next, s.step .stopped = some next → ∀ n < s.created, (next.futures n).isSome) ∧
    (∀ n ∈ rejected trace ++ failed trace ++ drained trace, Unpersisted (s.futures n)) ∧
    (∀ n, s.futures n = some .cancelled → ∃ earlier, (earlier,.cancelFuture n) ∈ trace) := by
  have sound := sound_reached created path
  obtain ⟨ordered,answered,same⟩ := run_recorded created path
  have sorted := ordered.pairwise
  rw [List.map_append] at sorted
  refine ⟨ordered.order,ordered.increasing,(List.pairwise_append.mp sorted).1,fun n refused among => ?_,answered.counted,
    sound.bounded,?_,sound.counted,fun event next stepped => step_keeps stepped,fun next stepped => ?_,answered.refused,answered.callers⟩
  · obtain ⟨request,member,rfl⟩ := List.mem_map.mp among
    have known : request ∈ remaining trace := ordered.order ▸ List.mem_append_left _ member
    exact (ordered.apart _ refused).2 (List.mem_map_of_mem (List.mem_filter.mp known).1)
  · dsimp only [health]
    rw [same]
    exact (sound_created created).2.1
  · cases step_effect stepped with
    | drained idle => exact (sound.drained idle _).2
    | kept silent => cases silent

def stopRun : List (WorkerEvent Nat) :=
  [.start,.enqueue "sample" 1,.take,.enqueue "sample" 2,.enqueue "sample" 3,.cancelFuture 1,.stop,.joined,.cancelledError]

theorem requests_settled_stop : ∃ first : PersistenceWorker Nat, create 1 true = .ok first ∧ ∃ trace s next, Path step anyStep first trace s ∧
    s.step .stopped = some next ∧ (∀ n < 3, (next.futures n).isSome) ∧ (rejected trace).length = 1 := by
  let first : PersistenceWorker Nat := ⟨1,true,[],0,0,0,fun _ => none,.absent,false,0,0⟩
  have passed : (run step first stopRun).any
      (fun s => s.created == 3 && (s.overflowCount == 1 && (s.step .stopped).isSome)) = true := by decide +kernel
  obtain ⟨trace,s,path,checked⟩ := run_checked passed
  obtain ⟨made,checked⟩ := Bool.and_eq_true_iff.mp checked
  obtain ⟨lost,returns⟩ := Bool.and_eq_true_iff.mp checked
  obtain ⟨next,stepped⟩ := Option.isSome_iff_exists.mp returns
  have created : create 1 true = .ok first := rfl
  obtain ⟨_,_,_,_,count,_,_,_,_,resolved,_⟩ := requests_settled created path
  refine ⟨first,created,trace,s,next,path,stepped,?_,count.symm.trans (beq_iff_eq.mp lost)⟩
  have all := resolved next stepped
  rw [beq_iff_eq.mp made] at all
  exact all

end PersistenceWorker

end Thermometer.PersistenceQueue
