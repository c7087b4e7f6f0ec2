import Mathlib.Data.List.Nodup
import Thermometer.Lib.Execution

-- ble_scheduler.py: one worker task that serves a priority queue of requests.
namespace Thermometer.Client
open Execution

inductive RequestPriority where
  | display | current | history
  deriving DecidableEq, Repr

def RequestPriority.value : RequestPriority → Nat
  | .display => 0 | .current => 10 | .history => 20

-- The fields that a comparison looks at. The action and the future of a request are
-- found by its sequence number.
structure ScheduledRequest where
  priority : Nat
  sequence : Nat
  deriving DecidableEq, Repr

-- The order of the dataclass: as pairs.
def ScheduledRequest.Before (left right : ScheduledRequest) : Prop :=
  left.priority < right.priority ∨ (left.priority = right.priority ∧ left.sequence ≤ right.sequence)

instance : DecidableRel ScheduledRequest.Before := fun _ _ => inferInstanceAs (Decidable (_ ∨ _))

inductive Resolution (α : Type) where
  | result (value : α)
  | exception (message : String)
  | cancelled

-- `future.cancelled()`.
def futureCancelled : Option (Resolution α) → Bool
  | some .cancelled => true
  | _ => false

-- The worker task: not created, suspended in `queue.get`, suspended in an action, done.
inductive Worker where
  | absent
  | waiting
  | running (request : ScheduledRequest)
  | ended
  deriving DecidableEq

structure BleRequestScheduler (α : Type) where
  ready : Bool
  queue : List ScheduledRequest
  sequence : Nat
  worker : Worker
  -- `cancel` was called on the task and has not reached it.
  cancelRequested : Bool
  futures : Nat → Option (Resolution α)
  -- Calls of `stop` that wait for the worker, by their errors.
  stops : List String

-- What can happen between two suspensions. An action ends in one of three ways; a
-- cancellation may also be caught by it. Consecutive picks without a pause are single
-- steps here, and so is an action that never suspends.
inductive SchedulerEvent (α : Type) where
  | submit (priority : RequestPriority)
  | giveUp (sequence : Nat)
  | setReady (ready : Bool)
  | pick
  | finish (value : α)
  | raise (message : String)
  | actionCancelled
  | cancellationCaught
  | workerCancelled
  | start
  | stop (error : String)
  | stopped (error : String)

def least : List ScheduledRequest → Option ScheduledRequest
  | [] => none
  | request :: rest =>
    match least rest with
    | none => some request
    | some other => if request.Before other then some request else some other

namespace BleRequestScheduler

variable {α : Type} (s : BleRequestScheduler α)

def initial (ready : Bool) : BleRequestScheduler α := ⟨ready,[],0,.absent,false,fun _ => none,[]⟩

def resolve (sequence : Nat) (resolution : Resolution α) : BleRequestScheduler α :=
  { s with futures := fun n => if n = sequence then some ((s.futures n).getD resolution) else s.futures n }

def submit (priority : RequestPriority) : BleRequestScheduler α :=
  if s.ready then { s with queue := s.queue ++ [⟨priority.value,s.sequence⟩], sequence := s.sequence + 1 } else s

def failPending (error : String) : List ScheduledRequest → BleRequestScheduler α → BleRequestScheduler α
  | [],s => { s with queue := [] }
  | request :: rest,s => failPending error rest (s.resolve request.sequence (.exception error))

def pick : Option (BleRequestScheduler α) := do
  let request ← least s.queue
  let s := { s with queue := s.queue.erase request }
  if futureCancelled (s.futures request.sequence) then some s
  else if !s.ready then some (s.resolve request.sequence (.exception "thermometer is not connected"))
  else some { s with worker := .running request }

def actionDone (resolution : Resolution α) : Option (BleRequestScheduler α) :=
  match s.worker with
  | .running request =>
    if s.cancelRequested then none else some { s.resolve request.sequence resolution with worker := .waiting }
  | _ => none

def actionCancelled : Option (BleRequestScheduler α) :=
  match s.worker with
  | .running request => some { s.resolve request.sequence .cancelled with worker := .ended, cancelRequested := false }
  | _ => none

def stop (error : String) : BleRequestScheduler α :=
  match s.worker with
  | .absent => failPending error s.queue s
  | .ended => { s with stops := error :: s.stops }
  | _ => { s with stops := error :: s.stops, cancelRequested := true }

def stopped (error : String) : Option (BleRequestScheduler α) :=
  if error ∈ s.stops ∧ (s.worker = .ended ∨ s.worker = .absent) then
    some (failPending error s.queue { s with worker := .absent, stops := s.stops.erase error })
  else none

-- The service creates no worker while a `stop` of it waits.
def start : Option (BleRequestScheduler α) :=
  if s.worker = .absent ∨ s.worker = .ended then
    if s.stops = [] then some { s with worker := .waiting, cancelRequested := false } else none
  else some s

def step : SchedulerEvent α → Option (BleRequestScheduler α)
  | .submit priority => some (s.submit priority)
  | .giveUp sequence => if sequence < s.sequence then some (s.resolve sequence .cancelled) else none
  | .setReady ready => some { s with ready := ready }
  | .pick => if s.worker = .waiting ∧ !s.cancelRequested then s.pick else none
  | .finish value => s.actionDone (.result value)
  | .raise message => s.actionDone (.exception message)
  | .actionCancelled => s.actionCancelled
  | .cancellationCaught =>
    match s.worker with
    | .running _ => if s.cancelRequested then some { s with cancelRequested := false } else none
    | _ => none
  | .workerCancelled =>
    if s.worker = .waiting ∧ s.cancelRequested then some { s with worker := .ended, cancelRequested := false } else none
  | .start => s.start
  | .stop error => some (s.stop error)
  | .stopped error => s.stopped error

variable {s}

@[simp] theorem resolve_futures (number n : Nat) (resolution : Resolution α) : (s.resolve number resolution).futures n =
    if n = number then some ((s.futures n).getD resolution) else s.futures n := rfl

theorem resolve_settled (number : Nat) (resolution : Resolution α) (settled : s.futures n = some outcome) :
    (s.resolve number resolution).futures n = some outcome := by
  rw [resolve_futures]
  split
  · rw [settled]
    rfl
  · exact settled

theorem failPending_eq (error : String) (requests : List ScheduledRequest) :
    failPending error requests s =
      { s with
        queue := []
        futures := fun n =>
          if n ∈ requests.map (·.sequence) then some ((s.futures n).getD (.exception error)) else s.futures n } := by
  induction requests generalizing s with
  | nil => simp [failPending]
  | cons request rest ih =>
    rw [failPending,ih]
    simp only [resolve,mk.injEq,true_and,and_true]
    funext n
    by_cases here : n = request.sequence
    · by_cases later : n ∈ rest.map (·.sequence) <;> simp [here]
    · simp [here]

theorem Before.total {left right : ScheduledRequest} (other : ¬ left.Before right) : right.Before left := by
  unfold ScheduledRequest.Before at *
  omega

theorem Before.trans {left middle right : ScheduledRequest} (first : left.Before middle) (second : middle.Before right) :
    left.Before right := by
  unfold ScheduledRequest.Before at *
  omega

theorem least_none {queue : List ScheduledRequest} (nothing : least queue = none) : queue = [] := by
  cases queue with
  | nil => rfl
  | cons first rest =>
    unfold least at nothing
    split at nothing
    · cases nothing
    · split at nothing <;> cases nothing

theorem least_before {queue : List ScheduledRequest} (chosen : least queue = some request) :
    request ∈ queue ∧ ∀ other ∈ queue, request.Before other := by
  have refl (request : ScheduledRequest) : request.Before request := .inr ⟨rfl,Nat.le_refl _⟩
  induction queue generalizing request with
  | nil => cases chosen
  | cons first rest ih =>
    unfold least at chosen
    split at chosen
    · rename_i nothing
      cases chosen
      rw [least_none nothing]
      exact ⟨by simp,by simpa using refl first⟩
    · rename_i other found
      obtain ⟨among,smallest⟩ := ih found
      split at chosen
      · rename_i sooner
        cases chosen
        refine ⟨by simp,fun third member => ?_⟩
        rcases List.mem_cons.mp member with rfl | later
        · exact refl _
        · exact Before.trans sooner (smallest third later)
      · rename_i later
        cases chosen
        refine ⟨by simp [among],fun third member => ?_⟩
        rcases List.mem_cons.mp member with rfl | behind
        · exact Before.total later
        · exact smallest third behind

theorem pick_cases (picked : s.pick = some next) : ∃ request, least s.queue = some request ∧
    ((futureCancelled (s.futures request.sequence) = true ∧ next = { s with queue := s.queue.erase request }) ∨
     (futureCancelled (s.futures request.sequence) = false ∧ s.ready = false ∧
      next = { s with queue := s.queue.erase request }.resolve request.sequence (.exception "thermometer is not connected")) ∨
     (futureCancelled (s.futures request.sequence) = false ∧ s.ready = true ∧
      next = { s with queue := s.queue.erase request, worker := .running request })) := by
  obtain ⟨request,chosen,picked⟩ := Option.bind_eq_some_iff.mp picked
  refine ⟨request,chosen,?_⟩
  dsimp only at picked
  split at picked
  · rename_i given
    cases picked
    exact .inl ⟨given,rfl⟩
  · rename_i wanted
    split at picked
    · rename_i gone
      cases picked
      exact .inr (.inl ⟨by simpa using wanted,by simpa using gone,rfl⟩)
    · rename_i linked
      cases picked
      exact .inr (.inr ⟨by simpa using wanted,by simpa using linked,rfl⟩)

def numbers (s : BleRequestScheduler α) : List Nat := s.queue.map (·.sequence)

structure Sound (s : BleRequestScheduler α) : Prop where
  numbered : ∀ n ∈ s.numbers, n < s.sequence
  distinct : s.numbers.Nodup
  running : ∀ request, s.worker = .running request → request.sequence < s.sequence ∧ request.sequence ∉ s.numbers
  queued : ∀ n ∈ s.numbers, s.futures n = none ∨ s.futures n = some .cancelled
  held : ∀ n < s.sequence, s.futures n = none → n ∈ s.numbers ∨ ∃ request, s.worker = .running request ∧ request.sequence = n
  ahead : ∀ n, s.sequence ≤ n → s.futures n = none

theorem sound_initial (ready : Bool) : Sound (initial ready : BleRequestScheduler α) :=
  ⟨by simp [numbers,initial],by simp [numbers,initial],nofun,by simp [numbers,initial],by simp [initial],fun _ _ => rfl⟩

theorem Sound.submit (sound : Sound s) (priority : RequestPriority) : Sound (s.submit priority) := by
  unfold BleRequestScheduler.submit
  split
  · have fresh : s.sequence ∉ s.numbers := fun member => Nat.lt_irrefl _ (sound.numbered _ member)
    constructor
    · intro n member
      simp only [numbers,List.map_append,List.map_cons,List.map_nil,List.mem_append,List.mem_singleton] at member
      rcases member with old | rfl
      · exact Nat.lt_succ_of_lt (sound.numbered n old)
      · exact Nat.lt_succ_self _
    · simp only [numbers,List.map_append,List.map_cons,List.map_nil,List.nodup_append]
      refine ⟨sound.distinct,by simp,?_⟩
      rintro n member _ new rfl
      cases List.mem_singleton.mp new
      exact fresh member
    · intro request runs
      obtain ⟨below,outside⟩ := sound.running request runs
      refine ⟨Nat.lt_succ_of_lt below,fun member => ?_⟩
      simp only [numbers,List.map_append,List.map_cons,List.map_nil,List.mem_append,List.mem_singleton] at member
      rcases member with old | new
      · exact outside old
      · omega
    · intro n member
      simp only [numbers,List.map_append,List.map_cons,List.map_nil,List.mem_append,List.mem_singleton] at member
      rcases member with old | rfl
      · exact sound.queued n old
      · exact .inl (sound.ahead _ (Nat.le_refl _))
    · intro n below pending
      simp only [numbers,List.map_append,List.map_cons,List.map_nil,List.mem_append,List.mem_singleton]
      by_cases new : n = s.sequence
      · exact .inl (.inr new)
      · rcases sound.held n (by dsimp only at below; omega) pending with old | runs
        · exact .inl (.inl old)
        · exact .inr runs
    · intro n above
      exact sound.ahead n (by dsimp only at above; omega)
  · exact sound

theorem Sound.mem_erased (sound : Sound s) {request : ScheduledRequest} (among : request ∈ s.queue) :
    n ∈ (s.queue.erase request).map (·.sequence) ↔ n ∈ s.numbers ∧ n ≠ request.sequence := by
  have single : s.queue.Nodup := List.Nodup.of_map _ sound.distinct
  simp only [numbers,List.mem_map,single.mem_erase_iff]
  constructor
  · rintro ⟨other,⟨different,member⟩,rfl⟩
    refine ⟨⟨other,member,rfl⟩,fun same => different ?_⟩
    exact List.inj_on_of_nodup_map sound.distinct member among same
  · rintro ⟨⟨other,member,rfl⟩,different⟩
    exact ⟨other,⟨fun same => different (congrArg _ same),member⟩,rfl⟩

theorem Sound.giveUp (sound : Sound s) (below : number < s.sequence) : Sound (s.resolve number .cancelled) where
  numbered := sound.numbered
  distinct := sound.distinct
  running := sound.running
  queued n member := by
    rw [resolve_futures]
    split
    · rcases sound.queued n member with pending | cancelled
      · exact .inr (by rw [pending]; rfl)
      · exact .inr (by rw [cancelled]; rfl)
    · exact sound.queued n member
  held n small pending := by
    rw [resolve_futures] at pending
    split at pending
    · cases pending
    · exact sound.held n small pending
  ahead n above := by
    rw [resolve_futures,if_neg (by dsimp only [resolve] at above; omega)]
    exact sound.ahead n above

theorem Sound.pick (sound : Sound s) (waiting : s.worker = .waiting) (picked : s.pick = some next) : Sound next := by
  obtain ⟨request,chosen,outcome⟩ := pick_cases picked
  have among := (least_before chosen).1
  have below := sound.numbered request.sequence (List.mem_map_of_mem among)
  have numbered : ∀ n ∈ (s.queue.erase request).map (·.sequence), n < s.sequence := fun n member =>
    sound.numbered n ((sound.mem_erased among).mp member).1
  have distinct : ((s.queue.erase request).map (·.sequence)).Nodup :=
    sound.distinct.sublist (List.erase_sublist.map _)
  have queued : ∀ n ∈ (s.queue.erase request).map (·.sequence), s.futures n = none ∨ s.futures n = some .cancelled :=
    fun n member => sound.queued n ((sound.mem_erased among).mp member).1
  have held : ∀ n < s.sequence, s.futures n = none → n ≠ request.sequence →
      n ∈ (s.queue.erase request).map (·.sequence) := by
    intro n small pending different
    rcases sound.held n small pending with member | ⟨other,runs,_⟩
    · exact (sound.mem_erased among).mpr ⟨member,different⟩
    · rw [waiting] at runs
      cases runs
  rcases outcome with ⟨given,rfl⟩ | ⟨_,_,rfl⟩ | ⟨_,_,rfl⟩
  · refine ⟨numbered,distinct,fun other runs => ?_,queued,fun n small pending => ?_,sound.ahead⟩
    · rw [waiting] at runs
      cases runs
    · refine .inl (held n small pending ?_)
      rintro rfl
      rw [pending] at given
      cases given
  · refine ⟨numbered,distinct,fun other runs => ?_,fun n member => ?_,fun n small pending => ?_,fun n above => ?_⟩
    · rw [resolve] at runs
      dsimp only at runs
      rw [waiting] at runs
      cases runs
    · rw [resolve_futures,if_neg ((sound.mem_erased among).mp member).2]
      exact queued n member
    · rw [resolve_futures] at pending
      split at pending
      · cases pending
      · exact .inl (held n small pending ‹_›)
    · rw [resolve_futures,if_neg (by dsimp only [resolve] at above; omega)]
      exact sound.ahead n above
  · refine ⟨numbered,distinct,fun other runs => ?_,queued,fun n small pending => ?_,sound.ahead⟩
    · cases runs
      exact ⟨below,fun member => ((sound.mem_erased among).mp member).2 rfl⟩
    · by_cases same : n = request.sequence
      · exact .inr ⟨request,rfl,same.symm⟩
      · exact .inl (held n small pending same)

theorem Sound.leave (sound : Sound s) {request : ScheduledRequest} (runs : s.worker = .running request)
    (resolution : Resolution α) (worker : Worker) (idle : ∀ request, worker ≠ .running request) (cancelRequested : Bool) :
    Sound { s.resolve request.sequence resolution with worker := worker, cancelRequested := cancelRequested } := by
  obtain ⟨below,outside⟩ := sound.running request runs
  refine ⟨sound.numbered,sound.distinct,fun other busy => absurd busy (idle other),fun n member => ?_,
    fun n small pending => ?_,fun n above => ?_⟩
  · rw [resolve_futures,if_neg (by rintro rfl; exact outside member)]
    exact sound.queued n member
  · rw [resolve_futures] at pending
    split at pending
    · cases pending
    · rcases sound.held n small pending with member | ⟨other,busy,same⟩
      · exact .inl member
      · rw [runs] at busy
        cases busy
        exact absurd same.symm ‹_›
  · rw [resolve_futures,if_neg (by dsimp only [resolve] at above; omega)]
    exact sound.ahead n above

theorem Sound.drained (sound : Sound s) (idle : ∀ request, s.worker ≠ .running request) (error : String) :
    ∀ n < s.sequence, ((failPending error s.queue s).futures n).isSome := by
  intro n small
  rw [failPending_eq]
  dsimp only
  split
  · rfl
  · rename_i outside
    cases pending : s.futures n with
    | some outcome => rfl
    | none =>
      rcases sound.held n small pending with member | ⟨request,busy,_⟩
      · exact absurd member outside
      · exact absurd busy (idle request)

theorem Sound.failPending (sound : Sound s) (idle : ∀ request, s.worker ≠ .running request) (error : String) :
    Sound (failPending error s.queue s) := by
  have resolved := sound.drained idle error
  rw [failPending_eq] at resolved ⊢
  refine ⟨by simp [numbers],by simp [numbers],fun request busy => absurd busy (idle request),by simp [numbers],
    fun n small pending => ?_,fun n above => ?_⟩
  · have settled := resolved n small
    rw [pending] at settled
    cases settled
  · dsimp only
    have outside : n ∉ s.queue.map (·.sequence) := fun member =>
      Nat.lt_irrefl _ (Nat.lt_of_lt_of_le (sound.numbered n member) above)
    rw [if_neg outside]
    exact sound.ahead n above

theorem Sound.idle (sound : Sound s) (before : ∀ request, s.worker ≠ .running request) (worker : Worker)
    (after : ∀ request, worker ≠ .running request) (cancelRequested : Bool) (stops : List String) :
    Sound { s with worker := worker, cancelRequested := cancelRequested, stops := stops } := by
  refine ⟨sound.numbered,sound.distinct,fun request busy => absurd busy (after request),sound.queued,
    fun n small pending => ?_,sound.ahead⟩
  rcases sound.held n small pending with member | ⟨request,busy,_⟩
  · exact .inl member
  · exact absurd busy (before request)

theorem Sound.actionDone (sound : Sound s) (resolution : Resolution α) (done : s.actionDone resolution = some next) :
    Sound next := by
  unfold BleRequestScheduler.actionDone at done
  split at done
  · rename_i request runs
    split at done
    · cases done
    · cases done
      exact sound.leave runs resolution .waiting (by nofun) s.cancelRequested
  · cases done

theorem Sound.actionCancelled (sound : Sound s) (done : s.actionCancelled = some next) : Sound next := by
  unfold BleRequestScheduler.actionCancelled at done
  split at done
  · rename_i request runs
    cases done
    exact sound.leave runs .cancelled .ended (by nofun) false
  · cases done

theorem Sound.stop (sound : Sound s) (error : String) : Sound (s.stop error) := by
  unfold BleRequestScheduler.stop
  split
  · rename_i absent
    refine sound.failPending (fun request busy => ?_) error
    rw [absent] at busy
    cases busy
  · exact ⟨sound.numbered,sound.distinct,sound.running,sound.queued,sound.held,sound.ahead⟩
  · exact ⟨sound.numbered,sound.distinct,sound.running,sound.queued,sound.held,sound.ahead⟩

theorem stopped_cases (returned : s.stopped error = some next) : (∀ request, s.worker ≠ .running request) ∧
    next = failPending error s.queue { s with worker := .absent, stops := s.stops.erase error } := by
  unfold BleRequestScheduler.stopped at returned
  split at returned
  · rename_i finished
    cases returned
    refine ⟨fun request busy => ?_,rfl⟩
    rcases finished.2 with ended | absent
    · rw [ended] at busy
      cases busy
    · rw [absent] at busy
      cases busy
  · cases returned

theorem Sound.start (sound : Sound s) (created : s.start = some next) : Sound next := by
  unfold BleRequestScheduler.start at created
  split at created
  · rename_i gone
    split at created
    · cases created
      refine sound.idle (fun request busy => ?_) .waiting (by nofun) false s.stops
      rw [busy] at gone
      rcases gone with absent | ended
      · cases absent
      · cases ended
    · cases created
  · cases created
    exact sound

theorem Sound.step (sound : Sound s) (stepped : s.step event = some next) : Sound next := by
  cases event with
  | submit priority =>
    cases stepped
    exact sound.submit priority
  | giveUp number =>
    dsimp only [BleRequestScheduler.step] at stepped
    split at stepped
    · cases stepped
      exact sound.giveUp ‹_›
    · cases stepped
  | setReady ready =>
    cases stepped
    exact ⟨sound.numbered,sound.distinct,sound.running,sound.queued,sound.held,sound.ahead⟩
  | pick =>
    dsimp only [BleRequestScheduler.step] at stepped
    split at stepped
    · rename_i free
      exact sound.pick free.1 stepped
    · cases stepped
  | finish value => exact sound.actionDone _ stepped
  | raise message => exact sound.actionDone _ stepped
  | actionCancelled => exact sound.actionCancelled stepped
  | cancellationCaught =>
    dsimp only [BleRequestScheduler.step] at stepped
    split at stepped
    · split at stepped
      · cases stepped
        exact ⟨sound.numbered,sound.distinct,sound.running,sound.queued,sound.held,sound.ahead⟩
      · cases stepped
    · cases stepped
  | workerCancelled =>
    dsimp only [BleRequestScheduler.step] at stepped
    split at stepped
    · rename_i free
      cases stepped
      refine sound.idle (fun request busy => ?_) .ended (by nofun) false s.stops
      rw [free.1] at busy
      cases busy
    · cases stepped
  | start => exact sound.start stepped
  | stop error =>
    cases stepped
    exact sound.stop error
  | stopped error =>
    obtain ⟨idle,rfl⟩ := stopped_cases stepped
    exact (sound.idle idle .absent (by nofun) s.cancelRequested (s.stops.erase error)).failPending (by nofun) error

theorem sound_reached (path : Path step anyStep (initial linked : BleRequestScheduler α) trace s) : Sound s :=
  path.invariant Sound (sound_initial linked) fun _ _ _ sound _ stepped => sound.step stepped

theorem failPending_settled (error : String) (requests : List ScheduledRequest) (settled : s.futures n = some outcome) :
    (failPending error requests s).futures n = some outcome := by
  rw [failPending_eq]
  dsimp only
  split
  · rw [settled]
    rfl
  · exact settled

theorem pick_settled (picked : s.pick = some next) (settled : s.futures n = some outcome) : next.futures n = some outcome := by
  obtain ⟨request,_,⟨_,rfl⟩ | ⟨_,_,rfl⟩ | ⟨_,_,rfl⟩⟩ := pick_cases picked
  · exact settled
  · exact resolve_settled _ _ settled
  · exact settled

theorem actionDone_settled (done : s.actionDone resolution = some next) (settled : s.futures n = some outcome) :
    next.futures n = some outcome := by
  unfold BleRequestScheduler.actionDone at done
  split at done
  · split at done
    · cases done
    · cases done
      exact resolve_settled _ _ settled
  · cases done

theorem step_settled (stepped : s.step event = some next) (settled : s.futures n = some outcome) :
    next.futures n = some outcome := by
  cases event with
  | submit priority =>
    cases stepped
    unfold BleRequestScheduler.submit
    split <;> exact settled
  | giveUp number =>
    dsimp only [BleRequestScheduler.step] at stepped
    split at stepped
    · cases stepped
      exact resolve_settled _ _ settled
    · cases stepped
  | setReady ready =>
    cases stepped
    exact settled
  | pick =>
    dsimp only [BleRequestScheduler.step] at stepped
    split at stepped
    · exact pick_settled stepped settled
    · cases stepped
  | finish value => exact actionDone_settled stepped settled
  | raise message => exact actionDone_settled stepped settled
  | actionCancelled =>
    dsimp only [BleRequestScheduler.step,BleRequestScheduler.actionCancelled] at stepped
    split at stepped
    · cases stepped
      exact resolve_settled _ _ settled
    · cases stepped
  | cancellationCaught =>
    dsimp only [BleRequestScheduler.step] at stepped
    split at stepped
    · split at stepped
      · cases stepped
        exact settled
      · cases stepped
    · cases stepped
  | workerCancelled =>
    dsimp only [BleRequestScheduler.step] at stepped
    split at stepped
    · cases stepped
      exact settled
    · cases stepped
  | start =>
    dsimp only [BleRequestScheduler.step,BleRequestScheduler.start] at stepped
    split at stepped
    · split at stepped
      · cases stepped
        exact settled
      · cases stepped
    · cases stepped
      exact settled
  | stop error =>
    cases stepped
    unfold BleRequestScheduler.stop
    split
    · exact failPending_settled _ _ settled
    · exact settled
    · exact settled
  | stopped error =>
    obtain ⟨_,rfl⟩ := stopped_cases stepped
    exact failPending_settled _ _ settled

def starts (s : BleRequestScheduler α) : SchedulerEvent α → Option ScheduledRequest
  | .pick =>
    match (s.step .pick).map BleRequestScheduler.worker with
    | some (.running request) => some request
    | _ => none
  | _ => none

def ends : SchedulerEvent α → Bool
  | .finish _ | .raise _ | .actionCancelled => true
  | _ => false

def started (trace : List (BleRequestScheduler α × SchedulerEvent α)) : List ScheduledRequest :=
  trace.filterMap fun entry => starts entry.1 entry.2

def ended (trace : List (BleRequestScheduler α × SchedulerEvent α)) : List (SchedulerEvent α) :=
  (trace.map Prod.snd).filter ends

def stopReturns (s : BleRequestScheduler α) : SchedulerEvent α → Bool
  | .stop _ => s.worker = .absent
  | .stopped _ => true
  | _ => false

theorem starts_pick (picked : s.step .pick = some next) : s.worker = .waiting ∧
    ((s.starts .pick = none ∧ next.worker = .waiting ∧ next.sequence = s.sequence ∧
      ∃ request, next.queue = s.queue.erase request) ∨
     ∃ request, s.starts .pick = some request ∧ least s.queue = some request ∧
      futureCancelled (s.futures request.sequence) = false ∧ s.ready = true ∧
      next = { s with queue := s.queue.erase request, worker := .running request }) := by
  have whole := picked
  dsimp only [BleRequestScheduler.step] at picked
  split at picked
  · rename_i free
    refine ⟨free.1,?_⟩
    obtain ⟨request,chosen,⟨_,rfl⟩ | ⟨_,_,rfl⟩ | ⟨wanted,linked,rfl⟩⟩ := pick_cases picked
    · refine .inl ⟨?_,free.1,rfl,request,rfl⟩
      rw [starts,whole,Option.map_some,free.1]
    · refine .inl ⟨?_,free.1,rfl,request,rfl⟩
      rw [starts,whole,Option.map_some,resolve,free.1]
    · refine .inr ⟨request,?_,chosen,wanted,linked,rfl⟩
      rw [starts,whole,Option.map_some]
  · cases picked

theorem Sound.starts (sound : Sound s) (began : s.starts event = some request) :
    event = .pick ∧ request ∈ s.queue ∧ (∀ other ∈ s.queue, request.Before other) ∧
    s.futures request.sequence = none ∧ s.ready = true := by
  cases event with
  | pick =>
    cases picked : s.step .pick with
    | none =>
      rw [BleRequestScheduler.starts,picked] at began
      cases began
    | some next =>
      obtain ⟨_,⟨quiet,_⟩ | ⟨other,also,chosen,wanted,linked,_⟩⟩ := starts_pick picked
      · rw [began] at quiet
        cases quiet
      · rw [began] at also
        cases also
        obtain ⟨among,first⟩ := least_before chosen
        refine ⟨rfl,among,first,?_,linked⟩
        rcases sound.queued _ (List.mem_map_of_mem among) with pending | given
        · exact pending
        · rw [given] at wanted
          cases wanted
  | _ => cases began

theorem Sound.starts_leaves (sound : Sound s) (began : s.starts event = some request)
    (stepped : s.step event = some next) : request.sequence < next.sequence ∧ request.sequence ∉ next.numbers := by
  obtain ⟨rfl,among,_,_,_⟩ := sound.starts began
  obtain ⟨_,⟨quiet,_⟩ | ⟨other,also,_,_,_,rfl⟩⟩ := starts_pick stepped
  · rw [began] at quiet
    cases quiet
  · rw [began] at also
    cases also
    exact ⟨sound.numbered _ (List.mem_map_of_mem among),fun member => ((sound.mem_erased among).mp member).2 rfl⟩

def busy (s : BleRequestScheduler α) : Nat :=
  match s.worker with
  | .running _ => 1
  | _ => 0

theorem busy_idle (idle : ∀ request, s.worker ≠ .running request) : s.busy = 0 := by
  unfold busy
  split
  · rename_i runs
    exact absurd runs (idle _)
  · rfl

theorem failPending_busy (error : String) (requests : List ScheduledRequest) : (failPending error requests s).busy = s.busy := by
  rw [failPending_eq]
  rfl

theorem actionDone_busy (done : s.actionDone resolution = some next) : next.busy + 1 = s.busy := by
  unfold BleRequestScheduler.actionDone at done
  split at done
  · rename_i runs
    split at done
    · cases done
    · cases done
      rw [busy,busy,runs]
  · cases done

theorem step_busy (stepped : s.step event = some next) :
    next.busy + (if ends event then 1 else 0) = s.busy + (s.starts event).toList.length := by
  cases event with
  | submit priority =>
    cases stepped
    unfold BleRequestScheduler.submit
    split <;> rfl
  | giveUp number =>
    dsimp only [BleRequestScheduler.step] at stepped
    split at stepped
    · cases stepped
      rfl
    · cases stepped
  | setReady ready =>
    cases stepped
    rfl
  | pick =>
    obtain ⟨waiting,⟨quiet,still,_⟩ | ⟨request,began,_,_,_,rfl⟩⟩ := starts_pick stepped
    · rw [quiet,busy,busy,waiting,still]
      rfl
    · rw [began,busy,busy,waiting]
      rfl
  | finish value => exact actionDone_busy stepped
  | raise message => exact actionDone_busy stepped
  | actionCancelled =>
    dsimp only [BleRequestScheduler.step,BleRequestScheduler.actionCancelled] at stepped
    split at stepped
    · rename_i runs
      cases stepped
      rw [busy,busy,runs]
      rfl
    · cases stepped
  | cancellationCaught =>
    dsimp only [BleRequestScheduler.step] at stepped
    split at stepped
    · split at stepped
      · cases stepped
        rfl
      · cases stepped
    · cases stepped
  | workerCancelled =>
    dsimp only [BleRequestScheduler.step] at stepped
    split at stepped
    · rename_i free
      cases stepped
      rw [busy,busy,free.1]
      rfl
    · cases stepped
  | start =>
    dsimp only [BleRequestScheduler.step,BleRequestScheduler.start] at stepped
    split at stepped
    · rename_i gone
      split at stepped
      · cases stepped
        rcases gone with absent | ended
        · rw [busy,busy,absent]
          rfl
        · rw [busy,busy,ended]
          rfl
      · cases stepped
    · cases stepped
      rfl
  | stop error =>
    cases stepped
    unfold BleRequestScheduler.stop
    split
    · exact failPending_busy error s.queue
    · rfl
    · rfl
  | stopped error =>
    obtain ⟨idle,rfl⟩ := stopped_cases stepped
    rw [failPending_busy,busy_idle idle]
    rfl

theorem step_numbers (stepped : s.step event = some next) :
    s.sequence ≤ next.sequence ∧ ∀ n < s.sequence, n ∈ next.numbers → n ∈ s.numbers := by
  have drained (error : String) (s : BleRequestScheduler α) : (failPending error s.queue s).sequence = s.sequence ∧
      (failPending error s.queue s).numbers = [] := by
    rw [failPending_eq]
    exact ⟨rfl,rfl⟩
  have done {resolution : Resolution α} (done : s.actionDone resolution = some next) :
      next.sequence = s.sequence ∧ next.numbers = s.numbers := by
    unfold BleRequestScheduler.actionDone at done
    split at done
    · split at done
      · cases done
      · cases done
        exact ⟨rfl,rfl⟩
    · cases done
  cases event with
  | submit priority =>
    cases stepped
    unfold BleRequestScheduler.submit
    split
    · refine ⟨Nat.le_succ _,fun n small member => ?_⟩
      simp only [numbers,List.map_append,List.map_cons,List.map_nil,List.mem_append,List.mem_singleton] at member
      rcases member with old | new
      · exact old
      · omega
    · exact ⟨Nat.le_refl _,fun _ _ member => member⟩
  | giveUp number =>
    dsimp only [BleRequestScheduler.step] at stepped
    split at stepped
    · cases stepped
      exact ⟨Nat.le_refl _,fun _ _ member => member⟩
    · cases stepped
  | setReady ready =>
    cases stepped
    exact ⟨Nat.le_refl _,fun _ _ member => member⟩
  | pick =>
    obtain ⟨_,⟨_,_,same,request,left⟩ | ⟨request,_,_,_,_,rfl⟩⟩ := starts_pick stepped
    · refine ⟨Nat.le_of_eq same.symm,fun n _ member => ?_⟩
      rw [numbers,left] at member
      exact (List.erase_sublist.map _).subset member
    · exact ⟨Nat.le_refl _,fun n _ member => (List.erase_sublist.map _).subset member⟩
  | finish value =>
    obtain ⟨same,queue⟩ := done stepped
    exact ⟨Nat.le_of_eq same.symm,fun n _ member => queue ▸ member⟩
  | raise message =>
    obtain ⟨same,queue⟩ := done stepped
    exact ⟨Nat.le_of_eq same.symm,fun n _ member => queue ▸ member⟩
  | actionCancelled =>
    dsimp only [BleRequestScheduler.step,BleRequestScheduler.actionCancelled] at stepped
    split at stepped
    · cases stepped
      exact ⟨Nat.le_refl _,fun _ _ member => member⟩
    · cases stepped
  | cancellationCaught =>
    dsimp only [BleRequestScheduler.step] at stepped
    split at stepped
    · split at stepped
      · cases stepped
        exact ⟨Nat.le_refl _,fun _ _ member => member⟩
      · cases stepped
    · cases stepped
  | workerCancelled =>
    dsimp only [BleRequestScheduler.step] at stepped
    split at stepped
    · cases stepped
      exact ⟨Nat.le_refl _,fun _ _ member => member⟩
    · cases stepped
  | start =>
    dsimp only [BleRequestScheduler.step,BleRequestScheduler.start] at stepped
    split at stepped
    · split at stepped
      · cases stepped
        exact ⟨Nat.le_refl _,fun _ _ member => member⟩
      · cases stepped
    · cases stepped
      exact ⟨Nat.le_refl _,fun _ _ member => member⟩
  | stop error =>
    cases stepped
    unfold BleRequestScheduler.stop
    split
    · obtain ⟨same,nothing⟩ := drained error s
      rw [same,nothing]
      exact ⟨Nat.le_refl _,by nofun⟩
    · exact ⟨Nat.le_refl _,fun _ _ member => member⟩
    · exact ⟨Nat.le_refl _,fun _ _ member => member⟩
  | stopped error =>
    obtain ⟨_,rfl⟩ := stopped_cases stepped
    obtain ⟨same,nothing⟩ := drained error { s with worker := .absent, stops := s.stops.erase error }
    dsimp only at same nothing ⊢
    rw [same,nothing]
    exact ⟨Nat.le_refl _,by nofun⟩

structure Served (trace : List (BleRequestScheduler α × SchedulerEvent α)) (s : BleRequestScheduler α) : Prop where
  balance : (started trace).length = (ended trace).length + s.busy
  once : ((started trace).map (·.sequence)).Nodup
  past : ∀ request ∈ started trace, request.sequence < s.sequence ∧ request.sequence ∉ s.numbers

theorem started_snoc (trace : List (BleRequestScheduler α × SchedulerEvent α)) :
    started (trace ++ [(s,event)]) = started trace ++ (s.starts event).toList := by
  rw [started,List.filterMap_append]
  cases began : s.starts event <;> simp [started,began]

theorem ended_snoc (trace : List (BleRequestScheduler α × SchedulerEvent α)) :
    (ended (trace ++ [(s,event)])).length = (ended trace).length + if ends event then 1 else 0 := by
  rw [ended,List.map_append,List.filter_append,List.length_append]
  cases last : ends event <;> simp [ended,last]

theorem Served.step (sound : Sound s) (served : Served trace s) (stepped : s.step event = some next) :
    Served (trace ++ [(s,event)]) next := by
  obtain ⟨grows,keeps⟩ := step_numbers stepped
  have past : ∀ request ∈ started trace, request.sequence < next.sequence ∧ request.sequence ∉ next.numbers := by
    intro request member
    obtain ⟨small,outside⟩ := served.past request member
    exact ⟨Nat.lt_of_lt_of_le small grows,fun again => outside (keeps _ small again)⟩
  refine ⟨?_,?_,?_⟩
  · have counted := step_busy stepped
    have before := served.balance
    rw [started_snoc,ended_snoc,List.length_append]
    omega
  · rw [started_snoc,List.map_append,List.nodup_append]
    refine ⟨served.once,?_,?_⟩
    · cases s.starts event <;> simp
    · intro n member number new same
      obtain ⟨request,began,rfl⟩ := List.mem_map.mp new
      obtain ⟨earlier,old,rfl⟩ := List.mem_map.mp member
      obtain ⟨_,among,_⟩ := sound.starts (Option.mem_toList.mp began)
      exact (served.past earlier old).2 (same ▸ List.mem_map_of_mem among)
  · rw [started_snoc]
    intro request member
    rcases List.mem_append.mp member with old | new
    · exact past request old
    · exact sound.starts_leaves (Option.mem_toList.mp new) stepped

theorem served_reached (path : Path step anyStep (initial linked : BleRequestScheduler α) trace s) : Served trace s := by
  refine path.history Served ⟨by simp [started,ended,busy,initial],by simp [started],by simp [started]⟩ ?_
  intro trace s event next prior served _ stepped
  exact served.step (sound_reached prior) stepped

theorem busy_single (s : BleRequestScheduler α) : s.busy ≤ 1 := by
  unfold busy
  split <;> decide

theorem stop_resolves (sound : Sound s) (stepped : s.step event = some next) (returns : s.stopReturns event = true) :
    ∀ n < s.sequence, (next.futures n).isSome := by
  cases event with
  | stop error =>
    have absent : s.worker = .absent := by simpa [stopReturns] using returns
    cases stepped
    rw [BleRequestScheduler.stop,absent]
    refine sound.drained (fun request busy => ?_) error
    rw [absent] at busy
    cases busy
  | stopped error =>
    obtain ⟨idle,rfl⟩ := stopped_cases stepped
    exact (sound.idle idle .absent (by nofun) s.cancelRequested (s.stops.erase error)).drained (by nofun) error
  | _ => cases returns

-- The actions that started and ended alternate, so one at most is under way. Each is of
-- the first of the queued requests, which nobody gave up and the link allows, and no
-- request has two. A future keeps its first resolution, and has one when `stop` returns.
theorem requests_served (path : Path step anyStep (initial linked : BleRequestScheduler α) trace s) :
    ((started trace).length = (ended trace).length ∨ (started trace).length = (ended trace).length + 1) ∧
    ((started trace).map (·.sequence)).Nodup ∧
    (∀ event request, s.starts event = some request →
      request ∈ s.queue ∧ (∀ other ∈ s.queue, request.Before other) ∧
      s.futures request.sequence = none ∧ s.ready = true) ∧
    (∀ event next, s.step event = some next → ∀ n outcome, s.futures n = some outcome → next.futures n = some outcome) ∧
    (∀ event next, s.step event = some next → s.stopReturns event = true → ∀ n < s.sequence, (next.futures n).isSome) := by
  have sound := sound_reached path
  have served := served_reached path
  refine ⟨?_,served.once,fun event request began => (sound.starts began).2,fun event next stepped n outcome settled => ?_,
    fun event next stepped returns => stop_resolves sound stepped returns⟩
  · have balance := served.balance
    have single := busy_single s
    omega
  · exact step_settled stepped settled

-- A stop while the second of three requests runs and the caller of the third has given up.
def stoppedRun : List (SchedulerEvent Nat) :=
  [.start,.submit .history,.submit .display,.submit .display,.giveUp 2,.pick,.stop "service stopped",.actionCancelled]

theorem requests_served_stop :
    ∃ trace s next, Path step anyStep (initial true : BleRequestScheduler Nat) trace s ∧
      s.step (.stopped "service stopped") = some next ∧ (∀ n < 3, (next.futures n).isSome) ∧
      ((started trace).map (·.sequence)).Nodup := by
  have passed : (run step (initial true) stoppedRun).any
      (fun s => s.sequence == 3 && (s.step (.stopped "service stopped")).isSome) = true := by decide +kernel
  obtain ⟨trace,s,path,checked⟩ := run_checked passed
  obtain ⟨submitted,returns⟩ := Bool.and_eq_true_iff.mp checked
  obtain ⟨next,stepped⟩ := Option.isSome_iff_exists.mp returns
  obtain ⟨_,once,_,_,resolved⟩ := requests_served path
  refine ⟨trace,s,next,path,stepped,?_,once⟩
  have all := resolved _ next stepped rfl
  rw [beq_iff_eq.mp submitted] at all
  exact all

end BleRequestScheduler

end Thermometer.Client
