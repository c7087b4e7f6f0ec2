import Thermometer.Client.ControllerTransitions

namespace Thermometer.Controller

variable {Address : Type}

theorem transitionState_accepts {state : ControllerState Address} {changes : Changes Address}
    (related : (changes.apply state).Related)
    (stopped : (changes.apply state).phase = .stopped → (changes.apply state).desiredConnected = false) :
    transitionState state changes = .ok (changes.apply state) := by
  unfold transitionState
  dsimp only
  rw [if_neg,if_neg,if_neg]
  · rintro ⟨phase,desired⟩
    rw [stopped phase] at desired
    cases desired
  · rintro ⟨entered,apart⟩
    have ready := related.ready.mpr entered
    exact apart ⟨related.connected ready,ready⟩
  · rintro ⟨ready,apart⟩
    exact apart (related.connected ready)

theorem Transition.run_accepts {state : ControllerState Address} (transition : Transition Address) (related : state.Related)
    (calm : state.phase = .stopped → state.desiredConnected = false)
    (allowed : transition = .serviceStopped → state.desiredConnected = false) :
    transition.run state = .ok ((transition.changes state).apply state) := by
  refine transitionState_accepts ((transition.restores state).related related) ?_
  cases transition with
  | snapshotReceived => exact calm
  | serviceStopped => exact fun _ => allowed rfl
  | serviceStarted autoDiscover =>
    intro stopped
    cases autoDiscover <;> cases stopped
  | managerRecovered =>
    intro stopped
    simp only [changes,Changes.apply,Option.getD_some] at stopped
    split at stopped
    · cases stopped
    · split at stopped <;> cases stopped
  | retryScheduled | connectionLost =>
    intro stopped
    simp only [changes,Changes.apply,Option.getD_some] at stopped
    split at stopped <;> cases stopped
  | _ =>
    intro stopped
    cases stopped

-- The last transition of `stop` is the only one that can fail.
theorem Transition.run_fails {state : ControllerState Address} {transition : Transition Address} (related : state.Related)
    (calm : state.phase = .stopped → state.desiredConnected = false) :
    (∃ error, transition.run state = .error error) ↔ transition = .serviceStopped ∧ state.desiredConnected = true := by
  constructor
  · rintro ⟨error,failed⟩
    by_contra permitted
    rw [transition.run_accepts related calm fun last => Bool.eq_false_iff.mpr fun desired => permitted ⟨last,desired⟩] at failed
    cases failed
  · rintro ⟨rfl,desired⟩
    exact ⟨"a stopped service cannot request a connection",by simp [run,transitionState,changes,Changes.apply,desired]⟩

theorem Transition.run_calm {state next : ControllerState Address} {transition : Transition Address}
    (done : transition.run state = .ok next) : next.phase = .stopped → next.desiredConnected = false := by
  intro stopped
  rw [transitionState_ok done] at stopped ⊢
  by_contra desired
  rw [Transition.run,transitionState] at done
  split at done
  · cases done
  · split at done
    · cases done
    · rw [if_pos ⟨stopped,Bool.of_not_eq_false desired⟩] at done
      cases done

end Thermometer.Controller

-- `start` and `stop` of ble_service.py, taken from one await to the next. What all other
-- coroutines do is left open: any of their transitions may come at any time.
namespace Thermometer.Service
open Controller (ControllerState ConnectionPhase Transition ClientId)
open Execution

variable {Address : Type}

-- The awaits of `stop` in the order of the source. `tasks` waits for the manager that it
-- has cancelled, `entering` for the lock of the client.
inductive Stopping where
  | history
  | tasks (manager : Option Nat)
  | entering | closing | scheduler | publishing | publisher | persistence | database
  deriving DecidableEq

inductive Holder where
  | stop | other
  deriving DecidableEq

-- `managers` says of each task of the connection manager whether it still runs, and
-- `managerTask` is the one that the service knows; `starting` counts the calls of `start`
-- that wait for the database, `closed` are the clients whose `close` was called.
structure Shutdown (Address : Type) where
  state : ControllerState Address
  started : Bool
  starting : Nat
  managers : List Bool
  managerTask : Option Nat
  client : Option ClientId
  closed : List ClientId
  lifecycleLock : Option Holder
  scheduler : Bool
  statePublisher : Bool
  persistence : Bool
  database : Bool
  stopping : List Stopping
  errors : List String

namespace Shutdown

inductive Event (Address : Type) where
  | start (autoDiscover : Bool)
  | databaseStarted
  | stop
  | transition (transition : Transition Address)
  | managerEnded (manager : Nat)
  | lockTaken (closes : Bool)
  | lockReleased
  | clientAdopted (client : ClientId)
  | clientDropped
  | resume (index : Nat)

variable (s : Shutdown Address)

def created : Shutdown Address :=
  ⟨.created,false,0,[],none,none,[],none,false,false,false,false,[],[]⟩

-- `_transition`; a ValueError ends the coroutine that called it.
def transition (transition : Transition Address) (continues : Shutdown Address → Shutdown Address)
    (ends : Shutdown Address → Shutdown Address) : Shutdown Address :=
  match transition.run s.state with
  | .ok state => continues { s with state := state }
  | .error error => ends { s with errors := s.errors ++ [error] }

def closeClient : Shutdown Address := { s with client := none, closed := s.closed ++ s.client.toList }

def managing : Bool := s.managers.any id

def runs (manager : Nat) : Bool := s.managers[manager]?.getD false

def suspend (stage : Stopping) : Shutdown Address := { s with stopping := s.stopping ++ [stage] }

def wait (index : Nat) (stage : Stopping) : Shutdown Address := { s with stopping := s.stopping.set index stage }

def leave (index : Nat) : Shutdown Address := { s with stopping := s.stopping.eraseIdx index }

-- `stop` behind an await, up to the next one.
def resume (index : Nat) : Stopping → Option (Shutdown Address)
  | .history => some (s.wait index (.tasks s.managerTask))
  | .tasks manager =>
    if manager.any s.runs then none else some ({ s with managerTask := none }.wait index .entering)
  | .entering =>
    if s.lifecycleLock.isSome then none else some ({ s.closeClient with lifecycleLock := some .stop }.wait index .closing)
  | .closing => some ({ s with lifecycleLock := none }.wait index .scheduler)
  | .scheduler =>
    some ({ s with scheduler := false }.transition .serviceStopped (·.wait index .publishing) (·.leave index))
  | .publishing => some (s.wait index .publisher)
  | .publisher => some ({ s with statePublisher := false }.wait index .persistence)
  | .persistence => some ({ s with persistence := false }.wait index .database)
  | .database => some ({ s with database := false }.leave index)

-- The transitions of `start` and of `stop` are theirs alone.
def elsewhere : Transition Address → Bool
  | .serviceStarted _ | .serviceStopping | .serviceStopped => false
  | _ => true

-- Only an attempt of a manager adopts a client; it holds the lock until it has ended, as
-- does another `_close_client`.
def step (s : Shutdown Address) : Event Address → Option (Shutdown Address)
  | .start autoDiscover =>
    if s.started then some s
    else some ({ s with started := true }.transition (.serviceStarted autoDiscover)
      (fun s => { s with starting := s.starting + 1, database := true }) id)
  | .databaseStarted =>
    if s.starting = 0 then none
    else
      some { s with
        starting := s.starting - 1, scheduler := true, persistence := true, statePublisher := true
        managers := s.managers ++ [true], managerTask := some s.managers.length }
  | .stop =>
    if s.started then some ({ s with started := false }.transition .serviceStopping (·.suspend .history) id) else some s
  | .transition transition => if elsewhere transition then some (s.transition transition id id) else none
  | .managerEnded manager => some { s with managers := s.managers.set manager false }
  | .lockTaken closes =>
    if s.lifecycleLock.isSome then none
    else some { (if closes then s.closeClient else s) with lifecycleLock := some .other }
  | .lockReleased => if s.lifecycleLock = some .other then some { s with lifecycleLock := none } else none
  | .clientAdopted client =>
    if s.managing && s.lifecycleLock = some .other then some { s with client := some client } else none
  | .clientDropped => if s.lifecycleLock = some .other then some s.closeClient else none
  | .resume index => s.stopping[index]?.bind (s.resume index)

def rank : Stopping → Nat
  | .history => 0 | .tasks _ => 1 | .entering => 2 | .closing => 3 | .scheduler => 4
  | .publishing => 5 | .publisher => 6 | .persistence => 7 | .database => 8

variable {s next : Shutdown Address}

-- No connection is desired when `stop` comes to its last transition.
def sound (s : Shutdown Address) : Event Address → Bool
  | .resume index => s.stopping[index]? ≠ some .scheduler || !s.state.desiredConnected
  | _ => true

-- Moreover, `start` and `stop` keep apart.
def met (s : Shutdown Address) : Event Address → Bool
  | .start _ => s.started || s.stopping.isEmpty
  | .stop => !s.started || s.starting = 0
  | event => s.sound event

structure Valid (state : ControllerState Address) : Prop where
  related : state.Related
  calm : state.phase = .stopped → state.desiredConnected = false

theorem transition_cases (valid : Valid s.state) (transition : Transition Address)
    (continues ends : Shutdown Address → Shutdown Address) :
    (∃ state, Valid state ∧ transition.run s.state = .ok state ∧
      s.transition transition continues ends = continues { s with state := state }) ∨
    ∃ error, transition = .serviceStopped ∧ s.state.desiredConnected = true ∧
      s.transition transition continues ends = ends { s with errors := s.errors ++ [error] } := by
  unfold Shutdown.transition
  cases done : transition.run s.state with
  | ok state => exact .inl ⟨state,⟨(Transition.run_related done valid.related).1,Transition.run_calm done⟩,rfl,rfl⟩
  | error error =>
    obtain ⟨last,desired⟩ := (Transition.run_fails valid.related valid.calm).mp ⟨error,done⟩
    exact .inr ⟨error,last,desired,rfl⟩

-- What the other coroutines do to the parts that `stop` has already taken down.
structure Quiets (s next : Shutdown Address) : Prop where
  managerTask : next.managerTask = s.managerTask
  runs : ∀ manager, next.runs manager = true → s.runs manager = true
  client : s.managing = false → s.client = none → next.client = none
  scheduler : next.scheduler = s.scheduler
  statePublisher : next.statePublisher = s.statePublisher
  persistence : next.persistence = s.persistence
  database : next.database = s.database

theorem managing_iff : s.managing = true ↔ ∃ manager, s.runs manager = true := by
  unfold managing runs
  rw [List.any_eq_true]
  constructor
  · rintro ⟨alive,member,running⟩
    obtain ⟨manager,found⟩ := List.getElem?_of_mem member
    exact ⟨manager,by rw [found]; exact running⟩
  · rintro ⟨manager,running⟩
    cases found : s.managers[manager]? with
    | none => rw [found] at running; cases running
    | some alive =>
      rw [found] at running
      exact ⟨alive,List.mem_of_getElem? found,running⟩

theorem Quiets.managing (quiets : Quiets s next) (ended : s.managing = false) : next.managing = false := by
  by_contra alive
  obtain ⟨manager,running⟩ := managing_iff.mp (Bool.of_not_eq_false alive)
  rw [managing_iff.mpr ⟨manager,quiets.runs manager running⟩] at ended
  cases ended

structure Idle (s : Shutdown Address) : Prop where
  managing : s.managing = false
  client : s.client = none
  scheduler : s.scheduler = false
  statePublisher : s.statePublisher = false
  persistence : s.persistence = false
  database : s.database = false

theorem Idle.quiets (idle : Idle s) (quiets : Quiets s next) : Idle next :=
  ⟨quiets.managing idle.managing,quiets.client idle.managing idle.client,quiets.scheduler.trans idle.scheduler,
    quiets.statePublisher.trans idle.statePublisher,quiets.persistence.trans idle.persistence,quiets.database.trans idle.database⟩

-- What `stop` has done when it waits at a stage.
structure Reached (s : Shutdown Address) (stage : Stopping) : Prop where
  tasks : ∀ manager, stage = .tasks manager → manager = s.managerTask
  managing : 2 ≤ rank stage → s.managing = false
  client : 3 ≤ rank stage → s.client = none
  scheduler : 5 ≤ rank stage → s.scheduler = false
  statePublisher : 7 ≤ rank stage → s.statePublisher = false
  persistence : 8 ≤ rank stage → s.persistence = false

theorem Reached.quiets (reached : Reached s stage) (quiets : Quiets s next) : Reached next stage where
  tasks manager waits := (reached.tasks manager waits).trans quiets.managerTask.symm
  managing late := quiets.managing (reached.managing late)
  client late := quiets.client (reached.managing (by omega)) (reached.client late)
  scheduler late := quiets.scheduler.trans (reached.scheduler late)
  statePublisher late := quiets.statePublisher.trans (reached.statePublisher late)
  persistence late := quiets.persistence.trans (reached.persistence late)

structure Orderly (s : Shutdown Address) : Prop where
  valid : Valid s.state
  errors : s.errors = []
  starting : s.starting = 0 ∨ s.started = true ∧ s.starting = 1 ∧ s.managing = false
  known : ∀ manager, s.runs manager = true → s.managerTask = some manager
  waits : s.stopping = [] ∨ ∃ stage, s.stopping = [stage] ∧ s.started = false ∧ s.starting = 0 ∧ Reached s stage
  idle : s.started = false → s.stopping = [] → Idle s
  lock : s.lifecycleLock = some .stop → s.stopping = [.closing]

theorem Orderly.quiets (orderly : Orderly s) (quiets : Quiets s next) (valid : Valid next.state) (errors : next.errors = s.errors)
    (started : next.started = s.started) (starting : next.starting = s.starting) (stopping : next.stopping = s.stopping)
    (lock : next.lifecycleLock = some .stop → s.lifecycleLock = some .stop) : Orderly next where
  valid := valid
  errors := errors.trans orderly.errors
  starting := by
    rw [starting,started]
    exact orderly.starting.imp_right fun ⟨started,once,ended⟩ => ⟨started,once,quiets.managing ended⟩
  known manager running := quiets.managerTask.trans (orderly.known manager (quiets.runs manager running))
  waits := by
    rw [stopping,started,starting]
    refine orderly.waits.imp_right ?_
    rintro ⟨stage,alone,ended,none,reached⟩
    exact ⟨stage,alone,ended,none,reached.quiets quiets⟩
  idle ended returned := (orderly.idle (started ▸ ended) (stopping ▸ returned)).quiets quiets
  lock held := stopping.trans (orderly.lock (lock held))

theorem Quiets.same (managers : next.managers = s.managers) (managerTask : next.managerTask = s.managerTask)
    (client : s.managing = false → s.client = none → next.client = none) (scheduler : next.scheduler = s.scheduler)
    (statePublisher : next.statePublisher = s.statePublisher) (persistence : next.persistence = s.persistence)
    (database : next.database = s.database) : Quiets s next := by
  refine ⟨managerTask,fun manager running => ?_,client,scheduler,statePublisher,persistence,database⟩
  rw [Shutdown.runs,managers] at running
  exact running

-- What follows when `stop` goes on from a stage.
structure Leads (s next : Shutdown Address) (stage : Stopping) : Prop where
  valid : Valid next.state
  errors : next.errors = s.errors
  started : next.started = s.started
  starting : next.starting = s.starting
  known : ∀ manager, next.runs manager = true → next.managerTask = some manager
  onward : (∃ later, next.stopping = [later] ∧ rank later = rank stage + 1 ∧ Reached next later) ∨
    stage = .database ∧ next.stopping = [] ∧ Idle next
  stopped : stage = .scheduler →
    next.state.phase = .stopped ∧ next.state.connected = false ∧ next.state.ready = false ∧ next.state.desiredConnected = false
  closed : stage = .entering → next.client = none ∧ ∀ client, s.client = some client → client ∈ next.closed
  lock : next.lifecycleLock = some .stop → next.stopping = [.closing]

theorem Orderly.managing (orderly : Orderly s) (ended : s.managerTask.any s.runs = false) : s.managing = false := by
  by_contra alive
  obtain ⟨manager,running⟩ := managing_iff.mp (Bool.of_not_eq_false alive)
  rw [orderly.known manager running,Option.any_some,running] at ended
  cases ended

theorem resume_leads (orderly : Orderly s) (alone : s.stopping = [stage]) (reached : Reached s stage)
    (undesired : stage = .scheduler → s.state.desiredConnected = false) (ran : s.resume 0 stage = some next) :
    Leads s next stage := by
  have valid := orderly.valid
  have known := orderly.known
  have only (later : Stopping) : s.stopping.set 0 later = [later] := by rw [alone]; rfl
  have none : s.stopping.eraseIdx 0 = [] := by rw [alone]; rfl
  have free (apart : stage ≠ .closing) (stopping : List Stopping) (held : s.lifecycleLock = some .stop) :
      stopping = [.closing] := by
    have closing := alone.symm.trans (orderly.lock held)
    exact absurd (List.head_eq_of_cons_eq closing) apart
  cases stage with
  | history =>
    cases Option.some.inj ran
    refine ⟨valid,rfl,rfl,rfl,known,.inl ⟨_,only _,rfl,?_⟩,nofun,nofun,free nofun _⟩
    refine ⟨?_,nofun,nofun,nofun,nofun,nofun⟩
    intro manager waits
    cases waits
    rfl
  | tasks manager =>
    obtain ⟨ended,same⟩ := Option.ite_none_left_eq_some.mp ran
    cases same
    rw [reached.tasks manager rfl] at ended
    have managing := orderly.managing (Bool.eq_false_iff.mpr ended)
    refine ⟨valid,rfl,rfl,rfl,?_,.inl ⟨_,only _,rfl,?_⟩,nofun,nofun,free nofun _⟩
    · intro other running
      have alive : s.managing = true := managing_iff.mpr ⟨other,running⟩
      rw [managing] at alive
      cases alive
    · exact ⟨nofun,fun _ => managing,nofun,nofun,nofun,nofun⟩
  | entering =>
    obtain ⟨_,same⟩ := Option.ite_none_left_eq_some.mp ran
    cases same
    refine ⟨valid,rfl,rfl,rfl,known,.inl ⟨_,only _,rfl,?_⟩,nofun,fun _ => ⟨rfl,?_⟩,fun _ => only _⟩
    · exact ⟨nofun,fun _ => reached.managing (by decide),fun _ => rfl,nofun,nofun,nofun⟩
    · intro client held
      exact List.mem_append_right _ (by rw [held]; exact List.mem_singleton_self client)
  | closing =>
    cases Option.some.inj ran
    refine ⟨valid,rfl,rfl,rfl,known,.inl ⟨_,only _,rfl,?_⟩,nofun,nofun,nofun⟩
    exact ⟨nofun,fun _ => reached.managing (by decide),fun _ => reached.client (by decide),nofun,nofun,nofun⟩
  | scheduler =>
    cases Option.some.inj ran
    rcases transition_cases (s := { s with scheduler := false }) valid .serviceStopped (·.wait 0 .publishing) (·.leave 0) with
      ⟨state,valid,done,same⟩ | ⟨_,_,desired,_⟩
    · rw [same]
      refine ⟨valid,rfl,rfl,rfl,known,.inl ⟨_,only _,rfl,?_⟩,fun _ => ?_,nofun,free nofun _⟩
      · exact ⟨nofun,fun _ => reached.managing (by decide),fun _ => reached.client (by decide),fun _ => rfl,nofun,nofun⟩
      · have calm := valid.calm
        rw [Controller.transitionState_ok done] at calm ⊢
        exact ⟨rfl,rfl,rfl,calm rfl⟩
    · rw [undesired rfl] at desired
      cases desired
  | publishing =>
    cases Option.some.inj ran
    refine ⟨valid,rfl,rfl,rfl,known,.inl ⟨_,only _,rfl,?_⟩,nofun,nofun,free nofun _⟩
    exact ⟨nofun,fun _ => reached.managing (by decide),fun _ => reached.client (by decide),
      fun _ => reached.scheduler (by decide),nofun,nofun⟩
  | publisher =>
    cases Option.some.inj ran
    refine ⟨valid,rfl,rfl,rfl,known,.inl ⟨_,only _,rfl,?_⟩,nofun,nofun,free nofun _⟩
    exact ⟨nofun,fun _ => reached.managing (by decide),fun _ => reached.client (by decide),
      fun _ => reached.scheduler (by decide),fun _ => rfl,nofun⟩
  | persistence =>
    cases Option.some.inj ran
    refine ⟨valid,rfl,rfl,rfl,known,.inl ⟨_,only _,rfl,?_⟩,nofun,nofun,free nofun _⟩
    exact ⟨nofun,fun _ => reached.managing (by decide),fun _ => reached.client (by decide),
      fun _ => reached.scheduler (by decide),fun _ => reached.statePublisher (by decide),fun _ => rfl⟩
  | database =>
    cases Option.some.inj ran
    refine ⟨valid,rfl,rfl,rfl,known,.inr ⟨rfl,none,?_⟩,nofun,nofun,free nofun _⟩
    exact ⟨reached.managing (by decide),reached.client (by decide),reached.scheduler (by decide),
      reached.statePublisher (by decide),reached.persistence (by decide),rfl⟩

theorem start_orderly (orderly : Orderly s) (autoDiscover : Bool) (alone : s.met (.start autoDiscover) = true)
    (ran : step s (.start autoDiscover) = some next) : Orderly next := by
  simp only [step] at ran
  split at ran
  · cases Option.some.inj ran
    exact orderly
  · rename_i stopped
    have ended : s.started = false := Bool.eq_false_iff.mpr stopped
    have returned : s.stopping = [] := by simpa [met,ended] using alone
    have idle := orderly.idle ended returned
    have none : s.starting = 0 := by
      refine orderly.starting.resolve_right fun running => ?_
      rw [ended] at running
      cases running.1
    rcases transition_cases (s := { s with started := true }) orderly.valid (.serviceStarted autoDiscover)
        (fun s => { s with starting := s.starting + 1, database := true }) id with ⟨state,valid,_,same⟩ | ⟨_,other,_⟩
    · rw [same] at ran
      cases Option.some.inj ran
      exact ⟨valid,orderly.errors,.inr ⟨rfl,congrArg (· + 1) none,idle.managing⟩,orderly.known,.inl returned,nofun,orderly.lock⟩
    · cases other

theorem databaseStarted_orderly (orderly : Orderly s) (ran : step s .databaseStarted = some next) : Orderly next := by
  obtain ⟨some,same⟩ := Option.ite_none_left_eq_some.mp ran
  cases same
  obtain ⟨started,once,ended⟩ := orderly.starting.resolve_left some
  have returned : s.stopping = [] := by
    refine orderly.waits.resolve_right ?_
    rintro ⟨_,_,_,none,_⟩
    exact some none
  refine ⟨orderly.valid,orderly.errors,.inl ?_,?_,.inl returned,fun stopped => ?_,orderly.lock⟩
  · exact congrArg (· - 1) once
  · intro manager running
    have found : (s.managers ++ [true])[manager]?.getD false = true := running
    rcases Nat.lt_or_ge manager s.managers.length with old | new
    · rw [List.getElem?_append_left old] at found
      have alive : s.managing = true := managing_iff.mpr ⟨manager,found⟩
      rw [ended] at alive
      cases alive
    · rcases Nat.lt_or_ge s.managers.length manager with beyond | last
      · rw [List.getElem?_eq_none (by rw [List.length_append]; exact beyond)] at found
        cases found
      · exact congrArg Option.some (Nat.le_antisymm new last)
  · rw [started] at stopped
    cases stopped

theorem stop_orderly (orderly : Orderly s) (alone : s.met .stop = true) (ran : step s .stop = some next) : Orderly next := by
  simp only [step] at ran
  split at ran
  · rename_i started
    have none : s.starting = 0 := by simpa [met,started] using alone
    have returned : s.stopping = [] := by
      refine orderly.waits.resolve_right ?_
      rintro ⟨_,_,ended,_⟩
      rw [started] at ended
      cases ended
    rcases transition_cases (s := { s with started := false }) orderly.valid .serviceStopping (·.suspend .history) id with
      ⟨state,valid,_,same⟩ | ⟨_,other,_⟩
    · rw [same] at ran
      cases Option.some.inj ran
      refine ⟨valid,orderly.errors,.inl none,orderly.known,.inr ⟨.history,?_,rfl,none,?_⟩,fun _ empty => ?_,fun held => ?_⟩
      · exact congrArg (· ++ [Stopping.history]) returned
      · exact ⟨nofun,nofun,nofun,nofun,nofun,nofun⟩
      · exact absurd empty (List.append_ne_nil_of_right_ne_nil _ (List.cons_ne_nil _ _))
      · have closing := returned.symm.trans (orderly.lock held)
        cases closing
    · cases other
  · cases Option.some.inj ran
    exact orderly

theorem resume_alone (orderly : Orderly s) {index : Nat} (present : s.stopping[index]? = some stage) :
    index = 0 ∧ s.stopping = [stage] ∧ s.started = false ∧ s.starting = 0 ∧ Reached s stage := by
  rcases orderly.waits with none | ⟨only,alone,ended,idle,reached⟩
  · rw [none] at present
    cases present
  · rw [alone] at present
    obtain ⟨bound,same⟩ := List.getElem?_eq_some_iff.mp present
    have first : index = 0 := by simpa using bound
    subst first
    cases same
    exact ⟨rfl,alone,ended,idle,reached⟩

theorem met_resume {index : Nat} (alone : s.met (.resume index) = true) (present : s.stopping[index]? = some stage) :
    stage = .scheduler → s.state.desiredConnected = false := by
  rintro rfl
  simpa [met,Shutdown.sound,present] using alone

theorem step_leads (orderly : Orderly s) {index : Nat} (alone : s.met (.resume index) = true)
    (present : s.stopping[index]? = some stage) (ran : step s (.resume index) = some next) : Leads s next stage := by
  obtain ⟨rfl,only,_,_,reached⟩ := resume_alone orderly present
  obtain ⟨same,found,resumed⟩ := Option.bind_eq_some_iff.mp ran
  rw [present] at found
  cases Option.some.inj found
  exact resume_leads orderly only reached (met_resume alone present) resumed

theorem resume_orderly (orderly : Orderly s) {index : Nat} (alone : s.met (.resume index) = true)
    (ran : step s (.resume index) = some next) : Orderly next := by
  obtain ⟨stage,present,_⟩ := Option.bind_eq_some_iff.mp ran
  obtain ⟨_,_,ended,none,_⟩ := resume_alone orderly present
  have leads := step_leads orderly alone present ran
  have started := leads.started.trans ended
  have starting := leads.starting.trans none
  refine ⟨leads.valid,leads.errors.trans orderly.errors,.inl starting,leads.known,?_,fun _ returned => ?_,leads.lock⟩
  · rcases leads.onward with ⟨later,waits,_,reached⟩ | ⟨_,returned,_⟩
    · exact .inr ⟨later,waits,started,starting,reached⟩
    · exact .inl returned
  · rcases leads.onward with ⟨later,waits,_⟩ | ⟨_,_,idle⟩
    · rw [waits] at returned
      cases returned
    · exact idle

theorem step_orderly {event : Event Address} (orderly : Orderly s) (alone : s.met event = true)
    (ran : step s event = some next) : Orderly next := by
  have stays : s.managing = false → s.client = none → s.client = none := fun _ => id
  cases event with
  | start autoDiscover => exact start_orderly orderly autoDiscover alone ran
  | databaseStarted => exact databaseStarted_orderly orderly ran
  | stop => exact stop_orderly orderly alone ran
  | resume index => exact resume_orderly orderly alone ran
  | transition transition =>
    obtain ⟨other,same⟩ := Option.ite_none_right_eq_some.mp ran
    cases same
    rcases transition_cases orderly.valid transition id id with ⟨state,valid,_,same⟩ | ⟨_,rfl,_⟩
    · rw [same]
      exact orderly.quiets (.same rfl rfl stays rfl rfl rfl rfl) valid rfl rfl rfl rfl id
    · cases other
  | managerEnded manager =>
    cases Option.some.inj ran
    refine orderly.quiets ⟨rfl,fun other running => ?_,stays,rfl,rfl,rfl,rfl⟩ orderly.valid rfl rfl rfl rfl id
    have found : (s.managers.set manager false)[other]?.getD false = true := running
    by_cases here : manager = other
    · subst here
      rw [List.getElem?_set_self'] at found
      cases present : s.managers[manager]? <;> rw [present] at found <;> cases found
    · rw [List.getElem?_set_ne here] at found
      exact found
  | lockTaken closes =>
    obtain ⟨_,same⟩ := Option.ite_none_left_eq_some.mp ran
    cases same
    cases closes with
    | false => exact orderly.quiets (.same rfl rfl stays rfl rfl rfl rfl) orderly.valid rfl rfl rfl rfl nofun
    | true => exact orderly.quiets (.same rfl rfl (fun _ _ => rfl) rfl rfl rfl rfl) orderly.valid rfl rfl rfl rfl nofun
  | lockReleased =>
    obtain ⟨_,same⟩ := Option.ite_none_right_eq_some.mp ran
    cases same
    exact orderly.quiets (.same rfl rfl stays rfl rfl rfl rfl) orderly.valid rfl rfl rfl rfl nofun
  | clientAdopted client =>
    obtain ⟨adopts,same⟩ := Option.ite_none_right_eq_some.mp ran
    cases same
    refine orderly.quiets (.same rfl rfl (fun ended _ => ?_) rfl rfl rfl rfl) orderly.valid rfl rfl rfl rfl id
    rw [ended] at adopts
    cases adopts
  | clientDropped =>
    obtain ⟨_,same⟩ := Option.ite_none_right_eq_some.mp ran
    cases same
    exact orderly.quiets (.same rfl rfl (fun _ _ => rfl) rfl rfl rfl rfl) orderly.valid rfl rfl rfl rfl id

theorem created_orderly : Orderly (created : Shutdown Address) := by
  refine ⟨⟨Controller.ControllerState.related_created,fun _ => rfl⟩,rfl,.inl rfl,?_,.inl rfl,fun _ _ => ⟨rfl,rfl,rfl,rfl,rfl,rfl⟩,nofun⟩
  intro manager running
  cases running

theorem run_orderly (path : Path step (fun s event => s.met event = true) created trace s) : Orderly s :=
  path.invariant Orderly created_orderly fun _ _ _ orderly alone ran => step_orderly orderly alone ran

-- In every run: the errors are those of `stop` and nobody else's.
structure Accounts (s : Shutdown Address) (event : Event Address) (next : Shutdown Address) : Prop where
  valid : Valid next.state
  sound : s.sound event = true → next.errors = s.errors
  failed : s.sound event = false → next.errors ≠ []

theorem Accounts.silent {event : Event Address} (valid : Valid next.state) (errors : next.errors = s.errors)
    (sound : s.sound event = true) : Accounts s event next := by
  refine ⟨valid,fun _ => errors,fun failed => ?_⟩
  rw [sound] at failed
  cases failed

theorem transition_accounts {event : Event Address} (valid : Valid s.state) (transition : Transition Address)
    (other : transition ≠ .serviceStopped) (sound : s.sound event = true) {before : Shutdown Address}
    (state : before.state = s.state) (errors : before.errors = s.errors) {continues : Shutdown Address → Shutdown Address}
    (same : ∀ s, (continues s).state = s.state ∧ (continues s).errors = s.errors) :
    Accounts s event (before.transition transition continues id) := by
  rcases transition_cases (s := before) (state ▸ valid) transition continues id with ⟨_,valid,_,reached⟩ | ⟨_,last,_⟩
  · rw [reached]
    refine .silent ?_ ((same _).2.trans errors) sound
    rw [(same _).1]
    exact valid
  · exact absurd last other

theorem resume_accounts (valid : Valid s.state) {index : Nat} (present : s.stopping[index]? = some stage)
    (ran : s.resume index stage = some next) : Accounts s (.resume index) next := by
  have sound (early : stage ≠ .scheduler) : s.sound (.resume index) = true := by simp [Shutdown.sound,present,early]
  cases stage with
  | history | closing | publishing | publisher | persistence | database =>
    cases Option.some.inj ran
    exact .silent valid rfl (sound nofun)
  | tasks | entering =>
    obtain ⟨_,same⟩ := Option.ite_none_left_eq_some.mp ran
    cases same
    exact .silent valid rfl (sound nofun)
  | scheduler =>
    cases Option.some.inj ran
    unfold Shutdown.transition
    cases done : Transition.serviceStopped.run s.state with
    | ok state =>
      refine ⟨⟨(Transition.run_related done valid.related).1,Transition.run_calm done⟩,fun _ => rfl,fun failed => ?_⟩
      have desired : s.state.desiredConnected = true := by simpa [Shutdown.sound,present] using failed
      obtain ⟨error,raised⟩ := (Transition.run_fails valid.related valid.calm).mpr ⟨rfl,desired⟩
      rw [done] at raised
      cases raised
    | error error =>
      refine ⟨valid,fun sound => ?_,fun _ => List.append_ne_nil_of_right_ne_nil _ (List.cons_ne_nil _ _)⟩
      have desired := ((Transition.run_fails valid.related valid.calm).mp ⟨error,done⟩).2
      simp [Shutdown.sound,present,desired] at sound

theorem step_accounts {event : Event Address} (valid : Valid s.state) (ran : step s event = some next) : Accounts s event next := by
  cases event with
  | start autoDiscover =>
    simp only [step] at ran
    split at ran <;> cases Option.some.inj ran
    · exact .silent valid rfl rfl
    · refine transition_accounts valid (.serviceStarted autoDiscover) ?_ rfl ?_ ?_ fun _ => ⟨rfl,rfl⟩
      · rintro ⟨⟩
      · rfl
      · rfl
  | stop =>
    simp only [step] at ran
    split at ran <;> cases Option.some.inj ran
    · refine transition_accounts valid .serviceStopping ?_ rfl ?_ ?_ fun _ => ⟨rfl,rfl⟩
      · rintro ⟨⟩
      · rfl
      · rfl
    · exact .silent valid rfl rfl
  | transition transition =>
    obtain ⟨other,same⟩ := Option.ite_none_right_eq_some.mp ran
    cases same
    refine transition_accounts valid transition ?_ rfl rfl rfl fun _ => ⟨rfl,rfl⟩
    rintro rfl
    cases other
  | resume index =>
    obtain ⟨stage,present,resumed⟩ := Option.bind_eq_some_iff.mp ran
    exact resume_accounts valid present resumed
  | managerEnded manager =>
    cases Option.some.inj ran
    exact .silent valid rfl rfl
  | databaseStarted =>
    obtain ⟨_,same⟩ := Option.ite_none_left_eq_some.mp ran
    cases same
    exact .silent valid rfl rfl
  | lockTaken closes =>
    obtain ⟨_,same⟩ := Option.ite_none_left_eq_some.mp ran
    cases same
    cases closes <;> exact .silent valid rfl rfl
  | lockReleased | clientAdopted | clientDropped =>
    obtain ⟨_,same⟩ := Option.ite_none_right_eq_some.mp ran
    cases same
    exact .silent valid rfl rfl

theorem errors_iff (path : Path step anyStep created trace s) :
    Valid s.state ∧ (s.errors = [] ↔ ∀ entry ∈ trace, entry.1.sound entry.2 = true) := by
  induction path with
  | nil => exact ⟨⟨Controller.ControllerState.related_created,fun _ => rfl⟩,fun _ _ member => (List.not_mem_nil member).elim,fun _ => rfl⟩
  | @snoc trace s event next _ _ ran ih =>
    obtain ⟨valid,before⟩ := ih
    have accounts := step_accounts valid ran
    refine ⟨accounts.valid,?_⟩
    simp only [List.forall_mem_append,List.forall_mem_singleton]
    cases sound : s.sound event with
    | true => simpa only [accounts.sound sound,and_true] using before
    | false => exact ⟨fun none => absurd none (accounts.failed sound),fun all => absurd all.2 Bool.false_ne_true⟩

-- `stop` waits for the end of the manager and for the lock, and for nothing that another
-- coroutine could refuse.
theorem resume_waits (alone : s.stopping[index]? = some stage) (waits : step s (.resume index) = none) :
    (∃ manager, stage = .tasks (some manager) ∧ s.runs manager = true) ∨ stage = .entering ∧ s.lifecycleLock.isSome = true := by
  have resumed : s.resume index stage = none := by
    simp only [step,alone] at waits
    exact waits
  cases stage with
  | tasks manager =>
    simp only [resume] at resumed
    split at resumed
    · rename_i running
      cases manager with
      | none => cases running
      | some manager => exact .inl ⟨manager,rfl,running⟩
    · cases resumed
  | entering =>
    simp only [resume] at resumed
    split at resumed
    · exact .inr ⟨rfl,‹_›⟩
    · cases resumed
  | _ => cases resumed

-- While nobody desires a connection when `stop` comes to its last transition, and `start` and
-- `stop` keep apart, `stop` takes down one part after the other.
theorem stop_completes (path : Path step anyStep (created : Shutdown Address) trace s) :
    (s.errors = [] ↔ ∀ entry ∈ trace, entry.1.sound entry.2 = true) ∧
    ((∀ entry ∈ trace, entry.1.met entry.2 = true) → ∀ (index : Nat) stage, s.stopping[index]? = some stage →
      s.met (.resume index) = true →
      (step s (.resume index) = none →
        (∃ manager, stage = .tasks (some manager) ∧ s.runs manager = true) ∨
        stage = .entering ∧ s.lifecycleLock = some .other) ∧
      ∀ next, step s (.resume index) = some next →
        next.errors = [] ∧
        ((∃ later, next.stopping = [later] ∧ rank later = rank stage + 1) ∨
          stage = .database ∧ next.stopping = [] ∧ Idle next) ∧
        (stage = .entering → next.client = none ∧ ∀ client, s.client = some client → client ∈ next.closed) ∧
        (stage = .scheduler → next.state.phase = .stopped ∧ next.state.connected = false ∧
          next.state.ready = false ∧ next.state.desiredConnected = false)) := by
  refine ⟨(errors_iff path).2,fun conditions index stage present alone => ?_⟩
  have orderly : Orderly s :=
    run_orderly (path.recorded.weaken fun _ _ taken => conditions _ taken.2)
  refine ⟨fun waits => ?_,fun next ran => ?_⟩
  · rcases resume_waits present waits with running | ⟨rfl,held⟩
    · exact .inl running
    · obtain ⟨holder,same⟩ := Option.isSome_iff_exists.mp held
      cases holder with
      | other => exact .inr ⟨rfl,same⟩
      | stop =>
        have closing := (resume_alone orderly present).2.1.symm.trans (orderly.lock same)
        cases closing
  · have leads := step_leads orderly alone present ran
    refine ⟨leads.errors.trans orderly.errors,?_,leads.closed,leads.stopped⟩
    exact leads.onward.imp_left fun ⟨later,waits,next,_⟩ => ⟨later,waits,next⟩

-- A service that is stopped while it is connected.
theorem stop_completes_connected :
    ∃ s next : Shutdown Nat, s.stopping = [.database] ∧ step s (.resume 0) = some next ∧ next.errors = [] ∧
      next.state.phase = .stopped ∧ next.closed = [0] := by
  have passed : (run (guarded step met) (created : Shutdown Nat)
      [.start false,.databaseStarted,.transition (.connectionRequested 1),.lockTaken false,.transition .transportOpening,
        .clientAdopted 0,.transition .protocolVerifying,.lockReleased,.transition (.verified 1),.stop,.resume 0,
        .managerEnded 0,.resume 0,.resume 0,.resume 0,.resume 0,.resume 0,.resume 0,.resume 0]).any (fun s =>
          s.stopping = [.database] ∧ s.met (.resume 0) ∧
            (step s (.resume 0)).any (fun next => next.state.phase = .stopped ∧ next.closed = [0])) = true := by
    decide +kernel
  obtain ⟨trace,s,path,checked⟩ := guarded_checked passed
  obtain ⟨last,alone,ended⟩ := of_decide_eq_true checked
  obtain ⟨next,ran,closed⟩ := (Option.any_eq_true _ _).mp ended
  have present : s.stopping[0]? = some .database := by rw [last]; rfl
  have completes := (stop_completes path.unrestricted).2 path.all_allowed 0 .database present alone
  exact ⟨s,next,last,ran,(completes.2 next ran).1,of_decide_eq_true closed⟩

-- A `connect` while `stop` waits: its last transition fails, and `stop` leaves the worker and
-- the adapter running. Another `stop` finds the service stopped.
theorem stop_fails_connecting :
    ∃ trace s, Path step anyStep (created : Shutdown Nat) trace s ∧ s.stopping = [] ∧ s.started = false ∧
      s.errors = ["a stopped service cannot request a connection"] ∧ s.state.phase = .pairing ∧
      s.persistence = true ∧ s.database = true := by
  have passed : (run step (created : Shutdown Nat)
      [.start false,.databaseStarted,.stop,.transition (.connectionRequested 1),.resume 0,.managerEnded 0,.resume 0,
        .resume 0,.resume 0,.resume 0]).any (fun s =>
          s.stopping = [] ∧ s.started = false ∧ s.errors = ["a stopped service cannot request a connection"] ∧
            s.state.phase = .pairing ∧ s.persistence = true ∧ s.database = true) = true := by
    decide +kernel
  obtain ⟨trace,s,path,checked⟩ := run_checked passed
  exact ⟨trace,s,path,of_decide_eq_true checked⟩

end Shutdown

end Thermometer.Service
