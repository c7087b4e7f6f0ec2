import Thermometer.Client.BleScheduler
import Thermometer.Client.PersistenceQueue

-- What ends the two worker tasks before `stop` is called: a cancellation that comes out
-- of an action is taken for one of the worker.
namespace Thermometer

namespace Client.BleRequestScheduler
open Execution

variable {α : Type} {s next : BleRequestScheduler α} {event : SchedulerEvent α}

def Alive (s : BleRequestScheduler α) : Prop := s.worker = .waiting ∨ ∃ request, s.worker = .running request

def turn : SchedulerEvent α → Bool
  | .pick | .finish _ | .raise _ => true
  | _ => false

def Serves (s : BleRequestScheduler α) : Prop :=
  ∀ n < s.sequence, ∃ trace next, Path step (fun _ event => turn event) s trace next ∧ (next.futures n).isSome

def stopping : SchedulerEvent α → Bool
  | .stop _ => true
  | _ => false

structure Unstopped (s : BleRequestScheduler α) : Prop where
  sound : Sound s
  undisturbed : s.cancelRequested = false
  idle : s.stops = []

def ownCancellation : SchedulerEvent α → Bool
  | .actionCancelled => true
  | _ => false

theorem Alive.kept (alive : Alive s) (same : next.worker = s.worker) : Alive next := by
  unfold Alive
  rw [same]
  exact alive

theorem pick_alive (alive : Alive s) (picked : s.pick = some next) :
    Alive next ∧ next.cancelRequested = s.cancelRequested ∧ next.stops = s.stops := by
  obtain ⟨request,_,⟨_,rfl⟩ | ⟨_,_,rfl⟩ | ⟨_,_,rfl⟩⟩ := pick_cases picked
  · exact ⟨alive.kept rfl,rfl,rfl⟩
  · exact ⟨alive.kept rfl,rfl,rfl⟩
  · exact ⟨.inr ⟨request,rfl⟩,rfl,rfl⟩

theorem actionDone_alive (done : s.actionDone resolution = some next) :
    Alive next ∧ next.cancelRequested = s.cancelRequested ∧ next.stops = s.stops := by
  unfold actionDone at done
  split at done
  · split at done
    · cases done
    · cases done
      exact ⟨.inl rfl,rfl,rfl⟩
  · cases done

theorem actionCancelled_ends (done : s.actionCancelled = some next) :
    next.worker = .ended ∧ next.cancelRequested = false ∧ next.stops = s.stops := by
  unfold actionCancelled at done
  split at done
  · cases done
    exact ⟨rfl,rfl,rfl⟩
  · cases done

theorem start_quiet (started : s.start = some next) (quiet : s.cancelRequested = false) :
    next.cancelRequested = false ∧ next.stops = s.stops := by
  unfold start at started
  split at started
  · split at started
    · cases started
      exact ⟨rfl,rfl⟩
    · cases started
  · cases started
    exact ⟨quiet,rfl⟩

theorem start_kept (alive : Alive s) (started : s.start = some next) : next = s := by
  unfold start at started
  split at started
  · rename_i gone
    rcases alive with waiting | ⟨request,running⟩ <;> rcases gone with absent | ended <;> simp_all
  · exact (Option.some.inj started).symm

theorem Unstopped.worker (unstopped : Unstopped s) (free : stopping event = false) (stepped : s.step event = some next) :
    next.cancelRequested = false ∧ next.stops = [] ∧ (Alive s → (Alive next ↔ ownCancellation event = false)) := by
  have quiet := unstopped.undisturbed
  have none := unstopped.idle
  cases event with
  | submit priority =>
    cases stepped
    unfold BleRequestScheduler.submit
    split
    · exact ⟨quiet,none,fun alive => iff_of_true (alive.kept rfl) rfl⟩
    · exact ⟨quiet,none,fun alive => iff_of_true alive rfl⟩
  | giveUp number =>
    dsimp only [BleRequestScheduler.step] at stepped
    split at stepped
    · cases stepped
      exact ⟨quiet,none,fun alive => iff_of_true (alive.kept rfl) rfl⟩
    · cases stepped
  | setReady ready =>
    cases stepped
    exact ⟨quiet,none,fun alive => iff_of_true (alive.kept rfl) rfl⟩
  | pick =>
    dsimp only [BleRequestScheduler.step] at stepped
    split at stepped
    · rename_i free
      obtain ⟨alive,same,kept⟩ := pick_alive (.inl free.1) stepped
      exact ⟨same.trans quiet,kept.trans none,fun _ => iff_of_true alive rfl⟩
    · cases stepped
  | finish value =>
    obtain ⟨alive,same,kept⟩ := actionDone_alive stepped
    exact ⟨same.trans quiet,kept.trans none,fun _ => iff_of_true alive rfl⟩
  | raise message =>
    obtain ⟨alive,same,kept⟩ := actionDone_alive stepped
    exact ⟨same.trans quiet,kept.trans none,fun _ => iff_of_true alive rfl⟩
  | actionCancelled =>
    obtain ⟨ended,same,kept⟩ := actionCancelled_ends stepped
    refine ⟨same,kept.trans none,fun _ => iff_of_false ?_ nofun⟩
    rintro (waiting | ⟨request,running⟩)
    · rw [ended] at waiting
      cases waiting
    · rw [ended] at running
      cases running
  | cancellationCaught =>
    dsimp only [BleRequestScheduler.step] at stepped
    split at stepped
    · rw [quiet] at stepped
      cases stepped
    · cases stepped
  | workerCancelled =>
    dsimp only [BleRequestScheduler.step] at stepped
    rw [quiet] at stepped
    simp at stepped
  | start =>
    obtain ⟨same,kept⟩ := start_quiet stepped quiet
    refine ⟨same,kept.trans none,fun alive => ?_⟩
    rw [start_kept alive stepped]
    exact iff_of_true alive rfl
  | stop error => cases free
  | stopped error =>
    obtain ⟨⟨member,_⟩,_⟩ := Option.ite_none_right_eq_some.mp stepped
    rw [none] at member
    cases member

theorem Unstopped.step (unstopped : Unstopped s) (free : stopping event = false) (stepped : s.step event = some next) :
    Unstopped next :=
  ⟨unstopped.sound.step stepped,(unstopped.worker free stepped).1,(unstopped.worker free stepped).2.1⟩

theorem Unstopped.ends (unstopped : Unstopped s) (running : s.worker = .running request) :
    ∃ next, s.step (.raise "") = some next ∧ Unstopped next ∧ next.worker = .waiting ∧ next.sequence = s.sequence ∧
      next.queue = s.queue := by
  have done : s.step (.raise "") = some { s.resolve request.sequence (.exception "") with worker := .waiting } := by
    simp [BleRequestScheduler.step,actionDone,running,unstopped.undisturbed]
  exact ⟨_,done,unstopped.step rfl done,rfl,rfl,rfl⟩

theorem Unstopped.turns (unstopped : Unstopped s) (waiting : s.worker = .waiting) (filled : s.queue ≠ []) :
    ∃ trace next, Path BleRequestScheduler.step (fun _ event => turn event) s trace next ∧ Unstopped next ∧
      next.worker = .waiting ∧ next.sequence = s.sequence ∧ next.queue.length < s.queue.length := by
  cases chosen : least s.queue with
  | none => exact absurd (least_none chosen) filled
  | some request =>
    have among := (least_before chosen).1
    have shorter : (s.queue.erase request).length < s.queue.length := by
      rw [List.length_erase_of_mem among]
      exact Nat.sub_lt (List.length_pos_of_mem among) Nat.one_pos
    have stepped : s.step .pick = s.pick := if_pos ⟨waiting,by simp [unstopped.undisturbed]⟩
    obtain ⟨middle,picked⟩ : ∃ middle, s.pick = some middle := by
      simp only [pick,chosen,Option.bind_eq_bind,Option.bind_some]
      split
      · exact ⟨_,rfl⟩
      · split <;> exact ⟨_,rfl⟩
    have path := Path.snoc (.nil : Path BleRequestScheduler.step (fun _ event => turn event) s [] s) rfl (stepped.trans picked)
    have later := unstopped.step rfl (stepped.trans picked)
    obtain ⟨other,same,ends⟩ := pick_cases picked
    cases chosen.symm.trans same
    rcases ends with ⟨_,rfl⟩ | ⟨_,_,rfl⟩ | ⟨_,_,rfl⟩
    · exact ⟨_,_,path,later,waiting,rfl,shorter⟩
    · exact ⟨_,_,path,later,waiting,rfl,shorter⟩
    · obtain ⟨next,raised,after,free,sequence,queue⟩ := later.ends rfl
      exact ⟨_,next,path.snoc rfl raised,after,free,sequence,queue ▸ shorter⟩

theorem Unstopped.serves_waiting (unstopped : Unstopped s) (waiting : s.worker = .waiting) : Serves s := by
  intro n below
  generalize size : s.queue.length = length
  induction length using Nat.strongRecOn generalizing s with
  | ind length ih =>
    cases pending : s.futures n with
    | some outcome => exact ⟨[],s,.nil,by simp [pending]⟩
    | none =>
      -- A pending request is queued, since none runs.
      have queued : s.queue ≠ [] := by
        intro empty
        rcases unstopped.sound.held n below pending with member | ⟨request,running,_⟩
        · simp [numbers,empty] at member
        · rw [waiting] at running
          cases running
      obtain ⟨first,middle,path,later,free,same,shorter⟩ := unstopped.turns waiting queued
      obtain ⟨rest,final,more,resolved⟩ := ih _ (size ▸ shorter) later free (same ▸ below) rfl
      exact ⟨first ++ rest,final,path.append more,resolved⟩

theorem Unstopped.serves (unstopped : Unstopped s) (alive : Alive s) : Serves s := by
  rcases alive with waiting | ⟨request,running⟩
  · exact unstopped.serves_waiting waiting
  · intro n below
    obtain ⟨middle,raised,later,free,sequence,_⟩ := unstopped.ends running
    obtain ⟨rest,final,more,resolved⟩ := later.serves_waiting free n (sequence ▸ below)
    have first := Path.snoc (.nil : Path BleRequestScheduler.step (fun _ event => turn event) s [] s) rfl raised
    exact ⟨_,final,first.append more,resolved⟩

theorem ended_stuck (ended : s.worker = .ended) (path : Path step (fun _ event => turn event) s trace next) : next = s := by
  refine path.invariant (· = s) rfl ?_
  rintro _ event later rfl turns stepped
  cases event with
  | pick => simp [step,ended] at stepped
  | finish value => simp [step,actionDone,ended] at stepped
  | raise message => simp [step,actionDone,ended] at stepped
  | _ => cases turns

theorem survives (path : Path step (fun _ event => stopping event = false) first trace s) (unstopped : Unstopped first)
    (alive : Alive first) : (∀ entry ∈ trace, Alive entry.1 ∧ Serves entry.1) ∧ Alive s ∧ Serves s ↔
      ∀ entry ∈ trace, ownCancellation entry.2 = false := by
  have each (s : BleRequestScheduler α) (event : SchedulerEvent α) (next : BleRequestScheduler α) (before : Unstopped s)
      (here : Alive s ∧ Serves s) (free : stopping event = false) (stepped : s.step event = some next) :
      Alive next ∧ Serves next ↔ ownCancellation event = false := by
    rw [← (before.worker free stepped).2.2 here.1]
    exact ⟨And.left,fun kept => ⟨kept,(before.step free stepped).serves kept⟩⟩
  exact (path.everywhere unstopped ⟨alive,unstopped.serves alive⟩
    (fun _ _ _ before free stepped => before.step free stepped) each).2

end Client.BleRequestScheduler

namespace PersistenceQueue.PersistenceWorker
open Execution Promises

variable {α : Type} {s next : PersistenceWorker α} {event : WorkerEvent α}

def Alive (s : PersistenceWorker α) : Prop := s.task = .waiting ∨ ∃ request, s.task = .executing request

def turn : WorkerEvent α → Bool
  | .take | .result _ | .exception _ _ => true
  | _ => false

def Serves (s : PersistenceWorker α) : Prop :=
  ∀ n < s.created, ∃ trace next, Path step (fun _ event => turn event) s trace next ∧ (next.futures n).isSome

def stopping : WorkerEvent α → Bool
  | .stop => true
  | _ => false

structure Unstopped (s : PersistenceWorker α) : Prop where
  sound : Sound s
  undisturbed : s.cancelRequested = false
  nobody : s.joining = 0 ∧ s.gathering = 0

def ownCancellation : WorkerEvent α → Bool
  | .cancelledError => true
  | _ => false

theorem Alive.kept (alive : Alive s) (same : next.task = s.task) : Alive next := by
  unfold Alive
  rw [same]
  exact alive

theorem callEnded_alive (done : s.callEnded outcome = some next) :
    Alive next ∧ next.cancelRequested = false ∧ next.joining = s.joining ∧ next.gathering = s.gathering := by
  obtain ⟨request,_,rfl⟩ := callEnded_cases done
  exact ⟨.inl rfl,rfl,rfl,rfl⟩

theorem callCancelled_ends (done : s.callCancelled = some next) :
    next.task = .ended ∧ next.cancelRequested = false ∧ next.joining = s.joining ∧ next.gathering = s.gathering := by
  unfold callCancelled at done
  split at done
  · cases done
    exact ⟨rfl,rfl,rfl,rfl⟩
  · cases done

theorem take_alive (taken : s.take = some next) :
    Alive next ∧ next.cancelRequested = s.cancelRequested ∧ next.joining = s.joining ∧ next.gathering = s.gathering := by
  unfold take at taken
  split at taken
  · rename_i request _ _ _
    split at taken
    · cases taken
    · cases taken
      exact ⟨.inr ⟨request,rfl⟩,rfl,rfl,rfl⟩
  · cases taken

theorem start_quiet (started : s.start = some next) (quiet : s.cancelRequested = false) :
    next.cancelRequested = false ∧ next.joining = s.joining ∧ next.gathering = s.gathering ∧ (Alive s → next = s) := by
  unfold start at started
  split at started
  · rename_i absent
    split at started
    · cases started
      refine ⟨rfl,rfl,rfl,?_⟩
      rintro (waiting | ⟨request,executing⟩)
      · cases absent.symm.trans waiting
      · cases absent.symm.trans executing
    · cases started
  · rename_i ended
    split at started
    · cases started
      refine ⟨rfl,rfl,rfl,?_⟩
      rintro (waiting | ⟨request,executing⟩)
      · cases ended.symm.trans waiting
      · cases ended.symm.trans executing
    · cases started
  · cases started
    exact ⟨quiet,rfl,rfl,fun _ => rfl⟩

theorem Unstopped.worker (unstopped : Unstopped s) (free : stopping event = false) (stepped : s.step event = some next) :
    next.cancelRequested = false ∧ (next.joining = 0 ∧ next.gathering = 0) ∧
      (Alive s → (Alive next ↔ ownCancellation event = false)) := by
  have quiet := unstopped.undisturbed
  obtain ⟨flushed,gathered⟩ := unstopped.nobody
  cases event with
  | enqueue methodName value =>
    cases stepped
    unfold enqueue
    split <;> exact ⟨quiet,⟨flushed,gathered⟩,fun alive => iff_of_true (alive.kept rfl) rfl⟩
  | cancelFuture n =>
    dsimp only [PersistenceWorker.step] at stepped
    split at stepped
    · cases stepped
      exact ⟨quiet,⟨flushed,gathered⟩,fun alive => iff_of_true (alive.kept rfl) rfl⟩
    · cases stepped
  | setConfigured configured =>
    cases stepped
    exact ⟨quiet,⟨flushed,gathered⟩,fun alive => iff_of_true (alive.kept rfl) rfl⟩
  | start =>
    obtain ⟨same,joining,gathering,kept⟩ := start_quiet stepped quiet
    refine ⟨same,⟨joining.trans flushed,gathering.trans gathered⟩,fun alive => ?_⟩
    rw [kept alive]
    exact iff_of_true alive rfl
  | take =>
    obtain ⟨alive,same,joining,gathering⟩ := take_alive stepped
    exact ⟨same.trans quiet,⟨joining.trans flushed,gathering.trans gathered⟩,fun _ => iff_of_true alive rfl⟩
  | result value =>
    obtain ⟨alive,same,joining,gathering⟩ := callEnded_alive stepped
    exact ⟨same,⟨joining.trans flushed,gathering.trans gathered⟩,fun _ => iff_of_true alive rfl⟩
  | exception typeName text =>
    obtain ⟨alive,same,joining,gathering⟩ := callEnded_alive stepped
    exact ⟨same,⟨joining.trans flushed,gathering.trans gathered⟩,fun _ => iff_of_true alive rfl⟩
  | cancelledError =>
    obtain ⟨ended,same,joining,gathering⟩ := callCancelled_ends stepped
    refine ⟨same,⟨joining.trans flushed,gathering.trans gathered⟩,fun _ => iff_of_false ?_ nofun⟩
    rintro (waiting | ⟨request,executing⟩)
    · cases ended.symm.trans waiting
    · cases ended.symm.trans executing
  | cancellationCaught =>
    dsimp only [PersistenceWorker.step] at stepped
    split at stepped
    · rw [quiet] at stepped
      cases stepped
    · cases stepped
  | workerCancelled =>
    dsimp only [PersistenceWorker.step] at stepped
    split at stepped
    · rw [quiet] at stepped
      cases stepped
    · cases stepped
  | stop => cases free
  | joined =>
    have nothing : s.joined = none := if_pos flushed
    cases nothing.symm.trans stepped
  | joinAbandoned =>
    have nothing : s.step .joinAbandoned = none := if_pos flushed
    cases nothing.symm.trans stepped
  | stopped =>
    have nothing : s.stopped = none := if_pos gathered
    cases nothing.symm.trans stepped
  | stopAbandoned =>
    have nothing : s.stopAbandoned = none := if_pos gathered
    cases nothing.symm.trans stepped

theorem Unstopped.step (unstopped : Unstopped s) (free : stopping event = false) (stepped : s.step event = some next) :
    Unstopped next :=
  ⟨unstopped.sound.step stepped,(unstopped.worker free stepped).1,(unstopped.worker free stepped).2.1⟩

theorem Unstopped.ends (unstopped : Unstopped s) (executing : s.task = .executing request) :
    ∃ next, s.step (.exception "" "") = some next ∧ Unstopped next ∧ next.task = .waiting ∧ next.created = s.created ∧
      next.queue = s.queue := by
  have done : ∃ outcome, s.step (.exception "" "") = some (s.leave request outcome .waiting) := by
    simp only [PersistenceWorker.step,callEnded,executing,unstopped.undisturbed]
    exact ⟨_,rfl⟩
  obtain ⟨outcome,done⟩ := done
  exact ⟨_,done,unstopped.step rfl done,rfl,rfl,rfl⟩

theorem Unstopped.turns (unstopped : Unstopped s) (waiting : s.task = .waiting) (filled : s.queue ≠ []) :
    ∃ trace next, Path PersistenceWorker.step (fun _ event => turn event) s trace next ∧ Unstopped next ∧
      next.task = .waiting ∧ next.created = s.created ∧ next.queue.length < s.queue.length := by
  obtain ⟨request,rest,queue⟩ := List.exists_cons_of_ne_nil filled
  have taken : s.step .take = some { s with queue := rest, task := .executing request } := by
    simp [PersistenceWorker.step,take,waiting,queue,unstopped.undisturbed]
  obtain ⟨next,raised,after,free,created,left⟩ := (unstopped.step rfl taken).ends rfl
  have path := Path.snoc (.nil : Path PersistenceWorker.step (fun _ event => turn event) s [] s) rfl taken
  refine ⟨_,next,path.snoc rfl raised,after,free,created,?_⟩
  rw [left,queue]
  exact Nat.lt_succ_self _

theorem Unstopped.serves_waiting (unstopped : Unstopped s) (waiting : s.task = .waiting) : Serves s := by
  intro n below
  generalize size : s.queue.length = length
  induction length using Nat.strongRecOn generalizing s with
  | ind length ih =>
    cases pending : s.futures n with
    | some outcome => exact ⟨[],s,.nil,by simp [pending]⟩
    | none =>
      have queued : s.queue ≠ [] := by
        intro empty
        have member := unstopped.sound.pending n below pending
        simp [numbers,held,waiting,running,empty] at member
      obtain ⟨first,middle,path,later,free,same,shorter⟩ := unstopped.turns waiting queued
      obtain ⟨rest,final,more,resolved⟩ := ih _ (size ▸ shorter) later free (same ▸ below) rfl
      exact ⟨first ++ rest,final,path.append more,resolved⟩

theorem Unstopped.serves (unstopped : Unstopped s) (alive : Alive s) : Serves s := by
  rcases alive with waiting | ⟨request,executing⟩
  · exact unstopped.serves_waiting waiting
  · intro n below
    obtain ⟨middle,raised,later,free,created,_⟩ := unstopped.ends executing
    obtain ⟨rest,final,more,resolved⟩ := later.serves_waiting free n (created ▸ below)
    have first := Path.snoc (.nil : Path PersistenceWorker.step (fun _ event => turn event) s [] s) rfl raised
    exact ⟨_,final,first.append more,resolved⟩

theorem begun_unstopped {capacity : Int} {configured : Bool} {first begun : PersistenceWorker α}
    (created : create capacity configured = .ok first) (started : first.start = some begun) : Unstopped begun ∧ Alive begun := by
  have stepped : first.step .start = some begun := started
  have sound := (sound_created created).1.step stepped
  unfold create at created
  split at created
  · cases created
  · cases created
    cases started
    exact ⟨⟨sound,rfl,rfl,rfl⟩,.inl rfl⟩

theorem ended_stuck (ended : s.task = .ended) (path : Path step (fun _ event => turn event) s trace next) : next = s := by
  refine path.invariant (· = s) rfl ?_
  rintro _ event later rfl turns stepped
  cases event with
  | take => simp [step,take,ended] at stepped
  | result value => simp [step,callEnded,ended] at stepped
  | exception typeName text => simp [step,callEnded,ended] at stepped
  | _ => cases turns

theorem survives (path : Path step (fun _ event => stopping event = false) first trace s) (unstopped : Unstopped first)
    (alive : Alive first) : (∀ entry ∈ trace, Alive entry.1 ∧ Serves entry.1) ∧ Alive s ∧ Serves s ↔
      ∀ entry ∈ trace, ownCancellation entry.2 = false := by
  have each (s : PersistenceWorker α) (event : WorkerEvent α) (next : PersistenceWorker α) (before : Unstopped s)
      (here : Alive s ∧ Serves s) (free : stopping event = false) (stepped : s.step event = some next) :
      Alive next ∧ Serves next ↔ ownCancellation event = false := by
    rw [← (before.worker free stepped).2.2 here.1]
    exact ⟨And.left,fun kept => ⟨kept,(before.step free stepped).serves kept⟩⟩
  exact (path.everywhere unstopped ⟨alive,unstopped.serves alive⟩
    (fun _ _ _ before free stepped => before.step free stepped) each).2

end PersistenceQueue.PersistenceWorker

namespace Client
open Execution

-- From the start of the two workers to a call of `stop`: in every state both run, and every
-- submitted request can still be picked and get an outcome, exactly where no action ends in
-- a cancellation.
theorem workers_survive (α : Type) :
    (∀ (linked : Bool) (begun : BleRequestScheduler α), (BleRequestScheduler.initial linked).start = some begun →
      ∀ trace s, Path BleRequestScheduler.step (fun _ event => BleRequestScheduler.stopping event = false) begun trace s →
      ((∀ entry ∈ trace, entry.1.Alive ∧ entry.1.Serves) ∧ s.Alive ∧ s.Serves ↔
        ∀ entry ∈ trace, BleRequestScheduler.ownCancellation entry.2 = false)) ∧
    ∀ (capacity : Int) (configured : Bool) (first begun : PersistenceQueue.PersistenceWorker α),
      PersistenceQueue.PersistenceWorker.create capacity configured = .ok first → first.start = some begun →
      ∀ trace s, Path PersistenceQueue.PersistenceWorker.step
        (fun _ event => PersistenceQueue.PersistenceWorker.stopping event = false) begun trace s →
      ((∀ entry ∈ trace, entry.1.Alive ∧ entry.1.Serves) ∧ s.Alive ∧ s.Serves ↔
        ∀ entry ∈ trace, PersistenceQueue.PersistenceWorker.ownCancellation entry.2 = false) := by
  refine ⟨?_,?_⟩
  · intro linked begun started trace s path
    cases started
    exact BleRequestScheduler.survives path ⟨(BleRequestScheduler.sound_initial linked).start rfl,rfl,rfl⟩ (.inl rfl)
  · intro capacity configured first begun created started trace s path
    obtain ⟨unstopped,alive⟩ := PersistenceQueue.PersistenceWorker.begun_unstopped created started
    exact PersistenceQueue.PersistenceWorker.survives path unstopped alive

-- Both workers get a cancelled action and then a request that nobody picks.
theorem workers_survive_cancelled :
    (∃ trace, ∃ s : BleRequestScheduler Nat, Path BleRequestScheduler.step
      (fun _ event => BleRequestScheduler.stopping event = false) { BleRequestScheduler.initial true with worker := .waiting } trace s ∧
      ¬ s.Alive ∧ ¬ s.Serves) ∧
    ∃ trace, ∃ s : PersistenceQueue.PersistenceWorker Nat, Path PersistenceQueue.PersistenceWorker.step
      (fun _ event => PersistenceQueue.PersistenceWorker.stopping event = false)
      ⟨4,true,[],0,0,0,fun _ => none,.waiting,false,0,0⟩ trace s ∧ ¬ s.Alive ∧ ¬ s.Serves := by
  constructor
  · have ran : run (guarded BleRequestScheduler.step fun _ event => !BleRequestScheduler.stopping event)
        ({ BleRequestScheduler.initial true with worker := .waiting } : BleRequestScheduler Nat)
        [.submit .current,.pick,.actionCancelled,.submit .current] = some _ := rfl
    obtain ⟨trace,path,_⟩ := run_path ran
    refine ⟨trace,_,path.guarded.weaken fun _ event free => by simpa using free,?_,?_⟩
    · rintro (waiting | ⟨request,running⟩)
      · cases waiting
      · cases running
    · intro serves
      obtain ⟨rest,next,path,resolved⟩ := serves 1 (by decide)
      cases BleRequestScheduler.ended_stuck rfl path
      cases resolved
  · have ran : run (guarded PersistenceQueue.PersistenceWorker.step fun _ event => !PersistenceQueue.PersistenceWorker.stopping event)
        (⟨4,true,[],0,0,0,fun _ => none,.waiting,false,0,0⟩ : PersistenceQueue.PersistenceWorker Nat)
        [.enqueue "sample" 1,.take,.cancelledError,.enqueue "sample" 2] = some _ := rfl
    obtain ⟨trace,path,_⟩ := run_path ran
    refine ⟨trace,_,path.guarded.weaken fun _ event free => by simpa using free,?_,?_⟩
    · rintro (waiting | ⟨request,executing⟩)
      · cases waiting
      · cases executing
    · intro serves
      obtain ⟨rest,next,path,resolved⟩ := serves 1 (by decide)
      cases PersistenceQueue.PersistenceWorker.ended_stuck rfl path
      cases resolved

-- An action that raises ends neither worker.
theorem workers_survive_raised :
    (∃ trace, ∃ s : BleRequestScheduler Nat, trace.map Prod.snd = [.submit .current,.pick,.raise "link lost",.submit .display] ∧
      Path BleRequestScheduler.step (fun _ event => BleRequestScheduler.stopping event = false)
        { BleRequestScheduler.initial true with worker := .waiting } trace s ∧ s.Alive ∧ s.Serves) ∧
    ∃ trace, ∃ s : PersistenceQueue.PersistenceWorker Nat,
      trace.map Prod.snd = [.enqueue "sample" 1,.take,.exception "OSError" "gone",.enqueue "sample" 2] ∧
      Path PersistenceQueue.PersistenceWorker.step (fun _ event => PersistenceQueue.PersistenceWorker.stopping event = false)
        ⟨4,true,[],0,0,0,fun _ => none,.waiting,false,0,0⟩ trace s ∧ s.Alive ∧ s.Serves := by
  obtain ⟨scheduler,persistence⟩ := workers_survive Nat
  constructor
  · have ran : run (guarded BleRequestScheduler.step fun _ event => !BleRequestScheduler.stopping event)
        ({ BleRequestScheduler.initial true with worker := .waiting } : BleRequestScheduler Nat)
        [.submit .current,.pick,.raise "link lost",.submit .display] = some _ := rfl
    obtain ⟨trace,path,labels⟩ := run_path ran
    have path := path.guarded.weaken fun _ event free => (by simpa using free : BleRequestScheduler.stopping event = false)
    have harmless : ∀ event ∈ trace.map Prod.snd, BleRequestScheduler.ownCancellation event = false := by
      rw [labels]
      decide
    exact ⟨trace,_,labels,path,((scheduler true _ rfl trace _ path).mpr fun entry member =>
      harmless _ (List.mem_map_of_mem member)).2⟩
  · have ran : run (guarded PersistenceQueue.PersistenceWorker.step fun _ event => !PersistenceQueue.PersistenceWorker.stopping event)
        (⟨4,true,[],0,0,0,fun _ => none,.waiting,false,0,0⟩ : PersistenceQueue.PersistenceWorker Nat)
        [.enqueue "sample" 1,.take,.exception "OSError" "gone",.enqueue "sample" 2] = some _ := rfl
    obtain ⟨trace,path,labels⟩ := run_path ran
    have path := path.guarded.weaken fun _ event free =>
      (by simpa using free : PersistenceQueue.PersistenceWorker.stopping event = false)
    have harmless : ∀ event ∈ trace.map Prod.snd, PersistenceQueue.PersistenceWorker.ownCancellation event = false := by
      rw [labels]
      decide
    exact ⟨trace,_,labels,path,((persistence 4 true _ _ rfl rfl trace _ path).mpr fun entry member =>
      harmless _ (List.mem_map_of_mem member)).2⟩

end Client

end Thermometer
