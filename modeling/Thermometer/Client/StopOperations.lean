import Thermometer.Client.OperationRuns

-- What `stop` leaves behind.
namespace Thermometer.Service
open Controller (OperationState)
open Execution

def Work.operates : Work → Bool
  | .synchronizeHistory _ _ _ | .run _ => true
  | .retryWhenReady _ => false

def Work.launched : Work → Bool
  | .run _ => true
  | .synchronizeHistory _ _ _ | .retryWhenReady _ => false

theorem Work.operates_run {work : Work} (run : work = .run n) : work.operates = true := by
  rw [run]
  rfl

theorem Work.operates_synchronizes {work : Work} (synchronizes : work.Synchronizes n) : work.operates = true := by
  obtain ⟨_,_,rfl⟩ := synchronizes
  rfl

theorem Work.Synchronizes.not_run {work : Work} {m : Nat} (synchronizes : work.Synchronizes n) : work ≠ .run m := by
  obtain ⟨_,_,rfl⟩ := synchronizes
  nofun

namespace Tracking

variable {t next : Tracking} {retention : Rat} {kind : Kind} {task old : Task} {k : Nat}

def Settled (t : Tracking) (n : Nat) : Prop := ∃ kind state, t.status n = some (kind,state) ∧ terminal state = true

structure Traced (t : Tracking) : Prop where
  kept : Kept t
  slot : ∀ k, t.historyTask = some k → ∃ task n, t.tasks[k]? = some task ∧ task.work.Synchronizes n
  uncancelled : ∀ (k : Nat) task n, t.tasks[k]? = some task → task.work = .run n → task.state = .created →
    task.cancelRequested = false
  settled : ∀ (k : Nat) task n, t.tasks[k]? = some task → task.work = .run n → task.done = true → t.Settled n
  background : ∀ (k : Nat) task, t.tasks[k]? = some task → task.work.operates = true → task.done = false → k ∈ t.backgroundTasks

-- A task goes on, and one that works on an operation is no younger than before.
structure Onward (t next : Tracking) (k : Nat) (old task : Task) : Prop where
  work : task.work = old.work
  created : ∀ n, task.work = .run n → task.state = .created → old.state = .created ∧ task.cancelRequested = old.cancelRequested
  done : old.done = true → task.done = true
  reported : old.state = .reported → task.state = .reported
  settled : ∀ n, task.work = .run n → task.done = true → old.done = true ∨ next.Settled n
  background : task.done = false → k ∈ t.backgroundTasks → k ∈ next.backgroundTasks

-- Nothing new is started.
structure Winds (t next : Tracking) : Prop where
  persists : ∀ n, t.Settled n → next.Settled n
  slot : ∀ k, next.historyTask = some k → t.historyTask = some k
  works : ∀ (k : Nat) old, t.tasks[k]? = some old → ∃ task, next.tasks[k]? = some task ∧ task.work = old.work
  tasks : ∀ (k : Nat) task, next.tasks[k]? = some task → task.work.operates = true →
    ∃ old, t.tasks[k]? = some old ∧ Onward t next k old task

theorem Onward.refl (t : Tracking) (k : Nat) (task : Task) (background : next.backgroundTasks = t.backgroundTasks) :
    Onward t next k task task :=
  ⟨rfl,fun _ _ created => ⟨created,rfl⟩,id,id,fun _ _ done => .inl done,fun _ member => background ▸ member⟩

theorem Onward.running (onward : Onward t next k old task) (running : task.done = false) : old.done = false := by
  by_contra ended
  rw [onward.done (Bool.of_not_eq_false ended)] at running
  cases running

theorem Winds.trans {middle last : Tracking} (first : Winds t middle) (second : Winds middle last) : Winds t last := by
  refine ⟨fun n settled => second.persists n (first.persists n settled),fun k held => first.slot k (second.slot k held),?_,?_⟩
  · intro k old present
    obtain ⟨task,between,work⟩ := first.works k old present
    obtain ⟨task,found,same⟩ := second.works k task between
    exact ⟨task,found,same.trans work⟩
  · intro k task present operates
    obtain ⟨between,found,later⟩ := second.tasks k task present operates
    obtain ⟨old,before,earlier⟩ := first.tasks k between found (later.work ▸ operates)
    refine ⟨old,before,later.work.trans earlier.work,?_,fun done => later.done (earlier.done done),
      fun reported => later.reported (earlier.reported reported),?_,?_⟩
    · intro n run created
      obtain ⟨same,kept⟩ := later.created n run created
      obtain ⟨first,unchanged⟩ := earlier.created n (later.work ▸ run) same
      exact ⟨first,kept.trans unchanged⟩
    · intro n run done
      rcases later.settled n run done with already | settled
      · exact (earlier.settled n (later.work ▸ run) already).imp_right (second.persists n)
      · exact .inr settled
    · intro running member
      exact later.background running (earlier.background (later.running running) member)

theorem Traced.winds (traced : Traced t) (kept : Kept next) (winds : Winds t next) : Traced next := by
  refine ⟨kept,?_,?_,?_,?_⟩
  · intro k held
    obtain ⟨old,n,present,synchronizes⟩ := traced.slot k (winds.slot k held)
    obtain ⟨task,found,work⟩ := winds.works k old present
    exact ⟨task,n,found,work ▸ synchronizes⟩
  · intro k task n present run created
    obtain ⟨old,before,onward⟩ := winds.tasks k task present (Work.operates_run run)
    obtain ⟨first,same⟩ := onward.created n run created
    exact same.trans (traced.uncancelled k old n before (onward.work ▸ run) first)
  · intro k task n present run done
    obtain ⟨old,before,onward⟩ := winds.tasks k task present (Work.operates_run run)
    rcases onward.settled n run done with already | settled
    · exact winds.persists n (traced.settled k old n before (onward.work ▸ run) already)
    · exact settled
  · intro k task present operates running
    obtain ⟨old,before,onward⟩ := winds.tasks k task present operates
    exact onward.background running (traced.background k old before (onward.work ▸ operates) (onward.running running))

theorem Follows.settled (follows : Follows t next) (n : Nat) (settled : t.Settled n) : next.Settled n := by
  obtain ⟨kind,state,known,ended⟩ := settled
  obtain ⟨later,held,same⟩ := follows n kind state known
  exact ⟨kind,later,held,same ended ▸ ended⟩

theorem Winds.beside (persists : ∀ n, t.Settled n → next.Settled n) (tasks : next.tasks = t.tasks)
    (slot : ∀ k, next.historyTask = some k → t.historyTask = some k)
    (background : next.backgroundTasks = t.backgroundTasks) : Winds t next := by
  refine ⟨persists,slot,?_,?_⟩
  · intro k old present
    exact ⟨old,tasks ▸ present,rfl⟩
  · intro k task present _
    exact ⟨task,tasks ▸ present,.refl t k task background⟩

theorem Winds.rework {change : Task → Task} (persists : ∀ n, t.Settled n → next.Settled n)
    (slot : ∀ k, next.historyTask = some k → t.historyTask = some k) (present : t.tasks[k]? = some old)
    (tasks : next.tasks = t.tasks.modify k change)
    (background : ∀ l, l ≠ k ∨ (change old).done = false → l ∈ t.backgroundTasks → l ∈ next.backgroundTasks)
    (onward : Onward t next k old (change old)) : Winds t next := by
  refine ⟨persists,slot,?_,?_⟩
  · intro l before found
    rw [tasks]
    by_cases here : l = k
    · subst here
      rw [present] at found
      cases found
      exact ⟨change old,modify_here present change,onward.work⟩
    · exact ⟨before,(modify_apart here change).trans found,rfl⟩
  · intro l task found _
    rw [tasks] at found
    by_cases here : l = k
    · subst here
      rw [modify_here present change] at found
      cases found
      exact ⟨old,present,onward⟩
    · rw [modify_apart here change] at found
      refine ⟨task,found,rfl,fun _ _ created => ⟨created,rfl⟩,id,id,fun _ _ done => .inl done,fun _ member => ?_⟩
      exact background l (.inl here) member

theorem Winds.append (t : Tracking) {work : Work} (aside : work.operates = false) (background : List Nat) :
    Winds t { t.createTask work with backgroundTasks := t.backgroundTasks ++ background } := by
  refine ⟨fun _ => id,fun _ => id,fun k old present => ⟨old,append_old present _,rfl⟩,?_⟩
  intro k task present operates
  rcases append_cases present with before | ⟨_,rfl⟩
  · refine ⟨task,before,rfl,fun _ _ created => ⟨created,rfl⟩,id,id,fun _ _ done => .inl done,fun _ member => ?_⟩
    exact List.mem_append_left _ member
  · rw [aside] at operates
    cases operates

theorem winds_prune : Winds t (t.pruneOperations retention) := .beside (Follows.same (status_prune retention)).settled rfl (fun _ => id) rfl

theorem winds_alreadyConnected : Winds t (t.alreadyConnected retention kind) :=
  .beside (Follows.append (status_alreadyConnected retention kind)).settled rfl (fun _ => id) rfl

theorem Beside.winds (beside : Beside t next) (follows : Follows t next) : Winds t next :=
  .beside follows.settled beside.tasks (fun _ held => beside.historyTask ▸ held) beside.backgroundTasks

theorem winds_cancelPendingConnect (kept : Kept t) (reason : String) : Winds t (t.cancelPendingConnect reason) :=
  (cancelPendingConnect_beside reason).winds (.cancelPendingConnect kept reason)

theorem winds_beginConnect (kept : Kept t) (retention : Rat) (kind : Kind) : Winds t (t.beginConnect retention kind) := by
  obtain ⟨tasks,slot,_,background⟩ := beginConnect_beside (t := t) retention kind
  exact .beside (Follows.beginConnect kept retention kind).settled tasks (fun _ held => slot ▸ held) background

theorem settlePendingConnect_beside (finish : TrackedOperation → TrackedOperation) :
    Beside t (t.settlePendingConnect finish) ∧ (t.settlePendingConnect finish).pendingConnectOperation = none := by
  unfold Tracking.settlePendingConnect
  split
  · exact ⟨⟨rfl,rfl,rfl,rfl,rfl⟩,‹_›⟩
  · exact ⟨⟨rfl,rfl,rfl,rfl,List.length_modify ..⟩,rfl⟩

theorem winds_settlePendingConnect {finish : TrackedOperation → TrackedOperation} (kept : Kept t)
    (told : ∀ operation : TrackedOperation, (finish operation).status = (operation.kind,state)) :
    Winds t (t.settlePendingConnect finish) :=
  (settlePendingConnect_beside finish).1.winds (.settlePendingConnect kept told)

theorem winds_cancelTask (present : t.tasks[k]? = some old) (begun : ∀ n, old.work = .run n → old.state ≠ .created) :
    Winds t (t.setTask k Task.cancel) := by
  have state : old.cancel.state = old.state := cancel_state old
  refine .rework (fun _ => id) (fun _ => id) present rfl (fun _ _ => id) ⟨cancel_work old,?_,?_,?_,?_,fun _ => id⟩
  · intro n run created
    rw [cancel_work] at run
    exact absurd (state ▸ created) (begun n run)
  · rw [Task.done,Task.done,state]
    exact id
  · rw [state]
    exact id
  · intro n _ done
    rw [Task.done,state] at done
    exact .inl done

theorem winds_abandonTask (present : t.tasks[k]? = some task) (created : task.state = .created)
    (waits : ∀ n, task.work ≠ .run n) : Winds t (t.abandonTask k) := by
  refine .rework (fun _ => id) (fun _ => id) present rfl (fun _ _ => id) ⟨rfl,nofun,fun _ => rfl,?_,?_,fun _ => id⟩
  · intro reported
    rw [created] at reported
    cases reported
  · exact fun n run => absurd run (waits n)

theorem winds_historyCancelled (kept : Kept t) (reason : String) : Winds t (t.historyCancelled reason) := by
  refine .beside (Follows.historyCancelled kept reason).settled ?_ nofun ?_
  all_goals
    unfold Tracking.historyCancelled
    split <;> rfl

theorem winds_beginTask (kept : Kept t) (present : t.tasks[k]? = some task) (created : task.state = .created) :
    Winds t (t.beginTask k task.work) := by
  have same : (t.beginTask k task.work).tasks = t.tasks.modify k ({ · with state := .running }) ∧
      (t.beginTask k task.work).historyTask = t.historyTask ∧
      (t.beginTask k task.work).backgroundTasks = t.backgroundTasks := by
    cases task.work <;> exact ⟨rfl,rfl,rfl⟩
  refine .rework (Follows.beginTask kept present created).settled (fun _ held => same.2.1 ▸ held) present same.1
    (fun _ _ member => same.2.2 ▸ member) ⟨rfl,?_,?_,?_,?_,fun _ member => same.2.2 ▸ member⟩
  · intro _ _ waits
    cases waits
  · intro ended
    rw [Task.done,created] at ended
    cases ended
  · intro reported
    rw [created] at reported
    cases reported
  · intro _ _ ended
    cases ended

theorem winds_endTask (kept : Kept t) (present : t.tasks[k]? = some task) (running : task.state = .running) (outcome : Outcome) :
    Winds t (t.endTask k task.work outcome) := by
  have same : (t.endTask k task.work outcome).tasks = t.tasks.modify k ({ · with state := .ended outcome }) ∧
      (t.endTask k task.work outcome).historyTask = t.historyTask ∧
      (t.endTask k task.work outcome).backgroundTasks = t.backgroundTasks := by
    cases task.work <;> cases outcome <;> exact ⟨rfl,rfl,rfl⟩
  refine .rework (Follows.endTask kept present running outcome).settled (fun _ held => same.2.1 ▸ held) present same.1
    (fun _ _ member => same.2.2 ▸ member) ⟨rfl,nofun,fun _ => rfl,?_,?_,nofun⟩
  · rw [running]
    nofun
  · intro n run _
    have work : task.work = .run n := run
    obtain ⟨kind,state,known,_⟩ := kept.launching.works k task n present work
    obtain ⟨told,ends,status,_⟩ := endTask_told kept.sound k n outcome
    refine .inr ⟨kind,(told (kind,state)).2,?_,(ends (kind,state)).2⟩
    rw [work,status,Function.update_self,known]
    exact congrArg some (Prod.ext (ends (kind,state)).1 rfl)

theorem discardTask_winds (present : t.tasks[k]? = some task) (ended : task.state = .ended outcome) : Winds t (t.discardTask k) := by
  refine .rework (fun _ => id) (fun _ => id) present rfl ?_ ⟨rfl,nofun,fun _ => rfl,fun _ => rfl,?_,nofun⟩
  · intro l apart member
    have other : l ≠ k := apart.resolve_right nofun
    exact (List.mem_erase_of_ne other).mpr member
  · intro _ _ _
    rw [Task.done,ended]
    exact .inl rfl

theorem settled_tell {told : Kind × OperationState → Kind × OperationState} {m : Nat} (ends : Ends told)
    (status : next.status = Function.update t.status m ((t.status m).map told)) (n : Nat) (settled : t.Settled n) :
    next.Settled n := by
  obtain ⟨kind,state,known,ended⟩ := settled
  by_cases here : n = m
  · subst here
    refine ⟨kind,(told (kind,state)).2,?_,(ends (kind,state)).2⟩
    rw [status,Function.update_self,known]
    exact congrArg some (Prod.ext (ends (kind,state)).1 rfl)
  · exact ⟨kind,state,by rw [status,Function.update_of_ne here,known],ended⟩

theorem winds_reportTask (kept : Kept t) (present : t.tasks[k]? = some task) (ended : task.state = .ended outcome) (started : Bool) :
    Winds t (t.reportTask started k task.work outcome) := by
  have discarded := discardTask_winds present ended
  cases work : task.work with
  | synchronizeHistory n source targetGeneration =>
    obtain ⟨told,ends,status,_,tasks,_,slot,_⟩ := finished_told (t := t.discardTask k) kept.sound k n outcome
    have finished : Winds (t.discardTask k) ((t.discardTask k).finished k n outcome) := by
      refine .beside (settled_tell ends status) tasks ?_ ?_
      · intro l held
        rw [slot] at held
        split at held
        · cases held
        · exact held
      · unfold Tracking.finished
        dsimp only
        cases outcome <;> split <;> rfl
    unfold Tracking.reportTask
    dsimp only
    split
    · exact (discarded.trans finished).trans (.append _ rfl _)
    · exact discarded.trans finished
  | run | retryWhenReady => exact discarded

theorem Traced.startHistorySync (traced : Traced t) (retention : Rat) (source : HistorySource) (targetGeneration : Nat) :
    Traced (t.startHistorySync retention source targetGeneration) := by
  have kept := traced.kept.startHistorySync retention source targetGeneration
  have follows := Follows.startHistorySync (t := t) retention source targetGeneration
  rcases startHistorySync_cases (t := t) retention source targetGeneration with
    ⟨same,_⟩ | ⟨_,_,_,tasks,slot,_,background,_⟩
  · rw [same]
    exact traced
  · refine ⟨kept,?_,?_,?_,?_⟩
    · intro k held
      rw [slot] at held
      cases held
      rw [tasks]
      exact ⟨_,_,List.getElem?_concat_length,_,_,rfl⟩
    · intro k task n present run created
      rw [tasks] at present
      rcases append_cases present with before | ⟨_,rfl⟩
      · exact traced.uncancelled k task n before run created
      · cases run
    · intro k task n present run done
      rw [tasks] at present
      rcases append_cases present with before | ⟨_,rfl⟩
      · exact follows.settled n (traced.settled k task n before run done)
      · cases run
    · intro k task present operates running
      rw [tasks] at present
      rw [background]
      rcases append_cases present with before | ⟨rfl,_⟩
      · exact List.mem_append_left _ (traced.background k task before operates running)
      · exact List.mem_append_right _ (List.mem_singleton.mpr rfl)

theorem Traced.launchOperation (traced : Traced t) (retention : Rat) (launches : kind.launches = true) :
    Traced (t.launchOperation retention kind) := by
  have follows : Follows t (t.launchOperation retention kind) := .append (status_launchOperation retention kind)
  refine ⟨traced.kept.launchOperation retention launches,?_,?_,?_,?_⟩
  · intro k held
    obtain ⟨task,n,present,synchronizes⟩ := traced.slot k held
    exact ⟨task,n,append_old present _,synchronizes⟩
  · intro k task n present run created
    rcases append_cases present with before | ⟨_,rfl⟩
    · exact traced.uncancelled k task n before run created
    · rfl
  · intro k task n present run done
    rcases append_cases present with before | ⟨_,rfl⟩
    · exact follows.settled n (traced.settled k task n before run done)
    · cases done
  · intro k task present operates running
    rcases append_cases present with before | ⟨rfl,_⟩
    · exact List.mem_append_left _ (traced.background k task before operates running)
    · exact List.mem_append_right _ (List.mem_singleton.mpr rfl)

-- Every task that may still work on an operation is one that `stop` waits for.
structure Gathered (t : Tracking) (tasks : List Nat) : Prop where
  pending : t.pendingConnectOperation = none
  covered : ∀ (k : Nat) task, t.tasks[k]? = some task → task.work.operates = true → task.done = false → k ∈ tasks

-- All of them have ended.
structure Closed (t : Tracking) (tasks : List Nat) : Prop where
  pending : t.pendingConnectOperation = none
  done : ∀ (k : Nat) task, t.tasks[k]? = some task → task.work.operates = true → task.done = true
  covered : ∀ (k : Nat) task, t.tasks[k]? = some task → task.work.operates = true → task.state ≠ .reported → k ∈ tasks

theorem Gathered.winds {tasks : List Nat} (gathered : Gathered t tasks) (winds : Winds t next)
    (idle : t.pendingConnectOperation = none → next.pendingConnectOperation = none) : Gathered next tasks := by
  refine ⟨idle gathered.pending,?_⟩
  intro k task present operates running
  obtain ⟨old,before,onward⟩ := winds.tasks k task present operates
  exact gathered.covered k old before (onward.work ▸ operates) (onward.running running)

theorem Closed.winds {tasks : List Nat} (closed : Closed t tasks) (winds : Winds t next)
    (idle : t.pendingConnectOperation = none → next.pendingConnectOperation = none) : Closed next tasks := by
  refine ⟨idle closed.pending,?_,?_⟩
  · intro k task present operates
    obtain ⟨old,before,onward⟩ := winds.tasks k task present operates
    exact onward.done (closed.done k old before (onward.work ▸ operates))
  · intro k task present operates waits
    obtain ⟨old,before,onward⟩ := winds.tasks k task present operates
    exact closed.covered k old before (onward.work ▸ operates) fun reported => waits (onward.reported reported)

theorem Closed.all_terminal {tasks : List Nat} (closed : Closed t tasks) (traced : Traced t)
    (reported : ∀ k ∈ tasks, ∀ task, t.tasks[k]? = some task → task.state = .reported)
    (known : t.status n = some (kind,state)) : terminal state = true := by
  by_contra open'
  have running : terminal state = false := Bool.eq_false_iff.mpr open'
  cases kind with
  | connect | pair =>
    have pending := traced.kept.connecting.pending n _ _ known rfl running
    rw [closed.pending] at pending
    cases pending
  | forgetPairing =>
    obtain ⟨k,task,present,run,_⟩ := traced.kept.launching.worker n _ _ known rfl running
    obtain ⟨_,_,held,ended⟩ := traced.settled k task n present run (closed.done k task present (Work.operates_run run))
    rw [known] at held
    cases held
    exact open' ended
  | historySync =>
    obtain ⟨k,task,present,work,waits⟩ := traced.kept.synchronizing.worker n _ _ known rfl running
    exact waits (reported k (closed.covered k task present (Work.operates_synchronizes work) waits) task present)

theorem Kept.cancelTasks (kept : Kept t) (tasks : List Nat) : Kept (tasks.foldl (fun t k => t.setTask k Task.cancel) t) := by
  induction tasks generalizing t with
  | nil => exact kept
  | cons k rest ih => exact ih (kept.cancelTask k)

theorem winds_cancelTasks (tasks : List Nat)
    (begun : ∀ (k : Nat) task, t.tasks[k]? = some task → task.work.launched = true → task.state ≠ .created) :
    Winds t (tasks.foldl (fun t k => t.setTask k Task.cancel) t) := by
  induction tasks generalizing t with
  | nil => exact .beside (fun _ => id) rfl (fun _ => id) rfl
  | cons k rest ih =>
    cases present : t.tasks[k]? with
    | none =>
      rw [List.foldl_cons,setTask_absent present]
      exact ih begun
    | some old =>
      refine (winds_cancelTask present fun n run => begun k old present (by rw [run]; rfl)).trans (ih ?_)
      intro l task found launched
      rcases modify_cases found with ⟨_,before⟩ | ⟨rfl,before,held,rfl⟩
      · exact begun l task before launched
      · rw [cancel_state]
        rw [cancel_work] at launched
        exact begun l before held launched

theorem cancelTasks_pending (tasks : List Nat) :
    (tasks.foldl (fun t k => t.setTask k Task.cancel) t).pendingConnectOperation = t.pendingConnectOperation := by
  induction tasks generalizing t with
  | nil => rfl
  | cons k rest ih => exact ih

theorem historyCancelled_pending (reason : String) :
    (t.historyCancelled reason).pendingConnectOperation = t.pendingConnectOperation := by
  unfold Tracking.historyCancelled
  split <;> rfl

theorem beginTask_pending (k : Nat) (work : Work) : (t.beginTask k work).pendingConnectOperation = t.pendingConnectOperation := by
  cases work <;> rfl

theorem endTask_pending (k : Nat) (work : Work) (outcome : Outcome) :
    (t.endTask k work outcome).pendingConnectOperation = t.pendingConnectOperation := by
  cases work <;> cases outcome <;> rfl

theorem reportTask_pending (sound : t.Sound) (started : Bool) (k : Nat) (work : Work) (outcome : Outcome) :
    (t.reportTask started k work outcome).pendingConnectOperation = t.pendingConnectOperation := by
  cases work with
  | synchronizeHistory n source targetGeneration =>
    obtain ⟨_,_,_,_,_,finished,_⟩ := finished_told (t := t.discardTask k) sound k n outcome
    unfold Tracking.reportTask
    dsimp only
    split <;> exact finished
  | run | retryWhenReady => rfl

end Tracking

-- `stop` has cancelled the tasks and has not returned yet.
def Waiting.stops : Waiting → Bool
  | .gather _ | .closing _ => true
  | .history _ _ | .caller _ => false

namespace Operating

open Tracking

variable {retention : Rat} {s next : Operating}

def sweeping (s : Operating) : Bool := s.waiting.any Waiting.stops

-- No connect request is open and every launched operation has begun when `stop` cancels the
-- tasks, and from there on no operation is created until it returns. A `stop` that finds the
-- service stopped returns at once, with no operation open.
def released (s : Operating) : Event → Bool
  | .stop => s.started || s.tracking.operations.all (terminal ·.state)
  | .resume index =>
    match s.waiting[index]? with
    | some (.caller .stopping) =>
      s.tracking.pendingConnectOperation.isNone &&
        s.tracking.tasks.all fun task => !(task.work.launched && task.state = .created)
    | some (.caller .pairingReset) => !s.sweeping
    | _ => true
  | .connect _ _ | .requestHistorySync _ | .synchronize _ _ | .retry _ => !s.sweeping
  | _ => true

structure Released (s : Operating) : Prop where
  traced : Traced s.tracking
  gather : ∀ tasks, .gather tasks ∈ s.waiting → Gathered s.tracking tasks
  closing : ∀ tasks, .closing tasks ∈ s.waiting → Closed s.tracking tasks

theorem Released.winds (released : Released s) (kept : Kept next.tracking) (winds : Winds s.tracking next.tracking)
    (idle : s.tracking.pendingConnectOperation = none → next.tracking.pendingConnectOperation = none)
    (waiting : ∀ waiting ∈ next.waiting, waiting.stops = true → waiting ∈ s.waiting) : Released next where
  traced := released.traced.winds kept winds
  gather tasks member := (released.gather tasks (waiting _ member rfl)).winds winds idle
  closing tasks member := (released.closing tasks (waiting _ member rfl)).winds winds idle

theorem Released.waits (released : Released s) (same : next.tracking = s.tracking)
    (waiting : ∀ waiting ∈ next.waiting, waiting.stops = true → waiting ∈ s.waiting) : Released next := by
  refine released.winds ?_ ?_ ?_ waiting
  all_goals rw [same]
  · exact released.traced.kept
  · exact .beside (fun _ => id) rfl (fun _ => id) rfl
  · exact id

theorem Released.creates (calm : s.sweeping = false) (traced : Traced next.tracking)
    (waiting : ∀ waiting ∈ next.waiting, waiting.stops = true → waiting ∈ s.waiting) : Released next := by
  have none (held : Waiting) (member : held ∈ next.waiting) (stops : held.stops = true) : False := by
    have some := List.any_eq_true.mpr ⟨held,waiting held member stops,stops⟩
    rw [← sweeping,calm] at some
    cases some
  exact ⟨traced,fun tasks member => (none _ member rfl).elim,fun tasks member => (none _ member rfl).elim⟩

theorem suspend_waits {waiting : Waiting} (ordinary : waiting.stops = false) :
    ∀ held ∈ s.waiting ++ [waiting], held.stops = true → held ∈ s.waiting := by
  intro held member stops
  rcases List.mem_append.mp member with before | last
  · exact before
  · cases List.mem_singleton.mp last
    rw [ordinary] at stops
    cases stops

theorem cancelHistory_released (released : Released s) (caller : Ending) : Released (s.cancelHistory caller) := by
  unfold cancelHistory
  split
  · exact released.waits rfl (suspend_waits rfl)
  · rename_i task running
    obtain ⟨held,_⟩ := Option.filter_eq_some_iff.mp running
    obtain ⟨old,n,present,work⟩ := released.traced.slot task held
    exact released.winds (released.traced.kept.cancelTask task)
      (winds_cancelTask present fun m run => absurd run work.not_run) id (suspend_waits rfl)

theorem sweep_released (released : Released s) (pending : s.tracking.pendingConnectOperation = none)
    (begun : ∀ (k : Nat) task, s.tracking.tasks[k]? = some task → task.work.launched = true → task.state ≠ .created) :
    Released s.sweep := by
  have winds := winds_cancelTasks s.tracking.backgroundTasks begun
  have idle : s.sweep.tracking.pendingConnectOperation = none := by
    rw [← pending]
    exact cancelTasks_pending _
  refine ⟨released.traced.winds (released.traced.kept.cancelTasks _) winds,?_,?_⟩
  · intro tasks member
    rcases List.mem_append.mp member with before | last
    · exact (released.gather tasks before).winds winds fun _ => idle
    · cases List.mem_singleton.mp last
      exact Gathered.winds ⟨pending,released.traced.background⟩ winds fun _ => idle
  · intro tasks member
    rcases List.mem_append.mp member with before | last
    · exact (released.closing tasks before).winds winds fun _ => idle
    · cases List.mem_singleton.mp last

theorem proceed_released (released : Released s) (index : Nat) (caller : Ending)
    (alone : s.released (.resume index) = true) (present : s.waiting[index]? = some (.caller caller)) :
    Released ({ s with waiting := s.waiting.eraseIdx index }.proceed retention caller) := by
  have remains : ∀ held ∈ s.waiting.eraseIdx index, held.stops = true → held ∈ s.waiting :=
    fun _ member _ => List.mem_of_mem_eraseIdx member
  simp only [Operating.released,present] at alone
  cases caller with
  | targetChanged | connectionLost => exact released.waits rfl remains
  | disconnecting =>
    exact released.winds (released.traced.kept.cancelPendingConnect _) (winds_cancelPendingConnect released.traced.kept _)
      (fun _ => cancelPendingConnect_none _) remains
  | pairingReset =>
    exact .creates ((Bool.not_eq_true' _).mp alone) (released.traced.launchOperation retention rfl) remains
  | stopping =>
    obtain ⟨pending,begun⟩ := Bool.and_eq_true_iff.mp alone
    have rest : Released { s with waiting := s.waiting.eraseIdx index } := released.waits rfl remains
    refine sweep_released rest (Option.isNone_iff_eq_none.mp pending) fun k task found launched created => ?_
    have aside := List.all_eq_true.mp begun task (List.mem_of_getElem? found)
    rw [launched,created] at aside
    cases aside

theorem set_waits {index : Nat} {waiting : Waiting} (ordinary : waiting.stops = false) :
    ∀ held ∈ s.waiting.set index waiting, held.stops = true → held ∈ s.waiting := by
  intro held member stops
  rcases List.mem_or_eq_of_mem_set member with before | rfl
  · exact before
  · rw [ordinary] at stops
    cases stops

theorem erase_waits {index : Nat} : ∀ held ∈ s.waiting.eraseIdx index, held.stops = true → held ∈ s.waiting :=
  fun _ member _ => List.mem_of_mem_eraseIdx member

theorem gathered_done {tasks : List Nat} (gathered : Gathered s.tracking tasks) (ended : tasks.all s.tracking.done = true)
    {k : Nat} {task : Task} (present : s.tracking.tasks[k]? = some task) (operates : task.work.operates = true) :
    task.done = true := by
  by_contra running
  have member := gathered.covered k task present operates (Bool.eq_false_iff.mpr running)
  have done := List.all_eq_true.mp ended k member
  rw [Tracking.done,present] at done
  exact running done

theorem gather_released {index : Nat} {tasks : List Nat} (released : Released s) (present : s.waiting[index]? = some (.gather tasks))
    (ended : tasks.all s.tracking.done = true) :
    Released { s.tell ({ · with backgroundTasks := [] }) with waiting := s.waiting.set index (.closing s.endedTasks) } := by
  have gathered := released.gather tasks (List.mem_of_getElem? present)
  have winds : Winds s.tracking { s.tracking with backgroundTasks := [] } := by
    refine ⟨fun _ => id,fun _ => id,fun k old found => ⟨old,found,rfl⟩,fun k task found operates => ⟨task,found,?_⟩⟩
    refine ⟨rfl,fun _ _ created => ⟨created,rfl⟩,id,id,fun _ _ done => .inl done,fun running => ?_⟩
    rw [gathered_done gathered ended found operates] at running
    cases running
  have closed : Closed s.tracking s.endedTasks := by
    refine ⟨gathered.pending,fun k task found operates => gathered_done gathered ended found operates,?_⟩
    intro k task found operates _
    refine List.mem_filter.mpr ⟨List.mem_range.mpr (List.getElem?_eq_some_iff.mp found).1,?_⟩
    rw [Tracking.done,found]
    exact gathered_done gathered ended found operates
  refine ⟨released.traced.winds (released.traced.kept.background []) winds,?_,?_⟩
  · intro others member
    rcases List.mem_or_eq_of_mem_set member with before | new
    · exact (released.gather others before).winds winds id
    · cases new
  · intro others member
    rcases List.mem_or_eq_of_mem_set member with before | new
    · exact (released.closing others before).winds winds id
    · cases new
      exact closed.winds winds id

theorem resume_released {index : Nat} {waiting : Waiting} (released : Released s) (present : s.waiting[index]? = some waiting)
    (alone : s.released (.resume index) = true) (ran : s.resume retention index waiting = some next) : Released next := by
  cases waiting with
  | history task caller =>
    obtain ⟨_,same⟩ := Option.ite_none_right_eq_some.mp ran
    cases same
    exact released.winds (released.traced.kept.historyCancelled _) (winds_historyCancelled released.traced.kept _)
      (fun pending => (historyCancelled_pending _).trans pending) (set_waits rfl)
  | caller caller =>
    cases Option.some.inj ran
    exact proceed_released released index caller alone present
  | gather tasks =>
    obtain ⟨ended,same⟩ := Option.ite_none_right_eq_some.mp ran
    cases same
    exact gather_released released present ended
  | closing tasks =>
    obtain ⟨_,same⟩ := Option.ite_none_right_eq_some.mp ran
    cases same
    exact released.waits rfl erase_waits

theorem beginTask_released {number : Nat} {task : Task} (released : Released s) (present : s.tracking.tasks[number]? = some task)
    (ran : s.beginTask number task = some next) : Released next := by
  unfold beginTask at ran
  split at ran
  · cases ran
  · rename_i created
    rw [not_not] at created
    split at ran <;> rename_i requested <;> cases Option.some.inj ran
    · refine released.winds (released.traced.kept.abandonTask present requested) (winds_abandonTask present created ?_) id fun _ held _ => held
      intro n run
      rw [released.traced.uncancelled number task n present run created] at requested
      cases requested
    · refine released.winds (released.traced.kept.beginTask present created) (winds_beginTask released.traced.kept present created)
        ?_ fun _ held _ => held
      exact fun pending => (beginTask_pending number task.work).trans pending

theorem retry_released {number : Nat} {task : Task} (released : Released s) (present : s.tracking.tasks[number]? = some task)
    (calm : s.sweeping = false) (ran : s.retry retention number task = some next) : Released next := by
  unfold retry at ran
  split at ran
  · rename_i targetGeneration _ running
    obtain ⟨_,same⟩ := Option.ite_none_right_eq_some.mp ran
    cases same
    have started := released.traced.startHistorySync retention .automatic targetGeneration
    have found : (s.tracking.startHistorySync retention .automatic targetGeneration).tasks[number]? = some task :=
      startHistorySync_present present .automatic targetGeneration
    exact .creates calm (started.winds (started.kept.endTask found running _) (winds_endTask started.kept found running _))
      fun _ held _ => held
  · cases ran

theorem report_released {number : Nat} {task : Task} (released : Released s) (present : s.tracking.tasks[number]? = some task)
    (ran : s.report number task = some next) : Released next := by
  unfold report at ran
  split at ran
  · rename_i outcome ended
    cases Option.some.inj ran
    refine released.winds (released.traced.kept.reportTask present ended _) (winds_reportTask released.traced.kept present ended _)
      ?_ fun _ held _ => held
    exact fun pending => (reportTask_pending released.traced.kept.sound _ number task.work outcome).trans pending
  · cases ran

theorem step_released {event : Event} (released : Released s) (alone : s.released event = true)
    (ran : step retention s event = some next) : Released next := by
  have kept := released.traced.kept
  have stays : ∀ held ∈ s.waiting, held.stops = true → held ∈ s.waiting := fun _ held _ => held
  cases event with
  | clock now =>
    cases Option.some.inj ran
    exact released.winds ⟨kept.sound,kept.connecting,kept.launching,kept.synchronizing⟩
      (.beside (fun _ => id) rfl (fun _ => id) rfl) id stays
  | readOperations =>
    cases Option.some.inj ran
    exact released.winds (kept.prune retention) winds_prune id stays
  | lowered | verified | interrupted =>
    cases Option.some.inj ran
    exact released.waits rfl stays
  | abandon index =>
    cases Option.some.inj ran
    exact released.waits rfl erase_waits
  | start =>
    obtain ⟨_,same⟩ := Option.ite_none_left_eq_some.mp ran
    cases same
    exact released.waits rfl stays
  | stop =>
    simp only [step] at ran
    split at ran <;> cases Option.some.inj ran
    · exact cancelHistory_released (s := { s.tell (·.cancelPendingConnect "service stopped") with started := false, ready := false })
        (released.winds (kept.cancelPendingConnect _) (winds_cancelPendingConnect kept _) (fun _ => cancelPendingConnect_none _) stays) _
    · exact released
  | alreadyConnected kind =>
    obtain ⟨allowed,same⟩ := Option.ite_none_right_eq_some.mp ran
    cases same
    exact released.winds (kept.alreadyConnected retention (Bool.and_eq_true_iff.mp allowed).2) winds_alreadyConnected id stays
  | connect kind elsewhere =>
    obtain ⟨allowed,same⟩ := Option.ite_none_right_eq_some.mp ran
    cases same
    have begun : Released { s.tell (·.beginConnect retention kind) with ready := false } :=
      .creates ((Bool.not_eq_true' _).mp alone) (released.traced.winds (kept.beginConnect retention (Bool.and_eq_true_iff.mp allowed).1)
        (winds_beginConnect kept retention kind)) stays
    cases elsewhere with
    | false => exact begun
    | true => exact cancelHistory_released begun _
  | disconnect | connectionLost =>
    cases Option.some.inj ran
    exact cancelHistory_released (s := { s with ready := false }) (released.waits rfl stays) _
  | forgetPairing =>
    obtain ⟨_,same⟩ := Option.ite_none_right_eq_some.mp ran
    cases same
    exact cancelHistory_released (s := { s with ready := false }) (released.waits rfl stays) _
  | requestHistorySync targetGeneration | synchronize _ targetGeneration =>
    obtain ⟨_,same⟩ := Option.ite_none_right_eq_some.mp ran
    cases same
    exact .creates ((Bool.not_eq_true' _).mp alone) (released.traced.startHistorySync retention _ targetGeneration) stays
  | completed manager =>
    obtain ⟨_,same⟩ := Option.ite_none_right_eq_some.mp ran
    cases same
    exact released.winds kept.completePendingConnect (winds_settlePendingConnect kept fun _ => rfl)
      (fun _ => (settlePendingConnect_beside _).2) stays
  | failed message =>
    cases Option.some.inj ran
    exact released.winds (kept.failPendingConnect message) (winds_settlePendingConnect kept fun _ => rfl)
      (fun _ => (settlePendingConnect_beside _).2) stays
  | resume index =>
    obtain ⟨waiting,present,resumed⟩ := Option.bind_eq_some_iff.mp ran
    exact resume_released released present alone resumed
  | begin number =>
    obtain ⟨task,present,began⟩ := Option.bind_eq_some_iff.mp ran
    exact beginTask_released released present began
  | ends number outcome =>
    obtain ⟨task,present,ended⟩ := Option.bind_eq_some_iff.mp ran
    obtain ⟨running,same⟩ := Option.ite_none_right_eq_some.mp ended
    cases same
    exact released.winds (kept.endTask present running outcome) (winds_endTask kept present running outcome)
      (fun pending => (endTask_pending number task.work outcome).trans pending) stays
  | retry number =>
    obtain ⟨task,present,retried⟩ := Option.bind_eq_some_iff.mp ran
    exact retry_released released present ((Bool.not_eq_true' _).mp alone) retried
  | report number =>
    obtain ⟨task,present,told⟩ := Option.bind_eq_some_iff.mp ran
    exact report_released released present told

theorem created_released (now : Rat) : Released (created now) := by
  have idle (k : Nat) (task : Task) (present : (created now).tracking.tasks[k]? = some task) : False := by
    simp [created] at present
  refine ⟨⟨(created_kept now).1,fun _ held => (Option.some_ne_none _ held.symm).elim,?_,?_,?_⟩,
    fun _ member => (List.not_mem_nil member).elim,fun _ member => (List.not_mem_nil member).elim⟩
  · exact fun k task _ present => (idle k task present).elim
  · exact fun k task _ present => (idle k task present).elim
  · exact fun k task present => (idle k task present).elim

theorem run_released {now : Rat} (path : Path (step retention) (fun s event => s.released event = true) (created now) trace s) :
    Released s :=
  path.invariant Released (created_released now) fun _ _ _ released alone ran => step_released released alone ran

def returns (s : Operating) : Event → Bool
  | .stop => !s.started
  | .resume index =>
    match s.waiting[index]? with
    | some (.closing _) => true
    | _ => false
  | _ => false

-- No caller of `wait_for_operation` is left waiting when `stop` returns.
theorem stop_releases {now : Rat} {event : Event}
    (path : Path (step retention) (fun s event => s.released event = true) (created now) trace s)
    (alone : s.released event = true) (ran : step retention s event = some next) (returns : s.returns event = true) :
    ∀ operation ∈ next.tracking.operations, terminal operation.state = true ∧ operation.completion = true := by
  have released := run_released path
  have settled (ended : ∀ operation ∈ next.tracking.operations, terminal operation.state = true) :
      ∀ operation ∈ next.tracking.operations, terminal operation.state = true ∧ operation.completion = true := by
    have kept := (step_released released alone ran).traced.kept
    exact fun operation member => ⟨ended operation member,(kept.sound operation member).completion.trans (ended operation member)⟩
  refine settled fun operation member => ?_
  cases event with
  | stop =>
    have stopped : s.started = false := (Bool.not_eq_true' _).mp returns
    simp only [step,stopped,Bool.false_eq_true,if_false,Option.some.injEq] at ran
    subst ran
    simp only [Operating.released,stopped,Bool.false_or] at alone
    exact List.all_eq_true.mp alone operation member
  | resume index =>
    obtain ⟨waiting,present,resumed⟩ := Option.bind_eq_some_iff.mp ran
    simp only [Operating.returns,present] at returns
    cases waiting with
    | closing tasks =>
      obtain ⟨reported,same⟩ := Option.ite_none_right_eq_some.mp resumed
      cases same
      obtain ⟨n,found⟩ := List.getElem?_of_mem member
      refine (released.closing tasks (List.mem_of_getElem? present)).all_terminal released.traced ?_
        (status_some.mpr ⟨operation,found,rfl,rfl⟩)
      intro k waited task held
      have told := List.all_eq_true.mp reported k waited
      rw [Operating.reported,held] at told
      exact of_decide_eq_true told
    | history | caller | gather => cases returns
  | _ => cases returns

-- The task of the synchronisation is cancelled while it runs.
theorem stop_releases_synchronizing :
    ∃ s next, step 600 s (.resume 0) = some next ∧ next.tracking.operations.map (·.state) = [.succeeded,.cancelled] ∧
      ∀ operation ∈ next.tracking.operations, operation.completion = true := by
  have passed : (run (guarded (step 600) released) (created 0)
      [.start,.connect .connect false,.verified,.completed 0,.requestHistorySync 0,.begin 0,.stop,.ends 0 .cancelled,.report 0,
        .resume 0,.resume 0,.resume 0]).any (fun s => s.released (.resume 0) ∧ s.returns (.resume 0) ∧
          (step 600 s (.resume 0)).any (·.tracking.operations.map (·.state) = [.succeeded,.cancelled])) = true := by
    decide +kernel
  obtain ⟨trace,s,path,checked⟩ := guarded_checked passed
  obtain ⟨alone,returned,last⟩ := of_decide_eq_true checked
  obtain ⟨next,ran,states⟩ := (Option.any_eq_true _ _).mp last
  exact ⟨s,next,ran,of_decide_eq_true states,fun operation member => (stop_releases path alone ran returned operation member).2⟩

-- `stop` cancels the task of `forget_pairing` before its first step, so that its body never runs.
theorem stopped_operation_queued :
    ∃ trace s next, Path (step 600) anyStep (created 0) trace s ∧ step 600 s (.resume 0) = some next ∧
      s.returns (.resume 0) = true ∧ s.waiting.length = 1 ∧
      next.tracking.operations.map (fun operation => (operation.state,operation.completion)) =
        [(.succeeded,true),(.queued,false)] := by
  have passed : (run (step 600) (created 0)
      [.start,.connect .connect false,.verified,.completed 0,.forgetPairing,.resume 0,.stop,.resume 0,.begin 0,.report 0,
        .resume 0]).any (fun s => s.returns (.resume 0) ∧ s.waiting.length = 1 ∧
          (step 600 s (.resume 0)).any (·.tracking.operations.map (fun operation => (operation.state,operation.completion)) =
            [(.succeeded,true),(.queued,false)])) = true := by decide +kernel
  obtain ⟨trace,s,path,checked⟩ := run_checked passed
  obtain ⟨returned,alone,last⟩ := of_decide_eq_true checked
  obtain ⟨next,ran,states⟩ := (Option.any_eq_true _ _).mp last
  exact ⟨trace,s,next,path,ran,returned,alone,of_decide_eq_true states⟩

end Operating

end Thermometer.Service
