import Mathlib.Logic.Function.Basic
import Thermometer.Client.Operations

-- Who finishes an operation: the slot of the connect request, the callback of a history
-- synchronisation or the body of a launched task.
namespace Thermometer.Service
open Controller (OperationState)

def Kind.connects : Kind → Bool
  | .connect | .pair => true
  | .forgetPairing | .historySync _ => false

def Kind.synchronizes : Kind → Bool
  | .historySync _ => true
  | .connect | .pair | .forgetPairing => false

def Kind.launches : Kind → Bool
  | .forgetPairing => true
  | .connect | .pair | .historySync _ => false

theorem Kind.connects_only {kind : Kind} (connects : kind.connects = true) : kind.launches = false ∧ kind.synchronizes = false := by
  cases kind with
  | connect | pair => exact ⟨rfl,rfl⟩
  | forgetPairing | historySync => cases connects

theorem Kind.launches_only {kind : Kind} (launches : kind.launches = true) : kind.connects = false ∧ kind.synchronizes = false := by
  cases kind with
  | forgetPairing => exact ⟨rfl,rfl⟩
  | connect | pair | historySync => cases launches

theorem Kind.synchronizes_only {kind : Kind} (synchronizes : kind.synchronizes = true) :
    kind.connects = false ∧ kind.launches = false := by
  cases kind with
  | historySync => exact ⟨rfl,rfl⟩
  | connect | pair | forgetPairing => cases synchronizes

-- The event of an operation is set exactly when it is terminal; others are not pruned.
structure TrackedOperation.Sound (operation : TrackedOperation) : Prop where
  completion : operation.completion = terminal operation.state
  tracked : terminal operation.state = false → operation.tracked = true

namespace TrackedOperation

variable {operation : TrackedOperation}

theorem sound_create (kind : Kind) (now : Rat) : (create kind now).Sound := ⟨rfl,fun _ => rfl⟩

theorem Sound.run (sound : operation.Sound) (queued : operation.state = .queued) (now : Rat) : (operation.run now).Sound := by
  have open' : terminal operation.state = false := by rw [queued]; rfl
  exact ⟨sound.completion.trans open',fun _ => sound.tracked open'⟩

theorem Sound.completed (sound : operation.Sound) : (operation.completion || operation.tracked) = true := by
  cases ended : terminal operation.state with
  | false => rw [sound.tracked ended,Bool.or_true]
  | true => rw [sound.completion,ended,Bool.true_or]

theorem Sound.succeed (sound : operation.Sound) (now : Rat) : (operation.succeed now).Sound := ⟨sound.completed,nofun⟩

theorem Sound.fail (sound : operation.Sound) (error : String × String) (now : Rat) : (operation.fail error now).Sound :=
  ⟨sound.completed,nofun⟩

theorem Sound.prune (sound : operation.Sound) (cutoff : Rat) : (operation.prune cutoff).Sound := by
  unfold TrackedOperation.prune
  split
  · rename_i expired
    refine ⟨sound.completion,fun running => ?_⟩
    rw [running] at expired
    cases expired
  · exact sound

theorem Sound.cancel_eq (sound : operation.Sound) (reason : String) (now : Rat) :
    operation.cancel reason now =
      if terminal operation.state then operation
      else
        { operation with
          state := .cancelled, error := some ("CancelledError",reason), updatedAtUtc := now, completion := true } := by
  unfold TrackedOperation.cancel
  cases ended : terminal operation.state with
  | false => simp [sound.tracked ended]
  | true => simp

theorem Sound.cancel (sound : operation.Sound) (reason : String) (now : Rat) : (operation.cancel reason now).Sound := by
  rw [sound.cancel_eq]
  split
  · exact sound
  · exact ⟨rfl,nofun⟩

theorem prune_kind (cutoff : Rat) : (operation.prune cutoff).kind = operation.kind := by
  unfold prune
  split <;> rfl

theorem prune_state (cutoff : Rat) : (operation.prune cutoff).state = operation.state := by
  unfold prune
  split <;> rfl

end TrackedOperation

abbrev Status := Nat → Option (Kind × OperationState)

def TrackedOperation.status (operation : TrackedOperation) : Kind × OperationState := (operation.kind,operation.state)

namespace Tracking

variable {t : Tracking} {n : Nat}

def status (t : Tracking) : Status := fun n => t.operations[n]?.map TrackedOperation.status

def Sound (t : Tracking) : Prop := ∀ operation ∈ t.operations, operation.Sound

theorem status_fresh : t.status t.operations.length = none := by
  simp [status]

theorem status_some : t.status n = some (kind,state) ↔
    ∃ operation, t.operations[n]? = some operation ∧ operation.kind = kind ∧ operation.state = state := by
  simp [status,TrackedOperation.status]

theorem length_prune (retention : Rat) : (t.pruneOperations retention).operations.length = t.operations.length :=
  List.length_map _

theorem status_prune (retention : Rat) : (t.pruneOperations retention).status = t.status := by
  funext n
  have same (operation : TrackedOperation) (cutoff : Rat) : (operation.prune cutoff).status = operation.status :=
    Prod.ext (TrackedOperation.prune_kind cutoff) (TrackedOperation.prune_state cutoff)
  simp [status,pruneOperations,Function.comp_def,same]

theorem status_append (operation : TrackedOperation) :
    ({ t with operations := t.operations ++ [operation] } : Tracking).status =
      Function.update t.status t.operations.length (some operation.status) := by
  funext n
  by_cases new : n = t.operations.length
  · subst new
    rw [Function.update_self,status,List.getElem?_concat_length]
    rfl
  · rw [Function.update_of_ne new]
    simp only [status]
    rcases Nat.lt_or_gt_of_ne new with old | beyond
    · rw [List.getElem?_append_left old]
    · rw [List.getElem?_eq_none (Nat.le_of_lt beyond),List.getElem?_eq_none (Nat.succ_le_of_lt beyond |>.trans_eq' (by simp))]

theorem status_newOperation (retention : Rat) (kind : Kind) :
    (t.newOperation retention kind).status = Function.update t.status t.operations.length (some (kind,.queued)) := by
  rw [newOperation,status_append,status_prune,length_prune]
  rfl

theorem status_setOperation {change : TrackedOperation → TrackedOperation} {told : Kind × OperationState → Kind × OperationState}
    (same : ∀ operation, t.operations[n]? = some operation → (change operation).status = told operation.status) :
    (t.setOperation n change).status = Function.update t.status n ((t.status n).map told) := by
  funext other
  by_cases here : other = n
  · subst here
    cases present : t.operations[other]? with
    | none => simp [status,setOperation,present]
    | some operation => simp [status,setOperation,present,same operation present]
  · have apart : n ≠ other := fun eq => here eq.symm
    simp [status,setOperation,Function.update_of_ne here,apart]

theorem status_run (n : Nat) (now : Rat) :
    (t.setOperation n (·.run now)).status = Function.update t.status n ((t.status n).map fun told => (told.1,.running)) :=
  status_setOperation fun _ _ => rfl

theorem status_succeed (n : Nat) (now : Rat) :
    (t.setOperation n (·.succeed now)).status = Function.update t.status n ((t.status n).map fun told => (told.1,.succeeded)) :=
  status_setOperation fun _ _ => rfl

theorem status_fail (n : Nat) (error : String × String) (now : Rat) :
    (t.setOperation n (·.fail error now)).status = Function.update t.status n ((t.status n).map fun told => (told.1,.failed)) :=
  status_setOperation fun _ _ => rfl

def cancelled (told : Kind × OperationState) : Kind × OperationState := if terminal told.2 then told else (told.1,.cancelled)

theorem status_cancel (sound : t.Sound) (n : Nat) (reason : String) :
    (t.cancelOperation n reason).status = Function.update t.status n ((t.status n).map cancelled) := by
  refine status_setOperation fun operation present => ?_
  rw [(sound operation (List.mem_of_getElem? present)).cancel_eq]
  cases ended : terminal operation.state <;> simp [cancelled,TrackedOperation.status,ended]

end Tracking

def Ends (told : Kind × OperationState → Kind × OperationState) : Prop :=
  ∀ value, (told value).1 = value.1 ∧ terminal (told value).2 = true

theorem ends_state {state : OperationState} (ended : terminal state = true) : Ends fun told => (told.1,state) :=
  fun _ => ⟨rfl,ended⟩

theorem ends_cancelled : Ends Tracking.cancelled := by
  intro value
  unfold Tracking.cancelled
  split
  · exact ⟨rfl,‹_›⟩
  · exact ⟨rfl,rfl⟩

def Outside (family : Kind → Bool) (value : Option (Kind × OperationState)) : Prop :=
  ∀ kind state, value = some (kind,state) → family kind = false

variable {status : Status} {n : Nat}

theorem outside_none {family : Kind → Bool} (fresh : status n = none) : Outside family (status n) := by
  intro _ _ known
  rw [fresh] at known
  cases known

theorem outside_some {family : Kind → Bool} (other : family kind = false) : Outside family (some (kind,state)) := by
  intro _ _ known
  cases known
  exact other

theorem Outside.map {family : Kind → Bool} {value : Option (Kind × OperationState)}
    {told : Kind × OperationState → Kind × OperationState} (outside : Outside family value) (ends : Ends told) :
    Outside family (value.map told) := by
  intro kind state known
  obtain ⟨before,present,same⟩ := Option.map_eq_some_iff.mp known
  have kept := (ends before).1
  rw [same] at kept
  exact (congrArg family kept).trans (outside _ _ present)

-- At most one connect request is open. It is the pending one, and it is running.
structure Connecting (status : Status) (pending : Option Nat) : Prop where
  running : ∀ n, pending = some n → ∃ kind, kind.connects = true ∧ status n = some (kind,.running)
  pending : ∀ n kind state, status n = some (kind,state) → kind.connects = true → terminal state = false → pending = some n

namespace Connecting

variable {pending : Option Nat}

theorem outside (connecting : Connecting status pending) (old : Outside Kind.connects (status n))
    (new : Outside Kind.connects value) : Connecting (Function.update status n value) pending := by
  refine ⟨fun m held => ?_,fun m kind state present connects running => ?_⟩
  · obtain ⟨kind,connects,present⟩ := connecting.running m held
    have apart : m ≠ n := by
      intro same
      subst same
      rw [old kind _ present] at connects
      cases connects
    exact ⟨kind,connects,(Function.update_of_ne apart _ _).trans present⟩
  · by_cases here : m = n
    · subst here
      rw [Function.update_self] at present
      rw [new kind state present] at connects
      cases connects
    · rw [Function.update_of_ne here] at present
      exact connecting.pending m kind state present connects running

theorem settle (connecting : Connecting status (some n)) (ends : Ends told) :
    Connecting (Function.update status n ((status n).map told)) none := by
  refine ⟨nofun,fun m kind state present connects running => ?_⟩
  by_cases here : m = n
  · subst here
    rw [Function.update_self] at present
    obtain ⟨value,_,same⟩ := Option.map_eq_some_iff.mp present
    have ended := (ends value).2
    rw [same] at ended
    rw [ended] at running
    cases running
  · rw [Function.update_of_ne here] at present
    exact absurd (Option.some.inj (connecting.pending m kind state present connects running)).symm here

theorem append (connecting : Connecting status pending) (fresh : status n = none) (ended : terminal state = true) :
    Connecting (Function.update status n (some (kind,state))) pending := by
  refine ⟨fun m held => ?_,fun m other now present connects running => ?_⟩
  · obtain ⟨other,connects,present⟩ := connecting.running m held
    have apart : m ≠ n := by
      intro same
      rw [same,fresh] at present
      cases present
    exact ⟨other,connects,(Function.update_of_ne apart _ _).trans present⟩
  · by_cases here : m = n
    · subst here
      rw [Function.update_self] at present
      cases present
      rw [ended] at running
      cases running
    · rw [Function.update_of_ne here] at present
      exact connecting.pending m other now present connects running

theorem start (connecting : Connecting status none) (connects : kind.connects = true) :
    Connecting (Function.update status n (some (kind,.running))) (some n) := by
  refine ⟨fun m held => ?_,fun m other now present connects running => ?_⟩
  · cases held
    exact ⟨kind,connects,Function.update_self _ _ _⟩
  · by_cases here : m = n
    · rw [here]
    · rw [Function.update_of_ne here] at present
      cases connecting.pending m other now present connects running

end Connecting

theorem append_cases {tasks : List Task} {task new : Task} {k : Nat} (present : (tasks ++ [new])[k]? = some task) :
    tasks[k]? = some task ∨ k = tasks.length ∧ task = new := by
  grind

theorem append_old {tasks : List Task} {task : Task} {k : Nat} (present : tasks[k]? = some task) (new : Task) :
    (tasks ++ [new])[k]? = some task := by
  grind

theorem modify_cases {tasks : List Task} {task : Task} {change : Task → Task} {k l : Nat}
    (present : (tasks.modify k change)[l]? = some task) :
    l ≠ k ∧ tasks[l]? = some task ∨ l = k ∧ ∃ old, tasks[k]? = some old ∧ task = change old := by
  by_cases here : l = k
  · subst here
    rw [List.getElem?_modify_eq] at present
    obtain ⟨old,known,same⟩ := Option.map_eq_some_iff.mp present
    exact .inr ⟨rfl,old,known,same.symm⟩
  · rw [List.getElem?_modify_ne _ _ (Ne.symm here)] at present
    exact .inl ⟨here,present⟩

theorem modify_here {tasks : List Task} {old : Task} {k : Nat} (present : tasks[k]? = some old) (change : Task → Task) :
    (tasks.modify k change)[k]? = some (change old) := by
  rw [List.getElem?_modify_eq,present]
  rfl

theorem modify_apart {tasks : List Task} {k l : Nat} (apart : l ≠ k) (change : Task → Task) :
    (tasks.modify k change)[l]? = tasks[l]? := List.getElem?_modify_ne _ _ (Ne.symm apart)

theorem modify_work {tasks : List Task} {task old : Task} {change : Task → Task} {k l : Nat} (present : tasks[k]? = some old)
    (same : (change old).work = old.work) (found : (tasks.modify k change)[l]? = some task) :
    ∃ before, tasks[l]? = some before ∧ before.work = task.work := by
  rcases modify_cases found with ⟨_,elsewhere⟩ | ⟨rfl,_,known,rfl⟩
  · exact ⟨task,elsewhere,rfl⟩
  · rw [present] at known
    cases known
    exact ⟨old,present,same.symm⟩

-- A launched operation is finished by its task, unless that was cancelled before it ran.
structure Launching (status : Status) (tasks : List Task) : Prop where
  works : ∀ (k : Nat) task n, tasks[k]? = some task → task.work = .run n → ∃ kind state, status n = some (kind,state) ∧
    kind.launches = true ∧ (task.state = .created → state = .queued) ∧ (task.state = .running → state = .running)
  distinct : ∀ (k l : Nat) task other n, tasks[k]? = some task → tasks[l]? = some other → task.work = .run n →
    other.work = .run n → k = l
  worker : ∀ n kind state, status n = some (kind,state) → kind.launches = true → terminal state = false →
    ∃ k : Nat, ∃ task, tasks[k]? = some task ∧ task.work = .run n ∧
      (task.state = .created ∨ task.state = .running ∨ task.cancelRequested = true)

namespace Launching

variable {tasks : List Task} {task : Task} {k : Nat}

theorem outside (launching : Launching status tasks) (old : Outside Kind.launches (status n))
    (new : Outside Kind.launches value) : Launching (Function.update status n value) tasks := by
  refine ⟨fun k task m present work => ?_,launching.distinct,fun m kind state present launches running => ?_⟩
  · obtain ⟨kind,state,known,launches,rest⟩ := launching.works k task m present work
    have apart : m ≠ n := by
      intro same
      subst same
      rw [old kind _ known] at launches
      cases launches
    exact ⟨kind,state,(Function.update_of_ne apart _ _).trans known,launches,rest⟩
  · by_cases here : m = n
    · subst here
      rw [Function.update_self] at present
      rw [new kind state present] at launches
      cases launches
    · rw [Function.update_of_ne here] at present
      exact launching.worker m kind state present launches running

theorem unclaimed (launching : Launching status tasks) (fresh : status n = none) (present : tasks[k]? = some task) :
    task.work ≠ .run n := by
  intro work
  obtain ⟨_,_,known,_⟩ := launching.works k task n present work
  rw [fresh] at known
  cases known

theorem launch (launching : Launching status tasks) (fresh : status n = none) (launches : kind.launches = true) :
    Launching (Function.update status n (some (kind,.queued))) (tasks ++ [⟨.run n,.created,false⟩]) := by
  refine ⟨fun k task m present work => ?_,fun k l task other m present second work same => ?_,
    fun m other state present launched running => ?_⟩
  · rcases append_cases present with old | ⟨_,rfl⟩
    · have apart : m ≠ n := fun same => launching.unclaimed fresh old (same ▸ work)
      rw [Function.update_of_ne apart]
      exact launching.works k task m old work
    · cases work
      exact ⟨kind,.queued,Function.update_self _ _ _,launches,fun _ => rfl,nofun⟩
  · rcases append_cases present with old | ⟨rfl,rfl⟩
    · rcases append_cases second with older | ⟨rfl,rfl⟩
      · exact launching.distinct k l task other m old older work same
      · cases same
        exact absurd work (launching.unclaimed fresh old)
    · rcases append_cases second with older | ⟨rfl,_⟩
      · cases work
        exact absurd same (launching.unclaimed fresh older)
      · rfl
  · by_cases here : m = n
    · exact ⟨tasks.length,_,List.getElem?_concat_length,by rw [here],.inl rfl⟩
    · rw [Function.update_of_ne here] at present
      obtain ⟨k,task,old,work,alive⟩ := launching.worker m other state present launched running
      exact ⟨k,task,append_old old _,work,alive⟩

theorem append (launching : Launching status tasks) (other : ∀ n, new.work ≠ .run n) : Launching status (tasks ++ [new]) := by
  refine ⟨fun k task m present work => ?_,fun k l task second m present later work same => ?_,
    fun m kind state present launched running => ?_⟩
  · rcases append_cases present with old | ⟨_,rfl⟩
    · exact launching.works k task m old work
    · exact absurd work (other m)
  · rcases append_cases present with old | ⟨_,rfl⟩
    · rcases append_cases later with older | ⟨_,rfl⟩
      · exact launching.distinct k l task second m old older work same
      · exact absurd same (other m)
    · exact absurd work (other m)
  · obtain ⟨k,task,old,work,alive⟩ := launching.worker m kind state present launched running
    exact ⟨k,task,append_old old _,work,alive⟩

def Alive (task : Task) : Prop := task.state = .created ∨ task.state = .running ∨ task.cancelRequested = true

structure Still (old new : Task) : Prop where
  created : new.state = .created → old.state = .created
  running : new.state = .running → old.state = .running
  alive : Alive old → Alive new

theorem rework {change : Task → Task} (launching : Launching status tasks) (present : tasks[k]? = some old)
    (same : (change old).work = old.work) (still : ∀ n, old.work = .run n → Still old (change old)) :
    Launching status (tasks.modify k change) := by
  refine ⟨fun l task m found work => ?_,fun l l' task other m found later work again => ?_,
    fun m kind state known launched unfinished => ?_⟩
  · rcases modify_cases found with ⟨_,elsewhere⟩ | ⟨_,_,known,rfl⟩
    · exact launching.works l task m elsewhere work
    · rw [present] at known
      cases known
      obtain ⟨kind,state,known,launches,queued,runs⟩ := launching.works k old m present (same ▸ work)
      have steady := still m (same ▸ work)
      exact ⟨kind,state,known,launches,fun fresh => queued (steady.created fresh),fun now => runs (steady.running now)⟩
  · obtain ⟨first,one,run⟩ := modify_work present same found
    obtain ⟨second,two,runs⟩ := modify_work present same later
    exact launching.distinct l l' first second m one two (run.trans work) (runs.trans again)
  · obtain ⟨l,task,found,work,lives⟩ := launching.worker m kind state known launched unfinished
    by_cases here : l = k
    · subst here
      rw [present] at found
      cases found
      exact ⟨l,_,modify_here present change,same.trans work,(still m work).alive lives⟩
    · exact ⟨l,task,(modify_apart here change).trans found,work,lives⟩

theorem advance {change : Task → Task} (launching : Launching status tasks) (present : tasks[k]? = some old)
    (work : old.work = .run n) (same : (change old).work = old.work) (launches : kind.launches = true)
    (created : (change old).state = .created → state = .queued) (running : (change old).state = .running → state = .running)
    (alive : terminal state = false → Alive (change old)) :
    Launching (Function.update status n (some (kind,state))) (tasks.modify k change) := by
  have only {l : Nat} {task : Task} (found : tasks[l]? = some task) (elsewhere : l ≠ k) : task.work ≠ .run n :=
    fun other => elsewhere (launching.distinct l k task old n found present other work)
  refine ⟨fun l task m found works => ?_,fun l l' task other m found later works again => ?_,
    fun m other now known launched unfinished => ?_⟩
  · rcases modify_cases found with ⟨elsewhere,found⟩ | ⟨_,_,known,rfl⟩
    · have apart : m ≠ n := fun eq => only found elsewhere (eq ▸ works)
      rw [Function.update_of_ne apart]
      exact launching.works l task m found works
    · rw [present] at known
      cases known
      rw [same,work] at works
      cases works
      exact ⟨kind,state,Function.update_self _ _ _,launches,created,running⟩
  · obtain ⟨first,one,run⟩ := modify_work present same found
    obtain ⟨second,two,runs⟩ := modify_work present same later
    exact launching.distinct l l' first second m one two (run.trans works) (runs.trans again)
  · by_cases here : m = n
    · subst here
      rw [Function.update_self] at known
      cases known
      exact ⟨k,_,modify_here present change,same.trans work,alive unfinished⟩
    · rw [Function.update_of_ne here] at known
      obtain ⟨l,task,found,works,lives⟩ := launching.worker m other now known launched unfinished
      have elsewhere : l ≠ k := by
        intro eq
        subst eq
        rw [present] at found
        cases found
        rw [work] at works
        cases works
        exact here rfl
      exact ⟨l,task,(modify_apart elsewhere change).trans found,works,lives⟩

end Launching

def Work.Synchronizes (work : Work) (n : Nat) : Prop :=
  ∃ source targetGeneration, work = .synchronizeHistory n source targetGeneration

theorem Work.Synchronizes.unique {work : Work} {m : Nat} (one : work.Synchronizes n) (other : work.Synchronizes m) : n = m := by
  obtain ⟨_,_,rfl⟩ := one
  obtain ⟨_,_,same⟩ := other
  cases same
  rfl

structure Synchronizing (status : Status) (tasks : List Task) (historyOperation : Option Nat) : Prop where
  works : ∀ (k : Nat) task n, tasks[k]? = some task → task.work.Synchronizes n →
    ∃ kind state, status n = some (kind,state) ∧ kind.synchronizes = true
  slot : ∀ n, historyOperation = some n → ∃ kind state, status n = some (kind,state) ∧ kind.synchronizes = true
  worker : ∀ n kind state, status n = some (kind,state) → kind.synchronizes = true → terminal state = false →
    ∃ k : Nat, ∃ task, tasks[k]? = some task ∧ task.work.Synchronizes n ∧ task.state ≠ .reported

namespace Synchronizing

variable {tasks : List Task} {task : Task} {k : Nat} {historyOperation : Option Nat}

theorem outside (synchronizing : Synchronizing status tasks historyOperation) (old : Outside Kind.synchronizes (status n))
    (new : Outside Kind.synchronizes value) : Synchronizing (Function.update status n value) tasks historyOperation := by
  have apart {m : Nat} {kind : Kind} {state : OperationState} (known : status m = some (kind,state))
      (synchronizes : kind.synchronizes = true) : Function.update status n value m = some (kind,state) := by
    have other : m ≠ n := by
      intro same
      subst same
      rw [old kind state known] at synchronizes
      cases synchronizes
    exact (Function.update_of_ne other _ _).trans known
  refine ⟨fun k task m present work => ?_,fun m held => ?_,fun m kind state present synchronizes running => ?_⟩
  · obtain ⟨kind,state,known,synchronizes⟩ := synchronizing.works k task m present work
    exact ⟨kind,state,apart known synchronizes,synchronizes⟩
  · obtain ⟨kind,state,known,synchronizes⟩ := synchronizing.slot m held
    exact ⟨kind,state,apart known synchronizes,synchronizes⟩
  · by_cases here : m = n
    · subst here
      rw [Function.update_self] at present
      rw [new kind state present] at synchronizes
      cases synchronizes
    · rw [Function.update_of_ne here] at present
      exact synchronizing.worker m kind state present synchronizes running

theorem unclaimed (synchronizing : Synchronizing status tasks historyOperation) (fresh : status n = none)
    (present : tasks[k]? = some task) : ¬ task.work.Synchronizes n := by
  intro work
  obtain ⟨_,_,known,_⟩ := synchronizing.works k task n present work
  rw [fresh] at known
  cases known

theorem start (synchronizing : Synchronizing status tasks historyOperation) (fresh : status n = none)
    (synchronizes : kind.synchronizes = true) (source : HistorySource) (targetGeneration : Nat) :
    Synchronizing (Function.update status n (some (kind,.running)))
      (tasks ++ [⟨.synchronizeHistory n source targetGeneration,.created,false⟩]) (some n) := by
  have here : Function.update status n (some (kind,.running)) n = some (kind,.running) := Function.update_self _ _ _
  refine ⟨fun k task m present work => ?_,fun m held => ?_,fun m other state present known running => ?_⟩
  · rcases append_cases present with old | ⟨_,rfl⟩
    · have apart : m ≠ n := fun same => synchronizing.unclaimed fresh old (same ▸ work)
      rw [Function.update_of_ne apart]
      exact synchronizing.works k task m old work
    · obtain ⟨_,_,same⟩ := work
      cases same
      exact ⟨kind,.running,here,synchronizes⟩
  · cases held
    exact ⟨kind,.running,here,synchronizes⟩
  · by_cases same : m = n
    · exact ⟨tasks.length,_,List.getElem?_concat_length,⟨source,targetGeneration,by rw [same]⟩,nofun⟩
    · rw [Function.update_of_ne same] at present
      obtain ⟨k,task,old,work,waits⟩ := synchronizing.worker m other state present known running
      exact ⟨k,task,append_old old _,work,waits⟩

theorem append (synchronizing : Synchronizing status tasks historyOperation) (other : ∀ n, ¬ new.work.Synchronizes n) :
    Synchronizing status (tasks ++ [new]) historyOperation := by
  refine ⟨fun k task m present work => ?_,synchronizing.slot,fun m kind state present known running => ?_⟩
  · rcases append_cases present with old | ⟨_,rfl⟩
    · exact synchronizing.works k task m old work
    · exact absurd work (other m)
  · obtain ⟨k,task,old,work,waits⟩ := synchronizing.worker m kind state present known running
    exact ⟨k,task,append_old old _,work,waits⟩

theorem rework {change : Task → Task} (synchronizing : Synchronizing status tasks historyOperation)
    (present : tasks[k]? = some old) (same : (change old).work = old.work)
    (waits : ∀ n kind state, old.work.Synchronizes n → status n = some (kind,state) → terminal state = false →
      old.state ≠ .reported → (change old).state ≠ .reported) :
    Synchronizing status (tasks.modify k change) historyOperation := by
  refine ⟨fun l task m found work => ?_,synchronizing.slot,fun m kind state known synchronizes running => ?_⟩
  · obtain ⟨before,one,work'⟩ := modify_work present same found
    exact synchronizing.works l before m one (work'.symm ▸ work)
  · obtain ⟨l,task,found,work,unreported⟩ := synchronizing.worker m kind state known synchronizes running
    by_cases here : l = k
    · subst here
      rw [present] at found
      cases found
      exact ⟨l,_,modify_here present change,same.symm ▸ work,waits m kind state work known running unreported⟩
    · exact ⟨l,task,(modify_apart here change).trans found,work,unreported⟩

theorem settle (synchronizing : Synchronizing status tasks historyOperation) (ends : Ends told) :
    Synchronizing (Function.update status n ((status n).map told)) tasks historyOperation := by
  have kept {m : Nat} {kind : Kind} {state : OperationState} (known : status m = some (kind,state)) :
      ∃ state, Function.update status n ((status n).map told) m = some (kind,state) := by
    by_cases here : m = n
    · subst here
      rw [Function.update_self,known]
      exact ⟨(told (kind,state)).2,congrArg some (Prod.ext (ends (kind,state)).1 rfl)⟩
    · rw [Function.update_of_ne here]
      exact ⟨state,known⟩
  refine ⟨fun k task m present work => ?_,fun m held => ?_,fun m kind state present synchronizes running => ?_⟩
  · obtain ⟨kind,_,known,synchronizes⟩ := synchronizing.works k task m present work
    obtain ⟨state,now⟩ := kept known
    exact ⟨kind,state,now,synchronizes⟩
  · obtain ⟨kind,_,known,synchronizes⟩ := synchronizing.slot m held
    obtain ⟨state,now⟩ := kept known
    exact ⟨kind,state,now,synchronizes⟩
  · by_cases here : m = n
    · subst here
      rw [Function.update_self] at present
      obtain ⟨value,_,same⟩ := Option.map_eq_some_iff.mp present
      have ended := (ends value).2
      rw [same] at ended
      rw [ended] at running
      cases running
    · rw [Function.update_of_ne here] at present
      exact synchronizing.worker m kind state present synchronizes running

theorem clear (synchronizing : Synchronizing status tasks historyOperation) : Synchronizing status tasks none :=
  ⟨synchronizing.works,nofun,synchronizing.worker⟩

end Synchronizing

-- Only the registered history synchronisation runs, and its operation is running; one that
-- has ended has not been told yet.
structure Single (status : Status) (tasks : List Task) (historyTask historyOperation : Option Nat) : Prop where
  running : ∀ (k : Nat) task n, tasks[k]? = some task → task.work.Synchronizes n → task.state ≠ .reported →
    ∃ kind, status n = some (kind,.running)
  current : ∀ (k : Nat) task n, tasks[k]? = some task → task.work.Synchronizes n → task.done = false → historyTask = some k
  slot : ∀ k, historyTask = some k → ∃ task n, tasks[k]? = some task ∧ task.work.Synchronizes n ∧ task.state ≠ .reported ∧
    historyOperation = some n
  empty : historyTask = none → historyOperation = none
  distinct : ∀ (k l : Nat) task other n, tasks[k]? = some task → tasks[l]? = some other → task.work.Synchronizes n →
    other.work.Synchronizes n → k = l

namespace Single

variable {tasks : List Task} {task : Task} {k : Nat} {historyTask historyOperation : Option Nat}

theorem outside (single : Single status tasks historyTask historyOperation)
    (apart : ∀ (k : Nat) task, tasks[k]? = some task → task.state ≠ .reported → ¬ task.work.Synchronizes n) :
    Single (Function.update status n value) tasks historyTask historyOperation := by
  refine ⟨fun k task m present work waits => ?_,single.current,single.slot,single.empty,single.distinct⟩
  have other : m ≠ n := fun same => apart k task present waits (same ▸ work)
  rw [Function.update_of_ne other]
  exact single.running k task m present work waits

theorem append (single : Single status tasks historyTask historyOperation) (other : ∀ n, ¬ new.work.Synchronizes n) :
    Single status (tasks ++ [new]) historyTask historyOperation := by
  have old {k : Nat} {task : Task} {n : Nat} (present : (tasks ++ [new])[k]? = some task) (work : task.work.Synchronizes n) :
      tasks[k]? = some task := by
    rcases append_cases present with old | ⟨_,rfl⟩
    · exact old
    · exact absurd work (other n)
  refine ⟨fun k task n present work => single.running k task n (old present work) work,
    fun k task n present work => single.current k task n (old present work) work,fun k held => ?_,single.empty,
    fun k l task second n one two work again => single.distinct k l task second n (old one work) (old two again) work again⟩
  obtain ⟨task,n,present,rest⟩ := single.slot k held
  exact ⟨task,n,append_old present _,rest⟩

theorem start (single : Single status tasks historyTask historyOperation)
    (unclaimed : ∀ (k : Nat) task, tasks[k]? = some task → ¬ task.work.Synchronizes n)
    (idle : ∀ (k : Nat) task m, tasks[k]? = some task → task.work.Synchronizes m → task.done = true)
    (source : HistorySource) (targetGeneration : Nat) :
    Single (Function.update status n (some (kind,.running)))
      (tasks ++ [⟨.synchronizeHistory n source targetGeneration,.created,false⟩]) (some tasks.length) (some n) := by
  refine ⟨fun k task m present work waits => ?_,fun k task m present work runs => ?_,fun k held => ?_,nofun,
    fun k l task other m present later work again => ?_⟩
  · rcases append_cases present with old | ⟨_,rfl⟩
    · have apart : m ≠ n := fun same => unclaimed k task old (same ▸ work)
      rw [Function.update_of_ne apart]
      exact single.running k task m old work waits
    · obtain ⟨_,_,same⟩ := work
      cases same
      exact ⟨kind,Function.update_self _ _ _⟩
  · rcases append_cases present with old | ⟨rfl,_⟩
    · rw [idle k task m old work] at runs
      cases runs
    · rfl
  · cases held
    exact ⟨_,n,List.getElem?_concat_length,⟨source,targetGeneration,rfl⟩,nofun,rfl⟩
  · rcases append_cases present with old | ⟨rfl,rfl⟩
    · rcases append_cases later with older | ⟨_,rfl⟩
      · exact single.distinct k l task other m old older work again
      · obtain ⟨_,_,same⟩ := again
        cases same
        exact absurd work (unclaimed k task old)
    · rcases append_cases later with older | ⟨rfl,_⟩
      · obtain ⟨_,_,same⟩ := work
        cases same
        exact absurd again (unclaimed l other older)
      · rfl

theorem rework {change : Task → Task} (single : Single status tasks historyTask historyOperation)
    (present : tasks[k]? = some old) (same : (change old).work = old.work)
    (waits : ∀ n, old.work.Synchronizes n → ((change old).state ≠ .reported ↔ old.state ≠ .reported))
    (runs : ∀ n, old.work.Synchronizes n → (change old).done = false → old.done = false) :
    Single status (tasks.modify k change) historyTask historyOperation := by
  have origin {l : Nat} {task : Task} {n : Nat} (found : (tasks.modify k change)[l]? = some task) (work : task.work.Synchronizes n) :
      ∃ before, tasks[l]? = some before ∧ before.work.Synchronizes n ∧ (task.state ≠ .reported → before.state ≠ .reported) ∧
        (task.done = false → before.done = false) := by
    rcases modify_cases found with ⟨_,elsewhere⟩ | ⟨rfl,_,known,rfl⟩
    · exact ⟨task,elsewhere,work,fun waiting => waiting,fun running => running⟩
    · rw [present] at known
      cases known
      have again : old.work.Synchronizes n := same ▸ work
      exact ⟨old,present,again,(waits n again).mp,runs n again⟩
  refine ⟨fun l task n found work unreported => ?_,fun l task n found work running => ?_,fun l held => ?_,single.empty,
    fun l l' task other n found later work again => ?_⟩
  · obtain ⟨before,old,work,waiting,_⟩ := origin found work
    exact single.running l before n old work (waiting unreported)
  · obtain ⟨before,old,work,_,going⟩ := origin found work
    exact single.current l before n old work (going running)
  · obtain ⟨task,n,found,work,unreported,slot⟩ := single.slot l held
    by_cases here : l = k
    · subst here
      rw [present] at found
      cases found
      exact ⟨_,n,modify_here present change,same.symm ▸ work,(waits n work).mpr unreported,slot⟩
    · exact ⟨task,n,(modify_apart here change).trans found,work,unreported,slot⟩
  · obtain ⟨first,one,work,_⟩ := origin found work
    obtain ⟨second,two,again,_⟩ := origin later again
    exact single.distinct l l' first second n one two work again

theorem report {change : Task → Task} (single : Single status tasks historyTask historyOperation)
    (present : tasks[k]? = some old) (work : old.work.Synchronizes n) (same : (change old).work = old.work)
    (reported : (change old).state = .reported) :
    Single (Function.update status n value) (tasks.modify k change) (if historyTask = some k then none else historyTask)
      (if historyTask = some k then none else historyOperation) := by
  have origin {l : Nat} {task : Task} {m : Nat} (found : (tasks.modify k change)[l]? = some task) (works : task.work.Synchronizes m)
      (unreported : task.state ≠ .reported) : l ≠ k ∧ tasks[l]? = some task ∧ m ≠ n := by
    rcases modify_cases found with ⟨apart,elsewhere⟩ | ⟨rfl,_,known,rfl⟩
    · exact ⟨apart,elsewhere,fun eq => apart (single.distinct l k task old n elsewhere present (eq ▸ works) work)⟩
    · rw [present] at known
      cases known
      exact absurd reported unreported
  refine ⟨fun l task m found works unreported => ?_,fun l task m found works running => ?_,fun l held => ?_,fun cleared => ?_,
    fun l l' task other m found later works again => ?_⟩
  · obtain ⟨_,elsewhere,other⟩ := origin found works unreported
    rw [Function.update_of_ne other]
    exact single.running l task m elsewhere works unreported
  · have unreported : task.state ≠ .reported := by
      intro eq
      rw [Task.done,eq] at running
      cases running
    obtain ⟨apart,elsewhere,_⟩ := origin found works unreported
    have slot := single.current l task m elsewhere works running
    rw [slot,if_neg (fun eq => apart (Option.some.inj eq))]
  · split at held
    · cases held
    · rename_i other
      obtain ⟨task,m,found,rest⟩ := single.slot l held
      have apart : l ≠ k := fun eq => other (eq ▸ held)
      exact ⟨task,m,(modify_apart apart change).trans found,by rw [if_neg other]; exact rest⟩
  · split at cleared
    · rw [if_pos ‹_›]
    · rw [if_neg ‹_›]
      exact single.empty cleared
  · obtain ⟨first,one,before⟩ := modify_work present same found
    obtain ⟨second,two,after⟩ := modify_work present same later
    exact single.distinct l l' first second m one two (before ▸ works) (after ▸ again)

end Single

namespace Tracking

variable {t : Tracking} {retention : Rat} {k : Nat} {task : Task}

structure Kept (t : Tracking) : Prop where
  sound : t.Sound
  connecting : Connecting t.status t.pendingConnectOperation
  launching : Launching t.status t.tasks
  synchronizing : Synchronizing t.status t.tasks t.historyOperation

def Exclusive (t : Tracking) : Prop := Single t.status t.tasks t.historyTask t.historyOperation

theorem Sound.prune (sound : t.Sound) (retention : Rat) : (t.pruneOperations retention).Sound := by
  intro operation member
  obtain ⟨before,old,rfl⟩ := List.mem_map.mp member
  exact (sound before old).prune _

theorem Sound.append (sound : t.Sound) (new : operation.Sound) :
    Sound { t with operations := t.operations ++ [operation] } := by
  intro other member
  rcases List.mem_append.mp member with old | last
  · exact sound other old
  · rw [List.mem_singleton.mp last]
    exact new

theorem Sound.newOperation (sound : t.Sound) (retention : Rat) (kind : Kind) : (t.newOperation retention kind).Sound :=
  (sound.prune retention).append (TrackedOperation.sound_create kind t.utcNow)

theorem Sound.setOperation {change : TrackedOperation → TrackedOperation} (sound : t.Sound)
    (kept : ∀ operation, t.operations[n]? = some operation → operation.Sound → (change operation).Sound) :
    (t.setOperation n change).Sound := by
  intro operation member
  obtain ⟨m,found⟩ := List.mem_iff_getElem?.mp member
  by_cases here : m = n
  · subst here
    rw [Tracking.setOperation,List.getElem?_modify_eq] at found
    obtain ⟨before,present,same⟩ := Option.map_eq_some_iff.mp found
    rw [← same]
    exact kept before present (sound before (List.mem_of_getElem? present))
  · rw [Tracking.setOperation,List.getElem?_modify_ne _ _ (Ne.symm here)] at found
    exact sound operation (List.mem_of_getElem? found)

theorem Sound.cancel (sound : t.Sound) (n : Nat) (reason : String) : (t.cancelOperation n reason).Sound :=
  sound.setOperation fun _ _ known => known.cancel reason t.utcNow

theorem Sound.succeed (sound : t.Sound) (n : Nat) (now : Rat) : (t.setOperation n (·.succeed now)).Sound :=
  sound.setOperation fun _ _ known => known.succeed now

theorem Sound.fail (sound : t.Sound) (n : Nat) (error : String × String) (now : Rat) :
    (t.setOperation n (·.fail error now)).Sound :=
  sound.setOperation fun _ _ known => known.fail error now

theorem Sound.run (sound : t.Sound) (queued : t.status n = some (kind,.queued)) (now : Rat) :
    (t.setOperation n (·.run now)).Sound := by
  refine sound.setOperation fun operation present known => known.run ?_ now
  obtain ⟨other,found,_,state⟩ := status_some.mp queued
  rw [present] at found
  cases found
  exact state

theorem Sound.cancelPendingConnect (sound : t.Sound) (reason : String) : (t.cancelPendingConnect reason).Sound := by
  unfold Tracking.cancelPendingConnect
  split
  · exact sound
  · exact sound.cancel _ reason

theorem status_created (retention : Rat) (kind : Kind) (told : Kind × OperationState → Kind × OperationState) :
    Function.update (t.newOperation retention kind).status t.operations.length
        (((t.newOperation retention kind).status t.operations.length).map told) =
      Function.update t.status t.operations.length (some (told (kind,.queued))) := by
  rw [status_newOperation,Function.update_self,Function.update_idem]
  rfl

theorem queued_created (retention : Rat) (kind : Kind) :
    (t.newOperation retention kind).status t.operations.length = some (kind,.queued) := by
  rw [status_newOperation,Function.update_self]

theorem status_alreadyConnected (retention : Rat) (kind : Kind) :
    (t.alreadyConnected retention kind).status = Function.update t.status t.operations.length (some (kind,.succeeded)) := by
  rw [alreadyConnected,status_succeed,status_created]

theorem status_launchOperation (retention : Rat) (kind : Kind) :
    (t.launchOperation retention kind).status = Function.update t.status t.operations.length (some (kind,.queued)) :=
  status_newOperation retention kind

theorem Kept.prune (kept : Kept t) (retention : Rat) : Kept (t.pruneOperations retention) := by
  obtain ⟨sound,connecting,launching,synchronizing⟩ := kept
  rw [← status_prune retention] at connecting launching synchronizing
  exact ⟨sound.prune retention,connecting,launching,synchronizing⟩

theorem Kept.alreadyConnected (kept : Kept t) (retention : Rat) (connects : kind.connects = true) :
    Kept (t.alreadyConnected retention kind) := by
  have others := Kind.connects_only connects
  have fresh : t.status t.operations.length = none := status_fresh
  refine ⟨(kept.sound.newOperation retention kind).succeed _ _,?_,?_,?_⟩
  · rw [status_alreadyConnected]
    exact kept.connecting.append fresh rfl
  · rw [status_alreadyConnected]
    exact kept.launching.outside (outside_none fresh) (outside_some others.1)
  · rw [status_alreadyConnected]
    exact kept.synchronizing.outside (outside_none fresh) (outside_some others.2)

theorem Kept.tellPending {sounder : Tracking} (kept : Kept t) (pending : t.pendingConnectOperation = some n) (ends : Ends told)
    (sound : sounder.Sound) (same : sounder.status = Function.update t.status n ((t.status n).map told)) :
    Kept { sounder with pendingConnectOperation := none, tasks := t.tasks, historyOperation := t.historyOperation } := by
  obtain ⟨kind,connects,running⟩ := kept.connecting.running n pending
  have others := Kind.connects_only connects
  have outside {family : Kind → Bool} (other : family kind = false) : Outside family (t.status n) := by
    rw [running]
    exact outside_some other
  refine ⟨sound,?_,?_,?_⟩
  · change Connecting sounder.status none
    rw [same]
    have connecting := kept.connecting
    rw [pending] at connecting
    exact connecting.settle ends
  · change Launching sounder.status t.tasks
    rw [same]
    exact kept.launching.outside (outside others.1) (Outside.map (outside others.1) ends)
  · change Synchronizing sounder.status t.tasks t.historyOperation
    rw [same]
    exact kept.synchronizing.outside (outside others.2) (Outside.map (outside others.2) ends)

theorem Kept.cancelPendingConnect (kept : Kept t) (reason : String) : Kept (t.cancelPendingConnect reason) := by
  unfold Tracking.cancelPendingConnect
  split
  · exact kept
  · rename_i n pending
    exact kept.tellPending pending ends_cancelled (kept.sound.cancel n reason) (status_cancel kept.sound n reason)

theorem Kept.found (kept : Kept t) (pending : t.pendingConnectOperation = some n) (present : t.operations[n]? = some operation) :
    operation.tracked = true := by
  obtain ⟨kind,_,running⟩ := kept.connecting.running n pending
  obtain ⟨other,found,_,state⟩ := status_some.mp running
  rw [present] at found
  cases found
  apply (kept.sound operation (List.mem_of_getElem? present)).tracked
  rw [state]
  rfl

theorem Kept.settlePendingConnect {finish : TrackedOperation → TrackedOperation} (kept : Kept t)
    (finishes : ∀ operation : TrackedOperation, operation.Sound → (finish operation).Sound)
    (told : ∀ operation : TrackedOperation, (finish operation).status = (operation.kind,state)) (ended : terminal state = true) :
    Kept (t.settlePendingConnect finish) := by
  unfold Tracking.settlePendingConnect
  split
  · exact kept
  · rename_i n pending
    refine kept.tellPending pending (ends_state ended) (kept.sound.setOperation fun operation _ known => ?_)
      (status_setOperation fun operation present => ?_)
    · split
      · exact finishes operation known
      · exact known
    · rw [if_pos (kept.found pending present)]
      exact told operation

theorem Kept.completePendingConnect (kept : Kept t) : Kept t.completePendingConnect :=
  kept.settlePendingConnect (fun _ known => known.succeed _) (fun _ => rfl) rfl

theorem Kept.failPendingConnect (kept : Kept t) (message : String) : Kept (t.failPendingConnect message) :=
  kept.settlePendingConnect (fun _ known => known.fail _ _) (fun _ => rfl) rfl

theorem status_cancelPendingConnect (sound : t.Sound) (reason : String) :
    (t.cancelPendingConnect reason).status = match t.pendingConnectOperation with
      | none => t.status
      | some n => Function.update t.status n ((t.status n).map cancelled) := by
  unfold Tracking.cancelPendingConnect
  cases pending : t.pendingConnectOperation with
  | none => rfl
  | some n => exact status_cancel sound n reason

theorem Kept.status_beginConnect (kept : Kept t) (retention : Rat) (kind : Kind) :
    (t.beginConnect retention kind).status = Function.update (t.cancelPendingConnect "").status t.operations.length (some (kind,.running)) := by
  have sound := kept.sound.newOperation retention kind
  have told : (t.beginConnect retention kind).status =
      Function.update ((t.newOperation retention kind).cancelPendingConnect "superseded by another connect request").status t.operations.length
        (Option.map (fun told => (told.1,.running))
          (((t.newOperation retention kind).cancelPendingConnect "superseded by another connect request").status t.operations.length)) :=
    status_run _ _
  rw [told,status_cancelPendingConnect sound,status_cancelPendingConnect kept.sound]
  have same : (t.newOperation retention kind).pendingConnectOperation = t.pendingConnectOperation := rfl
  rw [same]
  cases pending : t.pendingConnectOperation with
  | none => exact status_created retention kind _
  | some n =>
    obtain ⟨_,_,running⟩ := kept.connecting.running n pending
    have apart : t.operations.length ≠ n := by
      intro eq
      rw [← eq,status_fresh] at running
      cases running
    dsimp only
    rw [Function.update_of_ne apart,queued_created,status_newOperation,Function.update_of_ne (Ne.symm apart),
      Function.update_comm apart,Function.update_idem]
    rfl

structure Beside (t next : Tracking) : Prop where
  tasks : next.tasks = t.tasks
  historyTask : next.historyTask = t.historyTask
  historyOperation : next.historyOperation = t.historyOperation
  backgroundTasks : next.backgroundTasks = t.backgroundTasks
  length : next.operations.length = t.operations.length

theorem cancelPendingConnect_beside (reason : String) : Beside t (t.cancelPendingConnect reason) := by
  unfold Tracking.cancelPendingConnect
  split
  · exact ⟨rfl,rfl,rfl,rfl,rfl⟩
  · exact ⟨rfl,rfl,rfl,rfl,List.length_modify ..⟩

theorem cancelPendingConnect_none (reason : String) : (t.cancelPendingConnect reason).pendingConnectOperation = none := by
  unfold Tracking.cancelPendingConnect
  split
  · assumption
  · rfl

theorem beginConnect_beside (retention : Rat) (kind : Kind) :
    (t.beginConnect retention kind).tasks = t.tasks ∧ (t.beginConnect retention kind).historyTask = t.historyTask ∧
      (t.beginConnect retention kind).historyOperation = t.historyOperation ∧
      (t.beginConnect retention kind).backgroundTasks = t.backgroundTasks :=
  have beside := cancelPendingConnect_beside (t := t.newOperation retention kind) "superseded by another connect request"
  ⟨beside.tasks,beside.historyTask,beside.historyOperation,beside.backgroundTasks⟩

theorem Kept.beginConnect (kept : Kept t) (retention : Rat) (connects : kind.connects = true) :
    Kept (t.beginConnect retention kind) := by
  have others := Kind.connects_only connects
  have beside := cancelPendingConnect_beside (t := t) ""
  obtain ⟨tasks,_,historyOperation,_⟩ := beginConnect_beside (t := t) retention kind
  have before : Kept (t.cancelPendingConnect "") := kept.cancelPendingConnect ""
  have fresh : (t.cancelPendingConnect "").status t.operations.length = none := by
    rw [← beside.length]
    exact status_fresh
  refine ⟨?_,?_,?_,?_⟩
  · have created := kept.sound.newOperation retention kind
    refine (created.cancelPendingConnect "superseded by another connect request").run (?_ : _ = some (kind,_)) t.utcNow
    rw [status_cancelPendingConnect created]
    cases pending : t.pendingConnectOperation with
    | none =>
      rw [show (t.newOperation retention kind).pendingConnectOperation = none from pending]
      exact queued_created retention kind
    | some n =>
      obtain ⟨_,_,running⟩ := kept.connecting.running n pending
      have apart : t.operations.length ≠ n := by
        intro eq
        rw [← eq,status_fresh] at running
        cases running
      rw [show (t.newOperation retention kind).pendingConnectOperation = some n from pending]
      exact (Function.update_of_ne apart _ _).trans (queued_created retention kind)
  · rw [kept.status_beginConnect]
    have connecting := before.connecting
    rw [cancelPendingConnect_none] at connecting
    exact connecting.start connects
  · rw [kept.status_beginConnect,tasks,← beside.tasks]
    exact before.launching.outside (outside_none fresh) (outside_some others.1)
  · rw [kept.status_beginConnect,tasks,historyOperation,← beside.tasks,← beside.historyOperation]
    exact before.synchronizing.outside (outside_none fresh) (outside_some others.2)

theorem startHistorySync_cases (retention : Rat) (source : HistorySource) (targetGeneration : Nat) :
    t.startHistorySync retention source targetGeneration = t ∧ (∃ k, t.historyTask = some k ∧ t.done k = false) ∨
    (∀ k, t.historyTask = some k → t.done k = true) ∧
      (t.startHistorySync retention source targetGeneration).status =
        Function.update t.status t.operations.length (some (.historySync source,.running)) ∧
      (t.startHistorySync retention source targetGeneration).pendingConnectOperation = t.pendingConnectOperation ∧
      (t.startHistorySync retention source targetGeneration).tasks =
        t.tasks ++ [⟨.synchronizeHistory t.operations.length source targetGeneration,.created,false⟩] ∧
      (t.startHistorySync retention source targetGeneration).historyTask = some t.tasks.length ∧
      (t.startHistorySync retention source targetGeneration).historyOperation = some t.operations.length ∧
      (t.startHistorySync retention source targetGeneration).backgroundTasks = t.backgroundTasks ++ [t.tasks.length] ∧
      (t.Sound → (t.startHistorySync retention source targetGeneration).Sound) := by
  unfold Tracking.startHistorySync
  split
  · rename_i k running
    obtain ⟨slot,undone⟩ := Option.filter_eq_some_iff.mp running
    exact .inl ⟨rfl,k,slot,by simpa using undone⟩
  · rename_i idle
    refine .inr ⟨fun k slot => ?_,?_,rfl,rfl,rfl,rfl,rfl,fun sound => ?_⟩
    · rw [slot,Option.filter_eq_none_iff] at idle
      simpa using idle k rfl
    · exact (status_run _ _).trans (status_created retention (.historySync source) _)
    · exact (sound.newOperation retention _).run (queued_created retention _) t.utcNow

theorem Kept.startHistorySync (kept : Kept t) (retention : Rat) (source : HistorySource) (targetGeneration : Nat) :
    Kept (t.startHistorySync retention source targetGeneration) := by
  rcases startHistorySync_cases (t := t) retention source targetGeneration with
    ⟨same,_⟩ | ⟨_,status,pending,tasks,_,slot,_,sound⟩
  · rw [same]
    exact kept
  · have fresh : t.status t.operations.length = none := status_fresh
    refine ⟨sound kept.sound,?_,?_,?_⟩
    · rw [status,pending]
      exact kept.connecting.outside (outside_none fresh) (outside_some rfl)
    · rw [status,tasks]
      exact (kept.launching.outside (outside_none fresh) (outside_some rfl)).append nofun
    · rw [status,tasks,slot]
      exact kept.synchronizing.start fresh rfl source targetGeneration

theorem Kept.launchOperation (kept : Kept t) (retention : Rat) (launches : kind.launches = true) :
    Kept (t.launchOperation retention kind) := by
  have others := Kind.launches_only launches
  have fresh : t.status t.operations.length = none := status_fresh
  refine ⟨kept.sound.newOperation retention kind,?_,?_,?_⟩
  · rw [status_launchOperation]
    exact kept.connecting.outside (outside_none fresh) (outside_some others.1)
  · rw [status_launchOperation]
    exact kept.launching.launch fresh launches
  · rw [status_launchOperation]
    exact (kept.synchronizing.outside (outside_none fresh) (outside_some others.2)).append fun _ ⟨_,_,same⟩ => by cases same

def Work.Aside (work : Work) : Prop := (∀ n, work ≠ .run n) ∧ ∀ n, ¬ work.Synchronizes n

theorem Kept.createTask (kept : Kept t) (aside : Work.Aside work) : Kept (t.createTask work) :=
  ⟨kept.sound,kept.connecting,kept.launching.append aside.1,kept.synchronizing.append aside.2⟩

theorem Kept.rework {change : Task → Task} (kept : Kept t) (present : t.tasks[k]? = some old) (same : (change old).work = old.work)
    (still : ∀ n, old.work = .run n → Launching.Still old (change old))
    (waits : ∀ n kind state, old.work.Synchronizes n → t.status n = some (kind,state) → terminal state = false →
      old.state ≠ .reported → (change old).state ≠ .reported) : Kept (t.setTask k change) :=
  ⟨kept.sound,kept.connecting,kept.launching.rework present same still,kept.synchronizing.rework present same waits⟩

theorem cancel_state (task : Task) : task.cancel.state = task.state := by
  unfold Task.cancel
  split <;> rfl

theorem cancel_work (task : Task) : task.cancel.work = task.work := by
  unfold Task.cancel
  split <;> rfl

theorem setTask_absent (absent : t.tasks[k]? = none) (change : Task → Task) : t.setTask k change = t := by
  simp [setTask,List.modify_eq_self (List.getElem?_eq_none_iff.mp absent)]

theorem Kept.cancelTask (kept : Kept t) (k : Nat) : Kept (t.setTask k Task.cancel) := by
  cases present : t.tasks[k]? with
  | none =>
    rw [setTask_absent present]
    exact kept
  | some old =>
    have state : old.cancel.state = old.state := cancel_state old
    refine kept.rework present (cancel_work old) (fun _ _ => ⟨?_,?_,?_⟩) ?_
    · rw [state]
      exact id
    · rw [state]
      exact id
    · intro alive
      unfold Task.cancel
      split
      · exact alive
      · exact .inr (.inr rfl)
    · rw [state]
      exact fun _ _ _ _ _ _ => id

theorem Kept.abandonTask (kept : Kept t) (present : t.tasks[k]? = some task) (requested : task.cancelRequested = true) :
    Kept (t.abandonTask k) :=
  kept.rework present rfl (fun _ _ => ⟨nofun,nofun,fun _ => .inr (.inr requested)⟩) fun _ _ _ _ _ _ _ => nofun

theorem Kept.beginTask (kept : Kept t) (present : t.tasks[k]? = some task) (created : task.state = .created) :
    Kept (t.beginTask k task.work) := by
  cases work : task.work with
  | run n =>
    obtain ⟨kind,state,known,launches,queued,_⟩ := kept.launching.works k task n present work
    rw [queued created] at known
    have others := Kind.launches_only launches
    have outside {family : Kind → Bool} (other : family kind = false) : Outside family (t.status n) := by
      rw [known]
      exact outside_some other
    have status : (t.beginTask k (.run n)).status = Function.update t.status n (some (kind,.running)) := by
      have told : (t.beginTask k (.run n)).status = Function.update t.status n ((t.status n).map fun told => (told.1,.running)) :=
        status_run (t := t.setTask k _) n _
      rw [told,known]
      rfl
    refine ⟨Sound.run (t := t.setTask k _) kept.sound known _,?_,?_,?_⟩
    · rw [status]
      exact kept.connecting.outside (outside others.1) (outside_some others.1)
    · rw [status]
      exact kept.launching.advance present work rfl launches nofun (fun _ => rfl) fun _ => .inr (.inl rfl)
    · rw [status]
      refine (kept.synchronizing.outside (outside others.2) (outside_some others.2)).rework present rfl ?_
      exact fun _ _ _ _ _ _ _ => nofun
  | synchronizeHistory | retryWhenReady =>
    refine kept.rework present rfl (fun n run => ?_) fun _ _ _ _ _ _ _ => nofun
    rw [work] at run
    cases run

theorem endTask_told (sound : t.Sound) (k n : Nat) (outcome : Outcome) : ∃ told, Ends told ∧
    (t.endTask k (.run n) outcome).status = Function.update t.status n ((t.status n).map told) ∧
    (t.endTask k (.run n) outcome).Sound := by
  cases outcome with
  | cancelled =>
    exact ⟨cancelled,ends_cancelled,status_cancel (t := t.setTask k _) sound n _,Sound.cancel (t := t.setTask k _) sound n _⟩
  | raised error =>
    exact ⟨_,ends_state rfl,status_fail (t := t.setTask k _) n error _,Sound.fail (t := t.setTask k _) sound n error _⟩
  | returned complete =>
    exact ⟨_,ends_state rfl,status_succeed (t := t.setTask k _) n _,Sound.succeed (t := t.setTask k _) sound n _⟩

theorem Kept.endTask (kept : Kept t) (present : t.tasks[k]? = some task) (running : task.state = .running) (outcome : Outcome) :
    Kept (t.endTask k task.work outcome) := by
  cases work : task.work with
  | run n =>
    obtain ⟨kind,state,known,launches,_,runs⟩ := kept.launching.works k task n present work
    rw [runs running] at known
    have others := Kind.launches_only launches
    have outside {family : Kind → Bool} (other : family kind = false) : Outside family (t.status n) := by
      rw [known]
      exact outside_some other
    obtain ⟨told,ends,status,sound⟩ := endTask_told kept.sound k n outcome
    have tasks : (t.endTask k (.run n) outcome).tasks = t.tasks.modify k ({ · with state := .ended outcome }) := by
      cases outcome <;> rfl
    have slots : (t.endTask k (.run n) outcome).pendingConnectOperation = t.pendingConnectOperation ∧
        (t.endTask k (.run n) outcome).historyOperation = t.historyOperation := by
      cases outcome <;> exact ⟨rfl,rfl⟩
    refine ⟨sound,?_,?_,?_⟩
    · rw [status,slots.1]
      exact kept.connecting.outside (outside others.1) ((outside others.1).map ends)
    · obtain ⟨same,ended⟩ := ends (kind,.running)
      have value : (t.status n).map told = some (kind,(told (kind,.running)).2) := by
        rw [known]
        exact congrArg some (Prod.ext same rfl)
      rw [status,tasks,value]
      refine kept.launching.advance present work rfl launches nofun nofun fun open' => ?_
      rw [ended] at open'
      cases open'
    · rw [status,tasks,slots.2]
      refine (kept.synchronizing.outside (outside others.2) ((outside others.2).map ends)).rework present rfl ?_
      exact fun _ _ _ _ _ _ _ => nofun
  | synchronizeHistory | retryWhenReady =>
    have same : t.endTask k task.work outcome = t.setTask k ({ · with state := .ended outcome }) := by
      rw [work]
      cases outcome <;> rfl
    rw [← work,same]
    refine kept.rework present rfl (fun n run => ?_) fun _ _ _ _ _ _ _ => nofun
    rw [work] at run
    cases run

theorem finished_told (sound : t.Sound) (k n : Nat) (outcome : Outcome) : ∃ told, Ends told ∧
    (t.finished k n outcome).status = Function.update t.status n ((t.status n).map told) ∧
    (t.finished k n outcome).Sound ∧ (t.finished k n outcome).tasks = t.tasks ∧
    (t.finished k n outcome).pendingConnectOperation = t.pendingConnectOperation ∧
    (t.finished k n outcome).historyTask = (if t.historyTask = some k then none else t.historyTask) ∧
    (t.finished k n outcome).historyOperation = (if t.historyTask = some k then none else t.historyOperation) := by
  have cleared (told : Tracking) (tasks : told.tasks = t.tasks) (pending : told.pendingConnectOperation = t.pendingConnectOperation)
      (task : told.historyTask = t.historyTask) (operation : told.historyOperation = t.historyOperation) :
      let next := if t.historyTask = some k then { told with historyTask := none, historyOperation := none } else told
      next.status = told.status ∧ next.operations = told.operations ∧ next.tasks = t.tasks ∧
        next.pendingConnectOperation = t.pendingConnectOperation ∧
        next.historyTask = (if t.historyTask = some k then none else t.historyTask) ∧
        next.historyOperation = (if t.historyTask = some k then none else t.historyOperation) := by
    dsimp only
    split
    · exact ⟨rfl,rfl,tasks,pending,rfl,rfl⟩
    · exact ⟨rfl,rfl,tasks,pending,task,operation⟩
  cases outcome with
  | cancelled =>
    obtain ⟨status,operations,rest⟩ := cleared (t.cancelOperation n "history sync cancelled") rfl rfl rfl rfl
    refine ⟨cancelled,ends_cancelled,status.trans (status_cancel sound n _),?_,rest⟩
    intro operation member
    exact sound.cancel n _ operation (operations ▸ member)
  | raised error =>
    obtain ⟨status,operations,rest⟩ := cleared (t.setOperation n (·.fail error t.utcNow)) rfl rfl rfl rfl
    refine ⟨_,ends_state rfl,status.trans (status_fail n error _),?_,rest⟩
    intro operation member
    exact sound.fail n error _ operation (operations ▸ member)
  | returned complete =>
    obtain ⟨status,operations,rest⟩ := cleared (t.setOperation n (·.succeed t.utcNow)) rfl rfl rfl rfl
    refine ⟨_,ends_state rfl,status.trans (status_succeed n _),?_,rest⟩
    intro operation member
    exact sound.succeed n _ operation (operations ▸ member)

theorem Kept.finished (kept : Kept t) (present : t.tasks[k]? = some task) (work : task.work.Synchronizes n) (outcome : Outcome) :
    Kept ((t.discardTask k).finished k n outcome) := by
  obtain ⟨told,ends,status,sound,tasks,pending,_,slot⟩ := finished_told (t := t.discardTask k) kept.sound k n outcome
  obtain ⟨kind,state,known,synchronizes⟩ := kept.synchronizing.works k task n present work
  have others := Kind.synchronizes_only synchronizes
  have outside {family : Kind → Bool} (other : family kind = false) : Outside family (t.status n) := by
    rw [known]
    exact outside_some other
  refine ⟨sound,?_,?_,?_⟩
  · rw [status,pending]
    exact kept.connecting.outside (outside others.1) ((outside others.1).map ends)
  · rw [status,tasks]
    refine (kept.launching.outside (outside others.2) ((outside others.2).map ends)).rework present rfl fun m run => ?_
    obtain ⟨_,_,same⟩ := work
    rw [same] at run
    cases run
  · rw [status,tasks,slot]
    have settled := kept.synchronizing.settle (n := n) ends
    have reported : Synchronizing (Function.update t.status n ((t.status n).map told))
        (t.tasks.modify k ({ · with state := .reported })) t.historyOperation := by
      refine settled.rework present rfl ?_
      intro m other now again told' open' _
      rw [← Work.Synchronizes.unique work again,Function.update_self,known] at told'
      have ended := (ends (kind,state)).2
      rw [Option.some.inj told'] at ended
      rw [ended] at open'
      cases open'
    split
    · exact reported.clear
    · exact reported

theorem Kept.background (kept : Kept t) (backgroundTasks : List Nat) : Kept { t with backgroundTasks := backgroundTasks } :=
  ⟨kept.sound,kept.connecting,kept.launching,kept.synchronizing⟩

theorem aside_retry (targetGeneration : Nat) : Work.Aside (.retryWhenReady targetGeneration) :=
  ⟨nofun,fun _ ⟨_,_,same⟩ => by cases same⟩

theorem Kept.reportTask (kept : Kept t) (present : t.tasks[k]? = some task) (ended : task.state = .ended outcome) (started : Bool) :
    Kept (t.reportTask started k task.work outcome) := by
  have alone (other : ∀ n, ¬ task.work.Synchronizes n) : Kept (t.discardTask k) := by
    refine Kept.background (t := t.setTask k ({ · with state := .reported })) (kept.rework present rfl ?_ ?_) _
    · refine fun _ _ => ⟨nofun,nofun,fun alive => .inr (.inr ?_)⟩
      rcases alive with created | running | requested
      · rw [ended] at created
        cases created
      · rw [ended] at running
        cases running
      · exact requested
    · exact fun n _ _ work => absurd work (other n)
  cases work : task.work with
  | synchronizeHistory n source targetGeneration =>
    have told := kept.finished present ⟨source,targetGeneration,work⟩ outcome
    unfold Tracking.reportTask
    dsimp only
    split
    · exact (told.createTask (aside_retry targetGeneration)).background _
    · exact told
  | run | retryWhenReady =>
    exact alone fun n ⟨_,_,same⟩ => by rw [work] at same; cases same

theorem Kept.historyCancelled (kept : Kept t) (reason : String) : Kept (t.historyCancelled reason) := by
  unfold Tracking.historyCancelled
  cases slot : t.historyOperation with
  | none => exact ⟨kept.sound,kept.connecting,kept.launching,kept.synchronizing.clear⟩
  | some n =>
    obtain ⟨kind,state,known,synchronizes⟩ := kept.synchronizing.slot n slot
    have others := Kind.synchronizes_only synchronizes
    have status := status_cancel kept.sound n reason
    have outside {family : Kind → Bool} (other : family kind = false) : Outside family (t.status n) := by
      rw [known]
      exact outside_some other
    refine ⟨kept.sound.cancel n reason,?_,?_,?_⟩
    · change Connecting (t.cancelOperation n reason).status t.pendingConnectOperation
      rw [status]
      exact kept.connecting.outside (outside others.1) ((outside others.1).map ends_cancelled)
    · change Launching (t.cancelOperation n reason).status t.tasks
      rw [status]
      exact kept.launching.outside (outside others.2) ((outside others.2).map ends_cancelled)
    · change Synchronizing (t.cancelOperation n reason).status t.tasks none
      rw [status]
      exact (kept.synchronizing.settle ends_cancelled).clear

theorem Exclusive.outside (exclusive : t.Exclusive) (kept : Kept t) (outside : Outside Kind.synchronizes (t.status n)) :
    Single (Function.update t.status n value) t.tasks t.historyTask t.historyOperation := by
  refine Single.outside exclusive fun k task present _ work => ?_
  obtain ⟨kind,state,known,synchronizes⟩ := kept.synchronizing.works k task n present work
  rw [outside kind state known] at synchronizes
  cases synchronizes

theorem Exclusive.fresh (exclusive : t.Exclusive) (kept : Kept t) :
    Single (Function.update t.status t.operations.length value) t.tasks t.historyTask t.historyOperation :=
  exclusive.outside kept (outside_none status_fresh)

theorem Exclusive.prune (exclusive : t.Exclusive) (retention : Rat) : (t.pruneOperations retention).Exclusive := by
  unfold Tracking.Exclusive
  rw [status_prune]
  exact exclusive

theorem Exclusive.alreadyConnected (exclusive : t.Exclusive) (kept : Kept t) (retention : Rat) (kind : Kind) :
    (t.alreadyConnected retention kind).Exclusive := by
  unfold Tracking.Exclusive
  rw [status_alreadyConnected]
  exact exclusive.fresh kept

theorem Exclusive.tellPending {teller : Tracking} (exclusive : t.Exclusive) (kept : Kept t) (pending : t.pendingConnectOperation = some n)
    (status : teller.status = Function.update t.status n ((t.status n).map told)) :
    Exclusive { teller with
      pendingConnectOperation := none, tasks := t.tasks, historyTask := t.historyTask, historyOperation := t.historyOperation } := by
  obtain ⟨kind,connects,running⟩ := kept.connecting.running n pending
  change Single teller.status t.tasks t.historyTask t.historyOperation
  rw [status]
  refine exclusive.outside kept ?_
  rw [running]
  exact outside_some (Kind.connects_only connects).2

theorem Exclusive.cancelPendingConnect (exclusive : t.Exclusive) (kept : Kept t) (reason : String) :
    (t.cancelPendingConnect reason).Exclusive := by
  unfold Tracking.cancelPendingConnect
  split
  · exact exclusive
  · rename_i n pending
    exact exclusive.tellPending kept pending (status_cancel kept.sound n reason)

theorem Exclusive.settlePendingConnect {finish : TrackedOperation → TrackedOperation} (exclusive : t.Exclusive) (kept : Kept t)
    (told : ∀ operation : TrackedOperation, (finish operation).status = (operation.kind,state)) :
    (t.settlePendingConnect finish).Exclusive := by
  unfold Tracking.settlePendingConnect
  split
  · exact exclusive
  · rename_i n pending
    have status : (t.setOperation n fun found => if found.tracked then finish found else found).status =
        Function.update t.status n ((t.status n).map fun told => (told.1,state)) := by
      refine status_setOperation fun operation present => ?_
      rw [if_pos (kept.found pending present)]
      exact told operation
    exact exclusive.tellPending kept pending status

theorem Exclusive.beginConnect (exclusive : t.Exclusive) (kept : Kept t) (retention : Rat) (kind : Kind) :
    (t.beginConnect retention kind).Exclusive := by
  have beside := cancelPendingConnect_beside (t := t) ""
  obtain ⟨tasks,task,operation,_⟩ := beginConnect_beside (t := t) retention kind
  unfold Tracking.Exclusive
  rw [kept.status_beginConnect,tasks,task,operation,← beside.tasks,← beside.historyTask,← beside.historyOperation,← beside.length]
  exact (exclusive.cancelPendingConnect kept "").fresh (kept.cancelPendingConnect "")

theorem Exclusive.startHistorySync (exclusive : t.Exclusive) (kept : Kept t) (retention : Rat) (source : HistorySource)
    (targetGeneration : Nat) : (t.startHistorySync retention source targetGeneration).Exclusive := by
  rcases startHistorySync_cases (t := t) retention source targetGeneration with
    ⟨same,_⟩ | ⟨done,status,_,tasks,task,operation,_⟩
  · rw [same]
    exact exclusive
  · unfold Tracking.Exclusive
    rw [status,tasks,task,operation]
    refine Single.start exclusive (fun k old present => kept.synchronizing.unclaimed status_fresh present) ?_ source targetGeneration
    intro k old m present work
    cases ended : old.done with
    | true => rfl
    | false =>
      have current : t.historyTask = some k := exclusive.current k old m present work ended
      have finished := done k current
      rw [Tracking.done,present,Option.any_some,ended] at finished
      cases finished

theorem Exclusive.launchOperation (exclusive : t.Exclusive) (kept : Kept t) (retention : Rat) (kind : Kind) :
    (t.launchOperation retention kind).Exclusive := by
  unfold Tracking.Exclusive
  rw [status_launchOperation]
  exact (exclusive.fresh kept).append fun _ ⟨_,_,same⟩ => by cases same

theorem Exclusive.createTask (exclusive : t.Exclusive) (aside : Work.Aside work) : (t.createTask work).Exclusive :=
  Single.append exclusive aside.2

theorem Exclusive.rework {change : Task → Task} (exclusive : t.Exclusive) (present : t.tasks[k]? = some old)
    (same : (change old).work = old.work)
    (waits : ∀ n, old.work.Synchronizes n → ((change old).state ≠ .reported ↔ old.state ≠ .reported))
    (runs : ∀ n, old.work.Synchronizes n → (change old).done = false → old.done = false) : (t.setTask k change).Exclusive :=
  Single.rework exclusive present same waits runs

theorem Exclusive.cancelTask (exclusive : t.Exclusive) (k : Nat) : (t.setTask k Task.cancel).Exclusive := by
  cases present : t.tasks[k]? with
  | none =>
    rw [setTask_absent present]
    exact exclusive
  | some old =>
    refine exclusive.rework present (cancel_work old) (fun _ _ => ?_) fun _ _ => ?_
    · rw [cancel_state]
    · rw [Task.done,Task.done,cancel_state]
      exact id

theorem Exclusive.abandonTask (exclusive : t.Exclusive) (present : t.tasks[k]? = some task) (created : task.state = .created) :
    (t.abandonTask k).Exclusive := by
  refine exclusive.rework present rfl (fun _ _ => ?_) fun _ _ => ?_
  · rw [created]
    exact ⟨fun _ => nofun,fun _ => nofun⟩
  · exact nofun

theorem Exclusive.advance {change : Task → Task} (exclusive : t.Exclusive) (kept : Kept t) (present : t.tasks[k]? = some task)
    (work : task.work = .run n) (same : (change task).work = task.work) :
    Single (Function.update t.status n value) (t.tasks.modify k change) t.historyTask t.historyOperation := by
  obtain ⟨kind,state,known,launches,_⟩ := kept.launching.works k task n present work
  have outside : Outside Kind.synchronizes (t.status n) := by
    rw [known]
    exact outside_some (Kind.launches_only launches).2
  have other (m : Nat) : ¬ task.work.Synchronizes m := by
    intro ⟨_,_,synchronizes⟩
    rw [work] at synchronizes
    cases synchronizes
  exact (exclusive.outside kept outside).rework present same (fun m again => absurd again (other m)) fun m again => absurd again (other m)

theorem Exclusive.beginTask (exclusive : t.Exclusive) (kept : Kept t) (present : t.tasks[k]? = some task)
    (created : task.state = .created) : (t.beginTask k task.work).Exclusive := by
  cases work : task.work with
  | run n =>
    have status : (t.beginTask k (.run n)).status = Function.update t.status n ((t.status n).map fun told => (told.1,.running)) :=
      status_run (t := t.setTask k _) n _
    unfold Tracking.Exclusive
    rw [status]
    exact exclusive.advance kept present work rfl
  | synchronizeHistory | retryWhenReady =>
    refine exclusive.rework present rfl (fun _ _ => ?_) fun _ _ _ => ?_
    · rw [created]
      exact ⟨fun _ => nofun,fun _ => nofun⟩
    · rw [Task.done,created]
      rfl

theorem Exclusive.endTask (exclusive : t.Exclusive) (kept : Kept t) (present : t.tasks[k]? = some task)
    (running : task.state = .running) (outcome : Outcome) : (t.endTask k task.work outcome).Exclusive := by
  cases work : task.work with
  | run n =>
    obtain ⟨told,_,status,_⟩ := endTask_told kept.sound k n outcome
    have rest : (t.endTask k (.run n) outcome).tasks = t.tasks.modify k ({ · with state := .ended outcome }) ∧
        (t.endTask k (.run n) outcome).historyTask = t.historyTask ∧
        (t.endTask k (.run n) outcome).historyOperation = t.historyOperation := by
      cases outcome <;> exact ⟨rfl,rfl,rfl⟩
    unfold Tracking.Exclusive
    rw [status,rest.1,rest.2.1,rest.2.2]
    exact exclusive.advance kept present work rfl
  | synchronizeHistory | retryWhenReady =>
    have same : t.endTask k task.work outcome = t.setTask k ({ · with state := .ended outcome }) := by
      rw [work]
      cases outcome <;> rfl
    rw [← work,same]
    refine exclusive.rework present rfl (fun _ _ => ?_) fun _ _ => nofun
    rw [running]
    exact ⟨fun _ => nofun,fun _ => nofun⟩

theorem Exclusive.reportTask (exclusive : t.Exclusive) (kept : Kept t) (present : t.tasks[k]? = some task) (started : Bool) :
    (t.reportTask started k task.work outcome).Exclusive := by
  have alone (other : ∀ n, ¬ task.work.Synchronizes n) : (t.discardTask k).Exclusive :=
    exclusive.rework present rfl (fun n work => absurd work (other n)) fun _ _ => nofun
  cases work : task.work with
  | synchronizeHistory n source targetGeneration =>
    obtain ⟨told,_,status,_,tasks,_,slot,operation⟩ := finished_told (t := t.discardTask k) kept.sound k n outcome
    have reported : ((t.discardTask k).finished k n outcome).Exclusive := by
      unfold Tracking.Exclusive
      rw [status,tasks,slot,operation]
      exact Single.report exclusive present ⟨source,targetGeneration,work⟩ rfl rfl
    unfold Tracking.reportTask
    dsimp only
    split
    · exact reported.createTask (aside_retry targetGeneration)
    · exact reported
  | run | retryWhenReady =>
    exact alone fun n ⟨_,_,same⟩ => by rw [work] at same; cases same

theorem Exclusive.historyCancelled (exclusive : t.Exclusive) (nothing : t.historyOperation = none) (reason : String) :
    t.historyCancelled reason = t := by
  have cleared : t.historyTask = none := by
    cases slot : t.historyTask with
    | none => rfl
    | some k =>
      obtain ⟨_,_,_,_,_,held⟩ := exclusive.slot k slot
      rw [nothing] at held
      cases held
  cases t
  dsimp only at nothing cleared
  subst nothing cleared
  rfl

def Follows (t next : Tracking) : Prop := ∀ n kind state, t.status n = some (kind,state) →
  ∃ later, next.status n = some (kind,later) ∧ (terminal state = true → later = state)

theorem Follows.refl (t : Tracking) : Follows t t := fun _ _ state known => ⟨state,known,fun _ => rfl⟩

theorem Follows.trans {middle last : Tracking} (first : Follows t middle) (second : Follows middle last) : Follows t last := by
  intro n kind state known
  obtain ⟨between,present,same⟩ := first n kind state known
  obtain ⟨later,held,again⟩ := second n kind between present
  refine ⟨later,held,fun ended => ?_⟩
  have unchanged := same ended
  rw [again (unchanged ▸ ended),unchanged]

theorem Follows.same (status : next.status = t.status) : Follows t next := by
  intro n kind state known
  exact ⟨state,(congrFun status n).trans known,fun _ => rfl⟩

theorem Follows.append (status : next.status = Function.update t.status t.operations.length value) : Follows t next := by
  intro n kind state known
  have apart : n ≠ t.operations.length := by
    rintro rfl
    rw [status_fresh] at known
    cases known
  exact ⟨state,by rw [status,Function.update_of_ne apart,known],fun _ => rfl⟩

theorem Follows.tell {told : Kind × OperationState → Kind × OperationState}
    (status : next.status = Function.update t.status n ((t.status n).map told)) (kind' : ∀ value, (told value).1 = value.1)
    (open' : ∀ kind state, t.status n = some (kind,state) → terminal state = false) : Follows t next := by
  intro m kind state known
  by_cases here : m = n
  · subst here
    refine ⟨(told (kind,state)).2,?_,fun ended => ?_⟩
    · rw [status,Function.update_self,known]
      exact congrArg some (Prod.ext (kind' (kind,state)) rfl)
    · rw [open' kind state known] at ended
      cases ended
  · exact ⟨state,by rw [status,Function.update_of_ne here,known],fun _ => rfl⟩

theorem Follows.cancel (sound : t.Sound) (n : Nat) (reason : String) : Follows t (t.cancelOperation n reason) := by
  intro m kind state known
  rw [status_cancel sound]
  by_cases here : m = n
  · subst here
    rw [Function.update_self,known]
    cases ended : terminal state with
    | true => exact ⟨state,by simp [cancelled,ended],fun _ => rfl⟩
    | false => exact ⟨.cancelled,by simp [cancelled,ended],nofun⟩
  · exact ⟨state,by rw [Function.update_of_ne here,known],fun _ => rfl⟩

theorem Follows.cancelPendingConnect (kept : Kept t) (reason : String) : Follows t (t.cancelPendingConnect reason) := by
  unfold Tracking.cancelPendingConnect
  split
  · exact .refl t
  · exact .cancel kept.sound _ reason

theorem Follows.settlePendingConnect {finish : TrackedOperation → TrackedOperation} (kept : Kept t)
    (told : ∀ operation : TrackedOperation, (finish operation).status = (operation.kind,state)) :
    Follows t (t.settlePendingConnect finish) := by
  unfold Tracking.settlePendingConnect
  split
  · exact .refl t
  · rename_i n pending
    have status : (t.setOperation n fun found => if found.tracked then finish found else found).status =
        Function.update t.status n ((t.status n).map fun told => (told.1,state)) := by
      refine status_setOperation fun operation present => ?_
      rw [if_pos (kept.found pending present)]
      exact told operation
    refine Follows.tell (n := n) status (fun _ => rfl) fun kind now known => ?_
    obtain ⟨_,_,running⟩ := kept.connecting.running n pending
    rw [known] at running
    cases running
    rfl

theorem Follows.beginConnect (kept : Kept t) (retention : Rat) (kind : Kind) : Follows t (t.beginConnect retention kind) := by
  have length := (cancelPendingConnect_beside (t := t) "").length
  have status := kept.status_beginConnect retention kind
  rw [← length] at status
  exact (Follows.cancelPendingConnect kept "").trans (.append status)

theorem Follows.startHistorySync (retention : Rat) (source : HistorySource) (targetGeneration : Nat) :
    Follows t (t.startHistorySync retention source targetGeneration) := by
  rcases startHistorySync_cases (t := t) retention source targetGeneration with ⟨same,_⟩ | ⟨_,status,_⟩
  · rw [same]
    exact .refl t
  · exact .append status

theorem Follows.beginTask (kept : Kept t) (present : t.tasks[k]? = some task) (created : task.state = .created) :
    Follows t (t.beginTask k task.work) := by
  cases work : task.work with
  | run n =>
    obtain ⟨_,state,known,_,queued,_⟩ := kept.launching.works k task n present work
    refine Follows.tell (n := n) (status_run (t := t.setTask k _) n _) (fun _ => rfl) fun kind now told => ?_
    rw [queued created] at known
    rw [known] at told
    cases told
    rfl
  | synchronizeHistory | retryWhenReady => exact .same rfl

theorem Follows.endTask (kept : Kept t) (present : t.tasks[k]? = some task) (running : task.state = .running) (outcome : Outcome) :
    Follows t (t.endTask k task.work outcome) := by
  cases work : task.work with
  | run n =>
    obtain ⟨_,state,known,_,_,runs⟩ := kept.launching.works k task n present work
    obtain ⟨told,ends,status,_⟩ := endTask_told kept.sound k n outcome
    refine Follows.tell (n := n) status (fun value => (ends value).1) fun kind now same => ?_
    rw [runs running] at known
    rw [known] at same
    cases same
    rfl
  | synchronizeHistory | retryWhenReady => exact .same (by cases outcome <;> rfl)

theorem Follows.reportTask (kept : Kept t) (exclusive : t.Exclusive) (present : t.tasks[k]? = some task)
    (ended : task.state = .ended outcome) (started : Bool) : Follows t (t.reportTask started k task.work outcome) := by
  cases work : task.work with
  | synchronizeHistory n source targetGeneration =>
    obtain ⟨told,ends,status,_⟩ := finished_told (t := t.discardTask k) kept.sound k n outcome
    have reported : Follows t ((t.discardTask k).finished k n outcome) := by
      refine Follows.tell (n := n) status (fun value => (ends value).1) fun kind now same => ?_
      obtain ⟨_,running⟩ := exclusive.running k task n present ⟨source,targetGeneration,work⟩ (by rw [ended]; nofun)
      rw [running] at same
      cases same
      rfl
    unfold Tracking.reportTask
    dsimp only
    split
    · exact reported.trans (.same rfl)
    · exact reported
  | run | retryWhenReady => exact .same rfl

theorem Follows.historyCancelled (kept : Kept t) (reason : String) : Follows t (t.historyCancelled reason) := by
  unfold Tracking.historyCancelled
  split
  · exact .same rfl
  · exact (Follows.cancel kept.sound _ reason).trans (.same rfl)

end Tracking

end Thermometer.Service
