import Thermometer.Client.OperationLifecycle
import Thermometer.Lib.Execution

-- The coroutines of ble_service.py that create, finish, cancel and prune operations, each
-- taken from one await to the next, in any order.
namespace Thermometer.Service
open Controller (OperationState)
open Execution

-- The callers of `_cancel_history`.
inductive Ending where
  | targetChanged | disconnecting | pairingReset | connectionLost | stopping
  deriving DecidableEq

def Ending.reason : Ending → String
  | .targetChanged => "target changed"
  | .disconnecting => "explicitly disconnected"
  | .pairingReset => "pairing reset"
  | .connectionLost => "connection lost"
  | .stopping => "service stopped"

-- What a coroutine waits for: `_cancel_history` for the task that it has cancelled, its
-- caller for something that concerns no operation, `stop` for the tasks it has cancelled and
-- then for its workers.
inductive Waiting where
  | history (task : Nat) (caller : Ending)
  | caller (caller : Ending)
  | gather (tasks : List Nat)
  | closing (tasks : List Nat)
  deriving DecidableEq

-- A manager behind a verified attempt: the state is published, then the pending operation
-- is completed, then the history is started.
inductive Commit where
  | published | completed
  deriving DecidableEq

-- `commits` are the managers that are between these steps; `start` during a `stop` leaves
-- more than one manager behind.
structure Operating where
  tracking : Tracking
  started : Bool
  ready : Bool
  commits : List Commit
  waiting : List Waiting

inductive Event where
  | clock (now : Rat)
  | readOperations
  | start
  | stop
  | alreadyConnected (kind : Kind)
  | connect (kind : Kind) (elsewhere : Bool)
  | disconnect
  | forgetPairing
  | requestHistorySync (targetGeneration : Nat)
  | connectionLost
  | lowered
  | verified
  | completed (manager : Nat)
  | synchronize (manager targetGeneration : Nat)
  | interrupted (manager : Nat)
  | failed (message : String)
  | resume (index : Nat)
  | abandon (index : Nat)
  | begin (task : Nat)
  | ends (task : Nat) (outcome : Outcome)
  | retry (task : Nat)
  | report (task : Nat)

namespace Operating

variable (retention : Rat) (s : Operating)

def created (now : Rat) : Operating := ⟨⟨now,[],none,[],none,none,[]⟩,false,false,[],[]⟩

def tell (change : Tracking → Tracking) : Operating := { s with tracking := change s.tracking }

def suspend (waiting : Waiting) : Operating := { s with waiting := s.waiting ++ [waiting] }

-- `_cancel_history` up to its await, or to the next one of its caller.
def cancelHistory (caller : Ending) : Operating :=
  match s.tracking.historyTask.filter (fun task => !s.tracking.done task) with
  | none => s.suspend (.caller caller)
  | some task => (s.tell (·.setTask task Task.cancel)).suspend (.history task caller)

def sweep : Operating :=
  (s.tell fun t => t.backgroundTasks.foldl (fun t task => t.setTask task Task.cancel) t).suspend
    (.gather s.tracking.backgroundTasks)

-- The caller behind `_cancel_history`.
def proceed : Ending → Operating
  | .targetChanged => { s with ready := false }
  | .disconnecting => { s.tell (·.cancelPendingConnect "explicitly disconnected") with ready := false }
  | .pairingReset => s.tell (·.launchOperation retention .forgetPairing)
  | .connectionLost => s
  | .stopping => s.sweep

def endedTasks : List Nat := (List.range s.tracking.tasks.length).filter s.tracking.done

def reported (task : Nat) : Bool := s.tracking.tasks[task]?.any (·.state = .reported)

-- The callbacks of a task run before the coroutine that waits for it goes on; those of all
-- tasks that have ended run before `stop` has ended its workers.
def resume (index : Nat) : Waiting → Option Operating
  | .history task caller =>
    if s.reported task then
      some { s.tell (·.historyCancelled caller.reason) with waiting := s.waiting.set index (.caller caller) }
    else none
  | .caller caller => some ({ s with waiting := s.waiting.eraseIdx index }.proceed retention caller)
  | .gather tasks =>
    if tasks.all s.tracking.done then
      some { s.tell ({ · with backgroundTasks := [] }) with waiting := s.waiting.set index (.closing s.endedTasks) }
    else none
  | .closing tasks => if tasks.all s.reported then some { s with waiting := s.waiting.eraseIdx index } else none

def beginTask (number : Nat) (task : Task) : Option Operating :=
  if task.state ≠ .created then none
  else if task.cancelRequested then some (s.tell (·.abandonTask number))
  else some (s.tell (·.beginTask number task.work))

-- `retry_when_ready` behind its sleep.
def retry (number : Nat) (task : Task) : Option Operating :=
  match task.work,task.state with
  | .retryWhenReady targetGeneration,.running =>
    if s.started && s.ready then
      some (s.tell fun t =>
        (t.startHistorySync retention .automatic targetGeneration).endTask number task.work (.returned true))
    else none
  | _,_ => none

def report (number : Nat) (task : Task) : Option Operating :=
  match task.state with
  | .ended outcome => some (s.tell (·.reportTask s.started number task.work outcome))
  | _ => none

-- `connect`: `elsewhere` if a client is connected to another device. `lowered` stands for
-- the transitions that clear `ready` and touch no operation, `interrupted` for a manager that
-- is cancelled or fails behind its commit. An attempt may be verified or fail at any time.
def step (s : Operating) : Event → Option Operating
  | .clock now => some (s.tell ({ · with utcNow := now }))
  | .readOperations => some (s.tell (·.pruneOperations retention))
  | .start => if s.started then none else some { s with started := true, ready := false }
  | .stop =>
    if s.started then
      some ({ s.tell (·.cancelPendingConnect "service stopped") with started := false, ready := false }.cancelHistory .stopping)
    else some s
  | .alreadyConnected kind =>
    if s.ready && kind.connects then some (s.tell (·.alreadyConnected retention kind)) else none
  | .connect kind elsewhere =>
    if kind.connects && (elsewhere || !s.ready) then
      let begun := { s.tell (·.beginConnect retention kind) with ready := false }
      some (if elsewhere then begun.cancelHistory .targetChanged else begun)
    else none
  | .disconnect => some ({ s with ready := false }.cancelHistory .disconnecting)
  | .forgetPairing => if s.ready then some ({ s with ready := false }.cancelHistory .pairingReset) else none
  | .requestHistorySync targetGeneration =>
    if s.ready then some (s.tell (·.startHistorySync retention .manual targetGeneration)) else none
  | .connectionLost => some ({ s with ready := false }.cancelHistory .connectionLost)
  | .lowered => some { s with ready := false }
  | .verified => some { s with ready := true, commits := s.commits ++ [.published] }
  | .completed manager =>
    if s.commits[manager]? = some .published then
      some { s.tell (·.completePendingConnect) with commits := s.commits.set manager .completed }
    else none
  | .synchronize manager targetGeneration =>
    if s.commits[manager]? = some .completed then
      some { s.tell (·.startHistorySync retention .automatic targetGeneration) with commits := s.commits.eraseIdx manager }
    else none
  | .interrupted manager => some { s with commits := s.commits.eraseIdx manager }
  | .failed message => some { s.tell (·.failPendingConnect message) with ready := false }
  | .resume index => s.waiting[index]?.bind (s.resume retention index)
  | .abandon index => some { s with waiting := s.waiting.eraseIdx index }
  | .begin task => s.tracking.tasks[task]?.bind (s.beginTask task)
  | .ends number outcome => s.tracking.tasks[number]?.bind fun task =>
    if task.state = .running then some (s.tell (·.endTask number task.work outcome)) else none
  | .retry task => s.tracking.tasks[task]?.bind (s.retry retention task)
  | .report task => s.tracking.tasks[task]?.bind (s.report task)

end Operating

namespace Tracking

variable {t next : Tracking} {retention : Rat} {kind : Kind} {task : Task} {k : Nat}

-- What a change of the table keeps, and that it leaves terminal operations alone.
def Advances (t next : Tracking) : Prop := Kept t → t.Exclusive → Kept next ∧ next.Exclusive ∧ Follows t next

theorem Advances.refl (t : Tracking) : Advances t t := fun kept exclusive => ⟨kept,exclusive,.refl t⟩

theorem Advances.trans {middle last : Tracking} (first : Advances t middle) (second : Advances middle last) : Advances t last := by
  intro kept exclusive
  obtain ⟨kept,exclusive,follows⟩ := first kept exclusive
  obtain ⟨kept,exclusive,more⟩ := second kept exclusive
  exact ⟨kept,exclusive,follows.trans more⟩

theorem Advances.beside (operations : next.operations = t.operations) (pending : next.pendingConnectOperation = t.pendingConnectOperation)
    (tasks : next.tasks = t.tasks) (slot : next.historyTask = t.historyTask) (operation : next.historyOperation = t.historyOperation) :
    Advances t next := by
  cases t
  cases next
  dsimp only at operations pending tasks slot operation
  subst operations pending tasks slot operation
  exact fun kept exclusive => ⟨⟨kept.sound,kept.connecting,kept.launching,kept.synchronizing⟩,exclusive,.same rfl⟩

theorem advances_prune : Advances t (t.pruneOperations retention) := fun kept exclusive =>
  ⟨kept.prune retention,exclusive.prune retention,.same (status_prune retention)⟩

theorem advances_alreadyConnected (connects : kind.connects = true) : Advances t (t.alreadyConnected retention kind) :=
  fun kept exclusive => ⟨kept.alreadyConnected retention connects,exclusive.alreadyConnected kept retention kind,
    .append (status_alreadyConnected retention kind)⟩

theorem advances_cancelPendingConnect (reason : String) : Advances t (t.cancelPendingConnect reason) :=
  fun kept exclusive => ⟨kept.cancelPendingConnect reason,exclusive.cancelPendingConnect kept reason,.cancelPendingConnect kept reason⟩

theorem advances_beginConnect (connects : kind.connects = true) : Advances t (t.beginConnect retention kind) :=
  fun kept exclusive => ⟨kept.beginConnect retention connects,exclusive.beginConnect kept retention kind,
    .beginConnect kept retention kind⟩

theorem advances_completePendingConnect : Advances t t.completePendingConnect := fun kept exclusive =>
  ⟨kept.completePendingConnect,exclusive.settlePendingConnect kept fun _ => rfl,.settlePendingConnect kept fun _ => rfl⟩

theorem advances_failPendingConnect (message : String) : Advances t (t.failPendingConnect message) := fun kept exclusive =>
  ⟨kept.failPendingConnect message,exclusive.settlePendingConnect kept fun _ => rfl,.settlePendingConnect kept fun _ => rfl⟩

theorem advances_startHistorySync (source : HistorySource) (targetGeneration : Nat) :
    Advances t (t.startHistorySync retention source targetGeneration) := fun kept exclusive =>
  ⟨kept.startHistorySync retention source targetGeneration,exclusive.startHistorySync kept retention source targetGeneration,
    .startHistorySync retention source targetGeneration⟩

theorem advances_launchOperation (launches : kind.launches = true) : Advances t (t.launchOperation retention kind) :=
  fun kept exclusive => ⟨kept.launchOperation retention launches,exclusive.launchOperation kept retention kind,
    .append (status_launchOperation retention kind)⟩

theorem advances_cancelTask (k : Nat) : Advances t (t.setTask k Task.cancel) := fun kept exclusive =>
  ⟨kept.cancelTask k,exclusive.cancelTask k,.same rfl⟩

theorem advances_cancelTasks (tasks : List Nat) : Advances t (tasks.foldl (fun t k => t.setTask k Task.cancel) t) := by
  induction tasks generalizing t with
  | nil => exact .refl t
  | cons k rest ih => exact (advances_cancelTask k).trans ih

theorem advances_abandonTask (present : t.tasks[k]? = some task) (created : task.state = .created)
    (requested : task.cancelRequested = true) : Advances t (t.abandonTask k) := fun kept exclusive =>
  ⟨kept.abandonTask present requested,exclusive.abandonTask present created,.same rfl⟩

theorem advances_beginTask (present : t.tasks[k]? = some task) (created : task.state = .created) :
    Advances t (t.beginTask k task.work) := fun kept exclusive =>
  ⟨kept.beginTask present created,exclusive.beginTask kept present created,.beginTask kept present created⟩

theorem advances_endTask (present : t.tasks[k]? = some task) (running : task.state = .running) (outcome : Outcome) :
    Advances t (t.endTask k task.work outcome) := fun kept exclusive =>
  ⟨kept.endTask present running outcome,exclusive.endTask kept present running outcome,.endTask kept present running outcome⟩

theorem advances_reportTask (present : t.tasks[k]? = some task) (ended : task.state = .ended outcome) (started : Bool) :
    Advances t (t.reportTask started k task.work outcome) := fun kept exclusive =>
  ⟨kept.reportTask present ended started,exclusive.reportTask kept present started,.reportTask kept exclusive present ended started⟩

theorem advances_historyCancelled (nothing : t.historyOperation = none) (reason : String) :
    Advances t (t.historyCancelled reason) := by
  intro kept exclusive
  rw [exclusive.historyCancelled nothing]
  exact ⟨kept,exclusive,.refl t⟩

end Tracking

namespace Operating

open Tracking

variable {retention : Rat} {s next : Operating}

-- No history synchronisation has been registered since the one that `_cancel_history`
-- waited for has ended.
def undisturbed (s : Operating) : Event → Bool
  | .resume index =>
    match s.waiting[index]? with
    | some (.history _ _) => s.tracking.historyOperation.isNone
    | _ => true
  | _ => true

theorem cancelHistory_advances (caller : Ending) : Advances s.tracking (s.cancelHistory caller).tracking := by
  unfold cancelHistory
  split
  · exact .refl _
  · exact advances_cancelTask _

theorem proceed_advances (caller : Ending) : Advances s.tracking (s.proceed retention caller).tracking := by
  cases caller with
  | targetChanged | connectionLost => exact .refl _
  | disconnecting => exact advances_cancelPendingConnect _
  | pairingReset => exact advances_launchOperation rfl
  | stopping => exact advances_cancelTasks _

theorem resume_advances {index : Nat} {waiting : Waiting} (present : s.waiting[index]? = some waiting)
    (alone : s.undisturbed (.resume index) = true) (ran : s.resume retention index waiting = some next) :
    Advances s.tracking next.tracking := by
  cases waiting with
  | history task caller =>
    simp only [resume] at ran
    split at ran
    · cases Option.some.inj ran
      simp only [undisturbed,present,Option.isNone_iff_eq_none] at alone
      exact advances_historyCancelled alone _
    · cases ran
  | caller caller =>
    cases Option.some.inj ran
    exact proceed_advances (s := { s with waiting := s.waiting.eraseIdx index }) caller
  | gather tasks =>
    simp only [resume] at ran
    split at ran
    · cases Option.some.inj ran
      exact .beside rfl rfl rfl rfl rfl
    · cases ran
  | closing tasks =>
    simp only [resume] at ran
    split at ran
    · cases Option.some.inj ran
      exact .refl _
    · cases ran

theorem startHistorySync_present {t : Tracking} {number : Nat} {task : Task} (present : t.tasks[number]? = some task)
    (source : HistorySource) (targetGeneration : Nat) :
    (t.startHistorySync retention source targetGeneration).tasks[number]? = some task := by
  rcases startHistorySync_cases (t := t) retention source targetGeneration with ⟨same,_⟩ | ⟨_,_,_,tasks,_⟩
  · rw [same]
    exact present
  · rw [tasks]
    exact append_old present _

theorem retry_advances {number : Nat} {task : Task} (present : s.tracking.tasks[number]? = some task)
    (ran : s.retry retention number task = some next) : Advances s.tracking next.tracking := by
  unfold retry at ran
  split at ran
  · rename_i targetGeneration _ running
    split at ran
    · cases Option.some.inj ran
      exact (advances_startHistorySync .automatic targetGeneration).trans
        (advances_endTask (startHistorySync_present present .automatic targetGeneration) running _)
    · cases ran
  · cases ran

theorem beginTask_advances {number : Nat} {task : Task} (present : s.tracking.tasks[number]? = some task)
    (ran : s.beginTask number task = some next) : Advances s.tracking next.tracking := by
  unfold beginTask at ran
  split at ran
  · cases ran
  · rename_i created
    split at ran <;> cases Option.some.inj ran
    · exact advances_abandonTask present (not_not.mp created) ‹_›
    · exact advances_beginTask present (not_not.mp created)

theorem report_advances {number : Nat} {task : Task} (present : s.tracking.tasks[number]? = some task)
    (ran : s.report number task = some next) : Advances s.tracking next.tracking := by
  unfold report at ran
  split at ran
  · rename_i outcome ended
    cases Option.some.inj ran
    exact advances_reportTask present ended _
  · cases ran

theorem step_advances {event : Event} (ran : step retention s event = some next) (alone : s.undisturbed event = true) :
    Advances s.tracking next.tracking := by
  cases event with
  | clock now =>
    cases Option.some.inj ran
    exact .beside rfl rfl rfl rfl rfl
  | readOperations =>
    cases Option.some.inj ran
    exact advances_prune
  | lowered | abandon | verified | interrupted =>
    cases Option.some.inj ran
    exact .refl _
  | start =>
    obtain ⟨_,same⟩ := Option.ite_none_left_eq_some.mp ran
    cases same
    exact .refl _
  | stop =>
    simp only [step] at ran
    split at ran <;> cases Option.some.inj ran
    · exact (advances_cancelPendingConnect _).trans
        (cancelHistory_advances (s := { s.tell (·.cancelPendingConnect "service stopped") with started := false, ready := false }) _)
    · exact .refl _
  | alreadyConnected kind =>
    obtain ⟨allowed,same⟩ := Option.ite_none_right_eq_some.mp ran
    cases same
    exact advances_alreadyConnected (Bool.and_eq_true_iff.mp allowed).2
  | connect kind elsewhere =>
    obtain ⟨allowed,same⟩ := Option.ite_none_right_eq_some.mp ran
    cases same
    have begun : Advances s.tracking (s.tracking.beginConnect retention kind) :=
      advances_beginConnect (Bool.and_eq_true_iff.mp allowed).1
    cases elsewhere with
    | false => exact begun
    | true => exact begun.trans (cancelHistory_advances (s := { s.tell (·.beginConnect retention kind) with ready := false }) _)
  | disconnect | connectionLost =>
    cases Option.some.inj ran
    exact cancelHistory_advances (s := { s with ready := false }) _
  | forgetPairing =>
    obtain ⟨_,same⟩ := Option.ite_none_right_eq_some.mp ran
    cases same
    exact cancelHistory_advances (s := { s with ready := false }) _
  | requestHistorySync targetGeneration =>
    obtain ⟨_,same⟩ := Option.ite_none_right_eq_some.mp ran
    cases same
    exact advances_startHistorySync _ _
  | completed manager =>
    obtain ⟨_,same⟩ := Option.ite_none_right_eq_some.mp ran
    cases same
    exact advances_completePendingConnect
  | synchronize manager targetGeneration =>
    obtain ⟨_,same⟩ := Option.ite_none_right_eq_some.mp ran
    cases same
    exact advances_startHistorySync _ _
  | failed message =>
    cases Option.some.inj ran
    exact advances_failPendingConnect message
  | resume index =>
    obtain ⟨waiting,present,resumed⟩ := Option.bind_eq_some_iff.mp ran
    exact resume_advances present alone resumed
  | begin number =>
    obtain ⟨task,present,began⟩ := Option.bind_eq_some_iff.mp ran
    exact beginTask_advances present began
  | ends number outcome =>
    obtain ⟨task,present,ended⟩ := Option.bind_eq_some_iff.mp ran
    obtain ⟨running,same⟩ := Option.ite_none_right_eq_some.mp ended
    cases same
    exact advances_endTask present running outcome
  | retry number =>
    obtain ⟨task,present,retried⟩ := Option.bind_eq_some_iff.mp ran
    exact retry_advances present retried
  | report number =>
    obtain ⟨task,present,told⟩ := Option.bind_eq_some_iff.mp ran
    exact report_advances present told

theorem created_kept (now : Rat) : Kept (created now).tracking ∧ (created now).tracking.Exclusive := by
  have idle (k : Nat) (task : Task) (present : (created now).tracking.tasks[k]? = some task) : False := by
    simp [created] at present
  have empty (n : Nat) (told : Kind × OperationState) (known : (created now).tracking.status n = some told) : False := by
    simp [created,Tracking.status] at known
  constructor
  · refine ⟨fun _ member => (List.not_mem_nil member).elim,?_,?_,?_⟩
    · exact ⟨fun _ held => (Option.some_ne_none _ held.symm).elim,fun n kind state known => (empty n _ known).elim⟩
    · exact ⟨fun k task _ present => (idle k task present).elim,fun k _ task _ _ present => (idle k task present).elim,
        fun n kind state known => (empty n _ known).elim⟩
    · exact ⟨fun k task _ present => (idle k task present).elim,fun _ held => (Option.some_ne_none _ held.symm).elim,
        fun n kind state known => (empty n _ known).elim⟩
  · exact ⟨fun k task _ present => (idle k task present).elim,fun k task _ present => (idle k task present).elim,
      fun _ held => (Option.some_ne_none _ held.symm).elim,fun _ => rfl,fun k _ task _ _ present => (idle k task present).elim⟩

theorem run_advances {now : Rat} (path : Path (step retention) (fun s event => s.undisturbed event = true) (created now) trace s) :
    Kept s.tracking ∧ s.tracking.Exclusive ∧ ∀ entry ∈ trace, Follows entry.1.tracking s.tracking := by
  induction path with
  | nil => exact ⟨(created_kept now).1,(created_kept now).2,fun _ member => (List.not_mem_nil member).elim⟩
  | snoc _ alone ran ih =>
    obtain ⟨kept,exclusive,before⟩ := ih
    obtain ⟨kept,exclusive,follows⟩ := step_advances ran alone kept exclusive
    refine ⟨kept,exclusive,?_⟩
    intro entry member
    rcases List.mem_append.mp member with earlier | last
    · exact (before entry earlier).trans follows
    · cases List.mem_singleton.mp last
      exact follows

-- The life cycle of the operations, while no history synchronisation comes between the end of
-- a cancelled one and the caller that waits for it.
theorem operations_settle_once {now : Rat}
    (path : Path (step retention) (fun s event => s.undisturbed event = true) (created now) trace s) :
    (∀ entry ∈ trace, ∀ (n : Nat) operation, entry.1.tracking.operations[n]? = some operation →
      terminal operation.state = true →
      ∃ later, s.tracking.operations[n]? = some later ∧ later.state = operation.state) ∧
    (∀ operation ∈ s.tracking.operations, operation.completion = terminal operation.state ∧
      (operation.tracked = false → terminal operation.state = true)) ∧
    (∀ (n : Nat) operation, s.tracking.operations[n]? = some operation → operation.kind.connects = true →
      (terminal operation.state = false ↔ s.tracking.pendingConnectOperation = some n) ∧
      (terminal operation.state = false → operation.state = .running)) ∧
    ∀ (k : Nat) task n, s.tracking.tasks[k]? = some task → task.work.Synchronizes n → task.done = false →
      s.tracking.historyTask = some k ∧
      ∃ operation, s.tracking.operations[n]? = some operation ∧ operation.state = .running := by
  obtain ⟨kept,exclusive,follows⟩ := run_advances path
  refine ⟨?_,?_,?_,?_⟩
  · intro entry member n operation present ended
    obtain ⟨state,held,same⟩ := follows entry member n operation.kind operation.state (status_some.mpr ⟨operation,present,rfl,rfl⟩)
    obtain ⟨later,found,_,settled⟩ := status_some.mp held
    exact ⟨later,found,settled.trans (same ended)⟩
  · intro operation member
    have sound := kept.sound operation member
    refine ⟨sound.completion,?_⟩
    intro removed
    by_contra running
    have present := sound.tracked (Bool.eq_false_iff.mpr running)
    rw [removed] at present
    cases present
  · intro n operation present connects
    have known : s.tracking.status n = some (operation.kind,operation.state) := status_some.mpr ⟨operation,present,rfl,rfl⟩
    have slotted (held : s.tracking.pendingConnectOperation = some n) : operation.state = .running := by
      obtain ⟨kind,_,running⟩ := kept.connecting.running n held
      rw [known] at running
      exact congrArg Prod.snd (Option.some.inj running)
    have waits (running : terminal operation.state = false) := kept.connecting.pending n _ _ known connects running
    refine ⟨⟨waits,?_⟩,fun running => slotted (waits running)⟩
    intro held
    rw [slotted held]
    rfl
  · intro k task n present work running
    refine ⟨exclusive.current k task n present work running,?_⟩
    obtain ⟨kind,known⟩ := exclusive.running k task n present work (by
      intro reported
      rw [Task.done,reported] at running
      cases running)
    obtain ⟨operation,found,_,state⟩ := status_some.mp known
    exact ⟨operation,found,state⟩

def cancelledSync : List Event :=
  [.start,.connect .connect false,.verified,.completed 0,.requestHistorySync 0,.begin 0,.disconnect,.ends 0 .cancelled,.report 0]

def stateOf (n : Nat) (s : Operating) : Option OperationState := s.tracking.operations[n]?.map (·.state)

-- The manual synchronisation is cancelled and `disconnect` goes on before the manager starts
-- the automatic one.
theorem operations_settle_once_disconnected :
    ∃ trace s, Path (step 600) (fun s event => s.undisturbed event = true) (created 0) trace s ∧
      stateOf 1 s = some .cancelled ∧ stateOf 2 s = some .running ∧
      ∀ (n : Nat) operation, s.tracking.operations[n]? = some operation → operation.kind.connects = true →
        (terminal operation.state = false ↔ s.tracking.pendingConnectOperation = some n) := by
  have passed : (run (guarded (step 600) undisturbed) (created 0) (cancelledSync ++ [.resume 0,.synchronize 0 0])).any
      (fun s => stateOf 1 s = some .cancelled ∧ stateOf 2 s = some .running) = true := by decide +kernel
  obtain ⟨trace,s,path,states⟩ := guarded_checked passed
  obtain ⟨cancelled,running⟩ := of_decide_eq_true states
  exact ⟨trace,s,path,cancelled,running,fun n operation present connects =>
    ((operations_settle_once path).2.2.1 n operation present connects).1⟩

-- The manager starts the automatic synchronisation before `disconnect` goes on, which then
-- takes it for the one that it has cancelled. Its task goes on, and its failure replaces the
-- cancellation.
theorem cancelled_operation_fails :
    ∃ first middle last s, Path (step 600) anyStep (created 0) first middle ∧ Path (step 600) anyStep middle last s ∧
      stateOf 2 middle = some .cancelled ∧ stateOf 2 s = some .failed := by
  have passed : (run (step 600) (created 0) (cancelledSync ++ [.synchronize 0 0,.resume 0])).any (fun middle =>
      stateOf 2 middle = some .cancelled ∧ (run (step 600) middle
        [.begin 1,.ends 1 (.raised ("ServiceUnavailableError","thermometer is not connected")),.report 1]).any
        (fun s => stateOf 2 s = some .failed) = true) = true := by decide +kernel
  obtain ⟨first,middle,path,states⟩ := run_checked passed
  obtain ⟨cancelled,later⟩ := of_decide_eq_true states
  obtain ⟨last,s,rest,failed⟩ := run_checked later
  exact ⟨first,middle,last,s,path,rest,cancelled,of_decide_eq_true failed⟩

end Operating

end Thermometer.Service
