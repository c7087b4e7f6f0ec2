import Mathlib.Data.Rat.Defs
import Mathlib.Tactic.Common
import Thermometer.Client.Lifecycle

-- The operations of ble_service.py and the tasks that work on them. What an operation
-- returns and its progress are left out.
namespace Thermometer.Service
open Controller (OperationState)

inductive HistorySource where
  | manual | automatic
  deriving DecidableEq, Repr

inductive Kind where
  | connect | pair | forgetPairing
  | historySync (source : HistorySource)
  deriving DecidableEq, Repr

-- `completion` is the event of the operation, which a waiter holds on to; `tracked` says
-- whether `_operations` and `_operation_events` still have an entry.
structure TrackedOperation where
  kind : Kind
  state : OperationState
  updatedAtUtc : Rat
  error : Option (String × String)
  completion : Bool
  tracked : Bool
  deriving DecidableEq

def terminal : OperationState → Bool
  | .queued | .running => false
  | .succeeded | .failed | .cancelled => true

namespace TrackedOperation

variable (operation : TrackedOperation)

def create (kind : Kind) (now : Rat) : TrackedOperation := ⟨kind,.queued,now,none,false,true⟩

def run (now : Rat) : TrackedOperation := { operation with state := .running, updatedAtUtc := now }

def succeed (now : Rat) : TrackedOperation :=
  { operation with state := .succeeded, updatedAtUtc := now, completion := operation.completion || operation.tracked }

def fail (error : String × String) (now : Rat) : TrackedOperation :=
  { operation with
    state := .failed, error := some error, updatedAtUtc := now, completion := operation.completion || operation.tracked }

def cancel (reason : String) (now : Rat) : TrackedOperation :=
  if !operation.tracked || terminal operation.state then operation
  else
    { operation with
      state := .cancelled, error := some ("CancelledError",reason), updatedAtUtc := now, completion := true }

def prune (cutoff : Rat) : TrackedOperation :=
  if terminal operation.state && operation.updatedAtUtc < cutoff then { operation with tracked := false } else operation

end TrackedOperation

-- What a background task runs.
inductive Work where
  | synchronizeHistory (operation : Nat) (source : HistorySource) (targetGeneration : Nat)
  | run (operation : Nat)
  | retryWhenReady (targetGeneration : Nat)
  deriving DecidableEq

-- `raised` has the name of the exception and its text, `returned` of a history
-- synchronisation whether the history is complete.
inductive Outcome where
  | cancelled
  | raised (error : String × String)
  | returned (complete : Bool)
  deriving DecidableEq

-- A task that has ended calls back at the next pass of the loop.
inductive TaskState where
  | created | running
  | ended (outcome : Outcome)
  | reported
  deriving DecidableEq

structure Task where
  work : Work
  state : TaskState
  cancelRequested : Bool
  deriving DecidableEq

def Task.done (task : Task) : Bool := task.state ≠ .created ∧ task.state ≠ .running

def Task.cancel (task : Task) : Task := if task.done then task else { task with cancelRequested := true }

-- Operations and tasks are numbered by their place in the list.
structure Tracking where
  utcNow : Rat
  operations : List TrackedOperation
  pendingConnectOperation : Option Nat
  tasks : List Task
  historyTask : Option Nat
  historyOperation : Option Nat
  backgroundTasks : List Nat

namespace Tracking

variable (retention : Rat) (t : Tracking)

def pruneOperations : Tracking := { t with operations := t.operations.map (·.prune (t.utcNow - retention)) }

def newOperation (kind : Kind) : Tracking :=
  { t.pruneOperations retention with operations := (t.pruneOperations retention).operations ++ [.create kind t.utcNow] }

def setOperation (operation : Nat) (change : TrackedOperation → TrackedOperation) : Tracking :=
  { t with operations := t.operations.modify operation change }

def cancelOperation (operation : Nat) (reason : String) : Tracking := t.setOperation operation (·.cancel reason t.utcNow)

def alreadyConnected (kind : Kind) : Tracking :=
  (t.newOperation retention kind).setOperation t.operations.length (·.succeed t.utcNow)

def cancelPendingConnect (reason : String) : Tracking :=
  match t.pendingConnectOperation with
  | none => t
  | some operation => { t.cancelOperation operation reason with pendingConnectOperation := none }

def beginConnect (kind : Kind) : Tracking :=
  { ((t.newOperation retention kind).cancelPendingConnect "superseded by another connect request").setOperation
      t.operations.length (·.run t.utcNow) with
    pendingConnectOperation := some t.operations.length }

-- `_complete_pending_connect` and `_fail_pending_connect`, which look the operation up.
def settlePendingConnect (finish : TrackedOperation → TrackedOperation) : Tracking :=
  match t.pendingConnectOperation with
  | none => t
  | some operation =>
    { t.setOperation operation (fun found => if found.tracked then finish found else found) with
      pendingConnectOperation := none }

def completePendingConnect : Tracking := t.settlePendingConnect (·.succeed t.utcNow)

def failPendingConnect (message : String) : Tracking := t.settlePendingConnect (·.fail ("RuntimeError",message) t.utcNow)

def createTask (work : Work) : Tracking := { t with tasks := t.tasks ++ [⟨work,.created,false⟩] }

def setTask (task : Nat) (change : Task → Task) : Tracking := { t with tasks := t.tasks.modify task change }

def trackBackground (task : Nat) : Tracking := { t with backgroundTasks := t.backgroundTasks ++ [task] }

def done (task : Nat) : Bool := t.tasks[task]?.any (·.done)

def startHistorySync (source : HistorySource) (targetGeneration : Nat) : Tracking :=
  match t.historyTask.filter (fun task => !t.done task) with
  | some _ => t
  | none =>
    let operation := t.operations.length
    let started := ((t.newOperation retention (.historySync source)).setOperation operation (·.run t.utcNow)).createTask
      (.synchronizeHistory operation source targetGeneration)
    { started.trackBackground t.tasks.length with
      historyOperation := some operation
      historyTask := some t.tasks.length }

def launchOperation (kind : Kind) : Tracking :=
  ((t.newOperation retention kind).createTask (.run t.operations.length)).trackBackground t.tasks.length

def beginTask (task : Nat) (work : Work) : Tracking :=
  let begun := t.setTask task ({ · with state := .running })
  match work with
  | .run operation => begun.setOperation operation (·.run t.utcNow)
  | _ => begun

def endTask (task : Nat) (work : Work) (outcome : Outcome) : Tracking :=
  let ended := t.setTask task ({ · with state := .ended outcome })
  match work,outcome with
  | .run operation,.cancelled => ended.cancelOperation operation "operation cancelled"
  | .run operation,.raised error => ended.setOperation operation (·.fail error t.utcNow)
  | .run operation,.returned _ => ended.setOperation operation (·.succeed t.utcNow)
  | _,_ => ended

-- A task that was cancelled before its first step ends without running.
def abandonTask (task : Nat) : Tracking := t.setTask task ({ · with state := .ended .cancelled })

-- `finished` of `_start_history_sync`, up to the retry.
def finished (task operation : Nat) (outcome : Outcome) : Tracking :=
  let told := match outcome with
    | .cancelled => t.cancelOperation operation "history sync cancelled"
    | .raised error => t.setOperation operation (·.fail error t.utcNow)
    | .returned _ => t.setOperation operation (·.succeed t.utcNow)
  if t.historyTask = some task then { told with historyTask := none, historyOperation := none } else told

def retries : Outcome → Bool
  | .cancelled => false
  | .raised _ => true
  | .returned complete => !complete

def discardTask (task : Nat) : Tracking :=
  { t.setTask task ({ · with state := .reported }) with backgroundTasks := t.backgroundTasks.erase task }

-- The callbacks of a task, with `_background_tasks.discard` first.
def reportTask (started : Bool) (task : Nat) (work : Work) (outcome : Outcome) : Tracking :=
  match work with
  | .synchronizeHistory operation source targetGeneration =>
    let told := (t.discardTask task).finished task operation outcome
    if source = .automatic && retries outcome && started then
      (told.createTask (.retryWhenReady targetGeneration)).trackBackground t.tasks.length
    else told
  | _ => t.discardTask task

-- `_cancel_history` behind its await.
def historyCancelled (reason : String) : Tracking :=
  let told := match t.historyOperation with
    | none => t
    | some operation => t.cancelOperation operation reason
  { told with historyTask := none, historyOperation := none }

end Tracking

end Thermometer.Service
