import Thermometer.Client.Lifecycle
import Thermometer.Lib.Execution
import Mathlib.Logic.Function.Basic

-- ThermometerBleService as far as it decides about connections. Every function below
-- is the code between two awaits, so one step of the model runs without interruption.
-- Every await that may suspend is an interleaving point, whether or not it does; the
-- coroutines that never suspend, such as `_publish_connection_state`, are not.
namespace Thermometer.Controller

variable {Address Passkey : Type} [DecidableEq Address]

-- The fields of the service. `selected` and `observations` are not part of the source:
-- the target of the latest selection and the history of what the results speak about.
structure State (Address Passkey : Type) where
  state : ControllerState Address
  targetGeneration : Nat
  targetPasskey : Option Passkey
  credentialFromRegistry : Bool
  verifiedBondAddress : Option Address
  connectionAttemptId : Nat
  lastBootId : Option BootId
  credentials : Address → Option Passkey
  client : Option ClientId
  clients : List (Client Address)
  lifecycleLock : Option LockHolder
  managerEvents : List (LifecycleEvent Address)
  pendingDiscovery : Option (List Address)
  manager : Manager Address Passkey
  attempt : Option (Attempt Address Passkey)
  poll : Poll
  calls : List (Call Address Passkey)
  operations : List (Operation Address Passkey)
  pendingConnectOperation : Option OperationId
  selected : Option Address
  observations : List (Observation Address Passkey)

namespace State

variable (host : Host Address) (s : State Address Passkey)

def transition (change : ControllerState Address → ControllerState Address) : State Address Passkey :=
  { s with state := { change s.state with revision := s.state.revision + 1 } }

def observe (observation : Observation Address Passkey) : State Address Passkey :=
  { s with observations := s.observations ++ [observation] }

def post (kind : LifecycleEventType) (value : EventValue Address) (observed : Option ClientId) :
    State Address Passkey :=
  { s with managerEvents := s.managerEvents ++ [⟨kind,s.targetGeneration,value,observed⟩] }

def notifyConnectionManager : State Address Passkey := s.post .intentChanged .none none

-- `none` is the ValueError of an address that is not a MAC address.
def lookup (address : Address) : Option (Option Passkey) := (host.registryKey address).map s.credentials

def setOperation (operation : OperationId) (state : OperationState) : State Address Passkey :=
  { s with operations := s.operations.modify operation ({ · with state := state }) }

def newOperation (kind : OperationKind) (state : OperationState) (address : Address)
    (credential : Option Passkey) : State Address Passkey :=
  { s with operations := s.operations ++ [⟨kind,state,address,credential⟩] }

def cancelledOperation (operation : Operation Address Passkey) : Operation Address Passkey :=
  if operation.state = .queued ∨ operation.state = .running then { operation with state := .cancelled }
  else operation

def cancelPendingConnect : State Address Passkey :=
  { s with
    operations := match s.pendingConnectOperation with
      | none => s.operations
      | some operation => s.operations.modify operation cancelledOperation
    pendingConnectOperation := none }

-- `_complete_pending_connect` and `_fail_pending_connect`.
def settlePendingConnect (state : OperationState)
    (observation : OperationId → Observation Address Passkey) : State Address Passkey :=
  { s with
    operations := match s.pendingConnectOperation with
      | none => s.operations
      | some operation => s.operations.modify operation ({ · with state := state })
    observations := s.observations ++ (s.pendingConnectOperation.map observation).toList
    pendingConnectOperation := none }

def completePendingConnect (attempt : Attempt Address Passkey) : State Address Passkey :=
  s.settlePendingConnect .succeeded (.operationSucceeded · (some attempt))

def failPendingConnect (attempt : Option (Attempt Address Passkey)) : State Address Passkey :=
  s.settlePendingConnect .failed (.operationFailed · attempt)

def sameTarget (address : Address) : Bool :=
  s.state.target.map host.lower = some (host.lower address)

def linkUp (client : ClientId) : Bool := (s.clients[client]?.map Client.isConnected).getD false

def markClosed (client : ClientId) : State Address Passkey :=
  { s with clients := s.clients.modify client ({ · with closed := true }) }

-- `self._client is None or not self._client.is_connected`.
def clientLost : Bool :=
  match s.client with
  | none => true
  | some client => !s.linkUp client

-- One await of `_close_client`. The outer `none` waits for the lock, the inner one is
-- the end; the exceptions of `close()` are swallowed, so it always comes.
def closeClient (holder : LockHolder) : Closing → Option (State Address Passkey × Option Closing)
  | .entering =>
    if s.lifecycleLock.isSome then none
    else match s.client with
      | none => some (s,none)
      | some client => some ({ s.markClosed client with client := none, lifecycleLock := some holder },some .closing)
  | .closing => some ({ s with lifecycleLock := none },none)

def wait (ready timed : Bool) : State Address Passkey := { s with manager := .waiting ready timed }

def startAttempt (target : Address) (generation : Nat) : State Address Passkey :=
  let attempt :=
    ⟨s.connectionAttemptId,target,generation,s.targetPasskey,none,.created,false,s.operations.length⟩
  { s.observe (.attemptStarted attempt) with attempt := some attempt, manager := .attempting }

def launchAttempt (target : Address) : State Address Passkey :=
  if s.state.phase = .reconnecting then { s with manager := .rediscovering target s.targetGeneration }
  else s.startAttempt target s.targetGeneration

-- `_connection_attempt_id += 1`, once in an iteration.
def countAttempt : State Address Passkey := { s with connectionAttemptId := s.connectionAttemptId + 1 }

def rejectCredential (attempt : Option (Attempt Address Passkey)) : State Address Passkey :=
  let s := { s with targetPasskey := none, credentialFromRegistry := false }.failPendingConnect attempt
  let s := s.transition ({ · with
    phase := .authenticationRequired, connected := false, ready := false, credentialState := .rejected })
  { s.observe (.credentialRejected attempt) with manager := .failing .rejected .entering }

def scheduleRetry (attempt : Option (Attempt Address Passkey)) : State Address Passkey :=
  let s := (s.failPendingConnect attempt).transition fun state => { state with
    phase := if state.target.isNone then .discovering else .reconnecting
    connected := false, ready := false }
  { s with manager := .failing .retrying .entering }

-- The `except Exception` clause up to its first await.
def handleFailure (attempt : Option (Attempt Address Passkey)) (error : ConnectionError) :
    State Address Passkey :=
  if !s.state.desiredConnected then { s with manager := .failing .undesired .entering }
  else match error with
    | .authentication => s.rejectCredential attempt
    | .other => s.scheduleRetry attempt

-- From the test for a missing passkey on.
def requireCredential (target : Address) : State Address Passkey :=
  match s.targetPasskey with
  | some _ => s.countAttempt.launchAttempt target
  | none =>
    if s.state.phase = .authenticationRequired ∧ s.state.credentialState = .rejected then s.wait false false
    else match s.lookup host target with
      | none => s.handleFailure none .other
      | some none =>
        (s.transition ({ · with
          phase := .authenticationRequired, connected := false, ready := false
          credentialState := .missing })).wait false false
      | some (some stored) =>
        { s with targetPasskey := some stored, credentialFromRegistry := true }.countAttempt.launchAttempt target

def discover (address : Address) (credential : Option Passkey) (phase : ConnectionPhase)
    (credentialState : CredentialState) : State Address Passkey :=
  { s with
    targetGeneration := s.targetGeneration + 1, targetPasskey := credential
    credentialFromRegistry := credential.isSome, selected := some address }.transition ({ · with
      phase := phase, target := some address, connected := false, ready := false
      credentialState := credentialState })

def selectDiscovered : List Address → State Address Passkey
  | [] => (s.transition ({ · with phase := .discovering, connected := false, ready := false })).wait false true
  | [address] =>
    match s.lookup host address with
    | none => { s with targetGeneration := s.targetGeneration + 1 }.handleFailure none .other
    | some none => (s.discover address none .authenticationRequired .missing).wait false false
    | some (some stored) => (s.discover address (some stored) .pairing .available).launchAttempt address
  | _ =>
    (s.transition ({ · with
      phase := .selectionRequired, target := none, connected := false, ready := false })).wait false false

-- The manager's loop from its head to the next await.
def runManager : State Address Passkey :=
  if !s.state.desiredConnected then
    let s := if s.state.phase = .disconnected then s
      else s.transition ({ · with phase := .disconnected, connected := false, ready := false })
    s.wait false false
  else if s.state.ready then s.wait true true
  else match s.state.target with
    | some target => s.requireCredential host target
    | none =>
      let s := s.countAttempt.transition ({ · with
        phase := .discovering, connected := false, ready := false, credentialState := .missing })
      match s.pendingDiscovery with
      | some devices => { s with pendingDiscovery := none }.selectDiscovered host devices
      | none => { s with manager := .discovering s.targetGeneration }

-- `_connection_lost` up to its first await; `false` when it returns at once.
def connectionLost : State Address Passkey × Bool :=
  if !s.state.connected ∧ (s.state.phase = .reconnecting ∨ s.state.phase = .disconnected) then (s,false)
  else
    (s.transition fun state => { state with
      phase := if state.desiredConnected then .reconnecting else .disconnected
      connected := false, ready := false },true)

def lose (lost : State Address Passkey × Bool) (ready : Bool) (otherwise : State Address Passkey) :
    State Address Passkey :=
  if lost.2 then { lost.1 with manager := .losing .history ready } else otherwise

def afterWait (ready : Bool) : State Address Passkey :=
  if ready ∧ s.state.desiredConnected ∧ s.clientLost then
    lose s.connectionLost false (s.runManager host)
  else s.runManager host

-- What `_wait_for_manager_wakeup` does with the event it took.
def handleEvent (event : LifecycleEvent Address) : State Address Passkey × Bool :=
  match event.kind,event.value with
  | .discoveryResult,.devices devices =>
    if event.generation = s.targetGeneration ∧ s.state.target = none then
      ({ s with pendingDiscovery := some devices },false)
    else (s,false)
  | .linkLost,value =>
    if event.generation = s.targetGeneration ∧ value.isClient s.client then s.connectionLost else (s,false)
  | _,_ => (s,false)

-- `_find_reconnect_target` behind its scan; a failed scan counts as an empty one.
def rediscovered (target : Address) (generation : Nat) (devices : List Address) : State Address Passkey :=
  if !s.state.desiredConnected ∨ generation ≠ s.targetGeneration then s.runManager host
  else
    let refreshed := (devices.find? fun device => host.lower device = host.lower target).getD target
    (s.transition ({ · with
      phase := .reconnecting, target := some refreshed, connected := false, ready := false })).startAttempt
        refreshed generation

def entry (attempt : Attempt Address Passkey) : Entry Address Passkey where
  attempt := attempt
  desiredConnected := s.state.desiredConnected
  selected := s.selected
  recorded := s.state.target
  generation := s.targetGeneration
  client := s.client
  clientClosed := (s.client.bind (s.clients[·]?)).any Client.closed

def enterConnected (attempt : Attempt Address Passkey) (key : Address) (passkey : Passkey) : State Address Passkey :=
  let s := { s with
    credentials := Function.update s.credentials key (some passkey), credentialFromRegistry := true }
  let s := s.observe (.credentialSaved attempt.target passkey attempt)
  let s := s.transition ({ · with
    phase := .connected, target := some attempt.target, connected := true, ready := true
    credentialState := .verified })
  let s := s.observe (.connected (s.entry attempt))
  { s.completePendingConnect attempt with manager := .publishing }

-- The success path from the boot look-up to the next await. `saved` is the success of
-- writing the registry file.
def commit (attempt : Attempt Address Passkey) (bootId : BootId) (saved : Bool) : State Address Passkey :=
  let s := { s with lastBootId := some bootId }
  match host.registryKey attempt.target,s.targetPasskey with
  | some key,some passkey =>
    if saved then s.enterConnected attempt key passkey else s.handleFailure (some attempt) .other
  | _,_ => s.handleFailure (some attempt) .other

def attemptReturned (attempt : Attempt Address Passkey) (outcome : Outcome) (saved : Bool) :
    State Address Passkey :=
  let s := { s with attempt := none }
  match outcome with
  | .ended .cancelled | .ended .superseded => s.runManager host
  | .ended (.failed error) => s.handleFailure (some attempt) error
  | .verified bootId =>
    match s.lastBootId with
    | none => { s with manager := .readingBoot attempt bootId }
    | some _ => s.commit host attempt bootId saved

def failureHandled : FailureKind → State Address Passkey
  | .undesired =>
    let s := if s.state.phase = .disconnected then s
      else s.transition ({ · with phase := .disconnected, connected := false, ready := false })
    s.runManager host
  | .rejected => s.wait false false
  | .retrying => { s with manager := .reporting }

inductive Answer (Address : Type) where
  | done
  | event
  | timeout
  | devices (devices : List Address)
  | failed (error : ConnectionError)
  | cancelled
  | connected (bootId : BootId)
  | file (written : Bool)
  deriving DecidableEq, Repr

def managerStep (manager : Manager Address Passkey) (answer : Answer Address) :
    Option (State Address Passkey) :=
  match manager,answer with
  | .starting,.done => some (s.runManager host)
  | .waiting ready _,.event =>
    match s.managerEvents with
    | [] => none
    | event :: rest =>
      let s := { s with managerEvents := rest }
      some (lose (s.handleEvent event) ready ((s.handleEvent event).1.afterWait host ready))
  | .waiting ready true,.timeout => some (s.afterWait host ready)
  | .losing .history ready,.done => some { s with manager := .losing (.client .entering) ready }
  | .losing (.client stage) ready,.done => (s.closeClient .manager stage).map fun
    | (s,some stage) => { s with manager := .losing (.client stage) ready }
    | (s,none) => s.notifyConnectionManager.afterWait host ready
  | .discovering generation,.devices devices =>
    -- A manual selection or disconnect that came first is authoritative.
    if generation ≠ s.targetGeneration ∨ s.state.target.isSome then some (s.runManager host)
    else some (s.selectDiscovered host devices)
  | .discovering _,.failed error => some (s.handleFailure none error)
  | .rediscovering target generation,.devices devices => some (s.rediscovered host target generation devices)
  | .rediscovering target generation,.failed _ => some (s.rediscovered host target generation [])
  | .attempting,.file written =>
    match s.attempt with
    | some attempt =>
      match attempt.stage with
      | .finished outcome => some (s.attemptReturned host attempt outcome written)
      | _ => none
    | none => none
  | .readingBoot attempt bootId,.file written => some (s.commit host attempt bootId written)
  | .publishing,.done => some { s with manager := .announcing }
  | .announcing,.done => some (s.runManager host)
  | .failing kind stage,.done => (s.closeClient .manager stage).map fun
    | (s,some stage) => { s with manager := .failing kind stage }
    | (s,none) => s.failureHandled host kind
  | .reporting,.done => some (s.wait false true)
  | _,_ => none

def superseded (attempt : Attempt Address Passkey) : Bool :=
  !s.state.desiredConnected || attempt.generation != s.targetGeneration

def setAttempt (attempt : Attempt Address Passkey) : State Address Passkey := { s with attempt := some attempt }

def closeAttempt (attempt : Attempt Address Passkey) (resets : Bool) (ending : Ending) (guarded : Bool) :
    State Address Passkey :=
  { s with
    clients := match attempt.client with
      | some client => s.clients.modify client ({ · with closed := true })
      | none => s.clients
    attempt := some { attempt with stage := .closing resets ending guarded } }

def finishAttempt (attempt : Attempt Address Passkey) (outcome : Outcome) : State Address Passkey :=
  { s.setAttempt { attempt with stage := .finished outcome } with lifecycleLock := none }

def openTransport (attempt : Attempt Address Passkey) : State Address Passkey :=
  (s.transition ({ · with phase := .connecting, connected := false, ready := false })).setAttempt
    { attempt with stage := .connecting }

def beginAttempt (attempt : Attempt Address Passkey) : State Address Passkey :=
  let attempt := { attempt with client := some s.clients.length }
  let s := { s with clients := s.clients ++ [(⟨attempt.target,0,false,false⟩ : Client Address)], lifecycleLock := some .attempt }
  if s.verifiedBondAddress = some (host.casefold attempt.target) then s.openTransport attempt
  else
    (s.transition ({ · with
      phase := .pairing, connected := false, ready := false, credentialState := .available })).setAttempt
        { attempt with stage := .pairing }

def verifyTransport (attempt : Attempt Address Passkey) (client : ClientId) (bootId : BootId) :
    State Address Passkey :=
  let s := { s with clients := s.clients.modify client ({ · with bootId := bootId, isConnected := true }) }
  if s.superseded attempt then s.closeAttempt attempt true .superseded true
  else
    ({ s with client := some client }.transition ({ · with
      phase := .verifying, connected := true, ready := false })).setAttempt { attempt with stage := .authenticating }

-- Without a passkey the client refuses to pair or to connect; a cancellation arrives
-- only where one was requested.
def attemptStep (attempt : Attempt Address Passkey) (answer : Answer Address) :
    Option (State Address Passkey) :=
  match attempt.stage,answer with
  | .created,.done => if s.lifecycleLock.isSome then none else some (s.beginAttempt host attempt)
  | .created,.cancelled =>
    if attempt.cancelRequested then some (s.setAttempt { attempt with stage := .finished (.ended .cancelled) }) else none
  | .pairing,.done =>
    if attempt.passkey.isNone then none
    else if s.superseded attempt then some (s.closeAttempt attempt true .superseded true)
    else some ({ s with verifiedBondAddress := some (host.casefold attempt.target) }.openTransport attempt)
  | .connecting,.connected bootId =>
    if attempt.passkey.isNone then none
    else attempt.client.map fun client => s.verifyTransport attempt client bootId
  | .authenticating,.done =>
    let s := s.observe (.authenticated attempt)
    if s.superseded attempt then some (s.closeAttempt attempt true .superseded true)
    else some (s.setAttempt { attempt with stage := .reading })
  | .reading,.done =>
    -- The last check stands behind `try`: it closes the client and keeps it as current.
    if s.superseded attempt then some (s.closeAttempt attempt false .superseded false)
    else (attempt.client.bind (s.clients[·]?)).map fun client =>
      s.finishAttempt attempt (.verified client.bootId)
  | .closing resets ending _,.done =>
    let s := if resets ∧ s.client = attempt.client then { s with client := none } else s
    some (s.finishAttempt attempt (.ended ending))
  | .closing _ _ guarded,.cancelled =>
    if !attempt.cancelRequested then none
    else
      let attempt := { attempt with cancelRequested := false }
      if guarded then some (s.closeAttempt attempt true .cancelled false)
      else some (s.finishAttempt attempt (.ended .cancelled))
  | .created,_ | .closing _ _ _,_ | .finished _,_ => none
  | _,.failed error => some (s.closeAttempt attempt true (.failed error) false)
  | _,.cancelled =>
    if attempt.cancelRequested then
      some (s.closeAttempt { attempt with cancelRequested := false } true .cancelled false)
    else none
  | _,_ => none

def setCall (index : Nat) (call : Call Address Passkey) : State Address Passkey :=
  { s with calls := s.calls.set index call }

def suspend (call : Call Address Passkey) : State Address Passkey := { s with calls := s.calls ++ [call] }

-- The end of `_begin_connection`.
def select (selected : Address) (credential : Passkey) (fromRegistry : Bool) : State Address Passkey :=
  let s := { s with
    targetGeneration := s.targetGeneration + 1, targetPasskey := some credential
    credentialFromRegistry := fromRegistry, selected := some selected }
  (s.transition ({ · with
    phase := .pairing, desiredConnected := true, target := some selected, connected := false, ready := false
    credentialState := .available })).post .intentChanged .none none

-- A selection without a credential, which then raises AuthenticationRequiredError.
def selectWithoutCredential (selected : Address) : State Address Passkey :=
  { s with targetGeneration := s.targetGeneration + 1, selected := some selected }.transition ({ · with
    phase := .authenticationRequired, desiredConnected := true, target := some selected
    connected := false, ready := false, credentialState := .missing })

def resolveCredential (selected : Address) (passkey : Option Passkey) : Option (Option Passkey × Bool) :=
  match passkey with
  | some supplied => some (some supplied,false)
  | none => (s.lookup host selected).map fun stored => (stored,stored.isSome)

def beginOperation (kind : OperationKind) (selected : Address) (credential : Passkey) : State Address Passkey :=
  { (s.newOperation kind .running selected (some credential)).cancelPendingConnect with
    pendingConnectOperation := some s.operations.length }

def switchTarget (selected : Address) (credential : Passkey) (fromRegistry : Bool) : State Address Passkey :=
  ({ s with selected := some selected }.transition ({ · with phase := .disconnecting, ready := false })).suspend
    (.switching selected credential fromRegistry .history)

def beginConnection (selected : Address) (passkey : Option Passkey) (kind : OperationKind) :
    Option (State Address Passkey) :=
  match s.resolveCredential host selected passkey with
  | none => none
  | some (credential,fromRegistry) =>
    if s.state.ready ∧ s.sameTarget host selected then
      some ((s.newOperation kind .succeeded selected credential).observe
        (.operationSucceeded s.operations.length none))
    else match credential with
      | none => some (s.selectWithoutCredential selected)
      | some credential =>
        let s := s.beginOperation kind selected credential
        if s.state.connected ∧ !s.sameTarget host selected then
          some (s.switchTarget selected credential fromRegistry)
        else some (s.select selected credential fromRegistry)

def reconnect : Option (State Address Passkey) :=
  s.state.target.bind fun target => s.beginConnection host target none .connect

def disconnect : State Address Passkey :=
  let s := { s with targetGeneration := s.targetGeneration + 1 }
  ((s.transition ({ · with phase := .disconnecting, desiredConnected := false, ready := false })).post
    .intentChanged .none none).suspend (.disconnecting .history)

-- `_cancel_and_await` of the attempt: an attempt that has ended is not waited for.
def cancelAttempt : State Address Passkey × DisconnectStage :=
  match s.attempt with
  | none => (s,.client .entering)
  | some attempt =>
    match attempt.stage with
    | .finished _ => (s,.client .entering)
    | _ => (s.setAttempt { attempt with cancelRequested := true },.attempt attempt.number)

def attemptEnded (number : Nat) : Bool :=
  match s.attempt with
  | none => true
  | some attempt =>
    match attempt.stage with
    | .finished _ => true
    | _ => attempt.number ≠ number

def disconnectStep (index : Nat) : DisconnectStage → Option (State Address Passkey)
  | .history => some ((s.cancelAttempt).1.setCall index (.disconnecting s.cancelAttempt.2))
  | .attempt number =>
    if s.attemptEnded number then some (s.setCall index (.disconnecting (.client .entering))) else none
  | .client stage => (s.closeClient (.call index) stage).map fun
    | (s,some stage) => s.setCall index (.disconnecting (.client stage))
    | (s,none) =>
      ((s.transition ({ · with phase := .disconnected, connected := false, ready := false })
        ).cancelPendingConnect).setCall index .returned

def beginForgetting (selected : Address) : State Address Passkey :=
  let s := { s with targetGeneration := s.targetGeneration + 1, selected := some selected }
  (s.transition ({ · with
    phase := .disconnecting, desiredConnected := false, target := some selected, ready := false })
      ).notifyConnectionManager.suspend (.forgetting selected)

def forgetPairing (selected : Address) : Option (State Address Passkey) :=
  if s.state.ready ∧ s.sameTarget host selected then some (s.beginForgetting selected) else none

def resetFailed (index : Nat) (operation : OperationId) : State Address Passkey :=
  ((s.transition ({ · with phase := .disconnected, connected := false, ready := false })).setOperation
    operation .failed).setCall index .returned

def resetCompleted : State Address Passkey :=
  { s with targetPasskey := none, credentialFromRegistry := false }.transition ({ · with
    phase := .disconnected, connected := false, ready := false, credentialState := .missing })

-- `perform`. A missing client is noticed before its `try` and only fails the operation.
def resetStep (index : Nat) (selected : Address) (operation : OperationId) (stage : Reset)
    (answer : Answer Address) : Option (State Address Passkey) :=
  let continueWith (s : State Address Passkey) (stage : Reset) := s.setCall index (.resetting selected operation stage)
  match stage,answer with
  | .queued,.done =>
    let s := s.setOperation operation .running
    match s.client with
    | some client =>
      if s.clientLost then some ((s.setOperation operation .failed).setCall index .returned)
      else some (continueWith s (.authorizing client))
    | none => some ((s.setOperation operation .failed).setCall index .returned)
  | .authorizing client,.done => some (continueWith s (.closing client .entering))
  | .authorizing _,.failed _ => some (continueWith s (.aborting .entering))
  | .closing client stage,.done => (s.closeClient (.call index) stage).map fun
    | (s,some stage) => continueWith s (.closing client stage)
    | (s,none) => continueWith { s with verifiedBondAddress := none } (.unpairing client)
  | .unpairing _,.file written =>
    match host.registryKey selected with
    | some key =>
      if written then
        some (continueWith { s with credentials := Function.update s.credentials key none }.resetCompleted .reporting)
      else some (continueWith s (.aborting .entering))
    | none => some (continueWith s (.aborting .entering))
  | .unpairing _,.failed _ => some (continueWith s (.aborting .entering))
  | .aborting stage,.done => (s.closeClient (.call index) stage).map fun
    | (s,some stage) => continueWith s (.aborting stage)
    | (s,none) => s.resetFailed index operation
  | .reporting,.done => some ((s.setOperation operation .succeeded).setCall index .returned)
  | _,_ => none

def scannable : Bool :=
  !s.state.connected ∧ s.state.phase ∉
    [ConnectionPhase.pairing,.connecting,.verifying,.connected,.reconnecting,.disconnecting]

def scan : Option (State Address Passkey) :=
  if s.scannable then some (s.suspend (.scanning s.targetGeneration)) else none

def scanned (generation : Nat) (devices : List Address) : State Address Passkey :=
  if generation = s.targetGeneration ∧ s.state.target = none then
    { s with
      pendingDiscovery := some devices
      managerEvents := s.managerEvents ++ [⟨.discoveryResult,generation,.devices devices,none⟩] }
  else s

def callStep (index : Nat) (call : Call Address Passkey) (answer : Answer Address) :
    Option (State Address Passkey) :=
  match call,answer with
  | .switching selected credential fromRegistry .history,.done =>
    some (s.setCall index (.switching selected credential fromRegistry (.client .entering)))
  | .switching selected credential fromRegistry (.client stage),.done => (s.closeClient (.call index) stage).map fun
    | (s,some stage) => s.setCall index (.switching selected credential fromRegistry (.client stage))
    | (s,none) => (s.select selected credential fromRegistry).setCall index .returned
  | .disconnecting stage,.done => s.disconnectStep index stage
  | .forgetting selected,.done =>
    some ((s.newOperation .forgetPairing .queued selected none).setCall index
      (.resetting selected s.operations.length .queued))
  | .resetting selected operation stage,answer => s.resetStep host index selected operation stage answer
  | .scanning generation,.devices devices => some ((s.scanned generation devices).setCall index .returned)
  | .scanning _,.failed _ => some (s.setCall index .returned)
  | _,_ => none

-- One await of a scheduled GET_CURRENT; a failure is reported without naming a client.
def pollStep (poll : Poll) (answer : Answer Address) : Option (State Address Passkey) :=
  match poll,answer with
  | .idle,.timeout => if s.state.ready then some { s with poll := .queued } else none
  | .queued,.done =>
    match s.client with
    | none => some { s with poll := .failed none }
    | some client =>
      if !s.state.ready then some { s with poll := .failed none }
      else if s.clientLost then some { s with poll := .failed (some client) }
      else some { s with poll := .running client }
  | .running _,.done => some { s with poll := .idle }
  | .running client,.failed _ => some { s with poll := .failed (some client) }
  | .failed observed,.done => some { s.post .linkLost .none observed with poll := .idle }
  | _,_ => none

def linkDown (client : ClientId) : State Address Passkey :=
  { s with clients := s.clients.modify client ({ · with isConnected := false }) }

-- `notify_manager`, run by the event loop some time after the link was lost.
def transportDisconnected (client : ClientId) : Option (State Address Passkey) :=
  if s.linkUp client then none
  else if s.state.phase = .disconnecting ∨ s.client ≠ some client then none
  else some (s.post .linkLost (.client client) (some client))

inductive Action (Address Passkey : Type) where
  | connect (selected : Address) (passkey : Option Passkey)
  | pair (selected : Address) (passkey : Option Passkey)
  | reconnect
  | disconnect
  | forgetPairing (selected : Address)
  | scan
  | call (index : Nat) (answer : Answer Address)
  | manager (answer : Answer Address)
  | attempt (answer : Answer Address)
  | poll (answer : Answer Address)
  | linkDown (client : ClientId)
  | transportDisconnected (client : ClientId)
  deriving DecidableEq, Repr

-- Calls that are refused before they change anything are no steps.
def step (s : State Address Passkey) : Action Address Passkey → Option (State Address Passkey)
  | .connect selected passkey => s.beginConnection host selected passkey .connect
  | .pair selected passkey => s.beginConnection host selected passkey .pair
  | .reconnect => s.reconnect host
  | .disconnect => some s.disconnect
  | .forgetPairing selected => s.forgetPairing host selected
  | .scan => s.scan
  | .call index answer => s.calls[index]?.bind fun call => s.callStep host index call answer
  | .manager answer => { s with manager := .starting }.managerStep host s.manager answer
  | .attempt answer => s.attempt.bind fun attempt => s.attemptStep host attempt answer
  | .poll answer => s.pollStep s.poll answer
  | .linkDown client => some (s.linkDown client)
  | .transportDisconnected client => s.transportDisconnected client

def started (autoDiscover : Bool) (credentials : Address → Option Passkey) : State Address Passkey where
  state := ⟨if autoDiscover then .discovering else .disconnected,autoDiscover,none,false,false,.missing,1⟩
  targetGeneration := 0
  targetPasskey := none
  credentialFromRegistry := false
  verifiedBondAddress := none
  connectionAttemptId := 0
  lastBootId := none
  credentials := credentials
  client := none
  clients := []
  lifecycleLock := none
  managerEvents := [⟨.start,0,.none,none⟩]
  pendingDiscovery := none
  manager := .starting
  attempt := none
  poll := .idle
  calls := []
  operations := []
  pendingConnectOperation := none
  selected := none
  observations := []

end State

end Thermometer.Controller
