import Mathlib.Tactic.Common

-- service_state.py and the records of ble_service.py. A discovered thermometer is
-- represented by its address; names, signal strengths, times and texts are left out.
namespace Thermometer.Controller

abbrev ClientId := Nat
abbrev OperationId := Nat
abbrev BootId := UInt32

-- `str.lower`, `str.casefold` and `normalize_mac_address`, which may raise.
structure Host (Address : Type) where
  lower : Address → Address
  casefold : Address → Address
  registryKey : Address → Option Address

def Host.plain {Address : Type} : Host Address := ⟨id,id,some⟩

inductive ConnectionPhase where
  | stopped | discovering | selectionRequired | authenticationRequired | pairing | connecting
  | verifying | connected | reconnecting | disconnecting | disconnected
  deriving DecidableEq, Repr

inductive CredentialState where
  | missing | available | verified | rejected
  deriving DecidableEq, Repr

structure ControllerState (Address : Type) where
  phase : ConnectionPhase
  desiredConnected : Bool
  target : Option Address
  connected : Bool
  ready : Bool
  credentialState : CredentialState
  revision : Nat
  deriving DecidableEq, Repr

inductive LifecycleEventType where
  | start | intentChanged | discoveryResult | linkLost
  deriving DecidableEq, Repr

inductive EventValue (Address : Type) where
  | none
  | client (client : ClientId)
  | devices (devices : List Address)
  deriving DecidableEq, Repr

-- `observed` is not part of the source: the client on which a loss was seen.
structure LifecycleEvent (Address : Type) where
  kind : LifecycleEventType
  generation : Nat
  value : EventValue Address
  observed : Option ClientId
  deriving DecidableEq, Repr

-- `event.value is self._client`.
def EventValue.isClient {Address : Type} : EventValue Address → Option ClientId → Bool
  | .none,current => current = Option.none
  | .client known,current => current = some known
  | .devices _,_ => false

-- A client object: the device and, from its connection on, the boot it talks to;
-- `closed` records that `close()` was called.
structure Client (Address : Type) where
  address : Address
  bootId : BootId
  isConnected : Bool
  closed : Bool
  deriving DecidableEq, Repr

inductive OperationKind where
  | connect | pair | forgetPairing
  deriving DecidableEq, Repr

inductive OperationState where
  | queued | running | succeeded | failed | cancelled
  deriving DecidableEq, Repr

structure Operation (Address Passkey : Type) where
  kind : OperationKind
  state : OperationState
  address : Address
  credential : Option Passkey
  deriving DecidableEq, Repr

-- A ProtocolError with one of the three AUTHENTICATION_* statuses, or anything else.
inductive ConnectionError where
  | authentication | other
  deriving DecidableEq, Repr

inductive Ending where
  | superseded
  | failed (error : ConnectionError)
  | cancelled
  deriving DecidableEq, Repr

inductive Outcome where
  | verified (bootId : BootId)
  | ended (ending : Ending)
  deriving DecidableEq, Repr

-- The awaits of `_open_connection`. A closing says whether it resets the current
-- client afterwards, how the attempt then ends, and whether it stands inside `try`.
inductive AttemptStage where
  | created | pairing | connecting | authenticating | reading
  | closing (resets : Bool) (ending : Ending) (guarded : Bool)
  | finished (outcome : Outcome)
  deriving DecidableEq, Repr

-- `begunOperations` is not part of the source: how many operations there were when the
-- attempt was started.
structure Attempt (Address Passkey : Type) where
  number : Nat
  target : Address
  generation : Nat
  passkey : Option Passkey
  client : Option ClientId
  stage : AttemptStage
  cancelRequested : Bool
  begunOperations : Nat
  deriving DecidableEq, Repr

def Attempt.identity {Address Passkey : Type} (attempt : Attempt Address Passkey) : Attempt Address Passkey :=
  { attempt with stage := .created, cancelRequested := false }

theorem Attempt.same_identity {Address Passkey : Type} {left right : Attempt Address Passkey}
    (same : left.identity = right.identity) :
    left.number = right.number ∧ left.target = right.target ∧ left.generation = right.generation ∧
      left.passkey = right.passkey ∧ left.client = right.client ∧ left.begunOperations = right.begunOperations := by
  cases left
  cases right
  simpa [Attempt.identity] using same

inductive Closing where
  | entering | closing
  deriving DecidableEq, Repr

inductive LockHolder where
  | attempt
  | manager
  | call (index : Nat)
  deriving DecidableEq, Repr

inductive Teardown where
  | history
  | client (stage : Closing)
  deriving DecidableEq, Repr

inductive FailureKind where
  | undesired | rejected | retrying
  deriving DecidableEq, Repr

-- The awaits of `_connection_manager`; `starting` stands for a manager that runs.
inductive Manager (Address Passkey : Type) where
  | starting
  | waiting (ready timed : Bool)
  | losing (stage : Teardown) (ready : Bool)
  | discovering (generation : Nat)
  | rediscovering (target : Address) (generation : Nat)
  | attempting
  | readingBoot (attempt : Attempt Address Passkey) (bootId : BootId)
  | publishing
  | announcing
  | failing (kind : FailureKind) (stage : Closing)
  | reporting
  deriving DecidableEq, Repr

-- The awaits of `perform` in `forget_pairing`.
inductive Reset where
  | queued
  | authorizing (client : ClientId)
  | closing (client : ClientId) (stage : Closing)
  | unpairing (client : ClientId)
  | aborting (stage : Closing)
  | reporting
  deriving DecidableEq, Repr

inductive DisconnectStage where
  | history
  | attempt (number : Nat)
  | client (stage : Closing)
  deriving DecidableEq, Repr

inductive Call (Address Passkey : Type) where
  | switching (selected : Address) (credential : Passkey) (fromRegistry : Bool) (stage : Teardown)
  | disconnecting (stage : DisconnectStage)
  | forgetting (selected : Address)
  | resetting (selected : Address) (operation : OperationId) (stage : Reset)
  | scanning (generation : Nat)
  | returned
  deriving DecidableEq, Repr

inductive Poll where
  | idle | queued
  | running (client : ClientId)
  | failed (observed : Option ClientId)
  deriving DecidableEq, Repr

structure Entry (Address Passkey : Type) where
  attempt : Attempt Address Passkey
  desiredConnected : Bool
  selected : Option Address
  recorded : Option Address
  generation : Nat
  client : Option ClientId
  clientClosed : Bool
  deriving DecidableEq, Repr

inductive Observation (Address Passkey : Type) where
  | attemptStarted (attempt : Attempt Address Passkey)
  | authenticated (attempt : Attempt Address Passkey)
  | connected (entry : Entry Address Passkey)
  | credentialSaved (address : Address) (passkey : Passkey) (attempt : Attempt Address Passkey)
  | credentialRejected (attempt : Option (Attempt Address Passkey))
  | operationSucceeded (operation : OperationId) (attempt : Option (Attempt Address Passkey))
  | operationFailed (operation : OperationId) (attempt : Option (Attempt Address Passkey))
  deriving DecidableEq, Repr

end Thermometer.Controller
