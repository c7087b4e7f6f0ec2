import Thermometer.Client.BleScheduler
import Thermometer.Client.Lifecycle

-- service_state.py, and every place that calls `_transition`. Nothing is assumed here about
-- the order in which the coroutines reach these places.
namespace Thermometer.Controller
open Execution

variable {Address : Type}

-- The keyword arguments of `_transition`; those that are missing leave a field as it is.
structure Changes (Address : Type) where
  phase : Option ConnectionPhase := none
  desiredConnected : Option Bool := none
  target : Option (Option Address) := none
  connected : Option Bool := none
  ready : Option Bool := none
  credentialState : Option CredentialState := none

def Changes.apply (changes : Changes Address) (previous : ControllerState Address) : ControllerState Address where
  phase := changes.phase.getD previous.phase
  desiredConnected := changes.desiredConnected.getD previous.desiredConnected
  target := changes.target.getD previous.target
  connected := changes.connected.getD previous.connected
  ready := changes.ready.getD previous.ready
  credentialState := changes.credentialState.getD previous.credentialState
  revision := previous.revision + 1

def transitionState (previous : ControllerState Address) (changes : Changes Address) : Except String (ControllerState Address) :=
  let state := changes.apply previous
  if state.ready ∧ ¬ state.connected then .error "a ready BLE service must have a connected transport"
  else if state.phase = .connected ∧ ¬ (state.connected ∧ state.ready) then
    .error "CONNECTED requires a verified, ready transport"
  else if state.phase = .stopped ∧ state.desiredConnected then .error "a stopped service cannot request a connection"
  else .ok state

-- The calls of `_transition`, in the order of the source.
inductive Transition (Address : Type) where
  | serviceStarted (autoDiscover : Bool)
  | serviceStopping
  | serviceStopped
  | credentialMissing (selected : Address)
  | targetSwitching
  | connectionRequested (selected : Address)
  | disconnectRequested
  | disconnected
  | resetRequested (selected : Address)
  | resetFailed
  | resetCompleted
  | managerRecovered
  | connectionDisabled
  | discoveryProbed
  | enrollmentRequired (discovered : Address)
  | deviceDiscovered (discovered : Address)
  | selectionRequired
  | nothingDiscovered
  | notEnrolled
  | verified (selected : Address)
  | attemptSuperseded
  | credentialRejected
  | retryScheduled
  | bondChecked
  | transportOpening
  | protocolVerifying
  | connectionLost
  | snapshotReceived
  | targetRediscovered (refreshed : Address)
  deriving DecidableEq

def Transition.changes (state : ControllerState Address) : Transition Address → Changes Address
  | .serviceStarted autoDiscover =>
    { phase := some (if autoDiscover then .discovering else .disconnected), desiredConnected := some autoDiscover,
      connected := some false, ready := some false, credentialState := some .missing }
  | .serviceStopping => { phase := some .disconnecting, desiredConnected := some false, ready := some false }
  | .serviceStopped => { phase := some .stopped, connected := some false, ready := some false }
  | .credentialMissing selected =>
    { phase := some .authenticationRequired, desiredConnected := some true, target := some (some selected),
      connected := some false, ready := some false, credentialState := some .missing }
  | .targetSwitching => { phase := some .disconnecting, ready := some false }
  | .connectionRequested selected =>
    { phase := some .pairing, desiredConnected := some true, target := some (some selected),
      connected := some false, ready := some false, credentialState := some .available }
  | .disconnectRequested => { phase := some .disconnecting, desiredConnected := some false, ready := some false }
  | .disconnected => { phase := some .disconnected, connected := some false, ready := some false }
  | .resetRequested selected =>
    { phase := some .disconnecting, desiredConnected := some false, target := some (some selected), ready := some false }
  | .resetFailed => { phase := some .disconnected, connected := some false, ready := some false }
  | .resetCompleted =>
    { phase := some .disconnected, connected := some false, ready := some false, credentialState := some .missing }
  | .managerRecovered =>
    { phase := some (if !state.desiredConnected then .disconnected
        else if state.target.isNone then .discovering else .reconnecting),
      connected := some false, ready := some false }
  | .connectionDisabled => { phase := some .disconnected, connected := some false, ready := some false }
  | .discoveryProbed =>
    { phase := some .discovering, connected := some false, ready := some false, credentialState := some .missing }
  | .enrollmentRequired discovered =>
    { phase := some .authenticationRequired, target := some (some discovered), connected := some false,
      ready := some false, credentialState := some .missing }
  | .deviceDiscovered discovered =>
    { phase := some .pairing, target := some (some discovered), connected := some false, ready := some false,
      credentialState := some .available }
  | .selectionRequired =>
    { phase := some .selectionRequired, target := some none, connected := some false, ready := some false }
  | .nothingDiscovered => { phase := some .discovering, connected := some false, ready := some false }
  | .notEnrolled =>
    { phase := some .authenticationRequired, connected := some false, ready := some false, credentialState := some .missing }
  | .verified selected =>
    { phase := some .connected, target := some (some selected), connected := some true, ready := some true,
      credentialState := some .verified }
  | .attemptSuperseded => { phase := some .disconnected, connected := some false, ready := some false }
  | .credentialRejected =>
    { phase := some .authenticationRequired, connected := some false, ready := some false, credentialState := some .rejected }
  | .retryScheduled =>
    { phase := some (if state.target.isNone then .discovering else .reconnecting), connected := some false, ready := some false }
  | .bondChecked =>
    { phase := some .pairing, connected := some false, ready := some false, credentialState := some .available }
  | .transportOpening => { phase := some .connecting, connected := some false, ready := some false }
  | .protocolVerifying => { phase := some .verifying, connected := some true, ready := some false }
  | .connectionLost =>
    { phase := some (if state.desiredConnected then .reconnecting else .disconnected), connected := some false, ready := some false }
  | .snapshotReceived => {}
  | .targetRediscovered refreshed =>
    { phase := some .reconnecting, target := some (some refreshed), connected := some false, ready := some false }

def Transition.run (transition : Transition Address) (state : ControllerState Address) : Except String (ControllerState Address) :=
  transitionState state (transition.changes state)

def ControllerState.created : ControllerState Address := ⟨.stopped,false,none,false,false,.missing,0⟩

structure ControllerState.Related (state : ControllerState Address) : Prop where
  ready : state.ready = true ↔ state.phase = .connected
  connected : state.ready → state.connected
  phase : state.connected → state.phase ∈ [ConnectionPhase.verifying,.connected,.disconnecting]

inductive Changes.Restores (changes : Changes Address) : Prop where
  | keeps : changes.phase = none → changes.connected = none → changes.ready = none → Restores changes
  | lowers (phase : ConnectionPhase) : changes.phase = some phase → phase ≠ .connected → changes.ready = some false →
      changes.connected = some false ∨ phase = .verifying ∨ phase = .disconnecting → Restores changes
  | enters : changes.phase = some .connected → changes.connected = some true → changes.ready = some true → Restores changes

theorem Changes.Restores.related {changes : Changes Address} (restores : changes.Restores)
    {state : ControllerState Address} (related : state.Related) : (changes.apply state).Related := by
  cases restores with
  | keeps phase connected ready =>
    refine ⟨?_,?_,?_⟩
    · rw [apply,phase,ready]
      exact related.ready
    · rw [apply,connected,ready]
      exact related.connected
    · rw [apply,phase,connected]
      exact related.phase
  | lowers next phase other ready connected =>
    refine ⟨?_,?_,?_⟩
    · rw [apply,phase,ready]
      exact ⟨nofun,fun entered => absurd entered other⟩
    · rw [apply,ready]
      exact nofun
    · rw [apply,phase]
      rcases connected with away | rfl | rfl
      · rw [away]
        exact nofun
      · exact fun _ => by simp
      · exact fun _ => by simp
  | enters phase connected ready =>
    refine ⟨?_,?_,?_⟩
    · rw [apply,phase,ready]
      exact ⟨fun _ => rfl,fun _ => rfl⟩
    · rw [apply,connected]
      exact fun _ => rfl
    · rw [apply,phase]
      exact fun _ => by simp

theorem Transition.restores (state : ControllerState Address) (transition : Transition Address) :
    (transition.changes state).Restores := by
  cases transition with
  | snapshotReceived => exact .keeps rfl rfl rfl
  | verified => exact .enters rfl rfl rfl
  | serviceStopping | targetSwitching | disconnectRequested | resetRequested =>
    exact .lowers .disconnecting rfl nofun rfl (.inr (.inr rfl))
  | protocolVerifying => exact .lowers .verifying rfl nofun rfl (.inr (.inl rfl))
  | serviceStarted autoDiscover =>
    refine .lowers _ rfl ?_ rfl (.inl rfl)
    split <;> nofun
  | managerRecovered =>
    refine .lowers _ rfl ?_ rfl (.inl rfl)
    split
    · nofun
    · split <;> nofun
  | retryScheduled =>
    refine .lowers _ rfl ?_ rfl (.inl rfl)
    split <;> nofun
  | connectionLost =>
    refine .lowers _ rfl ?_ rfl (.inl rfl)
    split <;> nofun
  | _ => exact .lowers _ rfl nofun rfl (.inl rfl)

theorem transitionState_ok {state next : ControllerState Address} {changes : Changes Address}
    (done : transitionState state changes = .ok next) : next = changes.apply state := by
  unfold transitionState at done
  dsimp only at done
  split at done
  · cases done
  · split at done
    · cases done
    · split at done
      · cases done
      · exact (Except.ok.inj done).symm

theorem Transition.run_related {state next : ControllerState Address} {transition : Transition Address}
    (done : transition.run state = .ok next) (related : state.Related) : next.Related ∧ next.revision = state.revision + 1 := by
  rw [transitionState_ok done]
  exact ⟨(transition.restores state).related related,rfl⟩

theorem ControllerState.related_created : (created : ControllerState Address).Related :=
  ⟨⟨nofun,nofun⟩,nofun,nofun⟩

-- `statePublishQueue` and `submitted` keep what the publisher and the scheduler were given,
-- a request with the state in which it was submitted.
structure Publication (Address : Type) where
  state : ControllerState Address
  started : Bool
  statePublishQueue : List (ControllerState Address)
  submitted : List (Thermometer.Client.RequestPriority × ControllerState Address)

inductive Publication.Action (Address : Type) where
  | transition (transition : Transition Address)
  | setStarted (started : Bool)
  | publishConnectionState
  | submitBle (priority : Thermometer.Client.RequestPriority)

namespace Publication

variable (s : Publication Address)

def created : Publication Address := ⟨.created,false,[],[]⟩

-- A transition that raises leaves the state as it is, and so does a refused request.
def step (s : Publication Address) : Action Address → Option (Publication Address)
  | .transition transition =>
    match transition.run s.state with
    | .ok state => some { s with state := state }
    | .error _ => some s
  | .setStarted started => some { s with started := started }
  | .publishConnectionState => some { s with statePublishQueue := s.statePublishQueue ++ [s.state] }
  | .submitBle priority =>
    if !s.started || !s.state.ready then some s else some { s with submitted := s.submitted ++ [(priority,s.state)] }

variable {s}

def Precedes (earlier later : ControllerState Address) : Prop := earlier = later ∨ earlier.revision < later.revision

theorem Precedes.later {earlier : ControllerState Address} (precedes : Precedes earlier s.state)
    (stepped : s.step action = some next) : Precedes earlier next.state := by
  have newer (state : ControllerState Address) (revision : state.revision = s.state.revision + 1) : Precedes earlier state := by
    rcases precedes with rfl | older
    · exact .inr (by omega)
    · exact .inr (by omega)
  cases action with
  | transition transition =>
    dsimp only [step] at stepped
    split at stepped
    · rename_i done
      cases stepped
      exact newer _ (by rw [transitionState_ok done]; rfl)
    · cases stepped
      exact precedes
  | setStarted | publishConnectionState =>
    cases stepped
    exact precedes
  | submitBle priority =>
    dsimp only [step] at stepped
    split at stepped <;>
    · cases stepped
      exact precedes

structure Sound (trace : List (Publication Address × Action Address)) (s : Publication Address) : Prop where
  related : s.state.Related
  preceding : ∀ earlier action, (earlier,action) ∈ trace → Precedes earlier.state s.state
  published : ∀ state ∈ s.statePublishQueue, Precedes state s.state
  ordered : s.statePublishQueue.Pairwise Precedes
  submitted : ∀ request ∈ s.submitted, request.2.phase = .connected

theorem Sound.step {trace : List (Publication Address × Action Address)} (sound : Sound trace s)
    (stepped : s.step action = some next) : Sound (trace ++ [(s,action)]) next := by
  have preceding : ∀ earlier taken, (earlier,taken) ∈ trace ++ [(s,action)] → Precedes earlier.state next.state := by
    intro earlier taken member
    rcases List.mem_append.mp member with old | new
    · exact (sound.preceding earlier taken old).later stepped
    · cases List.mem_singleton.mp new
      exact Precedes.later (.inl rfl) stepped
  have published : ∀ state ∈ s.statePublishQueue, Precedes state next.state :=
    fun state member => (sound.published state member).later stepped
  cases action with
  | transition transition =>
    dsimp only [Publication.step] at stepped
    split at stepped
    · rename_i done
      cases stepped
      exact ⟨(Transition.run_related done sound.related).1,preceding,published,sound.ordered,sound.submitted⟩
    · cases stepped
      exact ⟨sound.related,preceding,sound.published,sound.ordered,sound.submitted⟩
  | setStarted =>
    cases stepped
    exact ⟨sound.related,preceding,sound.published,sound.ordered,sound.submitted⟩
  | publishConnectionState =>
    cases stepped
    refine ⟨sound.related,preceding,fun state member => ?_,?_,sound.submitted⟩
    · rcases List.mem_append.mp member with old | new
      · exact sound.published state old
      · exact .inl (List.mem_singleton.mp new)
    · refine List.pairwise_append.mpr ⟨sound.ordered,List.pairwise_singleton _ _,fun state member last new => ?_⟩
      rw [List.mem_singleton.mp new]
      exact sound.published state member
  | submitBle priority =>
    dsimp only [Publication.step] at stepped
    split at stepped
    · cases stepped
      exact ⟨sound.related,preceding,sound.published,sound.ordered,sound.submitted⟩
    · rename_i accepted
      cases stepped
      refine ⟨sound.related,preceding,sound.published,sound.ordered,fun request member => ?_⟩
      rcases List.mem_append.mp member with old | new
      · exact sound.submitted request old
      · rw [List.mem_singleton.mp new]
        exact sound.related.ready.mp (by simp at accepted; exact accepted.2)

theorem sound_reached {trace : List (Publication Address × Action Address)} (path : Path step anyStep created trace s) :
    Sound trace s := by
  have fresh : Sound [] (created : Publication Address) :=
    ⟨ControllerState.related_created,fun _ _ member => (List.not_mem_nil member).elim,
      fun _ member => (List.not_mem_nil member).elim,List.Pairwise.nil,fun _ member => (List.not_mem_nil member).elim⟩
  exact path.history Sound fresh fun _ _ _ _ _ sound _ stepped => sound.step stepped

-- Whatever the coroutines do and in whatever order, the fields fit together; a snapshot is
-- newer than everything before it, and requests go to the scheduler in CONNECTED only.
theorem controller_consistent {trace : List (Publication Address × Action Address)} (path : Path step anyStep created trace s) :
    (s.state.ready = true ↔ s.state.phase = .connected) ∧ (s.state.ready → s.state.connected) ∧
    (s.state.connected → s.state.phase ∈ [ConnectionPhase.verifying,.connected,.disconnecting]) ∧
    (∀ earlier action, (earlier,action) ∈ trace → earlier.state = s.state ∨ earlier.state.revision < s.state.revision) ∧
    (∀ state ∈ s.statePublishQueue, state = s.state ∨ state.revision < s.state.revision) ∧
    s.statePublishQueue.Pairwise (fun earlier later => earlier = later ∨ earlier.revision < later.revision) ∧
    ∀ request ∈ s.submitted, request.2.phase = .connected := by
  have sound := sound_reached path
  exact ⟨sound.related.ready,sound.related.connected,sound.related.phase,sound.preceding,sound.published,sound.ordered,
    sound.submitted⟩

def connectedRun : List (Action Nat) :=
  [.setStarted true,.transition (.serviceStarted false),.transition (.connectionRequested 1),.publishConnectionState,
    .transition .transportOpening,.transition .protocolVerifying,.transition (.verified 1),.publishConnectionState,
    .submitBle .current,.transition .connectionLost,.submitBle .display,.publishConnectionState]

theorem controller_consistent_connected :
    ∃ trace s, Path step anyStep (created : Publication Nat) trace s ∧ s.submitted.length = 1 ∧
      ∀ request ∈ s.submitted, request.2.phase = .connected := by
  have passed : (run step created connectedRun).any (fun s => s.submitted.length == 1) = true := by decide +kernel
  obtain ⟨trace,s,path,checked⟩ := run_checked passed
  exact ⟨trace,s,path,beq_iff_eq.mp checked,(controller_consistent path).2.2.2.2.2.2⟩

end Publication

end Thermometer.Controller
