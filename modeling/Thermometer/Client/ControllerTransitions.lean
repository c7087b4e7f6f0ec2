import Thermometer.Client.StepEffects
import Thermometer.Client.StateTransitions

-- Every step of the connection controller changes its state by calls of `_transition` only:
-- a run of the controller is one of the calls that StateTransitions is about.
namespace Thermometer.Controller
open Execution

variable {Address Passkey : Type}
  {host : Host Address} {s next : State Address Passkey}

-- Calls of `_transition`, one after the other, of which none raises.
abbrev Transits (before after : ControllerState Address) : Prop :=
  Relation.ReflTransGen (fun before after => ∃ transition : Transition Address, transition.run before = .ok after) before after

theorem Transition.run_ok {state : ControllerState Address} (transition : Transition Address)
    (entered : (transition.changes state).phase = some phase) (running : phase ≠ .stopped) :
    transition.run state = .ok ((transition.changes state).apply state) := by
  unfold run transitionState
  dsimp only
  cases transition.restores state with
  | keeps same => rw [same] at entered; cases entered
  | lowers lower named other ready =>
    cases Option.some.inj (named.symm.trans entered)
    simp only [Changes.apply,ready,named,Option.getD_some]
    simp [other,running]
  | enters named connected ready => simp [Changes.apply,ready,named,connected]

theorem Transition.transits {state after : ControllerState Address} (transition : Transition Address)
    (entered : (transition.changes state).phase = some phase) (running : phase ≠ .stopped)
    (same : (transition.changes state).apply state = after) : Transits state after :=
  .single ⟨transition,same ▸ transition.run_ok entered running⟩

namespace State

variable {attempt : Attempt Address Passkey} {answer : Answer Address}

theorem handleFailure_transits (attempt : Option (Attempt Address Passkey)) (error : ConnectionError) :
    Transits s.state (s.handleFailure attempt error).state := by
  rcases handleFailure_cases attempt error with ⟨_,same⟩ | ⟨_,_,same⟩ | ⟨_,_,same⟩ <;> rw [same]
  · exact Transition.transits .credentialRejected rfl nofun rfl
  · exact Transition.transits .retryScheduled rfl (by split <;> nofun) rfl

theorem launchAttempt_state (target : Address) : (s.launchAttempt target).state = s.state := by
  unfold launchAttempt
  split <;> rfl

theorem connectionLost_transits : Transits s.state s.connectionLost.1.state := by
  unfold connectionLost
  split
  · exact .refl
  · exact Transition.transits .connectionLost rfl (by split <;> nofun) rfl

theorem lose_transits {lost : State Address Passkey × Bool} {otherwise : State Address Passkey}
    (losing : Transits s.state lost.1.state) (remaining : Transits s.state otherwise.state) :
    Transits s.state (lose lost ready otherwise).state := by
  unfold lose
  split
  · exact losing
  · exact remaining

theorem closeClient_transits {continueWith : State Address Passkey × Option Closing → State Address Passkey}
    (ran : (s.closeClient holder stage).map continueWith = some next)
    (continues : ∀ closed rest, Transits closed.state (continueWith (closed,rest)).state) : Transits s.state next.state := by
  obtain ⟨⟨closed,rest⟩,closing,rfl⟩ := Option.map_eq_some_iff.mp ran
  rw [← closeClient_state closing]
  exact continues closed rest

theorem requireCredential_transits (target : Address) : Transits s.state (s.requireCredential host target).state := by
  unfold requireCredential
  split
  · rw [launchAttempt_state]
    exact .refl
  · split
    · exact .refl
    · split
      · exact handleFailure_transits none .other
      · exact Transition.transits .notEnrolled rfl nofun rfl
      · rw [launchAttempt_state]
        exact .refl

theorem selectDiscovered_transits (devices : List Address) : Transits s.state (s.selectDiscovered host devices).state := by
  unfold selectDiscovered
  split
  · exact Transition.transits .nothingDiscovered rfl nofun rfl
  · rename_i address
    split
    · exact handleFailure_transits (s := { s with targetGeneration := s.targetGeneration + 1 }) none .other
    · exact Transition.transits (.enrollmentRequired address) rfl nofun rfl
    · rw [launchAttempt_state]
      exact Transition.transits (.deviceDiscovered address) rfl nofun rfl
  · exact Transition.transits .selectionRequired rfl nofun rfl

theorem runManager_transits : Transits s.state (s.runManager host).state := by
  unfold runManager
  split
  · split
    · exact .refl
    · exact Transition.transits .connectionDisabled rfl nofun rfl
  · split
    · exact .refl
    · split
      · exact requireCredential_transits _
      · dsimp only
        split
        · refine .trans ?_ (selectDiscovered_transits _)
          exact Transition.transits .discoveryProbed rfl nofun rfl
        · exact Transition.transits .discoveryProbed rfl nofun rfl

theorem afterWait_transits (ready : Bool) : Transits s.state (s.afterWait host ready).state := by
  unfold afterWait
  split
  · exact lose_transits connectionLost_transits runManager_transits
  · exact runManager_transits

theorem handleEvent_transits (event : LifecycleEvent Address) : Transits s.state (s.handleEvent event).1.state := by
  unfold handleEvent
  split
  · split <;> exact .refl
  · split
    · exact connectionLost_transits
    · exact .refl
  · exact .refl

theorem rediscovered_transits [DecidableEq Address] (target : Address) (generation : Nat) (devices : List Address) :
    Transits s.state (s.rediscovered host target generation devices).state := by
  unfold rediscovered
  split
  · exact runManager_transits
  · exact Transition.transits (.targetRediscovered _) rfl nofun rfl

theorem commit_transits [DecidableEq Address] (attempt : Attempt Address Passkey) (bootId : BootId) (saved : Bool) :
    Transits s.state (s.commit host attempt bootId saved).state := by
  rcases commit_cases attempt bootId saved with ⟨key,passkey,_,_,same⟩ | same <;> rw [same]
  · exact Transition.transits (.verified attempt.target) rfl nofun rfl
  · exact handleFailure_transits (s := { s with lastBootId := some bootId }) _ _

theorem attemptReturned_transits [DecidableEq Address] (attempt : Attempt Address Passkey) (outcome : Outcome) (saved : Bool) :
    Transits s.state (s.attemptReturned host attempt outcome saved).state := by
  unfold attemptReturned
  dsimp only
  split
  · exact runManager_transits (s := { s with attempt := none })
  · exact runManager_transits (s := { s with attempt := none })
  · exact handleFailure_transits (s := { s with attempt := none }) _ _
  · split
    · exact .refl
    · exact commit_transits (s := { s with attempt := none }) attempt _ saved

theorem failureHandled_transits (kind : FailureKind) : Transits s.state (s.failureHandled host kind).state := by
  cases kind with
  | undesired =>
    unfold failureHandled
    dsimp only
    split
    · exact runManager_transits
    · refine .trans ?_ runManager_transits
      exact Transition.transits .attemptSuperseded rfl nofun rfl
  | rejected | retrying => exact .refl

theorem managerStep_transits [DecidableEq Address] {manager : Manager Address Passkey} (ran : s.managerStep host manager answer = some next) :
    Transits s.state next.state := by
  unfold managerStep at ran
  split at ran
  · cases Option.some.inj ran
    exact runManager_transits
  · split at ran
    · cases ran
    · rename_i event rest _
      cases Option.some.inj ran
      have handled := handleEvent_transits (s := { s with managerEvents := rest }) event
      exact lose_transits (s := { s with managerEvents := rest }) handled (handled.trans (afterWait_transits _))
  · cases Option.some.inj ran
    exact afterWait_transits _
  · cases Option.some.inj ran
    exact .refl
  · refine closeClient_transits ran fun closed rest => ?_
    cases rest with
    | some => exact .refl
    | none => exact afterWait_transits (s := closed.notifyConnectionManager) _
  · split at ran <;> cases Option.some.inj ran
    · exact runManager_transits
    · exact selectDiscovered_transits _
  · cases Option.some.inj ran
    exact handleFailure_transits none _
  · cases Option.some.inj ran
    exact rediscovered_transits _ _ _
  · cases Option.some.inj ran
    exact rediscovered_transits _ _ _
  · split at ran
    · split at ran
      · cases Option.some.inj ran
        exact attemptReturned_transits _ _ _
      · cases ran
    · cases ran
  · cases Option.some.inj ran
    exact commit_transits _ _ _
  · cases Option.some.inj ran
    exact .refl
  · cases Option.some.inj ran
    exact runManager_transits
  · refine closeClient_transits ran fun closed rest => ?_
    cases rest with
    | some => exact .refl
    | none => exact failureHandled_transits _
  · cases Option.some.inj ran
    exact .refl
  · cases ran

theorem beginAttempt_transits [DecidableEq Address] (attempt : Attempt Address Passkey) : Transits s.state (s.beginAttempt host attempt).state := by
  unfold beginAttempt
  dsimp only
  split
  · exact Transition.transits .transportOpening rfl nofun rfl
  · exact Transition.transits .bondChecked rfl nofun rfl

theorem verifyTransport_transits (attempt : Attempt Address Passkey) (client : ClientId) (bootId : BootId) :
    Transits s.state (s.verifyTransport attempt client bootId).state := by
  unfold verifyTransport
  dsimp only
  split
  · exact .refl
  · exact Transition.transits .protocolVerifying rfl nofun rfl

theorem attemptStep_transits [DecidableEq Address] (ran : s.attemptStep host attempt answer = some next) : Transits s.state next.state := by
  unfold attemptStep at ran
  split at ran
  · split at ran
    · cases ran
    · cases Option.some.inj ran
      exact beginAttempt_transits attempt
  · split at ran
    · cases Option.some.inj ran
      exact .refl
    · cases ran
  · split at ran
    · cases ran
    · split at ran <;> cases Option.some.inj ran
      · exact .refl
      · exact Transition.transits .transportOpening rfl nofun rfl
  · split at ran
    · cases ran
    · obtain ⟨client,_,rfl⟩ := Option.map_eq_some_iff.mp ran
      exact verifyTransport_transits attempt client _
  · dsimp only at ran
    split at ran <;> cases Option.some.inj ran <;> exact .refl
  · split at ran
    · cases Option.some.inj ran
      exact .refl
    · obtain ⟨client,_,rfl⟩ := Option.map_eq_some_iff.mp ran
      exact .refl
  · dsimp only at ran
    split at ran <;> cases Option.some.inj ran <;> exact .refl
  · split at ran
    · cases ran
    · dsimp only at ran
      split at ran <;> cases Option.some.inj ran <;> exact .refl
  · cases ran
  · cases ran
  · cases ran
  · cases Option.some.inj ran
    exact .refl
  · split at ran
    · cases Option.some.inj ran
      exact .refl
    · cases ran
  · cases ran

theorem select_transits (selected : Address) (credential : Passkey) (fromRegistry : Bool) :
    Transits s.state (s.select selected credential fromRegistry).state :=
  Transition.transits (.connectionRequested selected) rfl nofun rfl

theorem beginConnection_transits [DecidableEq Address] {selected : Address} {passkey : Option Passkey}
    (ran : s.beginConnection host selected passkey kind = some next) : Transits s.state next.state := by
  cases beginConnection_effects ran with
  | already => exact .refl
  | refused => exact Transition.transits (.credentialMissing selected) rfl nofun rfl
  | switches => exact Transition.transits .targetSwitching rfl nofun rfl
  | selects credential => exact select_transits (s := s.beginOperation kind selected credential) selected credential _

theorem disconnectStep_transits {stage : DisconnectStage} (ran : s.disconnectStep index stage = some next) :
    Transits s.state next.state := by
  cases stage with
  | history =>
    cases Option.some.inj ran
    unfold cancelAttempt
    split
    · exact .refl
    · split <;> exact .refl
  | attempt number =>
    simp only [disconnectStep] at ran
    split at ran
    · cases Option.some.inj ran
      exact .refl
    · cases ran
  | client stage =>
    refine closeClient_transits ran fun closed rest => ?_
    cases rest with
    | some => exact .refl
    | none => exact Transition.transits .disconnected rfl (by decide) rfl

theorem resetStep_transits [DecidableEq Address] {selected : Address} {operation : OperationId} {stage : Reset}
    (ran : s.resetStep host index selected operation stage answer = some next) : Transits s.state next.state := by
  unfold resetStep at ran
  dsimp only at ran
  split at ran
  · split at ran
    · split at ran <;> cases Option.some.inj ran <;> exact .refl
    · cases Option.some.inj ran
      exact .refl
  · cases Option.some.inj ran
    exact .refl
  · cases Option.some.inj ran
    exact .refl
  · refine closeClient_transits ran fun closed rest => ?_
    cases rest <;> exact .refl
  · split at ran
    · split at ran <;> cases Option.some.inj ran
      · exact Transition.transits .resetCompleted rfl nofun rfl
      · exact .refl
    · cases Option.some.inj ran
      exact .refl
  · cases Option.some.inj ran
    exact .refl
  · refine closeClient_transits ran fun closed rest => ?_
    cases rest with
    | some => exact .refl
    | none => exact Transition.transits .resetFailed rfl nofun rfl
  · cases Option.some.inj ran
    exact .refl
  · cases ran

theorem callStep_transits [DecidableEq Address] {call : Call Address Passkey} (ran : s.callStep host index call answer = some next) :
    Transits s.state next.state := by
  unfold callStep at ran
  split at ran
  · cases Option.some.inj ran
    exact .refl
  · refine closeClient_transits ran fun closed rest => ?_
    cases rest with
    | some => exact .refl
    | none => exact select_transits _ _ _
  · exact disconnectStep_transits ran
  · cases Option.some.inj ran
    exact .refl
  · exact resetStep_transits ran
  · cases Option.some.inj ran
    unfold scanned
    split <;> exact .refl
  · cases Option.some.inj ran
    exact .refl
  · cases ran

theorem step_transits [DecidableEq Address] (ran : step host s action = some next) : Transits s.state next.state := by
  cases action with
  | connect | pair => exact beginConnection_transits ran
  | reconnect =>
    obtain ⟨target,_,began⟩ := Option.bind_eq_some_iff.mp ran
    exact beginConnection_transits began
  | disconnect =>
    cases Option.some.inj ran
    exact Transition.transits .disconnectRequested rfl nofun rfl
  | forgetPairing selected =>
    simp only [step,forgetPairing] at ran
    split at ran
    · cases Option.some.inj ran
      exact Transition.transits (.resetRequested selected) rfl nofun rfl
    · cases ran
  | scan =>
    simp only [step,scan] at ran
    split at ran
    · cases Option.some.inj ran
      exact .refl
    · cases ran
  | call index answer =>
    obtain ⟨call,_,stepped⟩ := Option.bind_eq_some_iff.mp ran
    exact callStep_transits stepped
  | manager answer => exact managerStep_transits (s := { s with manager := .starting }) ran
  | attempt answer =>
    obtain ⟨attempt,_,stepped⟩ := Option.bind_eq_some_iff.mp ran
    exact attemptStep_transits stepped
  | poll answer => cases pollStep_effects ran; exact .refl
  | linkDown client =>
    cases Option.some.inj ran
    exact .refl
  | transportDisconnected client => cases transportDisconnected_effects ran; exact .refl

end State

theorem Publication.transits {publication : Publication Address} (moved : Transits publication.state after) :
    ∃ calls next, Path Publication.step anyStep publication calls next ∧ next.state = after := by
  induction moved with
  | refl => exact ⟨[],publication,.nil,rfl⟩
  | @tail _ after _ call ih =>
    obtain ⟨calls,middle,path,reached⟩ := ih
    obtain ⟨transition,done⟩ := call
    rw [← reached] at done
    have stepped : middle.step (.transition transition) = some { middle with state := after } := by simp only [step,done]
    exact ⟨_,_,.snoc path trivial stepped,rfl⟩

namespace State

-- The simulation: what the controller goes through, the calls of `_transition` go through.
theorem transitions_simulate [DecidableEq Address] {allowed : State Address Passkey → Action Address Passkey → Prop}
    {credentials : Address → Option Passkey}
    (path : Path (step host) allowed (started autoDiscover credentials) trace s) :
    ∃ calls publication, Path Publication.step anyStep Publication.created calls publication ∧ publication.state = s.state := by
  induction path with
  | nil =>
    have begun : (Transition.serviceStarted autoDiscover).run .created = .ok (started autoDiscover credentials).state := by
      cases autoDiscover <;> rfl
    exact Publication.transits (.single ⟨_,begun⟩)
  | snoc _ _ ran ih =>
    obtain ⟨calls,publication,path,reached⟩ := ih
    obtain ⟨more,next,rest,now⟩ := Publication.transits (reached ▸ step_transits ran)
    exact ⟨_,next,path.append rest,now⟩

-- So the fields of the controller fit together in all its runs.
theorem related_reached [DecidableEq Address] {allowed : State Address Passkey → Action Address Passkey → Prop}
    {credentials : Address → Option Passkey}
    (path : Path (step host) allowed (started autoDiscover credentials) trace s) : s.state.Related := by
  obtain ⟨_,_,calls,reached⟩ := transitions_simulate path
  exact reached ▸ (Publication.sound_reached calls).related

end State

end Thermometer.Controller
