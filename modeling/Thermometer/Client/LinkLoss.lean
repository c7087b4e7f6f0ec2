import Thermometer.Client.ConnectedSoundness

-- LINK_LOST events. The transport callback posts the client that lost its link; the poller
-- posts no client at all, and the manager compares what was posted with its own client.
namespace Thermometer.Controller

variable {Address Passkey : Type}
  {host : Host Address} {s next : State Address Passkey}

def LifecycleEvent.Attested (event : LifecycleEvent Address) : Prop :=
  event.kind = .linkLost → event.value = .none ∨
    ∃ client, event.value = .client client ∧ event.observed = some client

namespace State

def Queues (s next : State Address Passkey) : Prop :=
  ∀ event ∈ next.managerEvents, event ∈ s.managerEvents ∨ event.Attested

theorem Queues.same (kept : next.managerEvents = s.managerEvents) : s.Queues next :=
  fun _ present => .inl (kept ▸ present)

theorem Queues.posted {more : LifecycleEvent Address} (appended : next.managerEvents = s.managerEvents ++ [more])
    (attested : more.Attested) : s.Queues next := by
  intro event present
  rw [appended] at present
  rcases List.mem_append.mp present with old | new
  · exact .inl old
  · cases List.mem_singleton.mp new
    exact .inr attested

theorem Queues.intent (generation : Nat)
    (appended : next.managerEvents = s.managerEvents ++ [⟨.intentChanged,generation,.none,none⟩]) : s.Queues next :=
  .posted appended nofun

@[simp] theorem handleFailure_events [DecidableEq Address] (attempt : Option (Attempt Address Passkey)) (error : ConnectionError) :
    (s.handleFailure attempt error).managerEvents = s.managerEvents := by
  rcases handleFailure_cases attempt error with ⟨_,same⟩ | ⟨_,_,same⟩ | ⟨_,_,same⟩ <;> rw [same] <;> rfl

@[simp] theorem launchAttempt_events [DecidableEq Address] (target : Address) :
    (s.launchAttempt target).managerEvents = s.managerEvents := by
  unfold launchAttempt
  split <;> rfl

@[simp] theorem requireCredential_events [DecidableEq Address] (target : Address) :
    (s.requireCredential host target).managerEvents = s.managerEvents := by
  unfold requireCredential
  split
  · simp [countAttempt]
  · split
    · rfl
    · split <;> simp [countAttempt,wait,transition]

@[simp] theorem selectDiscovered_events [DecidableEq Address] (devices : List Address) :
    (s.selectDiscovered host devices).managerEvents = s.managerEvents := by
  unfold selectDiscovered
  split
  · rfl
  · split <;> simp [discover,wait,transition]
  · rfl

@[simp] theorem runManager_events [DecidableEq Address] : (s.runManager host).managerEvents = s.managerEvents := by
  unfold runManager
  split
  · dsimp only
    split <;> rfl
  · split
    · rfl
    · split
      · simp
      · dsimp only
        split
        · simp [countAttempt,transition]
        · rfl

@[simp] theorem connectionLost_events [DecidableEq Address] : s.connectionLost.1.managerEvents = s.managerEvents := by
  unfold connectionLost
  split <;> rfl

@[simp] theorem afterWait_events [DecidableEq Address] (ready : Bool) : (s.afterWait host ready).managerEvents = s.managerEvents := by
  unfold afterWait lose
  split
  · split <;> simp
  · simp

@[simp] theorem handleEvent_events [DecidableEq Address] (event : LifecycleEvent Address) :
    (s.handleEvent event).1.managerEvents = s.managerEvents := by
  unfold handleEvent
  split
  · split <;> rfl
  · split
    · simp
    · rfl
  · rfl

@[simp] theorem commit_events [DecidableEq Address] (attempt : Attempt Address Passkey) (bootId : BootId) (saved : Bool) :
    (s.commit host attempt bootId saved).managerEvents = s.managerEvents := by
  rcases commit_cases attempt bootId saved with ⟨key,passkey,_,_,same⟩ | same <;> rw [same]
  · rfl
  · simp

@[simp] theorem failureHandled_events [DecidableEq Address] (kind : FailureKind) :
    (s.failureHandled host kind).managerEvents = s.managerEvents := by
  unfold failureHandled
  split
  · dsimp only
    split <;> simp [transition]
  · rfl
  · rfl

@[simp] theorem rediscovered_events [DecidableEq Address] (target : Address) (generation : Nat) (devices : List Address) :
    (s.rediscovered host target generation devices).managerEvents = s.managerEvents := by
  unfold rediscovered
  split
  · simp
  · rfl

@[simp] theorem attemptReturned_events [DecidableEq Address] (attempt : Attempt Address Passkey) (outcome : Outcome) (saved : Bool) :
    (s.attemptReturned host attempt outcome saved).managerEvents = s.managerEvents := by
  unfold attemptReturned
  dsimp only
  split
  · simp
  · simp
  · simp
  · split <;> simp

theorem closeClient_events {holder : LockHolder} {stage : Closing} {rest : Option Closing}
    (ran : s.closeClient holder stage = some (next,rest)) : next.managerEvents = s.managerEvents := by
  rcases closeClient_cases ran with ⟨_,rfl,_⟩ | ⟨client,_,_,_,_,rfl⟩ <;> rfl

theorem managerStep_queues [DecidableEq Address] {answer : Answer Address} (manager : Manager Address Passkey)
    (ran : s.managerStep host manager answer = some next) : s.Queues next := by
  unfold managerStep at ran
  split at ran
  · cases Option.some.inj ran
    exact .same (by simp)
  · split at ran
    · cases ran
    · rename_i event rest queued
      cases Option.some.inj ran
      intro event present
      refine .inl (queued ▸ List.mem_cons_of_mem _ ?_)
      unfold lose at present
      split at present <;> simpa using present
  · cases Option.some.inj ran
    exact .same (by simp)
  · cases Option.some.inj ran
    exact .same rfl
  -- Behind a lost connection the manager notifies itself.
  · obtain ⟨⟨closed,rest⟩,closing,rfl⟩ := Option.map_eq_some_iff.mp ran
    have kept := closeClient_events closing
    cases rest with
    | some => exact .same kept
    | none =>
      refine .intent closed.targetGeneration ?_
      simp [notifyConnectionManager,post,kept]
  · split at ran <;> cases Option.some.inj ran <;> exact .same (by simp)
  · cases Option.some.inj ran
    exact .same (by simp)
  · cases Option.some.inj ran
    exact .same (by simp)
  · cases Option.some.inj ran
    exact .same (by simp)
  · split at ran
    · split at ran
      · cases Option.some.inj ran
        exact .same (by simp)
      · cases ran
    · cases ran
  · cases Option.some.inj ran
    exact .same (by simp)
  · cases Option.some.inj ran
    exact .same rfl
  · cases Option.some.inj ran
    exact .same (by simp)
  · obtain ⟨⟨closed,rest⟩,closing,rfl⟩ := Option.map_eq_some_iff.mp ran
    have kept := closeClient_events closing
    cases rest with
    | some => exact .same kept
    | none => exact .same (by simp [kept])
  · cases Option.some.inj ran
    exact .same rfl
  · cases ran

theorem beginConnection_queues [DecidableEq Address] {selected : Address} {passkey : Option Passkey}
    (ran : s.beginConnection host selected passkey kind = some next) : s.Queues next := by
  cases beginConnection_effects ran with
  | already => exact .same rfl
  | refused => exact .same rfl
  | switches => exact .same rfl
  | selects credential => exact .intent _ rfl

theorem resetStep_queues [DecidableEq Address] {index : Nat} {selected : Address} {operation : OperationId} {stage : Reset}
    {answer : Answer Address} (ran : s.resetStep host index selected operation stage answer = some next) :
    s.Queues next := by
  unfold resetStep at ran
  dsimp only at ran
  split at ran
  · split at ran
    · split at ran <;> cases Option.some.inj ran <;> exact .same rfl
    · cases Option.some.inj ran
      exact .same rfl
  · cases Option.some.inj ran
    exact .same rfl
  · cases Option.some.inj ran
    exact .same rfl
  · obtain ⟨⟨closed,rest⟩,closing,rfl⟩ := Option.map_eq_some_iff.mp ran
    have kept := closeClient_events closing
    cases rest <;> exact .same kept
  · split at ran
    · split at ran <;> cases Option.some.inj ran <;> exact .same rfl
    · cases Option.some.inj ran
      exact .same rfl
  · cases Option.some.inj ran
    exact .same rfl
  · obtain ⟨⟨closed,rest⟩,closing,rfl⟩ := Option.map_eq_some_iff.mp ran
    have kept := closeClient_events closing
    cases rest <;> exact .same kept
  · cases Option.some.inj ran
    exact .same rfl
  · cases ran

theorem disconnectStep_queues {index : Nat} {stage : DisconnectStage}
    (ran : s.disconnectStep index stage = some next) : s.Queues next := by
  cases stage with
  | history =>
    cases Option.some.inj ran
    obtain ⟨⟨attempt,same,_⟩,_⟩ := s.cancelAttempt_requests
    rw [same]
    exact .same rfl
  | attempt number =>
    simp only [disconnectStep] at ran
    split at ran
    · cases Option.some.inj ran
      exact .same rfl
    · cases ran
  | client stage =>
    obtain ⟨⟨closed,rest⟩,closing,rfl⟩ := Option.map_eq_some_iff.mp ran
    have kept := closeClient_events closing
    cases rest <;> exact .same kept

theorem callStep_queues [DecidableEq Address] {index : Nat} {call : Call Address Passkey} {answer : Answer Address}
    (ran : s.callStep host index call answer = some next) : s.Queues next := by
  unfold callStep at ran
  split at ran
  · cases Option.some.inj ran
    exact .same rfl
  · obtain ⟨⟨closed,rest⟩,closing,rfl⟩ := Option.map_eq_some_iff.mp ran
    have kept := closeClient_events closing
    cases rest with
    | some => exact .same kept
    | none =>
      refine .intent (closed.targetGeneration + 1) ?_
      rw [← kept]
      rfl
  · exact disconnectStep_queues ran
  · cases Option.some.inj ran
    exact .same rfl
  · exact resetStep_queues ran
  · cases Option.some.inj ran
    unfold scanned
    split
    · refine .posted rfl ?_
      exact nofun
    · exact .same rfl
  · cases Option.some.inj ran
    exact .same rfl
  · cases ran

theorem pollStep_queues {poll : Poll} {answer : Answer Address} (ran : s.pollStep poll answer = some next) :
    s.Queues next := by
  unfold pollStep at ran
  split at ran
  · split at ran
    · cases Option.some.inj ran
      exact .same rfl
    · cases ran
  · split at ran
    · cases Option.some.inj ran
      exact .same rfl
    · split at ran
      · cases Option.some.inj ran
        exact .same rfl
      · split at ran <;> cases Option.some.inj ran <;> exact .same rfl
  · cases Option.some.inj ran
    exact .same rfl
  · cases Option.some.inj ran
    exact .same rfl
  -- The poller posts a loss without the client on which it was seen.
  · cases Option.some.inj ran
    exact .posted rfl fun _ => .inl rfl
  · cases ran

theorem attemptEffect_events {attempt : Attempt Address Passkey} (effect : AttemptEffect s attempt next) :
    next.managerEvents = s.managerEvents := by
  cases effect <;> rfl

theorem step_queues [DecidableEq Address] (ran : step host s action = some next) : s.Queues next := by
  cases action with
  | connect => exact beginConnection_queues ran
  | pair => exact beginConnection_queues ran
  | reconnect =>
    obtain ⟨target,_,began⟩ := Option.bind_eq_some_iff.mp ran
    exact beginConnection_queues began
  | disconnect =>
    cases Option.some.inj ran
    exact .intent _ rfl
  | forgetPairing selected =>
    simp only [step,forgetPairing] at ran
    split at ran
    · cases Option.some.inj ran
      exact .intent _ rfl
    · cases ran
  | scan =>
    simp only [step,scan] at ran
    split at ran
    · cases Option.some.inj ran
      exact .same rfl
    · cases ran
  | call index answer =>
    obtain ⟨call,_,stepped⟩ := Option.bind_eq_some_iff.mp ran
    exact callStep_queues stepped
  | manager answer =>
    have stepped : { s with manager := .starting }.managerStep host s.manager answer = some next := ran
    have queued := managerStep_queues s.manager stepped
    exact fun event present => queued event present
  | attempt answer =>
    obtain ⟨attempt,_,stepped⟩ := Option.bind_eq_some_iff.mp ran
    exact .same (attemptEffect_events (attemptStep_effects stepped))
  | poll => exact pollStep_queues ran
  | linkDown =>
    cases Option.some.inj ran
    exact .same rfl
  | transportDisconnected client =>
    simp only [step,transportDisconnected] at ran
    split at ran
    · cases ran
    · split at ran
      · cases ran
      · cases Option.some.inj ran
        exact .posted rfl fun _ => .inr ⟨client,rfl,rfl⟩

theorem attested_reached [DecidableEq Address] {credentials : Address → Option Passkey}
    (path : Execution.Path (State.step host) Execution.anyStep (started autoDiscover credentials) trace s) :
    ∀ event ∈ s.managerEvents, event.Attested := by
  refine path.invariant (fun s => ∀ event ∈ s.managerEvents, event.Attested) ?_ ?_
  · intro event present
    cases List.mem_singleton.mp present
    exact nofun
  · intro s action next attested _ ran event present
    exact (step_queues ran event present).elim (attested event) id

def LostOn (s : State Address Passkey) (event : LifecycleEvent Address) : Prop :=
  event.generation = s.targetGeneration ∧ s.client.isSome ∧ event.observed = s.client

def unlinked (s : State Address Passkey) : Bool :=
  !s.state.connected && (s.state.phase = .reconnecting || s.state.phase = .disconnected)

def woken (s : State Address Passkey) (rest : List (LifecycleEvent Address)) : State Address Passkey :=
  { s with manager := .starting, managerEvents := rest }

def Attributes (s : State Address Passkey) (event : LifecycleEvent Address) (unaffected next : State Address Passkey) :
    Prop :=
  (next ≠ unaffected ↔ s.LostOn event) ∧ (s.LostOn event → next.state.phase = .reconnecting)

-- A loss that was seen on the current client names it, while the connection is wanted and
-- not yet counted as lost; without a client no loss without one comes up, unless the
-- connection counts as lost already.
def attributable [DecidableEq Address] (s : State Address Passkey) (event : LifecycleEvent Address) : Bool :=
  event.generation ≠ s.targetGeneration ||
    match s.client with
    | some client => event.observed ≠ some client ||
      event.value = .client client && s.state.desiredConnected && !s.unlinked
    | none => event.value ≠ .none || s.unlinked

theorem connectionLost_unlinked :
    s.unlinked ∧ s.connectionLost = (s,false) ∨ s.unlinked = false ∧ s.connectionLost.2 ∧
      s.connectionLost.1.state.phase = if s.state.desiredConnected then .reconnecting else .disconnected := by
  unfold connectionLost unlinked
  split
  · rename_i lost
    exact .inl ⟨by simpa using lost,rfl⟩
  · rename_i linked
    refine .inr ⟨?_,rfl,rfl⟩
    rw [Bool.eq_false_iff]
    exact fun lost => linked (by simpa using lost)

theorem launchAttempt_stays (target : Address) :
    ∀ stage ready, (s.launchAttempt target).manager ≠ .losing stage ready := by
  unfold launchAttempt
  split <;> exact nofun

theorem handleFailure_stays (attempt : Option (Attempt Address Passkey)) (error : ConnectionError) :
    ∀ stage ready, (s.handleFailure attempt error).manager ≠ .losing stage ready := by
  rcases handleFailure_cases attempt error with ⟨_,same⟩ | ⟨_,_,same⟩ | ⟨_,_,same⟩ <;> rw [same] <;> exact nofun

theorem runManager_stays : ∀ stage ready, (s.runManager host).manager ≠ .losing stage ready := by
  have required : ∀ (s : State Address Passkey) target stage ready,
      (s.requireCredential host target).manager ≠ .losing stage ready := by
    intro s target
    unfold requireCredential
    split
    · exact launchAttempt_stays target
    · split
      · exact nofun
      · split
        · exact handleFailure_stays none .other
        · exact nofun
        · exact launchAttempt_stays target
  have selected : ∀ (s : State Address Passkey) devices stage ready,
      (s.selectDiscovered host devices).manager ≠ .losing stage ready := by
    intro s devices
    unfold selectDiscovered
    split
    · exact nofun
    · split
      · exact handleFailure_stays none .other
      · exact nofun
      · exact launchAttempt_stays _
    · exact nofun
  unfold runManager
  split
  · exact nofun
  · split
    · exact nofun
    · split
      · exact required s _
      · dsimp only
        split
        · exact selected _ _
        · exact nofun

-- Behind its wait the manager may find the link lost by itself, but then it does not look
-- at the client again.
theorem afterWait_stays (ready : Bool) : (s.afterWait host ready).manager ≠ .losing .history ready := by
  unfold afterWait lose
  split
  · rename_i checked
    split
    · rw [checked.1]
      exact nofun
    · exact runManager_stays _ _
  · exact runManager_stays _ _

theorem handleEvent_loss {event : LifecycleEvent Address} (kind : event.kind = .linkLost) :
    s.handleEvent event =
      if event.generation = s.targetGeneration ∧ event.value.isClient s.client then s.connectionLost else (s,false) := by
  obtain ⟨_,generation,value,observed⟩ := event
  cases kind
  rfl

theorem consume_loss [DecidableEq Address] {event : LifecycleEvent Address} {rest : List (LifecycleEvent Address)}
    (waiting : s.manager = .waiting ready timed) (queued : s.managerEvents = event :: rest)
    (kind : event.kind = .linkLost) (ran : step host s (.manager .event) = some next) :
    next = if event.generation = s.targetGeneration ∧ event.value.isClient s.client ∧ s.unlinked = false then
        { (s.woken rest).connectionLost.1 with manager := .losing .history ready }
      else (s.woken rest).afterWait host ready := by
  have taken : next = lose ((s.woken rest).handleEvent event) ready
      (((s.woken rest).handleEvent event).1.afterWait host ready) := by
    simp only [step,waiting,managerStep,queued,Option.some.injEq] at ran
    exact ran.symm
  rw [taken,handleEvent_loss kind]
  by_cases mine : event.generation = s.targetGeneration ∧ event.value.isClient s.client
  · have same : event.generation = (s.woken rest).targetGeneration ∧ event.value.isClient (s.woken rest).client := mine
    rw [if_pos same]
    rcases (s.woken rest).connectionLost_unlinked with ⟨lost,kept⟩ | ⟨linked,lost,_⟩
    · have lost : s.unlinked = true := lost
      simp [lost,kept,lose]
    · have linked : s.unlinked = false := linked
      simp [linked,mine,lost,lose]
  · have other : ¬(event.generation = (s.woken rest).targetGeneration ∧ event.value.isClient (s.woken rest).client) :=
      mine
    rw [if_neg other,if_neg fun all => mine ⟨all.1,all.2.1⟩]
    rfl

-- Every loss that is taken out of the queue is attributed as it should be exactly under
-- the condition.
theorem link_loss_attribution [DecidableEq Address] {credentials : Address → Option Passkey}
    {event : LifecycleEvent Address} {rest : List (LifecycleEvent Address)}
    (path : Execution.Path (State.step host) Execution.anyStep (started autoDiscover credentials) trace s)
    (waiting : s.manager = .waiting ready timed) (queued : s.managerEvents = event :: rest)
    (kind : event.kind = .linkLost) (ran : step host s (.manager .event) = some next) :
    s.Attributes event ((s.woken rest).afterWait host ready) next ↔ s.attributable event := by
  have attested := attested_reached path event (queued ▸ List.mem_cons_self) kind
  have consumed := consume_loss waiting queued kind ran
  -- The event makes a difference exactly where the code takes it for a loss.
  have differs : next ≠ (s.woken rest).afterWait host ready ↔
      event.generation = s.targetGeneration ∧ event.value.isClient s.client ∧ s.unlinked = false := by
    rw [consumed]
    split
    · rename_i taken
      refine ⟨fun _ => taken,fun _ same => ?_⟩
      exact afterWait_stays ready (congrArg State.manager same).symm
    · rename_i ignored
      exact ⟨fun different => absurd rfl different,fun taken => absurd taken ignored⟩
  have phase : event.generation = s.targetGeneration ∧ event.value.isClient s.client ∧ s.unlinked = false →
      (next.state.phase = .reconnecting ↔ s.state.desiredConnected) := by
    intro taken
    rw [consumed,if_pos taken]
    rcases (s.woken rest).connectionLost_unlinked with ⟨lost,_⟩ | ⟨_,_,reached⟩
    · exact absurd (taken.2.2.symm.trans lost) nofun
    · have wished : (s.woken rest).state.desiredConnected = s.state.desiredConnected := rfl
      change (s.woken rest).connectionLost.1.state.phase = .reconnecting ↔ s.state.desiredConnected = true
      rw [reached,wished]
      cases s.state.desiredConnected <;> simp
  have attributes : s.Attributes event ((s.woken rest).afterWait host ready) next ↔
      ((event.generation = s.targetGeneration ∧ event.value.isClient s.client ∧ s.unlinked = false ↔
        s.LostOn event) ∧ (s.LostOn event → s.state.desiredConnected)) := by
    rw [Attributes,differs]
    constructor
    · exact fun ⟨exact,reconnects⟩ => ⟨exact,fun lost => (phase (exact.mpr lost)).mp (reconnects lost)⟩
    · exact fun ⟨exact,wished⟩ => ⟨exact,fun lost => (phase (exact.mpr lost)).mpr (wished lost)⟩
  rw [attributes]
  simp only [LostOn,attributable]
  by_cases current : event.generation = s.targetGeneration
  · rcases attested with unnamed | ⟨client,named,seen⟩
    · cases held : s.client with
      | none => simp [current,unnamed,EventValue.isClient]
      | some mine =>
        by_cases seen : event.observed = some mine <;> simp [current,unnamed,seen,EventValue.isClient]
    · cases held : s.client with
      | none => simp [current,named,EventValue.isClient]
      | some mine =>
        by_cases same : client = mine
        · subst same
          simp [current,named,seen,EventValue.isClient,and_comm]
        · simp [current,named,seen,EventValue.isClient,same,Ne.symm same]
  · simp [current]

def connectedRun : List (Action Nat Nat) :=
  firstAttempt ++ [.manager (.file true),.manager .done,.manager .done,.manager .event]

def losing (check : State Nat Nat → LifecycleEvent Nat → State Nat Nat → Bool) (s : State Nat Nat) : Bool :=
  match s.manager,s.managerEvents,step .plain s (.manager .event) with
  | .waiting _ _,event :: _,some next => event.kind = .linkLost && check s event next
  | _,_,_ => false

theorem losing_parts {check : State Nat Nat → LifecycleEvent Nat → State Nat Nat → Bool} {s : State Nat Nat}
    (holds : losing check s = true) : ∃ ready timed event rest next, s.manager = .waiting ready timed ∧
      s.managerEvents = event :: rest ∧ event.kind = .linkLost ∧
        step .plain s (.manager .event) = some next ∧ check s event next = true := by
  unfold losing at holds
  split at holds
  · rename_i ready timed event rest next waiting queued ran
    simp only [Bool.and_eq_true,decide_eq_true_eq] at holds
    exact ⟨ready,timed,event,rest,next,waiting,queued,holds.1,ran,holds.2⟩
  · cases holds

-- The transport reports the loss of the connected client.
theorem link_loss_attribution_transport :
    ∃ (s next : State Nat Nat) (event : LifecycleEvent Nat) (rest : List (LifecycleEvent Nat)) (ready : Bool),
      s.LostOn event ∧ s.Attributes event ((s.woken rest).afterWait .plain ready) next := by
  have passed : (Execution.run (step .plain) (started false fun _ => none)
      (connectedRun ++ [.linkDown 0,.transportDisconnected 0])).any (losing fun s event _ =>
        s.attributable event && (event.generation = s.targetGeneration && s.client.isSome &&
          decide (event.observed = s.client))) = true := by decide +kernel
  obtain ⟨trace,s,path,lost⟩ := Execution.run_checked passed
  obtain ⟨ready,timed,event,rest,next,waiting,queued,kind,ran,checked⟩ := losing_parts lost
  simp only [Bool.and_eq_true,decide_eq_true_eq] at checked
  exact ⟨s,next,event,rest,ready,⟨checked.2.1.1,checked.2.1.2,checked.2.2⟩,
    (link_loss_attribution path waiting queued kind ran).mpr checked.1⟩

-- A scheduled GET_CURRENT fails on the connected client: its event names no client, so the
-- controller takes no notice of it.
theorem failed_poll_ignored :
    ∃ trace, ∃ (s next : State Nat Nat) (event : LifecycleEvent Nat) (rest : List (LifecycleEvent Nat))
      (ready timed : Bool),
      Execution.Path (step .plain) Execution.anyStep (started false fun _ => none) trace s ∧
        s.manager = .waiting ready timed ∧ s.managerEvents = event :: rest ∧ event.kind = .linkLost ∧
        step .plain s (.manager .event) = some next ∧ s.LostOn event ∧ next.state.phase = .connected := by
  have passed : (Execution.run (step .plain) (started false fun _ => none)
      (connectedRun ++ [.poll .timeout,.poll .done,.poll (.failed .other),.poll .done])).any (losing fun s event next =>
        next.state.phase = .connected && (event.generation = s.targetGeneration && s.client.isSome &&
          decide (event.observed = s.client))) = true := by decide +kernel
  obtain ⟨trace,s,path,lost⟩ := Execution.run_checked passed
  obtain ⟨ready,timed,event,rest,next,waiting,queued,kind,ran,checked⟩ := losing_parts lost
  simp only [Bool.and_eq_true,decide_eq_true_eq] at checked
  have lost : s.LostOn event := ⟨checked.2.1.1,checked.2.1.2,checked.2.2⟩
  exact ⟨trace,s,next,event,rest,ready,timed,path,waiting,queued,kind,ran,lost,checked.1⟩

end State

end Thermometer.Controller
