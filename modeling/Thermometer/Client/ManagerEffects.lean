import Thermometer.Client.Controller
import Mathlib.Logic.Relation

-- What a step of the connection manager can do to the part of the state that the
-- results speak about: a chain of effects, behind the outcome of an attempt where
-- the manager took one.
namespace Thermometer.Controller

variable {Address Passkey : Type}
  {host : Host Address} {s next : State Address Passkey}

structure ControllerState.Keeps (before after : ControllerState Address) : Prop where
  target : after.target = before.target
  desired : after.desiredConnected = before.desiredConnected
  entered : after.phase = .connected → before.phase = .connected
  readied : after.ready → before.ready

theorem ControllerState.Keeps.refl {state : ControllerState Address} : state.Keeps state := ⟨rfl,rfl,id,id⟩

def Manager.free : Manager Address Passkey → Bool
  | .attempting | .readingBoot _ _ | .losing (.client .closing) _ | .failing _ .closing => false
  | _ => true

def Manager.holdsLock : Manager Address Passkey → Bool
  | .losing (.client .closing) _ | .failing _ .closing => true
  | _ => false

def Manager.rests : Manager Address Passkey → Bool
  | .rediscovering _ _ => false
  | manager => manager.free

inductive ManagerEffect (host : Host Address) (s : State Address Passkey) : State Address Passkey → Prop where
  | moves (state : ControllerState Address) (events : List (LifecycleEvent Address)) (number : Nat)
      (pending : Option (List Address)) (manager : Manager Address Passkey) :
      s.manager.free → manager.rests → s.state.Keeps state →
      ManagerEffect host s { s with
        state := state, managerEvents := events, connectionAttemptId := number
        pendingDiscovery := pending, manager := manager }
  | closes (client : ClientId) (manager : Manager Address Passkey) :
      s.manager.free → s.lifecycleLock = none → s.client = some client → manager.holdsLock →
      ManagerEffect host s { s.markClosed client with
        client := none, lifecycleLock := some .manager, manager := manager }
  | closed : s.manager.holdsLock → ManagerEffect host s { s with lifecycleLock := none, manager := .starting }
  -- The stored credential of the target stands in for a missing one.
  | recalls (target : Address) (stored : Passkey) :
      s.state.target = some target → s.targetPasskey = none → s.attempt = none → s.manager = .starting →
      s.lookup host target = some (some stored) →
      ManagerEffect host s { s with targetPasskey := some stored, credentialFromRegistry := true }
  | rediscovers (target : Address) :
      s.state.target = some target → s.manager = .starting →
      ManagerEffect host s { s with manager := .rediscovering target s.targetGeneration }
  | refreshes (target refreshed : Address) (state : ControllerState Address) :
      s.manager = .rediscovering target s.targetGeneration → host.lower refreshed = host.lower target →
      state.target = some refreshed → state.desiredConnected = s.state.desiredConnected →
      state.phase ≠ .connected → state.ready = false →
      ManagerEffect host s { s with state := state, manager := .starting }
  | starts (target : Address) :
      s.state.target = some target → s.attempt = none → s.manager = .starting →
      ManagerEffect host s (s.startAttempt target s.targetGeneration)
  | passes : s.state.target = none → s.attempt = none → s.manager = .starting →
      ManagerEffect host s { s with targetGeneration := s.targetGeneration + 1 }
  | discovers (target : Address) (credential : Option Passkey) (phase : ConnectionPhase)
      (credentialState : CredentialState) :
      s.state.target = none → s.attempt = none → s.manager = .starting →
      s.lookup host target = some credential → phase ≠ .connected →
      ManagerEffect host s (s.discover target credential phase credentialState)
  -- A failure that no attempt made: a look-up raised.
  | fails (error : ConnectionError) :
      s.attempt = none → s.manager = .starting → s.targetPasskey = none ∨ s.state.target = none →
      ManagerEffect host s (s.handleFailure none error)

abbrev Effects (host : Host Address) (s next : State Address Passkey) : Prop :=
  Relation.ReflTransGen (ManagerEffect host) s next

def State.Verified (s : State Address Passkey) (attempt : Attempt Address Passkey) (bootId : BootId) : Prop :=
  s.attempt = some attempt ∧ attempt.stage = .finished (.verified bootId) ∨
    s.manager = .readingBoot attempt bootId

def State.taken (s : State Address Passkey) : State Address Passkey :=
  { s with attempt := none, manager := .starting }

inductive Taken (host : Host Address) (s : State Address Passkey) (answer : State.Answer Address) :
    State Address Passkey → Prop where
  | drops (attempt : Attempt Address Passkey) (ending : Ending) :
      s.attempt = some attempt → attempt.stage = .finished (.ended ending) →
      ending = .cancelled ∨ ending = .superseded → Taken host s answer s.taken
  | fails (attempt : Attempt Address Passkey) (error : ConnectionError) :
      s.attempt = some attempt → attempt.stage = .finished (.ended (.failed error)) →
      Taken host s answer (s.taken.handleFailure (some attempt) error)
  | reads (attempt : Attempt Address Passkey) (bootId : BootId) :
      s.attempt = some attempt → attempt.stage = .finished (.verified bootId) →
      Taken host s answer { s with attempt := none, manager := .readingBoot attempt bootId }
  -- The scan of the manager raised.
  | scans (generation : Nat) (error : ConnectionError) :
      s.attempt = none → s.manager = .discovering generation → answer = .failed error → Taken host s answer (s.taken.handleFailure none error)

namespace State

theorem handleFailure_cases (attempt : Option (Attempt Address Passkey)) (error : ConnectionError) :
    (s.state.desiredConnected = false ∧
      s.handleFailure attempt error = { s with manager := .failing .undesired .entering }) ∨
    (s.state.desiredConnected ∧ error = .authentication ∧
      s.handleFailure attempt error = s.rejectCredential attempt) ∨
    (s.state.desiredConnected ∧ error = .other ∧ s.handleFailure attempt error = s.scheduleRetry attempt) := by
  unfold handleFailure
  cases desired : s.state.desiredConnected
  · exact .inl ⟨rfl,rfl⟩
  · cases error with
    | authentication => exact .inr (.inl ⟨rfl,rfl,rfl⟩)
    | other => exact .inr (.inr ⟨rfl,rfl,rfl⟩)

theorem settlePendingConnect_observed (state : OperationState) (report : OperationId → Observation Address Passkey)
    (present : observation ∈ (s.settlePendingConnect state report).observations) :
    observation ∈ s.observations ∨ ∃ operation, s.pendingConnectOperation = some operation ∧
      observation = report operation := by
  rcases List.mem_append.mp present with old | new
  · exact .inl old
  · obtain ⟨operation,pending,same⟩ := Option.map_eq_some_iff.mp (Option.mem_toList.mp new)
    exact .inr ⟨operation,pending,same.symm⟩

theorem handleFailure_observed {attempt : Option (Attempt Address Passkey)}
    (present : observation ∈ (s.handleFailure attempt error).observations) :
    observation ∈ s.observations ∨ observation = .credentialRejected attempt ∨
      ∃ operation, s.pendingConnectOperation = some operation ∧ observation = .operationFailed operation attempt := by
  rcases handleFailure_cases attempt error with ⟨_,same⟩ | ⟨_,_,same⟩ | ⟨_,_,same⟩ <;> rw [same] at present
  · exact .inl present
  · rcases List.mem_append.mp present with settled | rejected
    · exact (settlePendingConnect_observed .failed (.operationFailed · attempt) settled).imp_right .inr
    · exact .inr (.inl (List.mem_singleton.mp rejected))
  · exact (settlePendingConnect_observed .failed (.operationFailed · attempt) present).imp_right .inr

theorem commit_cases [DecidableEq Address] (attempt : Attempt Address Passkey) (bootId : BootId) (saved : Bool) :
    (∃ key passkey, host.registryKey attempt.target = some key ∧ s.targetPasskey = some passkey ∧
      s.commit host attempt bootId saved =
        { s with lastBootId := some bootId }.enterConnected attempt key passkey) ∨
    s.commit host attempt bootId saved =
      { s with lastBootId := some bootId }.handleFailure (some attempt) .other := by
  unfold commit
  dsimp only
  split
  · rename_i key passkey valid known
    cases saved
    · exact .inr rfl
    · exact .inl ⟨key,passkey,valid,known,rfl⟩
  · exact .inr rfl

theorem launchAttempt_effects (running : s.manager = .starting) (idle : s.attempt = none)
    (selected : s.state.target = some target) : Effects host s (s.launchAttempt target) := by
  unfold launchAttempt
  split
  · exact .single (.rediscovers target selected running)
  · exact .single (.starts target selected idle running)

theorem countAttempt_effect (running : s.manager = .starting) : ManagerEffect host s s.countAttempt :=
  .moves s.state s.managerEvents (s.connectionAttemptId + 1) s.pendingDiscovery s.manager
    (by rw [running]; rfl) (by rw [running]; rfl) .refl

theorem transition_effect (running : s.manager = .starting) (change : ControllerState Address → ControllerState Address)
    (keeps : s.state.Keeps (change s.state)) : ManagerEffect host s (s.transition change) :=
  .moves { change s.state with revision := s.state.revision + 1 } s.managerEvents s.connectionAttemptId
    s.pendingDiscovery s.manager (by rw [running]; rfl) (by rw [running]; rfl) ⟨keeps.target,keeps.desired,keeps.entered,keeps.readied⟩

theorem wait_effect (running : s.manager = .starting) : ManagerEffect host s (s.wait ready timed) :=
  .moves s.state s.managerEvents s.connectionAttemptId s.pendingDiscovery (.waiting ready timed)
    (by rw [running]; rfl) rfl .refl

theorem requireCredential_effects (running : s.manager = .starting) (idle : s.attempt = none)
    (selected : s.state.target = some target) : Effects host s (s.requireCredential host target) := by
  unfold requireCredential
  split
  · exact .head (countAttempt_effect running) (launchAttempt_effects running idle selected)
  · rename_i missing
    split
    · exact .single (wait_effect running)
    · split
      · exact .single (.fails .other idle running (.inl missing))
      · exact .head (transition_effect running _ ⟨rfl,rfl,by nofun,by nofun⟩) (.single (wait_effect running))
      · rename_i stored found
        exact .head (.recalls target stored selected missing idle running found)
          (.head (countAttempt_effect running) (launchAttempt_effects running idle selected))

theorem selectDiscovered_effects (running : s.manager = .starting) (idle : s.attempt = none)
    (unselected : s.state.target = none) : Effects host s (s.selectDiscovered host devices) := by
  cases devices with
  | nil => exact .head (transition_effect running _ ⟨rfl,rfl,by nofun,by nofun⟩) (.single (wait_effect running))
  | cons address others =>
    cases others with
    | cons => exact .head (transition_effect running _ ⟨unselected.symm,rfl,by nofun,by nofun⟩) (.single (wait_effect running))
    | nil =>
      unfold selectDiscovered
      dsimp only
      split
      · exact .head (.passes unselected idle running) (.single (.fails .other idle running (.inr unselected)))
      · rename_i found
        exact .head (.discovers address none _ _ unselected idle running found (by nofun))
          (.single (wait_effect running))
      · rename_i stored found
        exact .head (.discovers address (some stored) _ _ unselected idle running found (by nofun))
          (launchAttempt_effects running idle rfl)

theorem runManager_effects (running : s.manager = .starting) (idle : s.attempt = none) :
    Effects host s (s.runManager host) := by
  unfold runManager
  split
  · split
    · exact .single (wait_effect running)
    · exact .head (transition_effect running _ ⟨rfl,rfl,by nofun,by nofun⟩) (.single (wait_effect running))
  · split
    · exact .single (wait_effect running)
    · split
      · rename_i target selected
        exact requireCredential_effects running idle selected
      · rename_i unselected
        have free : s.manager.free := by rw [running]; rfl
        dsimp only
        split
        · refine .head ?_ (selectDiscovered_effects ?_ ?_ ?_)
          · exact .moves _ s.managerEvents _ none s.manager free (by rw [running]; rfl) ⟨rfl,rfl,nofun,nofun⟩
          · exact running
          · exact idle
          · exact unselected
        · exact .single (.moves _ s.managerEvents _ s.pendingDiscovery (.discovering s.targetGeneration) free rfl
            ⟨rfl,rfl,nofun,nofun⟩)

theorem connectionLost_effects (running : s.manager = .starting) : Effects host s s.connectionLost.1 := by
  unfold connectionLost
  split
  · exact .refl
  · have free : s.manager.free := by rw [running]; rfl
    refine .single (.moves _ s.managerEvents s.connectionAttemptId s.pendingDiscovery s.manager free
      (by rw [running]; rfl) ⟨rfl,rfl,?_,nofun⟩)
    cases desired : s.state.desiredConnected <;> simp [desired]

theorem connectionLost_unmoved :
    s.connectionLost.1.manager = s.manager ∧ s.connectionLost.1.attempt = s.attempt := by
  unfold connectionLost
  split <;> exact ⟨rfl,rfl⟩

theorem lose_effects {lost : State Address Passkey × Bool} {otherwise : State Address Passkey}
    (running : lost.1.manager = .starting) (losing : Effects host s lost.1)
    (remaining : Effects host s otherwise) : Effects host s (lose lost ready otherwise) := by
  unfold lose
  split
  · exact losing.tail (.moves _ _ _ _ _ (by rw [running]; rfl) rfl .refl)
  · exact remaining

theorem afterWait_effects (running : s.manager = .starting) (idle : s.attempt = none) :
    Effects host s (s.afterWait host ready) := by
  unfold afterWait
  split
  · exact lose_effects (connectionLost_unmoved.1.trans running) (connectionLost_effects running)
      (runManager_effects running idle)
  · exact runManager_effects running idle

theorem handleEvent_effects (running : s.manager = .starting) (event : LifecycleEvent Address) :
    Effects host s (s.handleEvent event).1 := by
  unfold handleEvent
  split
  · split
    · refine .single ?_
      exact .moves s.state s.managerEvents s.connectionAttemptId _ s.manager (by rw [running]; rfl)
        (by rw [running]; rfl) .refl
    · exact .refl
  · split
    · exact connectionLost_effects running
    · exact .refl
  · exact .refl

theorem handleEvent_unmoved (event : LifecycleEvent Address) :
    (s.handleEvent event).1.manager = s.manager ∧ (s.handleEvent event).1.attempt = s.attempt := by
  unfold handleEvent
  split
  · split <;> exact ⟨rfl,rfl⟩
  · split
    · exact connectionLost_unmoved
    · exact ⟨rfl,rfl⟩
  · exact ⟨rfl,rfl⟩

theorem failureHandled_effects (running : s.manager = .starting) (idle : s.attempt = none) :
    Effects host s (s.failureHandled host kind) := by
  cases kind with
  | undesired =>
    unfold failureHandled
    dsimp only
    split
    · exact runManager_effects running idle
    · exact .head (transition_effect running _ ⟨rfl,rfl,by nofun,by nofun⟩) (runManager_effects running idle)
  | rejected => exact .single (wait_effect running)
  | retrying =>
    exact .single (.moves s.state s.managerEvents s.connectionAttemptId s.pendingDiscovery .reporting
      (by rw [running]; rfl) rfl .refl)

theorem closeClient_cases (ran : s.closeClient holder stage = some (next,rest)) :
    (rest = none ∧ next = { s with lifecycleLock := none } ∧
      (stage = .entering → s.lifecycleLock = none)) ∨
    (∃ client, rest = some .closing ∧ stage = .entering ∧ s.lifecycleLock = none ∧ s.client = some client ∧
      next = { s.markClosed client with client := none, lifecycleLock := some holder }) := by
  cases stage with
  | closing =>
    simp only [closeClient,Option.some.injEq,Prod.mk.injEq] at ran
    exact .inl ⟨ran.2.symm,ran.1.symm,nofun⟩
  | entering =>
    simp only [closeClient] at ran
    split at ran
    · cases ran
    · rename_i unlocked
      have free : s.lifecycleLock = none := by simpa using unlocked
      split at ran <;> simp only [Option.some.injEq,Prod.mk.injEq] at ran
      · exact .inl ⟨ran.2.symm,by rw [← ran.1,← free],fun _ => free⟩
      · rename_i client current
        exact .inr ⟨client,ran.2.symm,rfl,free,current,ran.1.symm⟩

theorem closeClient_state (ran : s.closeClient holder stage = some (next,rest)) : next.state = s.state := by
  rcases closeClient_cases ran with ⟨_,same,_⟩ | ⟨_,_,_,_,_,same⟩
  · rw [same]
  · rw [same]
    rfl

theorem leaveClient_effect {stage : Closing} (entering : stage = .entering → s.manager.free)
    (closing : stage = .closing → s.manager.holdsLock) (unlocked : stage = .entering → s.lifecycleLock = none) :
    ManagerEffect host s { s with lifecycleLock := none, manager := .starting } := by
  cases stage with
  | closing => exact .closed (closing rfl)
  | entering =>
    rw [← unlocked rfl]
    exact .moves s.state s.managerEvents s.connectionAttemptId s.pendingDiscovery .starting (entering rfl) rfl
      .refl

theorem wake_effect (waiting : s.manager.free) : ManagerEffect host s { s with manager := .starting } :=
  .moves s.state s.managerEvents s.connectionAttemptId s.pendingDiscovery .starting waiting rfl .refl

def Coupled (s : State Address Passkey) : Prop := s.attempt ≠ none → s.manager = .attempting

theorem Coupled.idle (coupled : s.Coupled) (elsewhere : s.manager ≠ .attempting) : s.attempt = none :=
  Decidable.byContradiction fun known => elsewhere (coupled known)

theorem rediscovered_effects [DecidableEq Address] (idle : s.attempt = none)
    (waiting : s.manager = .rediscovering target generation) :
    Effects host s ({ s with manager := .starting }.rediscovered host target generation devices) := by
  have free : s.manager.free := by rw [waiting]; rfl
  unfold rediscovered
  split
  · exact .head (wake_effect free) (runManager_effects rfl idle)
  · rename_i current
    have same : generation = s.targetGeneration := by simpa using fun stale => current (.inr stale)
    have known : host.lower ((devices.find? fun device => host.lower device = host.lower target).getD target) =
        host.lower target := by
      cases found : devices.find? fun device => host.lower device = host.lower target with
      | none => rfl
      | some device => simpa using List.find?_some found
    subst same
    refine .tail (.single ?_) (.starts _ ?_ ?_ ?_)
    · exact .refreshes target _ _ waiting known rfl rfl nofun rfl
    · rfl
    · exact idle
    · rfl

theorem closeClient_effects (host : Host Address) {stage : Closing} {rest : Option Closing}
    (entering : stage = .entering → s.manager.free)
    (closing : stage = .closing → s.manager.holdsLock)
    (ran : { s with manager := .starting }.closeClient .manager stage = some (next,rest)) :
    (rest = none ∧ ManagerEffect host s next ∧ next.manager = .starting ∧ next.attempt = s.attempt) ∨
    (rest = some .closing ∧ ∀ manager, manager.holdsLock →
      ManagerEffect host s { next with manager := manager }) := by
  rcases closeClient_cases ran with ⟨done,rfl,unlocked⟩ | ⟨client,more,rfl,unlocked,current,rfl⟩
  · exact .inl ⟨done,leaveClient_effect entering closing unlocked,rfl,rfl⟩
  · exact .inr ⟨more,fun manager holds => .closes client manager (entering rfl) unlocked current holds⟩

theorem attemptReturned_effects [DecidableEq Address] {attempt : Attempt Address Passkey} (ended : s.attempt = some attempt)
    (finished : attempt.stage = .finished outcome)
    (ran : { s with manager := .starting }.attemptReturned host attempt outcome saved = next) :
    (∃ middle, Taken host s answer middle ∧ Effects host middle next) ∨
      ∃ bootId, s.Verified attempt bootId ∧ next = s.taken.commit host attempt bootId saved := by
  subst ran
  unfold attemptReturned
  dsimp only
  split
  · exact .inl ⟨_,.drops attempt .cancelled ended finished (.inl rfl),runManager_effects rfl rfl⟩
  · exact .inl ⟨_,.drops attempt .superseded ended finished (.inr rfl),runManager_effects rfl rfl⟩
  · exact .inl ⟨_,.fails attempt _ ended finished,.refl⟩
  · split
    · exact .inl ⟨_,.reads attempt _ ended finished,.refl⟩
    · exact .inr ⟨_,.inl ⟨ended,finished⟩,rfl⟩

theorem managerStep_effects [DecidableEq Address] (coupled : s.Coupled)
    (ran : { s with manager := .starting }.managerStep host s.manager answer = some next) :
    Effects host s next ∨ (∃ middle, Taken host s answer middle ∧ Effects host middle next) ∨
      ∃ attempt bootId saved, s.Verified attempt bootId ∧ next = s.taken.commit host attempt bootId saved := by
  generalize waiting : s.manager = manager at ran
  unfold managerStep at ran
  split at ran
  · cases Option.some.inj ran
    exact .inl (.head (wake_effect (by rw [waiting]; rfl)) (runManager_effects rfl (coupled.idle (by simp [waiting]))))
  · have idle := coupled.idle (by simp [waiting])
    split at ran
    · cases ran
    · rename_i event rest queued
      cases Option.some.inj ran
      have free : s.manager.free := by rw [waiting]; rfl
      refine .inl (.head (.moves s.state rest s.connectionAttemptId s.pendingDiscovery .starting free rfl .refl) ?_)
      have handled := handleEvent_unmoved (s := { s with manager := .starting, managerEvents := rest }) event
      refine lose_effects handled.1 (handleEvent_effects rfl event) ((handleEvent_effects rfl event).trans ?_)
      exact afterWait_effects handled.1 (handled.2.trans idle)
  · cases Option.some.inj ran
    exact .inl (.head (wake_effect (by rw [waiting]; rfl)) (afterWait_effects rfl (coupled.idle (by simp [waiting]))))
  · cases Option.some.inj ran
    exact .inl (.single (.moves s.state s.managerEvents s.connectionAttemptId s.pendingDiscovery _
      (by rw [waiting]; rfl) rfl .refl))
  -- Its client is closed after a lost link.
  · rename_i stage ready
    obtain ⟨⟨closed,rest⟩,closing,rfl⟩ := Option.map_eq_some_iff.mp ran
    rcases closeClient_effects host (by rintro rfl; rw [waiting]; rfl) (by rintro rfl; rw [waiting]; rfl)
      closing with ⟨rfl,effect,running,unmoved⟩ | ⟨rfl,effect⟩
    · have idle := unmoved.trans (coupled.idle (by simp [waiting]))
      refine .inl (.head effect (.head ?_ (afterWait_effects ?_ ?_)))
      · exact .moves closed.state _ closed.connectionAttemptId closed.pendingDiscovery closed.manager
          (by rw [running]; rfl) (by rw [running]; rfl) .refl
      · exact running
      · exact idle
    · exact .inl (.single (effect _ rfl))
  -- A scan of its own has ended.
  · have idle := coupled.idle (by simp [waiting])
    have free : s.manager.free := by rw [waiting]; rfl
    split at ran <;> cases Option.some.inj ran
    · exact .inl (.head (wake_effect free) (runManager_effects rfl idle))
    · rename_i current
      have unselected : s.state.target = none := by simpa using fun selected => current (.inr selected)
      exact .inl (.head (wake_effect free) (selectDiscovered_effects rfl idle unselected))
  · cases Option.some.inj ran
    have idle := coupled.idle (by simp [waiting])
    have taken : { s with manager := .starting } = s.taken := by rw [taken,← idle]
    rw [taken]
    exact .inr (.inl ⟨_,.scans _ _ idle waiting rfl,.refl⟩)
  · cases Option.some.inj ran
    exact .inl (rediscovered_effects (coupled.idle (by simp [waiting])) waiting)
  · cases Option.some.inj ran
    exact .inl (rediscovered_effects (coupled.idle (by simp [waiting])) waiting)
  -- The attempt has ended.
  · split at ran
    · rename_i attempt known
      split at ran
      · rename_i outcome finished
        have ended : s.attempt = some attempt := known
        refine .inr ((attemptReturned_effects ended finished (Option.some.inj ran)).imp_right ?_)
        exact fun ⟨bootId,verified,committed⟩ => ⟨attempt,bootId,_,verified,committed⟩
      · cases ran
    · cases ran
  · rename_i attempt bootId written
    have idle := coupled.idle (by simp [waiting])
    have taken : { s with manager := .starting } = s.taken := by rw [taken,← idle]
    exact .inr (.inr ⟨attempt,bootId,written,.inr waiting,by rw [← Option.some.inj ran,taken]⟩)
  · cases Option.some.inj ran
    exact .inl (.single (.moves s.state s.managerEvents s.connectionAttemptId s.pendingDiscovery _
      (by rw [waiting]; rfl) rfl .refl))
  · cases Option.some.inj ran
    exact .inl (.head (wake_effect (by rw [waiting]; rfl)) (runManager_effects rfl (coupled.idle (by simp [waiting]))))
  -- Its client is closed after a failure.
  · rename_i kind stage
    obtain ⟨⟨closed,rest⟩,closing,rfl⟩ := Option.map_eq_some_iff.mp ran
    rcases closeClient_effects host (by rintro rfl; rw [waiting]; rfl) (by rintro rfl; rw [waiting]; rfl)
      closing with ⟨rfl,effect,running,unmoved⟩ | ⟨rfl,effect⟩
    · have idle := unmoved.trans (coupled.idle (by simp [waiting]))
      exact .inl (.head effect (failureHandled_effects running idle))
    · exact .inl (.single (effect _ rfl))
  · cases Option.some.inj ran
    exact .inl (.head (wake_effect (by rw [waiting]; rfl)) (.single (wait_effect rfl)))
  · cases ran

end State

end Thermometer.Controller
