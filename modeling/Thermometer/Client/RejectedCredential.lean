import Thermometer.Client.LinkLoss
import Thermometer.Client.RegistrySoundness

-- After the device rejected a credential the manager waits for a caller. The block is a
-- test of the phase in front of the registry look-up, so what moves the phase away from
-- AUTHENTICATION_REQUIRED lifts it, as soon as the registry holds a credential.
namespace Thermometer.Controller

variable {Address Passkey : Type}
  {host : Host Address} {s next : State Address Passkey}

def Observation.started? : Observation Address Passkey → Option (Attempt Address Passkey)
  | .attemptStarted attempt => some attempt
  | _ => none

def Manager.waitsForCaller : Manager Address Passkey → Bool
  | .waiting ready _ | .losing _ ready => !ready
  | .failing .rejected _ | .failing .retrying _ | .reporting => true
  | _ => false

namespace State

def attempts (s : State Address Passkey) : List (Attempt Address Passkey) :=
  s.observations.filterMap Observation.started?

def Unknown (s : State Address Passkey) (host : Host Address) : Prop :=
  ∀ target stored, s.state.target = some target → s.lookup host target ≠ some (some stored)

-- The connection is not wanted, or there is no passkey and none to be recalled: `closed`
-- is what is known about the client while the phase blocks the look-up.
def Held (s : State Address Passkey) (host : Host Address) (closed : Prop) : Prop :=
  s.state.desiredConnected = false ∨
    s.targetPasskey = none ∧ s.state.ready = false ∧ s.state.target.isSome ∧
      (s.Unknown host ∨ s.state.phase = .authenticationRequired ∧ s.state.credentialState = .rejected ∧ closed)

structure Barred (s : State Address Passkey) (host : Host Address) : Prop where
  idle : s.attempt = none
  resting : s.manager.waitsForCaller
  held : s.Held host (s.client = none ∨ s.manager = .failing .rejected .entering)

def exposed (s : State Address Passkey) (host : Host Address) : Bool :=
  s.state.desiredConnected && s.state.phase = .authenticationRequired && s.state.credentialState = .rejected &&
    (s.state.target.bind fun target => (s.lookup host target).join).isSome

def closingEnds (s : State Address Passkey) (index : Nat) (stage : Closing) : Bool :=
  (s.closeClient (.call index) stage).any fun closed => closed.2.isNone

def selects (s : State Address Passkey) (index : Nat) : Bool :=
  match s.calls[index]? with
  | some (.switching _ _ _ (.client stage)) => s.closingEnds index stage
  | _ => false

def disconnects [DecidableEq Address] (s : State Address Passkey) (index : Nat) (answer : Answer Address) : Bool :=
  match s.calls[index]? with
  | some (.disconnecting (.client stage)) | some (.resetting _ _ (.aborting stage)) => s.closingEnds index stage
  | some (.resetting _ _ (.unpairing _)) => answer = .file true
  | _ => false

def losesNothing [DecidableEq Address] (s : State Address Passkey) : Bool :=
  match s.managerEvents with
  | event :: _ => event.kind = .linkLost && event.generation = s.targetGeneration && event.value = .none
  | [] => false

-- Nobody asks for a connection; and while a registry entry is exposed, no loss without a
-- client is taken out of the queue, and no disconnect call or pairing reset comes to its end.
def spares [DecidableEq Address] (s : State Address Passkey) (host : Host Address) : Action Address Passkey → Bool
  | .connect _ _ | .pair _ _ | .reconnect => false
  | .call index answer => !s.selects index && !(s.exposed host && s.disconnects index answer)
  | .manager .event => !(s.exposed host && s.losesNothing)
  | _ => true

theorem exposed_of (wanted : s.state.desiredConnected) (phase : s.state.phase = .authenticationRequired)
    (rejected : s.state.credentialState = .rejected) (hidden : s.exposed host = false) : s.Unknown host := by
  intro target stored selected found
  simp [exposed,wanted,phase,rejected,selected,found] at hidden

theorem attempts_append (observations more : List (Observation Address Passkey))
    (none : ∀ observation ∈ more, observation.started? = none) :
    (observations ++ more).filterMap Observation.started? = observations.filterMap Observation.started? := by
  rw [List.filterMap_append,List.filterMap_eq_nil_iff.mpr none,List.append_nil]

theorem handleFailure_attempts (attempt : Option (Attempt Address Passkey)) (error : ConnectionError) :
    (s.handleFailure attempt error).attempts = s.attempts := by
  have settled : (s.failPendingConnect attempt).attempts = s.attempts := by
    refine attempts_append _ _ fun observation present => ?_
    obtain ⟨operation,_,rfl⟩ := Option.map_eq_some_iff.mp (Option.mem_toList.mp present)
    rfl
  rcases handleFailure_cases attempt error with ⟨_,same⟩ | ⟨_,_,same⟩ | ⟨_,_,same⟩ <;> rw [same]
  · rfl
  · refine (attempts_append _ [.credentialRejected attempt] ?_).trans settled
    simp [Observation.started?]
  · exact settled

theorem Held.widen {closed wider : Prop} (held : s.Held host closed) (wide : closed → wider) : s.Held host wider :=
  held.imp_right fun ⟨passkey,ready,target,blocked⟩ =>
    ⟨passkey,ready,target,blocked.imp_right fun ⟨phase,rejected,shut⟩ => ⟨phase,rejected,wide shut⟩⟩

theorem runManager_barred (idle : s.attempt = none) (held : s.Held host (s.client = none)) :
    (s.runManager host).Barred host ∧ (s.runManager host).attempts = s.attempts := by
  unfold runManager
  rcases held with unwanted | ⟨passkey,ready,target,blocked⟩
  · rw [if_pos (by simp [unwanted])]
    dsimp only
    split
    · exact ⟨⟨idle,rfl,.inl unwanted⟩,rfl⟩
    · exact ⟨⟨idle,rfl,.inl unwanted⟩,rfl⟩
  · cases wanted : s.state.desiredConnected with
    | false =>
      rw [if_pos (by simp)]
      dsimp only
      split
      · exact ⟨⟨idle,rfl,.inl wanted⟩,rfl⟩
      · exact ⟨⟨idle,rfl,.inl wanted⟩,rfl⟩
    | true =>
      obtain ⟨known,selected⟩ := Option.isSome_iff_exists.mp target
      rw [if_neg (by simp),if_neg (by simp [ready]),selected]
      dsimp only
      unfold requireCredential
      rw [passkey]
      dsimp only
      split
      · rename_i rejected
        refine ⟨⟨idle,rfl,.inr ⟨passkey,ready,target,?_⟩⟩,rfl⟩
        exact blocked.imp_right fun ⟨phase,state,closed⟩ => ⟨phase,state,.inl closed⟩
      · rename_i moved
        have unknown : s.Unknown host := by
          rcases blocked with unknown | ⟨phase,rejected,_⟩
          · exact unknown
          · exact absurd ⟨phase,rejected⟩ moved
        split
        · refine ⟨?_,handleFailure_attempts none .other⟩
          rw [show s.handleFailure none .other = s.scheduleRetry none by simp [handleFailure,wanted]]
          refine ⟨idle,rfl,.inr ⟨passkey,rfl,target,.inl ?_⟩⟩
          exact unknown
        · exact ⟨⟨idle,rfl,.inr ⟨passkey,rfl,target,.inl unknown⟩⟩,rfl⟩
        · rename_i stored found
          exact absurd found (unknown known stored selected)

theorem connectionLost_held (held : s.Held host (s.client = none)) (hidden : s.exposed host = false) :
    s.connectionLost.1.Held host False ∧ s.connectionLost.1.attempt = s.attempt ∧
      s.connectionLost.1.attempts = s.attempts := by
  have lifted : s.state.desiredConnected = false ∨
      s.targetPasskey = none ∧ s.state.ready = false ∧ s.state.target.isSome ∧ s.Unknown host := by
    rcases held with unwanted | ⟨passkey,ready,target,unknown | ⟨phase,rejected,_⟩⟩
    · exact .inl unwanted
    · exact .inr ⟨passkey,ready,target,unknown⟩
    · cases wanted : s.state.desiredConnected with
      | false => exact .inl rfl
      | true => exact .inr ⟨passkey,ready,target,exposed_of wanted phase rejected hidden⟩
  unfold connectionLost
  split
  · exact ⟨lifted.imp_right fun ⟨passkey,ready,target,unknown⟩ => ⟨passkey,ready,target,.inl unknown⟩,rfl,rfl⟩
  · refine ⟨?_,rfl,rfl⟩
    rcases lifted with unwanted | ⟨passkey,ready,target,unknown⟩
    · exact .inl unwanted
    · exact .inr ⟨passkey,rfl,target,.inl unknown⟩

theorem afterWait_barred (idle : s.attempt = none) (held : s.Held host (s.client = none)) :
    (s.afterWait host false).Barred host ∧ (s.afterWait host false).attempts = s.attempts := by
  unfold afterWait
  rw [if_neg (by simp)]
  exact runManager_barred idle held

theorem lose_barred {lost : State Address Passkey × Bool} (idle : lost.1.attempt = none)
    (held : lost.1.Held host (lost.1.client = none)) :
    (lose lost false (lost.1.afterWait host false)).Barred host ∧
      (lose lost false (lost.1.afterWait host false)).attempts = lost.1.attempts := by
  unfold lose
  split
  · exact ⟨⟨idle,rfl,held.widen .inl⟩,rfl⟩
  · exact afterWait_barred idle held

theorem handleEvent_held {event : LifecycleEvent Address} (held : s.Held host (s.client = none))
    (allowed : event.kind = .linkLost → event.generation = s.targetGeneration → event.value.isClient s.client →
      s.exposed host = false) :
    (s.handleEvent event).1.Held host ((s.handleEvent event).1.client = none) ∧
      (s.handleEvent event).1.attempt = s.attempt ∧ (s.handleEvent event).1.attempts = s.attempts := by
  unfold handleEvent
  split
  · split
    · rename_i discovered
      rcases held with unwanted | ⟨_,_,target,_⟩
      · exact ⟨.inl unwanted,rfl,rfl⟩
      · simp [discovered.2] at target
    · exact ⟨held,rfl,rfl⟩
  · rename_i kind
    split
    · rename_i mine
      obtain ⟨lost,attempt,attempts⟩ := connectionLost_held held (allowed kind mine.1 mine.2)
      exact ⟨lost.widen False.elim,attempt,attempts⟩
    · exact ⟨held,rfl,rfl⟩
  · exact ⟨held,rfl,rfl⟩

theorem spares_event [DecidableEq Address] {event : LifecycleEvent Address} {rest : List (LifecycleEvent Address)}
    (held : s.Held host (s.client = none)) (queued : s.managerEvents = event :: rest)
    (allowed : s.spares host (.manager .event)) (kind : event.kind = .linkLost)
    (current : event.generation = s.targetGeneration) (mine : event.value.isClient s.client) :
    s.exposed host = false := by
  rw [Bool.eq_false_iff]
  intro exposed
  have loses : s.losesNothing = false := by simpa [spares,exposed] using allowed
  simp only [State.exposed,Bool.and_eq_true,decide_eq_true_eq] at exposed
  obtain ⟨⟨⟨wanted,_⟩,_⟩,stored⟩ := exposed
  rcases held with unwanted | ⟨_,_,target,unknown | ⟨_,_,closed⟩⟩
  · exact nomatch unwanted.symm.trans wanted
  · obtain ⟨known,selected⟩ := Option.isSome_iff_exists.mp target
    obtain ⟨passkey,found⟩ := Option.isSome_iff_exists.mp stored
    rw [selected,Option.bind_some,Option.join_eq_some_iff] at found
    exact unknown known passkey selected found
  · have unnamed : event.value = .none := by
      cases value : event.value <;> simp_all [EventValue.isClient]
    simp [losesNothing,queued,kind,current,unnamed] at loses

theorem closeClient_closed {holder : LockHolder} {stage : Closing} {rest : Option Closing}
    (closed : stage = .entering ∨ s.client = none) (ran : s.closeClient holder stage = some (next,rest)) :
    next.client = none := by
  cases stage with
  | closing =>
    simp only [closeClient,Option.some.injEq,Prod.mk.injEq] at ran
    rw [← ran.1]
    exact closed.resolve_left (by intro same; cases same)
  | entering =>
    simp only [closeClient] at ran
    split at ran
    · cases ran
    · split at ran <;> cases Option.some.inj ran
      · assumption
      · rfl

theorem closeClient_held {holder : LockHolder} {stage : Closing} {rest : Option Closing} {wide : Prop}
    (closed : wide → stage = .entering ∨ s.client = none) (held : s.Held host wide)
    (ran : s.closeClient holder stage = some (next,rest)) :
    next.Held host (next.client = none) ∧ next.attempt = s.attempt ∧ next.attempts = s.attempts := by
  have shut := fun known => closeClient_closed (closed known) ran
  rcases closeClient_cases ran with ⟨_,rfl,_⟩ | ⟨client,_,_,_,_,rfl⟩
  · exact ⟨held.widen shut,rfl,rfl⟩
  · exact ⟨held.widen fun _ => rfl,rfl,rfl⟩

namespace Barred

theorem manager [DecidableEq Address] {answer : Answer Address} (barred : s.Barred host) (allowed : s.spares host (.manager answer))
    (ran : step host s (.manager answer) = some next) : next.Barred host ∧ next.attempts = s.attempts := by
  have stepped : { s with manager := .starting }.managerStep host s.manager answer = some next := ran
  obtain ⟨idle,resting,held⟩ := barred
  cases waiting : s.manager with
  | waiting ready timed =>
    have plain : ready = false := by simpa [waiting,Manager.waitsForCaller] using resting
    have held : s.Held host (s.client = none) := held.widen (by simp [waiting])
    subst plain
    rw [waiting] at stepped
    cases answer with
    | event =>
      simp only [managerStep] at stepped
      split at stepped
      · cases stepped
      · rename_i event rest queued
        cases Option.some.inj stepped
        have sparing := spares_event held queued allowed
        obtain ⟨after,kept,same⟩ := handleEvent_held (s := { s with manager := .starting, managerEvents := rest }) held
          sparing
        obtain ⟨barred,attempts⟩ := lose_barred (kept.trans idle) after
        exact ⟨barred,attempts.trans same⟩
    | timeout =>
      cases timed with
      | false => cases stepped
      | true =>
        cases Option.some.inj stepped
        exact afterWait_barred (s := { s with manager := .starting }) idle held
    | _ => cases stepped
  | losing stage ready =>
    have plain : ready = false := by simpa [waiting,Manager.waitsForCaller] using resting
    have held : s.Held host (s.client = none) := held.widen (by simp [waiting])
    subst plain
    rw [waiting] at stepped
    cases answer <;> try (cases stage <;> cases stepped)
    cases stage with
    | history =>
      cases Option.some.inj stepped
      exact ⟨⟨idle,rfl,held.widen .inl⟩,rfl⟩
    | client stage =>
      obtain ⟨⟨closed,rest⟩,closing,rfl⟩ := Option.map_eq_some_iff.mp stepped
      obtain ⟨held,kept,same⟩ := closeClient_held (s := { s with manager := .starting }) .inr held closing
      cases rest with
      | some => exact ⟨⟨kept.trans idle,rfl,held.widen .inl⟩,same⟩
      | none =>
        have noticed : closed.notifyConnectionManager.Held host (closed.notifyConnectionManager.client = none) := held
        obtain ⟨barred,attempts⟩ := afterWait_barred (s := closed.notifyConnectionManager) (kept.trans idle) noticed
        exact ⟨barred,attempts.trans same⟩
  | failing kind stage =>
    rw [waiting] at stepped held
    cases answer <;> try cases stepped
    obtain ⟨⟨closed,rest⟩,closing,rfl⟩ := Option.map_eq_some_iff.mp stepped
    let rejecting : Manager Address Passkey := .failing .rejected .entering
    have closeable : s.client = none ∨ .failing kind stage = rejecting → stage = .entering ∨ s.client = none :=
      fun known => known.symm.imp_left fun same => (Manager.failing.inj same).2
    obtain ⟨shut,kept,same⟩ := closeClient_held (s := { s with manager := .starting }) closeable held closing
    cases rest with
    | some =>
      refine ⟨⟨kept.trans idle,?_,shut.widen .inl⟩,same⟩
      cases kind with
      | undesired => simp [waiting,Manager.waitsForCaller] at resting
      | _ => rfl
    | none =>
      cases kind with
      | undesired => simp [waiting,Manager.waitsForCaller] at resting
      | _ => exact ⟨⟨kept.trans idle,rfl,shut.widen .inl⟩,same⟩
  | reporting =>
    rw [waiting] at stepped held
    cases answer <;> cases stepped
    exact ⟨⟨idle,rfl,held.widen fun closed => .inl (closed.resolve_right (by intro same; cases same))⟩,rfl⟩
  | _ => simp [waiting,Manager.waitsForCaller] at resting

end Barred

theorem closingEnds_of {index : Nat} {stage : Closing} (ran : s.closeClient (.call index) stage = some (next,none)) :
    s.closingEnds index stage := by
  simp [closingEnds,ran]

theorem resetStep_state [DecidableEq Address] {index : Nat} {selected : Address} {operation : OperationId} {stage : Reset}
    {answer : Answer Address} (known : s.calls[index]? = some (.resetting selected operation stage))
    (ran : s.resetStep host index selected operation stage answer = some next) :
    next.state = s.state ∨ s.disconnects index answer := by
  unfold resetStep at ran
  dsimp only at ran
  split at ran
  · split at ran
    · split at ran <;> cases Option.some.inj ran <;> exact .inl rfl
    · cases Option.some.inj ran
      exact .inl rfl
  · cases Option.some.inj ran
    exact .inl rfl
  · cases Option.some.inj ran
    exact .inl rfl
  · obtain ⟨⟨closed,rest⟩,closing,rfl⟩ := Option.map_eq_some_iff.mp ran
    have kept := closeClient_state closing
    cases rest <;> exact .inl kept
  · split at ran
    · split at ran <;> cases Option.some.inj ran
      · rename_i written
        exact .inr (by simp [disconnects,known,written])
      · exact .inl rfl
    · cases Option.some.inj ran
      exact .inl rfl
  · cases Option.some.inj ran
    exact .inl rfl
  · obtain ⟨⟨closed,rest⟩,closing,rfl⟩ := Option.map_eq_some_iff.mp ran
    have kept := closeClient_state closing
    cases rest with
    | some => exact .inl kept
    | none => exact .inr (by simp [disconnects,known,closingEnds_of closing])
  · cases Option.some.inj ran
    exact .inl rfl
  · cases ran

theorem disconnectStep_state [DecidableEq Address] {index : Nat} {stage : DisconnectStage} {answer : Answer Address}
    (known : s.calls[index]? = some (.disconnecting stage)) (ran : s.disconnectStep index stage = some next) :
    next.state = s.state ∨ s.disconnects index answer := by
  cases stage with
  | history =>
    cases Option.some.inj ran
    obtain ⟨⟨attempt,same,_⟩,_⟩ := s.cancelAttempt_requests
    rw [same]
    exact .inl rfl
  | attempt number =>
    simp only [disconnectStep] at ran
    split at ran
    · cases Option.some.inj ran
      exact .inl rfl
    · cases ran
  | client stage =>
    obtain ⟨⟨closed,rest⟩,closing,rfl⟩ := Option.map_eq_some_iff.mp ran
    have kept := closeClient_state closing
    cases rest with
    | some => exact .inl kept
    | none => exact .inr (by simp [disconnects,known,closingEnds_of closing])

theorem callStep_state [DecidableEq Address] {index : Nat} {call : Call Address Passkey} {answer : Answer Address}
    (known : s.calls[index]? = some call) (ran : s.callStep host index call answer = some next) :
    next.state = s.state ∨ s.selects index ∨ s.disconnects index answer := by
  unfold callStep at ran
  split at ran
  · cases Option.some.inj ran
    exact .inl rfl
  · obtain ⟨⟨closed,rest⟩,closing,rfl⟩ := Option.map_eq_some_iff.mp ran
    have kept := closeClient_state closing
    cases rest with
    | some => exact .inl kept
    | none => exact .inr (.inl (by simp [selects,known,closingEnds_of closing]))
  · exact (disconnectStep_state known ran).imp_right .inr
  · cases Option.some.inj ran
    exact .inl rfl
  · exact (resetStep_state known ran).imp_right .inr
  · cases Option.some.inj ran
    unfold scanned
    split <;> exact .inl rfl
  · cases Option.some.inj ran
    exact .inl rfl
  · cases ran

namespace Barred

theorem beside (barred : s.Barred host) (beside : s.Beside next) (attempts : next.attempts = s.attempts)
    (kept : s.state.Keeps next.state ∨ next.state.desiredConnected = false)
    (passkey : next.targetPasskey = s.targetPasskey ∨ next.targetPasskey = none)
    (client : next.client = s.client ∨ next.client = none)
    (blocked : s.exposed host → next.state = s.state ∨ next.state.desiredConnected = false) :
    next.Barred host ∧ next.attempts = s.attempts := by
  obtain ⟨idle,resting,held⟩ := barred
  have idle : next.attempt = none := by
    rcases beside.attempt with same | ⟨known,present,_⟩
    · exact same.trans idle
    · exact nomatch idle.symm.trans present
  refine ⟨⟨idle,beside.manager ▸ resting,?_⟩,attempts⟩
  by_cases wanted : next.state.desiredConnected = false
  · exact .inl wanted
  · have keeps := kept.resolve_right wanted
    rcases held with unwanted | ⟨missing,ready,target,held⟩
    · exact absurd (keeps.desired.trans unwanted) wanted
    · refine .inr ⟨?_,?_,keeps.target ▸ target,?_⟩
      · rcases passkey with same | forgotten
        · exact same.trans missing
        · exact forgotten
      · exact Bool.eq_false_iff.mpr fun readied => by simp [keeps.readied readied] at ready
      · by_cases known : s.Unknown host
        · refine .inl fun other stored selected found => ?_
          obtain ⟨key,named,present⟩ := Option.map_eq_some_iff.mp found
          rcases beside.credentials key with same | removed
          · refine known other stored (keeps.target.symm.trans selected) ?_
            exact Option.map_eq_some_iff.mpr ⟨key,named,same.symm.trans present⟩
          · exact nomatch removed.symm.trans present
        · obtain ⟨phase,rejected,closed⟩ := held.resolve_left known
          have desired : s.state.desiredConnected = true := by
            rw [← keeps.desired]
            simpa using wanted
          have exposed : s.exposed host = true := by
            by_contra hidden
            exact known (exposed_of desired phase rejected (Bool.eq_false_iff.mpr hidden))
          have same := (blocked exposed).resolve_right wanted
          refine .inr ⟨same ▸ phase,same ▸ rejected,?_⟩
          rw [beside.manager]
          rcases closed with none | failing
          · exact .inl (client.elim (·.trans none) id)
          · exact .inr failing

theorem callStep [DecidableEq Address] (barred : s.Barred host) (consistent : s.Consistent) {index : Nat} {call : Call Address Passkey}
    {answer : Answer Address} (known : s.calls[index]? = some call) (allowed : s.spares host (.call index answer))
    (ran : s.callStep host index call answer = some next) : next.Barred host ∧ next.attempts = s.attempts := by
  have effect := callStep_effects (consistent.resets index call known) ran
  have apart := callEffect_beside effect
  have moves := callStep_state known ran
  simp only [spares,Bool.and_eq_true,Bool.not_eq_true'] at allowed
  obtain ⟨stays,sparing⟩ := allowed
  have blocked : s.exposed host → next.state = s.state ∨ next.state.desiredConnected = false := by
    intro exposed
    rcases moves with same | selecting | disconnecting
    · exact .inl same
    · exact nomatch stays.symm.trans selecting
    · simp [exposed,disconnecting] at sparing
  cases effect with
  | proceeds state bond lock attempt operations pending discovery events after keeps =>
    exact barred.beside apart rfl (.inl keeps) (.inl rfl) (.inl rfl) blocked
  | closes => exact barred.beside apart rfl (.inl .refl) (.inl rfl) (.inr rfl) fun _ => .inl rfl
  | selects selected credential fromRegistry stage switching =>
    subst switching
    rcases moves with same | selecting | disconnecting
    · have counted : s.state.revision + 1 = s.state.revision := congrArg ControllerState.revision same
      exact absurd counted (Nat.succ_ne_self _)
    · exact nomatch stays.symm.trans selecting
    · simp [disconnects,known] at disconnecting
  | resets key selected operation client state resetting keeps =>
    exact barred.beside apart rfl (.inl keeps) (.inr rfl) (.inl rfl) blocked

theorem step [DecidableEq Address] (barred : s.Barred host) (consistent : s.Consistent) (allowed : s.spares host action)
    (ran : State.step host s action = some next) : next.Barred host ∧ next.attempts = s.attempts := by
  have apart := stepEffect_beside (step_effects consistent.coupled consistent.resets ran)
  cases action with
  | manager answer => exact barred.manager allowed ran
  | attempt answer => simp [State.step,barred.idle] at ran
  | call index answer =>
    obtain ⟨call,known,stepped⟩ := Option.bind_eq_some_iff.mp ran
    exact barred.callStep consistent known allowed stepped
  | disconnect =>
    have apart := apart rfl
    cases Option.some.inj ran
    exact barred.beside apart rfl (.inr rfl) (.inl rfl) (.inl rfl) fun _ => .inr rfl
  | forgetPairing selected =>
    have apart := apart rfl
    simp only [State.step,forgetPairing] at ran
    split at ran
    · cases Option.some.inj ran
      exact barred.beside apart rfl (.inr rfl) (.inl rfl) (.inl rfl) fun _ => .inr rfl
    · cases ran
  | scan =>
    have apart := apart rfl
    simp only [State.step,scan] at ran
    split at ran
    · cases Option.some.inj ran
      exact barred.beside apart rfl (.inl .refl) (.inl rfl) (.inl rfl) fun _ => .inl rfl
    · cases ran
  | poll answer =>
    have apart := apart rfl
    cases pollStep_effects ran
    exact barred.beside apart rfl (.inl .refl) (.inl rfl) (.inl rfl) fun _ => .inl rfl
  | linkDown client =>
    have apart := apart rfl
    cases Option.some.inj ran
    exact barred.beside apart rfl (.inl .refl) (.inl rfl) (.inl rfl) fun _ => .inl rfl
  | transportDisconnected client =>
    have apart := apart rfl
    cases transportDisconnected_effects ran
    exact barred.beside apart rfl (.inl .refl) (.inl rfl) (.inl rfl) fun _ => .inl rfl
  | _ => cases allowed

theorem stays [DecidableEq Address] (barred : s.Barred host) (consistent : s.Consistent)
    (path : Execution.Path (State.step host) (fun s action => s.spares host action) s trace next) :
    next.attempts = s.attempts := by
  have reached : next.Consistent ∧ next.Barred host ∧ next.attempts = s.attempts := by
    refine path.invariant (fun later => later.Consistent ∧ later.Barred host ∧ later.attempts = s.attempts)
      ⟨consistent,barred,rfl⟩ ?_
    intro later action after ⟨consistent,barred,same⟩ allowed ran
    obtain ⟨barred,attempts⟩ := barred.step consistent allowed ran
    exact ⟨consistent.step ran,barred,attempts.trans same⟩
  exact reached.2.2

end Barred

def Targeted (s : State Address Passkey) : Prop := s.attempt ≠ none → s.state.target.isSome

namespace Targeted

theorem idle (idle : s.attempt = none) : s.Targeted := fun known => absurd idle known

theorem of_selected {target : Address} (selected : s.state.target = some target) : s.Targeted :=
  fun _ => Option.isSome_iff_exists.mpr ⟨target,selected⟩

theorem kept (targeted : s.Targeted) (attempt : next.attempt ≠ none → s.attempt ≠ none)
    (target : next.state.target = s.state.target) : next.Targeted :=
  fun known => target ▸ targeted (attempt known)

theorem managerEffect (targeted : s.Targeted) (effect : ManagerEffect host s next) :
    next.Targeted := by
  cases effect with
  | moves state events number pending manager free rests keeps => exact targeted.kept id keeps.target
  | refreshes target refreshed state waiting same updated desired left unready => exact of_selected updated
  | starts target selected idle running => exact of_selected selected
  | discovers => exact of_selected rfl
  | fails error idle running missing => exact .idle ((handleFailure_idle none error).1.trans idle)
  | _ => exact targeted.kept id rfl

theorem requested (targeted : s.Targeted) (requests : s.RequestsCancel next.attempt)
    (target : next.state.target = s.state.target) : next.Targeted := by
  refine targeted.kept (fun known => ?_) target
  rcases requests with same | ⟨before,present,_⟩
  · exact same ▸ known
  · simp [present]

theorem taken_idle (taken : Taken host s answer next) : next.attempt = none := by
  cases taken with
  | fails attempt error => exact (handleFailure_idle (some attempt) error).1
  | scans generation error => exact (handleFailure_idle none error).1
  | _ => rfl

theorem step [DecidableEq Address] (consistent : s.Consistent) (targeted : s.Targeted) (ran : State.step host s action = some next) :
    next.Targeted := by
  cases step_effects consistent.coupled consistent.resets ran with
  | connects effect | pairs effect | reconnects _ effect =>
    cases effect with
    | already => exact targeted.kept id rfl
    | refused => exact of_selected rfl
    | switches => exact targeted.kept id rfl
    | selects => exact of_selected rfl
  | disconnects => exact targeted.kept id rfl
  | forgets => exact of_selected rfl
  | scans => exact targeted.kept id rfl
  | calls known effect =>
    cases effect with
    | proceeds state bond lock attempt operations pending discovery events after keeps released requests =>
      exact targeted.requested requests keeps.target
    | closes => exact targeted.kept id rfl
    | selects => exact of_selected rfl
    | resets key selected operation client state resetting keeps => exact targeted.kept id keeps.target
  | manages effects =>
    exact consistent.carry Targeted (fun _ _ _ targeted => targeted.managerEffect) targeted effects
  | takes taken effects =>
    have idle : Targeted _ := .idle (taken_idle taken)
    exact (consistent.taken taken).carry Targeted (fun _ _ _ targeted => targeted.managerEffect) idle effects
  | commits attempt bootId saved verified =>
    rcases commit_cases attempt bootId saved with ⟨key,passkey,_,_,same⟩ | same <;> rw [same]
    · exact of_selected rfl
    · exact .idle (handleFailure_idle (some attempt) .other).1
  | attempts known effect =>
    have before : s.attempt ≠ none := by simp [known]
    cases effect with
    | begins state stage created unlocked keeps => exact targeted.kept (fun _ => before) keeps.target
    | bonds state bond pairing keeps => exact targeted.kept (fun _ => before) keeps.target
    | opens state client bootId connecting mine keeps => exact targeted.kept (fun _ => before) keeps.target
    | _ => exact targeted.kept (fun _ => before) rfl
  | polls effect =>
    cases effect
    exact targeted.kept id rfl
  | breaks => exact targeted.kept id rfl
  | notices effect =>
    cases effect
    exact targeted.kept id rfl

end Targeted

theorem rejection_barred [DecidableEq Address] {attempt : Attempt Address Passkey} {answer : Answer Address} (consistent : s.Consistent)
    (targeted : s.Targeted) (known : s.attempt = some attempt)
    (rejected : attempt.stage = .finished (.ended (.failed .authentication))) (wanted : s.state.desiredConnected)
    (ran : step host s (.manager answer) = some next) :
    next.Barred host ∧ next.state.phase = .authenticationRequired ∧ next.state.credentialState = .rejected := by
  have attempting := consistent.coupled (by simp [known])
  have stepped : { s with manager := .starting }.managerStep host s.manager answer = some next := ran
  rw [attempting] at stepped
  cases answer <;> try cases stepped
  have taken : next = s.taken.rejectCredential (some attempt) := by
    simp only [managerStep,known,rejected,attemptReturned,handleFailure,wanted] at stepped
    exact (Option.some.inj stepped).symm
  subst taken
  refine ⟨⟨rfl,rfl,.inr ⟨rfl,rfl,?_,.inr ⟨rfl,rfl,.inr rfl⟩⟩⟩,rfl,rfl⟩
  exact targeted (by simp [known])

-- A rejected credential is not tried again while nobody asks for a connection and nothing
-- lifts the block.
theorem rejected_not_retried [DecidableEq Address] {credentials : Address → Option Passkey} {attempt : Attempt Address Passkey}
    {answer : Answer Address} {middle final : State Address Passkey}
    (path : Execution.Path (State.step host) Execution.anyStep (started autoDiscover credentials) trace s)
    (known : s.attempt = some attempt) (rejected : attempt.stage = .finished (.ended (.failed .authentication)))
    (wanted : s.state.desiredConnected) (ran : step host s (.manager answer) = some middle)
    (later : Execution.Path (State.step host) (fun s action => s.spares host action) middle rest final) :
    middle.state.phase = .authenticationRequired ∧ middle.state.credentialState = .rejected ∧
      final.attempts = middle.attempts := by
  have reached : s.Consistent ∧ s.Targeted := by
    refine path.invariant (fun s => s.Consistent ∧ s.Targeted)
      ⟨consistent_started autoDiscover credentials,.idle rfl⟩ ?_
    exact fun _ _ _ ⟨consistent,targeted⟩ _ ran => ⟨consistent.step ran,targeted.step consistent ran⟩
  obtain ⟨barred,phase,credential⟩ := rejection_barred reached.1 reached.2 known rejected wanted ran
  exact ⟨phase,credential,barred.stays (reached.1.step ran) later⟩

def rejecting (s : State Nat Nat) : Bool :=
  s.state.desiredConnected && s.attempt.any fun attempt => attempt.stage = .finished (.ended (.failed .authentication))

theorem rejecting_parts {s : State Nat Nat} (holds : s.rejecting = true) : ∃ attempt, s.attempt = some attempt ∧
    attempt.stage = .finished (.ended (.failed .authentication)) ∧ s.state.desiredConnected = true := by
  simp only [rejecting,Bool.and_eq_true] at holds
  obtain ⟨attempt,known,rejected⟩ := (Option.any_eq_true _ _).mp holds.2
  exact ⟨attempt,known,of_decide_eq_true rejected,holds.1⟩

def afterRejection (later : State Nat Nat → Bool) (s : State Nat Nat) : Bool :=
  s.rejecting && (step .plain s (.manager (.file true))).any later

def rejectedAttempt : List (Action Nat Nat) :=
  [.manager .done,.connect 1 (some 11),.manager .event,.attempt .done,.attempt .done,.attempt (.connected 7),
    .attempt (.failed .authentication),.attempt .done]

-- Behind it the change of intent is still queued, and a caller scans.
theorem rejected_not_retried_scan :
    ∃ middle final : State Nat Nat, final.attempts = middle.attempts ∧ final.managerEvents = [] ∧
      final.state.credentialState = .rejected := by
  have passed : (Execution.run (step .plain) (started false fun _ => none) rejectedAttempt).any
      (afterRejection fun middle => (Execution.run (Execution.guarded (step .plain) fun s action => s.spares .plain action)
        middle [.manager .done,.scan,.manager .event,.call 0 (.devices [1,2])]).any fun final =>
          final.managerEvents = [] && final.state.credentialState = .rejected) = true := by decide +kernel
  obtain ⟨trace,s,path,rejection⟩ := Execution.run_checked passed
  simp only [afterRejection,Bool.and_eq_true] at rejection
  obtain ⟨attempt,known,rejected,wanted⟩ := rejecting_parts rejection.1
  obtain ⟨middle,ran,continued⟩ := (Option.any_eq_true _ _).mp rejection.2
  obtain ⟨rest,final,later,quiet⟩ := Execution.guarded_checked continued
  simp only [Bool.and_eq_true,decide_eq_true_eq] at quiet
  obtain ⟨_,_,same⟩ := rejected_not_retried path known rejected wanted ran later
  exact ⟨middle,final,same,quiet⟩

-- A link is lost: the transport reports the client, a poll reports nothing. The controller
-- reconnects on the first report and is rejected; the second one then lifts the block.
def lostTwice : List (Action Nat Nat) :=
  connectedRun ++ [.linkDown 0,.transportDisconnected 0,.poll .timeout,.poll .done,.poll .done,.manager .event,
    .manager .done,.manager .done,.manager .done,.manager (.devices [1]),.attempt .done,.attempt (.connected 7),
    .attempt (.failed .authentication),.attempt .done]

def unasked : Action Nat Nat → Bool
  | .connect _ _ | .pair _ _ | .reconnect => false
  | _ => true

theorem rejected_retried :
    ∃ trace rest, ∃ (s middle final : State Nat Nat) (attempt : Attempt Nat Nat),
      Execution.Path (step .plain) Execution.anyStep (started false fun _ => none) trace s ∧
        s.attempt = some attempt ∧ attempt.stage = .finished (.ended (.failed .authentication)) ∧
        step .plain s (.manager (.file true)) = some middle ∧ middle.state.phase = .authenticationRequired ∧
        middle.state.credentialState = .rejected ∧
        Execution.Path (step .plain) (fun _ action => unasked action) middle rest final ∧
        final.attempts.length = middle.attempts.length + 1 := by
  have passed : (Execution.run (step .plain) (started false fun _ => none) lostTwice).any
      (afterRejection fun middle => middle.state.phase = .authenticationRequired &&
        middle.state.credentialState = .rejected &&
        (Execution.run (Execution.guarded (step .plain) fun _ action => unasked action) middle
          [.manager .done,.manager .event,.manager .done,.manager .done,.manager (.devices [])]).any fun final =>
            final.attempts.length = middle.attempts.length + 1) = true := by decide +kernel
  obtain ⟨trace,s,path,rejection⟩ := Execution.run_checked passed
  simp only [afterRejection,Bool.and_eq_true] at rejection
  obtain ⟨attempt,known,rejected,_⟩ := rejecting_parts rejection.1
  obtain ⟨middle,ran,continued⟩ := (Option.any_eq_true _ _).mp rejection.2
  simp only [Bool.and_eq_true,decide_eq_true_eq] at continued
  obtain ⟨⟨phase,credential⟩,more⟩ := continued
  obtain ⟨rest,final,later,started⟩ := Execution.guarded_checked more
  exact ⟨trace,rest,s,middle,final,attempt,path,known,rejected,ran,phase,credential,later,of_decide_eq_true started⟩

end State

end Thermometer.Controller
