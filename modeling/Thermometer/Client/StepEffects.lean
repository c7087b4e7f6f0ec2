import Thermometer.Client.ManagerEffects

-- What a step of the connection attempt, of an API call and of the environment can do.
namespace Thermometer.Controller

variable {Address Passkey : Type}
  {host : Host Address} {s next : State Address Passkey}

def AttemptStage.holdsLock : AttemptStage → Bool
  | .created | .finished _ => false
  | _ => true

theorem AttemptStage.holdsLock_between {stage : AttemptStage} (created : stage ≠ .created)
    (finished : ∀ outcome, stage ≠ .finished outcome) : stage.holdsLock := by
  cases stage with
  | created => exact absurd rfl created
  | finished outcome => exact absurd rfl (finished outcome)
  | _ => rfl

def State.KeepsOthers (s : State Address Passkey) (attempt : Attempt Address Passkey)
    (clients : List (Client Address)) : Prop :=
  ∀ index, attempt.client ≠ some index → clients[index]? = s.clients[index]?

inductive AttemptEffect (s : State Address Passkey) (attempt : Attempt Address Passkey) :
    State Address Passkey → Prop where
  | begins (state : ControllerState Address) (stage : AttemptStage) :
      attempt.stage = .created → s.lifecycleLock = none → s.state.Keeps state →
      stage = .pairing ∨ stage = .connecting →
      AttemptEffect s attempt { s with
        state := state, clients := s.clients ++ [(⟨attempt.target,0,false,false⟩ : Client Address)]
        lifecycleLock := some .attempt
        attempt := some { attempt with client := some s.clients.length, stage := stage } }
  | bonds (state : ControllerState Address) (bond : Option Address) :
      attempt.stage = .pairing → s.state.Keeps state →
      AttemptEffect s attempt { s with
        state := state, verifiedBondAddress := bond, attempt := some { attempt with stage := .connecting } }
  | opens (state : ControllerState Address) (client : ClientId) (bootId : BootId) :
      attempt.stage = .connecting → attempt.client = some client → s.state.Keeps state →
      s.superseded attempt = false →
      AttemptEffect s attempt { s with
        state := state, client := some client
        clients := s.clients.modify client ({ · with bootId := bootId, isConnected := true })
        attempt := some { attempt with stage := .authenticating } }
  | proves : attempt.stage = .authenticating → s.superseded attempt = false →
      AttemptEffect s attempt { s.observe (.authenticated attempt) with
        attempt := some { attempt with stage := .reading } }
  | verifies (client : Client Address) :
      attempt.stage = .reading → s.superseded attempt = false → attempt.client.bind (s.clients[·]?) = some client →
      AttemptEffect s attempt (s.finishAttempt attempt (.verified client.bootId))
  | closes (clients : List (Client Address)) (observations : List (Observation Address Passkey))
      (resets : Bool) (ending : Ending) (guarded cancelRequested : Bool) :
      attempt.stage.holdsLock → s.KeepsOthers attempt clients →
      (∀ (index : ClientId) (client : Client Address), attempt.client = some index → clients[index]? = some client →
        client.closed) →
      observations = s.observations ∨ observations = s.observations ++ [.authenticated attempt] →
      AttemptEffect s attempt { s with
        clients := clients, observations := observations
        attempt := some { attempt with stage := .closing resets ending guarded, cancelRequested := cancelRequested } }
  | ends (resets : Bool) (ending closed : Ending) (guarded cancelRequested : Bool) (client : Option ClientId) :
      attempt.stage = .closing resets closed guarded →
      client = s.client ∨ client = none ∧ s.client = attempt.client →
      AttemptEffect s attempt { s with
        client := client, lifecycleLock := none
        attempt := some { attempt with stage := .finished (.ended ending), cancelRequested := cancelRequested } }
  | aborts : attempt.stage = .created →
      AttemptEffect s attempt { s with attempt := some { attempt with stage := .finished (.ended .cancelled) } }

namespace State

variable {attempt : Attempt Address Passkey} {answer : Answer Address} {client : ClientId}
  {clients : List (Client Address)} {observations : List (Observation Address Passkey)}

theorem keepsOthers_modify (change : Client Address → Client Address) (known : attempt.client = some client) :
    s.KeepsOthers attempt (s.clients.modify client change) := by
  intro index other
  have distinct : client ≠ index := fun same => other (by rw [known,same])
  simp [distinct]

theorem closeAttempt_effect (holds : attempt.stage.holdsLock) (others : s.KeepsOthers attempt clients)
    (observed : observations = s.observations ∨ observations = s.observations ++ [.authenticated attempt]) :
    AttemptEffect s attempt ({ s with clients := clients, observations := observations }.closeAttempt
      { attempt with cancelRequested := cancelRequested } resets ending guarded) := by
  refine .closes _ observations resets ending guarded cancelRequested holds ?_ ?_ observed
  · intro index other
    dsimp only
    split
    · rename_i client known
      have distinct : client ≠ index := fun same => other (by rw [known,same])
      simp [distinct,others index other]
    · exact others index other
  · intro index client known present
    dsimp only at present
    rw [known] at present
    obtain ⟨old,_,rfl⟩ := Option.map_eq_some_iff.mp (by simpa using present)
    rfl

theorem openTransport_effect (pairing : attempt.stage = .pairing) (bond : Option Address) :
    AttemptEffect s attempt ({ s with verifiedBondAddress := bond }.openTransport attempt) :=
  .bonds _ bond pairing ⟨rfl,rfl,nofun,nofun⟩

theorem beginAttempt_effect [DecidableEq Address] (created : attempt.stage = .created) (unlocked : s.lifecycleLock = none) :
    AttemptEffect s attempt (s.beginAttempt host attempt) := by
  unfold beginAttempt
  dsimp only
  split
  · exact .begins _ .connecting created unlocked ⟨rfl,rfl,nofun,nofun⟩ (.inr rfl)
  · exact .begins _ .pairing created unlocked ⟨rfl,rfl,nofun,nofun⟩ (.inl rfl)

theorem verifyTransport_effect (connecting : attempt.stage = .connecting) (known : attempt.client = some client) :
    AttemptEffect s attempt (s.verifyTransport attempt client bootId) := by
  have holds : attempt.stage.holdsLock := by rw [connecting]; rfl
  unfold verifyTransport
  dsimp only
  split
  · exact closeAttempt_effect holds (keepsOthers_modify _ known) (.inl rfl)
  · rename_i current
    exact .opens _ client bootId connecting known ⟨rfl,rfl,nofun,nofun⟩ (Bool.eq_false_iff.mpr current)

theorem attemptStep_effects [DecidableEq Address] (ran : s.attemptStep host attempt answer = some next) :
    AttemptEffect s attempt next := by
  have kept : s.KeepsOthers attempt s.clients := fun _ _ => rfl
  unfold attemptStep at ran
  split at ran
  · rename_i created
    split at ran
    · cases ran
    · rename_i unlocked
      cases Option.some.inj ran
      exact beginAttempt_effect created (by simpa using unlocked)
  · rename_i created
    split at ran
    · cases Option.some.inj ran
      exact .aborts created
    · cases ran
  · rename_i pairing
    have holds : attempt.stage.holdsLock := by rw [pairing]; rfl
    split at ran
    · cases ran
    · split at ran <;> cases Option.some.inj ran
      · exact closeAttempt_effect holds kept (.inl rfl)
      · exact openTransport_effect pairing _
  · rename_i connecting
    split at ran
    · cases ran
    · obtain ⟨client,known,rfl⟩ := Option.map_eq_some_iff.mp ran
      exact verifyTransport_effect connecting known
  · rename_i authenticating
    have holds : attempt.stage.holdsLock := by rw [authenticating]; rfl
    dsimp only at ran
    split at ran <;> cases Option.some.inj ran
    · exact closeAttempt_effect holds kept (.inr rfl)
    · rename_i current
      exact .proves authenticating (Bool.eq_false_iff.mpr current)
  · rename_i reading
    have holds : attempt.stage.holdsLock := by rw [reading]; rfl
    split at ran
    · cases Option.some.inj ran
      exact closeAttempt_effect holds kept (.inl rfl)
    · rename_i current
      obtain ⟨client,known,rfl⟩ := Option.map_eq_some_iff.mp ran
      exact .verifies client reading (Bool.eq_false_iff.mpr current) known
  · rename_i resets ending guarded closing
    dsimp only at ran
    split at ran <;> cases Option.some.inj ran
    · rename_i mine
      exact .ends resets ending ending guarded attempt.cancelRequested none closing (.inr ⟨rfl,mine.2⟩)
    · exact .ends resets ending ending guarded attempt.cancelRequested s.client closing (.inl rfl)
  · rename_i resets ending guarded closing
    have holds : attempt.stage.holdsLock := by rw [closing]; rfl
    split at ran
    · cases ran
    · dsimp only at ran
      split at ran <;> cases Option.some.inj ran
      · exact closeAttempt_effect holds kept (.inl rfl)
      · exact .ends resets .cancelled ending guarded false s.client closing (.inl rfl)
  · cases ran
  · cases ran
  · cases ran
  · rename_i created _ finished
    cases Option.some.inj ran
    exact closeAttempt_effect (AttemptStage.holdsLock_between created finished) kept (.inl rfl)
  · rename_i created _ finished
    split at ran
    · cases Option.some.inj ran
      exact closeAttempt_effect (AttemptStage.holdsLock_between created finished) kept (.inl rfl)
    · cases ran
  · cases ran

end State

inductive SelectionEffect [DecidableEq Address] (host : Host Address) (s : State Address Passkey) (selected : Address)
    (passkey : Option Passkey) (kind : OperationKind) : State Address Passkey → Prop where
  | already (credential : Option Passkey) :
      s.state.ready → s.sameTarget host selected →
      SelectionEffect host s selected passkey kind
        ((s.newOperation kind .succeeded selected credential).observe (.operationSucceeded s.operations.length none))
  | refused : passkey = none → s.lookup host selected = some none →
      SelectionEffect host s selected passkey kind (s.selectWithoutCredential selected)
  | switches (credential : Passkey) (fromRegistry : Bool) :
      passkey = some credential ∨ passkey = none ∧ s.lookup host selected = some (some credential) →
      s.state.connected → s.sameTarget host selected = false →
      SelectionEffect host s selected passkey kind
        ((s.beginOperation kind selected credential).switchTarget selected credential fromRegistry)
  | selects (credential : Passkey) (fromRegistry : Bool) :
      passkey = some credential ∨ passkey = none ∧ s.lookup host selected = some (some credential) →
      SelectionEffect host s selected passkey kind
        ((s.beginOperation kind selected credential).select selected credential fromRegistry)

namespace State

theorem resolveCredential_some {selected : Address} {passkey : Option Passkey} {credential : Option Passkey}
    (resolved : s.resolveCredential host selected passkey = some (credential,fromRegistry)) :
    (passkey = none ∧ s.lookup host selected = some credential) ∨ (passkey = credential ∧ credential.isSome) := by
  cases passkey with
  | none =>
    obtain ⟨stored,found,equal⟩ := Option.map_eq_some_iff.mp resolved
    cases equal
    exact .inl ⟨rfl,found⟩
  | some supplied =>
    cases Option.some.inj resolved
    exact .inr ⟨rfl,rfl⟩

theorem beginConnection_effects [DecidableEq Address] {selected : Address} {passkey : Option Passkey}
    (ran : s.beginConnection host selected passkey kind = some next) :
    SelectionEffect host s selected passkey kind next := by
  unfold beginConnection at ran
  split at ran
  · cases ran
  · rename_i credential fromRegistry resolved
    split at ran
    · rename_i already
      cases Option.some.inj ran
      exact .already credential already.1 already.2
    · split at ran
      · cases Option.some.inj ran
        rcases resolveCredential_some resolved with ⟨rfl,found⟩ | ⟨_,known⟩
        · exact .refused rfl found
        · cases known
      · rename_i credential
        have source : passkey = some credential ∨ passkey = none ∧ s.lookup host selected = some (some credential) :=
          (resolveCredential_some resolved).elim .inr fun supplied => .inl supplied.1
        dsimp only at ran
        split at ran <;> cases Option.some.inj ran
        · rename_i other
          exact .switches credential fromRegistry source other.1 (Bool.not_inj other.2)
        · exact .selects credential fromRegistry source

end State

def Call.holdsLock : Call Address Passkey → Bool
  | .switching _ _ _ (.client .closing) | .disconnecting (.client .closing)
  | .resetting _ _ (.closing _ .closing) | .resetting _ _ (.aborting .closing) => true
  | _ => false

def Call.entersLock : Call Address Passkey → Bool
  | .switching _ _ _ (.client .entering) | .disconnecting (.client .entering)
  | .resetting _ _ (.closing _ .entering) | .resetting _ _ (.aborting .entering) => true
  | _ => false

def Call.selection : Call Address Passkey → Option (Address × Passkey)
  | .switching selected credential _ _ => some (selected,credential)
  | _ => none

def Call.reset : Call Address Passkey → Option OperationId
  | .resetting _ operation _ => some operation
  | _ => none

structure Advances (before after : List (Operation Address Passkey)) : Prop where
  kept : ∀ (index : Nat) (old : Operation Address Passkey), before[index]? = some old →
    ∃ operation, after[index]? = some operation ∧
      (operation = old ∨ operation = State.cancelledOperation old ∨
        old.kind = .forgetPairing ∧ operation.kind = .forgetPairing)
  begun : ∀ (index : Nat) (operation : Operation Address Passkey), after[index]? = some operation →
    before[index]? = none → operation.kind = .forgetPairing

namespace Advances

variable {operations before middle after : List (Operation Address Passkey)}

theorem refl : Advances operations operations :=
  ⟨fun _ old present => ⟨old,present,.inl rfl⟩,fun _ _ present absent => by simp [present] at absent⟩

theorem cancelledOperation_kind (operation : Operation Address Passkey) :
    (State.cancelledOperation operation).kind = operation.kind := by
  unfold State.cancelledOperation
  split <;> rfl

theorem cancelledOperation_twice (operation : Operation Address Passkey) :
    State.cancelledOperation (State.cancelledOperation operation) = State.cancelledOperation operation := by
  unfold State.cancelledOperation
  split <;> simp_all

theorem trans (first : Advances before middle) (second : Advances middle after) : Advances before after := by
  refine ⟨fun index old present => ?_,fun index operation present absent => ?_⟩
  · obtain ⟨between,found,one⟩ := first.kept index old present
    obtain ⟨operation,last,two⟩ := second.kept index between found
    refine ⟨operation,last,?_⟩
    rcases two with rfl | rfl | ⟨resets,reset⟩
    · exact one
    · rcases one with rfl | rfl | ⟨resets,reset⟩
      · exact .inr (.inl rfl)
      · exact .inr (.inl (cancelledOperation_twice old))
      · exact .inr (.inr ⟨resets,(cancelledOperation_kind between).trans reset⟩)
    · rcases one with rfl | rfl | one
      · exact .inr (.inr ⟨resets,reset⟩)
      · exact .inr (.inr ⟨(cancelledOperation_kind old).symm.trans resets,reset⟩)
      · exact .inr (.inr ⟨one.1,reset⟩)
  · cases found : middle[index]? with
    | none => exact second.begun index operation present found
    | some between =>
      have resets := first.begun index between found absent
      obtain ⟨same,last,kept⟩ := second.kept index between found
      cases Option.some.inj (present.symm.trans last)
      rcases kept with rfl | rfl | kept
      · exact resets
      · exact (cancelledOperation_kind between).trans resets
      · exact kept.2

theorem modify (place : Nat) (change : Operation Address Passkey → Operation Address Passkey)
    (same : ∀ old, operations[place]? = some old →
      change old = State.cancelledOperation old ∨ old.kind = .forgetPairing ∧ (change old).kind = .forgetPairing) :
    Advances operations (operations.modify place change) := by
  refine ⟨fun index old present => ?_,fun index operation present absent => ?_⟩
  · by_cases here : place = index
    · subst here
      exact ⟨change old,by simp [present],.inr (same old present)⟩
    · exact ⟨old,by simpa [here] using present,.inl rfl⟩
  · simp [List.getElem?_modify,absent] at present

theorem append (more : Operation Address Passkey) (kind : more.kind = .forgetPairing) :
    Advances operations (operations ++ [more]) := by
  refine ⟨fun index old present => ?_,fun index operation present absent => ?_⟩
  · exact ⟨old,by rw [List.getElem?_append_left (List.getElem?_eq_some_iff.mp present).1,present],.inl rfl⟩
  · rw [List.getElem?_append_right (List.getElem?_eq_none_iff.mp absent)] at present
    have only := List.mem_of_getElem? present
    cases List.mem_singleton.mp only
    exact kind

end Advances

def State.ResetsOwn (s : State Address Passkey) (call : Call Address Passkey) : Prop :=
  ∀ operation, call.reset = some operation →
    ∃ known, s.operations[operation]? = some known ∧ known.kind = .forgetPairing

def State.RequestsCancel (s : State Address Passkey) (attempt : Option (Attempt Address Passkey)) : Prop :=
  attempt = s.attempt ∨ ∃ known, s.attempt = some known ∧ attempt = some { known with cancelRequested := true }

inductive CallEffect [DecidableEq Address] (s : State Address Passkey) (index : Nat) (call : Call Address Passkey) :
    State Address Passkey → Prop where
  | proceeds (state : ControllerState Address) (bond : Option Address) (lock : Option LockHolder)
      (attempt : Option (Attempt Address Passkey)) (operations : List (Operation Address Passkey))
      (pending : Option OperationId) (discovery : Option (List Address)) (events : List (LifecycleEvent Address))
      (after : Call Address Passkey) :
      s.state.Keeps state → lock = s.lifecycleLock ∧ call.holdsLock = false ∨ lock = none ∧ call.holdsLock →
      s.RequestsCancel attempt → Advances s.operations operations →
      pending = s.pendingConnectOperation ∨ pending = none → after.holdsLock = false →
      after.selection = call.selection →
      after.reset = none ∨ after.reset = call.reset ∨ (after.reset = some s.operations.length ∧
        ∃ begun, operations = s.operations ++ [begun] ∧ begun.kind = .forgetPairing) →
      CallEffect s index call { s with
        state := state, verifiedBondAddress := bond, lifecycleLock := lock, attempt := attempt
        operations := operations, pendingConnectOperation := pending, pendingDiscovery := discovery
        managerEvents := events, calls := s.calls.set index after }
  | closes (client : ClientId) (after : Call Address Passkey) :
      call.entersLock → s.lifecycleLock = none → s.client = some client → after.holdsLock →
      after.selection = call.selection → after.reset = call.reset →
      CallEffect s index call { s.markClosed client with
        client := none, lifecycleLock := some (.call index), calls := s.calls.set index after }
  | selects (selected : Address) (credential : Passkey) (fromRegistry : Bool) (stage : Closing) :
      call = .switching selected credential fromRegistry (.client stage) →
      (stage = .entering → s.lifecycleLock = none) →
      CallEffect s index call
        (({ s with lifecycleLock := none }.select selected credential fromRegistry).setCall index .returned)
  | resets (key selected : Address) (operation : OperationId) (client : ClientId)
      (state : ControllerState Address) :
      call = .resetting selected operation (.unpairing client) → s.state.Keeps state →
      CallEffect s index call { s with
        state := state, credentials := Function.update s.credentials key none, targetPasskey := none
        credentialFromRegistry := false, calls := s.calls.set index (.resetting selected operation .reporting) }

namespace State

variable {index : Nat} {call : Call Address Passkey} {answer : Answer Address}

theorem cancelAttempt_requests :
    (∃ attempt, s.cancelAttempt.1 = { s with attempt := attempt } ∧ s.RequestsCancel attempt) ∧
      (Call.disconnecting s.cancelAttempt.2 : Call Address Passkey).holdsLock = false := by
  unfold cancelAttempt
  split
  · exact ⟨⟨s.attempt,rfl,.inl rfl⟩,rfl⟩
  · rename_i attempt known
    split
    · exact ⟨⟨s.attempt,rfl,.inl rfl⟩,rfl⟩
    · exact ⟨⟨_,rfl,.inr ⟨attempt,known,rfl⟩⟩,rfl⟩

theorem setCall_effect [DecidableEq Address] {after : Call Address Passkey} (outside : call.holdsLock = false)
    (unlocked : after.holdsLock = false) (selection : after.selection = call.selection)
    (reset : after.reset = none ∨ after.reset = call.reset) :
    CallEffect s index call (s.setCall index after) :=
  .proceeds s.state s.verifiedBondAddress s.lifecycleLock s.attempt s.operations s.pendingConnectOperation
    s.pendingDiscovery s.managerEvents after .refl (.inl ⟨rfl,outside⟩) (.inl rfl) .refl (.inl rfl) unlocked
    selection (reset.imp_right .inl)

theorem released {stage : Closing}
    (entering : stage = .entering → call.holdsLock = false)
    (closing : stage = .closing → call.holdsLock) (unlocked : stage = .entering → s.lifecycleLock = none) :
    none = s.lifecycleLock ∧ call.holdsLock = false ∨ (none : Option LockHolder) = none ∧ call.holdsLock := by
  cases stage with
  | entering => exact .inl ⟨(unlocked rfl).symm,entering rfl⟩
  | closing => exact .inr ⟨rfl,closing rfl⟩

theorem advances_setOperation {operation : OperationId} {operations : List (Operation Address Passkey)}
    (own : ∀ old, operations[operation]? = some old → old.kind = .forgetPairing) (state : OperationState) :
    Advances operations (operations.modify operation ({ · with state := state })) :=
  .modify operation _ fun old present => .inr ⟨own old present,own old present⟩

theorem advances_cancelPendingConnect : Advances s.operations s.cancelPendingConnect.operations := by
  unfold cancelPendingConnect
  dsimp only
  split
  · exact .refl
  · exact .modify _ _ fun _ _ => .inl rfl

theorem disconnectStep_effects [DecidableEq Address] {stage : DisconnectStage}
    (ran : s.disconnectStep index stage = some next) : CallEffect s index (.disconnecting stage) next := by
  cases stage with
  | history =>
    cases Option.some.inj ran
    obtain ⟨⟨attempt,same,requests⟩,outside⟩ := s.cancelAttempt_requests
    rw [same]
    exact .proceeds s.state s.verifiedBondAddress s.lifecycleLock attempt s.operations s.pendingConnectOperation
      s.pendingDiscovery s.managerEvents _ .refl (.inl ⟨rfl,rfl⟩) requests .refl (.inl rfl) outside rfl (.inl rfl)
  | attempt number =>
    simp only [disconnectStep] at ran
    split at ran
    · cases Option.some.inj ran
      exact setCall_effect rfl rfl rfl (.inl rfl)
    · cases ran
  | client stage =>
    obtain ⟨⟨closed,rest⟩,closing,rfl⟩ := Option.map_eq_some_iff.mp ran
    rcases closeClient_cases closing with ⟨rfl,rfl,unlocked⟩ | ⟨client,rfl,rfl,unlocked,current,rfl⟩
    · refine .proceeds _ _ none s.attempt _ none _ _ .returned ?_ ?_ (.inl rfl) ?_ (.inr rfl) rfl rfl (.inl rfl)
      · exact ⟨rfl,rfl,nofun,nofun⟩
      · exact released (by rintro rfl; rfl) (by rintro rfl; rfl) unlocked
      · exact advances_cancelPendingConnect
    · exact .closes client _ rfl unlocked current rfl rfl rfl

theorem resetStep_effects [DecidableEq Address] {selected : Address} {operation : OperationId} {stage : Reset}
    (own : ∀ old, s.operations[operation]? = some old → old.kind = .forgetPairing)
    (ran : s.resetStep host index selected operation stage answer = some next) :
    CallEffect s index (.resetting selected operation stage) next := by
  -- The operation of the reset is the only one that changes.
  have advances : ∀ state, Advances s.operations (s.setOperation operation state).operations :=
    fun state => advances_setOperation own state
  unfold resetStep at ran
  dsimp only at ran
  split at ran
  · have failed : Advances s.operations ((s.setOperation operation .running).setOperation operation .failed).operations := by
      refine (advances .running).trans (advances_setOperation ?_ .failed)
      intro old present
      obtain ⟨first,found,rfl⟩ := Option.map_eq_some_iff.mp (by simpa [setOperation] using present)
      exact own first found
    split at ran
    · split at ran <;> cases Option.some.inj ran
      · exact .proceeds _ _ _ _ _ _ _ _ _ .refl (.inl ⟨rfl,rfl⟩) (.inl rfl) failed (.inl rfl) rfl rfl (.inl rfl)
      · exact .proceeds _ _ _ _ _ _ _ _ _ .refl (.inl ⟨rfl,rfl⟩) (.inl rfl) (advances .running) (.inl rfl) rfl rfl (.inr (.inl rfl))
    · cases Option.some.inj ran
      exact .proceeds _ _ _ _ _ _ _ _ _ .refl (.inl ⟨rfl,rfl⟩) (.inl rfl) failed (.inl rfl) rfl rfl (.inl rfl)
  · cases Option.some.inj ran
    exact setCall_effect rfl rfl rfl (.inr rfl)
  · cases Option.some.inj ran
    exact setCall_effect rfl rfl rfl (.inr rfl)
  · rename_i client stage
    obtain ⟨⟨closed,rest⟩,closing,rfl⟩ := Option.map_eq_some_iff.mp ran
    rcases closeClient_cases closing with ⟨rfl,rfl,unlocked⟩ | ⟨client,rfl,rfl,unlocked,current,rfl⟩
    · refine .proceeds _ _ none _ _ _ _ _ _ .refl ?_ (.inl rfl) .refl (.inl rfl) rfl rfl (.inr (.inl rfl))
      exact released (by rintro rfl; rfl) (by rintro rfl; rfl) unlocked
    · exact .closes client _ rfl unlocked current rfl rfl rfl
  · split at ran
    · split at ran <;> cases Option.some.inj ran
      · exact .resets _ selected operation _ _ rfl ⟨rfl,rfl,nofun,nofun⟩
      · exact setCall_effect rfl rfl rfl (.inr rfl)
    · cases Option.some.inj ran
      exact setCall_effect rfl rfl rfl (.inr rfl)
  · cases Option.some.inj ran
    exact setCall_effect rfl rfl rfl (.inr rfl)
  · rename_i stage
    obtain ⟨⟨closed,rest⟩,closing,rfl⟩ := Option.map_eq_some_iff.mp ran
    rcases closeClient_cases closing with ⟨rfl,rfl,unlocked⟩ | ⟨client,rfl,rfl,unlocked,current,rfl⟩
    · refine .proceeds _ _ none _ _ _ _ _ _ ⟨rfl,rfl,nofun,nofun⟩ ?_ (.inl rfl) (advances .failed) (.inl rfl) rfl rfl (.inl rfl)
      exact released (by rintro rfl; rfl) (by rintro rfl; rfl) unlocked
    · exact .closes client _ rfl unlocked current rfl rfl rfl
  · cases Option.some.inj ran
    exact .proceeds _ _ _ _ _ _ _ _ _ .refl (.inl ⟨rfl,rfl⟩) (.inl rfl) (advances .succeeded) (.inl rfl) rfl rfl (.inl rfl)
  · cases ran

theorem callStep_effects [DecidableEq Address] (own : s.ResetsOwn call) (ran : s.callStep host index call answer = some next) :
    CallEffect s index call next := by
  unfold callStep at ran
  split at ran
  · cases Option.some.inj ran
    exact setCall_effect rfl rfl rfl (.inl rfl)
  · rename_i selected credential fromRegistry stage
    obtain ⟨⟨closed,rest⟩,closing,rfl⟩ := Option.map_eq_some_iff.mp ran
    rcases closeClient_cases closing with ⟨rfl,rfl,unlocked⟩ | ⟨client,rfl,rfl,unlocked,current,rfl⟩
    · exact .selects selected credential fromRegistry stage rfl unlocked
    · exact .closes client _ rfl unlocked current rfl rfl rfl
  · exact disconnectStep_effects ran
  · cases Option.some.inj ran
    exact .proceeds _ _ _ _ _ _ _ _ _ .refl (.inl ⟨rfl,rfl⟩) (.inl rfl) (.append _ rfl) (.inl rfl) rfl rfl
      (.inr (.inr ⟨rfl,_,rfl,rfl⟩))
  · rename_i _ selected operation stage
    refine resetStep_effects (fun old present => ?_) ran
    obtain ⟨known,found,kind⟩ := own operation rfl
    cases Option.some.inj (present.symm.trans found)
    exact kind
  · rename_i generation devices
    cases Option.some.inj ran
    unfold scanned
    split
    · exact .proceeds _ _ _ _ _ _ _ _ _ .refl (.inl ⟨rfl,rfl⟩) (.inl rfl) .refl (.inl rfl) rfl rfl
        (.inl rfl)
    · exact setCall_effect rfl rfl rfl (.inl rfl)
  · cases Option.some.inj ran
    exact setCall_effect rfl rfl rfl (.inl rfl)
  · cases ran

end State

inductive EnvironmentEffect (s : State Address Passkey) : State Address Passkey → Prop where
  | moves (poll : Poll) (events : List (LifecycleEvent Address)) :
      EnvironmentEffect s { s with poll := poll, managerEvents := events }

inductive StepEffect [DecidableEq Address] (host : Host Address) (s : State Address Passkey) :
    State.Action Address Passkey → State Address Passkey → Prop where
  | connects : SelectionEffect host s selected passkey .connect after →
      StepEffect host s (.connect selected passkey) after
  | pairs : SelectionEffect host s selected passkey .pair after → StepEffect host s (.pair selected passkey) after
  | reconnects : s.state.target = some target → SelectionEffect host s target none .connect after →
      StepEffect host s .reconnect after
  | disconnects : StepEffect host s .disconnect s.disconnect
  | forgets : s.state.ready → s.sameTarget host selected →
      StepEffect host s (.forgetPairing selected) (s.beginForgetting selected)
  | scans : StepEffect host s .scan (s.suspend (.scanning s.targetGeneration))
  | calls : s.calls[index]? = some call → CallEffect s index call after →
      StepEffect host s (.call index answer) after
  | manages : Effects host s after → StepEffect host s (.manager answer) after
  | takes : Taken host s answer middle → Effects host middle after → StepEffect host s (.manager answer) after
  | commits (attempt : Attempt Address Passkey) (bootId : BootId) (saved : Bool) : s.Verified attempt bootId →
      StepEffect host s (.manager answer) (s.taken.commit host attempt bootId saved)
  | attempts : s.attempt = some attempt → AttemptEffect s attempt after →
      StepEffect host s (.attempt answer) after
  | polls : EnvironmentEffect s after → StepEffect host s (.poll answer) after
  | breaks : StepEffect host s (.linkDown client) (s.linkDown client)
  | notices : EnvironmentEffect s after → StepEffect host s (.transportDisconnected client) after

namespace State

theorem pollStep_effects {poll : Poll} {answer : Answer Address} (ran : s.pollStep poll answer = some next) :
    EnvironmentEffect s next := by
  unfold pollStep at ran
  split at ran
  · split at ran
    · cases Option.some.inj ran
      exact .moves _ s.managerEvents
    · cases ran
  · split at ran
    · cases Option.some.inj ran
      exact .moves _ s.managerEvents
    · split at ran
      · cases Option.some.inj ran
        exact .moves _ s.managerEvents
      · split at ran <;> cases Option.some.inj ran <;> exact .moves _ s.managerEvents
  · cases Option.some.inj ran
    exact .moves _ s.managerEvents
  · cases Option.some.inj ran
    exact .moves _ s.managerEvents
  · cases Option.some.inj ran
    exact .moves _ _
  · cases ran

theorem transportDisconnected_effects {client : ClientId} (ran : s.transportDisconnected client = some next) :
    EnvironmentEffect s next := by
  unfold transportDisconnected at ran
  split at ran
  · cases ran
  · split at ran
    · cases ran
    · cases Option.some.inj ran
      exact .moves s.poll _

theorem step_effects [DecidableEq Address] (coupled : s.Coupled)
    (own : ∀ (index : Nat) (call : Call Address Passkey), s.calls[index]? = some call → s.ResetsOwn call)
    (ran : step host s action = some next) : StepEffect host s action next := by
  cases action with
  | connect => exact .connects (beginConnection_effects ran)
  | pair => exact .pairs (beginConnection_effects ran)
  | reconnect =>
    obtain ⟨target,known,began⟩ := Option.bind_eq_some_iff.mp ran
    exact .reconnects known (beginConnection_effects began)
  | disconnect =>
    cases Option.some.inj ran
    exact .disconnects
  | forgetPairing selected =>
    simp only [step,forgetPairing] at ran
    split at ran
    · rename_i allowed
      cases Option.some.inj ran
      exact .forgets allowed.1 allowed.2
    · cases ran
  | scan =>
    simp only [step,scan] at ran
    split at ran
    · cases Option.some.inj ran
      exact .scans
    · cases ran
  | call index answer =>
    obtain ⟨call,known,stepped⟩ := Option.bind_eq_some_iff.mp ran
    exact .calls known (callStep_effects (own index call known) stepped)
  | manager answer =>
    rcases managerStep_effects coupled ran with
      managed | ⟨middle,taken,managed⟩ | ⟨attempt,bootId,saved,verified,rfl⟩
    · exact .manages managed
    · exact .takes taken managed
    · exact .commits attempt bootId saved verified
  | attempt answer =>
    obtain ⟨attempt,known,stepped⟩ := Option.bind_eq_some_iff.mp ran
    exact .attempts known (attemptStep_effects stepped)
  | poll => exact .polls (pollStep_effects ran)
  | linkDown =>
    cases Option.some.inj ran
    exact .breaks
  | transportDisconnected => exact .notices (transportDisconnected_effects ran)

end State

end Thermometer.Controller
