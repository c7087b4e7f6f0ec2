import Thermometer.Client.ConnectedSoundness
import Thermometer.Client.RejectedCredential

-- Which attempt settles a connect or pair operation. The pending operation, the target
-- and its passkey are single slots, and the manager does not look at them again when it
-- is handed the outcome of an attempt.
namespace Thermometer.Controller

variable {Address Passkey : Type}
  {host : Host Address} {s next : State Address Passkey}

-- The attempt was started for the operation: after the call, to its device, with its
-- credential.
structure Attempt.Serves (attempt : Attempt Address Passkey) (host : Host Address) (index : OperationId)
    (operation : Operation Address Passkey) : Prop where
  device : host.lower attempt.target = host.lower operation.address
  passkey : attempt.passkey = operation.credential
  later : index < attempt.begunOperations

theorem Attempt.Serves.marked {attempt : Attempt Address Passkey} {operation : Operation Address Passkey}
    (serves : attempt.Serves host index operation) {state : OperationState} :
    attempt.Serves host index { operation with state := state } := ⟨serves.device,serves.passkey,serves.later⟩

structure Attempt.Continues (attempt before : Attempt Address Passkey) : Prop where
  target : attempt.target = before.target
  generation : attempt.generation = before.generation
  passkey : attempt.passkey = before.passkey
  begun : attempt.begunOperations = before.begunOperations

def Operation.request (operation : Operation Address Passkey) : Operation Address Passkey :=
  { operation with state := .queued }

theorem Operation.same_request {left right : Operation Address Passkey} (same : left.request = right.request) :
    left.kind = right.kind ∧ left.address = right.address ∧ left.credential = right.credential := by
  cases left
  cases right
  simpa [Operation.request] using same

def Call.unpairs : Call Address Passkey → Bool
  | .resetting _ _ (.unpairing _) => true
  | _ => false

namespace State

-- What the calls under way will select once they have closed the client of the device they leave.
def selections (s : State Address Passkey) : List (Address × Passkey) := s.calls.filterMap Call.selection

-- The attempt whose verification or failure the manager handles next.
def ended (s : State Address Passkey) : Option (Attempt Address Passkey × Option ConnectionError) :=
  match s.manager with
  | .readingBoot attempt _ => some (attempt,none)
  | _ => s.attempt.bind fun attempt =>
    match attempt.stage with
    | .finished (.verified _) => some (attempt,none)
    | .finished (.ended (.failed error)) => some (attempt,some error)
    | _ => none

def overtaken (s : State Address Passkey) (attempt : Attempt Address Passkey) : Bool :=
  attempt.generation != s.targetGeneration || !s.selections.isEmpty

-- No attempt that a later call has overtaken settles an operation, or rejects a passkey.
def timely (s : State Address Passkey) : Bool :=
  match s.ended with
  | none => true
  | some (attempt,error) =>
    (error.isSome && !s.state.desiredConnected) ||
      (s.pendingConnectOperation.isNone || !s.overtaken attempt) &&
        (error != some .authentication || attempt.generation == s.targetGeneration)

def scanFails (s : State Address Passkey) (answer : Answer Address) : Bool :=
  match s.manager,answer with
  | .discovering _,.failed _ => true
  | _,_ => false

def lacksCredential (s : State Address Passkey) (host : Host Address) (selected : Address)
    (passkey : Option Passkey) : Bool :=
  match s.resolveCredential host selected passkey with
  | some (none,_) => true
  | _ => false

-- No call comes while an earlier one still closes the client of the device it leaves; and
-- while an operation is pending, no call lacks a credential, no reset unpairs and no scan
-- of the manager fails.
def undisputed (host : Host Address) (s : State Address Passkey) : Action Address Passkey → Bool
  | .connect selected passkey | .pair selected passkey =>
    s.selections.isEmpty && (s.pendingConnectOperation.isNone || !s.lacksCredential host selected passkey)
  | .reconnect =>
    s.selections.isEmpty &&
      (s.pendingConnectOperation.isNone || s.state.target.all fun target => !s.lacksCredential host target none)
  | .call index _ => s.pendingConnectOperation.isNone || s.calls[index]?.all fun call => !call.unpairs
  | .manager answer =>
    s.timely && (s.pendingConnectOperation.isNone ||
      !s.scanFails answer && (s.selections.isEmpty || s.targetPasskey.isSome && s.state.target.isSome))
  | _ => true

end State

-- Why an operation is marked: at once when the device was connected already, otherwise
-- for the outcome of an attempt of its own. `unsaved` is a verified attempt whose
-- credential the registry did not take.
inductive Settled (host : Host Address) (s : State Address Passkey) (index : OperationId)
    (operation : Operation Address Passkey) : Prop where
  | already : operation.state = .succeeded → index = s.operations.length → s.state.ready →
      s.Targets host operation.address → Settled host s index operation
  | verified (attempt : Attempt Address Passkey) (bootId : BootId) : operation.state = .succeeded →
      s.Verified attempt bootId → attempt.Serves host index operation → Settled host s index operation
  | failed (attempt : Attempt Address Passkey) (error : ConnectionError) : operation.state = .failed →
      s.attempt = some attempt → attempt.stage = .finished (.ended (.failed error)) →
      attempt.Serves host index operation → Settled host s index operation
  | unsaved (attempt : Attempt Address Passkey) (bootId : BootId) : operation.state = .failed →
      s.Verified attempt bootId → attempt.Serves host index operation → Settled host s index operation

def Marks (before after : List (Operation Address Passkey))
    (reason : OperationId → Operation Address Passkey → Prop) : Prop :=
  ∀ (index : Nat) (operation : Operation Address Passkey), after[index]? = some operation →
    operation.kind ≠ .forgetPairing → operation.state = .succeeded ∨ operation.state = .failed →
      before[index]? = some operation ∨ reason index operation

namespace Marks

variable {before after operations : List (Operation Address Passkey)}
  {reason : OperationId → Operation Address Passkey → Prop}

theorem refl : Marks operations operations reason := fun _ _ present _ _ => .inl present

theorem of_advances (advances : Advances before after) : Marks before after reason := by
  intro index operation present kind marked
  cases known : before[index]? with
  | none => exact absurd (advances.begun index operation present known) kind
  | some old =>
    obtain ⟨found,here,kept⟩ := advances.kept index old known
    cases Option.some.inj (present.symm.trans here)
    rcases kept with rfl | rfl | reset
    · exact .inl rfl
    · unfold State.cancelledOperation at marked ⊢
      split at marked
      · simp at marked
      · rename_i settled
        rw [if_neg settled]
        exact .inl rfl
    · exact absurd reset.2 kind

theorem append (begun : Operation Address Passkey)
    (own : begun.state = .succeeded ∨ begun.state = .failed → reason operations.length begun) :
    Marks operations (operations ++ [begun]) reason := by
  intro index operation present _ marked
  rcases Nat.lt_or_ge index operations.length with old | new
  · exact .inl (by rwa [List.getElem?_append_left old] at present)
  · rw [List.getElem?_append_right new] at present
    obtain ⟨place,same⟩ := List.getElem?_eq_some_iff.mp present
    have here : index = operations.length := by
      rw [List.length_singleton] at place
      omega
    subst here
    simp only [Nat.sub_self,List.getElem_cons_zero] at same
    subst same
    exact .inr (own marked)

theorem trans {middle : List (Operation Address Passkey)} (first : Marks before middle reason)
    (second : Marks middle after reason) : Marks before after reason := by
  intro index operation present kind marked
  rcases second index operation present kind marked with old | new
  · exact first index operation old kind marked
  · exact .inr new

theorem settlePendingConnect (state : OperationState) (report : OperationId → Observation Address Passkey)
    (own : ∀ index operation, s.pendingConnectOperation = some index → s.operations[index]? = some operation →
      reason index { operation with state := state }) :
    Marks s.operations (s.settlePendingConnect state report).operations reason := by
  unfold State.settlePendingConnect
  dsimp only
  split
  · exact .refl
  · rename_i place pending
    intro index operation present _ _
    by_cases here : place = index
    · subst here
      obtain ⟨old,known,rfl⟩ := Option.map_eq_some_iff.mp (by simpa using present)
      exact .inr (own place old pending known)
    · exact .inl (by simpa [here] using present)

end Marks

namespace State

def Awaits (s : State Address Passkey) (index : OperationId) (operation : Operation Address Passkey) : Prop :=
  s.pendingConnectOperation = some index ∧ s.operations[index]? = some operation

def Runs (s : State Address Passkey) (attempt : Attempt Address Passkey) : Prop :=
  s.attempt = some attempt ∨ ∃ bootId, s.manager = .readingBoot attempt bootId

-- What the pending operation, the slots and the attempt have to do with each other. While
-- a call has still to select its device, the slots belong to the device that it leaves.
structure Attributed (s : State Address Passkey) (host : Host Address) : Prop where
  known : ∀ index, s.pendingConnectOperation = some index → ∃ operation, s.operations[index]? = some operation ∧
    operation.kind ≠ .forgetPairing ∧ operation.credential.isSome
  switching : ∀ index operation, s.Awaits index operation → ∀ selection ∈ s.selections,
    selection.1 = operation.address ∧ some selection.2 = operation.credential
  selected : ∀ index operation, s.Awaits index operation → s.selections = [] →
    s.targetPasskey = operation.credential ∧ s.Targets host operation.address
  inFlight : ∀ index operation attempt, s.Awaits index operation → s.selections = [] → s.Runs attempt →
    attempt.generation = s.targetGeneration → attempt.Serves host index operation
  remembered : ∀ index operation target, s.Awaits index operation → s.selections = [] →
    s.manager = .rediscovering target s.targetGeneration → host.lower target = host.lower operation.address

def KeepsRequests (before after : List (Operation Address Passkey)) : Prop :=
  ∀ (index : OperationId) (old : Operation Address Passkey), before[index]? = some old → old.kind ≠ .forgetPairing →
    ∃ operation, after[index]? = some operation ∧ operation.request = old.request

theorem KeepsRequests.refl (operations : List (Operation Address Passkey)) : KeepsRequests operations operations :=
  fun _ old present _ => ⟨old,present,rfl⟩

theorem KeepsRequests.append (operations more : List (Operation Address Passkey)) :
    KeepsRequests operations (operations ++ more) :=
  fun _ old present _ => ⟨old,by rw [List.getElem?_append_left (List.getElem?_eq_some_iff.mp present).1,present],rfl⟩

theorem KeepsRequests.of_advances {before after : List (Operation Address Passkey)} (advances : Advances before after) :
    KeepsRequests before after := by
  intro index old present connects
  obtain ⟨operation,found,kept⟩ := advances.kept index old present
  refine ⟨operation,found,?_⟩
  rcases kept with rfl | rfl | ⟨resets,_⟩
  · rfl
  · unfold cancelledOperation
    split <;> rfl
  · exact absurd resets connects

theorem selections_resumed {index : Nat} {call after : Call Address Passkey} (known : s.calls[index]? = some call)
    (same : after.selection = call.selection) : (s.calls.set index after).filterMap Call.selection = s.selections := by
  have kept : (s.calls.set index after).map Call.selection = s.calls.map Call.selection := by
    rw [List.map_set,same]
    refine List.ext_getElem? fun place => ?_
    by_cases here : index = place
    · subst here
      have inside := (List.getElem?_eq_some_iff.mp known).1
      rw [List.getElem?_set_self (by simpa using inside),List.getElem?_map,known]
      rfl
    · rw [List.getElem?_set_ne here]
  have through : ∀ calls : List (Call Address Passkey),
      calls.filterMap Call.selection = (calls.map Call.selection).filterMap id := by
    intro calls
    rw [List.filterMap_map]
    rfl
  rw [selections,through,through,kept]

theorem selections_suspended {call : Call Address Passkey} (passive : call.selection = none) :
    (s.calls ++ [call]).filterMap Call.selection = s.selections := by
  simp [selections,passive]

theorem ended_verified (coupled : s.Coupled) {attempt : Attempt Address Passkey} {bootId : BootId}
    (verified : s.Verified attempt bootId) : s.ended = some (attempt,none) := by
  rcases verified with ⟨known,finished⟩ | waiting
  · have attempting : s.manager = .attempting := coupled (by simp [known])
    simp [ended,attempting,known,finished]
  · simp [ended,waiting]

theorem ended_failed (coupled : s.Coupled) {attempt : Attempt Address Passkey} {error : ConnectionError}
    (known : s.attempt = some attempt) (finished : attempt.stage = .finished (.ended (.failed error))) :
    s.ended = some (attempt,some error) := by
  have attempting : s.manager = .attempting := coupled (by simp [known])
  simp [ended,attempting,known,finished]

theorem runs_nothing (idle : s.attempt = none) (elsewhere : ∀ attempt bootId, s.manager ≠ .readingBoot attempt bootId)
    (attempt : Attempt Address Passkey) : ¬ s.Runs attempt := by
  rintro (known | ⟨bootId,waiting⟩)
  · exact nomatch idle.symm.trans known
  · exact elsewhere attempt bootId waiting

theorem Verified.runs {attempt : Attempt Address Passkey} {bootId : BootId} (verified : s.Verified attempt bootId) :
    s.Runs attempt :=
  verified.elim (fun running => .inl running.1) fun waiting => .inr ⟨bootId,waiting⟩

theorem Runs.generation (consistent : s.Consistent) {attempt : Attempt Address Passkey} (running : s.Runs attempt) :
    attempt.generation ≤ s.targetGeneration := by
  rcases running with known | ⟨bootId,waiting⟩
  · exact consistent.attemptGeneration attempt known
  · exact consistent.bootGeneration attempt bootId waiting

-- The manager can only fail an operation by looking something up without these.
def Armed (s : State Address Passkey) : Prop :=
  s.pendingConnectOperation.isSome → s.targetPasskey ≠ none ∧ s.state.target ≠ none

theorem Armed.unclaimed (armed : s.Armed) (missing : s.targetPasskey = none ∨ s.state.target = none) :
    s.pendingConnectOperation = none := by
  cases pending : s.pendingConnectOperation with
  | none => rfl
  | some index =>
    obtain ⟨passkey,target⟩ := armed (by rw [pending]; rfl)
    exact (missing.elim passkey target).elim

theorem Armed.of_unclaimed (vacant : s.pendingConnectOperation = none) : s.Armed := fun pending => by
  rw [vacant] at pending
  cases pending

theorem handleFailure_armed (armed : s.Armed) {attempt : Option (Attempt Address Passkey)} {error : ConnectionError} :
    (s.handleFailure attempt error).Armed := by
  rcases handleFailure_cases attempt error with ⟨_,same⟩ | ⟨_,_,same⟩ | ⟨_,_,same⟩ <;> rw [same]
  · exact armed
  · exact .of_unclaimed rfl
  · exact .of_unclaimed rfl

namespace Attributed

theorem unclaimed (vacant : s.pendingConnectOperation = none) : s.Attributed host := by
  have nothing : ∀ (index : OperationId) (operation : Operation Address Passkey), ¬ s.Awaits index operation :=
    fun index operation awaits => nomatch vacant.symm.trans awaits.1
  exact ⟨fun index pending => (nomatch vacant.symm.trans pending),fun index operation awaits => absurd awaits (nothing _ _),
    fun index operation awaits => absurd awaits (nothing _ _),fun index operation attempt awaits => absurd awaits (nothing _ _),
    fun index operation target awaits => absurd awaits (nothing _ _)⟩

theorem frame (attributed : s.Attributed host) (consistent : s.Consistent)
    (pending : next.pendingConnectOperation = s.pendingConnectOperation)
    (operations : KeepsRequests s.operations next.operations) (selections : next.selections = s.selections)
    (target : s.selections = [] → ∀ index, s.pendingConnectOperation = some index →
      next.targetPasskey = s.targetPasskey ∧ next.state.target.map host.lower = s.state.target.map host.lower)
    (generation : s.targetGeneration ≤ next.targetGeneration)
    (runs : ∀ attempt, next.Runs attempt → ∃ old, s.Runs old ∧ attempt.Continues old)
    (remembers : ∀ target generation, next.manager = .rediscovering target generation →
      s.manager = .rediscovering target generation) : next.Attributed host := by
  have awaited : ∀ index operation, next.Awaits index operation →
      ∃ old, s.Awaits index old ∧ operation.request = old.request := by
    rintro index operation ⟨waits,present⟩
    have before := pending.symm.trans waits
    obtain ⟨old,known,connects,_⟩ := attributed.known index before
    obtain ⟨kept,found,same⟩ := operations index old known connects
    cases Option.some.inj (present.symm.trans found)
    exact ⟨old,⟨before,known⟩,same⟩
  refine ⟨?_,?_,?_,?_,?_⟩
  · intro index waits
    obtain ⟨old,known,connects,supplied⟩ := attributed.known index (pending.symm.trans waits)
    obtain ⟨kept,found,same⟩ := operations index old known connects
    obtain ⟨kind,_,credential⟩ := Operation.same_request same
    exact ⟨kept,found,kind ▸ connects,credential ▸ supplied⟩
  · intro index operation awaits selection under
    obtain ⟨old,before,same⟩ := awaited index operation awaits
    obtain ⟨_,address,credential⟩ := Operation.same_request same
    rw [address,credential]
    exact attributed.switching index old before selection (selections ▸ under)
  · intro index operation awaits calm
    obtain ⟨old,before,same⟩ := awaited index operation awaits
    obtain ⟨_,address,credential⟩ := Operation.same_request same
    have steady := selections.symm.trans calm
    obtain ⟨passkey,device⟩ := attributed.selected index old before steady
    obtain ⟨kept,place⟩ := target steady index before.1
    rw [address,credential]
    exact ⟨kept.trans passkey,place.trans device⟩
  · intro index operation attempt awaits calm running current
    obtain ⟨old,before,same⟩ := awaited index operation awaits
    obtain ⟨_,address,credential⟩ := Operation.same_request same
    obtain ⟨earlier,ran,continues⟩ := runs attempt running
    have era : earlier.generation = s.targetGeneration := by
      have older := ran.generation consistent
      have newer := continues.generation.symm.trans current
      omega
    obtain ⟨device,passkey,later⟩ :=
      attributed.inFlight index old earlier before (selections.symm.trans calm) ran era
    exact ⟨by rw [continues.target,device,address],by rw [continues.passkey,passkey,credential],
      by rw [continues.begun]; exact later⟩
  · intro index operation place awaits calm waiting
    obtain ⟨old,before,same⟩ := awaited index operation awaits
    obtain ⟨_,address,_⟩ := Operation.same_request same
    have before' := remembers place _ waiting
    have older := consistent.targetGeneration place _ before'
    have era : next.targetGeneration = s.targetGeneration := by omega
    rw [address]
    exact attributed.remembered index old place before (selections.symm.trans calm) (era ▸ before')

-- Nothing is under way in the manager.
theorem rests (attributed : s.Attributed host) (consistent : s.Consistent)
    (pending : next.pendingConnectOperation = s.pendingConnectOperation) (operations : next.operations = s.operations)
    (selections : next.selections = s.selections) (passkey : next.targetPasskey = s.targetPasskey)
    (target : next.state.target = s.state.target) (generation : s.targetGeneration ≤ next.targetGeneration)
    (idle : next.attempt = none)
    (forgets : (∀ attempt bootId, next.manager ≠ .readingBoot attempt bootId) ∧
      ∀ target generation, next.manager ≠ .rediscovering target generation) : next.Attributed host :=
  attributed.frame consistent pending (operations ▸ .refl _) selections
    (fun _ _ _ => ⟨passkey,congrArg _ target⟩) generation
    (fun attempt running => absurd running (runs_nothing idle forgets.1 attempt))
    (fun target generation waiting => absurd waiting (forgets.2 target generation))

theorem failure (attributed : s.Attributed host) (consistent : s.Consistent) (idle : s.attempt = none)
    (attempt : Option (Attempt Address Passkey)) (error : ConnectionError) :
    (s.handleFailure attempt error).Attributed host := by
  rcases handleFailure_cases attempt error with ⟨_,same⟩ | ⟨_,_,same⟩ | ⟨_,_,same⟩ <;> rw [same]
  · exact attributed.rests consistent rfl rfl rfl rfl rfl (Nat.le_refl _) idle ⟨by rintro _ _ ⟨⟩,by rintro _ _ ⟨⟩⟩
  · exact unclaimed rfl
  · exact unclaimed rfl

theorem armed (attributed : s.Attributed host) (steady : s.selections = []) : s.Armed := by
  intro pending
  obtain ⟨index,waits⟩ := Option.isSome_iff_exists.mp pending
  obtain ⟨operation,known,_,supplied⟩ := attributed.known index waits
  obtain ⟨passkey,device⟩ := attributed.selected index operation ⟨waits,known⟩ steady
  refine ⟨fun missing => ?_,fun missing => ?_⟩
  · rw [← passkey,missing] at supplied
    cases supplied
  · rw [Targets,missing] at device
    cases device

theorem managerEffect (attributed : s.Attributed host) (armed : s.Armed) (consistent : s.Consistent)
    (effect : ManagerEffect host s next) : next.Attributed host ∧ next.Armed ∧ next.operations = s.operations := by
  cases effect with
  | moves state events number pending manager free rests keeps =>
    refine ⟨?_,?_,rfl⟩
    · exact attributed.rests consistent rfl rfl rfl rfl keeps.target (Nat.le_refl _) (consistent.free_idle free)
        (Manager.rests_forgets rests)
    · rw [Armed,keeps.target]
      exact armed
  | closes client manager free unlocked current holds =>
    refine ⟨?_,armed,rfl⟩
    exact attributed.rests consistent rfl rfl rfl rfl rfl (Nat.le_refl _) (consistent.free_idle free)
      (Manager.holdsLock_forgets holds)
  | closed holds =>
    refine ⟨?_,armed,rfl⟩
    exact attributed.rests consistent rfl rfl rfl rfl rfl (Nat.le_refl _) (consistent.holding_idle holds)
      ⟨by rintro _ _ ⟨⟩,by rintro _ _ ⟨⟩⟩
  | recalls target stored selected missing idle running found =>
    have vacant := armed.unclaimed (.inl missing)
    exact ⟨unclaimed vacant,.of_unclaimed vacant,rfl⟩
  | rediscovers target selected running =>
    have idle : s.attempt = none := consistent.coupled.idle (by simp [running])
    refine ⟨{ attributed with inFlight := ?_, remembered := ?_ },armed,rfl⟩
    · rintro index operation attempt _ _ (known | ⟨_,⟨⟩⟩)
      exact nomatch idle.symm.trans known
    · rintro index operation _ awaits steady ⟨⟩
      have device := (attributed.selected index operation awaits steady).2
      rw [Targets,selected] at device
      exact Option.some.inj device
  | refreshes target refreshed state waiting same updated desired left unready =>
    have idle : s.attempt = none := consistent.coupled.idle (by simp [waiting])
    refine ⟨attributed.frame consistent rfl (.refl _) rfl ?_ (Nat.le_refl _) ?_ (by rintro _ _ ⟨⟩),?_,rfl⟩
    · intro steady index waits
      obtain ⟨operation,known,_⟩ := attributed.known index waits
      have device := (attributed.selected index operation ⟨waits,known⟩ steady).2
      have remembered := attributed.remembered index operation target ⟨waits,known⟩ steady waiting
      exact ⟨rfl,by rw [updated,device,Option.map_some,same,remembered]⟩
    · rintro attempt (known | ⟨_,⟨⟩⟩)
      exact nomatch idle.symm.trans known
    · intro pending
      exact ⟨(armed pending).1,by simp [updated]⟩
  | starts target selected idle running =>
    refine ⟨{ attributed with inFlight := ?_, remembered := by rintro _ _ _ _ _ ⟨⟩ },armed,rfl⟩
    rintro index operation _ awaits steady (⟨⟨⟩⟩ | ⟨_,⟨⟩⟩) _
    obtain ⟨passkey,device⟩ := attributed.selected index operation awaits steady
    rw [Targets,selected] at device
    exact ⟨Option.some.inj device,passkey,(List.getElem?_eq_some_iff.mp awaits.2).1⟩
  | passes unselected idle running =>
    have vacant := armed.unclaimed (.inr unselected)
    exact ⟨unclaimed vacant,.of_unclaimed vacant,rfl⟩
  | discovers target credential phase credentialState unselected idle running found left =>
    have vacant := armed.unclaimed (.inr unselected)
    exact ⟨unclaimed vacant,.of_unclaimed vacant,rfl⟩
  | fails error idle running missing =>
    have vacant := armed.unclaimed missing
    have kept : (s.handleFailure none error).pendingConnectOperation = none ∧
        (s.handleFailure none error).operations = s.operations := by
      rcases handleFailure_cases (s := s) none error with ⟨_,same⟩ | ⟨_,_,same⟩ | ⟨_,_,same⟩ <;> rw [same]
      · exact ⟨vacant,rfl⟩
      all_goals
        refine ⟨rfl,?_⟩
        simp [rejectCredential,scheduleRetry,failPendingConnect,settlePendingConnect,transition,observe,vacant]
    exact ⟨unclaimed kept.1,.of_unclaimed kept.1,kept.2⟩

theorem taken (attributed : s.Attributed host) (armed : s.Armed) (consistent : s.Consistent)
    (taken : Taken host s answer next) : next.Attributed host ∧ next.Armed := by
  have alone : s.taken.Attributed host :=
    attributed.rests consistent rfl rfl rfl rfl rfl (Nat.le_refl _) rfl ⟨by rintro _ _ ⟨⟩,by rintro _ _ ⟨⟩⟩
  cases taken with
  | drops => exact ⟨alone,armed⟩
  | fails attempt error known finished =>
    exact ⟨alone.failure consistent.take rfl (some attempt) error,handleFailure_armed (s := s.taken) armed⟩
  | scans generation error idle waiting failed =>
    exact ⟨alone.failure consistent.take rfl none error,handleFailure_armed (s := s.taken) armed⟩
  | reads attempt bootId known finished =>
    refine ⟨attributed.frame consistent rfl (.refl _) rfl (fun _ _ _ => ⟨rfl,rfl⟩) (Nat.le_refl _) ?_ (by rintro _ _ ⟨⟩),armed⟩
    rintro other (⟨⟨⟩⟩ | ⟨_,⟨⟩⟩)
    exact ⟨attempt,.inl known,⟨rfl,rfl,rfl,rfl⟩⟩

theorem serves (attributed : s.Attributed host) {attempt : Attempt Address Passkey} (running : s.Runs attempt)
    (ended : s.ended = some (attempt,error)) (timely : s.timely) (wanted : error.isSome → s.state.desiredConnected)
    {index : OperationId} {operation : Operation Address Passkey} (awaits : s.Awaits index operation) :
    attempt.Serves host index operation := by
  have fresh : s.overtaken attempt = false := by
    have waits := awaits.1
    cases error with
    | none => simpa [State.timely,ended,waits] using timely
    | some error =>
      have desired := wanted rfl
      simp only [State.timely,ended,waits,desired,Option.isNone_some,Option.isSome_some,Bool.not_true,Bool.and_false,
        Bool.false_or,Bool.and_eq_true,Bool.not_eq_true'] at timely
      exact timely.1
  simp only [overtaken,Bool.or_eq_false_iff,bne_eq_false_iff_eq,Bool.not_eq_false',List.isEmpty_iff] at fresh
  exact attributed.inFlight index operation attempt awaits fresh.2 running fresh.1

theorem failure_marks (attempt : Option (Attempt Address Passkey)) (error : ConnectionError)
    {reason : OperationId → Operation Address Passkey → Prop}
    (own : s.state.desiredConnected → ∀ index operation, s.Awaits index operation →
      reason index { operation with state := .failed }) :
    Marks s.operations (s.handleFailure attempt error).operations reason := by
  rcases handleFailure_cases attempt error with ⟨_,same⟩ | ⟨desired,_,same⟩ | ⟨desired,_,same⟩ <;> rw [same]
  · exact .refl
  all_goals
    refine Marks.settlePendingConnect (s := s) .failed (.operationFailed · attempt) ?_
    exact fun index operation waits known => own desired index operation ⟨waits,known⟩

theorem taken_marks (attributed : s.Attributed host) (consistent : s.Consistent) (timely : s.timely)
    (scans : s.scanFails answer → s.pendingConnectOperation = none) (taken : Taken host s answer next) :
    Marks s.operations next.operations (Settled host s) := by
  cases taken with
  | drops => exact .refl
  | reads => exact .refl
  | fails attempt error known finished =>
    refine failure_marks (s := s.taken) (some attempt) error fun desired index operation awaits => ?_
    have served := attributed.serves (.inl known) (ended_failed consistent.coupled known finished) timely
      (fun _ => desired) awaits
    exact .failed attempt error rfl known finished served.marked
  | scans generation error idle waiting failed =>
    refine failure_marks (s := s.taken) none error fun _ index operation awaits => ?_
    have vacant := scans (by simp [scanFails,waiting,failed])
    exact nomatch vacant.symm.trans awaits.1

theorem commit [DecidableEq Address] (attributed : s.Attributed host) (consistent : s.Consistent)
    {attempt : Attempt Address Passkey} {bootId : BootId} {saved : Bool} :
    (s.taken.commit host attempt bootId saved).Attributed host := by
  rcases commit_cases attempt bootId saved with ⟨key,passkey,valid,known,same⟩ | same <;> rw [same]
  · exact unclaimed rfl
  · have recorded : { s.taken with lastBootId := some bootId }.Attributed host :=
      attributed.rests consistent rfl rfl rfl rfl rfl (Nat.le_refl _) rfl ⟨by rintro _ _ ⟨⟩,by rintro _ _ ⟨⟩⟩
    exact recorded.failure (consistent.take.frame rfl rfl rfl rfl rfl rfl (Nat.le_refl _) .refl) rfl (some attempt) .other

theorem commit_marks [DecidableEq Address] (attributed : s.Attributed host) (consistent : s.Consistent) (timely : s.timely)
    {attempt : Attempt Address Passkey} {bootId : BootId} (verified : s.Verified attempt bootId) (saved : Bool) :
    Marks s.operations (s.taken.commit host attempt bootId saved).operations (Settled host s) := by
  have served : ∀ index operation, s.Awaits index operation → attempt.Serves host index operation :=
    fun index operation => attributed.serves verified.runs (ended_verified consistent.coupled verified) timely nofun
  rcases commit_cases attempt bootId saved with ⟨key,passkey,valid,known,same⟩ | same <;> rw [same]
  · refine Marks.settlePendingConnect (s := s) .succeeded (.operationSucceeded · (some attempt)) ?_
    exact fun index operation waits known => .verified attempt bootId rfl verified (served index operation ⟨waits,known⟩).marked
  · refine failure_marks (s := { s.taken with lastBootId := some bootId }) (some attempt) .other ?_
    exact fun _ index operation awaits => .unsaved attempt bootId rfl verified (served index operation awaits).marked

theorem continues (attributed : s.Attributed host) (consistent : s.Consistent) {attempt after : Attempt Address Passkey}
    (known : s.attempt = some attempt) (continued : next.attempt = some after) (same : after.Continues attempt)
    (manager : next.manager = s.manager) (pending : next.pendingConnectOperation = s.pendingConnectOperation)
    (operations : next.operations = s.operations) (calls : next.calls = s.calls)
    (passkey : next.targetPasskey = s.targetPasskey) (target : next.state.target = s.state.target)
    (generation : next.targetGeneration = s.targetGeneration) :
    next.Attributed host ∧ next.operations = s.operations := by
  have attempting : next.manager = .attempting := manager.trans (consistent.coupled (by simp [known]))
  refine ⟨attributed.frame consistent pending (operations ▸ .refl _) (congrArg (List.filterMap Call.selection) calls)
    (fun _ _ _ => ⟨passkey,congrArg _ target⟩) (Nat.le_of_eq generation.symm) ?_ ?_,operations⟩
  · rintro other (present | ⟨bootId,waiting⟩)
    · cases Option.some.inj (continued.symm.trans present)
      exact ⟨attempt,.inl known,same⟩
    · exact nomatch attempting.symm.trans waiting
  · exact fun target generation waiting => nomatch attempting.symm.trans waiting

theorem attemptEffect (attributed : s.Attributed host) (consistent : s.Consistent) {attempt : Attempt Address Passkey}
    (known : s.attempt = some attempt) (effect : AttemptEffect s attempt next) :
    next.Attributed host ∧ next.operations = s.operations := by
  cases effect with
  | begins state stage created unlocked keeps =>
    exact attributed.continues consistent known rfl ⟨rfl,rfl,rfl,rfl⟩ rfl rfl rfl rfl rfl keeps.target rfl
  | bonds state bond pairing keeps =>
    exact attributed.continues consistent known rfl ⟨rfl,rfl,rfl,rfl⟩ rfl rfl rfl rfl rfl keeps.target rfl
  | opens state client bootId connecting mine keeps =>
    exact attributed.continues consistent known rfl ⟨rfl,rfl,rfl,rfl⟩ rfl rfl rfl rfl rfl keeps.target rfl
  | _ => exact attributed.continues consistent known rfl ⟨rfl,rfl,rfl,rfl⟩ rfl rfl rfl rfl rfl rfl rfl

theorem begun (attributed : s.Attributed host) (kind : OperationKind) (selected : Address) (credential : Passkey) :
    (s.beginOperation kind selected credential).operations[s.operations.length]? =
      some ⟨kind,.running,selected,some credential⟩ := by
  unfold beginOperation cancelPendingConnect newOperation
  dsimp only
  split
  · simp
  · rename_i place pending
    obtain ⟨old,known,_⟩ := attributed.known place pending
    have apart : place ≠ s.operations.length := Nat.ne_of_lt (List.getElem?_eq_some_iff.mp known).1
    simp [apart]

theorem begun_marks (kind : OperationKind) (selected : Address) (credential : Passkey)
    {reason : OperationId → Operation Address Passkey → Prop} :
    Marks s.operations (s.beginOperation kind selected credential).operations reason := by
  have started : Marks s.operations (s.newOperation kind .running selected (some credential)).operations reason :=
    .append _ fun marked => by rcases marked with marked | marked <;> cases marked
  exact started.trans (.of_advances advances_cancelPendingConnect)

theorem claims (attributed : s.Attributed host) (consistent : s.Consistent) {selected : Address} {credential : Passkey}
    (connects : kind ≠ .forgetPairing) (pending : next.pendingConnectOperation = some s.operations.length)
    (operations : next.operations = (s.beginOperation kind selected credential).operations)
    (selections : ∀ selection ∈ next.selections, selection = (selected,credential))
    (attempt : next.attempt = s.attempt) (manager : next.manager = s.manager)
    (selects : next.selections = [] → next.targetPasskey = some credential ∧ next.state.target = some selected ∧
      s.targetGeneration < next.targetGeneration) : next.Attributed host := by
  have here := attributed.begun kind selected credential
  rw [← operations] at here
  have only : ∀ index operation, next.Awaits index operation →
      index = s.operations.length ∧ operation = ⟨kind,.running,selected,some credential⟩ := by
    rintro index operation ⟨waits,present⟩
    cases Option.some.inj (pending.symm.trans waits)
    exact ⟨rfl,Option.some.inj (present.symm.trans here)⟩
  refine ⟨?_,?_,?_,?_,?_⟩
  · intro index waits
    cases Option.some.inj (pending.symm.trans waits)
    exact ⟨_,here,connects,rfl⟩
  · intro index operation awaits selection under
    obtain ⟨_,rfl⟩ := only index operation awaits
    rw [selections selection under]
    exact ⟨rfl,rfl⟩
  · intro index operation awaits steady
    obtain ⟨_,rfl⟩ := only index operation awaits
    obtain ⟨passkey,target,_⟩ := selects steady
    exact ⟨passkey,by rw [Targets,target]; rfl⟩
  · intro index operation known awaits steady running current
    have newer := (selects steady).2.2
    have before : s.Runs known := by
      rw [Runs,← attempt,← manager]
      exact running
    have older := before.generation consistent
    omega
  · intro index operation target awaits steady waiting
    have newer := (selects steady).2.2
    have older := consistent.targetGeneration target _ (manager.symm.trans waiting)
    omega

theorem selectionEffect [DecidableEq Address] (attributed : s.Attributed host) (consistent : s.Consistent)
    {selected : Address} (steady : s.selections = []) (connects : kind ≠ .forgetPairing)
    (supplied : s.pendingConnectOperation = none ∨ s.lacksCredential host selected passkey = false)
    (effect : SelectionEffect host s selected passkey kind next) :
    next.Attributed host ∧ Marks s.operations next.operations (Settled host s) := by
  cases effect with
  | already credential ready same =>
    have device : s.Targets host selected := by simpa [sameTarget,Targets] using same
    refine ⟨?_,.append _ fun _ => .already rfl rfl ready device⟩
    exact attributed.frame consistent rfl (.append _ _) rfl (fun _ _ _ => ⟨rfl,rfl⟩) (Nat.le_refl _)
      (fun attempt running => ⟨attempt,running,⟨rfl,rfl,rfl,rfl⟩⟩) (fun _ _ => id)
  | refused missing found =>
    have lacking : s.lacksCredential host selected passkey = true := by
      simp [lacksCredential,resolveCredential,missing,found]
    exact ⟨unclaimed (supplied.resolve_right (by simp [lacking])),.refl⟩
  | switches credential fromRegistry source connected other =>
    have only : ((s.beginOperation kind selected credential).switchTarget selected credential fromRegistry).selections =
        s.selections ++ [(selected,credential)] := List.filterMap_append
    refine ⟨?_,begun_marks kind selected credential⟩
    refine attributed.claims consistent connects rfl rfl ?_ rfl rfl ?_
    · rw [only,steady]
      exact fun selection under => List.mem_singleton.mp under
    · rw [only,steady]
      intro calm
      cases calm
  | selects credential fromRegistry source =>
    have only : ((s.beginOperation kind selected credential).select selected credential fromRegistry).selections = [] := steady
    refine ⟨?_,begun_marks kind selected credential⟩
    refine attributed.claims consistent connects rfl rfl ?_ rfl rfl fun _ => ⟨rfl,rfl,Nat.lt_succ_self _⟩
    rw [only]
    intro selection under
    cases under

theorem callEffect [DecidableEq Address] (attributed : s.Attributed host) (consistent : s.Consistent) {index : Nat}
    {call : Call Address Passkey} (known : s.calls[index]? = some call)
    (claimed : s.pendingConnectOperation = none ∨ call.unpairs = false) (effect : CallEffect s index call next) :
    next.Attributed host ∧ Marks s.operations next.operations (Settled host s) := by
  cases effect with
  | proceeds state bond lock attempt operations pending discovery events after keeps released requests advances
      settled outside selection reset =>
    refine ⟨?_,.of_advances advances⟩
    rcases settled with same | vacant
    · refine attributed.frame consistent same (.of_advances advances) (selections_resumed known selection)
        (fun _ _ _ => ⟨rfl,congrArg _ keeps.target⟩) (Nat.le_refl _) ?_ (fun _ _ => id)
      rintro other (continued | waiting)
      · obtain ⟨old,present,same,_⟩ := Consistent.requested requests continued
        obtain ⟨_,target,generation,passkey,_,begun⟩ := Attempt.same_identity same
        exact ⟨old,.inl present,⟨target,generation,passkey,begun⟩⟩
      · exact ⟨other,.inr waiting,⟨rfl,rfl,rfl,rfl⟩⟩
    · exact unclaimed vacant
  | closes client after entering unlocked current holding selection reset =>
    refine ⟨?_,.refl⟩
    exact attributed.frame consistent rfl (.refl _) (selections_resumed known selection) (fun _ _ _ => ⟨rfl,rfl⟩)
      (Nat.le_refl _) (fun attempt running => ⟨attempt,running,⟨rfl,rfl,rfl,rfl⟩⟩) (fun _ _ => id)
  | selects selected credential fromRegistry stage switching entering =>
    have under : (selected,credential) ∈ s.selections :=
      List.mem_filterMap.mpr ⟨call,List.mem_of_getElem? known,by rw [switching]; rfl⟩
    refine ⟨⟨attributed.known,?_,?_,?_,?_⟩,.refl⟩
    · intro index operation awaits selection later
      obtain ⟨other,present,same⟩ := List.mem_filterMap.mp later
      rcases List.mem_or_eq_of_mem_set present with old | rfl
      · exact attributed.switching index operation awaits selection (List.mem_filterMap.mpr ⟨other,old,same⟩)
      · cases same
    · intro index operation awaits _
      obtain ⟨address,passkey⟩ := attributed.switching index operation awaits (selected,credential) under
      exact ⟨passkey,congrArg (some ∘ host.lower) address⟩
    · intro index operation attempt awaits _ running current
      have older := Runs.generation consistent running
      have newer : attempt.generation = s.targetGeneration + 1 := current
      omega
    · intro index operation target awaits _ waiting
      have older := consistent.targetGeneration target (s.targetGeneration + 1) waiting
      omega
  | resets key selected operation client state resetting keeps =>
    refine ⟨unclaimed (claimed.resolve_right ?_),.refl⟩
    rw [resetting]
    exact nofun

theorem effects (attributed : s.Attributed host) (armed : s.Armed) (consistent : s.Consistent)
    (effects : Effects host s next) : next.Attributed host ∧ next.operations = s.operations := by
  obtain ⟨kept,_,same⟩ := consistent.carry (fun after => after.Attributed host ∧ after.Armed ∧ after.operations = s.operations)
    (fun _ _ consistent ⟨attributed,armed,same⟩ effect =>
      have ⟨kept,held,unchanged⟩ := attributed.managerEffect armed consistent effect
      ⟨kept,held,unchanged.trans same⟩)
    ⟨attributed,armed,rfl⟩ effects
  exact ⟨kept,same⟩

theorem managing (attributed : s.Attributed host) (allowed : s.undisputed host (.manager answer)) :
    s.timely ∧ (s.scanFails answer → s.pendingConnectOperation = none) ∧ s.Armed := by
  simp only [undisputed,Bool.and_eq_true,Bool.or_eq_true,Option.isNone_iff_eq_none,Bool.not_eq_true',List.isEmpty_iff]
    at allowed
  obtain ⟨timely,unclaimed | ⟨scan,steady | ⟨passkey,target⟩⟩⟩ := allowed
  · exact ⟨timely,fun _ => unclaimed,.of_unclaimed unclaimed⟩
  · exact ⟨timely,fun fails => by simp [scan] at fails,attributed.armed steady⟩
  · exact ⟨timely,fun fails => by simp [scan] at fails,
      fun _ => ⟨Option.isSome_iff_ne_none.mp passkey,Option.isSome_iff_ne_none.mp target⟩⟩

theorem step [DecidableEq Address] (attributed : s.Attributed host) (consistent : s.Consistent)
    (allowed : s.undisputed host action) (ran : State.step host s action = some next) :
    next.Attributed host ∧ Marks s.operations next.operations (Settled host s) := by
  cases step_effects consistent.coupled consistent.resets ran with
  | connects effect =>
    simp only [undisputed,Bool.and_eq_true,List.isEmpty_iff] at allowed
    refine attributed.selectionEffect consistent allowed.1 ?_ (by simpa using allowed.2) effect
    exact nofun
  | pairs effect =>
    simp only [undisputed,Bool.and_eq_true,List.isEmpty_iff] at allowed
    refine attributed.selectionEffect consistent allowed.1 ?_ (by simpa using allowed.2) effect
    exact nofun
  | reconnects selected effect =>
    simp only [undisputed,Bool.and_eq_true,List.isEmpty_iff] at allowed
    refine attributed.selectionEffect consistent allowed.1 ?_ (by simpa [selected] using allowed.2) effect
    exact nofun
  | disconnects =>
    exact ⟨attributed.frame consistent rfl (.refl _) (selections_suspended rfl) (fun _ _ _ => ⟨rfl,rfl⟩) (Nat.le_succ _)
      (fun attempt running => ⟨attempt,running,⟨rfl,rfl,rfl,rfl⟩⟩) (fun _ _ => id),.refl⟩
  | forgets ready same =>
    refine ⟨attributed.frame consistent rfl (.refl _) (selections_suspended rfl) (fun _ _ _ => ⟨rfl,?_⟩) (Nat.le_succ _)
      (fun attempt running => ⟨attempt,running,⟨rfl,rfl,rfl,rfl⟩⟩) (fun _ _ => id),.refl⟩
    exact (by simpa [sameTarget] using same : s.state.target.map host.lower = some (host.lower _)).symm
  | scans =>
    exact ⟨attributed.frame consistent rfl (.refl _) (selections_suspended rfl) (fun _ _ _ => ⟨rfl,rfl⟩) (Nat.le_refl _)
      (fun attempt running => ⟨attempt,running,⟨rfl,rfl,rfl,rfl⟩⟩) (fun _ _ => id),.refl⟩
  | calls known effect =>
    refine attributed.callEffect consistent known ?_ effect
    simpa [undisputed,known] using allowed
  | manages effects =>
    obtain ⟨_,_,armed⟩ := attributed.managing allowed
    obtain ⟨kept,same⟩ := attributed.effects armed consistent effects
    exact ⟨kept,same ▸ .refl⟩
  | takes taken effects =>
    obtain ⟨timely,scans,armed⟩ := attributed.managing allowed
    have marks := attributed.taken_marks consistent timely scans taken
    obtain ⟨middle,armed⟩ := attributed.taken armed consistent taken
    obtain ⟨kept,same⟩ := middle.effects armed (consistent.taken taken) effects
    exact ⟨kept,same ▸ marks⟩
  | commits attempt bootId saved verified =>
    obtain ⟨timely,_,_⟩ := attributed.managing allowed
    exact ⟨attributed.commit consistent,attributed.commit_marks consistent timely verified saved⟩
  | attempts known effect =>
    obtain ⟨kept,same⟩ := attributed.attemptEffect consistent known effect
    exact ⟨kept,same ▸ .refl⟩
  | polls effect =>
    cases effect with
    | moves => exact ⟨{ attributed with },.refl⟩
  | breaks => exact ⟨{ attributed with },.refl⟩
  | notices effect =>
    cases effect with
    | moves => exact ⟨{ attributed with },.refl⟩

end Attributed

def completes (s : State Nat Nat) : Bool :=
  s.undisputed .plain (.manager (.file true)) &&
    (step .plain s (.manager (.file true))).any fun next =>
      s.operations = [⟨.connect,.running,1,some 11⟩] && next.operations = [⟨.connect,.succeeded,1,some 11⟩]

end State

end Thermometer.Controller
