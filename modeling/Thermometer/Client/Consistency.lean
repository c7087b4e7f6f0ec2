import Thermometer.Client.StepEffects
import Thermometer.Lib.Execution

-- What holds in every reachable state, whatever is called and whatever is answered:
-- the lock is held by one coroutine, an attempt is no newer than the target, and an
-- attempt inside the lock has an open client of its own.
namespace Thermometer.Controller

variable {Address Passkey : Type}
  {host : Host Address} {s next : State Address Passkey}

def AttemptStage.opened : AttemptStage → Bool
  | .pairing | .connecting | .authenticating | .reading => true
  | _ => false

def AttemptStage.current : AttemptStage → Bool
  | .authenticating | .reading => true
  | _ => false

theorem Manager.rests_holdsLock {manager : Manager Address Passkey} (rests : manager.rests) :
    manager.holdsLock = false := by
  unfold Manager.rests Manager.free at rests
  unfold Manager.holdsLock
  split at rests
  · cases rests
  · split at rests <;> simp_all

theorem Manager.rests_forgets {manager : Manager Address Passkey} (rests : manager.rests) :
    (∀ attempt bootId, manager ≠ .readingBoot attempt bootId) ∧
      ∀ target generation, manager ≠ .rediscovering target generation := by
  refine ⟨?_,?_⟩
  · rintro attempt bootId rfl
    cases rests
  · rintro target generation rfl
    cases rests

theorem Manager.holdsLock_forgets {manager : Manager Address Passkey} (holds : manager.holdsLock) :
    (∀ attempt bootId, manager ≠ .readingBoot attempt bootId) ∧
      ∀ target generation, manager ≠ .rediscovering target generation := by
  refine ⟨?_,?_⟩
  · rintro attempt bootId rfl
    cases holds
  · rintro target generation rfl
    cases holds

theorem AttemptStage.opened_holdsLock {stage : AttemptStage} (opened : stage.opened) : stage.holdsLock := by
  cases stage <;> first | rfl | cases opened

def State.OpenClient (s : State Address Passkey) (attempt : Attempt Address Passkey) : Prop :=
  ∃ (index : ClientId) (client : Client Address), attempt.client = some index ∧
    s.clients[index]? = some client ∧ client.closed = false ∧ client.address = attempt.target

theorem State.openClient_modify {attempt : Attempt Address Passkey} (opened : s.OpenClient attempt)
    (place : ClientId) {change : Client Address → Client Address}
    (same : ∀ client, (change client).closed = client.closed ∧ (change client).address = client.address) :
    { s with clients := s.clients.modify place change }.OpenClient attempt := by
  obtain ⟨index,client,mine,present,fresh,address⟩ := opened
  by_cases here : place = index
  · subst here
    exact ⟨place,change client,mine,by simp [present],(same client).1.trans fresh,(same client).2.trans address⟩
  · exact ⟨index,client,mine,by simpa [here] using present,fresh,address⟩

def KeepsKinds (before after : List (Operation Address Passkey)) : Prop :=
  ∀ (index : Nat) (old : Operation Address Passkey), before[index]? = some old →
    ∃ operation, after[index]? = some operation ∧ operation.kind = old.kind

namespace KeepsKinds

variable {operations before middle after : List (Operation Address Passkey)}

theorem refl : KeepsKinds operations operations := fun _ old present => ⟨old,present,rfl⟩

theorem trans (first : KeepsKinds before middle) (second : KeepsKinds middle after) : KeepsKinds before after := by
  intro index old present
  obtain ⟨between,found,same⟩ := first index old present
  obtain ⟨operation,last,kind⟩ := second index between found
  exact ⟨operation,last,kind.trans same⟩

theorem append (more : List (Operation Address Passkey)) : KeepsKinds operations (operations ++ more) :=
  fun _ old present =>
    ⟨old,by rw [List.getElem?_append_left (List.getElem?_eq_some_iff.mp present).1,present],rfl⟩

theorem modify (place : Nat) (change : Operation Address Passkey → Operation Address Passkey)
    (same : ∀ old, (change old).kind = old.kind) : KeepsKinds operations (operations.modify place change) := by
  intro index old present
  by_cases here : place = index
  · subst here
    exact ⟨change old,by simp [present],same old⟩
  · exact ⟨old,by simpa [here] using present,rfl⟩

theorem of_advances (advances : Advances before after) : KeepsKinds before after := by
  intro index old present
  obtain ⟨operation,found,kept⟩ := advances.kept index old present
  refine ⟨operation,found,?_⟩
  rcases kept with rfl | rfl | kept
  · rfl
  · exact Advances.cancelledOperation_kind old
  · exact kept.2.trans kept.1.symm

theorem settlePendingConnect (state : OperationState) (observation : OperationId → Observation Address Passkey) :
    KeepsKinds s.operations (s.settlePendingConnect state observation).operations := by
  unfold State.settlePendingConnect
  dsimp only
  split
  · exact .refl
  · exact .modify _ _ fun _ => rfl

theorem beginOperation (kind : OperationKind) (selected : Address) (credential : Passkey) :
    KeepsKinds s.operations (s.beginOperation kind selected credential).operations := by
  let begun := s.newOperation kind .running selected (some credential)
  have cancelled : KeepsKinds begun.operations begun.cancelPendingConnect.operations :=
    .of_advances State.advances_cancelPendingConnect
  exact (KeepsKinds.append _).trans cancelled

end KeepsKinds

theorem getElem?_suspended {α : Type} {calls : List α} {call other : α} {index : Nat}
    (present : (calls ++ [call])[index]? = some other) : calls[index]? = some other ∨ other = call := by
  rcases Nat.lt_or_ge index calls.length with old | new
  · exact .inl (by rwa [List.getElem?_append_left old] at present)
  · rw [List.getElem?_append_right new] at present
    exact .inr (List.mem_singleton.mp (List.mem_of_getElem? present))

theorem getElem?_resumed {α : Type} {calls : List α} {call other : α} {index place : Nat}
    (present : (calls.set place call)[index]? = some other) :
    index = place ∧ other = call ∨ index ≠ place ∧ calls[index]? = some other := by
  by_cases here : place = index
  · subst here
    rw [List.getElem?_set_self'] at present
    obtain ⟨_,_,same⟩ := Option.map_eq_some_iff.mp present
    exact .inl ⟨rfl,same.symm⟩
  · exact .inr ⟨Ne.symm here,by rwa [List.getElem?_set_ne here] at present⟩

structure State.Consistent (s : State Address Passkey) : Prop where
  coupled : s.Coupled
  attemptLock : ∀ attempt, s.attempt = some attempt → attempt.stage.holdsLock → s.lifecycleLock = some .attempt
  managerLock : s.manager.holdsLock → s.lifecycleLock = some .manager
  callLock : ∀ (index : Nat) (call : Call Address Passkey), s.calls[index]? = some call → call.holdsLock →
    s.lifecycleLock = some (.call index)
  resets : ∀ (index : Nat) (call : Call Address Passkey), s.calls[index]? = some call → s.ResetsOwn call
  attemptGeneration : ∀ attempt, s.attempt = some attempt → attempt.generation ≤ s.targetGeneration
  bootGeneration : ∀ attempt bootId, s.manager = .readingBoot attempt bootId →
    attempt.generation ≤ s.targetGeneration
  targetGeneration : ∀ target generation, s.manager = .rediscovering target generation →
    generation ≤ s.targetGeneration
  opened : ∀ attempt, s.attempt = some attempt → attempt.stage.opened → s.OpenClient attempt
  current : ∀ attempt, s.attempt = some attempt → attempt.stage.current → s.client = attempt.client

namespace State.Consistent

theorem frame (consistent : s.Consistent) (attempt : next.attempt = s.attempt) (manager : next.manager = s.manager)
    (lock : next.lifecycleLock = s.lifecycleLock) (calls : next.calls = s.calls) (client : next.client = s.client)
    (clients : next.clients = s.clients) (generation : s.targetGeneration ≤ next.targetGeneration)
    (operations : KeepsKinds s.operations next.operations) : next.Consistent where
  coupled := by
    rw [Coupled,attempt,manager]
    exact consistent.coupled
  attemptLock := by
    rw [attempt,lock]
    exact consistent.attemptLock
  managerLock := by
    rw [manager,lock]
    exact consistent.managerLock
  callLock := by
    rw [calls,lock]
    exact consistent.callLock
  resets := by
    rw [calls]
    intro index call known operation resetting
    obtain ⟨old,present,kind⟩ := consistent.resets index call known operation resetting
    obtain ⟨kept,found,same⟩ := operations operation old present
    exact ⟨kept,found,same.trans kind⟩
  attemptGeneration := by
    rw [attempt]
    exact fun known present => Nat.le_trans (consistent.attemptGeneration known present) generation
  bootGeneration := by
    rw [manager]
    exact fun known bootId present => Nat.le_trans (consistent.bootGeneration known bootId present) generation
  targetGeneration := by
    rw [manager]
    exact fun target remembered present => Nat.le_trans (consistent.targetGeneration target remembered present) generation
  opened := by
    rw [attempt]
    intro known present opened
    rw [OpenClient,clients]
    exact consistent.opened known present opened
  current := by
    rw [attempt,client]
    exact consistent.current

theorem manage (consistent : s.Consistent) (manager : Manager Address Passkey) (idle : s.attempt = none)
    (rests : manager.rests) : { s with manager := manager }.Consistent where
  coupled := fun known => absurd idle known
  attemptLock := (fun _ known => nomatch idle.symm.trans known)
  managerLock := by simp [Manager.rests_holdsLock rests]
  callLock := consistent.callLock
  resets := consistent.resets
  attemptGeneration := (fun _ known => nomatch idle.symm.trans known)
  bootGeneration := fun attempt bootId waiting => absurd waiting ((Manager.rests_forgets rests).1 _ _)
  targetGeneration := fun target generation waiting => absurd waiting ((Manager.rests_forgets rests).2 _ _)
  opened := (fun _ known => nomatch idle.symm.trans known)
  current := (fun _ known => nomatch idle.symm.trans known)

theorem free_idle (consistent : s.Consistent) (free : s.manager.free) : s.attempt = none :=
  consistent.coupled.idle fun attempting => by rw [attempting] at free; cases free

theorem failure (consistent : s.Consistent) (idle : s.attempt = none) (attempt : Option (Attempt Address Passkey))
    (error : ConnectionError) : (s.handleFailure attempt error).Consistent := by
  rcases handleFailure_cases attempt error with ⟨_,same⟩ | ⟨_,_,same⟩ | ⟨_,_,same⟩ <;> rw [same]
  · exact consistent.manage _ idle rfl
  · exact (consistent.manage (.failing .rejected .entering) idle rfl).frame rfl rfl rfl rfl rfl rfl (Nat.le_refl _)
      (.settlePendingConnect .failed (.operationFailed · attempt))
  · exact (consistent.manage (.failing .retrying .entering) idle rfl).frame rfl rfl rfl rfl rfl rfl (Nat.le_refl _)
      (.settlePendingConnect .failed (.operationFailed · attempt))

theorem holding_idle (consistent : s.Consistent) (holds : s.manager.holdsLock) : s.attempt = none :=
  consistent.coupled.idle fun attempting => by rw [attempting] at holds; cases holds

theorem managerEffect (consistent : s.Consistent) (effect : ManagerEffect host s next) : next.Consistent := by
  cases effect with
  | moves state events number pending manager free rests keeps =>
    exact (consistent.manage manager (consistent.free_idle free) rests).frame rfl rfl rfl rfl rfl rfl (Nat.le_refl _) .refl
  | closes client manager free unlocked current holds =>
    have idle := consistent.free_idle free
    refine ⟨fun known => absurd idle known,(fun _ known => nomatch idle.symm.trans known),fun _ => rfl,?_,
      consistent.resets,(fun _ known => nomatch idle.symm.trans known),?_,?_,
      (fun _ known => nomatch idle.symm.trans known),(fun _ known => nomatch idle.symm.trans known)⟩
    · intro index call known holding
      exact absurd (consistent.callLock index call known holding) (by simp [unlocked])
    · exact fun attempt bootId waiting => absurd waiting ((Manager.holdsLock_forgets holds).1 _ _)
    · exact fun target generation waiting => absurd waiting ((Manager.holdsLock_forgets holds).2 _ _)
  | closed holds =>
    have locked := consistent.managerLock holds
    have idle := consistent.holding_idle holds
    refine ⟨fun known => absurd idle known,(fun _ known => nomatch idle.symm.trans known),by rintro ⟨⟩,?_,
      consistent.resets,(fun _ known => nomatch idle.symm.trans known),by rintro _ _ ⟨⟩,by rintro _ _ ⟨⟩,
      (fun _ known => nomatch idle.symm.trans known),(fun _ known => nomatch idle.symm.trans known)⟩
    intro index call known holding
    exact absurd (consistent.callLock index call known holding) (by simp [locked])
  | recalls target stored selected missing idle running found =>
    exact consistent.frame rfl rfl rfl rfl rfl rfl (Nat.le_refl _) .refl
  | rediscovers target selected running =>
    have idle : s.attempt = none := consistent.coupled.idle (by simp [running])
    refine { consistent.manage .starting idle rfl with
      coupled := fun known => absurd idle known
      managerLock := by rintro ⟨⟩
      bootGeneration := by rintro _ _ ⟨⟩
      targetGeneration := ?_ }
    rintro _ _ ⟨⟩
    exact Nat.le_refl _
  | refreshes target refreshed state waiting same updated desired left unready =>
    have idle : s.attempt = none := consistent.coupled.idle (by simp [waiting])
    exact (consistent.manage .starting idle rfl).frame rfl rfl rfl rfl rfl rfl (Nat.le_refl _) .refl
  | starts target selected idle running =>
    refine ⟨fun _ => rfl,?_,by rintro ⟨⟩,consistent.callLock,consistent.resets,?_,by rintro _ _ ⟨⟩,by rintro _ _ ⟨⟩,?_,?_⟩
    · rintro _ ⟨⟩ ⟨⟩
    · rintro _ ⟨⟩
      exact Nat.le_refl _
    · rintro _ ⟨⟩ ⟨⟩
    · rintro _ ⟨⟩ ⟨⟩
  | passes unselected idle running =>
    exact consistent.frame rfl rfl rfl rfl rfl rfl (Nat.le_succ _) .refl
  | discovers target credential phase credentialState unselected idle running found left =>
    exact consistent.frame rfl rfl rfl rfl rfl rfl (Nat.le_succ _) .refl
  | fails error idle running missing => exact consistent.failure idle none error

theorem take (consistent : s.Consistent) : s.taken.Consistent :=
  ⟨nofun,by rintro _ ⟨⟩,by rintro ⟨⟩,consistent.callLock,consistent.resets,by rintro _ ⟨⟩,by rintro _ _ ⟨⟩,by rintro _ _ ⟨⟩,
    by rintro _ ⟨⟩,by rintro _ ⟨⟩⟩

theorem taken (consistent : s.Consistent) (taken : Taken host s answer next) : next.Consistent := by
  cases taken with
  | drops => exact consistent.take
  | fails attempt error known finished => exact consistent.take.failure rfl (some attempt) error
  | scans generation error idle waiting failed => exact consistent.take.failure rfl none error
  | reads attempt bootId known finished =>
    refine { consistent.take with
      coupled := nofun
      managerLock := by rintro ⟨⟩
      bootGeneration := ?_
      targetGeneration := by rintro _ _ ⟨⟩ }
    rintro _ _ ⟨⟩
    exact consistent.attemptGeneration attempt known

theorem commit [DecidableEq Address] (consistent : s.Consistent) (attempt : Attempt Address Passkey) (bootId : BootId) (saved : Bool) :
    (s.taken.commit host attempt bootId saved).Consistent := by
  rcases commit_cases attempt bootId saved with ⟨key,passkey,valid,known,same⟩ | same <;> rw [same]
  · exact (consistent.take.manage .publishing rfl rfl).frame rfl rfl rfl rfl rfl rfl (Nat.le_refl _)
      (.settlePendingConnect .succeeded (.operationSucceeded · (some attempt)))
  · have recorded : { s.taken with lastBootId := some bootId }.Consistent :=
      consistent.take.frame rfl rfl rfl rfl rfl rfl (Nat.le_refl _) .refl
    exact recorded.failure rfl (some attempt) .other

theorem attempts (consistent : s.Consistent) {attempt after : Attempt Address Passkey}
    (known : s.attempt = some attempt) (continued : next.attempt = some after)
    (generation : after.generation = attempt.generation) (manager : next.manager = s.manager)
    (calls : next.calls = s.calls) (target : next.targetGeneration = s.targetGeneration)
    (operations : next.operations = s.operations)
    (lock : next.lifecycleLock = s.lifecycleLock ∨ s.lifecycleLock = none ∨ s.lifecycleLock = some .attempt)
    (holds : after.stage.holdsLock → next.lifecycleLock = some .attempt)
    (opened : after.stage.opened → next.OpenClient after)
    (current : after.stage.current → next.client = after.client) : next.Consistent := by
  have attempting := consistent.coupled (by simp [known])
  refine ⟨fun _ => manager.trans attempting,?_,?_,?_,?_,?_,?_,?_,?_,?_⟩
  · intro other present
    cases Option.some.inj (continued.symm.trans present)
    exact holds
  · rw [manager,attempting]
    exact nofun
  · rw [calls]
    intro index call present holding
    have locked := consistent.callLock index call present holding
    rcases lock with same | free | mine
    · exact same.trans locked
    · exact absurd (free.symm.trans locked) nofun
    · exact absurd (mine.symm.trans locked) nofun
  · rw [calls]
    intro index call present operation resetting
    rw [operations]
    exact consistent.resets index call present operation resetting
  · intro other present
    cases Option.some.inj (continued.symm.trans present)
    rw [generation,target]
    exact consistent.attemptGeneration attempt known
  · rw [manager,attempting]
    exact nofun
  · rw [manager,attempting]
    exact nofun
  · intro other present
    cases Option.some.inj (continued.symm.trans present)
    exact opened
  · intro other present
    cases Option.some.inj (continued.symm.trans present)
    exact current

theorem attemptEffect (consistent : s.Consistent) {attempt : Attempt Address Passkey}
    (known : s.attempt = some attempt) (effect : AttemptEffect s attempt next) : next.Consistent := by
  have locked := consistent.attemptLock attempt known
  have opened := consistent.opened attempt known
  have current := consistent.current attempt known
  cases effect with
  | begins state stage created unlocked keeps fresh =>
    refine consistent.attempts known rfl rfl rfl rfl rfl rfl (.inr (.inl unlocked)) (fun _ => rfl) (fun _ => ?_) ?_
    · exact ⟨s.clients.length,⟨attempt.target,0,false,false⟩,rfl,by simp,rfl,rfl⟩
    · rcases fresh with rfl | rfl <;> exact nofun
  | bonds state bond pairing keeps =>
    refine consistent.attempts known rfl rfl rfl rfl rfl rfl (.inl rfl) (fun _ => locked (by rw [pairing]; rfl))
      (fun _ => opened (by rw [pairing]; rfl)) nofun
  | opens state client bootId connecting mine keeps current =>
    refine consistent.attempts known rfl rfl rfl rfl rfl rfl (.inl rfl) (fun _ => locked (by rw [connecting]; rfl))
      (fun _ => ?_) (fun _ => mine.symm)
    exact openClient_modify (opened (by rw [connecting]; rfl)) client fun _ => ⟨rfl,rfl⟩
  | proves authenticating current' =>
    exact consistent.attempts known rfl rfl rfl rfl rfl rfl (.inl rfl) (fun _ => locked (by rw [authenticating]; rfl))
      (fun _ => opened (by rw [authenticating]; rfl)) (fun _ => current (by rw [authenticating]; rfl))
  | verifies client reading _ found =>
    exact consistent.attempts known rfl rfl rfl rfl rfl rfl (.inr (.inr (locked (by rw [reading]; rfl)))) nofun nofun
      nofun
  | closes clients observations resets ending guarded cancelRequested holds others closed observed =>
    exact consistent.attempts known rfl rfl rfl rfl rfl rfl (.inl rfl) (fun _ => locked holds) nofun nofun
  | ends resets ending closed guarded cancelRequested client closing left =>
    exact consistent.attempts known rfl rfl rfl rfl rfl rfl (.inr (.inr (locked (by rw [closing]; rfl)))) nofun nofun
      nofun
  | aborts created =>
    exact consistent.attempts known rfl rfl rfl rfl rfl rfl (.inl rfl) nofun nofun nofun

theorem suspend (consistent : s.Consistent) (call : Call Address Passkey) (outside : call.holdsLock = false)
    (fresh : call.reset = none) : (s.suspend call).Consistent := by
  refine { consistent with callLock := ?_, resets := ?_ }
  · intro index other present holding
    rcases getElem?_suspended present with old | rfl
    · exact consistent.callLock index other old holding
    · simp [outside] at holding
  · intro index other present operation resetting
    rcases getElem?_suspended present with old | rfl
    · exact consistent.resets index other old operation resetting
    · simp [fresh] at resetting

theorem selectionEffect [DecidableEq Address] (consistent : s.Consistent) {selected : Address}
    (effect : SelectionEffect host s selected passkey kind next) :
    next.Consistent := by
  cases effect with
  | already credential ready same =>
    exact consistent.frame rfl rfl rfl rfl rfl rfl (Nat.le_refl _) (.append _)
  | refused missing found =>
    exact consistent.frame rfl rfl rfl rfl rfl rfl (Nat.le_succ _) .refl
  | switches credential fromRegistry source connected other =>
    have begun : (s.beginOperation kind selected credential).Consistent :=
      consistent.frame rfl rfl rfl rfl rfl rfl (Nat.le_refl _) (.beginOperation kind selected credential)
    refine State.Consistent.suspend ?_ _ rfl rfl
    exact begun.frame rfl rfl rfl rfl rfl rfl (Nat.le_refl _) .refl
  | selects credential fromRegistry source =>
    exact consistent.frame rfl rfl rfl rfl rfl rfl (Nat.le_succ _) (.beginOperation kind selected credential)

theorem requested {attempt : Attempt Address Passkey} {after : Option (Attempt Address Passkey)}
    (requests : s.RequestsCancel after) (continued : after = some attempt) :
    ∃ known, s.attempt = some known ∧ attempt.identity = known.identity ∧ attempt.stage = known.stage := by
  rcases requests with same | ⟨known,present,cancelled⟩
  · exact ⟨attempt,same.symm.trans continued,rfl,rfl⟩
  · cases Option.some.inj (cancelled.symm.trans continued)
    exact ⟨known,present,rfl,rfl⟩

theorem calls (consistent : s.Consistent) {index : Nat} {after : Call Address Passkey}
    (continued : next.calls = s.calls.set index after) (attempt : s.RequestsCancel next.attempt)
    (manager : next.manager = s.manager) (target : s.targetGeneration ≤ next.targetGeneration)
    (operations : KeepsKinds s.operations next.operations)
    (lock : next.lifecycleLock = s.lifecycleLock ∨ s.lifecycleLock = none ∨ s.lifecycleLock = some (.call index))
    (holds : after.holdsLock → next.lifecycleLock = some (.call index)) (own : next.ResetsOwn after)
    (clients : next.client = s.client ∧ next.clients = s.clients ∨ s.lifecycleLock = none) : next.Consistent := by
  have kept : ∀ holder, s.lifecycleLock = some holder → holder ≠ .call index → next.lifecycleLock = some holder := by
    intro holder locked other
    rcases lock with same | free | mine
    · exact same.trans locked
    · exact absurd (free.symm.trans locked) nofun
    · exact absurd (Option.some.inj (mine.symm.trans locked)).symm other
  -- The clients of an attempt in the lock are left alone.
  have untouched : ∀ known, s.attempt = some known → known.stage.opened →
      next.client = s.client ∧ next.clients = s.clients := by
    intro known present opened
    rcases clients with same | free
    · exact same
    · have locked := consistent.attemptLock known present (AttemptStage.opened_holdsLock opened)
      exact absurd (free.symm.trans locked) nofun
  refine ⟨?_,?_,?_,?_,?_,?_,?_,?_,?_,?_⟩
  · intro known
    obtain ⟨attempt',present⟩ := Option.ne_none_iff_exists'.mp known
    obtain ⟨old,before,_⟩ := requested attempt present
    exact manager.trans (consistent.coupled (by simp [before]))
  · intro attempt' present holding
    obtain ⟨old,before,_,stage⟩ := requested attempt present
    exact kept _ (consistent.attemptLock old before (stage ▸ holding)) nofun
  · rw [manager]
    exact fun holding => kept _ (consistent.managerLock holding) nofun
  · rw [continued]
    intro other call present holding
    rcases getElem?_resumed present with ⟨rfl,rfl⟩ | ⟨distinct,old⟩
    · exact holds holding
    · exact kept _ (consistent.callLock other call old holding) (by simpa using distinct)
  · rw [continued]
    intro other call present
    rcases getElem?_resumed present with ⟨rfl,rfl⟩ | ⟨distinct,old⟩
    · exact own
    · intro operation resetting
      obtain ⟨before,found,kind⟩ := consistent.resets other call old operation resetting
      obtain ⟨later,kept,same⟩ := operations operation before found
      exact ⟨later,kept,same.trans kind⟩
  · intro attempt' present
    obtain ⟨old,before,same,_⟩ := requested attempt present
    obtain ⟨_,_,generation,_⟩ := Attempt.same_identity same
    rw [generation]
    exact Nat.le_trans (consistent.attemptGeneration old before) target
  · rw [manager]
    exact fun known bootId present => Nat.le_trans (consistent.bootGeneration known bootId present) target
  · rw [manager]
    exact fun known generation present => Nat.le_trans (consistent.targetGeneration known generation present) target
  · intro attempt' present opened
    obtain ⟨old,before,same,stage⟩ := requested attempt present
    obtain ⟨_,address,_,_,mine,_⟩ := Attempt.same_identity same
    rw [OpenClient,mine,address,(untouched old before (stage ▸ opened)).2]
    exact consistent.opened old before (stage ▸ opened)
  · intro attempt' present current
    obtain ⟨old,before,same,stage⟩ := requested attempt present
    obtain ⟨_,_,_,_,mine,_⟩ := Attempt.same_identity same
    have opened : old.stage.opened := by
      rw [stage] at current
      cases at' : old.stage <;> simp_all [AttemptStage.current,AttemptStage.opened]
    rw [mine,(untouched old before opened).1]
    exact consistent.current old before (stage ▸ current)

theorem callEffect [DecidableEq Address] (consistent : s.Consistent) {index : Nat} {call : Call Address Passkey}
    (known : s.calls[index]? = some call) (effect : CallEffect s index call next) : next.Consistent := by
  have own := consistent.resets index call known
  have locked := consistent.callLock index call known
  cases effect with
  | proceeds state bond lock attempt operations pending discovery events after keeps released requests advances
      settled outside selection reset =>
    refine consistent.calls rfl requests rfl (Nat.le_refl _) (.of_advances advances) ?_ (by simp [outside]) ?_
      (.inl ⟨rfl,rfl⟩)
    · rcases released with ⟨same,_⟩ | ⟨_,holding⟩
      · exact .inl same
      · exact .inr (.inr (locked holding))
    · intro operation resetting
      rcases reset with none | same | ⟨new,begun,appended,kind⟩
      · simp [none] at resetting
      · obtain ⟨before,found,kind⟩ := own operation (same ▸ resetting)
        obtain ⟨later,kept,same⟩ := KeepsKinds.of_advances advances operation before found
        exact ⟨later,kept,same.trans kind⟩
      · cases Option.some.inj (new.symm.trans resetting)
        exact ⟨begun,by simp [appended],kind⟩
  | closes client after entering unlocked current holding selection reset =>
    exact consistent.calls rfl (.inl rfl) rfl (Nat.le_refl _) .refl (.inr (.inl unlocked)) (fun _ => rfl)
      (fun operation resetting => own operation (reset ▸ resetting)) (.inr unlocked)
  | selects selected credential fromRegistry stage switching entering =>
    refine consistent.calls rfl (.inl rfl) rfl (Nat.le_succ _) .refl ?_ nofun nofun (.inl ⟨rfl,rfl⟩)
    cases stage with
    | entering => exact .inr (.inl (entering rfl))
    | closing => exact .inr (.inr (locked (by rw [switching]; rfl)))
  | resets key selected operation client state resetting keeps =>
    refine consistent.calls rfl (.inl rfl) rfl (Nat.le_refl _) .refl (.inl rfl) nofun ?_ (.inl ⟨rfl,rfl⟩)
    rintro _ ⟨⟩
    exact own operation (by rw [resetting]; rfl)

theorem stepEffect [DecidableEq Address] (consistent : s.Consistent) (effect : StepEffect host s action next) : next.Consistent := by
  cases effect with
  | connects effect => exact consistent.selectionEffect effect
  | pairs effect => exact consistent.selectionEffect effect
  | reconnects _ effect => exact consistent.selectionEffect effect
  | disconnects =>
    refine State.Consistent.suspend ?_ _ rfl rfl
    exact consistent.frame rfl rfl rfl rfl rfl rfl (Nat.le_succ _) .refl
  | forgets =>
    refine State.Consistent.suspend ?_ _ rfl rfl
    exact consistent.frame rfl rfl rfl rfl rfl rfl (Nat.le_succ _) .refl
  | scans => exact consistent.suspend _ rfl rfl
  | calls known effect => exact consistent.callEffect known effect
  | manages effects =>
    induction effects with
    | refl => exact consistent
    | tail _ effect ih => exact ih.managerEffect effect
  | takes taken effects =>
    induction effects with
    | refl => exact consistent.taken taken
    | tail _ effect ih => exact ih.managerEffect effect
  | commits attempt bootId saved verified => exact consistent.commit attempt bootId saved
  | attempts known effect => exact consistent.attemptEffect known effect
  | polls effect =>
    cases effect with
    | moves => exact consistent.frame rfl rfl rfl rfl rfl rfl (Nat.le_refl _) .refl
  | breaks =>
    refine { consistent with opened := ?_ }
    intro attempt known opened
    exact openClient_modify (consistent.opened attempt known opened) _ fun _ => ⟨rfl,rfl⟩
  | notices effect =>
    cases effect with
    | moves => exact consistent.frame rfl rfl rfl rfl rfl rfl (Nat.le_refl _) .refl

end State.Consistent

theorem State.Consistent.carry (Inv : State Address Passkey → Prop)
    (preserved : ∀ s next, State.Consistent s → Inv s → ManagerEffect host s next → Inv next)
    (consistent : s.Consistent) (holds : Inv s) (effects : Effects host s next) : Inv next := by
  have both : next.Consistent ∧ Inv next := by
    induction effects with
    | refl => exact ⟨consistent,holds⟩
    | tail _ effect ih => exact ⟨ih.1.managerEffect effect,preserved _ _ ih.1 ih.2 effect⟩
  exact both.2

theorem State.consistent_started (autoDiscover : Bool) (credentials : Address → Option Passkey) :
    (started autoDiscover credentials).Consistent :=
  ⟨nofun,by rintro _ ⟨⟩,by rintro ⟨⟩,by rintro _ _ ⟨⟩,by rintro _ _ ⟨⟩,by rintro _ ⟨⟩,by rintro _ _ ⟨⟩,by rintro _ _ ⟨⟩,
    by rintro _ ⟨⟩,by rintro _ ⟨⟩⟩

theorem State.Consistent.step [DecidableEq Address] (consistent : s.Consistent) (ran : step host s action = some next) : next.Consistent :=
  consistent.stepEffect (step_effects consistent.coupled consistent.resets ran)

theorem State.consistent_reached [DecidableEq Address] {credentials : Address → Option Passkey}
    (path : Execution.Path (State.step host) allowed (started autoDiscover credentials) trace s) : s.Consistent :=
  path.invariant State.Consistent (consistent_started autoDiscover credentials)
    fun _ _ _ consistent _ ran => consistent.step ran

end Thermometer.Controller
