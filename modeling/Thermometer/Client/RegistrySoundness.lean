import Thermometer.Client.ConnectedSoundness

-- The credential registry. A commit saves the current passkey of the controller, not that
-- of the attempt, so the selections that replace it between the attempt's last look at
-- the target and the commit have to be excluded.
namespace Thermometer.Controller

variable {Address Passkey : Type}
  {host : Host Address} {s next : State Address Passkey}

namespace State

def chosen [DecidableEq Address] (s : State Address Passkey) (host : Host Address) (selected : Address) (passkey : Option Passkey) :
    Option Passkey :=
  if s.state.ready ∧ s.sameTarget host selected ∨ s.state.connected ∧ !s.sameTarget host selected then none
  else (s.resolveCredential host selected passkey).bind Prod.fst

def selectsPasskey [DecidableEq Address] (s : State Address Passkey) (host : Host Address) : Action Address Passkey → Option Passkey
  | .connect selected passkey | .pair selected passkey => s.chosen host selected passkey
  | .reconnect => s.state.target.bind fun target => s.chosen host target none
  | .call index _ =>
    match s.calls[index]? with
    | some (.switching _ credential _ (.client stage)) =>
      if (s.closeClient (.call index) stage).any fun closed => closed.2.isNone then some credential else none
    | _ => none
  | _ => none

def verified? (s : State Address Passkey) : Option (Attempt Address Passkey) :=
  match s.manager with
  | .readingBoot attempt _ => some attempt
  | _ => s.attempt.filter fun attempt =>
    match attempt.stage with
    | .finished (.verified _) => true
    | _ => false

def keepsPasskey [DecidableEq Address] [DecidableEq Passkey] (s : State Address Passkey) (host : Host Address)
    (action : Action Address Passkey) : Bool :=
  s.verified?.all fun attempt => (s.selectsPasskey host action).all fun credential => attempt.passkey = some credential

theorem verified?_of [DecidableEq Address] {attempt : Attempt Address Passkey} {bootId : BootId} (coupled : s.Coupled)
    (verified : s.Verified attempt bootId) : s.verified? = some attempt := by
  rcases verified with ⟨known,finished⟩ | waiting
  · have attempting := coupled (by simp [known])
    simp [verified?,attempting,known,finished]
  · simp [verified?,waiting]

theorem keepsPasskey_selects [DecidableEq Address] [DecidableEq Passkey] {attempt : Attempt Address Passkey} {bootId : BootId}
    (coupled : s.Coupled) (verified : s.Verified attempt bootId) (allowed : s.keepsPasskey host action)
    (installed : s.selectsPasskey host action = some credential) : attempt.passkey = some credential := by
  simpa [keepsPasskey,verified?_of coupled verified,installed] using allowed

theorem beginConnection_passkey [DecidableEq Address] {selected : Address} {passkey : Option Passkey}
    (ran : s.beginConnection host selected passkey kind = some next) :
    next.targetPasskey = s.targetPasskey ∨
      ∃ credential, s.chosen host selected passkey = some credential ∧ next.targetPasskey = some credential := by
  unfold beginConnection at ran
  split at ran
  · cases ran
  · rename_i resolved
    split at ran
    · cases Option.some.inj ran
      exact .inl rfl
    · rename_i fresh
      split at ran
      · cases Option.some.inj ran
        exact .inl rfl
      · rename_i credential
        dsimp only at ran
        split at ran <;> cases Option.some.inj ran
        · exact .inl rfl
        · rename_i near
          refine .inr ⟨credential,?_,rfl⟩
          have direct : ¬(s.state.ready = true ∧ s.sameTarget host selected = true ∨
              s.state.connected = true ∧ (!s.sameTarget host selected) = true) := not_or.mpr ⟨fresh,near⟩
          simp only [chosen,if_neg direct,resolved]
          rfl

theorem switching_passkey [DecidableEq Address] {index : Nat} {selected : Address} {credential : Passkey} {stage : Closing}
    {answer : Answer Address}
    (known : s.calls[index]? = some (.switching selected credential fromRegistry (.client stage)))
    (ran : s.callStep host index (.switching selected credential fromRegistry (.client stage)) answer = some next) :
    next.targetPasskey = s.targetPasskey ∨
      s.selectsPasskey host (.call index answer) = some credential ∧ next.targetPasskey = some credential := by
  cases answer <;> try cases ran
  obtain ⟨⟨closed,rest⟩,closing,rfl⟩ := Option.map_eq_some_iff.mp ran
  cases rest with
  | none => exact .inr ⟨by simp [selectsPasskey,known,closing],rfl⟩
  | some =>
    rcases closeClient_cases closing with ⟨⟨⟩,_⟩ | ⟨client,_,_,_,_,rfl⟩
    exact .inl rfl

theorem callStep_passkey [DecidableEq Address] {index : Nat} {call : Call Address Passkey} {answer : Answer Address}
    (known : s.calls[index]? = some call) (own : s.ResetsOwn call)
    (ran : s.callStep host index call answer = some next) :
    next.targetPasskey = s.targetPasskey ∨ next.targetPasskey = none ∨
      ∃ credential, s.selectsPasskey host (.call index answer) = some credential ∧
        next.targetPasskey = some credential := by
  cases callStep_effects own ran with
  | proceeds => exact .inl rfl
  | closes => exact .inl rfl
  | resets => exact .inr (.inl rfl)
  | selects selected credential fromRegistry stage switching entering =>
    subst switching
    exact (switching_passkey known ran).imp_right fun installed => .inr ⟨credential,installed⟩

theorem step_passkey [DecidableEq Address] (consistent : s.Consistent) (ran : step host s action = some next)
    (outside : ∀ answer, action ≠ .manager answer) :
    next.targetPasskey = s.targetPasskey ∨ next.targetPasskey = none ∨
      ∃ credential, s.selectsPasskey host action = some credential ∧ next.targetPasskey = some credential := by
  cases action with
  | connect => exact (beginConnection_passkey ran).imp_right .inr
  | pair => exact (beginConnection_passkey ran).imp_right .inr
  | reconnect =>
    obtain ⟨target,selected,began⟩ := Option.bind_eq_some_iff.mp ran
    rcases beginConnection_passkey began with kept | ⟨credential,chosen,installed⟩
    · exact .inl kept
    · exact .inr (.inr ⟨credential,by simp [selectsPasskey,selected,chosen],installed⟩)
  | disconnect =>
    cases Option.some.inj ran
    exact .inl rfl
  | forgetPairing =>
    simp only [step,forgetPairing] at ran
    split at ran
    · cases Option.some.inj ran
      exact .inl rfl
    · cases ran
  | scan =>
    simp only [step,scan] at ran
    split at ran
    · cases Option.some.inj ran
      exact .inl rfl
    · cases ran
  | call index answer =>
    obtain ⟨call,known,stepped⟩ := Option.bind_eq_some_iff.mp ran
    exact callStep_passkey known (consistent.resets index call known) stepped
  | manager answer => exact absurd rfl (outside answer)
  | attempt answer =>
    obtain ⟨attempt,known,stepped⟩ := Option.bind_eq_some_iff.mp ran
    cases attemptStep_effects stepped <;> exact .inl rfl
  | poll =>
    cases pollStep_effects ran
    exact .inl rfl
  | linkDown =>
    cases Option.some.inj ran
    exact .inl rfl
  | transportDisconnected =>
    cases transportDisconnected_effects ran
    exact .inl rfl

structure Beside (s next : State Address Passkey) : Prop where
  manager : next.manager = s.manager
  attempt : s.RequestsCancel next.attempt
  superseded : next.targetGeneration = s.targetGeneration ∧
    (next.targetPasskey = s.targetPasskey ∨ next.targetPasskey = none) ∨ s.targetGeneration < next.targetGeneration
  logged : s.observations ⊆ next.observations
  saved : ∀ address passkey attempt, .credentialSaved address passkey attempt ∈ next.observations →
    .credentialSaved address passkey attempt ∈ s.observations
  credentials : ∀ key, next.credentials key = s.credentials key ∨ next.credentials key = none

theorem selectionEffect_beside [DecidableEq Address] {selected : Address} (effect : SelectionEffect host s selected passkey kind next) :
    s.Beside next := by
  cases effect with
  | already credential ready same =>
    refine ⟨rfl,.inl rfl,.inl ⟨rfl,.inl rfl⟩,fun _ known => List.mem_append_left _ known,?_,fun _ => .inl rfl⟩
    intro address passkey attempt present
    exact (List.mem_append.mp present).elim id fun new => by cases List.mem_singleton.mp new
  | refused => exact ⟨rfl,.inl rfl,.inr (Nat.lt_succ_self _),fun _ => id,fun _ _ _ => id,fun _ => .inl rfl⟩
  | switches => exact ⟨rfl,.inl rfl,.inl ⟨rfl,.inl rfl⟩,fun _ => id,fun _ _ _ => id,fun _ => .inl rfl⟩
  | selects => exact ⟨rfl,.inl rfl,.inr (Nat.lt_succ_self _),fun _ => id,fun _ _ _ => id,fun _ => .inl rfl⟩

theorem callEffect_beside [DecidableEq Address] {index : Nat} {call : Call Address Passkey} (effect : CallEffect s index call next) :
    s.Beside next := by
  cases effect with
  | proceeds state bond lock attempt operations pending discovery events after keeps released requests =>
    exact ⟨rfl,requests,.inl ⟨rfl,.inl rfl⟩,fun _ => id,fun _ _ _ => id,fun _ => .inl rfl⟩
  | closes => exact ⟨rfl,.inl rfl,.inl ⟨rfl,.inl rfl⟩,fun _ => id,fun _ _ _ => id,fun _ => .inl rfl⟩
  | selects => exact ⟨rfl,.inl rfl,.inr (Nat.lt_succ_self _),fun _ => id,fun _ _ _ => id,fun _ => .inl rfl⟩
  | resets key =>
    refine ⟨rfl,.inl rfl,.inl ⟨rfl,.inr rfl⟩,fun _ => id,fun _ _ _ => id,fun other => ?_⟩
    by_cases here : other = key
    · exact .inr (by simp [here])
    · exact .inl (Function.update_of_ne here _ _)

def Action.aside : Action Address Passkey → Bool
  | .manager _ | .attempt _ => false
  | _ => true

theorem stepEffect_beside [DecidableEq Address] (effect : StepEffect host s action next) (aside : action.aside = true) : s.Beside next := by
  cases effect with
  | connects effect => exact selectionEffect_beside effect
  | pairs effect => exact selectionEffect_beside effect
  | reconnects _ effect => exact selectionEffect_beside effect
  | disconnects => exact ⟨rfl,.inl rfl,.inr (Nat.lt_succ_self _),fun _ => id,fun _ _ _ => id,fun _ => .inl rfl⟩
  | forgets => exact ⟨rfl,.inl rfl,.inr (Nat.lt_succ_self _),fun _ => id,fun _ _ _ => id,fun _ => .inl rfl⟩
  | scans => exact ⟨rfl,.inl rfl,.inl ⟨rfl,.inl rfl⟩,fun _ => id,fun _ _ _ => id,fun _ => .inl rfl⟩
  | calls known effect => exact callEffect_beside effect
  | manages => cases aside
  | takes => cases aside
  | commits => cases aside
  | attempts => cases aside
  | polls effect =>
    cases effect
    exact ⟨rfl,.inl rfl,.inl ⟨rfl,.inl rfl⟩,fun _ => id,fun _ _ _ => id,fun _ => .inl rfl⟩
  | breaks => exact ⟨rfl,.inl rfl,.inl ⟨rfl,.inl rfl⟩,fun _ => id,fun _ _ _ => id,fun _ => .inl rfl⟩
  | notices effect =>
    cases effect
    exact ⟨rfl,.inl rfl,.inl ⟨rfl,.inl rfl⟩,fun _ => id,fun _ _ _ => id,fun _ => .inl rfl⟩

theorem handleFailure_idle (attempt : Option (Attempt Address Passkey)) (error : ConnectionError) :
    (s.handleFailure attempt error).attempt = s.attempt ∧
      ∀ known bootId, (s.handleFailure attempt error).manager ≠ .readingBoot known bootId := by
  rcases handleFailure_cases attempt error with ⟨_,same⟩ | ⟨_,_,same⟩ | ⟨_,_,same⟩ <;> rw [same]
  all_goals exact ⟨rfl,by rintro _ _ ⟨⟩⟩

theorem managerEffect_idle (consistent : s.Consistent) (effect : ManagerEffect host s next) :
    (next.attempt = none ∧ ∀ attempt bootId, next.manager ≠ .readingBoot attempt bootId) ∨
      ∃ target, s.attempt = none ∧ next = s.startAttempt target s.targetGeneration := by
  cases effect with
  | moves state events number pending manager free rests keeps =>
    exact .inl ⟨consistent.free_idle free,(Manager.rests_forgets rests).1⟩
  | closes client manager free unlocked current holds =>
    exact .inl ⟨consistent.free_idle free,(Manager.holdsLock_forgets holds).1⟩
  | closed holds => exact .inl ⟨consistent.holding_idle holds,by rintro _ _ ⟨⟩⟩
  | recalls target stored selected missing idle running found => exact .inl ⟨idle,by simp [running]⟩
  | rediscovers target selected running => exact .inl ⟨consistent.coupled.idle (by simp [running]),by rintro _ _ ⟨⟩⟩
  | refreshes target refreshed state waiting same updated desired left unready =>
    exact .inl ⟨consistent.coupled.idle (by simp [waiting]),by rintro _ _ ⟨⟩⟩
  | starts target selected idle running => exact .inr ⟨target,idle,rfl⟩
  | passes unselected idle running => exact .inl ⟨idle,by simp [running]⟩
  | discovers target credential phase credentialState unselected idle running found left =>
    exact .inl ⟨idle,by simp [discover,transition,running]⟩
  | fails error idle running missing =>
    exact .inl ⟨(handleFailure_idle none error).1.trans idle,(handleFailure_idle none error).2⟩

structure Logs (s next : State Address Passkey) : Prop where
  kept : s.observations ⊆ next.observations
  saved : ∀ address passkey attempt, .credentialSaved address passkey attempt ∈ next.observations →
    .credentialSaved address passkey attempt ∈ s.observations

theorem Logs.same (same : next.observations = s.observations) : s.Logs next :=
  ⟨fun _ => (same ▸ ·),fun _ _ _ => (same ▸ ·)⟩

theorem handleFailure_logs (attempt : Option (Attempt Address Passkey)) (error : ConnectionError) :
    s.Logs (s.handleFailure attempt error) := by
  refine ⟨?_,fun address passkey known present => ?_⟩
  · rcases handleFailure_cases attempt error with ⟨_,same⟩ | ⟨_,_,same⟩ | ⟨_,_,same⟩ <;> rw [same]
    · exact fun _ => id
    · exact fun _ present => List.mem_append_left _ (List.mem_append_left _ present)
    · exact fun _ present => List.mem_append_left _ present
  · rcases handleFailure_observed present with old | rejected | ⟨operation,_,failed⟩
    · exact old
    · cases rejected
    · cases failed

theorem managerEffect_logs (effect : ManagerEffect host s next) : s.Logs next := by
  cases effect with
  | starts =>
    refine ⟨fun _ present => List.mem_append_left _ present,fun address passkey attempt present => ?_⟩
    exact (List.mem_append.mp present).elim id fun new => by cases List.mem_singleton.mp new
  | fails error => exact handleFailure_logs none error
  | _ => exact .same rfl

theorem Beside.verified (beside : s.Beside next) {attempt : Attempt Address Passkey} {bootId : BootId}
    (verified : next.Verified attempt bootId) : ∃ old, s.Verified old bootId ∧ attempt.identity = old.identity := by
  rcases verified with ⟨present,finished⟩ | waiting
  · obtain ⟨old,before,same,stage⟩ := Consistent.requested beside.attempt present
    exact ⟨old,.inl ⟨before,stage.symm.trans finished⟩,same⟩
  · exact ⟨attempt,.inr (beside.manager.symm.trans waiting),rfl⟩

def Proved (s : State Address Passkey) (attempt : Attempt Address Passkey) : Prop :=
  ∃ proved, .authenticated proved ∈ s.observations ∧ proved.identity = attempt.identity

theorem Proved.carried {attempt after : Attempt Address Passkey} (proved : s.Proved attempt)
    (same : after.identity = attempt.identity) (logged : s.observations ⊆ next.observations) : next.Proved after := by
  obtain ⟨earlier,known,identical⟩ := proved
  exact ⟨earlier,logged known,identical.trans same.symm⟩

structure Proven (s : State Address Passkey) : Prop where
  reading : ∀ attempt, s.attempt = some attempt → attempt.stage = .reading → s.Proved attempt
  waiting : ∀ attempt bootId, s.Verified attempt bootId → s.Proved attempt

namespace Proven

theorem idle (idle : s.attempt = none) (elsewhere : ∀ attempt bootId, s.manager ≠ .readingBoot attempt bootId) :
    s.Proven :=
  ⟨fun _ known => (nomatch idle.symm.trans known),
    fun attempt bootId verified => absurd verified (not_verified idle elsewhere attempt bootId)⟩

theorem managerEffect (consistent : s.Consistent) (effect : ManagerEffect host s next) : next.Proven := by
  rcases managerEffect_idle consistent effect with ⟨idle,elsewhere⟩ | ⟨target,_,rfl⟩
  · exact .idle idle elsewhere
  · refine ⟨?_,?_⟩
    · rintro _ ⟨⟩ ⟨⟩
    · rintro attempt bootId (⟨⟨⟩,⟨⟩⟩ | ⟨⟨⟩⟩)

theorem taken (proven : s.Proven) (taken : Taken host s answer next) : next.Proven := by
  cases taken with
  | drops => exact .idle rfl (by rintro _ _ ⟨⟩)
  | fails attempt error => exact .idle (handleFailure_idle (some attempt) error).1 (handleFailure_idle (some attempt) error).2
  | scans generation error => exact .idle (handleFailure_idle none error).1 (handleFailure_idle none error).2
  | reads attempt bootId known finished =>
    refine ⟨by rintro _ ⟨⟩,?_⟩
    rintro _ _ (⟨⟨⟩,_⟩ | ⟨⟨⟩⟩)
    exact proven.waiting attempt bootId (.inl ⟨known,finished⟩)

theorem commit [DecidableEq Address] (attempt : Attempt Address Passkey) (bootId : BootId) (saved : Bool) :
    (s.taken.commit host attempt bootId saved).Proven := by
  rcases commit_cases attempt bootId saved with ⟨key,passkey,_,_,same⟩ | same <;> rw [same]
  · exact .idle rfl (by rintro _ _ ⟨⟩)
  · exact .idle (handleFailure_idle (some attempt) .other).1 (handleFailure_idle (some attempt) .other).2

theorem attempts (consistent : s.Consistent) {attempt after : Attempt Address Passkey}
    (known : s.attempt = some attempt) (continued : next.attempt = some after) (manager : next.manager = s.manager)
    (reading : after.stage = .reading → next.Proved after)
    (waiting : ∀ bootId, after.stage = .finished (.verified bootId) → next.Proved after) : next.Proven where
  reading := by
    intro other present
    cases Option.some.inj (continued.symm.trans present)
    exact reading
  waiting := by
    have attempting : next.manager = .attempting := manager.trans (consistent.coupled (by simp [known]))
    rintro other bootId (⟨present,finished⟩ | elsewhere)
    · cases Option.some.inj (continued.symm.trans present)
      exact waiting bootId finished
    · exact nomatch attempting.symm.trans elsewhere

theorem attemptEffect (proven : s.Proven) (consistent : s.Consistent) {attempt : Attempt Address Passkey}
    (known : s.attempt = some attempt) (effect : AttemptEffect s attempt next) : next.Proven := by
  cases effect with
  | begins state stage created unlocked keeps fresh =>
    refine .attempts consistent known rfl rfl ?_ ?_
    · rcases fresh with rfl | rfl <;> exact nofun
    · rcases fresh with rfl | rfl <;> exact nofun
  | proves =>
    refine .attempts consistent known rfl rfl (fun _ => ?_) nofun
    exact ⟨attempt,List.mem_append_right _ (List.mem_singleton.mpr rfl),rfl⟩
  | verifies client reading =>
    refine .attempts consistent known rfl rfl nofun fun _ _ => ?_
    exact (proven.reading attempt known reading).carried rfl fun _ => id
  | _ => exact .attempts consistent known rfl rfl nofun nofun

theorem beside (proven : s.Proven) (beside : s.Beside next) : next.Proven where
  reading := by
    intro other present reading
    obtain ⟨old,before,same,stage⟩ := Consistent.requested beside.attempt present
    exact (proven.reading old before (stage.symm.trans reading)).carried same beside.logged
  waiting := by
    intro other bootId verified
    obtain ⟨old,before,same⟩ := beside.verified verified
    exact (proven.waiting old bootId before).carried same beside.logged

theorem step [DecidableEq Address] (proven : s.Proven) (consistent : s.Consistent) (ran : State.step host s action = some next) :
    next.Proven := by
  have effect := step_effects consistent.coupled consistent.resets ran
  cases action with
  | manager answer =>
    cases effect with
    | manages effects =>
      exact consistent.carry Proven (fun _ _ consistent _ => .managerEffect consistent) proven effects
    | takes taken effects =>
      exact (consistent.taken taken).carry Proven (fun _ _ consistent _ => .managerEffect consistent)
        (proven.taken taken) effects
    | commits attempt bootId saved => exact .commit attempt bootId saved
  | attempt answer =>
    cases effect with
    | attempts known effect => exact proven.attemptEffect consistent known effect
  | _ => exact proven.beside (stepEffect_beside effect rfl)

end Proven

def Carries (s : State Address Passkey) (attempt : Attempt Address Passkey) : Prop :=
  s.targetPasskey = attempt.passkey ∨ s.targetPasskey = none

structure Authentic (s : State Address Passkey) : Prop where
  inFlight : ∀ attempt, s.attempt = some attempt → attempt.generation = s.targetGeneration → s.Carries attempt
  waiting : ∀ attempt bootId, s.Verified attempt bootId → s.Carries attempt
  saved : ∀ address passkey attempt, .credentialSaved address passkey attempt ∈ s.observations →
    address = attempt.target ∧ attempt.passkey = some passkey ∧ s.Proved attempt

namespace Authentic

theorem idle (authentic : s.Authentic) (idle : next.attempt = none)
    (elsewhere : ∀ attempt bootId, next.manager ≠ .readingBoot attempt bootId) (logs : s.Logs next) :
    next.Authentic where
  inFlight := fun _ known => (nomatch idle.symm.trans known)
  waiting := fun attempt bootId verified => absurd verified (not_verified idle elsewhere attempt bootId)
  saved := fun address passkey attempt present => by
    obtain ⟨own,verified,proved⟩ := authentic.saved address passkey attempt (logs.saved _ _ _ present)
    exact ⟨own,verified,proved.carried rfl logs.kept⟩

theorem managerEffect (authentic : s.Authentic) (consistent : s.Consistent) (effect : ManagerEffect host s next) :
    next.Authentic := by
  have logs := managerEffect_logs effect
  rcases managerEffect_idle consistent effect with ⟨idle,elsewhere⟩ | ⟨target,_,rfl⟩
  · exact authentic.idle idle elsewhere logs
  · refine ⟨?_,?_,?_⟩
    · rintro _ ⟨⟩ _
      exact .inl rfl
    · rintro attempt bootId (⟨⟨⟩,⟨⟩⟩ | ⟨⟨⟩⟩)
    · intro address passkey attempt present
      obtain ⟨own,verified,proved⟩ := authentic.saved address passkey attempt (logs.saved _ _ _ present)
      exact ⟨own,verified,proved.carried rfl logs.kept⟩

theorem taken (authentic : s.Authentic) (taken : Taken host s answer next) : next.Authentic := by
  have take : s.taken.Authentic := authentic.idle rfl (by rintro _ _ ⟨⟩) (.same rfl)
  cases taken with
  | drops => exact take
  | fails attempt error =>
    have idle := handleFailure_idle (s := s.taken) (some attempt) error
    exact take.idle idle.1 idle.2 (handleFailure_logs (some attempt) error)
  | scans generation error =>
    have idle := handleFailure_idle (s := s.taken) none error
    exact take.idle idle.1 idle.2 (handleFailure_logs none error)
  | reads attempt bootId known finished =>
    refine ⟨by rintro _ ⟨⟩,?_,authentic.saved⟩
    rintro _ _ (⟨⟨⟩,_⟩ | ⟨⟨⟩⟩)
    exact authentic.waiting attempt bootId (.inl ⟨known,finished⟩)

theorem commit [DecidableEq Address] (authentic : s.Authentic) (proven : s.Proven) {attempt : Attempt Address Passkey} {bootId : BootId}
    (verified : s.Verified attempt bootId) (saved : Bool) :
    (s.taken.commit host attempt bootId saved).Authentic := by
  rcases commit_cases attempt bootId saved with ⟨key,passkey,valid,current,same⟩ | same <;> rw [same]
  · have proved := proven.waiting attempt bootId verified
    have own : attempt.passkey = some passkey := by
      rcases authentic.waiting attempt bootId verified with carried | forgotten
      · exact carried.symm.trans current
      · exact nomatch forgotten.symm.trans current
    have logged : s.observations ⊆
        ({ s.taken with lastBootId := some bootId }.enterConnected attempt key passkey).observations :=
      fun _ present => List.mem_append_left _ (List.mem_append_left _ (List.mem_append_left _ present))
    refine ⟨by rintro _ ⟨⟩,by rintro _ _ (⟨⟨⟩,_⟩ | ⟨⟨⟩⟩),?_⟩
    intro address saved known present
    rcases settlePendingConnect_observed .succeeded (.operationSucceeded · (some attempt)) present with
      present | ⟨operation,_,⟨⟩⟩
    rcases List.mem_append.mp present with present | entered
    · rcases List.mem_append.mp present with old | new
      · obtain ⟨same,verified,earlier⟩ := authentic.saved address saved known old
        exact ⟨same,verified,earlier.carried rfl logged⟩
      · cases List.mem_singleton.mp new
        exact ⟨rfl,own,proved.carried rfl logged⟩
    · cases List.mem_singleton.mp entered
  · have recorded : { s.taken with lastBootId := some bootId }.Authentic :=
      authentic.idle rfl (by rintro _ _ ⟨⟩) (.same rfl)
    have idle := handleFailure_idle (s := { s.taken with lastBootId := some bootId }) (some attempt) .other
    exact recorded.idle idle.1 idle.2 (handleFailure_logs (some attempt) .other)

theorem attempts (authentic : s.Authentic) (consistent : s.Consistent) {attempt after : Attempt Address Passkey}
    (known : s.attempt = some attempt) (continued : next.attempt = some after)
    (generation : after.generation = attempt.generation) (passkey : after.passkey = attempt.passkey)
    (target : next.targetGeneration = s.targetGeneration) (current : next.targetPasskey = s.targetPasskey)
    (manager : next.manager = s.manager)
    (waiting : ∀ bootId, after.stage = .finished (.verified bootId) → s.Carries attempt) (logs : s.Logs next) :
    next.Authentic where
  inFlight := by
    intro other present
    cases Option.some.inj (continued.symm.trans present)
    rw [generation,target,Carries,current,passkey]
    exact authentic.inFlight attempt known
  waiting := by
    have attempting : next.manager = .attempting := manager.trans (consistent.coupled (by simp [known]))
    rintro other bootId (⟨present,finished⟩ | elsewhere)
    · cases Option.some.inj (continued.symm.trans present)
      rw [Carries,current,passkey]
      exact waiting bootId finished
    · exact nomatch attempting.symm.trans elsewhere
  saved := fun address passkey attempt present => by
    obtain ⟨own,verified,proved⟩ := authentic.saved address passkey attempt (logs.saved _ _ _ present)
    exact ⟨own,verified,proved.carried rfl logs.kept⟩

theorem attemptEffect (authentic : s.Authentic) (consistent : s.Consistent) {attempt : Attempt Address Passkey}
    (known : s.attempt = some attempt) (effect : AttemptEffect s attempt next) : next.Authentic := by
  have appended : ∀ {more}, next.observations = s.observations ++ [.authenticated more] → s.Logs next := by
    intro more same
    refine ⟨fun _ present => same ▸ List.mem_append_left _ present,fun address passkey saved present => ?_⟩
    exact (List.mem_append.mp (same ▸ present)).elim id fun new => by cases List.mem_singleton.mp new
  cases effect with
  | begins state stage created unlocked keeps fresh =>
    refine authentic.attempts consistent known rfl rfl rfl rfl rfl rfl ?_ (.same rfl)
    rcases fresh with rfl | rfl <;> exact nofun
  | proves => exact authentic.attempts consistent known rfl rfl rfl rfl rfl rfl nofun (appended rfl)
  | verifies client reading current found =>
    refine authentic.attempts consistent known rfl rfl rfl rfl rfl rfl (fun _ _ => ?_) (.same rfl)
    obtain ⟨_,generation⟩ := Sound.superseded_false.mp current
    exact authentic.inFlight attempt known generation
  | closes clients observations resets ending guarded cancelRequested holds others closed observed =>
    refine authentic.attempts consistent known rfl rfl rfl rfl rfl rfl nofun ?_
    rcases observed with rfl | rfl
    · exact .same rfl
    · exact appended rfl
  | _ => exact authentic.attempts consistent known rfl rfl rfl rfl rfl rfl nofun (.same rfl)

theorem beside (authentic : s.Authentic) (consistent : s.Consistent) (beside : s.Beside next)
    (kept : ∀ attempt bootId, s.Verified attempt bootId → next.targetPasskey = s.targetPasskey ∨
      next.Carries attempt) : next.Authentic where
  inFlight := by
    intro other present current
    obtain ⟨old,before,same,_⟩ := Consistent.requested beside.attempt present
    obtain ⟨_,_,generation,passkey,_⟩ := Attempt.same_identity same
    rcases beside.superseded with ⟨target,kept | forgotten⟩ | newer
    · have carries := authentic.inFlight old before (generation.symm.trans (current.trans target))
      rwa [Carries,kept,passkey]
    · exact .inr forgotten
    · have older := consistent.attemptGeneration old before
      omega
  waiting := by
    intro other bootId verified
    obtain ⟨old,before,same⟩ := beside.verified verified
    obtain ⟨_,_,_,passkey,_⟩ := Attempt.same_identity same
    have carries := authentic.waiting old bootId before
    rw [Carries,passkey]
    rcases kept old bootId before with kept | carried
    · rwa [kept]
    · exact carried
  saved := fun address passkey attempt present => by
    obtain ⟨own,verified,proved⟩ := authentic.saved address passkey attempt (beside.saved _ _ _ present)
    exact ⟨own,verified,proved.carried rfl beside.logged⟩

theorem step [DecidableEq Address] [DecidableEq Passkey] (authentic : s.Authentic) (proven : s.Proven) (consistent : s.Consistent)
    (allowed : s.keepsPasskey host action) (ran : State.step host s action = some next) : next.Authentic := by
  have effect := step_effects consistent.coupled consistent.resets ran
  cases action with
  | manager answer =>
    cases effect with
    | manages effects =>
      exact consistent.carry Authentic (fun _ _ consistent authentic => authentic.managerEffect consistent) authentic
        effects
    | takes taken effects =>
      exact (consistent.taken taken).carry Authentic (fun _ _ consistent authentic => authentic.managerEffect consistent)
        (authentic.taken taken) effects
    | commits attempt bootId saved verified => exact authentic.commit proven verified saved
  | attempt answer =>
    cases effect with
    | attempts known effect => exact authentic.attemptEffect consistent known effect
  | _ =>
    refine authentic.beside consistent (stepEffect_beside effect rfl) fun attempt bootId verified => ?_
    rcases step_passkey consistent ran nofun with kept | forgotten | ⟨credential,installed,current⟩
    · exact .inl kept
    · exact .inr (.inr forgotten)
    · exact .inr (.inl (current.trans (keepsPasskey_selects consistent.coupled verified allowed installed).symm))

end Authentic

theorem proven_started (autoDiscover : Bool) (credentials : Address → Option Passkey) :
    (started autoDiscover credentials).Proven :=
  .idle rfl (by rintro _ _ ⟨⟩)

theorem authentic_started (autoDiscover : Bool) (credentials : Address → Option Passkey) :
    (started autoDiscover credentials).Authentic := by
  refine ⟨?_,?_,?_⟩
  · rintro _ ⟨⟩
  · rintro _ _ (⟨⟨⟩,_⟩ | ⟨⟨⟩⟩)
  · rintro _ _ _ ⟨⟩

theorem authentic_reached [DecidableEq Address] [DecidableEq Passkey] {credentials : Address → Option Passkey}
    (path : Execution.Path (State.step host) (fun s action => s.keepsPasskey host action)
      (started autoDiscover credentials) trace s) : s.Consistent ∧ s.Proven ∧ s.Authentic :=
  path.invariant (fun s => s.Consistent ∧ s.Proven ∧ s.Authentic)
    ⟨consistent_started autoDiscover credentials,proven_started autoDiscover credentials,
      authentic_started autoDiscover credentials⟩
    fun _ _ _ ⟨consistent,proven,authentic⟩ allowed ran =>
      ⟨consistent.step ran,proven.step consistent ran,authentic.step proven consistent allowed ran⟩

theorem handleFailure_credentials (attempt : Option (Attempt Address Passkey)) (error : ConnectionError) :
    (s.handleFailure attempt error).credentials = s.credentials := by
  rcases handleFailure_cases attempt error with ⟨_,same⟩ | ⟨_,_,same⟩ | ⟨_,_,same⟩ <;> rw [same] <;> rfl

theorem effects_credentials (effects : Effects host s next) : next.credentials = s.credentials := by
  induction effects with
  | refl => rfl
  | tail _ effect ih =>
    rw [← ih]
    cases effect with
    | fails error idle running missing => exact handleFailure_credentials none error
    | _ => rfl

theorem taken_credentials (taken : Taken host s answer next) : next.credentials = s.credentials := by
  cases taken with
  | fails attempt error => exact handleFailure_credentials (some attempt) error
  | scans generation error => exact handleFailure_credentials none error
  | _ => rfl

theorem credentials_recorded [DecidableEq Address] (consistent : s.Consistent) (ran : step host s action = some next)
    {key : Address} {passkey : Passkey} (held : next.credentials key = some passkey) :
    s.credentials key = some passkey ∨ ∃ attempt, host.registryKey attempt.target = some key ∧
      .credentialSaved attempt.target passkey attempt ∈ next.observations := by
  have effect := step_effects consistent.coupled consistent.resets ran
  cases action with
  | manager answer =>
    cases effect with
    | manages effects => exact .inl (effects_credentials effects ▸ held)
    | takes taken effects =>
      rw [effects_credentials effects,taken_credentials taken] at held
      exact .inl held
    | commits attempt bootId saved verified =>
      rcases commit_cases attempt bootId saved with ⟨place,current,valid,known,same⟩ | same <;> rw [same] at held ⊢
      · by_cases here : key = place
        · subst here
          have fresh : some current = some passkey := by
            simpa [enterConnected,observe,transition,completePendingConnect,settlePendingConnect] using held
          refine .inr ⟨attempt,valid,?_⟩
          rw [← Option.some.inj fresh]
          simp [enterConnected,observe,transition,completePendingConnect,settlePendingConnect]
        · exact .inl ((Function.update_of_ne here _ _).symm.trans held)
      · rw [handleFailure_credentials] at held
        exact .inl held
  | attempt answer =>
    cases effect with
    | attempts known effect => cases effect <;> exact .inl held
  | _ =>
    rcases (stepEffect_beside effect rfl).credentials key with kept | removed
    · exact .inl (kept.symm.trans held)
    · cases removed.symm.trans held

-- In a run without such selections, a credential is saved for the device that accepted it
-- in the attempt that is completed, and no other credential enters the registry.
theorem registry_soundness [DecidableEq Address] [DecidableEq Passkey] {credentials : Address → Option Passkey}
    (path : Execution.Path (State.step host) (fun s action => s.keepsPasskey host action)
      (started autoDiscover credentials) trace s)
    (allowed : s.keepsPasskey host action) (ran : step host s action = some next) :
    (∀ address passkey attempt, .credentialSaved address passkey attempt ∈ next.observations →
      address = attempt.target ∧ attempt.passkey = some passkey ∧
        ∃ proved, .authenticated proved ∈ next.observations ∧ proved.identity = attempt.identity) ∧
    ∀ key passkey, next.credentials key = some passkey → s.credentials key = some passkey ∨
      ∃ attempt, host.registryKey attempt.target = some key ∧
        .credentialSaved attempt.target passkey attempt ∈ next.observations := by
  obtain ⟨consistent,proven,authentic⟩ := authentic_reached path
  exact ⟨(authentic.step proven consistent allowed ran).saved,fun _ _ => credentials_recorded consistent ran⟩

def savesFor (address passkey : Nat) (s : State Nat Nat) : Bool :=
  s.keepsPasskey .plain (.manager (.file true)) &&
    (step .plain s (.manager (.file true))).any fun next => next.credentials address = some passkey

theorem registry_soundness_first_connection :
    ∃ (s : State Nat Nat) (attempt : Attempt Nat Nat), s.credentials 1 = some 11 ∧ attempt.passkey = some 11 ∧
      ∃ proved, .authenticated proved ∈ s.observations ∧ proved.identity = attempt.identity := by
  have passed : (Execution.run (Execution.guarded (step .plain) fun s action => s.keepsPasskey .plain action)
      (started false fun _ => none) firstAttempt).any
        (fun s => savesFor 1 11 s && decide (s.credentials 1 = none)) = true := by decide +kernel
  obtain ⟨trace,s,path,saving⟩ := Execution.guarded_checked passed
  simp only [savesFor,Bool.and_eq_true,decide_eq_true_eq] at saving
  obtain ⟨⟨allowed,saves⟩,empty⟩ := saving
  obtain ⟨next,ran,held⟩ := (Option.any_eq_true _ _).mp saves
  have held : next.credentials 1 = some 11 := by simpa using held
  obtain ⟨sound,recorded⟩ := registry_soundness path allowed ran
  rcases recorded 1 11 held with before | ⟨attempt,_,logged⟩
  · exact nomatch empty.symm.trans before
  · obtain ⟨_,own,proved⟩ := sound _ _ _ logged
    exact ⟨next,attempt,held,own,proved⟩

-- A caller replaces the passkey while the commit waits for the boot look-up: the device's
-- registry entry becomes a passkey that the device never saw.
def unprovenSaved (s : State Nat Nat) : Bool :=
  s.observations.any fun
    | .credentialSaved _ passkey attempt => attempt.passkey ≠ some passkey &&
      s.observations.all fun
        | .authenticated proved => proved.passkey ≠ some passkey
        | _ => true
    | _ => false

theorem replacement_saved :
    ∃ trace, ∃ (s : State Nat Nat) (address passkey : Nat) (attempt : Attempt Nat Nat),
      Execution.Path (step .plain) Execution.anyStep (started false fun _ => none) trace s ∧
        .credentialSaved address passkey attempt ∈ s.observations ∧ attempt.passkey ≠ some passkey ∧
          ∀ proved, .authenticated proved ∈ s.observations → proved.passkey ≠ some passkey := by
  have passed : (Execution.run (step .plain) (started false fun _ => none)
      (firstAttempt ++ [.connect 1 (some 99),.manager (.file true)])).any unprovenSaved = true := by decide +kernel
  obtain ⟨trace,s,path,unproven⟩ := Execution.run_checked passed
  obtain ⟨observation,logged,saved⟩ := List.any_eq_true.mp unproven
  cases observation with
  | credentialSaved address passkey attempt =>
    simp only [Bool.and_eq_true,decide_eq_true_eq,List.all_eq_true] at saved
    refine ⟨trace,s,address,passkey,attempt,path,logged,saved.1,fun proved present => ?_⟩
    simpa using saved.2 _ present
  | _ => cases saved

end State

end Thermometer.Controller
