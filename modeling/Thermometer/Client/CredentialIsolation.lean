import Thermometer.Client.RegistrySoundness
import Mathlib.Logic.Relation

-- Which device a passkey belongs to. The address and the passkey of the controller are
-- replaced together, except where a device without a credential is selected: that keeps
-- the passkey of the device before it.
namespace Thermometer.Controller

variable {Address Passkey : Type}
  {host : Host Address} {s next : State Address Passkey}

def Host.Same (host : Host Address) : Address → Address → Prop :=
  Relation.EqvGen fun left right => host.lower left = host.lower right ∨
    ∃ key, host.registryKey left = some key ∧ host.registryKey right = some key

theorem Host.same_lower {left right : Address} (equal : host.lower left = host.lower right) : host.Same left right :=
  .rel _ _ (.inl equal)

theorem Host.same_key {left right key : Address} (one : host.registryKey left = some key)
    (other : host.registryKey right = some key) : host.Same left right :=
  .rel _ _ (.inr ⟨key,one,other⟩)

def Belongs (host : Host Address) (credentials : Address → Option Passkey)
    (actions : List (State.Action Address Passkey)) (address : Address) (passkey : Passkey) : Prop :=
  ∃ known, host.Same known address ∧
    (.connect known (some passkey) ∈ actions ∨ .pair known (some passkey) ∈ actions ∨
      ∃ key, host.registryKey known = some key ∧ credentials key = some passkey)

namespace State

def keepsOwner [DecidableEq Address] (s : State Address Passkey) (host : Host Address) : Action Address Passkey → Bool
  | .connect selected none | .pair selected none =>
    s.targetPasskey.isNone || s.sameTarget host selected ||
      match s.lookup host selected with
      | some none => false
      | _ => true
  | _ => true

structure Isolated (s : State Address Passkey) (host : Host Address) (Owns : Address → Passkey → Prop) : Prop where
  paired : ∀ target passkey, s.state.target = some target → s.targetPasskey = some passkey → Owns target passkey
  untargeted : s.state.target = none → s.targetPasskey = none
  registry : ∀ address passkey, s.lookup host address = some (some passkey) → Owns address passkey
  inFlight : ∀ attempt, s.attempt = some attempt → ∀ passkey, attempt.passkey = some passkey →
    Owns attempt.target passkey
  reading : ∀ attempt bootId, s.manager = .readingBoot attempt bootId → ∀ passkey, attempt.passkey = some passkey →
    Owns attempt.target passkey
  remembered : ∀ target, s.manager = .rediscovering target s.targetGeneration →
    ∃ known, s.state.target = some known ∧ host.lower known = host.lower target
  suspended : ∀ call ∈ s.calls, ∀ selected credential, call.selection = some (selected,credential) →
    Owns selected credential
  started : ∀ attempt, .attemptStarted attempt ∈ s.observations → ∀ passkey, attempt.passkey = some passkey →
    Owns attempt.target passkey

namespace Isolated

variable {Owns : Address → Passkey → Prop}

theorem idle (isolated : s.Isolated host Owns) (idle : next.attempt = none)
    (elsewhere : ∀ attempt bootId, next.manager ≠ .readingBoot attempt bootId)
    (paired : ∀ target passkey, next.state.target = some target → next.targetPasskey = some passkey →
      Owns target passkey)
    (untargeted : next.state.target = none → next.targetPasskey = none)
    (remembered : ∀ target, next.manager = .rediscovering target next.targetGeneration →
      ∃ known, next.state.target = some known ∧ host.lower known = host.lower target)
    (credentials : next.credentials = s.credentials) (calls : next.calls = s.calls)
    (started : ∀ attempt, .attemptStarted attempt ∈ next.observations → .attemptStarted attempt ∈ s.observations) :
    next.Isolated host Owns where
  paired := paired
  untargeted := untargeted
  registry := by
    rw [show next.lookup host = s.lookup host by simp only [funext_iff,lookup,credentials,implies_true]]
    exact isolated.registry
  inFlight := fun _ known => nomatch idle.symm.trans known
  reading := fun attempt bootId waiting => absurd waiting (elsewhere attempt bootId)
  remembered := remembered
  suspended := by
    rw [calls]
    exact isolated.suspended
  started := fun attempt present => isolated.started attempt (started attempt present)

theorem failure (isolated : s.Isolated host Owns) (idle : s.attempt = none) (attempt : Option (Attempt Address Passkey))
    (error : ConnectionError) : (s.handleFailure attempt error).Isolated host Owns := by
  have started : ∀ known, .attemptStarted known ∈ (s.handleFailure attempt error).observations →
      .attemptStarted known ∈ s.observations := by
    intro known present
    rcases handleFailure_observed present with old | rejected | ⟨operation,_,failed⟩
    · exact old
    · cases rejected
    · cases failed
  rcases handleFailure_cases attempt error with ⟨_,same⟩ | ⟨_,_,same⟩ | ⟨_,_,same⟩ <;> rw [same] at started ⊢
  · exact isolated.idle idle (by rintro _ _ ⟨⟩) isolated.paired isolated.untargeted (by rintro _ ⟨⟩) rfl rfl started
  · exact isolated.idle idle (by rintro _ _ ⟨⟩) (by rintro _ _ _ ⟨⟩) (fun _ => rfl) (by rintro _ ⟨⟩) rfl rfl started
  · exact isolated.idle idle (by rintro _ _ ⟨⟩) isolated.paired isolated.untargeted (by rintro _ ⟨⟩) rfl rfl started

theorem managerEffect (isolated : s.Isolated host Owns) (consistent : s.Consistent)
    (shared : ∀ left right passkey, host.Same left right → Owns left passkey → Owns right passkey)
    (effect : ManagerEffect host s next) : next.Isolated host Owns := by
  cases effect with
  | moves state events number pending manager free rests keeps =>
    have forgets := Manager.rests_forgets rests
    refine isolated.idle (consistent.free_idle free) forgets.1 ?_ ?_ ?_ rfl rfl fun _ => id
    · simpa only [keeps.target] using isolated.paired
    · simpa only [keeps.target] using isolated.untargeted
    · exact fun target waiting => absurd waiting (forgets.2 _ _)
  | closes client manager free unlocked current holds =>
    have forgets := Manager.holdsLock_forgets holds
    exact isolated.idle (consistent.free_idle free) forgets.1 isolated.paired isolated.untargeted
      (fun target waiting => absurd waiting (forgets.2 _ _)) rfl rfl fun _ => id
  | closed holds =>
    exact isolated.idle (consistent.holding_idle holds) (by rintro _ _ ⟨⟩) isolated.paired isolated.untargeted
      (by rintro _ ⟨⟩) rfl rfl fun _ => id
  | recalls target stored selected missing idle running found =>
    refine isolated.idle idle (by simp [running]) ?_ ?_ (by simp [running]) rfl rfl fun _ => id
    · rintro other _ known ⟨⟩
      cases Option.some.inj (selected.symm.trans known)
      exact isolated.registry target stored found
    · exact fun unselected => nomatch selected.symm.trans unselected
  | rediscovers target selected running =>
    refine isolated.idle (consistent.coupled.idle (by simp [running])) (by rintro _ _ ⟨⟩) isolated.paired
      isolated.untargeted ?_ rfl rfl fun _ => id
    rintro _ ⟨⟩
    exact ⟨target,selected,rfl⟩
  | refreshes target refreshed state waiting same updated desired left unready =>
    refine isolated.idle (consistent.coupled.idle (by simp [waiting])) (by rintro _ _ ⟨⟩) ?_ ?_ (by rintro _ ⟨⟩)
      rfl rfl fun _ => id
    · intro other passkey known current
      cases Option.some.inj (updated.symm.trans known)
      obtain ⟨old,selected,device⟩ := isolated.remembered target waiting
      have spelled : host.Same old refreshed := Host.same_lower (device.trans same.symm)
      exact shared old refreshed passkey spelled (isolated.paired old passkey selected current)
    · exact fun unselected => nomatch updated.symm.trans unselected
  | starts target selected idle running =>
    refine { isolated with inFlight := ?_, reading := by rintro _ _ ⟨⟩, remembered := by rintro _ ⟨⟩, started := ?_ }
    · rintro _ ⟨⟩ passkey current
      exact isolated.paired target passkey selected current
    · intro attempt present passkey carried
      rcases List.mem_append.mp present with old | new
      · exact isolated.started attempt old passkey carried
      · cases List.mem_singleton.mp new
        exact isolated.paired target passkey selected carried
  | passes unselected idle running =>
    exact isolated.idle idle (by simp [running]) isolated.paired isolated.untargeted (by simp [running]) rfl rfl
      fun _ => id
  | discovers target credential phase credentialState unselected idle running found left =>
    refine isolated.idle idle (by simp [discover,transition,running]) ?_ (by rintro ⟨⟩)
      (by simp [discover,transition,running]) rfl rfl fun _ => id
    rintro _ passkey ⟨⟩ current
    have stored : credential = some passkey := current
    exact isolated.registry target passkey (stored ▸ found)
  | fails error idle running missing => exact isolated.failure idle none error

theorem take (isolated : s.Isolated host Owns) : s.taken.Isolated host Owns :=
  isolated.idle rfl (by rintro _ _ ⟨⟩) isolated.paired isolated.untargeted (by rintro _ ⟨⟩) rfl rfl fun _ => id

theorem taken (isolated : s.Isolated host Owns) (taken : Taken host s answer next) : next.Isolated host Owns := by
  cases taken with
  | drops => exact isolated.take
  | fails attempt error known finished => exact isolated.take.failure rfl (some attempt) error
  | scans generation error idle waiting failed => exact isolated.take.failure rfl none error
  | reads attempt bootId known finished =>
    refine { isolated with inFlight := by rintro _ ⟨⟩, reading := ?_, remembered := by rintro _ ⟨⟩ }
    rintro _ _ ⟨⟩
    exact isolated.inFlight attempt known

theorem commit [DecidableEq Address] (isolated : s.Isolated host Owns) (authentic : s.Authentic)
    (shared : ∀ left right passkey, host.Same left right → Owns left passkey → Owns right passkey)
    {attempt : Attempt Address Passkey} {bootId : BootId} (verified : s.Verified attempt bootId) (saved : Bool) :
    (s.taken.commit host attempt bootId saved).Isolated host Owns := by
  rcases commit_cases attempt bootId saved with ⟨key,passkey,valid,current,same⟩ | same <;> rw [same]
  · have own : attempt.passkey = some passkey := by
      rcases authentic.waiting attempt bootId verified with carried | forgotten
      · exact carried.symm.trans current
      · exact nomatch forgotten.symm.trans current
    have owned : Owns attempt.target passkey := by
      rcases verified with ⟨known,_⟩ | waiting
      · exact isolated.inFlight attempt known passkey own
      · exact isolated.reading attempt bootId waiting passkey own
    refine ⟨?_,by rintro ⟨⟩,?_,by rintro _ ⟨⟩,by rintro _ _ ⟨⟩,by rintro _ ⟨⟩,isolated.suspended,?_⟩
    · rintro _ other ⟨⟩ known
      cases Option.some.inj (current.symm.trans known)
      exact owned
    · intro address other found
      obtain ⟨place,named,held⟩ := Option.map_eq_some_iff.mp found
      by_cases here : place = key
      · subst here
        have fresh : Function.update s.credentials place (some passkey) place = some other := held
        rw [Function.update_self] at fresh
        cases Option.some.inj fresh
        exact shared _ _ _ (Host.same_key valid named) owned
      · exact isolated.registry address other
          (Option.map_eq_some_iff.mpr ⟨place,named,(Function.update_of_ne here _ _).symm.trans held⟩)
    · intro known present
      rcases settlePendingConnect_observed .succeeded (.operationSucceeded · (some attempt)) present with
        present | ⟨operation,_,⟨⟩⟩
      rcases List.mem_append.mp present with present | entered
      · rcases List.mem_append.mp present with old | new
        · exact isolated.started known old
        · cases List.mem_singleton.mp new
      · cases List.mem_singleton.mp entered
  · have recorded : { s.taken with lastBootId := some bootId }.Isolated host Owns :=
      isolated.idle rfl (by rintro _ _ ⟨⟩) isolated.paired isolated.untargeted (by rintro _ ⟨⟩) rfl rfl fun _ => id
    exact recorded.failure rfl (some attempt) .other

theorem attempts (isolated : s.Isolated host Owns) (consistent : s.Consistent) {attempt after : Attempt Address Passkey}
    (known : s.attempt = some attempt) (continued : next.attempt = some after)
    (address : after.target = attempt.target) (passkey : after.passkey = attempt.passkey)
    (manager : next.manager = s.manager) (calls : next.calls = s.calls) (device : next.state.target = s.state.target)
    (current : next.targetPasskey = s.targetPasskey) (credentials : next.credentials = s.credentials)
    (started : ∀ attempt, .attemptStarted attempt ∈ next.observations → .attemptStarted attempt ∈ s.observations) :
    next.Isolated host Owns := by
  have attempting : next.manager = .attempting := manager.trans (consistent.coupled (by simp [known]))
  refine ⟨?_,?_,?_,?_,by simp [attempting],by simp [attempting],?_,?_⟩
  · rw [device,current]
    exact isolated.paired
  · rw [device,current]
    exact isolated.untargeted
  · rw [show next.lookup host = s.lookup host by simp only [funext_iff,lookup,credentials,implies_true]]
    exact isolated.registry
  · intro other present
    cases Option.some.inj (continued.symm.trans present)
    rw [address,passkey]
    exact isolated.inFlight attempt known
  · rw [calls]
    exact isolated.suspended
  · exact fun other present => isolated.started other (started other present)

theorem attemptEffect (isolated : s.Isolated host Owns) (consistent : s.Consistent) {attempt : Attempt Address Passkey}
    (known : s.attempt = some attempt) (effect : AttemptEffect s attempt next) : next.Isolated host Owns := by
  cases effect with
  | begins state stage created unlocked keeps =>
    exact isolated.attempts consistent known rfl rfl rfl rfl rfl keeps.target rfl rfl fun _ => id
  | bonds state bond pairing keeps =>
    exact isolated.attempts consistent known rfl rfl rfl rfl rfl keeps.target rfl rfl fun _ => id
  | opens state client bootId connecting mine keeps =>
    exact isolated.attempts consistent known rfl rfl rfl rfl rfl keeps.target rfl rfl fun _ => id
  | proves =>
    refine isolated.attempts consistent known rfl rfl rfl rfl rfl rfl rfl rfl fun other present => ?_
    exact (List.mem_append.mp present).elim id fun new => by cases List.mem_singleton.mp new
  | closes clients observations resets ending guarded cancelRequested holds others closed observed =>
    refine isolated.attempts consistent known rfl rfl rfl rfl rfl rfl rfl rfl fun other present => ?_
    rcases observed with rfl | rfl
    · exact present
    · exact (List.mem_append.mp present).elim id fun new => by cases List.mem_singleton.mp new
  | _ => exact isolated.attempts consistent known rfl rfl rfl rfl rfl rfl rfl rfl fun _ => id

theorem beside (isolated : s.Isolated host Owns) (beside : s.Beside next)
    (paired : ∀ target passkey, next.state.target = some target → next.targetPasskey = some passkey →
      Owns target passkey)
    (untargeted : next.state.target = none → next.targetPasskey = none)
    (credentials : ∀ key passkey, next.credentials key = some passkey → s.credentials key = some passkey)
    (remembered : ∀ target, s.manager = .rediscovering target next.targetGeneration →
      ∃ known, next.state.target = some known ∧ host.lower known = host.lower target)
    (suspended : ∀ call ∈ next.calls, ∀ selected credential, call.selection = some (selected,credential) →
      Owns selected credential)
    (started : ∀ attempt, .attemptStarted attempt ∈ next.observations → .attemptStarted attempt ∈ s.observations) :
    next.Isolated host Owns where
  paired := paired
  untargeted := untargeted
  registry := fun address passkey found => by
    obtain ⟨key,named,held⟩ := Option.map_eq_some_iff.mp found
    exact isolated.registry address passkey (Option.map_eq_some_iff.mpr ⟨key,named,credentials key passkey held⟩)
  inFlight := fun attempt present passkey carried => by
    obtain ⟨old,before,same,_⟩ := Consistent.requested beside.attempt present
    obtain ⟨_,address,_,passkeys,_⟩ := Attempt.same_identity same
    exact address ▸ isolated.inFlight old before passkey (passkeys.symm.trans carried)
  reading := fun attempt bootId waiting => isolated.reading attempt bootId (beside.manager.symm.trans waiting)
  remembered := fun target waiting => remembered target (beside.manager.symm.trans waiting)
  suspended := suspended
  started := fun attempt present => isolated.started attempt (started attempt present)

theorem forgets (consistent : s.Consistent) {device : Option Address} (target : Address)
    (waiting : s.manager = .rediscovering target (s.targetGeneration + 1)) :
    ∃ known, device = some known ∧ host.lower known = host.lower target :=
  absurd (consistent.targetGeneration target _ waiting) (Nat.not_succ_le_self _)

theorem suspended_more (isolated : s.Isolated host Owns) {more : Call Address Passkey}
    (owned : ∀ selected credential, more.selection = some (selected,credential) → Owns selected credential) :
    ∀ call ∈ s.calls ++ [more], ∀ selected credential, call.selection = some (selected,credential) →
      Owns selected credential := by
  intro call present
  rcases List.mem_append.mp present with old | new
  · exact isolated.suspended call old
  · cases List.mem_singleton.mp new
    exact owned

theorem selectionEffect [DecidableEq Address] (isolated : s.Isolated host Owns) (consistent : s.Consistent) {selected : Address}
    {passkey : Option Passkey}
    (shared : ∀ left right passkey, host.Same left right → Owns left passkey → Owns right passkey)
    (supplied : ∀ credential, passkey = some credential → Owns selected credential)
    (allowed : passkey = none → s.lookup host selected = some none →
      s.targetPasskey = none ∨ s.sameTarget host selected)
    (effect : SelectionEffect host s selected passkey kind next) : next.Isolated host Owns := by
  have apart := selectionEffect_beside effect
  -- The credential of a call is the caller's own or the registry's.
  have owned : ∀ credential, passkey = some credential ∨ passkey = none ∧
      s.lookup host selected = some (some credential) → Owns selected credential := by
    rintro credential (given | ⟨_,found⟩)
    · exact supplied credential given
    · exact isolated.registry selected credential found
  cases effect with
  | already credential ready same =>
    refine isolated.beside apart isolated.paired isolated.untargeted (fun _ _ => id) isolated.remembered
      isolated.suspended fun attempt present => ?_
    exact (List.mem_append.mp present).elim id fun new => by cases List.mem_singleton.mp new
  | refused missing found =>
    refine isolated.beside apart ?_ (by rintro ⟨⟩) (fun _ _ => id) (forgets consistent) isolated.suspended fun _ => id
    rintro _ other ⟨⟩ current
    have held : s.targetPasskey = some other := current
    rcases allowed missing found with empty | same
    · exact nomatch empty.symm.trans held
    · obtain ⟨known,recorded,device⟩ := Option.map_eq_some_iff.mp (of_decide_eq_true same)
      exact shared known selected other (Host.same_lower device) (isolated.paired known other recorded held)
  | switches credential fromRegistry source connected other =>
    refine isolated.beside apart isolated.paired isolated.untargeted (fun _ _ => id) isolated.remembered
      (isolated.suspended_more ?_) fun _ => id
    rintro _ _ ⟨⟩
    exact owned credential source
  | selects credential fromRegistry source =>
    refine isolated.beside apart ?_ (by rintro ⟨⟩) (fun _ _ => id) (forgets consistent) isolated.suspended fun _ => id
    rintro _ _ ⟨⟩ ⟨⟩
    exact owned credential source

theorem resumed_suspended (isolated : s.Isolated host Owns) {index : Nat} {call after : Call Address Passkey}
    (known : s.calls[index]? = some call) (same : after.selection = none ∨ after.selection = call.selection) :
    ∀ call ∈ s.calls.set index after, ∀ selected credential, call.selection = some (selected,credential) →
      Owns selected credential := by
  intro other present selected credential selection
  obtain ⟨place,found⟩ := List.mem_iff_getElem?.mp present
  rcases getElem?_resumed found with ⟨rfl,rfl⟩ | ⟨_,old⟩
  · rcases same with none | same
    · exact nomatch none.symm.trans selection
    · exact isolated.suspended call (List.mem_of_getElem? known) selected credential (same.symm.trans selection)
  · exact isolated.suspended other (List.mem_of_getElem? old) selected credential selection

theorem callEffect [DecidableEq Address] (isolated : s.Isolated host Owns) (consistent : s.Consistent) {index : Nat}
    {call : Call Address Passkey} (known : s.calls[index]? = some call) (effect : CallEffect s index call next) :
    next.Isolated host Owns := by
  have apart := callEffect_beside effect
  cases effect with
  | proceeds state bond lock attempt operations pending discovery events after keeps released requests advances
      settled outside selection reset =>
    refine isolated.beside apart ?_ ?_ (fun _ _ => id) ?_ (isolated.resumed_suspended known (.inr selection)) fun _ => id
    · simpa only [keeps.target] using isolated.paired
    · simpa only [keeps.target] using isolated.untargeted
    · simpa only [keeps.target] using isolated.remembered
  | closes client after entering unlocked current holding selection reset =>
    exact isolated.beside apart isolated.paired isolated.untargeted (fun _ _ => id) isolated.remembered
      (isolated.resumed_suspended known (.inr selection)) fun _ => id
  | selects selected credential fromRegistry stage switching entering =>
    refine isolated.beside apart ?_ (by rintro ⟨⟩) (fun _ _ => id) (forgets consistent)
      (isolated.resumed_suspended known (.inl rfl)) fun _ => id
    rintro _ _ ⟨⟩ ⟨⟩
    exact isolated.suspended call (List.mem_of_getElem? known) selected credential (by rw [switching]; rfl)
  | resets key selected operation client state resetting keeps =>
    refine isolated.beside apart (by rintro _ _ _ ⟨⟩) (fun _ => rfl) ?_ ?_
      (isolated.resumed_suspended known (.inl rfl)) fun _ => id
    · intro other passkey held
      by_cases here : other = key
      · subst here
        exact nomatch (Function.update_self other (none : Option Passkey) s.credentials).symm.trans held
      · exact (Function.update_of_ne here _ _).symm.trans held
    · simpa only [keeps.target] using isolated.remembered

theorem step [DecidableEq Address] [DecidableEq Passkey] (isolated : s.Isolated host Owns) (consistent : s.Consistent)
    (authentic : s.Authentic)
    (shared : ∀ left right passkey, host.Same left right → Owns left passkey → Owns right passkey)
    (supplied : ∀ selected passkey, action = .connect selected (some passkey) ∨ action = .pair selected (some passkey) →
      Owns selected passkey)
    (allowed : s.keepsOwner host action) (ran : State.step host s action = some next) : next.Isolated host Owns := by
  have effect := step_effects consistent.coupled consistent.resets ran
  have apart := stepEffect_beside effect
  cases effect with
  | @connects selected passkey _ effect =>
    refine isolated.selectionEffect consistent shared (fun credential given => ?_) (fun missing found => ?_) effect
    · exact supplied selected credential (.inl (by rw [given]))
    · subst missing
      simpa [keepsOwner,found] using allowed
  | @pairs selected passkey _ effect =>
    refine isolated.selectionEffect consistent shared (fun credential given => ?_) (fun missing found => ?_) effect
    · exact supplied selected credential (.inr (by rw [given]))
    · subst missing
      simpa [keepsOwner,found] using allowed
  | @reconnects target _ known effect =>
    refine isolated.selectionEffect consistent shared ?_ (fun _ _ => .inr ?_) effect
    · intro credential given
      cases given
    · exact decide_eq_true (congrArg (Option.map host.lower) known)
  | disconnects =>
    exact isolated.beside (apart rfl) isolated.paired isolated.untargeted (fun _ _ => id) (forgets consistent)
      (isolated.suspended_more (by rintro _ _ ⟨⟩)) fun _ => id
  | forgets ready same =>
    obtain ⟨known,recorded,device⟩ := Option.map_eq_some_iff.mp (of_decide_eq_true same)
    refine isolated.beside (apart rfl) ?_ (by rintro ⟨⟩) (fun _ _ => id) (forgets consistent)
      (isolated.suspended_more (by rintro _ _ ⟨⟩)) fun _ => id
    rintro _ passkey ⟨⟩ current
    exact shared known _ passkey (Host.same_lower device) (isolated.paired known passkey recorded current)
  | scans =>
    exact isolated.beside (apart rfl) isolated.paired isolated.untargeted (fun _ _ => id) isolated.remembered
      (isolated.suspended_more (by rintro _ _ ⟨⟩)) fun _ => id
  | calls known effect => exact isolated.callEffect consistent known effect
  | manages effects =>
    exact consistent.carry (·.Isolated host Owns)
      (fun _ _ consistent isolated => isolated.managerEffect consistent shared) isolated effects
  | takes taken effects =>
    exact (consistent.taken taken).carry (·.Isolated host Owns)
      (fun _ _ consistent isolated => isolated.managerEffect consistent shared) (isolated.taken taken) effects
  | commits attempt bootId saved verified => exact isolated.commit authentic shared verified saved
  | attempts known effect => exact isolated.attemptEffect consistent known effect
  | polls effect =>
    cases effect
    exact isolated.beside (apart rfl) isolated.paired isolated.untargeted (fun _ _ => id) isolated.remembered
      isolated.suspended fun _ => id
  | breaks =>
    exact isolated.beside (apart rfl) isolated.paired isolated.untargeted (fun _ _ => id) isolated.remembered
      isolated.suspended fun _ => id
  | notices effect =>
    cases effect
    exact isolated.beside (apart rfl) isolated.paired isolated.untargeted (fun _ _ => id) isolated.remembered
      isolated.suspended fun _ => id

end Isolated

theorem belongs_shared {credentials : Address → Option Passkey} {actions : List (Action Address Passkey)}
    (left right : Address) (passkey : Passkey) (same : host.Same left right)
    (belongs : Belongs host credentials actions left passkey) : Belongs host credentials actions right passkey := by
  obtain ⟨known,spelled,source⟩ := belongs
  exact ⟨known,.trans _ _ _ spelled same,source⟩

theorem isolated_started (autoDiscover : Bool) (credentials : Address → Option Passkey)
    (actions : List (Action Address Passkey)) :
    (started autoDiscover credentials).Isolated host (Belongs host credentials actions) where
  paired := by rintro _ _ ⟨⟩
  untargeted := fun _ => rfl
  registry := fun address passkey found => by
    obtain ⟨key,named,held⟩ := Option.map_eq_some_iff.mp found
    exact ⟨address,.refl _,.inr (.inr ⟨key,named,held⟩)⟩
  inFlight := by rintro _ ⟨⟩
  reading := by rintro _ _ ⟨⟩
  remembered := by rintro _ ⟨⟩
  suspended := by rintro _ ⟨⟩
  started := by rintro _ ⟨⟩

-- The two conditions on a step: the commit of an attempt is not overtaken by another
-- passkey, and no device without a credential inherits one.
def keepsCredentials [DecidableEq Address] [DecidableEq Passkey] (s : State Address Passkey) (host : Host Address)
    (action : Action Address Passkey) : Bool :=
  s.keepsPasskey host action && s.keepsOwner host action

-- Every attempt of such a run uses a passkey that belongs to its device.
theorem credential_isolation [DecidableEq Address] [DecidableEq Passkey] {credentials : Address → Option Passkey}
    (path : Execution.Path (State.step host) (fun s action => s.keepsCredentials host action)
      (started autoDiscover credentials) trace s) :
    ∀ attempt passkey, .attemptStarted attempt ∈ s.observations → attempt.passkey = some passkey →
      Belongs host credentials (trace.map Prod.snd) attempt.target passkey := by
  let Owns := Belongs host credentials (trace.map Prod.snd)
  have reached : s.Consistent ∧ s.Proven ∧ s.Authentic ∧ s.Isolated host Owns := by
    refine path.recorded.invariant (fun s => s.Consistent ∧ s.Proven ∧ s.Authentic ∧ s.Isolated host Owns)
      ⟨consistent_started autoDiscover credentials,proven_started autoDiscover credentials,
        authentic_started autoDiscover credentials,isolated_started autoDiscover credentials _⟩ ?_
    intro s action next ⟨consistent,proven,authentic,isolated⟩ ⟨allowed,taken⟩ ran
    simp only [keepsCredentials,Bool.and_eq_true] at allowed
    have named : action ∈ trace.map Prod.snd := List.mem_map.mpr ⟨_,taken,rfl⟩
    refine ⟨consistent.step ran,proven.step consistent ran,authentic.step proven consistent allowed.1 ran,?_⟩
    refine isolated.step consistent authentic belongs_shared (fun selected passkey given => ?_) allowed.2 ran
    rcases given with rfl | rfl
    · exact ⟨selected,.refl _,.inl named⟩
    · exact ⟨selected,.refl _,.inr (.inl named)⟩
  exact fun attempt passkey present => reached.2.2.2.started attempt present passkey

theorem same_plain {left right : Nat} (same : Host.plain.Same left right) : left = right := by
  induction same with
  | rel left right close =>
    rcases close with equal | ⟨key,one,other⟩
    · exact equal
    · exact Option.some.inj (one.trans other.symm)
  | refl => rfl
  | symm _ _ _ ih => exact ih.symm
  | trans _ _ _ _ _ first second => exact first.trans second

theorem credential_isolation_first_attempt :
    ∃ (actions : List (Action Nat Nat)) (attempt : Attempt Nat Nat), attempt.target = 1 ∧ attempt.passkey = some 11 ∧
      Belongs .plain (fun _ => none) actions attempt.target 11 := by
  have passed : (Execution.run (Execution.guarded (step .plain) fun s action => s.keepsCredentials .plain action)
      (started false fun _ => none) (firstAttempt.take 3)).any (fun s =>
        s.observations.any fun
          | .attemptStarted attempt => attempt.target = 1 && attempt.passkey = some 11
          | _ => false) = true := by decide +kernel
  obtain ⟨trace,s,path,started⟩ := Execution.guarded_checked passed
  obtain ⟨observation,logged,expected⟩ := List.any_eq_true.mp started
  cases observation with
  | attemptStarted attempt =>
    simp only [Bool.and_eq_true,decide_eq_true_eq] at expected
    exact ⟨_,attempt,expected.1,expected.2,credential_isolation path attempt 11 logged expected.2⟩
  | _ => cases expected

-- After an attempt that failed for another reason, a device without a credential is
-- selected: the call is refused, and the retry offers it the passkey of the device before.
def refusedSelection : List (Action Nat Nat) :=
  [.manager .done,.connect 1 (some 11),.manager .event,.attempt .done,.attempt (.failed .other),.attempt .done,
    .manager (.file true),.manager .done,.manager .done,.connect 2 none,.manager .timeout]

theorem passkey_inherited :
    ∃ trace, ∃ (s : State Nat Nat) (attempt : Attempt Nat Nat) (passkey : Nat),
      Execution.Path (step .plain) Execution.anyStep (started false fun _ => none) trace s ∧
        .attemptStarted attempt ∈ s.observations ∧ attempt.passkey = some passkey ∧
          ¬ Belongs .plain (fun _ => none) (trace.map Prod.snd) attempt.target passkey := by
  have passed : (Execution.run (step .plain) (started false fun _ => none) refusedSelection).any (fun s =>
      s.observations.any fun
        | .attemptStarted attempt => attempt.target = 2 && attempt.passkey = some 11
        | _ => false) = true := by decide +kernel
  obtain ⟨s,ran,offered⟩ := (Option.any_eq_true _ _).mp passed
  obtain ⟨trace,path,taken⟩ := Execution.run_path ran
  obtain ⟨observation,logged,expected⟩ := List.any_eq_true.mp offered
  cases observation with
  | attemptStarted attempt =>
    simp only [Bool.and_eq_true,decide_eq_true_eq] at expected
    refine ⟨trace,s,attempt,11,path,logged,expected.2,?_⟩
    rintro ⟨known,same,source⟩
    have only : known = 2 := (same_plain same).trans expected.1
    subst only
    simp [taken,refusedSelection] at source
  | _ => cases expected

end State

end Thermometer.Controller
