import Thermometer.Client.Consistency

-- What holds when the controller enters CONNECTED. The attempt looks at the target for
-- the last time inside `_open_connection`; until the manager has committed it, nothing
-- is looked at again, so the calls that interfere there have to be excluded.
namespace Thermometer.Controller

variable {Address Passkey : Type}
  {host : Host Address} {s next : State Address Passkey}

def State.Targets (s : State Address Passkey) (host : Host Address) (address : Address) : Prop :=
  s.state.target.map host.lower = some (host.lower address)

structure Entry.Sound (host : Host Address) (entry : Entry Address Passkey) : Prop where
  desired : entry.desiredConnected
  selected : entry.selected.map host.lower = entry.recorded.map host.lower
  recorded : entry.recorded = some entry.attempt.target
  generation : entry.generation = entry.attempt.generation
  client : entry.client = entry.attempt.client ∧ entry.client.isSome
  closed : entry.clientClosed = false

namespace State

def committing (s : State Address Passkey) : Bool :=
  match s.manager,s.attempt.map Attempt.stage with
  | .readingBoot _ _,_ | _,some (.finished (.verified _)) => true
  | _,_ => false

-- Until an attempt is committed, no call selects, disconnects or resets, none comes to
-- close the client, and none is under way to another device.
def undisturbed (s : State Address Passkey) : Action Address Passkey → Bool
  | .connect _ _ | .pair _ _ | .reconnect | .disconnect | .forgetPairing _ => !s.committing
  | .call index _ => !s.committing || s.calls[index]?.all fun call => !call.entersLock && !call.holdsLock
  | .manager _ => !s.committing || s.calls.all fun call => call.selection.isNone
  | _ => true

theorem committing_verified {attempt : Attempt Address Passkey} {bootId : BootId}
    (verified : s.Verified attempt bootId) : s.committing := by
  unfold committing
  rcases verified with ⟨known,finished⟩ | waiting
  · rw [known,Option.map_some,finished]
    split <;> simp_all
  · rw [waiting]

theorem not_verified (idle : s.attempt = none) (elsewhere : ∀ attempt bootId, s.manager ≠ .readingBoot attempt bootId)
    (attempt : Attempt Address Passkey) (bootId : BootId) : ¬ s.Verified attempt bootId := by
  rintro (⟨known,_⟩ | waiting)
  · exact nomatch idle.symm.trans known
  · exact elsewhere attempt bootId waiting

structure Sound (s : State Address Passkey) (host : Host Address) : Prop where
  selection : (∀ call ∈ s.calls, call.selection = none) → ∀ target, s.state.target = some target →
    s.selected.map host.lower = some (host.lower target)
  inFlight : ∀ attempt, s.attempt = some attempt → attempt.generation = s.targetGeneration →
    s.Targets host attempt.target
  remembered : ∀ target, s.manager = .rediscovering target s.targetGeneration → s.Targets host target
  waiting : ∀ attempt bootId, s.Verified attempt bootId →
    s.state.desiredConnected ∧ attempt.generation = s.targetGeneration ∧ s.client = attempt.client ∧
      s.OpenClient attempt ∧ s.Targets host attempt.target
  entries : ∀ entry, .connected entry ∈ s.observations → entry.Sound host

namespace Sound

theorem idle (idle : next.attempt = none)
    (elsewhere : ∀ attempt bootId, next.manager ≠ .readingBoot attempt bootId)
    (selection : (∀ call ∈ next.calls, call.selection = none) → ∀ target, next.state.target = some target →
      next.selected.map host.lower = some (host.lower target))
    (remembered : ∀ target, next.manager = .rediscovering target next.targetGeneration → next.Targets host target)
    (entries : ∀ entry, .connected entry ∈ next.observations → entry.Sound host) : next.Sound host :=
  ⟨selection,fun _ known => (nomatch idle.symm.trans known),remembered,
    fun attempt bootId verified => absurd verified (not_verified idle elsewhere attempt bootId),entries⟩

theorem failure (sound : s.Sound host) (idle : s.attempt = none) (attempt : Option (Attempt Address Passkey))
    (error : ConnectionError) : (s.handleFailure attempt error).Sound host := by
  have entries : ∀ entry, .connected entry ∈ (s.handleFailure attempt error).observations → entry.Sound host := by
    intro entry present
    rcases handleFailure_observed present with old | rejected | ⟨operation,_,failed⟩
    · exact sound.entries entry old
    · cases rejected
    · cases failed
  rcases handleFailure_cases attempt error with ⟨_,same⟩ | ⟨_,_,same⟩ | ⟨_,_,same⟩ <;> rw [same] at entries ⊢
  all_goals exact Sound.idle idle (by rintro _ _ ⟨⟩) sound.selection (by rintro _ ⟨⟩) entries

theorem managerEffect (sound : s.Sound host) (consistent : s.Consistent) (effect : ManagerEffect host s next) :
    next.Sound host := by
  cases effect with
  | moves state events number pending manager free rests keeps =>
    have forgets := Manager.rests_forgets rests
    refine Sound.idle (consistent.free_idle free) forgets.1 ?_ ?_ sound.entries
    · simpa only [keeps.target] using sound.selection
    · exact fun target waiting => absurd waiting (forgets.2 _ _)
  | closes client manager free unlocked current holds =>
    have forgets := Manager.holdsLock_forgets holds
    exact Sound.idle (consistent.free_idle free) forgets.1 sound.selection
      (fun target waiting => absurd waiting (forgets.2 _ _)) sound.entries
  | closed holds => exact Sound.idle (consistent.holding_idle holds) (by rintro _ _ ⟨⟩) sound.selection (by rintro _ ⟨⟩) sound.entries
  | recalls target stored selected missing idle running found =>
    exact Sound.idle idle (by simp [running]) sound.selection (by simp [running]) sound.entries
  | rediscovers target selected running =>
    refine Sound.idle (consistent.coupled.idle (by simp [running])) (by rintro _ _ ⟨⟩) sound.selection ?_ sound.entries
    rintro _ ⟨⟩
    exact congrArg (Option.map host.lower) selected
  | refreshes target refreshed state waiting same updated desired left unready =>
    refine Sound.idle (consistent.coupled.idle (by simp [waiting])) (by rintro _ _ ⟨⟩) ?_ (by rintro _ ⟨⟩) sound.entries
    intro calm other present
    cases Option.some.inj (updated.symm.trans present)
    obtain ⟨old,known,device⟩ := Option.map_eq_some_iff.mp (sound.remembered target waiting)
    have selection := sound.selection calm old known
    exact selection.trans (by rw [device,same])
  | starts target selected idle running =>
    refine ⟨sound.selection,?_,by rintro _ ⟨⟩,?_,?_⟩
    · rintro _ ⟨⟩ _
      exact congrArg (Option.map host.lower) selected
    · rintro attempt bootId (⟨⟨⟩,⟨⟩⟩ | ⟨⟨⟩⟩)
    · intro entry present
      rcases List.mem_append.mp present with old | new
      · exact sound.entries entry old
      · cases List.mem_singleton.mp new
  | passes unselected idle running =>
    exact Sound.idle idle (by simp [running]) sound.selection (by simp [running]) sound.entries
  | discovers target credential phase credentialState unselected idle running found left =>
    refine Sound.idle idle (by simp [discover,transition,running]) ?_ (by simp [discover,transition,running])
      sound.entries
    rintro _ _ ⟨⟩
    rfl
  | fails error idle running missing => exact sound.failure idle none error

theorem take (sound : s.Sound host) : s.taken.Sound host :=
  Sound.idle rfl (by rintro _ _ ⟨⟩) sound.selection (by rintro _ ⟨⟩) sound.entries

theorem taken (sound : s.Sound host) (taken : Taken host s answer next) : next.Sound host := by
  cases taken with
  | drops => exact sound.take
  | fails attempt error known finished => exact sound.take.failure rfl (some attempt) error
  | scans generation error idle waiting failed => exact sound.take.failure rfl none error
  | reads attempt bootId known finished =>
    refine ⟨sound.selection,by rintro _ ⟨⟩,by rintro _ ⟨⟩,?_,sound.entries⟩
    rintro _ _ (⟨⟨⟩,_⟩ | ⟨⟨⟩⟩)
    exact sound.waiting attempt bootId (.inl ⟨known,finished⟩)

theorem commit [DecidableEq Address] (sound : s.Sound host) {attempt : Attempt Address Passkey} {bootId : BootId}
    (verified : s.Verified attempt bootId) (calm : ∀ call ∈ s.calls, call.selection = none) (saved : Bool) :
    (s.taken.commit host attempt bootId saved).Sound host := by
  rcases commit_cases attempt bootId saved with ⟨key,passkey,valid,known,same⟩ | same <;> rw [same]
  · obtain ⟨desired,generation,mine,⟨index,client,owned,present,fresh,_⟩,device⟩ :=
      sound.waiting attempt bootId verified
    have selection : s.selected.map host.lower = some (host.lower attempt.target) := by
      obtain ⟨old,selected,device⟩ := Option.map_eq_some_iff.mp device
      exact (sound.selection calm old selected).trans (by rw [device])
    refine Sound.idle rfl (by rintro _ _ ⟨⟩) ?_ (by rintro _ ⟨⟩) ?_
    · rintro _ _ ⟨⟩
      exact selection
    · intro entry logged
      rcases settlePendingConnect_observed .succeeded (.operationSucceeded · (some attempt)) logged with
        logged | ⟨operation,_,⟨⟩⟩
      rcases List.mem_append.mp logged with logged | new
      · rcases List.mem_append.mp logged with old | saved
        · exact sound.entries entry old
        · cases List.mem_singleton.mp saved
      · cases List.mem_singleton.mp new
        have current : s.client = some index := mine.trans owned
        refine ⟨desired,selection,rfl,generation.symm,⟨mine,?_⟩,?_⟩
        · exact Option.isSome_iff_exists.mpr ⟨index,current⟩
        · change (s.client.bind (s.clients[·]?)).any Client.closed = false
          simp [current,present,fresh]
  · have recorded : { s.taken with lastBootId := some bootId }.Sound host :=
      Sound.idle rfl (by rintro _ _ ⟨⟩) sound.selection (by rintro _ ⟨⟩) sound.entries
    exact recorded.failure rfl (some attempt) .other

theorem attempts (sound : s.Sound host) (consistent : s.Consistent) {attempt after : Attempt Address Passkey}
    (known : s.attempt = some attempt) (continued : next.attempt = some after)
    (generation : after.generation = attempt.generation) (address : after.target = attempt.target)
    (manager : next.manager = s.manager) (calls : next.calls = s.calls)
    (target : next.targetGeneration = s.targetGeneration) (device : next.state.target = s.state.target)
    (selected : next.selected = s.selected)
    (entries : ∀ entry, .connected entry ∈ next.observations → .connected entry ∈ s.observations)
    (waiting : ∀ bootId, after.stage = .finished (.verified bootId) →
      next.state.desiredConnected ∧ after.generation = next.targetGeneration ∧ next.client = after.client ∧
        next.OpenClient after) : next.Sound host := by
  have inFlight : after.generation = next.targetGeneration → next.Targets host after.target := by
    rw [generation,target,address,Targets,device]
    exact sound.inFlight attempt known
  have attempting : next.manager = .attempting := manager.trans (consistent.coupled (by simp [known]))
  refine ⟨?_,?_,?_,?_,fun entry present => sound.entries entry (entries entry present)⟩
  · rw [calls,device,selected]
    exact sound.selection
  · intro other present
    cases Option.some.inj (continued.symm.trans present)
    exact inFlight
  · rw [attempting]
    exact nofun
  · rintro other bootId (⟨present,finished⟩ | elsewhere)
    · cases Option.some.inj (continued.symm.trans present)
      obtain ⟨desired,current,mine,opened⟩ := waiting bootId finished
      exact ⟨desired,current,mine,opened,inFlight current⟩
    · exact nomatch attempting.symm.trans elsewhere

theorem superseded_false {attempt : Attempt Address Passkey} : s.superseded attempt = false ↔
    s.state.desiredConnected = true ∧ attempt.generation = s.targetGeneration := by
  simp [superseded]

theorem attemptEffect (sound : s.Sound host) (consistent : s.Consistent) {attempt : Attempt Address Passkey}
    (known : s.attempt = some attempt) (effect : AttemptEffect s attempt next) : next.Sound host := by
  cases effect with
  | begins state stage created unlocked keeps fresh =>
    refine sound.attempts consistent known rfl rfl rfl rfl rfl rfl keeps.target rfl (fun _ => id) ?_
    rcases fresh with rfl | rfl <;> exact nofun
  | bonds state bond pairing keeps =>
    exact sound.attempts consistent known rfl rfl rfl rfl rfl rfl keeps.target rfl (fun _ => id) nofun
  | opens state client bootId connecting mine keeps current =>
    exact sound.attempts consistent known rfl rfl rfl rfl rfl rfl keeps.target rfl (fun _ => id) nofun
  | proves authenticating current =>
    refine sound.attempts consistent known rfl rfl rfl rfl rfl rfl rfl rfl ?_ nofun
    exact fun entry present => (List.mem_append.mp present).elim id fun new => by cases List.mem_singleton.mp new
  | verifies client reading current found =>
    refine sound.attempts consistent known rfl rfl rfl rfl rfl rfl rfl rfl (fun _ => id) fun _ _ => ?_
    obtain ⟨desired,generation⟩ := superseded_false.mp current
    exact ⟨desired,generation,consistent.current attempt known (by rw [reading]; rfl),
      consistent.opened attempt known (by rw [reading]; rfl)⟩
  | closes clients observations resets ending guarded cancelRequested holds others closed observed =>
    refine sound.attempts consistent known rfl rfl rfl rfl rfl rfl rfl rfl ?_ nofun
    intro entry present
    rcases observed with rfl | rfl
    · exact present
    · exact (List.mem_append.mp present).elim id fun new => by cases List.mem_singleton.mp new
  | ends resets ending closed guarded cancelRequested client closing left =>
    exact sound.attempts consistent known rfl rfl rfl rfl rfl rfl rfl rfl (fun _ => id) nofun
  | aborts created =>
    exact sound.attempts consistent known rfl rfl rfl rfl rfl rfl rfl rfl (fun _ => id) nofun

theorem selects (sound : s.Sound host) (consistent : s.Consistent) (free : s.committing = false)
    (generation : next.targetGeneration = s.targetGeneration + 1) (attempt : next.attempt = s.attempt)
    (manager : next.manager = s.manager)
    (selection : (∀ call ∈ next.calls, call.selection = none) → ∀ target, next.state.target = some target →
      next.selected.map host.lower = some (host.lower target))
    (entries : ∀ entry, .connected entry ∈ next.observations → .connected entry ∈ s.observations) :
    next.Sound host := by
  refine ⟨selection,?_,?_,?_,fun entry present => sound.entries entry (entries entry present)⟩
  · rw [attempt,generation]
    intro known present newer
    exact absurd (consistent.attemptGeneration known present) (by omega)
  · rw [manager,generation]
    intro target waiting
    exact absurd (consistent.targetGeneration target _ waiting) (by omega)
  · intro known bootId verified
    have before : s.Verified known bootId := by simpa only [Verified,attempt,manager] using verified
    simp [committing_verified before] at free

theorem steady (sound : s.Sound host) (attempt : s.RequestsCancel next.attempt) (manager : next.manager = s.manager)
    (generation : next.targetGeneration = s.targetGeneration) (kept : s.state.Keeps next.state)
    (selected : next.selected = s.selected)
    (calls : (∀ call ∈ next.calls, call.selection = none) → ∀ call ∈ s.calls, call.selection = none)
    (client : next.client = s.client) (clients : ∀ attempt, s.OpenClient attempt → next.OpenClient attempt)
    (entries : ∀ entry, .connected entry ∈ next.observations → .connected entry ∈ s.observations) :
    next.Sound host := by
  refine ⟨?_,?_,?_,?_,fun entry present => sound.entries entry (entries entry present)⟩
  · rw [kept.target,selected]
    exact fun calm => sound.selection (calls calm)
  · intro other present
    obtain ⟨old,before,same,_⟩ := Consistent.requested attempt present
    obtain ⟨_,address,same,_⟩ := Attempt.same_identity same
    rw [same,address,generation,Targets,kept.target]
    exact sound.inFlight old before
  · rw [manager,generation]
    intro target waiting
    rw [Targets,kept.target]
    exact sound.remembered target waiting
  · intro other bootId verified
    obtain ⟨old,before,same⟩ : ∃ old, s.Verified old bootId ∧ other.identity = old.identity := by
      rcases verified with ⟨present,finished⟩ | waiting
      · obtain ⟨old,before,same,stage⟩ := Consistent.requested attempt present
        exact ⟨old,.inl ⟨before,stage.symm.trans finished⟩,same⟩
      · exact ⟨other,.inr (manager.symm.trans waiting),rfl⟩
    obtain ⟨desired,current,mine,opened,device⟩ := sound.waiting old bootId before
    obtain ⟨_,address,era,_,owned,_⟩ := Attempt.same_identity same
    obtain ⟨index,found,known,present,fresh,place⟩ := clients old opened
    refine ⟨kept.desired.trans desired,?_,?_,⟨index,found,owned.trans known,present,fresh,place.trans address.symm⟩,?_⟩
    · rw [era,generation,current]
    · rw [client,owned,mine]
    · rw [Targets,kept.target,address]
      exact device

theorem selectionEffect [DecidableEq Address] (sound : s.Sound host) (consistent : s.Consistent) (free : s.committing = false)
    {selected : Address} (effect : SelectionEffect host s selected passkey kind next) : next.Sound host := by
  cases effect with
  | already credential ready same =>
    refine sound.steady (.inl rfl) rfl rfl .refl rfl id rfl (fun _ => id) ?_
    exact fun entry present => (List.mem_append.mp present).elim id fun new => by cases List.mem_singleton.mp new
  | refused missing found =>
    refine sound.selects consistent free rfl rfl rfl ?_ (fun _ => id)
    rintro _ _ ⟨⟩
    rfl
  | switches credential fromRegistry source connected other =>
    refine ⟨?_,sound.inFlight,sound.remembered,?_,sound.entries⟩
    · intro calm
      exact nomatch calm (.switching selected credential fromRegistry .history) (List.mem_append_right _ (by simp))
    · intro attempt bootId verified
      have waited : s.Verified attempt bootId := verified
      simp [committing_verified waited] at free
  | selects credential fromRegistry source =>
    refine sound.selects consistent free rfl rfl rfl ?_ (fun _ => id)
    rintro _ _ ⟨⟩
    rfl

theorem resumed_calm {index : Nat} {call after : Call Address Passkey} (known : s.calls[index]? = some call)
    (same : after.selection = call.selection)
    (calm : ∀ call ∈ s.calls.set index after, call.selection = none) : ∀ call ∈ s.calls, call.selection = none := by
  intro other present
  obtain ⟨place,found⟩ := List.mem_iff_getElem?.mp present
  by_cases here : index = place
  · subst here
    cases Option.some.inj (known.symm.trans found)
    rw [← same]
    exact calm after (List.mem_set (List.getElem?_eq_some_iff.mp known).1 after)
  · exact calm other (List.mem_of_getElem? (by rw [List.getElem?_set_ne here,found]))

theorem callEffect [DecidableEq Address] (sound : s.Sound host) (consistent : s.Consistent) {index : Nat} {call : Call Address Passkey}
    (known : s.calls[index]? = some call)
    (allowed : s.committing → call.entersLock = false ∧ call.holdsLock = false)
    (effect : CallEffect s index call next) : next.Sound host := by
  cases effect with
  | proceeds state bond lock attempt operations pending discovery events after keeps released requests advances
      settled outside selection reset =>
    exact sound.steady requests rfl rfl keeps rfl (resumed_calm known selection) rfl (fun _ => id) (fun _ => id)
  | closes client after entering unlocked current holding selection reset =>
    have free : s.committing = false := by
      rw [Bool.eq_false_iff]
      exact fun committing => by simp [(allowed committing).1] at entering
    refine ⟨fun calm => sound.selection (resumed_calm known selection calm),sound.inFlight,sound.remembered,?_,
      sound.entries⟩
    intro attempt bootId verified
    have waited : s.Verified attempt bootId := verified
    simp [committing_verified waited] at free
  | selects selected credential fromRegistry stage switching entering =>
    have free : s.committing = false := by
      rw [Bool.eq_false_iff]
      intro committing
      obtain ⟨outside,unlocked⟩ := allowed committing
      subst switching
      cases stage with
      | entering => cases outside
      | closing => cases unlocked
    refine sound.selects consistent free rfl rfl rfl ?_ (fun _ => id)
    rintro _ _ ⟨⟩
    rfl
  | resets key selected operation client state resetting keeps =>
    exact sound.steady (.inl rfl) rfl rfl keeps rfl (resumed_calm known (by rw [resetting]; rfl)) rfl (fun _ => id)
      (fun _ => id)

theorem step [DecidableEq Address] (sound : s.Sound host) (consistent : s.Consistent) (allowed : s.undisturbed action)
    (ran : State.step host s action = some next) : next.Sound host := by
  cases step_effects consistent.coupled consistent.resets ran with
  | connects effect => exact sound.selectionEffect consistent (by simpa [undisturbed] using allowed) effect
  | pairs effect => exact sound.selectionEffect consistent (by simpa [undisturbed] using allowed) effect
  | reconnects _ effect => exact sound.selectionEffect consistent (by simpa [undisturbed] using allowed) effect
  | disconnects =>
    exact sound.selects consistent (by simpa [undisturbed] using allowed) rfl rfl rfl
      (fun calm => sound.selection fun call present => calm call (List.mem_append_left _ present)) (fun _ => id)
  | forgets =>
    refine sound.selects consistent (by simpa [undisturbed] using allowed) rfl rfl rfl ?_ (fun _ => id)
    rintro _ _ ⟨⟩
    rfl
  | scans =>
    exact sound.steady (.inl rfl) rfl rfl .refl rfl (fun calm call present => calm call (List.mem_append_left _ present))
      rfl (fun _ => id) (fun _ => id)
  | calls known effect =>
    refine sound.callEffect consistent known (fun committing => ?_) effect
    simpa [undisturbed,committing,known] using allowed
  | manages effects =>
    exact consistent.carry (·.Sound host) (fun _ _ consistent sound => sound.managerEffect consistent) sound effects
  | takes taken effects =>
    exact (consistent.taken taken).carry (·.Sound host) (fun _ _ consistent sound => sound.managerEffect consistent)
      (sound.taken taken) effects
  | commits attempt bootId saved verified =>
    simp only [undisturbed,committing_verified verified,Bool.not_true,Bool.false_or,List.all_eq_true] at allowed
    exact sound.commit verified (fun call present => Option.isNone_iff_eq_none.mp (allowed call present)) saved
  | attempts known effect => exact sound.attemptEffect consistent known effect
  | polls effect =>
    cases effect with
    | moves => exact sound.steady (.inl rfl) rfl rfl .refl rfl id rfl (fun _ => id) (fun _ => id)
  | breaks =>
    exact sound.steady (.inl rfl) rfl rfl .refl rfl id rfl
      (fun _ opened => openClient_modify opened _ fun _ => ⟨rfl,rfl⟩) (fun _ => id)
  | notices effect =>
    cases effect with
    | moves => exact sound.steady (.inl rfl) rfl rfl .refl rfl id rfl (fun _ => id) (fun _ => id)

end Sound

theorem handleFailure_leaves {attempt : Option (Attempt Address Passkey)}
    (entered : (s.handleFailure attempt error).state.phase = .connected) : s.state.phase = .connected := by
  rcases handleFailure_cases attempt error with ⟨_,same⟩ | ⟨_,_,same⟩ | ⟨_,_,same⟩ <;> rw [same] at entered
  · exact entered
  · cases entered
  · simp only [scheduleRetry,transition] at entered
    split at entered <;> cases entered

theorem managerEffect_leaves (effect : ManagerEffect host s next) (entered : next.state.phase = .connected) :
    s.state.phase = .connected := by
  cases effect with
  | moves state events number pending manager free rests keeps => exact keeps.entered entered
  | refreshes target refreshed state waiting same updated desired left unready => exact absurd entered left
  | discovers target credential phase credentialState unselected idle running found left => exact absurd entered left
  | fails error idle running missing => exact handleFailure_leaves entered
  | _ => exact entered

theorem effects_leave (effects : Effects host s next) (entered : next.state.phase = .connected) :
    s.state.phase = .connected := by
  induction effects with
  | refl => exact entered
  | tail _ effect ih => exact ih (managerEffect_leaves effect entered)

theorem selectionEffect_leaves [DecidableEq Address] {selected : Address} (effect : SelectionEffect host s selected passkey kind next)
    (entered : next.state.phase = .connected) : s.state.phase = .connected := by
  cases effect with
  | already => exact entered
  | _ => cases entered

theorem enterConnected_recorded [DecidableEq Address] (attempt : Attempt Address Passkey) (key : Address) (passkey : Passkey) :
    .connected ((s.enterConnected attempt key passkey).entry attempt) ∈
      (s.enterConnected attempt key passkey).observations := by
  unfold enterConnected completePendingConnect settlePendingConnect
  simp only [observe,List.mem_append,List.mem_singleton]
  exact .inl (.inr rfl)

theorem commit_recorded [DecidableEq Address] (attempt : Attempt Address Passkey) (bootId : BootId) (saved : Bool)
    (entered : (s.commit host attempt bootId saved).state.phase = .connected) :
    s.state.phase = .connected ∨ .connected ((s.commit host attempt bootId saved).entry attempt) ∈
      (s.commit host attempt bootId saved).observations := by
  rcases commit_cases attempt bootId saved with ⟨key,passkey,valid,known,same⟩ | same
  · rw [same]
    exact .inr (enterConnected_recorded attempt key passkey)
  · rw [same] at entered
    have before := handleFailure_leaves entered
    exact .inl before

theorem connected_recorded [DecidableEq Address] (consistent : s.Consistent) (ran : step host s action = some next)
    (entered : next.state.phase = .connected) :
    s.state.phase = .connected ∨ ∃ attempt, .connected (next.entry attempt) ∈ next.observations := by
  cases step_effects consistent.coupled consistent.resets ran with
  | connects effect => exact .inl (selectionEffect_leaves effect entered)
  | pairs effect => exact .inl (selectionEffect_leaves effect entered)
  | reconnects _ effect => exact .inl (selectionEffect_leaves effect entered)
  | disconnects => cases entered
  | forgets => cases entered
  | scans => exact .inl entered
  | calls known effect =>
    cases effect with
    | proceeds state bond lock attempt operations pending discovery events after keeps => exact .inl (keeps.entered entered)
    | closes => exact .inl entered
    | selects => cases entered
    | resets key selected operation client state resetting keeps => exact .inl (keeps.entered entered)
  | manages effects => exact .inl (effects_leave effects entered)
  | takes taken effects =>
    have before := effects_leave effects entered
    cases taken with
    | drops => exact .inl before
    | fails | scans =>
      have earlier := handleFailure_leaves before
      exact .inl earlier
    | reads => exact .inl before
  | commits attempt bootId saved verified =>
    exact (commit_recorded attempt bootId saved entered).imp_right fun recorded => ⟨attempt,recorded⟩
  | attempts known effect =>
    cases effect with
    | begins state stage created unlocked keeps => exact .inl (keeps.entered entered)
    | bonds state bond pairing keeps => exact .inl (keeps.entered entered)
    | opens state client bootId connecting mine keeps => exact .inl (keeps.entered entered)
    | _ => exact .inl entered
  | polls effect =>
    cases effect with
    | moves => exact .inl entered
  | breaks => exact .inl entered
  | notices effect =>
    cases effect with
    | moves => exact .inl entered

theorem sound_started (autoDiscover : Bool) (credentials : Address → Option Passkey) :
    (started autoDiscover credentials).Sound host := by
  refine Sound.idle rfl ?_ ?_ ?_ ?_
  · rintro _ _ ⟨⟩
  · rintro _ _ ⟨⟩
  · rintro _ ⟨⟩
  · intro entry logged
    cases logged

theorem sound_reached [DecidableEq Address] {credentials : Address → Option Passkey}
    (path : Execution.Path (State.step host) (fun s action => s.undisturbed action)
      (started autoDiscover credentials) trace s) : s.Consistent ∧ s.Sound host :=
  path.invariant (fun s => s.Consistent ∧ s.Sound host)
    ⟨consistent_started autoDiscover credentials,sound_started autoDiscover credentials⟩
    fun _ _ _ ⟨consistent,sound⟩ allowed ran => ⟨consistent.step ran,sound.step consistent allowed ran⟩

-- In a run without such calls every entry into CONNECTED is sound, and the log misses none.
theorem connected_soundness [DecidableEq Address] {credentials : Address → Option Passkey}
    (path : Execution.Path (State.step host) (fun s action => s.undisturbed action)
      (started autoDiscover credentials) trace s)
    (allowed : s.undisturbed action) (ran : step host s action = some next) :
    (∀ entry, .connected entry ∈ next.observations → entry.Sound host) ∧
      (next.state.phase = .connected → s.state.phase = .connected ∨
        ∃ attempt, .connected (next.entry attempt) ∈ next.observations) := by
  obtain ⟨consistent,sound⟩ := sound_reached path
  exact ⟨(sound.step consistent allowed ran).entries,connected_recorded consistent ran⟩

-- A first connection with a supplied passkey, up to the end of its attempt, whose commit
-- waits for the boot look-up.
def firstAttempt : List (Action Nat Nat) :=
  [.manager .done,.connect 1 (some 11),.manager .event,.attempt .done,.attempt .done,.attempt (.connected 7),
    .attempt .done,.attempt .done,.manager (.file true)]

def enters (s : State Nat Nat) : Bool :=
  s.undisturbed (.manager (.file true)) &&
    (step .plain s (.manager (.file true))).any fun next =>
      next.state.phase = .connected && s.state.phase ≠ .connected

theorem connected_soundness_first_connection :
    ∃ (s : State Nat Nat) (entry : Entry Nat Nat), .connected entry ∈ s.observations ∧ entry.Sound .plain := by
  have passed : (Execution.run (Execution.guarded (step .plain) undisturbed) (started false fun _ => none)
      firstAttempt).any enters = true := by decide +kernel
  obtain ⟨trace,s,path,entering⟩ := Execution.guarded_checked passed
  simp only [enters,Bool.and_eq_true] at entering
  obtain ⟨next,ran,entered⟩ := (Option.any_eq_true _ _).mp entering.2
  simp only [Bool.and_eq_true,decide_eq_true_eq,ne_eq,decide_not,Bool.not_eq_true'] at entered
  obtain ⟨sound,recorded⟩ := connected_soundness path entering.1 ran
  rcases recorded entered.1 with already | ⟨attempt,logged⟩
  · exact absurd already (by simpa using entered.2)
  · exact ⟨next,_,logged,sound _ logged⟩

def mismatched (s : State Nat Nat) : Bool :=
  s.observations.any fun
    | .connected entry => entry.selected.map Host.plain.lower ≠ entry.recorded.map Host.plain.lower
    | _ => false

theorem connected_overtaken :
    ∃ trace, ∃ (s : State Nat Nat) (entry : Entry Nat Nat),
      Execution.Path (step .plain) Execution.anyStep (started false fun _ => none) trace s ∧
        .connected entry ∈ s.observations ∧ ¬ entry.Sound .plain := by
  have passed : (Execution.run (step .plain) (started false fun _ => none)
      (firstAttempt ++ [.connect 2 (some 22),.call 0 .done,.call 0 .done,.call 0 .done,.manager (.file true)])).any
        mismatched = true := by decide +kernel
  obtain ⟨trace,s,path,mismatch⟩ := Execution.run_checked passed
  obtain ⟨observation,logged,different⟩ := List.any_eq_true.mp mismatch
  cases observation with
  | connected entry =>
    refine ⟨trace,s,entry,path,logged,fun sound => ?_⟩
    simp [sound.selected] at different
  | _ => cases different

end State

end Thermometer.Controller
