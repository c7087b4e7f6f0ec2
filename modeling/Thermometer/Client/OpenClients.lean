import Thermometer.Client.Consistency

-- The clients on which nobody has called `close()`. `_open_connection` installs the new
-- client without looking at the current one, so the old one must be gone by then.
namespace Thermometer.Controller

variable {Address Passkey : Type}
  {host : Host Address} {s before next : State Address Passkey}

theorem AttemptStage.holdsLock_cases {stage : AttemptStage} (holds : stage.holdsLock) :
    stage.opened ∨ ∃ resets ending guarded, stage = .closing resets ending guarded := by
  cases stage with
  | closing resets ending guarded => exact .inr ⟨resets,ending,guarded,rfl⟩
  | created => cases holds
  | finished outcome => cases holds
  | _ => exact .inl rfl

namespace State

variable {client : ClientId}

def Unclosed (s : State Address Passkey) (index : ClientId) : Prop :=
  ∃ client, s.clients[index]? = some client ∧ client.closed = false

def AllClosed (s : State Address Passkey) : Prop := ∀ index, ¬ s.Unclosed index

def Referenced (s : State Address Passkey) (index : ClientId) : Prop :=
  s.client = some index ∨
    ∃ attempt, s.attempt = some attempt ∧ attempt.stage.opened ∧ attempt.client = some index

-- What one step leaves behind: a single open client that is still referenced, which is
-- the attempt's own while an attempt opens its connection and the new one where a client
-- becomes current, and no reference to an open client that got lost.
structure OneClient (before after : State Address Passkey) : Prop where
  single : ∀ left right, after.Unclosed left → after.Unclosed right → left = right
  referenced : ∀ index, after.Unclosed index → after.Referenced index
  opening : ∀ attempt, after.attempt = some attempt → attempt.stage.opened →
    ∀ index, after.Unclosed index → attempt.client = some index
  installed : ∀ client, after.client = some client → before.client ≠ some client →
    ∀ index, after.Unclosed index → index = client
  replaced : ∀ client, before.client = some client → after.client ≠ some client → ¬ after.Unclosed client

def vacant (s : State Address Passkey) : Bool :=
  s.client.all fun client => s.clients[client]?.all Client.closed

def opensVacant (s : State Address Passkey) : Action Address Passkey → Bool
  | .attempt .done => s.attempt.all fun attempt => attempt.stage ≠ .created || s.vacant
  | _ => true

theorem vacant_closed (vacant : s.vacant) (current : s.client = some client) : ¬ s.Unclosed client := by
  rintro ⟨known,present,fresh⟩
  simp [State.vacant,current,present,fresh] at vacant

theorem vacant_of_closed (closed : ∀ client, s.client = some client → ¬ s.Unclosed client) : s.vacant := by
  cases current : s.client with
  | none => simp [vacant,current]
  | some client =>
    cases present : s.clients[client]? with
    | none => simp [vacant,current,present]
    | some known =>
      cases fresh : known.closed with
      | true => simp [vacant,current,present,fresh]
      | false => exact absurd ⟨known,present,fresh⟩ (closed client current)

theorem same_clients (clients : next.clients = s.clients) (index : ClientId) :
    next.Unclosed index ↔ s.Unclosed index := by
  unfold Unclosed
  rw [clients]

theorem unclosed_modify {place : ClientId} {change : Client Address → Client Address}
    (clients : next.clients = s.clients.modify place change) (same : ∀ client, (change client).closed = client.closed)
    (index : ClientId) : next.Unclosed index ↔ s.Unclosed index := by
  unfold Unclosed
  rw [clients]
  by_cases here : place = index
  · subst here
    simp [same]
  · simp [here]

theorem unclosed_markClosed {index : ClientId} :
    (s.markClosed client).Unclosed index ↔ s.Unclosed index ∧ index ≠ client := by
  unfold Unclosed markClosed
  by_cases here : client = index
  · subst here
    simp
  · simp [here,Ne.symm here]

structure Tidy (s : State Address Passkey) : Prop where
  referenced : ∀ index, s.Unclosed index → s.Referenced index
  opening : ∀ attempt, s.attempt = some attempt → attempt.stage.opened →
    ∀ index, s.Unclosed index → attempt.client = some index
  closing : ∀ attempt resets ending guarded, s.attempt = some attempt →
    attempt.stage = .closing resets ending guarded → s.AllClosed

def Kept (before after : State Address Passkey) : Prop := after.client = before.client ∨ after.AllClosed

theorem Kept.frame (kept : before.Kept s) (client : next.client = s.client) (clients : next.clients = s.clients) :
    before.Kept next := by
  apply kept.imp
  · exact client.trans
  · exact fun closed index open' => closed index ((same_clients clients index).mp open')

namespace Tidy

theorem of_closed (closed : s.AllClosed) : s.Tidy :=
  ⟨fun index open' => absurd open' (closed index),fun _ _ _ index open' => absurd open' (closed index),
    fun _ _ _ _ _ _ => closed⟩

theorem outside (outside : ∀ attempt, s.attempt = some attempt → attempt.stage.holdsLock = false)
    (current : ∀ index, s.Unclosed index → s.client = some index) : s.Tidy := by
  refine ⟨fun index open' => .inl (current index open'),?_,?_⟩
  · intro attempt known opened
    have holds := AttemptStage.opened_holdsLock opened
    simp [outside attempt known] at holds
  · intro attempt resets ending guarded known closing
    have free := outside attempt known
    rw [closing] at free
    cases free

theorem current_open (tidy : s.Tidy) (outside : ∀ attempt, s.attempt = some attempt → attempt.stage.holdsLock = false)
    (open' : s.Unclosed index) : s.client = some index := by
  rcases tidy.referenced index open' with current | ⟨attempt,known,opened,_⟩
  · exact current
  · have holds := AttemptStage.opened_holdsLock opened
    simp [outside attempt known] at holds

theorem free (tidy : s.Tidy) (outside : ∀ attempt, s.attempt = some attempt → attempt.stage.holdsLock = false)
    (still : ∀ attempt, next.attempt = some attempt → attempt.stage.holdsLock = false)
    (client : next.client = s.client) (clients : next.clients = s.clients) : next.Tidy := by
  apply Tidy.outside still
  intro index open'
  exact client.trans (tidy.current_open outside ((same_clients clients index).mp open'))

theorem frame (tidy : s.Tidy) (attempt : s.RequestsCancel next.attempt) (client : next.client = s.client)
    (clients : ∀ index, next.Unclosed index ↔ s.Unclosed index) : next.Tidy := by
  refine ⟨?_,?_,?_⟩
  · intro index open'
    rcases tidy.referenced index ((clients index).mp open') with current | ⟨known,present,opened,mine⟩
    · exact .inl (client.trans current)
    · rcases attempt with same | ⟨old,before,cancelled⟩
      · exact .inr ⟨known,same.trans present,opened,mine⟩
      · cases Option.some.inj (before.symm.trans present)
        exact .inr ⟨_,cancelled,opened,mine⟩
  · intro known present opened index open'
    obtain ⟨old,before,same,stage⟩ := Consistent.requested attempt present
    obtain ⟨_,_,_,_,mine,_⟩ := Attempt.same_identity same
    rw [mine]
    exact tidy.opening old before (stage ▸ opened) index ((clients index).mp open')
  · intro known resets ending guarded present closing index open'
    obtain ⟨old,before,_,stage⟩ := Consistent.requested attempt present
    exact tidy.closing old resets ending guarded before (stage.symm.trans closing) index ((clients index).mp open')

theorem closes_all (tidy : s.Tidy) (consistent : s.Consistent) (unlocked : s.lifecycleLock = none)
    (current : s.client = some client) : (s.markClosed client).AllClosed := by
  intro index open'
  obtain ⟨old,other⟩ := unclosed_markClosed.mp open'
  have outside : ∀ attempt, s.attempt = some attempt → attempt.stage.holdsLock = false := by
    intro attempt known
    cases holds : attempt.stage.holdsLock with
    | false => rfl
    | true => exact nomatch unlocked.symm.trans (consistent.attemptLock attempt known holds)
  have here := tidy.current_open outside old
  exact other (Option.some.inj (here.symm.trans current))

end Tidy

namespace OneClient

theorem of_tidy (tidy : next.Tidy)
    (installed : ∀ client, next.client = some client → s.client ≠ some client →
      ∀ index, next.Unclosed index → index = client)
    (replaced : ∀ client, s.client = some client → next.client ≠ some client → ¬ next.Unclosed client) :
    OneClient s next := by
  refine ⟨?_,tidy.referenced,tidy.opening,installed,replaced⟩
  intro left right leftOpen rightOpen
  rcases tidy.referenced left leftOpen with here | ⟨attempt,known,opened,mine⟩
  · rcases tidy.referenced right rightOpen with there | ⟨attempt,known,opened,mine⟩
    · exact Option.some.inj (here.symm.trans there)
    · exact Option.some.inj ((tidy.opening attempt known opened left leftOpen).symm.trans mine)
  · exact Option.some.inj (mine.symm.trans (tidy.opening attempt known opened right rightOpen))

theorem of_kept (tidy : next.Tidy) (kept : s.Kept next) : OneClient s next := by
  apply of_tidy tidy
  · intro client current other index open'
    rcases kept with same | closed
    · exact absurd (same.symm.trans current) other
    · exact absurd open' (closed index)
  · intro client current other open'
    rcases kept with same | closed
    · exact other (same.trans current)
    · exact closed client open'

end OneClient

theorem handleFailure_clients (attempt : Option (Attempt Address Passkey)) (error : ConnectionError) :
    (s.handleFailure attempt error).client = s.client ∧ (s.handleFailure attempt error).clients = s.clients ∧
      (s.handleFailure attempt error).attempt = s.attempt := by
  rcases handleFailure_cases attempt error with ⟨_,same⟩ | ⟨_,_,same⟩ | ⟨_,_,same⟩ <;> rw [same] <;> exact ⟨rfl,rfl,rfl⟩

theorem managerEffect_tidy (consistent : s.Consistent) (holds : s.Tidy ∧ before.Kept s)
    (effect : ManagerEffect host s next) : next.Tidy ∧ before.Kept next := by
  obtain ⟨tidy,kept⟩ := holds
  have keeps : next.attempt = s.attempt → next.client = s.client → next.clients = s.clients →
      next.Tidy ∧ before.Kept next := fun attempt client clients =>
    ⟨tidy.frame (.inl attempt) client (same_clients clients),kept.frame client clients⟩
  cases effect with
  | closes client manager free unlocked current holding =>
    have closed := tidy.closes_all consistent unlocked current
    exact ⟨.of_closed closed,.inr closed⟩
  | starts target selected idle running =>
    refine ⟨tidy.free (by simp [idle]) ?_ rfl rfl,kept.frame rfl rfl⟩
    rintro _ ⟨⟩
    rfl
  | fails error idle running missing =>
    obtain ⟨client,clients,attempt⟩ := s.handleFailure_clients none error
    exact ⟨tidy.frame (.inl attempt) client (same_clients clients),kept.frame client clients⟩
  | _ => exact keeps rfl rfl rfl

theorem effects_tidy (consistent : s.Consistent) (tidy : s.Tidy) (kept : before.Kept s)
    (effects : Effects host s next) : next.Tidy ∧ before.Kept next :=
  consistent.carry (fun s => s.Tidy ∧ before.Kept s) (fun _ _ => managerEffect_tidy) ⟨tidy,kept⟩ effects

theorem finished_outside {attempt : Attempt Address Passkey} (known : s.attempt = some attempt)
    (finished : attempt.stage = .finished outcome) :
    ∀ attempt, s.attempt = some attempt → attempt.stage.holdsLock = false := by
  intro other present
  cases Option.some.inj (known.symm.trans present)
  rw [finished]
  rfl

theorem taken_tidy (tidy : s.Tidy) (taken : Taken host s answer next) :
    next.Tidy ∧ next.client = s.client ∧ next.clients = s.clients := by
  cases taken with
  | drops attempt ending known finished =>
    exact ⟨tidy.free (finished_outside known finished) nofun rfl rfl,rfl,rfl⟩
  | reads attempt bootId known finished =>
    exact ⟨tidy.free (finished_outside known finished) nofun rfl rfl,rfl,rfl⟩
  | fails attempt error known finished =>
    obtain ⟨client,clients,idle⟩ := s.taken.handleFailure_clients (some attempt) error
    exact ⟨tidy.free (finished_outside known finished) (by rw [idle]; exact nofun) client clients,client,clients⟩
  | scans generation error idle waiting failed =>
    obtain ⟨client,clients,still⟩ := s.taken.handleFailure_clients none error
    exact ⟨tidy.free (by rw [idle]; exact nofun) (by rw [still]; exact nofun) client clients,client,clients⟩

theorem commit_clients [DecidableEq Address] (attempt : Attempt Address Passkey) (bootId : BootId) (saved : Bool) :
    (s.taken.commit host attempt bootId saved).client = s.client ∧
      (s.taken.commit host attempt bootId saved).clients = s.clients ∧
      (s.taken.commit host attempt bootId saved).attempt = none := by
  rcases commit_cases attempt bootId saved with ⟨key,passkey,valid,known,same⟩ | same <;> rw [same]
  · exact ⟨rfl,rfl,rfl⟩
  · exact handleFailure_clients (some attempt) .other

theorem verified_outside (consistent : s.Consistent) {attempt : Attempt Address Passkey} (verified : s.Verified attempt bootId) :
    ∀ attempt, s.attempt = some attempt → attempt.stage.holdsLock = false := by
  rcases verified with ⟨known,finished⟩ | waiting
  · exact finished_outside known finished
  · have idle : s.attempt = none := consistent.coupled.idle (by simp [waiting])
    simp [idle]

theorem selectionEffect_clients [DecidableEq Address] {selected : Address} (effect : SelectionEffect host s selected passkey kind next) :
    next.client = s.client ∧ next.clients = s.clients ∧ next.attempt = s.attempt := by
  cases effect <;> exact ⟨rfl,rfl,rfl⟩

theorem callEffect_tidy [DecidableEq Address] (consistent : s.Consistent) (tidy : s.Tidy) (effect : CallEffect s index call next) :
    next.Tidy ∧ s.Kept next := by
  cases effect with
  | proceeds state bond lock attempt operations pending discovery events after keeps released requests =>
    exact ⟨tidy.frame requests rfl (same_clients rfl),.inl rfl⟩
  | closes client after entering unlocked current =>
    have closed := tidy.closes_all consistent unlocked current
    exact ⟨.of_closed closed,.inr closed⟩
  | selects => exact ⟨tidy.frame (.inl rfl) rfl (same_clients rfl),.inl rfl⟩
  | resets => exact ⟨tidy.frame (.inl rfl) rfl (same_clients rfl),.inl rfl⟩

theorem Tidy.attempting (tidy : s.Tidy) {attempt after : Attempt Address Passkey} (known : s.attempt = some attempt)
    (opened : attempt.stage.opened) (continued : next.attempt = some after) (still : after.stage.opened)
    (mine : after.client = attempt.client) (clients : ∀ index, next.Unclosed index ↔ s.Unclosed index) :
    next.Tidy := by
  have own : ∀ index, next.Unclosed index → after.client = some index := fun index open' =>
    mine.trans (tidy.opening attempt known opened index ((clients index).mp open'))
  refine ⟨fun index open' => .inr ⟨after,continued,still,own index open'⟩,?_,?_⟩
  · intro other present _
    cases Option.some.inj (continued.symm.trans present)
    exact own
  · intro other resets ending guarded present closing
    cases Option.some.inj (continued.symm.trans present)
    rw [closing] at still
    cases still

theorem closes_own (tidy : s.Tidy) {attempt : Attempt Address Passkey} (known : s.attempt = some attempt)
    (holds : attempt.stage.holdsLock) (others : s.KeepsOthers attempt next.clients)
    (closed : ∀ (index : ClientId) (client : Client Address), attempt.client = some index →
      next.clients[index]? = some client → client.closed) : next.AllClosed := by
  rintro index ⟨client,present,fresh⟩
  have other : attempt.client ≠ some index := by
    intro mine
    simp [closed index client mine present] at fresh
  have before : s.Unclosed index := ⟨client,(others index other).symm.trans present,fresh⟩
  rcases AttemptStage.holdsLock_cases holds with opened | ⟨resets,ending,guarded,closing⟩
  · exact other (tidy.opening attempt known opened index before)
  · exact tidy.closing attempt resets ending guarded known closing index before

theorem attemptEffect_tidy (consistent : s.Consistent) (tidy : s.Tidy) {attempt : Attempt Address Passkey}
    (known : s.attempt = some attempt) (effect : AttemptEffect s attempt next)
    (vacant : attempt.stage = .created → next.lifecycleLock ≠ s.lifecycleLock → s.vacant) :
    next.Tidy ∧ OneClient s next := by
  have only : attempt.stage.holdsLock = false → ∀ other, s.attempt = some other → other.stage.holdsLock = false := by
    intro outside other present
    cases Option.some.inj (known.symm.trans present)
    exact outside
  have kept : next.Tidy → s.Kept next → next.Tidy ∧ OneClient s next := fun tidy kept => ⟨tidy,.of_kept tidy kept⟩
  have made : next.Tidy →
      (∀ client, next.client = some client → s.client ≠ some client → ∀ index, next.Unclosed index → index = client) →
      (∀ client, s.client = some client → next.client ≠ some client → ¬ next.Unclosed client) →
      next.Tidy ∧ OneClient s next := fun tidy installed replaced => ⟨tidy,.of_tidy tidy installed replaced⟩
  cases effect with
  | begins state stage created unlocked keeps fresh =>
    have empty := vacant created (by simp [unlocked])
    have own : ∀ index, { s with clients := s.clients ++ [(⟨attempt.target,0,false,false⟩ : Client Address)] }.Unclosed index →
        index = s.clients.length := by
      rintro index ⟨client,present,open'⟩
      rcases Nat.lt_or_ge index s.clients.length with old | new
      · have before : s.Unclosed index := ⟨client,by simpa [List.getElem?_append_left old] using present,open'⟩
        have current := tidy.current_open (only (by rw [created]; rfl)) before
        exact absurd before (vacant_closed empty current)
      · have bound := (List.getElem?_eq_some_iff.mp present).1
        simp only [List.length_append,List.length_singleton] at bound
        omega
    have opened : stage.opened := by rcases fresh with rfl | rfl <;> rfl
    refine kept ⟨?_,?_,?_⟩ (.inl rfl)
    · exact fun index open' => .inr ⟨_,rfl,opened,congrArg some (own index open').symm⟩
    · rintro _ ⟨⟩ _ index open'
      exact congrArg some (own index open').symm
    · rintro _ resets ending guarded ⟨⟩ rfl
      cases opened
  | bonds state bond pairing keeps =>
    exact kept (tidy.attempting known (by rw [pairing]; rfl) rfl rfl rfl (same_clients rfl)) (.inl rfl)
  | opens state client bootId connecting mine keeps current =>
    have opened : attempt.stage.opened := by rw [connecting]; rfl
    have clients : ∀ index, { s with clients := s.clients.modify client ({ · with bootId := bootId, isConnected := true }) }.Unclosed index ↔
        s.Unclosed index := unclosed_modify rfl fun _ => rfl
    have own : ∀ index, s.Unclosed index → index = client := fun index open' =>
      Option.some.inj ((tidy.opening attempt known opened index open').symm.trans mine)
    refine made (tidy.attempting known opened rfl rfl rfl clients) ?_ ?_
    · rintro _ ⟨⟩ _ index open'
      exact own index ((clients index).mp open')
    · intro old _ other open'
      exact other (congrArg some (own old ((clients old).mp open')).symm)
  | proves authenticating current =>
    exact kept (tidy.attempting known (by rw [authenticating]; rfl) rfl rfl rfl (same_clients rfl)) (.inl rfl)
  | verifies client reading current found =>
    have mine := consistent.current attempt known (by rw [reading]; rfl)
    refine kept (.outside ?_ fun index open' => ?_) (.inl rfl)
    · rintro _ ⟨⟩
      rfl
    · exact mine.trans (tidy.opening attempt known (by rw [reading]; rfl) index open')
  | closes clients observations resets ending guarded cancelRequested holds others closed =>
    have all : AllClosed { s with clients := clients } := closes_own tidy known holds others closed
    exact kept (.of_closed all) (.inl rfl)
  | ends resets ending closed guarded cancelRequested client closing =>
    have all := tidy.closing attempt resets closed guarded known closing
    exact kept (.of_closed all) (.inr all)
  | aborts created =>
    refine kept (tidy.free (only (by rw [created]; rfl)) ?_ rfl rfl) (.inl rfl)
    rintro _ ⟨⟩
    rfl

theorem attemptStep_created [DecidableEq Address] {attempt : Attempt Address Passkey} (created : attempt.stage = .created)
    (ran : s.attemptStep host attempt answer = some next) :
    answer = .done ∧ next = s.beginAttempt host attempt ∨
      answer = .cancelled ∧ next.lifecycleLock = s.lifecycleLock := by
  cases answer with
  | done =>
    simp only [attemptStep,created] at ran
    split at ran
    · cases ran
    · exact .inl ⟨rfl,(Option.some.inj ran).symm⟩
  | cancelled =>
    simp only [attemptStep,created] at ran
    split at ran <;> cases ran
    exact .inr ⟨rfl,rfl⟩
  | _ => simp [attemptStep,created] at ran

theorem step_tidy [DecidableEq Address] (consistent : s.Consistent) (tidy : s.Tidy) (allowed : s.opensVacant action)
    (ran : step host s action = some next) : next.Tidy ∧ OneClient s next := by
  have kept : next.Tidy ∧ s.Kept next → next.Tidy ∧ OneClient s next := fun both => ⟨both.1,.of_kept both.1 both.2⟩
  have still : next.client = s.client → next.clients = s.clients → next.attempt = s.attempt →
      next.Tidy ∧ OneClient s next := fun client clients attempt =>
    kept ⟨tidy.frame (.inl attempt) client (same_clients clients),.inl client⟩
  cases step_effects consistent.coupled consistent.resets ran with
  | connects effect | pairs effect | reconnects _ effect =>
    obtain ⟨client,clients,attempt⟩ := selectionEffect_clients effect
    exact still client clients attempt
  | disconnects | forgets | scans => exact still rfl rfl rfl
  | calls known effect => exact kept (callEffect_tidy consistent tidy effect)
  | manages effects => exact kept (effects_tidy consistent tidy (.inl rfl) effects)
  | takes taken effects =>
    obtain ⟨between,client,_⟩ := taken_tidy tidy taken
    exact kept (effects_tidy (consistent.taken taken) between (.inl client) effects)
  | commits attempt bootId saved verified =>
    obtain ⟨client,clients,idle⟩ := s.commit_clients attempt bootId saved
    exact kept ⟨tidy.free (verified_outside consistent verified) (by rw [idle]; exact nofun) client clients,.inl client⟩
  | attempts known effect =>
    apply attemptEffect_tidy consistent tidy known effect
    intro created takes
    obtain ⟨attempt,present,stepped⟩ := Option.bind_eq_some_iff.mp ran
    cases Option.some.inj (known.symm.trans present)
    rcases attemptStep_created created stepped with ⟨rfl,_⟩ | ⟨_,same⟩
    · simpa [opensVacant,known,created] using allowed
    · exact absurd same takes
  | polls effect =>
    cases effect with
    | moves => exact still rfl rfl rfl
  | breaks =>
    exact kept ⟨tidy.frame (.inl rfl) rfl (unclosed_modify rfl fun _ => rfl),.inl rfl⟩
  | notices effect =>
    cases effect with
    | moves => exact still rfl rfl rfl

theorem tidy_started (autoDiscover : Bool) (credentials : Address → Option Passkey) :
    (started autoDiscover credentials).Tidy := by
  apply Tidy.of_closed
  rintro index ⟨client,present,_⟩
  cases present

theorem tidy_reached [DecidableEq Address] {credentials : Address → Option Passkey}
    (path : Execution.Path (State.step host) (fun s action => s.opensVacant action)
      (started autoDiscover credentials) trace s) : s.Consistent ∧ s.Tidy :=
  path.invariant (fun s => s.Consistent ∧ s.Tidy)
    ⟨consistent_started autoDiscover credentials,tidy_started autoDiscover credentials⟩
    fun _ _ _ ⟨consistent,tidy⟩ allowed ran => ⟨consistent.step ran,(step_tidy consistent tidy allowed ran).1⟩

theorem begins_second [DecidableEq Address] {attempt : Attempt Address Passkey} (occupied : s.vacant = false) :
    ¬ OneClient s (s.beginAttempt host attempt) := by
  intro one
  have clients : (s.beginAttempt host attempt).clients = s.clients ++ [(⟨attempt.target,0,false,false⟩ : Client Address)] := by
    unfold beginAttempt
    dsimp only
    split <;> rfl
  obtain ⟨client,current,⟨known,present,fresh⟩⟩ : ∃ client, s.client = some client ∧ s.Unclosed client := by
    by_contra none
    have vacant : s.vacant := vacant_of_closed fun client current open' => none ⟨client,current,open'⟩
    simp [vacant] at occupied
  have bound := (List.getElem?_eq_some_iff.mp present).1
  have old : (s.beginAttempt host attempt).Unclosed client :=
    ⟨known,by rw [clients,List.getElem?_append_left bound,present],fresh⟩
  have new : (s.beginAttempt host attempt).Unclosed s.clients.length := ⟨⟨attempt.target,0,false,false⟩,by rw [clients]; simp,rfl⟩
  exact Nat.ne_of_lt bound (one.single client s.clients.length old new)

-- As long as no attempt starts next to an open client, every step leaves at most one
-- open client and loses none; the first such start breaks it.
theorem one_open_client [DecidableEq Address] {credentials : Address → Option Passkey}
    (path : Execution.Path (State.step host) (fun s action => s.opensVacant action)
      (started autoDiscover credentials) trace s)
    (ran : step host s action = some next) : OneClient s next ↔ s.opensVacant action := by
  obtain ⟨consistent,tidy⟩ := tidy_reached path
  refine ⟨fun one => ?_,fun allowed => (step_tidy consistent tidy allowed ran).2⟩
  by_contra refused
  cases action with
  | attempt answer =>
    cases answer with
    | done =>
      obtain ⟨attempt,known,stepped⟩ := Option.bind_eq_some_iff.mp ran
      have both : attempt.stage = .created ∧ s.vacant = false := by simpa [opensVacant,known] using refused
      rcases attemptStep_created both.1 stepped with ⟨_,rfl⟩ | ⟨cancelled,_⟩
      · exact begins_second both.2 one
      · cases cancelled
    | _ => exact refused rfl
  | _ => exact refused rfl

def firstOpening : List (Action Nat Nat) :=
  [.manager .done,.connect 1 (some 11),.manager .event,.attempt .done,.attempt .done]

def installs (s : State Nat Nat) : Bool :=
  (step .plain s (.attempt (.connected 7))).any fun next => next.client = some 0 && next.clients[0]?.any (!·.closed)

theorem one_open_client_first_connection : ∃ s next : State Nat Nat,
    next.client = some 0 ∧ next.Unclosed 0 ∧ OneClient s next := by
  have passed : (Execution.run (Execution.guarded (step .plain) opensVacant) (started false fun _ => none)
      firstOpening).any installs = true := by decide +kernel
  obtain ⟨trace,s,path,installing⟩ := Execution.guarded_checked passed
  obtain ⟨next,ran,current⟩ := (Option.any_eq_true _ _).mp installing
  simp only [Bool.and_eq_true,decide_eq_true_eq] at current
  obtain ⟨client,present,fresh⟩ := (Option.any_eq_true _ _).mp current.2
  exact ⟨s,next,current.1,⟨client,present,by simpa using fresh⟩,(one_open_client path ran).mpr rfl⟩

-- A caller without a passkey for the other device leaves the connection open, and the
-- call that supplies one overwrites the reference to it.
def overwrites (s : State Nat Nat) : Bool :=
  s.client = some 0 && (step .plain s (.attempt (.connected 8))).any fun next =>
    next.client = some 1 && next.clients[0]?.any (!·.closed)

theorem open_client_overwritten :
    ∃ trace action, ∃ s next : State Nat Nat,
      Execution.Path (step .plain) Execution.anyStep (started false fun _ => none) trace s ∧
        step .plain s action = some next ∧ ¬ OneClient s next := by
  have passed : (Execution.run (step .plain) (started false fun _ => none)
      (firstOpening ++ [.attempt (.connected 7),.attempt .done,.attempt .done,.manager (.file true),.manager (.file true),
        .manager .done,.manager .done,.connect 2 none,.connect 2 (some 22),.manager .event,.attempt .done,.attempt .done])).any
      overwrites = true := by decide +kernel
  obtain ⟨trace,s,path,overwriting⟩ := Execution.run_checked passed
  simp only [overwrites,Bool.and_eq_true,decide_eq_true_eq] at overwriting
  obtain ⟨next,ran,lost⟩ := (Option.any_eq_true _ _).mp overwriting.2
  simp only [Bool.and_eq_true,decide_eq_true_eq] at lost
  obtain ⟨client,present,fresh⟩ := (Option.any_eq_true _ _).mp lost.2
  refine ⟨trace,_,s,next,path,ran,fun one => ?_⟩
  exact one.replaced 0 overwriting.1 (by simp [lost.1]) ⟨client,present,by simpa using fresh⟩

end State

end Thermometer.Controller
