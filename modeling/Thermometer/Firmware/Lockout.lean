import Thermometer.Firmware.RequestFrame

-- The bound on guesses: what the failure counter and the deadline mean over a whole run,
-- whatever sessions the guesses are spread over.
namespace Thermometer.Firmware
open Memory Wire Execution

variable {cfg : FirmwareConfig} {trace more : List (Server cfg × LinkEvent)} {left s next : Server cfg}
  {event : LinkEvent} {auth : AuthConfig} {wrong : List Int} {lockout : Lockout} {nowUs deadline : Int}

-- Wrong proofs are kept as their times, the latest first. Enough of them lock the
-- device until a period after the latest has passed.
def lockEnd (cfg : AuthConfig) : List Int → Option Int
  | [] => none
  | last :: earlier => if cfg.maxFailures ≤ earlier.length + 1 then some (last + cfg.lockoutMs * 1000) else none

def unexpired (cfg : AuthConfig) (wrong : List Int) (nowUs : Int) : List Int :=
  if (lockEnd cfg wrong).any (· ≤ nowUs) then [] else wrong

theorem lockEnd_none (positive : 0 < auth.maxFailures) : lockEnd auth wrong = none ↔ wrong.length < auth.maxFailures := by
  unfold lockEnd
  cases wrong with
  | nil => simpa using positive
  | cons last earlier => simp

theorem lockEnd_some (ends : lockEnd auth (last :: earlier) = some deadline) :
    auth.maxFailures ≤ earlier.length + 1 ∧ deadline = last + auth.lockoutMs * 1000 := by
  simp only [lockEnd] at ends
  split at ends
  · rename_i full
    exact ⟨full,(Option.some.inj ends).symm⟩
  · cases ends

theorem unexpired_early (ends : lockEnd auth wrong = some deadline) (early : nowUs < deadline) :
    unexpired auth wrong nowUs = wrong := by
  simp [unexpired,ends,early]

theorem unexpired_free (free : lockEnd auth wrong = none) (nowUs : Int) : unexpired auth wrong nowUs = wrong := by
  simp [unexpired,free]

-- Requests for a challenge and proofs of the right size look at the clock.
def checkTime (cfg : FirmwareConfig) (event : LinkEvent) : Option Int :=
  match asked cfg event with
  | some ((.authBegin,[]),platform) => some platform.nowUs
  | some ((.authProve,proof),platform) => if proof.length = authProveRequestSize then some platform.nowUs else none
  | _ => none

-- Whether a proof is right, if it is evaluated: not during a lock, and only as the
-- timely answer to a challenge.
def verdict (left : Server cfg) (event : LinkEvent) : Option Bool :=
  match asked cfg event with
  | some ((.authProve,proof),platform) =>
    if proof.length = authProveRequestSize ∧ (isLocked left.device.lockout platform.nowUs).1 = false ∧
        left.session.authentication.challengeActive ∧
        platform.nowUs - left.session.authentication.issuedAtUs ≤ maximumAgeUs cfg.auth then
      some (proofValid cfg.auth left.session.authentication left.device.thermometer.bootId proof)
    else none
  | _ => none

def wrongAfter (wrong : List Int) (left : Server cfg) (event : LinkEvent) : List Int :=
  match checkTime cfg event with
  | none => wrong
  | some nowUs =>
    match verdict left event with
    | some true => []
    | some false => nowUs :: unexpired cfg.auth wrong nowUs
    | none => unexpired cfg.auth wrong nowUs

def wrongProofs (trace : List (Server cfg × LinkEvent)) : List Int :=
  trace.foldl (fun wrong entry => wrongAfter wrong entry.1 entry.2) []

@[simp] theorem wrongProofs_snoc : wrongProofs (trace ++ [(left,event)]) = wrongAfter (wrongProofs trace) left event := by
  simp [wrongProofs]

structure Tracks (cfg : AuthConfig) (lockout : Lockout) (wrong : List Int) : Prop where
  count : lockout.failureCount.toNat = wrong.length
  deadline : lockout.lockedUntilUs = (lockEnd cfg wrong).getD 0
  bounded : wrong.length ≤ cfg.maxFailures
  clocked : ∀ time ∈ wrong, 0 ≤ time

theorem Tracks.cleared : Tracks auth .cleared [] := ⟨rfl,rfl,Nat.zero_le _,by simp⟩

theorem Tracks.positive (tracks : Tracks auth lockout wrong) (long : 0 < auth.lockoutMs)
    (ends : lockEnd auth wrong = some deadline) : 0 < deadline := by
  cases wrong with
  | nil => cases ends
  | cons last earlier =>
    have time := tracks.clocked last (by simp)
    have period := (lockEnd_some ends).2
    omega

theorem Tracks.isLocked (tracks : Tracks auth lockout wrong) (long : 0 < auth.lockoutMs) (nowUs : Int) :
    (isLocked lockout nowUs).1 = (lockEnd auth wrong).any (nowUs < ·) ∧
      Tracks auth (isLocked lockout nowUs).2 (unexpired auth wrong nowUs) := by
  cases ends : lockEnd auth wrong with
  | none =>
    have unset : lockout.lockedUntilUs = 0 := by rw [tracks.deadline,ends]; rfl
    rw [unexpired_free ends,Firmware.isLocked,if_pos unset]
    exact ⟨rfl,tracks⟩
  | some deadline =>
    have set : lockout.lockedUntilUs = deadline := by rw [tracks.deadline,ends]; rfl
    have positive := tracks.positive long ends
    by_cases early : nowUs < deadline
    · rw [unexpired_early ends early,Firmware.isLocked,set,if_neg (by omega),if_pos early]
      exact ⟨by simp [early],tracks⟩
    · have expired : unexpired auth wrong nowUs = [] := by
        simp [unexpired,ends]
        omega
      rw [expired,Firmware.isLocked,set,if_neg (by omega),if_neg early]
      exact ⟨by simp [early],.cleared⟩

theorem Tracks.locked (tracks : Tracks auth lockout wrong) (long : 0 < auth.lockoutMs)
    (ends : lockEnd auth wrong = some deadline) (early : nowUs < deadline) : (Firmware.isLocked lockout nowUs).1 = true := by
  rw [(tracks.isLocked long nowUs).1,ends]
  simp [early]

theorem Tracks.unlocked (tracks : Tracks auth lockout wrong) (long : 0 < auth.lockoutMs) (positive : 0 < auth.maxFailures)
    (free : (Firmware.isLocked lockout nowUs).1 = false) : (unexpired auth wrong nowUs).length < auth.maxFailures := by
  rw [(tracks.isLocked long nowUs).1] at free
  cases ends : lockEnd auth wrong with
  | none =>
    rw [unexpired_free ends]
    exact (lockEnd_none positive).mp ends
  | some deadline =>
    have expired : unexpired auth wrong nowUs = [] := by
      simp only [ends,Option.any_some,decide_eq_false_iff_not,not_lt] at free
      simp [unexpired,ends,free]
    rw [expired]
    exact positive

theorem Tracks.fail (tracks : Tracks auth lockout wrong) (word : auth.maxFailures < 2 ^ 32)
    (room : wrong.length < auth.maxFailures) (clocked : 0 ≤ nowUs) :
    Tracks auth (if auth.maxFailures ≤ (lockout.failureCount + 1).toNat then
        ⟨lockout.failureCount + 1,nowUs + auth.lockoutMs * 1000⟩
      else { lockout with failureCount := lockout.failureCount + 1 }) (nowUs :: wrong) := by
  have count : (lockout.failureCount + 1).toNat = wrong.length + 1 := by
    have one : (1 : UInt32).toNat = 1 := rfl
    rw [UInt32.toNat_add,tracks.count,one]
    exact Nat.mod_eq_of_lt (by omega)
  have times : ∀ time ∈ nowUs :: wrong, 0 ≤ time := by
    intro time member
    rcases List.mem_cons.mp member with rfl | old
    · exact clocked
    · exact tracks.clocked time old
  have unset : lockEnd auth wrong = none := (lockEnd_none (by omega)).mpr room
  rw [count]
  split
  · rename_i full
    exact ⟨count,by simp [lockEnd,full],room,times⟩
  · rename_i below
    refine ⟨count,?_,room,times⟩
    rw [lockEnd,if_neg below]
    simpa [unset] using tracks.deadline

theorem checkTime_begin (asks : asked cfg event = some ((.authBegin,[]),platform)) :
    checkTime cfg event = some platform.nowUs := by
  simp [checkTime,asks]

theorem verdict_begin (asks : asked cfg event = some ((.authBegin,[]),platform)) (left : Server cfg) :
    verdict left event = none := by
  simp [verdict,asks]

theorem checkTime_prove (asks : asked cfg event = some ((.authProve,proof),platform))
    (sized : proof.length = authProveRequestSize) : checkTime cfg event = some platform.nowUs := by
  simp [checkTime,asks,sized]

theorem verdict_prove (asks : asked cfg event = some ((.authProve,proof),platform))
    (sized : proof.length = authProveRequestSize) :
    verdict left event =
      if (isLocked left.device.lockout platform.nowUs).1 = false ∧ left.session.authentication.challengeActive ∧
          platform.nowUs - left.session.authentication.issuedAtUs ≤ maximumAgeUs cfg.auth then
        some (proofValid cfg.auth left.session.authentication left.device.thermometer.bootId proof)
      else none := by
  simp [verdict,asks,sized]

theorem verdict_some (judged : verdict left event = some right) :
    ∃ platform : Platform, checkTime cfg event = some platform.nowUs ∧
      (isLocked left.device.lockout platform.nowUs).1 = false := by
  unfold verdict at judged
  split at judged
  · rename_i proof platform asks
    split at judged
    · rename_i evaluated
      exact ⟨platform,checkTime_prove asks evaluated.1,evaluated.2.1⟩
    · cases judged
  · cases judged

theorem checkTime_other (noProof : ∀ proof, request = some (.authProve,proof) → proof.length ≠ authProveRequestSize)
    (noBegin : request ≠ some (.authBegin,[])) (asks : asked cfg event = request.map (·,platform)) :
    checkTime cfg event = none := by
  unfold checkTime
  rw [asks]
  cases request with
  | none => rfl
  | some request =>
    obtain ⟨opcode,payload⟩ := request
    simp only [Option.map_some]
    split
    · rename_i equal
      cases equal
      exact absurd rfl noBegin
    · rename_i equal
      cases equal
      rw [if_neg (noProof _ rfl)]
    · rfl

theorem wrongAfter_silent (silent : checkTime cfg event = none) : wrongAfter wrong left event = wrong := by
  simp [wrongAfter,silent]

theorem Tracks.prove (tracks : Tracks cfg.auth left.device.lockout wrong) (long : 0 < cfg.auth.lockoutMs)
    (positive : 0 < cfg.auth.maxFailures) (word : cfg.auth.maxFailures < 2 ^ 32)
    (asks : asked cfg event = some ((.authProve,proof),platform)) (sized : proof.length = authProveRequestSize)
    (clocked : 0 ≤ platform.nowUs) :
    Tracks cfg.auth (applicationAuthProve cfg.auth left.session.authentication left.device.lockout platform.nowUs
      left.device.thermometer.bootId proof).2.2 (wrongAfter wrong left event) := by
  have checked := (tracks.isLocked long platform.nowUs).2
  have room : (Firmware.isLocked left.device.lockout platform.nowUs).1 = false →
      (unexpired cfg.auth wrong platform.nowUs).length < cfg.auth.maxFailures := tracks.unlocked long positive
  simp only [wrongAfter,checkTime_prove asks sized,verdict_prove asks sized,applicationAuthProve]
  generalize Firmware.isLocked left.device.lockout platform.nowUs = answered at checked room ⊢
  obtain ⟨locked,later⟩ := answered
  cases locked with
  | true => exact checked
  | false =>
    by_cases due : !left.session.authentication.challengeActive ∨
        maximumAgeUs cfg.auth < platform.nowUs - left.session.authentication.issuedAtUs
    · have refused : ¬ (left.session.authentication.challengeActive = true ∧
          platform.nowUs - left.session.authentication.issuedAtUs ≤ maximumAgeUs cfg.auth) := by
        rintro ⟨active,young⟩
        rcases due with closed | late
        · simp [active] at closed
        · omega
      simp only [if_pos due,true_and,if_neg refused]
      exact checked
    · have evaluated : left.session.authentication.challengeActive = true ∧
          platform.nowUs - left.session.authentication.issuedAtUs ≤ maximumAgeUs cfg.auth := by
        simp only [not_or,Bool.not_eq_true',Bool.not_eq_false,not_lt] at due
        exact due
      simp only [if_neg due,true_and,if_pos evaluated]
      cases proofValid cfg.auth left.session.authentication left.device.thermometer.bootId proof with
      | true => exact .cleared
      | false =>
        have failed := checked.fail word (room rfl) clocked
        simp only [Bool.false_eq_true,if_false]
        split at failed
        · rename_i full
          rw [if_pos full]
          exact failed
        · rename_i below
          rw [if_neg below]
          exact failed

theorem Tracks.begin (tracks : Tracks cfg.auth left.device.lockout wrong) (long : 0 < cfg.auth.lockoutMs)
    (asks : asked cfg event = some ((.authBegin,[]),platform)) (authentication : AuthSession) :
    Tracks cfg.auth (applicationAuthBegin authentication left.device.lockout platform.nowUs platform.random).2.2
      (wrongAfter wrong left event) := by
  have checked := (tracks.isLocked long platform.nowUs).2
  simp only [wrongAfter,checkTime_begin asks,verdict_begin asks,applicationAuthBegin]
  generalize Firmware.isLocked left.device.lockout platform.nowUs = answered at checked ⊢
  obtain ⟨locked,later⟩ := answered
  cases locked <;> exact checked

def Server.status (s : Server cfg) : Option UInt8 := (⟨s.response,s.responseLength⟩ : Reply cfg.maxPacketSize).status

structure Carried (before after : AuthSession) : Prop where
  authenticated : after.authenticated = true → before.authenticated = true
  challenge : after.challengeActive = true →
    before.challengeActive = true ∧ after.nonce = before.nonce ∧ after.issuedAtUs = before.issuedAtUs

structure Refused (s next : Server cfg) : Prop where
  challengeActive : next.session.authentication.challengeActive = s.session.authentication.challengeActive
  nonce : next.session.authentication.nonce = s.session.authentication.nonce
  issuedAtUs : next.session.authentication.issuedAtUs = s.session.authentication.issuedAtUs
  authenticated : next.session.authentication.authenticated = s.session.authentication.authenticated
  lockout : next.device.lockout = s.device.lockout
  status : next.status = some Status.authenticationLocked.value

theorem Carried.refl (authentication : AuthSession) : Carried authentication authentication := ⟨id,fun active => ⟨active,rfl,rfl⟩⟩

theorem Refused.carried (refused : Refused s next) : Carried s.session.authentication next.session.authentication where
  authenticated held := refused.authenticated ▸ held
  challenge active := ⟨refused.challengeActive ▸ active,refused.nonce,refused.issuedAtUs⟩

theorem step_authentication (stepped : serverStep s event = some next) :
    (checkTime cfg event = none ∧ next.device.lockout = s.device.lockout ∧
      Carried s.session.authentication next.session.authentication) ∨
    (∃ platform, asked cfg event = some ((.authBegin,[]),platform) ∧
      (next.session.authentication,next.device.lockout) =
        (applicationAuthBegin s.session.authentication s.device.lockout platform.nowUs platform.random).2) ∨
    ∃ proof platform, asked cfg event = some ((.authProve,proof),platform) ∧ proof.length = authProveRequestSize ∧
      (next.session.authentication,next.device.lockout) =
        (applicationAuthProve cfg.auth s.session.authentication s.device.lockout platform.nowUs
          s.device.thermometer.bootId proof).2 := by
  cases event with
  | connect established =>
    cases Option.some.inj stepped
    refine .inl ⟨rfl,?_,?_⟩
    · cases established <;> rfl
    · cases established
      · exact .refl _
      · exact ⟨nofun,nofun⟩
  | disconnect =>
    cases Option.some.inj stepped
    refine .inl ⟨rfl,?_,?_⟩
    · unfold handleDisconnect
      split <;> rfl
    · unfold handleDisconnect
      split <;> exact ⟨nofun,nofun⟩
  | write request platform flat peer =>
    simp only [serverStep] at stepped
    split at stepped
    · obtain ⟨⟨result,last⟩,wrote,rfl⟩ := Option.map_eq_some_iff.mp stepped
      rcases writeRequest_cases cfg request platform flat peer with ⟨unasked,refusal,_,refused⟩ | ⟨asks,served⟩
      · rw [refused] at wrote
        cases wrote
        exact .inl ⟨by simp [checkTime,unasked],rfl,.refl _⟩
      · rw [served] at wrote
        simp only [Option.bind_eq_some_iff,Option.some.injEq,Prod.mk.injEq] at wrote
        obtain ⟨outcome,processed,_,rfl⟩ := wrote
        have effect := (processRequest_authentication (maxPacketSize_header cfg) processed).1
        obtain ⟨clear,bond,scheduled⟩ :=
          scheduleBondReset_keeps (s.withOutcome outcome) outcome.session.bondResetRequested peer
        rw [scheduled]
        rcases authEffect_cases s.device s.session.authentication platform (acceptedRequest cfg request) with
          accepted | ⟨proof,accepted,sized⟩ | ⟨noProof,noBegin,kept⟩
        · rw [accepted] at asks effect
          exact .inr (.inl ⟨platform,asks,effect⟩)
        · rw [accepted] at asks effect
          rw [authEffect_prove sized] at effect
          exact .inr (.inr ⟨proof,platform,asks,sized,effect⟩)
        · rw [kept] at effect
          obtain ⟨authentication,lockout⟩ := Prod.mk.inj effect
          refine .inl ⟨checkTime_other noProof noBegin asks,lockout,?_⟩
          rw [← authentication]
          exact .refl _
    · cases stepped
  | read room =>
    simp only [serverStep] at stepped
    split at stepped
    · cases Option.some.inj stepped
      cases room <;> exact .inl ⟨rfl,rfl,⟨id,fun active => ⟨active,rfl,rfl⟩⟩⟩
    · cases stepped
  | tick =>
    cases Option.some.inj stepped
    exact .inl ⟨rfl,rfl,.refl _⟩
  | reading index reading =>
    cases Option.some.inj stepped
    exact .inl ⟨rfl,rfl,.refl _⟩
  | toggleDisplay sensorId =>
    cases Option.some.inj stepped
    exact .inl ⟨rfl,rfl,.refl _⟩

theorem step_asked (stepped : serverStep s event = some next) (asks : asked cfg event = some (accepted,platform)) :
    ∃ request outcome, acceptedRequest cfg request = some accepted ∧
      processRequest cfg s.device s.session s.response platform request = some outcome ∧
      next.session.authentication = outcome.session.authentication ∧ next.device = outcome.device ∧
      next.status = outcome.reply.status := by
  cases event with
  | write request other flat peer =>
    simp only [serverStep] at stepped
    split at stepped
    · obtain ⟨⟨result,last⟩,wrote,rfl⟩ := Option.map_eq_some_iff.mp stepped
      rcases writeRequest_cases cfg request other flat peer with ⟨unasked,_⟩ | ⟨same,served⟩
      · rw [unasked] at asks
        cases asks
      · rw [same] at asks
        obtain ⟨found,known,equal⟩ := Option.map_eq_some_iff.mp asks
        cases equal
        rw [served] at wrote
        simp only [Option.bind_eq_some_iff,Option.some.injEq,Prod.mk.injEq] at wrote
        obtain ⟨outcome,processed,_,rfl⟩ := wrote
        obtain ⟨clear,bond,scheduled⟩ :=
          scheduleBondReset_keeps (s.withOutcome outcome) outcome.session.bondResetRequested peer
        rw [scheduled]
        exact ⟨request,outcome,known,processed,rfl,rfl,rfl⟩
    · cases stepped
  | _ => cases asks

theorem accepted_status {response : Vector UInt8 capacity}
    (processed : processRequest cfg device session response platform request = some outcome)
    (room : headerSize ≤ capacity) (accepted : acceptedRequest cfg request = some (opcode,payload)) :
    ∃ byte, Opcode.ofByte byte = some opcode ∧
      outcome.reply.status = some (answerDispatch capacity device session byte platform payload).status.value := by
  rcases processRequest_cases cfg room request with ⟨refused,_⟩ | ⟨byte,requestId,known,same⟩
  · rw [refused] at accepted
    cases accepted
  · rw [known] at accepted
    obtain ⟨name,named,equal⟩ := Option.map_eq_some_iff.mp accepted
    cases equal
    rw [same] at processed
    rcases dispatch_settles room with ⟨_,overrun⟩ | ⟨reply,replied,carries⟩
    · cases processed.symm.trans overrun
    · cases Option.some.inj (processed.symm.trans replied)
      exact ⟨byte,named,carries.status⟩

theorem step_locked (stepped : serverStep s event = some next) (time : checkTime cfg event = some nowUs)
    (locked : (isLocked s.device.lockout nowUs).1 = true) : Refused s next := by
  have still := (isLocked_locked locked).1
  unfold checkTime at time
  split at time
  · rename_i platform asks
    cases time
    obtain ⟨request,outcome,accepted,processed,session,device,status⟩ := step_asked stepped asks
    have effect := (processRequest_authentication (maxPacketSize_header cfg) processed).1
    rw [accepted,authEffect,applicationAuthBegin,still] at effect
    obtain ⟨authentication,lockout⟩ := Prod.mk.inj effect
    obtain ⟨byte,named,answered⟩ := accepted_status processed (maxPacketSize_header cfg) accepted
    rw [answerDispatch,named] at answered
    simp only [List.length_nil,ne_eq,not_true_eq_false,if_false,answerAuthBegin,applicationAuthBegin,still,if_true] at answered
    refine ⟨?_,?_,?_,?_,?_,status.trans answered⟩ <;> simp only [session,device,authentication,lockout]
  · rename_i proof platform asks
    split at time
    · rename_i sized
      cases time
      obtain ⟨request,outcome,accepted,processed,session,device,status⟩ := step_asked stepped asks
      have effect := (processRequest_authentication (maxPacketSize_header cfg) processed).1
      rw [accepted,authEffect_prove sized,applicationAuthProve,still] at effect
      obtain ⟨authentication,lockout⟩ := Prod.mk.inj effect
      obtain ⟨byte,named,answered⟩ := accepted_status processed (maxPacketSize_header cfg) accepted
      rw [answerDispatch,named] at answered
      simp only [answerAuthProve,sized,ne_eq,not_true_eq_false,if_false,applicationAuthProve,still,proveStatus] at answered
      refine ⟨?_,?_,?_,?_,?_,status.trans answered⟩ <;> simp only [session,device,authentication,lockout]
    · cases time
  · cases time

theorem Tracks.step (tracks : Tracks cfg.auth s.device.lockout wrong) (long : 0 < cfg.auth.lockoutMs)
    (positive : 0 < cfg.auth.maxFailures) (word : cfg.auth.maxFailures < 2 ^ 32)
    (clocked : ∀ nowUs, checkTime cfg event = some nowUs → 0 ≤ nowUs) (stepped : serverStep s event = some next) :
    Tracks cfg.auth next.device.lockout (wrongAfter wrong s event) := by
  rcases step_authentication stepped with ⟨silent,kept,_⟩ | ⟨platform,asks,effect⟩ | ⟨proof,platform,asks,sized,effect⟩
  · rw [wrongAfter_silent silent,kept]
    exact tracks
  · rw [(Prod.mk.inj effect).2]
    exact tracks.begin long asks _
  · rw [(Prod.mk.inj effect).2]
    exact tracks.prove long positive word asks sized (clocked _ (checkTime_prove asks sized))

structure LockedOut (s : Server cfg) (event : LinkEvent) : Prop where
  unissued : ∀ nonce issuedAtUs, ¬ Issues s event nonce issuedAtUs
  unjudged : verdict s event = none
  carried : ∀ next, serverStep s event = some next → Carried s.session.authentication next.session.authentication
  kept : ∀ next, serverStep s event = some next → next.device.lockout = s.device.lockout
  refused : ∀ next, serverStep s event = some next → checkTime cfg event ≠ none → Refused s next

theorem Tracks.holds (tracks : Tracks cfg.auth s.device.lockout wrong) (long : 0 < cfg.auth.lockoutMs)
    (ends : lockEnd cfg.auth wrong = some deadline)
    (early : ∀ nowUs, checkTime cfg event = some nowUs → nowUs < deadline) :
    LockedOut s event ∧ wrongAfter wrong s event = wrong := by
  have noVerdict : verdict s event = none := by
    cases judged : verdict s event with
    | none => rfl
    | some right =>
      obtain ⟨platform,time,free⟩ := verdict_some judged
      rw [tracks.locked long ends (early _ time)] at free
      cases free
  have refuses (next : Server cfg) (stepped : serverStep s event = some next) (looks : checkTime cfg event ≠ none) :
      Refused s next := by
    obtain ⟨nowUs,time⟩ := Option.ne_none_iff_exists'.mp looks
    exact step_locked stepped time (tracks.locked long ends (early nowUs time))
  have others (next : Server cfg) (stepped : serverStep s event = some next) (silent : checkTime cfg event = none) :
      Carried s.session.authentication next.session.authentication ∧ next.device.lockout = s.device.lockout := by
    rcases step_authentication stepped with ⟨_,kept,carried⟩ | ⟨platform,asks,_⟩ | ⟨proof,platform,asks,sized,_⟩
    · exact ⟨carried,kept⟩
    · cases silent.symm.trans (checkTime_begin asks)
    · cases silent.symm.trans (checkTime_prove asks sized)
  refine ⟨⟨?_,noVerdict,?_,?_,refuses⟩,?_⟩
  · rintro nonce issuedAtUs ⟨platform,asks,free,_⟩
    rw [tracks.locked long ends (early _ (checkTime_begin asks))] at free
    cases free
  · intro next stepped
    by_cases silent : checkTime cfg event = none
    · exact (others next stepped silent).1
    · exact (refuses next stepped silent).carried
  · intro next stepped
    by_cases silent : checkTime cfg event = none
    · exact (others next stepped silent).2
    · exact (refuses next stepped silent).lockout
  · unfold wrongAfter
    cases time : checkTime cfg event with
    | none => rfl
    | some nowUs => simp only [noVerdict,unexpired_early ends (early nowUs time)]

-- The clock counts from the boot.
def Clocked (cfg : FirmwareConfig) (_ : Server cfg) (event : LinkEvent) : Prop :=
  ∀ nowUs, checkTime cfg event = some nowUs → 0 ≤ nowUs

theorem tracks_reached (long : 0 < cfg.auth.lockoutMs) (positive : 0 < cfg.auth.maxFailures)
    (word : cfg.auth.maxFailures < 2 ^ 32)
    (path : Path serverStep (Clocked cfg) (serverStart cfg bootId deviceId) trace s) :
    Tracks cfg.auth s.device.lockout (wrongProofs trace) := by
  refine path.history (fun trace s => Tracks cfg.auth s.device.lockout (wrongProofs trace)) .cleared ?_
  intro trace s event next _ tracks clocked stepped
  rw [wrongProofs_snoc]
  exact tracks.step long positive word clocked stepped

theorem lock_lasts (long : 0 < cfg.auth.lockoutMs) (positive : 0 < cfg.auth.maxFailures)
    (word : cfg.auth.maxFailures < 2 ^ 32)
    (path : Path serverStep (Clocked cfg) (serverStart cfg bootId deviceId) trace s)
    (ends : lockEnd cfg.auth (wrongProofs trace) = some deadline) (later : Path serverStep (Clocked cfg) s more next)
    (early : ∀ entry ∈ more, ∀ nowUs, checkTime cfg entry.2 = some nowUs → nowUs < deadline) :
    wrongProofs (trace ++ more) = wrongProofs trace := by
  induction later with
  | nil => rw [List.append_nil]
  | @snoc more middle event next earlier _ _ ih =>
    have kept := ih fun entry member => early entry (by simp [member])
    have tracks := tracks_reached long positive word (path.append earlier)
    rw [kept] at tracks
    rw [← List.append_assoc,wrongProofs_snoc,kept]
    exact (tracks.holds long ends (early (middle,event) (by simp))).2

theorem proved_verdict (stepped : serverStep s event = some next)
    (authenticated : next.session.authentication.authenticated = true) :
    s.session.authentication.authenticated = true ∨ verdict s event = some true := by
  rcases step_authentication stepped with ⟨_,_,kept⟩ | ⟨platform,asks,effect⟩ | ⟨proof,platform,asks,sized,effect⟩
  · exact .inl (kept.authenticated authenticated)
  · rw [(Prod.mk.inj effect).1] at authenticated
    refine .inl ?_
    unfold applicationAuthBegin at authenticated
    split at authenticated
    · exact authenticated
    · cases authenticated
  · rw [(Prod.mk.inj effect).1] at authenticated
    rw [verdict_prove asks sized]
    unfold applicationAuthProve at authenticated
    split at authenticated
    · exact .inl authenticated
    · rename_i free
      rw [free]
      split at authenticated
      · exact .inl authenticated
      · rename_i due
        simp only [not_or,Bool.not_eq_true',Bool.not_eq_false,not_lt] at due
        split at authenticated
        · rename_i valid
          exact .inr (by rw [if_pos ⟨rfl,due⟩,valid])
        · dsimp only at authenticated
          split at authenticated <;> cases authenticated

theorem counter_returns (long : 0 < cfg.auth.lockoutMs) (positive : 0 < cfg.auth.maxFailures)
    (word : cfg.auth.maxFailures < 2 ^ 32) (tracks : Tracks cfg.auth s.device.lockout wrong)
    (clocked : Clocked cfg s event) (stepped : serverStep s event = some next)
    (zero : next.device.lockout.failureCount = 0) :
    s.device.lockout.failureCount = 0 ∨ verdict s event = some true ∨
      ∃ nowUs deadline, checkTime cfg event = some nowUs ∧ lockEnd cfg.auth wrong = some deadline ∧ deadline ≤ nowUs := by
  have count := (tracks.step long positive word clocked stepped).count
  rw [zero] at count
  have none : wrongAfter wrong s event = [] := List.length_eq_zero_iff.mp count.symm
  have nothing (empty : wrong = []) : s.device.lockout.failureCount = 0 := by
    have before := tracks.count
    rw [empty] at before
    exact UInt32.toNat_inj.mp before
  unfold wrongAfter at none
  split at none
  · exact .inl (nothing none)
  · rename_i nowUs time
    split at none
    · rename_i right
      exact .inr (.inl right)
    · cases none
    · unfold unexpired at none
      split at none
      · rename_i expired
        obtain ⟨deadline,ends,past⟩ := (Option.any_eq_true _ _).mp expired
        exact .inr (.inr ⟨nowUs,deadline,time,ends,by simpa using past⟩)
      · exact .inl (nothing none)

-- The wrong proofs since the last right one or the last end of a lock are counted over
-- all sessions; enough of them stop every challenge and every proof until the period
-- after the latest has passed, and nothing else sets them back.
theorem lockout_policy (long : 0 < cfg.auth.lockoutMs) (positive : 0 < cfg.auth.maxFailures)
    (word : cfg.auth.maxFailures < 2 ^ 32)
    (path : Path serverStep (Clocked cfg) (serverStart cfg bootId deviceId) trace s) :
    s.device.lockout.failureCount.toNat = (wrongProofs trace).length ∧
    (wrongProofs trace).length ≤ cfg.auth.maxFailures ∧
    (∀ last earlier more later, wrongProofs trace = last :: earlier →
      cfg.auth.maxFailures ≤ (wrongProofs trace).length → Path serverStep (Clocked cfg) s more later →
      (∀ entry ∈ more, ∀ nowUs, checkTime cfg entry.2 = some nowUs → nowUs < last + cfg.auth.lockoutMs * 1000) →
      ∀ entry ∈ more, LockedOut entry.1 entry.2) ∧
    (∀ event next, Clocked cfg s event → serverStep s event = some next →
      (next.device.lockout.failureCount = 0 → s.device.lockout.failureCount = 0 ∨ verdict s event = some true ∨
        ∃ nowUs deadline, checkTime cfg event = some nowUs ∧ lockEnd cfg.auth (wrongProofs trace) = some deadline ∧
          deadline ≤ nowUs) ∧
      (next.session.authentication.authenticated = true →
        s.session.authentication.authenticated = true ∨ verdict s event = some true)) ∧
    ∀ nowUs, (isLocked s.device.lockout nowUs).1 = false →
      (isLocked s.device.lockout nowUs).2.failureCount.toNat < cfg.auth.maxFailures := by
  have tracks := tracks_reached long positive word path
  refine ⟨tracks.count,tracks.bounded,?_,?_,?_⟩
  · intro last earlier more later wrong full continued early entry member
    have ends : lockEnd cfg.auth (wrongProofs trace) = some (last + cfg.auth.lockoutMs * 1000) := by
      rw [wrong,List.length_cons] at full
      rw [wrong,lockEnd,if_pos full]
    obtain ⟨first,rest,rfl⟩ := List.append_of_mem member
    have prior := continued.upTo rfl
    have still := lock_lasts long positive word path ends prior fun entry member => early entry (by simp [member])
    have held := tracks_reached long positive word (path.append prior)
    rw [still] at held
    exact (held.holds long ends (early entry (by simp))).1
  · intro event next clocked stepped
    exact ⟨counter_returns long positive word tracks clocked stepped,proved_verdict stepped⟩
  · intro nowUs free
    rw [(tracks.isLocked long nowUs).2.count]
    exact tracks.unlocked long positive free

-- Three guesses in two sessions, and a fourth connection that asks for a challenge.
def guessingRun : List LinkEvent :=
  let ask := fun nowUs => LinkEvent.write [2,5,1,0,0,0,0,0] ⟨nowUs,.replicate 16 3⟩ true none
  let guess := fun nowUs => LinkEvent.write ([2,6,2,0,32,0,0,0] ++ .replicate 32 0) ⟨nowUs,.replicate 16 0⟩ true none
  [.connect true,ask 1000,guess 2000,.disconnect,.connect true,ask 3000,guess 4000,ask 5000,guess 6000,.disconnect,
    .connect true,ask 7000]

def clockedStep (_ : Server provenConfig) (event : LinkEvent) : Bool := (checkTime provenConfig event).all (0 ≤ ·)

theorem lockout_policy_three_guesses :
    ∃ trace s, Path serverStep (Clocked provenConfig) (serverStart provenConfig 7 (.replicate 6 1)) trace s ∧
      (wrongProofs trace).length = 3 ∧ ∀ nowUs, (isLocked s.device.lockout nowUs).1 = false →
        (isLocked s.device.lockout nowUs).2.failureCount.toNat < 3 := by
  have passed : (Execution.run (guarded serverStep clockedStep) (serverStart provenConfig 7 (.replicate 6 1))
      guessingRun).any (·.device.lockout.failureCount == 3) = true := by decide +kernel
  obtain ⟨trace,s,path,counted⟩ := guarded_checked passed
  have clocked : Path serverStep (Clocked provenConfig) (serverStart provenConfig 7 (.replicate 6 1)) trace s :=
    path.weaken fun _ event ok nowUs time => by simpa [clockedStep,time] using ok
  obtain ⟨count,_,_,_,free⟩ := lockout_policy (by decide) (by decide) (by decide) clocked
  refine ⟨trace,s,clocked,?_,free⟩
  rw [← count,beq_iff_eq.mp counted]
  rfl

end Thermometer.Firmware
