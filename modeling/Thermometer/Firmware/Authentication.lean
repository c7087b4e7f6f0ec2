import Thermometer.Firmware.RequestEffects
import Thermometer.Firmware.FrozenHistory

namespace Thermometer.Firmware
open Memory Wire Execution

variable {cfg : FirmwareConfig} {deviceId : Vector UInt8 6} {bootId : UInt32}
  {trace : List (Server cfg × LinkEvent)} {s left next : Server cfg} {event : LinkEvent}

def asked (cfg : FirmwareConfig) : LinkEvent → Option ((Opcode × List UInt8) × Platform)
  | .write request platform flat _ =>
    if headerSize ≤ request.length ∧ request.length ≤ cfg.maxPacketSize ∧ flat then
      (acceptedRequest cfg request).map (·,platform)
    else none
  | _ => none

def Boundary : LinkEvent → Prop
  | .connect established => established
  | .disconnect => True
  | _ => False

def Issues (left : Server cfg) (event : LinkEvent) (nonce : Vector UInt8 16) (issuedAtUs : Int) : Prop :=
  ∃ platform, asked cfg event = some ((.authBegin,[]),platform) ∧
    (isLocked left.device.lockout platform.nowUs).1 = false ∧
    nonce = platform.random ∧ issuedAtUs = platform.nowUs

-- Any proof answers a challenge; AUTH_PROVE of another size carries none.
def Answers (cfg : FirmwareConfig) (event : LinkEvent) : Prop :=
  ∃ proof platform, asked cfg event = some ((.authProve,proof),platform) ∧ proof.length = authProveRequestSize

def Outstanding (trace : List (Server cfg × LinkEvent)) (nonce : Vector UInt8 16) (issuedAtUs : Int) : Prop :=
  ∃ before left event after, trace = before ++ (left,event) :: after ∧ Issues left event nonce issuedAtUs ∧
    ∀ entry ∈ after, ¬ Boundary entry.2 ∧ (∀ nonce issuedAtUs, ¬ Issues entry.1 entry.2 nonce issuedAtUs) ∧
      ¬ Answers cfg entry.2

def Proved (deviceId : Vector UInt8 6) (bootId : UInt32) (trace : List (Server cfg × LinkEvent)) : Prop :=
  ∃ before left event after nonce issuedAtUs proof platform,
    trace = before ++ (left,event) :: after ∧ Outstanding before nonce issuedAtUs ∧
    asked cfg event = some ((.authProve,proof),platform) ∧
    platform.nowUs - issuedAtUs ≤ maximumAgeUs cfg.auth ∧
    (isLocked left.device.lockout platform.nowUs).1 = false ∧
    calculateProof cfg.auth deviceId bootId nonce = some proof ∧
    ∀ entry ∈ after, ¬ Boundary entry.2 ∧ ∀ nonce issuedAtUs, ¬ Issues entry.1 entry.2 nonce issuedAtUs

theorem Outstanding.snoc (held : Outstanding trace nonce issuedAtUs) (same : ¬ Boundary event)
    (quiet : ∀ nonce issuedAtUs, ¬ Issues left event nonce issuedAtUs) (unanswered : ¬ Answers cfg event) :
    Outstanding (trace ++ [(left,event)]) nonce issuedAtUs := by
  obtain ⟨before,issuer,issue,after,rfl,issued,later⟩ := held
  refine ⟨before,issuer,issue,after ++ [(left,event)],by simp,issued,?_⟩
  intro entry member
  rcases List.mem_append.mp member with old | new
  · exact later entry old
  · cases List.mem_singleton.mp new
    exact ⟨same,quiet,unanswered⟩

theorem Proved.snoc (held : Proved deviceId bootId trace) (same : ¬ Boundary event)
    (quiet : ∀ nonce issuedAtUs, ¬ Issues left event nonce issuedAtUs) :
    Proved deviceId bootId (trace ++ [(left,event)]) := by
  obtain ⟨before,answerer,answer,after,nonce,issuedAtUs,proof,platform,rfl,open_,asked,young,free,right,later⟩ := held
  refine ⟨before,answerer,answer,after ++ [(left,event)],nonce,issuedAtUs,proof,platform,by simp,open_,asked,
    young,free,right,?_⟩
  intro entry member
  rcases List.mem_append.mp member with old | new
  · exact later entry old
  · cases List.mem_singleton.mp new
    exact ⟨same,quiet⟩

theorem isLocked_locked (locked : (isLocked lockout nowUs).1 = true) :
    isLocked lockout nowUs = (true,lockout) ∧ lockout.lockedUntilUs ≠ 0 := by
  unfold isLocked at *
  split at locked
  · cases locked
  · rename_i set
    split at locked
    · rename_i future
      rw [if_neg set,if_pos future]
      exact ⟨rfl,set⟩
    · cases locked

theorem isLocked_unlocked (free : (isLocked lockout nowUs).1 = false) :
    ∃ later, isLocked lockout nowUs = (false,later) ∧ later.lockedUntilUs = 0 := by
  unfold isLocked at *
  split at free
  · rename_i unset
    exact ⟨lockout,by rw [if_pos unset],unset⟩
  · rename_i set
    split at free
    · cases free
    · rename_i past
      exact ⟨.cleared,by rw [if_neg set,if_neg past],rfl⟩

structure SoundAuthentication (deviceId : Vector UInt8 6) (bootId : UInt32)
    (trace : List (Server cfg × LinkEvent)) (authentication : AuthSession) (lockout : Lockout) : Prop where
  identified : authentication.deviceId = deviceId
  unlocked : authentication.challengeActive = true → lockout.lockedUntilUs = 0
  outstanding : authentication.challengeActive = true →
    Outstanding trace authentication.nonce authentication.issuedAtUs
  proved : authentication.authenticated = true → Proved deviceId bootId trace

theorem SoundAuthentication.snoc (sound : SoundAuthentication deviceId bootId trace authentication lockout)
    (same : ¬ Boundary event) (quiet : ∀ nonce issuedAtUs, ¬ Issues left event nonce issuedAtUs)
    (unanswered : ¬ Answers cfg event) :
    SoundAuthentication deviceId bootId (trace ++ [(left,event)]) authentication lockout where
  identified := sound.identified
  unlocked := sound.unlocked
  outstanding active := (sound.outstanding active).snoc same quiet unanswered
  proved held := (sound.proved held).snoc same quiet

theorem SoundAuthentication.begin (sound : SoundAuthentication deviceId bootId trace authentication
      left.device.lockout) (same : ¬ Boundary event)
    (request : asked cfg event = some ((.authBegin,[]),platform)) :
    SoundAuthentication deviceId bootId (trace ++ [(left,event)])
      (authEffect left.device authentication platform (some (.authBegin,[]))).1
      (authEffect left.device authentication platform (some (.authBegin,[]))).2 := by
  have unanswered : ¬ Answers cfg event := by
    rintro ⟨proof,other,equal,_⟩
    rw [request] at equal
    cases equal
  simp only [authEffect,applicationAuthBegin]
  cases locked : (isLocked left.device.lockout platform.nowUs).1 with
  | true =>
    rw [(isLocked_locked locked).1]
    refine sound.snoc same ?_ unanswered
    rintro nonce issuedAtUs ⟨other,equal,free,_⟩
    rw [request] at equal
    cases equal
    rw [locked] at free
    cases free
  | false =>
    obtain ⟨later,checked,cleared⟩ := isLocked_unlocked locked
    rw [checked]
    refine ⟨sound.identified,fun _ => cleared,fun _ => ?_,?_⟩
    · exact ⟨trace,left,event,[],rfl,⟨platform,request,locked,rfl,rfl⟩,by simp⟩
    · intro held; cases held

theorem SoundAuthentication.prove (sound : SoundAuthentication deviceId bootId trace authentication
      left.device.lockout) (same : ¬ Boundary event) (booted : left.device.thermometer.bootId = bootId)
    (request : asked cfg event = some ((.authProve,proof),platform)) (sized : proof.length = authProveRequestSize) :
    SoundAuthentication deviceId bootId (trace ++ [(left,event)])
      (authEffect left.device authentication platform (some (.authProve,proof))).1
      (authEffect left.device authentication platform (some (.authProve,proof))).2 := by
  have quiet : ∀ nonce issuedAtUs, ¬ Issues left event nonce issuedAtUs := by
    rintro nonce issuedAtUs ⟨other,equal,_⟩
    rw [request] at equal
    cases equal
  have kept (held : authentication.authenticated = true) := (sound.proved held).snoc same quiet
  rw [authEffect_prove sized,booted]
  simp only [applicationAuthProve]
  cases locked : (isLocked left.device.lockout platform.nowUs).1 with
  | true =>
    obtain ⟨checked,set⟩ := isLocked_locked locked
    rw [checked]
    -- A lock and an open challenge exclude each other.
    have idle : authentication.challengeActive ≠ true := fun active => set (sound.unlocked active)
    exact ⟨sound.identified,fun active => absurd active idle,fun active => absurd active idle,kept⟩
  | false =>
    obtain ⟨later,checked,cleared⟩ := isLocked_unlocked locked
    rw [checked]
    dsimp only
    split
    · refine ⟨sound.identified,?_,?_,kept⟩ <;> (intro active; cases active)
    · rename_i current
      simp only [not_or,Bool.not_eq_true,Bool.not_eq_false',Int.not_lt] at current
      obtain ⟨active,young⟩ := current
      split
      · rename_i valid
        refine ⟨sound.identified,?_,?_,fun _ => ?_⟩
        · intro active; cases active
        · intro active; cases active
        · have right := (proofValid_iff sized).mp valid
          rw [sound.identified] at right
          exact ⟨trace,left,event,[],_,_,proof,platform,rfl,sound.outstanding active,request,young,locked,right,
            by simp⟩
      · split <;> refine ⟨sound.identified,?_,?_,?_⟩ <;> (intro active; cases active)

theorem authEffect_cases (device : Device cfg) (authentication : AuthSession) (platform : Platform)
    (request : Option (Opcode × List UInt8)) :
    request = some (.authBegin,[]) ∨
    (∃ proof, request = some (.authProve,proof) ∧ proof.length = authProveRequestSize) ∨
    ((∀ proof, request = some (.authProve,proof) → proof.length ≠ authProveRequestSize) ∧
      request ≠ some (.authBegin,[]) ∧
      authEffect device authentication platform request = (authentication,device.lockout)) := by
  unfold authEffect
  split
  · exact .inl rfl
  · rename_i proof
    by_cases sized : proof.length = authProveRequestSize
    · exact .inr (.inl ⟨proof,rfl,sized⟩)
    · refine .inr (.inr ⟨?_,by simp,by rw [if_neg sized]⟩)
      intro other equal
      cases equal
      exact sized
  · rename_i noBegin noProve
    refine .inr (.inr ⟨?_,fun equal => noBegin equal,rfl⟩)
    intro proof equal
    exact absurd equal (noProve proof)

structure Sound (deviceId : Vector UInt8 6) (bootId : UInt32) (trace : List (Server cfg × LinkEvent))
    (s : Server cfg) : Prop where
  unscheduled : s.session.bondResetRequested = false
  identity : s.deviceId = deviceId
  booted : s.device.thermometer.bootId = bootId
  unlinked : s.linked = false → s.session = .zeroed
  authentication : s.linked = true →
    SoundAuthentication deviceId bootId trace s.session.authentication s.device.lockout

theorem Sound.silent (sound : Sound deviceId bootId trace s) (same : ¬ Boundary event)
    (unasked : asked cfg event = none) : Sound deviceId bootId (trace ++ [(left,event)]) s := by
  refine ⟨sound.unscheduled,sound.identity,sound.booted,sound.unlinked,fun linked => ?_⟩
  refine (sound.authentication linked).snoc same ?_ ?_
  · rintro nonce issuedAtUs ⟨platform,equal,_⟩
    rw [unasked] at equal
    cases equal
  · rintro ⟨proof,platform,equal,_⟩
    rw [unasked] at equal
    cases equal

theorem writeRequest_cases (cfg : FirmwareConfig) (request : List UInt8) (platform : Platform) (flat : Bool)
    (peer : Option BleAddress) :
    (asked cfg (.write request platform flat peer) = none ∧
      ∃ refusal, refusal ≠ AttResult.success ∧ ∀ s : Server cfg,
        writeRequest s request platform flat peer = some (refusal,s)) ∨
    (asked cfg (.write request platform flat peer) = (acceptedRequest cfg request).map (·,platform) ∧
      ∀ s : Server cfg, writeRequest s request platform flat peer =
        (processRequest cfg s.device s.session s.response platform request).bind fun outcome =>
          some (if 0 < outcome.reply.length then .success else .unlikely,
            scheduleBondReset (s.withOutcome outcome) outcome.session.bondResetRequested peer)) := by
  by_cases sized : headerSize ≤ request.length ∧ request.length ≤ cfg.maxPacketSize
  · have inside : ¬ (request.length < headerSize ∨ cfg.maxPacketSize < request.length) := by omega
    cases flat with
    | false =>
      refine .inl ⟨by simp [asked],.unlikely,by decide,fun _ => ?_⟩
      rw [writeRequest,if_neg inside]
      rfl
    | true =>
      refine .inr ⟨by simp [asked,sized],fun _ => ?_⟩
      rw [writeRequest,if_neg inside]
      rfl
  · have outside : request.length < headerSize ∨ cfg.maxPacketSize < request.length := by omega
    refine .inl ⟨?_,.invalidAttrValueLen,by decide,fun _ => by rw [writeRequest,if_pos outside]⟩
    rw [asked,if_neg]
    exact fun all => sized ⟨all.1,all.2.1⟩

theorem maxPacketSize_header (cfg : FirmwareConfig) : headerSize ≤ cfg.maxPacketSize :=
  Nat.le_trans (Nat.le_trans (Nat.le_add_right _ _) (Nat.le_add_right _ _)) (Nat.le_max_left _ _)

theorem scheduleBondReset_keeps (s : Server cfg) (requested : Bool) (peer : Option BleAddress) :
    ∃ clear bond, scheduleBondReset s requested peer =
      { s with clearBondOnDisconnect := clear, bondToClear := bond } := by
  unfold scheduleBondReset
  split
  · exact ⟨_,_,rfl⟩
  · exact ⟨_,_,rfl⟩

theorem SoundAuthentication.handled (sound : SoundAuthentication deviceId bootId trace authentication
      left.device.lockout) (same : ¬ Boundary event) (booted : left.device.thermometer.bootId = bootId)
    (asks : asked cfg event = request.map (·,platform)) :
    SoundAuthentication deviceId bootId (trace ++ [(left,event)])
      (authEffect left.device authentication platform request).1
      (authEffect left.device authentication platform request).2 := by
  rcases authEffect_cases left.device authentication platform request with
    rfl | ⟨proof,rfl,sized⟩ | ⟨noProof,noBegin,kept⟩
  · exact sound.begin same asks
  · exact sound.prove same booted asks sized
  · rw [kept]
    refine sound.snoc same ?_ ?_
    · rintro nonce issuedAtUs ⟨other,equal,_⟩
      rw [asks] at equal
      obtain ⟨_,accepted,paired⟩ := Option.map_eq_some_iff.mp equal
      cases paired
      exact noBegin accepted
    · rintro ⟨proof,other,equal,sized⟩
      rw [asks] at equal
      obtain ⟨_,accepted,paired⟩ := Option.map_eq_some_iff.mp equal
      cases paired
      exact noProof proof accepted sized

theorem Sound.write (sound : Sound deviceId bootId trace s) (linked : s.linked = true)
    (wrote : writeRequest s request platform flat peer = some (result,next)) :
    Sound deviceId bootId (trace ++ [(s,.write request platform flat peer)]) next := by
  rcases writeRequest_cases cfg request platform flat peer with ⟨unasked,refusal,_,refused⟩ | ⟨asks,served⟩
  · rw [refused] at wrote
    cases wrote
    exact sound.silent id unasked
  · rw [served] at wrote
    simp only [Option.bind_eq_some_iff,Option.some.injEq,Prod.mk.injEq] at wrote
    obtain ⟨outcome,processed,_,rfl⟩ := wrote
    obtain ⟨effect,booted⟩ := processRequest_authentication (maxPacketSize_header cfg) processed
    have within : ¬ Boundary (.write request platform flat peer) := id
    have kept := (sound.authentication linked).handled within sound.booted asks
    rw [← effect] at kept
    obtain ⟨clear,bond,scheduled⟩ :=
      scheduleBondReset_keeps (s.withOutcome outcome) outcome.session.bondResetRequested peer
    rw [scheduled]
    refine ⟨rfl,sound.identity,booted.trans sound.booted,fun unlinked => ?_,fun _ => kept⟩
    exact absurd (linked.symm.trans unlinked) (by decide)

theorem Sound.onThermometer {change : Event} (sound : Sound deviceId bootId trace s) :
    Sound deviceId bootId trace (onThermometer s change) :=
  ⟨sound.unscheduled,sound.identity,(step_bootId _ _).trans sound.booted,sound.unlinked,sound.authentication⟩

theorem Sound.step (sound : Sound deviceId bootId trace s) (stepped : serverStep s event = some next) :
    Sound deviceId bootId (trace ++ [(s,event)]) next := by
  cases event with
  | connect established =>
    cases established with
    | false =>
      cases Option.some.inj stepped
      exact sound.silent (by simp [Boundary]) rfl
    | true =>
      cases Option.some.inj stepped
      refine ⟨rfl,sound.identity,sound.booted,fun unlinked => ?_,fun _ => ?_⟩
      · cases unlinked
      · refine ⟨sound.identity,?_,?_,?_⟩ <;> (intro active; cases active)
  | disconnect =>
    cases Option.some.inj stepped
    unfold handleDisconnect
    split
    · refine ⟨rfl,sound.identity,sound.booted,fun _ => rfl,fun linked => ?_⟩
      cases linked
    · refine ⟨rfl,sound.identity,sound.booted,fun _ => rfl,fun linked => ?_⟩
      cases linked
  | write request platform flat peer =>
    simp only [serverStep] at stepped
    split at stepped
    · rename_i linked
      obtain ⟨⟨result,last⟩,wrote,rfl⟩ := Option.map_eq_some_iff.mp stepped
      exact sound.write linked wrote
    · cases stepped
  | read room =>
    simp only [serverStep] at stepped
    split at stepped
    · rename_i linked
      cases Option.some.inj stepped
      cases room with
      | false => exact sound.silent id rfl
      | true =>
        have kept : Sound deviceId bootId (trace ++ [(s,.read true)]) s := sound.silent id rfl
        refine ⟨kept.unscheduled,kept.identity,kept.booted,fun unlinked => ?_,fun linked => ?_⟩
        · exact absurd (linked.symm.trans unlinked) (by decide)
        · obtain ⟨identified,unlocked,outstanding,proved⟩ := kept.authentication linked
          exact ⟨identified,unlocked,outstanding,proved⟩
    · cases stepped
  | tick =>
    cases Option.some.inj stepped
    exact (sound.silent id rfl).onThermometer
  | reading index reading =>
    cases Option.some.inj stepped
    exact (sound.silent id rfl).onThermometer
  | toggleDisplay sensorId =>
    cases Option.some.inj stepped
    exact (sound.silent id rfl).onThermometer

def Server.withThermometer (s : Server cfg) (thermometer : State cfg.device) : Server cfg :=
  { s with device := { s.device with thermometer := thermometer } }

-- What a write in a session without authentication amounts to. Its outcome is the
-- same whatever the thermometer holds in this boot, so nothing of it is returned;
-- a served write replaces the whole response, so nothing returned earlier is either.
structure Withheld (s : Server cfg) (request : List UInt8) (platform : Platform) (flat : Bool)
    (peer : Option BleAddress) (result : AttResult) (next : Server cfg) : Prop where
  unread : ∀ thermometer : State cfg.device, thermometer.bootId = s.device.thermometer.bootId →
    writeRequest (s.withThermometer thermometer) request platform flat peer =
      some (result,next.withThermometer thermometer)
  fresh : result = .success → ∀ response responseLength,
    writeRequest { s with response := response, responseLength := responseLength } request platform flat peer =
      some (result,next)
  short : result = .success → next.responseLength = headerSize ∨
    (acceptedRequest cfg request = some (.authBegin,[]) ∧
      next.responseLength = headerSize + authBeginResponseSize)
  refused : result ≠ .success → next = s
  thermometer : next.device.thermometer = s.device.thermometer
  bond : next.clearBondOnDisconnect = s.clearBondOnDisconnect ∧ next.bondToClear = s.bondToClear

theorem write_withheld (s : Server cfg) (unscheduled : s.session.bondResetRequested = false)
    (closed : s.session.authentication.authenticated = false) (request : List UInt8) (platform : Platform)
    (flat : Bool) (peer : Option BleAddress) :
    ∃ result next, writeRequest s request platform flat peer = some (result,next) ∧
      Withheld s request platform flat peer result next := by
  rcases writeRequest_cases cfg request platform flat peer with ⟨_,refusal,failed,refused⟩ | ⟨_,served⟩
  · refine ⟨refusal,s,refused s,fun _ _ => refused _,?_,?_,fun _ => rfl,rfl,rfl,rfl⟩
    · intro success; exact absurd success failed
    · intro success; exact absurd success failed
  · obtain ⟨reply,authentication,lockout,length,answered⟩ := processRequest_withholds cfg
      (maxPacketSize_header cfg) s.device.thermometer.bootId s.session s.device.lockout closed platform request
    have positive : 0 < reply.length := by
      rcases length with bare | ⟨_,challenge⟩
      · rw [bare]; decide
      · rw [challenge]; decide
    -- The outcome never asks for a bond reset, so nothing is scheduled.
    have handled (response : Vector UInt8 cfg.maxPacketSize) (responseLength : Nat)
        (thermometer : State cfg.device) (booted : thermometer.bootId = s.device.thermometer.bootId) :
        writeRequest { s.withThermometer thermometer with response := response, responseLength := responseLength }
            request platform flat peer =
          some (.success,{ s with
            response := reply.buffer, responseLength := reply.length
            session := ⟨authentication,false⟩, device := ⟨thermometer,lockout⟩ }) := by
      rw [served]
      simp only [Server.withThermometer,answered response thermometer booted,Option.bind_some,if_pos positive,
        unscheduled,scheduleBondReset,Server.withOutcome]
    refine ⟨.success,_,handled s.response s.responseLength s.device.thermometer rfl,?_⟩
    refine ⟨fun thermometer booted => handled s.response s.responseLength thermometer booted,
      fun _ response responseLength => handled response responseLength s.device.thermometer rfl,
      fun _ => ?_,fun failed => absurd rfl failed,rfl,rfl,rfl⟩
    rcases length with bare | challenge
    · exact .inl bare
    · exact .inr challenge

-- Only the right answer to the running session's latest challenge authenticates,
-- and without authentication nothing is told or changed.
theorem authentication_safety
    (path : Path serverStep anyStep (serverStart cfg bootId deviceId) trace s) :
    (s.session.authentication.authenticated = true → Proved deviceId bootId trace) ∧
    (s.session.authentication.authenticated = false → ∀ request platform flat peer,
      ∃ result next, writeRequest s request platform flat peer = some (result,next) ∧
        Withheld s request platform flat peer result next) := by
  have sound : Sound deviceId bootId trace s := by
    refine path.history (Sound deviceId bootId) ?_ ?_
    · refine ⟨rfl,rfl,rfl,fun _ => rfl,fun linked => ?_⟩
      cases linked
    · intro trace s event next _ sound _ stepped
      exact sound.step stepped
  constructor
  · intro authenticated
    cases linked : s.linked with
    | true => exact (sound.authentication linked).proved authenticated
    | false =>
      rw [sound.unlinked linked] at authenticated
      cases authenticated
  · intro closed request platform flat peer
    exact write_withheld s sound.unscheduled closed request platform flat peer

-- The shipped values with rings of three slots. The platform computes one HMAC value, that
-- of a challenge with the nonce 9, and fails on every other message.
def provenMessage : List UInt8 :=
  [84,72,69,82,77,79,77,69,84,69,82,45,65,85,84,72,45,86,50,2,1,2,3,4,5,6,7,0,0,0] ++ .replicate 16 9

def provenMac : List UInt8 :=
  [22,123,36,208,74,54,130,111,46,82,114,215,241,46,120,187,112,105,10,106,26,121,147,106,66,38,55,1,133,236,
    156,160]

def provenConfig : FirmwareConfig where
  device := threeSlots
  auth :=
    { domain := [84,72,69,82,77,79,77,69,84,69,82,45,65,85,84,72,45,86,50]
      passkey := [49,50,51,52,53,54]
      protocolVersion := 2
      challengeTimeoutMs := 5000
      maxFailures := 3
      lockoutMs := 30000
      psaMac := fun key message =>
        if key = [49,50,51,52,53,54] ∧ message = provenMessage then some provenMac else none }
  responseFlag := 1
  maxHistoryRecords := 32
  maxCompactHistoryRecords := 72

def provenRun : List LinkEvent :=
  [.connect true,.write [2,5,1,0,0,0,0,0] ⟨1000,.replicate 16 9⟩ true none,
    .write ([2,6,2,0,32,0,0,0] ++ provenMac) ⟨2000,.replicate 16 0⟩ true none]

theorem authentication_safety_proven_run :
    ∃ trace s, Path serverStep anyStep (serverStart provenConfig 7 ⟨#[1,2,3,4,5,6],rfl⟩) trace s ∧
      s.session.authentication.authenticated = true ∧
      Proved ⟨#[1,2,3,4,5,6],rfl⟩ 7 trace := by
  have ran : (Execution.run serverStep (serverStart provenConfig 7 ⟨#[1,2,3,4,5,6],rfl⟩) provenRun).map
      (·.session.authentication.authenticated) = some true := by decide
  obtain ⟨s,reached,authenticated⟩ := Option.map_eq_some_iff.mp ran
  obtain ⟨trace,path,_⟩ := run_path reached
  exact ⟨trace,s,path,authenticated,(authentication_safety path).1 authenticated⟩

end Thermometer.Firmware
