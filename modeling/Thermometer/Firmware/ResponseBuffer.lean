import Thermometer.Firmware.Responses
import Thermometer.Firmware.Authentication

-- What can be read from the response characteristic, over all connections of a boot.
namespace Thermometer.Firmware
open Memory Wire Execution

variable {cfg : FirmwareConfig} {trace : List (Server cfg × LinkEvent)} {left s next : Server cfg} {event : LinkEvent}
  {P Q : Server cfg → LinkEvent → Prop} {bytes : List UInt8}

def InConnection (trace : List (Server cfg × LinkEvent)) (P : Server cfg → LinkEvent → Prop) : Prop :=
  ∃ before left event after, trace = before ++ (left,event) :: after ∧ P left event ∧ ∀ entry ∈ after, ¬ Boundary entry.2

theorem InConnection.last (trace : List (Server cfg × LinkEvent)) (happened : P left event) :
    InConnection (trace ++ [(left,event)]) P := ⟨trace,left,event,[],rfl,happened,by simp⟩

theorem InConnection.snoc (held : InConnection trace P) (same : ¬ Boundary event) :
    InConnection (trace ++ [(left,event)]) P := by
  obtain ⟨before,earlier,happened,after,rfl,holds,quiet⟩ := held
  refine ⟨before,earlier,happened,after ++ [(left,event)],by simp,holds,?_⟩
  intro entry member
  rcases List.mem_append.mp member with old | new
  · exact quiet entry old
  · cases List.mem_singleton.mp new
    exact same

theorem InConnection.split (held : InConnection (trace ++ [(left,event)]) P) :
    P left event ∨ (¬ Boundary event ∧ InConnection trace P) := by
  obtain ⟨before,earlier,happened,after,equal,holds,quiet⟩ := held
  rcases List.eq_nil_or_concat after with rfl | ⟨middle,last,rfl⟩
  · obtain ⟨_,same⟩ := List.append_inj' equal rfl
    cases same
    exact .inl holds
  · have shifted : trace ++ [(left,event)] = (before ++ (earlier,happened) :: middle) ++ [last] := by simpa using equal
    obtain ⟨rfl,same⟩ := List.append_inj' shifted rfl
    cases same
    refine .inr ⟨quiet (left,event) (by simp),before,earlier,happened,middle,rfl,holds,?_⟩
    exact fun entry member => quiet entry (by simp [member])

def returned (s : Server cfg) : List UInt8 := s.response.toList.take s.responseLength

def initialHeader (cfg : FirmwareConfig) : List UInt8 := packet cfg 0 0 .notAvailable []

def Served (cfg : FirmwareConfig) : LinkEvent → Prop
  | .write request _ flat _ => headerSize ≤ request.length ∧ request.length ≤ cfg.maxPacketSize ∧ flat
  | _ => False

def Produces (left : Server cfg) (event : LinkEvent) (bytes : List UInt8) : Prop :=
  ∃ request platform peer, event = .write request platform true peer ∧ Served cfg event ∧
    bytes = packet cfg (echo request).1 (echo request).2
      (answer cfg.maxPacketSize left.device left.session platform request).status
      (answer cfg.maxPacketSize left.device left.session platform request).payload

theorem returned_scheduled (s : Server cfg) (requested : Bool) (peer : Option BleAddress) :
    returned (scheduleBondReset s requested peer) = returned s := by
  obtain ⟨clear,bond,scheduled⟩ := scheduleBondReset_keeps s requested peer
  rw [scheduled]
  rfl

theorem write_returned (shorter : cfg.maxHistoryRecords ≤ cfg.maxCompactHistoryRecords)
    (wrote : writeRequest s request platform flat peer = some (result,next)) :
    (¬ Served cfg (.write request platform flat peer) ∧ returned next = returned s) ∨
      Produces s (.write request platform flat peer) (returned next) := by
  unfold writeRequest at wrote
  split at wrote
  · rename_i outside
    cases wrote
    refine .inl ⟨fun served => ?_,rfl⟩
    unfold Served at served
    omega
  · rename_i inside
    cases flat with
    | false =>
      cases wrote
      exact .inl ⟨by simp [Served],rfl⟩
    | true =>
      have replied : Replies (echo request).1 (echo request).2
          (processRequest cfg s.device s.session s.response platform request)
          (answer cfg.maxPacketSize s.device s.session platform request) :=
        processRequest_replies (maxPacketSize_header cfg) shorter request
      obtain ⟨reply,processed,carries⟩ := replied
      rw [if_neg (by simp),processed] at wrote
      cases wrote
      refine .inr ⟨request,platform,peer,rfl,⟨by omega,by omega,rfl⟩,?_⟩
      rw [returned_scheduled]
      exact carries.content

theorem header_stored (version status flags : UInt8) (room : headerSize ≤ capacity) :
    ((((Vector.replicate capacity 0).setIfInBounds headerVersion version).setIfInBounds headerStatus
      status).setIfInBounds headerFlags flags).toList.take headerSize = [version,0,0,0,0,0,status,flags] := by
  obtain ⟨rest,rfl⟩ := Nat.exists_eq_add_of_le' room
  simp [headerSize,headerVersion,headerStatus,headerFlags,List.replicate_succ]

theorem serverStart_returned (cfg : FirmwareConfig) (bootId : UInt32) (deviceId : Vector UInt8 6) :
    returned (serverStart cfg bootId deviceId) = initialHeader cfg :=
  header_stored cfg.auth.protocolVersion Status.notAvailable.value cfg.responseFlag (maxPacketSize_header cfg)

-- No answer is the initial header: nothing has the opcode 0, so a request with this
-- opcode is refused before anything could be missing.
theorem produces_ne_initial (produced : Produces left event bytes) : bytes ≠ initialHeader cfg := by
  obtain ⟨request,platform,peer,rfl,⟨long,_⟩,rfl⟩ := produced
  intro same
  have opcode : (echo request).1 = 0 := by
    have second := congrArg (fun bytes => bytes[1]?) same
    simpa [packet,initialHeader] using second
  have status : (answer cfg.maxPacketSize left.device left.session platform request).status = .notAvailable := by
    have seventh := congrArg (fun bytes => bytes[6]?) same
    simp only [packet,initialHeader,u16Bytes,List.cons_append,List.nil_append,List.getElem?_cons_succ,
      List.getElem?_cons_zero,Option.some.injEq] at seventh
    generalize (answer cfg.maxPacketSize left.device left.session platform request).status = status at seventh
    revert seventh
    cases status <;> decide
  have unknown : Opcode.ofByte (echo request).1 = none := by
    rw [opcode]
    decide
  unfold answer at status
  split at status
  · cases status
  · split at status
    · cases status
    · split at status
      · cases status
      · simp only [answerDispatch,answerAuthenticated,unknown] at status
        split at status <;> cases status

structure Buffered (trace : List (Server cfg × LinkEvent)) (bytes : List UInt8) : Prop where
  unserved : (∀ entry ∈ trace, ¬ Served cfg entry.2) → bytes = initialHeader cfg
  served : ∀ entry ∈ trace, Served cfg entry.2 → ∃ other ∈ trace, Produces other.1 other.2 bytes
  here : InConnection trace (fun _ event => Served cfg event) → InConnection trace (Produces · · bytes)

theorem Buffered.produced (trace : List (Server cfg × LinkEvent)) (produced : Produces left event bytes) :
    Buffered (trace ++ [(left,event)]) bytes where
  unserved none := by
    obtain ⟨_,_,_,rfl,served,_⟩ := produced
    exact absurd served (none (left,_) (by simp))
  served _ _ _ := ⟨(left,event),by simp,produced⟩
  here _ := .last trace produced

theorem Buffered.kept (buffered : Buffered trace bytes) (left : Server cfg) (unserved : ¬ Served cfg event) :
    Buffered (trace ++ [(left,event)]) bytes where
  unserved none := buffered.unserved fun entry member => none entry (by simp [member])
  served entry member served := by
    rcases List.mem_append.mp member with old | new
    · obtain ⟨other,among,produced⟩ := buffered.served entry old served
      exact ⟨other,by simp [among],produced⟩
    · cases List.mem_singleton.mp new
      exact absurd served unserved
  here held := by
    rcases held.split with served | ⟨same,earlier⟩
    · exact absurd served unserved
    · exact (buffered.here earlier).snoc same

theorem Buffered.step (shorter : cfg.maxHistoryRecords ≤ cfg.maxCompactHistoryRecords)
    (buffered : Buffered trace (returned s)) (stepped : serverStep s event = some next) :
    Buffered (trace ++ [(s,event)]) (returned next) := by
  cases event with
  | connect established =>
    cases Option.some.inj stepped
    cases established <;> exact buffered.kept s id
  | disconnect =>
    cases Option.some.inj stepped
    have same : returned (handleDisconnect s) = returned s := by
      unfold handleDisconnect
      split <;> rfl
    rw [same]
    exact buffered.kept s id
  | write request platform flat peer =>
    simp only [serverStep] at stepped
    split at stepped
    · obtain ⟨⟨result,last⟩,wrote,rfl⟩ := Option.map_eq_some_iff.mp stepped
      rcases write_returned shorter wrote with ⟨unserved,same⟩ | produced
      · rw [same]
        exact buffered.kept s unserved
      · exact .produced trace produced
    · cases stepped
  | read room =>
    simp only [serverStep] at stepped
    split at stepped
    · cases Option.some.inj stepped
      cases room <;> exact buffered.kept s id
    · cases stepped
  | tick =>
    cases Option.some.inj stepped
    exact buffered.kept s id
  | reading index reading =>
    cases Option.some.inj stepped
    exact buffered.kept s id
  | toggleDisplay sensorId =>
    cases Option.some.inj stepped
    exact buffered.kept s id

theorem buffered_reached (shorter : cfg.maxHistoryRecords ≤ cfg.maxCompactHistoryRecords)
    (path : Path serverStep anyStep (serverStart cfg bootId deviceId) trace s) : Buffered trace (returned s) := by
  refine path.history (fun trace s => Buffered trace (returned s)) ?_ ?_
  · refine ⟨fun _ => serverStart_returned cfg bootId deviceId,by simp,?_⟩
    rintro ⟨before,_,_,_,equal,_⟩
    simp at equal
  · intro trace s event next _ buffered _ stepped
    exact buffered.step shorter stepped

def Sanctioned (trace : List (Server cfg × LinkEvent)) (bytes : List UInt8) : Prop :=
  bytes = initialHeader cfg ∨ InConnection trace (Produces · · bytes)

def Fresh (trace : List (Server cfg × LinkEvent)) : Prop :=
  InConnection trace (fun _ event => Served cfg event) ∨ ∀ entry ∈ trace, ¬ Served cfg entry.2

theorem Buffered.sanctioned (buffered : Buffered trace bytes) : Sanctioned trace bytes ↔ Fresh trace := by
  constructor
  · rintro (initial | ⟨before,left,event,after,equal,produced,quiet⟩)
    · refine .inr fun entry member served => ?_
      obtain ⟨other,_,produced⟩ := buffered.served entry member served
      exact produces_ne_initial produced initial
    · obtain ⟨_,_,_,rfl,served,_⟩ := produced
      exact .inl ⟨before,left,_,after,equal,served,quiet⟩
  · rintro (here | unserved)
    · exact .inr (buffered.here here)
    · exact .inl (buffered.unserved unserved)

-- The reads of a run return what they may exactly when each comes behind a request of
-- its connection, or before the first request of the boot.
theorem response_isolation (shorter : cfg.maxHistoryRecords ≤ cfg.maxCompactHistoryRecords)
    (path : Path serverStep anyStep (serverStart cfg bootId deviceId) trace s) :
    (∀ before left room after bytes, trace = before ++ (left,.read room) :: after →
      (readResponse left room).1 = some bytes → Sanctioned before bytes) ↔
    ∀ before left after, trace = before ++ (left,.read true) :: after → Fresh before := by
  have earlier (before : List (Server cfg × LinkEvent)) (left : Server cfg) (event : LinkEvent)
      (after : List (Server cfg × LinkEvent)) (equal : trace = before ++ (left,event) :: after) :
      Buffered before (returned left) := buffered_reached shorter (path.upTo equal)
  constructor
  · intro sanctioned before left after equal
    exact (earlier before left (.read true) after equal).sanctioned.mp (sanctioned before left true after _ equal rfl)
  · intro fresh before left room after bytes equal read
    cases room with
    | false => cases read
    | true =>
      cases Option.some.inj read
      exact (earlier before left (.read true) after equal).sanctioned.mpr (fresh before left after equal)

def challengeRun : List LinkEvent := [.connect true,.write [2,5,1,0,0,0,0,0] ⟨1000,.replicate 16 9⟩ true none,.read true]

theorem response_isolation_challenge :
    ∃ trace s, Path serverStep anyStep (serverStart provenConfig 7 ⟨#[1,2,3,4,5,6],rfl⟩) trace s ∧
      trace.map Prod.snd = challengeRun ∧ ∀ before left room after bytes, trace = before ++ (left,.read room) :: after →
        (readResponse left room).1 = some bytes → Sanctioned before bytes := by
  have passed : (Execution.run serverStep (serverStart provenConfig 7 ⟨#[1,2,3,4,5,6],rfl⟩) challengeRun).isSome = true := by
    decide +kernel
  obtain ⟨s,ran⟩ := Option.isSome_iff_exists.mp passed
  obtain ⟨trace,path,labels⟩ := run_path ran
  refine ⟨trace,s,path,labels,(response_isolation (by decide) path).mpr ?_⟩
  intro before left after equal
  rw [equal,List.map_append,List.map_cons] at labels
  match before with
  | [] => simp [challengeRun] at labels
  | [_] => simp [challengeRun] at labels
  | [first,second] =>
    have served : second.2 = .write [2,5,1,0,0,0,0,0] ⟨1000,.replicate 16 9⟩ true none := by
      simp only [challengeRun,List.map_cons,List.cons_append,List.cons.injEq] at labels
      exact labels.2.1
    exact .inl ⟨[first],second.1,second.2,[],rfl,by rw [served]; exact ⟨by decide,by decide,rfl⟩,by simp⟩
  | _ :: _ :: _ :: _ =>
    have length := congrArg List.length labels
    simp [challengeRun] at length

-- An authenticated client reads the current values and leaves; the next one connects.
def leakRun : List LinkEvent :=
  provenRun ++ [.write [2,1,3,0,0,0,0,0] ⟨3000,.replicate 16 0⟩ true none,.read true,.disconnect] ++ [.connect true]

def leaked (s : Server provenConfig) : Bool :=
  s.linked && !s.session.authentication.authenticated && returned s != initialHeader provenConfig &&
    returned s == packet provenConfig 1 3 .success (currentBytes (currentSnapshot s.device.thermometer))

theorem response_outlives_connection :
    ∃ trace s bytes, Path serverStep anyStep (serverStart provenConfig 7 ⟨#[1,2,3,4,5,6],rfl⟩) trace s ∧
      trace.map Prod.snd = leakRun ∧ s.linked = true ∧ s.session.authentication.authenticated = false ∧
      (readResponse s true).1 = some bytes ∧
      bytes = packet provenConfig 1 3 .success (currentBytes (currentSnapshot s.device.thermometer)) ∧
      ¬ Sanctioned trace bytes := by
  have passed : (Execution.run serverStep (serverStart provenConfig 7 ⟨#[1,2,3,4,5,6],rfl⟩) leakRun).any leaked = true := by
    decide +kernel
  obtain ⟨s,ran,holds⟩ := (Option.any_eq_true _ _).mp passed
  obtain ⟨trace,path,labels⟩ := run_path ran
  simp only [leaked,Bool.and_eq_true,Bool.not_eq_true',bne_iff_ne,beq_iff_eq] at holds
  obtain ⟨⟨⟨linked,closed⟩,foreign⟩,current⟩ := holds
  refine ⟨trace,s,returned s,path,labels,linked,closed,rfl,current,?_⟩
  rintro (initial | here)
  · exact foreign initial
  · -- The last step began the connection, and nothing was asked in it.
    obtain ⟨before,last,rfl,_,final⟩ := List.map_eq_append_iff.mp labels
    obtain ⟨⟨left,event⟩,rfl,connected⟩ := List.map_eq_singleton_iff.mp final
    dsimp only at connected
    subst connected
    rcases here.split with ⟨_,_,_,write,_⟩ | ⟨same,_⟩
    · cases write
    · exact same rfl

end Thermometer.Firmware
