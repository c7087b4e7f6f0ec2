import Thermometer.Client.Protocol
import Thermometer.Lib.Outcome

-- What the decoders of protocol.py accept, and what they raise on everything else.
namespace Thermometer.Client.Protocol
open Wire Memory Struct Outcome

inductive Decoder where
  | current | displayResult | authenticationChallenge | historyMeta | historyChunk
  deriving DecidableEq, Repr

inductive Decoded where
  | current (snapshot : CurrentSnapshot)
  | displayResult (result : DisplayResult)
  | authenticationChallenge (challenge : AuthenticationChallenge)
  | historyMeta (answer : HistoryMeta)
  | historyChunk (chunk : HistoryChunk)

def Decoder.decode (response : Response) : Decoder → Except Failure Decoded
  | .current => Decoded.current <$> decodeCurrent response
  | .displayResult => Decoded.displayResult <$> decodeDisplayResult response
  | .authenticationChallenge => Decoded.authenticationChallenge <$> decodeAuthenticationChallenge response
  | .historyMeta => Decoded.historyMeta <$> decodeHistoryMeta response
  | .historyChunk => Decoded.historyChunk <$> decodeHistoryChunk response

def receive (cfg : ProtocolConfig) (decoder : Decoder) (packet : List UInt8) (expectedOpcode : Option Opcode)
    (expectedRequestId : Option UInt16) (allowError : Bool) : Except Failure Decoded := do
  let response ← parseResponse cfg packet expectedOpcode expectedRequestId allowError
  decoder.decode response

def IsProtocolError : Failure → Prop
  | .protocol _ _ => True
  | _ => False

def OnScale (temperatureC : Option Rat) : Prop := ∀ degrees, temperatureC = some degrees → ∃ centi, degrees = centigrade centi

def KnownSensor (sensorId : Nat) : Prop := 1 ≤ sensorId ∧ sensorId ≤ sensorCount

instance : Decidable (KnownSensor sensorId) := inferInstanceAs (Decidable (_ ∧ _))

structure SensorInRange (sensor : SensorSnapshot) : Prop where
  absent : sensor.temperatureC = none ↔ sensor.visibleState = .disconnected
  scale : OnScale sensor.temperatureC

structure RecordInRange (record : HistoryRecordValue) : Prop where
  absent : record.temperatureC = none ↔ record.dataStatus = .disconnected
  scale : OnScale record.temperatureC

def Decoded.InRange (opcode : Opcode) (payload : List UInt8) : Decoded → Prop
  | .current snapshot => opcode = .getCurrent ∧ payload.length = currentResponseSize ∧
      snapshot.sensors.map (·.sensorId) = List.range' 1 sensorCount ∧
      (∀ sensor ∈ snapshot.sensors, SensorInRange sensor) ∧ OnScale snapshot.averageC
  | .displayResult result => opcode = .setDisplay ∧ payload.length = setDisplayResponseSize ∧ KnownSensor result.sensorId.toNat
  | .authenticationChallenge challenge => opcode = .authBegin ∧ payload.length = authBeginResponseSize ∧
      challenge.deviceId.length = 6 ∧ challenge.nonce.length = 16
  | .historyMeta _ => opcode = .getHistoryMeta ∧ payload.length = historyMetaResponseSize
  | .historyChunk chunk => (opcode = .getHistoryChunk ∨ opcode = .getHistoryChunkCompact) ∧ KnownSensor chunk.sensorId ∧
      (∃ recordCount, payload[historyChunkPrefixRecordCount]? = some recordCount ∧ chunk.records.length = recordCount.toNat) ∧
      payload.length = historyChunkPrefixSize + chunk.records.length * (recordLayout (opcode = .getHistoryChunkCompact)).2.1 ∧
      ∀ record ∈ chunk.records, RecordInRange record

def WellFormed (packet : List UInt8) (decoded : Decoded) : Prop :=
  headerSize ≤ packet.length ∧ ∃ values opcode, unpack header (packet.take headerSize) = some values ∧
    packet.length = headerSize + values.payloadLength.toNat ∧ Opcode.ofByte values.opcode = some opcode ∧
    decoded.InRange opcode (packet.drop headerSize)

def Uniform (cfg : ProtocolConfig) (decoder : Decoder) (packet : List UInt8) (expectedOpcode : Option Opcode)
    (expectedRequestId : Option UInt16) (allowError : Bool) : Prop :=
  Meets IsProtocolError (WellFormed packet) (receive cfg decoder packet expectedOpcode expectedRequestId allowError)

structure Misaddressed (cfg : ProtocolConfig) (packet : List UInt8) (expectedOpcode : Option Opcode)
    (expectedRequestId : Option UInt16) (allowError : Bool) (values : Header) (status : Status) (sensorId : UInt8) : Prop where
  header : unpack header (packet.take headerSize) = some values
  payload : ∃ visibleState enabled, packet.drop headerSize = [sensorId,visibleState,enabled]
  announced : values.payloadLength = 3
  flagged : values.flags &&& cfg.responseFlag ≠ 0
  version : values.version = cfg.protocolVersion
  opcode : Opcode.ofByte values.opcode = some .setDisplay
  known : Status.ofByte values.status = some status
  expected : ∀ opcode, expectedOpcode = some opcode → opcode = .setDisplay
  request : ∀ requestId, expectedRequestId = some requestId → requestId = values.requestId
  allowed : status = .success ∨ allowError = true
  unknown : ¬ KnownSensor sensorId.toNat

theorem sensorFields_sized : Sized sensorFields 4 :=
  i16_sized.bind fun _ => u8_sized.bind fun _ => u8_sized.bind fun _ => .pure _

theorem header_sized : Sized header headerSize :=
  u8_sized.bind fun _ => u8_sized.bind fun _ => u16_sized.bind fun _ => u16_sized.bind fun _ =>
    u8_sized.bind fun _ => u8_sized.bind fun _ => .pure _

theorem currentResponse_sized : Sized currentResponse currentResponseSize :=
  u32_sized.bind fun _ => u32_sized.bind fun _ => sensorFields_sized.bind fun _ => sensorFields_sized.bind fun _ =>
    i16_sized.bind fun _ => u8_sized.bind fun _ => u8_sized.bind fun _ => .pure _

theorem setDisplayResponse_sized : Sized setDisplayResponse setDisplayResponseSize :=
  u8_sized.bind fun _ => u8_sized.bind fun _ => u8_sized.bind fun _ => .pure _

theorem historyMetaResponse_sized : Sized historyMetaResponse historyMetaResponseSize :=
  u32_sized.bind fun _ => u32_sized.bind fun _ => u16_sized.bind fun _ => u16_sized.bind fun _ =>
    u32_sized.bind fun _ => u32_sized.bind fun _ => .pure _

theorem historyChunkPrefix_sized : Sized historyChunkPrefix historyChunkPrefixSize :=
  u8_sized.bind fun _ => u32_sized.bind fun _ => u8_sized.bind fun _ => u8_sized.bind fun _ => .pure _

theorem authBeginResponse_sized : Sized authBeginResponse authBeginResponseSize :=
  (bytes_sized 6).bind fun _ => u32_sized.bind fun _ => (bytes_sized 16).bind fun _ => .pure _

theorem unpackLayout_meets {layout : Layout α} (sized : Sized layout size) (name : String) (data : List UInt8) :
    Meets IsProtocolError (fun values => unpack layout data = some values ∧ data.length = size)
      (unpackLayout name size layout data) := by
  unfold unpackLayout
  split
  · rename_i values unpacked
    exact ⟨unpacked,(sized.unpack data).mp (Option.isSome_iff_exists.mpr ⟨values,unpacked⟩)⟩
  · trivial

structure Parsed (cfg : ProtocolConfig) (packet : List UInt8) (expectedOpcode : Option Opcode)
    (expectedRequestId : Option UInt16) (allowError : Bool) (response : Response) (values : Header) : Prop where
  long : headerSize ≤ packet.length
  header : unpack header (packet.take headerSize) = some values
  payload : response.payload = packet.drop headerSize
  announced : response.payload.length = values.payloadLength.toNat
  flagged : values.flags &&& cfg.responseFlag ≠ 0
  version : values.version = cfg.protocolVersion
  opcode : Opcode.ofByte values.opcode = some response.opcode
  known : Status.ofByte values.status = some response.status
  expected : ∀ opcode, expectedOpcode = some opcode → opcode = response.opcode
  request : ∀ requestId, expectedRequestId = some requestId → requestId = values.requestId
  allowed : response.status = .success ∨ allowError = true

theorem checkResponse_meets (cfg : ProtocolConfig) (expectedOpcode : Option Opcode) (expectedRequestId : Option UInt16)
    (allowError : Bool) (response : Response) :
    Meets IsProtocolError (fun checked => checked = response ∧ response.version = cfg.protocolVersion ∧
      (∀ opcode, expectedOpcode = some opcode → opcode = response.opcode) ∧
      (∀ requestId, expectedRequestId = some requestId → requestId = response.requestId) ∧
      (response.status = .success ∨ allowError = true))
      (checkResponse cfg expectedOpcode expectedRequestId allowError response) := by
  unfold checkResponse
  split
  · trivial
  · rename_i version
    split
    · trivial
    · rename_i opcode
      split
      · trivial
      · rename_i request
        split
        · trivial
        · rename_i status
          refine ⟨rfl,Classical.not_not.mp version,fun asked same => ?_,fun asked same => ?_,?_⟩
          · subst same
            by_contra other
            exact opcode (decide_eq_true (Ne.symm other))
          · subst same
            by_contra other
            exact request (decide_eq_true (Ne.symm other))
          · cases allowError with
            | true => exact .inr rfl
            | false => exact .inl (by simpa using status)

theorem parseResponse_meets (cfg : ProtocolConfig) (packet : List UInt8) (expectedOpcode : Option Opcode)
    (expectedRequestId : Option UInt16) (allowError : Bool) :
    Meets IsProtocolError (fun response => ∃ values, Parsed cfg packet expectedOpcode expectedRequestId allowError response values)
      (parseResponse cfg packet expectedOpcode expectedRequestId allowError) := by
  unfold parseResponse
  split
  · trivial
  · rename_i long
    apply Meets.bind (unpackLayout_meets header_sized "header" (packet.take headerSize))
    intro values ⟨unpacked,_⟩
    dsimp only
    split
    · trivial
    · rename_i announced
      split
      · trivial
      · rename_i flagged
        split
        · trivial
        · trivial
        · rename_i opcode status named known
          apply (checkResponse_meets cfg expectedOpcode expectedRequestId allowError _).mono
          intro checked ⟨same,version,expected,request,allowed⟩
          subst same
          exact ⟨values,Nat.le_of_not_lt long,unpacked,rfl,Classical.not_not.mp announced,flagged,version,named,known,expected,
            request,allowed⟩

theorem centigrade_scale (centi : Int16) : OnScale (some (centigrade centi)) := by
  intro degrees same
  cases same
  exact ⟨centi,rfl⟩

theorem absent_scale : OnScale none := nofun

theorem decodeSensor_meets (sensorId : Nat) (values : SensorFields) :
    Meets IsProtocolError (fun sensor => sensor.sensorId = sensorId ∧ SensorInRange sensor) (decodeSensor sensorId values) := by
  unfold decodeSensor
  split
  · trivial
  · rename_i state _
    split
    · trivial
    · refine ⟨rfl,?_,?_⟩
      · cases state <;> simp
      · dsimp only
        split
        · exact absent_scale
        · exact centigrade_scale _

theorem decodeSensors_meets (first : Nat) (fields : List SensorFields) :
    Meets IsProtocolError (fun sensors => sensors.map (·.sensorId) = List.range' first fields.length ∧
      ∀ sensor ∈ sensors, SensorInRange sensor) (decodeSensors first fields) := by
  induction fields generalizing first with
  | nil => exact ⟨rfl,fun _ member => (List.not_mem_nil member).elim⟩
  | cons values rest ih =>
    rw [decodeSensors]
    apply Meets.bind (decodeSensor_meets first values)
    intro sensor ⟨number,inRange⟩
    apply Meets.bind (ih (first + 1))
    intro sensors ⟨numbers,all⟩
    refine ⟨?_,List.forall_mem_cons.mpr ⟨inRange,all⟩⟩
    rw [List.map_cons,number,numbers,List.length_cons,List.range'_succ]

theorem currentResponse_sensors (unpacked : unpack currentResponse data = some values) : values.sensors.length = sensorCount := by
  have run := run_of_unpack unpacked
  simp only [currentResponse,StateT.run_bind,Option.bind_eq_bind,Option.bind_eq_some_iff] at run
  obtain ⟨_,_,_,_,_,_,_,_,_,_,_,_,_,_,made⟩ := run
  have same := (Prod.mk.inj (Option.some.inj made)).1
  subst same
  rfl

theorem decodeCurrent_meets (response : Response) :
    Meets IsProtocolError (fun snapshot => (Decoded.current snapshot).InRange response.opcode response.payload) (decodeCurrent response) := by
  unfold decodeCurrent
  split
  · trivial
  · rename_i opcode
    apply Meets.bind (unpackLayout_meets currentResponse_sized "current_response" response.payload)
    intro values ⟨unpacked,length⟩
    apply Meets.bind (decodeSensors_meets 1 values.sensors)
    intro sensors ⟨numbers,all⟩
    rw [currentResponse_sensors unpacked] at numbers
    split
    · trivial
    · refine ⟨Classical.not_not.mp opcode,length,numbers,all,?_⟩
      dsimp only
      split
      · exact centigrade_scale _
      · exact absent_scale

theorem decodeAuthenticationChallenge_meets (response : Response) :
    Meets IsProtocolError (fun challenge => (Decoded.authenticationChallenge challenge).InRange response.opcode response.payload)
      (decodeAuthenticationChallenge response) := by
  unfold decodeAuthenticationChallenge
  split
  · trivial
  · rename_i opcode
    apply (unpackLayout_meets authBeginResponse_sized "auth_begin_response" response.payload).mono
    intro challenge ⟨unpacked,length⟩
    have run := run_of_unpack unpacked
    simp only [authBeginResponse,StateT.run_bind,Option.bind_eq_bind,Option.bind_eq_some_iff] at run
    obtain ⟨deviceId,identity,_,_,nonce,random,made⟩ := run
    have same := (Prod.mk.inj (Option.some.inj made)).1
    subst same
    exact ⟨Classical.not_not.mp opcode,length,bytes_length identity,bytes_length random⟩

theorem decodeHistoryMeta_meets (response : Response) :
    Meets IsProtocolError (fun answer => (Decoded.historyMeta answer).InRange response.opcode response.payload) (decodeHistoryMeta response) := by
  unfold decodeHistoryMeta
  split
  · trivial
  · rename_i opcode
    apply (unpackLayout_meets historyMetaResponse_sized "history_meta_response" response.payload).mono
    exact fun _ both => ⟨Classical.not_not.mp opcode,both.2⟩

theorem recordLayout_sized (compact : Bool) : Sized (recordLayout compact).2.2 (recordLayout compact).2.1 := by
  cases compact with
  | true => exact i16_sized.bind fun _ => u8_sized.bind fun _ => .pure _
  | false => exact u32_sized.bind fun _ => i16_sized.bind fun _ => u8_sized.bind fun _ => .pure _

theorem decodeRecord_meets (compact : Bool) (startSequence : UInt32) (payload : List UInt8) (recordIndex : Nat) :
    Meets IsProtocolError RecordInRange (decodeRecord compact startSequence payload recordIndex) := by
  unfold decodeRecord
  apply Meets.bind (unpackLayout_meets (recordLayout_sized compact) _ _)
  intro values _
  split
  · trivial
  · rename_i dataStatus _
    refine ⟨?_,?_⟩
    · cases dataStatus <;> simp
    · dsimp only
      split
      · exact centigrade_scale _
      · exact absent_scale

theorem historyChunkPrefix_count (length : data.length = historyChunkPrefixSize) (unpacked : unpack historyChunkPrefix data = some chunk) :
    data[historyChunkPrefixRecordCount]? = some chunk.recordCount := by
  match data with
  | [_,_,_,_,_,_,_] =>
    cases unpacked
    rfl

theorem decodeHistoryChunk_meets (response : Response) :
    Meets IsProtocolError (fun chunk => (Decoded.historyChunk chunk).InRange response.opcode response.payload) (decodeHistoryChunk response) := by
  unfold decodeHistoryChunk
  split
  · trivial
  · rename_i opcode
    dsimp only
    split
    · trivial
    · apply Meets.bind (unpackLayout_meets historyChunkPrefix_sized "history_chunk_prefix" _)
      intro chunk ⟨unpacked,length⟩
      split
      · trivial
      · rename_i known
        split
        · trivial
        · split
          · trivial
          · rename_i announced
            apply Meets.bind (Meets.mapM _ fun recordIndex _ => decodeRecord_meets _ chunk.startSequence response.payload recordIndex)
            intro records ⟨counted,all⟩
            rw [List.length_range] at counted
            have count := historyChunkPrefix_count length unpacked
            rw [List.getElem?_take_of_lt (by decide)] at count
            refine ⟨?_,?_,⟨chunk.recordCount,count,counted⟩,?_,all⟩
            · by_contra other
              exact opcode (not_or.mp other)
            · simp only [not_or] at known
              have positive : chunk.sensorId.toNat ≠ 0 := fun zero => known.1 (UInt8.toNat_inj.mp zero)
              exact ⟨Nat.pos_of_ne_zero positive,Nat.le_of_not_lt known.2⟩
            · rw [counted]
              exact Classical.not_not.mp announced

theorem validateSensorId_known (sensorId : UInt8) :
    (KnownSensor sensorId.toNat → validateSensorId sensorId.toNat = .ok ()) ∧
      (¬ KnownSensor sensorId.toNat → validateSensorId sensorId.toNat = valueError s!"sensor_id must be between 1 and {sensorCount}") := by
  unfold validateSensorId KnownSensor
  refine ⟨fun known => if_neg ?_,fun unknown => if_pos ?_⟩
  · omega
  · omega

-- The one decoder that leaves the ValueError of the shared check as it is.
theorem decodeDisplayResult_meets (response : Response)
    (known : ∀ sensorId visibleState enabled, response.opcode = .setDisplay → response.payload = [sensorId,visibleState,enabled] →
      KnownSensor sensorId.toNat) :
    Meets IsProtocolError (fun result => (Decoded.displayResult result).InRange response.opcode response.payload) (decodeDisplayResult response) := by
  unfold decodeDisplayResult
  split
  · trivial
  · rename_i opcode
    apply Meets.bind (unpackLayout_meets setDisplayResponse_sized "set_display_response" response.payload)
    intro (sensorId,visibleState,enabled) ⟨unpacked,length⟩
    obtain ⟨first,second,third,three⟩ := List.length_eq_three.mp length
    rw [three] at unpacked
    cases unpacked
    have addressed := known sensorId visibleState enabled (Classical.not_not.mp opcode) three
    dsimp only
    rw [(validateSensorId_known sensorId).1 addressed]
    change Meets _ _ (if _ then _ else _)
    split
    · trivial
    · split
      · trivial
      · exact ⟨Classical.not_not.mp opcode,length,addressed⟩

variable {cfg : ProtocolConfig} {packet : List UInt8} {expectedOpcode : Option Opcode} {expectedRequestId : Option UInt16}
  {allowError : Bool}

theorem Parsed.wellFormed (parsed : Parsed cfg packet expectedOpcode expectedRequestId allowError response values)
    (inRange : decoded.InRange response.opcode response.payload) : WellFormed packet decoded := by
  have announced := parsed.announced
  have long := parsed.long
  rw [parsed.payload] at inRange announced
  rw [List.length_drop] at announced
  exact ⟨long,values,response.opcode,parsed.header,by omega,parsed.opcode,inRange⟩

theorem Parsed.misaddressed (parsed : Parsed cfg packet expectedOpcode expectedRequestId allowError response values)
    (opcode : response.opcode = .setDisplay) (payload : response.payload = [sensorId,visibleState,enabled])
    (unknown : ¬ KnownSensor sensorId.toNat) :
    Misaddressed cfg packet expectedOpcode expectedRequestId allowError values response.status sensorId where
  header := parsed.header
  payload := ⟨visibleState,enabled,parsed.payload.symm.trans payload⟩
  announced := by
    have announced := parsed.announced
    rw [payload] at announced
    exact UInt16.toNat_inj.mp announced.symm
  flagged := parsed.flagged
  version := parsed.version
  opcode := parsed.opcode.trans (congrArg some opcode)
  known := parsed.known
  expected asked same := (parsed.expected asked same).trans opcode
  request := parsed.request
  allowed := parsed.allowed
  unknown := unknown

theorem Misaddressed.parsed
    (wrong : Misaddressed cfg packet expectedOpcode expectedRequestId allowError values status sensorId) :
    ∃ visibleState enabled, parseResponse cfg packet expectedOpcode expectedRequestId allowError =
      .ok ⟨values.version,.setDisplay,values.requestId,status,[sensorId,visibleState,enabled]⟩ := by
  obtain ⟨visibleState,enabled,payload⟩ := wrong.payload
  refine ⟨visibleState,enabled,?_⟩
  have long : ¬ packet.length < headerSize := by
    have length := congrArg List.length payload
    rw [List.length_drop] at length
    have three : [sensorId,visibleState,enabled].length = 3 := rfl
    omega
  have announced : ¬ [sensorId,visibleState,enabled].length ≠ values.payloadLength.toNat := by
    rw [wrong.announced]
    exact fun other => other rfl
  have unpacked : unpackLayout "header" headerSize Protocol.header (packet.take headerSize) = .ok values := by
    rw [unpackLayout,wrong.header]
  have opcode : ¬ expectedOpcode.any (Opcode.setDisplay ≠ ·) = true := by
    cases asked : expectedOpcode with
    | none => nofun
    | some opcode => simp [wrong.expected opcode asked]
  have request : ¬ expectedRequestId.any (values.requestId ≠ ·) = true := by
    cases asked : expectedRequestId with
    | none => nofun
    | some requestId => simp [wrong.request requestId asked]
  have status : ¬ (status ≠ .success ∧ (!allowError) = true) := by
    rcases wrong.allowed with success | allowed
    · exact fun both => both.1 success
    · rw [allowed]
      exact fun both => nomatch both.2
  rw [parseResponse,if_neg long,unpacked]
  change (if _ then _ else _) = _
  rw [payload,if_neg announced,if_neg wrong.flagged,wrong.opcode,wrong.known]
  dsimp only [checkResponse]
  rw [if_neg (Classical.not_not.mpr wrong.version),if_neg opcode,if_neg request,if_neg status]

theorem Misaddressed.raises
    (wrong : Misaddressed cfg packet expectedOpcode expectedRequestId allowError values status sensorId) :
    receive cfg .displayResult packet expectedOpcode expectedRequestId allowError =
      valueError s!"sensor_id must be between 1 and {sensorCount}" := by
  obtain ⟨visibleState,enabled,parsed⟩ := wrong.parsed
  have refused := (validateSensorId_known sensorId).2 wrong.unknown
  have unpacked : unpackLayout "set_display_response" setDisplayResponseSize setDisplayResponse [sensorId,visibleState,enabled] =
      .ok (sensorId,visibleState,enabled) := rfl
  have opcode : ¬ Opcode.setDisplay ≠ Opcode.setDisplay := fun other => other rfl
  rw [receive,parsed]
  change Decoded.displayResult <$> decodeDisplayResult _ = _
  rw [decodeDisplayResult,if_neg opcode,unpacked]
  change Decoded.displayResult <$> (validateSensorId sensorId.toNat >>= _) = _
  rw [refused]
  rfl

-- For every packet and every decoder: a value in range or the declared error, except for
-- a display result about an unknown sensor.
theorem decoders_uniform_iff (cfg : ProtocolConfig) (decoder : Decoder) (packet : List UInt8) (expectedOpcode : Option Opcode)
    (expectedRequestId : Option UInt16) (allowError : Bool) :
    Uniform cfg decoder packet expectedOpcode expectedRequestId allowError ↔
      ¬ (decoder = .displayResult ∧ ∃ values status sensorId,
        Misaddressed cfg packet expectedOpcode expectedRequestId allowError values status sensorId) := by
  constructor
  · intro uniform ⟨display,values,status,sensorId,wrong⟩
    subst display
    unfold Uniform at uniform
    rw [wrong.raises] at uniform
    exact uniform
  · intro addressed
    apply Meets.bind (parseResponse_meets cfg packet expectedOpcode expectedRequestId allowError)
    intro response ⟨values,parsed⟩
    cases decoder with
    | current => exact (decodeCurrent_meets response).map _ fun _ inRange => parsed.wellFormed inRange
    | authenticationChallenge =>
      exact (decodeAuthenticationChallenge_meets response).map _ fun _ inRange => parsed.wellFormed inRange
    | historyMeta => exact (decodeHistoryMeta_meets response).map _ fun _ inRange => parsed.wellFormed inRange
    | historyChunk => exact (decodeHistoryChunk_meets response).map _ fun _ inRange => parsed.wellFormed inRange
    | displayResult =>
      apply (decodeDisplayResult_meets response fun sensorId visibleState enabled opcode payload => ?_).map _
      · exact fun _ inRange => parsed.wellFormed inRange
      · by_contra unknown
        exact addressed ⟨rfl,values,response.status,sensorId,parsed.misaddressed opcode payload unknown⟩

-- SET_DISPLAY, request 5: sensor 0 is on.
def strayDisplay : List UInt8 := [2,2,5,0,3,0,0,1,0,1,1]

def sharedProtocol : ProtocolConfig := ⟨2,1,32,72,"THERMOMETER-AUTH-V2"⟩

theorem stray_display_raises :
    receive sharedProtocol .displayResult strayDisplay (some .setDisplay) (some 5) false =
        .error (.other "sensor_id must be between 1 and 2") ∧
      ¬ Uniform sharedProtocol .displayResult strayDisplay (some .setDisplay) (some 5) false := by
  have wrong : Misaddressed sharedProtocol strayDisplay (some .setDisplay) (some 5) false ⟨2,2,5,3,0,1⟩ .success 0 := by
    refine ⟨rfl,⟨1,1,rfl⟩,rfl,by decide,rfl,rfl,rfl,fun opcode same => ?_,fun requestId same => ?_,.inl rfl,by decide⟩
    · exact (Option.some.inj same).symm
    · exact (Option.some.inj same).symm
  have raised : receive sharedProtocol .displayResult strayDisplay (some .setDisplay) (some 5) false =
      .error (.other "sensor_id must be between 1 and 2") := wrong.raises
  refine ⟨raised,fun uniform => ?_⟩
  unfold Uniform at uniform
  rw [raised] at uniform
  exact uniform

end Thermometer.Client.Protocol
