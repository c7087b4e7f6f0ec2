import Thermometer.Client.HistoryMerge
import Thermometer.Firmware.Hysteresis
import Thermometer.Link.HistoryTransfer

-- From a sensor of the device to the samples that the service stores.
namespace Thermometer.Link
open Wire Firmware
open Client (Surroundings Recorder SampleRecord buildHistoryBatch pythonFloat)
open Client.Protocol (ThermometerClient)

variable {cfg : FirmwareConfig} {script : Nat → Encounter} {mtuSize : Nat} {ρ : Type} {bootId : UInt32} {events : List Event}

def loggedReading (sensorId : Client.SensorId) (taken : HistoryRecord) : Client.SensorReading :=
  ⟨sensorId.number,(recordValue taken).temperatureC.map pythonFloat,Client.DataStatus.name taken.dataStatus⟩

structure FromLog (cfg : DeviceConfig) (bootId : UInt32) (events : List Event) (sample : SampleRecord) : Prop where
  boot : sample.bootId = some bootId
  readings : ∀ reading ∈ sample.sensorReadings, reading.status ≠ .notRetrieved →
    ∃ sensorId, ∃ taken ∈ bootLog cfg bootId sensorId events,
      sample.sampleSequence = some taken.sequence ∧ reading = loggedReading sensorId taken

-- The sample was taken by one of the ticks. A valid one shows the last successful reading before that.
structure Sampled (cfg : DeviceConfig) (bootId : UInt32) (i : Fin sensorCount) (events : List Event) (taken : HistoryRecord)
    (earlier : List Event) : Prop where
  ticked : earlier ++ [.tick] <+: events
  logged : bootLog cfg bootId i (earlier ++ [.tick]) = bootLog cfg bootId i earlier ++ [taken]
  measured : taken.dataStatus = .valid → ∃ measured, lastSuccessful i earlier = some measured ∧
    taken.temperatureCentiC = measured.temperatureCentiC

theorem bootLog_sampled (cfg : DeviceConfig) (i : Fin sensorCount) (events : List Event) :
    ∀ taken ∈ bootLog cfg bootId i events, ∃ earlier, Sampled cfg bootId i events taken earlier := by
  induction events using List.reverseRecOn with
  | nil =>
    intro taken member
    cases member
  | append_singleton events event ih =>
    intro taken member
    rw [bootLog,sampleLog_snoc] at member
    rcases List.mem_append.mp member with old | new
    · obtain ⟨earlier,ticked,logged,measured⟩ := ih taken old
      exact ⟨earlier,ticked.trans (List.prefix_append _ _),logged,measured⟩
    · cases event with
      | tick =>
        cases List.mem_singleton.mp new
        refine ⟨events,List.prefix_refl _,?_,(counted_after cfg bootId i events).temperature⟩
        rw [bootLog,sampleLog_snoc]
        rfl
      | _ => cases new

theorem bootLog_numbered {cfg : DeviceConfig} {i : Fin sensorCount} (short : (bootLog cfg bootId i events).length < 2 ^ 32)
    {taken : HistoryRecord} (member : taken ∈ bootLog cfg bootId i events) :
    (bootLog cfg bootId i events).find? (·.sequence = taken.sequence) = some taken := by
  cases found : (bootLog cfg bootId i events).find? (·.sequence = taken.sequence) with
  | none =>
    have other := List.find?_eq_none.mp found taken member
    simp at other
  | some other =>
    have same : other.sequence = taken.sequence := by simpa using List.find?_some found
    obtain ⟨n,first⟩ := List.mem_iff_getElem?.mp (List.mem_of_find?_eq_some found)
    obtain ⟨m,second⟩ := List.mem_iff_getElem?.mp member
    have first_fits := (List.getElem?_eq_some_iff.mp first).1
    have second_fits := (List.getElem?_eq_some_iff.mp second).1
    have numbers : (n + 1) % 2 ^ 32 = (m + 1) % 2 ^ 32 := by
      rw [← bootLog_number first,← bootLog_number second,same]
    rw [Nat.mod_eq_of_lt (by omega),Nat.mod_eq_of_lt (by omega)] at numbers
    obtain rfl : n = m := by omega
    exact first.symm.trans second

-- What the device has recorded, when its boots have gone this far.
def deviceRecords (cfg : DeviceConfig) (boots : UInt32 → List Event) : Client.DeviceRecords := fun bootId sequence sensorId =>
  ((bootLog cfg bootId sensorId (boots bootId)).find? (·.sequence = sequence)).bind fun taken =>
    if taken.dataStatus = .valid then some taken.temperatureCentiC else none

theorem synchronize_answered {σ ι : Type} {recorder : Recorder σ ι} {env : Surroundings σ} (serves : recorder.Serves env)
    {now : ι} {asked : Option ι} {s last : σ} {operation : Client.SyncOperation} {result : Client.Synchronized}
    (here : recorder.At s now asked) (synchronized : Client.synchronize env operation s = (.ok result,last)) :
    ∃ limit sent point after, recorder.At sent point asked ∧
      env.getHistoryMeta limit sent = (.ok result.retrieval.history.historyMeta,after) := by
  obtain ⟨begun,-,there⟩ := serves.monotonic s now asked here
  unfold Client.synchronize at synchronized
  dsimp only at synchronized
  split at synchronized
  · cases synchronized
  · rename_i historyMeta _ called
    obtain ⟨limit,sent,point,-,asking,answered⟩ := Recorder.call_answered serves there called
    split at synchronized
    · cases synchronized
    · split at synchronized
      · cases synchronized
      · cases synchronized
        exact ⟨limit,sent,point,_,asking,answered⟩

theorem getHistoryMeta_boot (values : SharedValues cfg) (calm : ∀ n, Calm (script n).events) {service : Service ρ} {limit : Rat}
    {s last : ThermometerClient (DeviceSession cfg) × ρ} {answer : Client.HistoryMeta}
    (reached : s.1.connection.thermometer = run (start cfg.device bootId) events)
    (answered : (surroundings cfg (deviceTransport cfg script mtuSize) service).getHistoryMeta limit s = (.ok answer,last)) :
    answer.bootId = bootId := by
  rw [surroundings_getHistoryMeta] at answered
  obtain ⟨others,told,-⟩ := submitted_ok answered
  obtain ⟨more,-,there⟩ := (others_move values calm mtuSize others s.1).reached reached
  obtain ⟨own,-,-,rfl⟩ := (getHistoryMeta_asked values calm mtuSize _).1 answer told
  rw [there,← run_append]
  change (run _ _).bootId = bootId
  rw [run_bootId]
  rfl

def Logged (cfg : DeviceConfig) (bootId : UInt32) (events : List Event) (record : Client.TimedHistoryRecord) : Prop :=
  ∃ taken ∈ bootLog cfg bootId record.sensorId events, record.value = recordValue taken

theorem recordValue_fields {record : Client.TimedHistoryRecord} {taken : HistoryRecord} (value : record.value = recordValue taken) :
    record.sequence = taken.sequence ∧ record.temperatureC = (recordValue taken).temperatureC ∧
      record.dataStatus = taken.dataStatus :=
  ⟨congrArg Client.HistoryRecordValue.sequence value,congrArg Client.HistoryRecordValue.temperatureC value,
    congrArg Client.HistoryRecordValue.dataStatus value⟩

theorem buildHistoryBatch_logged {cfg : DeviceConfig} (history : Client.HistorySync) (utcNow : Rat)
    (logged : ∀ record ∈ history.records, Logged cfg bootId events record) (boot : history.historyMeta.bootId = bootId) :
    ∀ sample ∈ (buildHistoryBatch history utcNow).samples, FromLog cfg bootId events sample := by
  intro sample member
  obtain ⟨entry,among,rfl⟩ := List.mem_map.mp ((List.mergeSort_perm _ _).mem_iff.mp member)
  have held : Client.Belongs (Logged cfg bootId events) entry := Client.assignRecords_belongs logged (by simp) entry among
  refine ⟨congrArg some boot,?_⟩
  intro reading present retrieved
  obtain ⟨sensorId,-,rfl⟩ := List.mem_map.mp present
  unfold Client.historyReading at retrieved ⊢
  cases found : entry.2 sensorId with
  | none =>
    rw [found] at retrieved
    exact absurd rfl retrieved
  | some record =>
    obtain ⟨sequence,sensor,taken,member,value⟩ := held sensorId record found
    obtain ⟨number,temperature,status⟩ := recordValue_fields value
    subst sensor
    refine ⟨record.sensorId,taken,member,congrArg some (sequence.symm.trans number),?_⟩
    rw [loggedReading,← temperature,← status]

theorem Logged.recorded {cfg : DeviceConfig} {boots : UInt32 → List Event} {record : Client.TimedHistoryRecord}
    (logged : Logged cfg bootId events record) (further : events <+: boots bootId)
    (short : (bootLog cfg bootId record.sensorId (boots bootId)).length < 2 ^ 32) :
    Client.Recorded (deviceRecords cfg boots) bootId record := by
  obtain ⟨taken,member,value⟩ := logged
  have present := (bootLog_begins cfg bootId record.sensorId further).subset member
  obtain ⟨number,temperature,status⟩ := recordValue_fields value
  have known : deviceRecords cfg boots bootId record.sequence record.sensorId =
      if taken.dataStatus = .valid then some taken.temperatureCentiC else none := by
    rw [deviceRecords,number,bootLog_numbered short present]
    rfl
  unfold Client.Recorded
  rw [known,temperature,status]
  unfold recordValue
  cases taken.dataStatus with
  | valid => exact ⟨rfl,rfl⟩
  | disconnected => exact ⟨rfl,rfl⟩

-- Whatever the exchanges meet: what the batch of a synchronization says of a sensor is a sample of it from this boot, with
-- the number of the row, and a valid one shows the last successful reading before it. As long as the numbers do not wrap,
-- the batches of all synchronizations are drawn from the same records.
theorem batch_from_device (values : SharedValues cfg) (calm : ∀ n, Calm (script n).events) (mtuSize : Nat)
    (service : Service ρ) (bootId : UInt32) (before : List Event) (client : ThermometerClient (DeviceSession cfg)) (rest : ρ)
    (reached : client.connection.thermometer = run (start cfg.device bootId) before) (operation : Client.SyncOperation)
    (result : Client.Synchronized) (last : ThermometerClient (DeviceSession cfg) × ρ)
    (synchronized : Client.synchronize (surroundings cfg (deviceTransport cfg script mtuSize) service) operation (client,rest) =
      (.ok result,last)) (utcNow : Rat) :
    ∃ ended, before <+: ended ∧ last.1.connection.thermometer = run (start cfg.device bootId) ended ∧
      (∀ sample ∈ (buildHistoryBatch result.retrieval.history utcNow).samples, FromLog cfg.device bootId ended sample) ∧
      (∀ sensorId, ∀ taken ∈ bootLog cfg.device bootId sensorId ended,
        ∃ earlier, Sampled cfg.device bootId sensorId ended taken earlier) ∧
      ∀ boots : UInt32 → List Event, ended <+: boots bootId →
        (∀ sensorId, (bootLog cfg.device bootId sensorId (boots bootId)).length < 2 ^ 32) →
          ∀ sample ∈ (buildHistoryBatch result.retrieval.history utcNow).samples,
            Client.Drawn (deviceRecords cfg.device boots) sample := by
  have serves : (deviceRecorder cfg bootId False ρ).Serves (surroundings cfg (deviceTransport cfg script mtuSize) service) :=
    device_serves values calm False.elim mtuSize service
  have here : (deviceRecorder cfg bootId False ρ).At (client,rest) before (lastAsked [] before none) :=
    ⟨reached,rfl,False.elim⟩
  obtain ⟨asked,ended,first,requested,⟨_,there,_⟩,_,held,_⟩ := Recorder.synchronize_source serves here synchronized
  have second : asked <+: ended := (List.prefix_append _ _).trans (requested_earlier requested)
  obtain ⟨limit,sent,point,after,⟨at_point,_,_⟩,answered⟩ := synchronize_answered serves here synchronized
  have boot := getHistoryMeta_boot values calm at_point answered
  have logged : ∀ record ∈ result.retrieval.history.records, Logged cfg.device bootId ended record := by
    intro record member
    obtain ⟨taken,present,same⟩ := List.mem_map.mp (held record member)
    exact ⟨taken,present,same.symm⟩
  refine ⟨ended,first.trans second,there,buildHistoryBatch_logged _ utcNow logged boot,?_,?_⟩
  · intro sensorId
    exact bootLog_sampled cfg.device sensorId ended
  · intro boots further short
    apply Client.buildHistoryBatch_drawn
    intro record member
    rw [boot]
    exact (logged record member).recorded further (short record.sensorId)

theorem batch_from_device_lossy :
    ∃ result last ended, Client.synchronize (surroundings frostConfig (deviceTransport frostConfig lossyScript 23) lossyService)
        ⟨0,0⟩ (lossyClient,()) = (.ok result,last) ∧ (buildHistoryBatch result.retrieval.history 1000).samples.length = 2 ∧
      ∀ sample ∈ (buildHistoryBatch result.retrieval.history 1000).samples, FromLog frostConfig.device 7 ended sample := by
  have ran : ((Client.synchronize (surroundings frostConfig (deviceTransport frostConfig lossyScript 23) lossyService) ⟨0,0⟩
      (lossyClient,())).1.toOption.map fun result => (Client.bySequence result.retrieval.history.records).length) = some 2 := by
    decide +kernel
  cases synchronized : Client.synchronize (surroundings frostConfig (deviceTransport frostConfig lossyScript 23) lossyService)
      ⟨0,0⟩ (lossyClient,()) with
  | mk outcome last =>
    rw [synchronized] at ran
    cases outcome with
    | error => cases ran
    | ok result =>
      have rows : (Client.bySequence result.retrieval.history.records).length = 2 := by simpa [Except.toOption] using ran
      obtain ⟨ended,_,_,drawn,_⟩ := batch_from_device (shippedConfig_values [] fun _ _ => none)
        (fun n => by simp [Calm,lossyScript]) 23 lossyService 7 frost lossyClient () rfl ⟨0,0⟩ result last synchronized 1000
      refine ⟨result,last,ended,rfl,?_,drawn⟩
      unfold buildHistoryBatch
      rw [List.length_mergeSort,List.length_map]
      exact rows

-- `_publish_current_snapshot`
def publishedSample (observedAt : Rat) (snapshot : Client.Protocol.CurrentSnapshot) : SampleRecord :=
  let readings := snapshot.sensors.map fun sensor : Client.Protocol.SensorSnapshot =>
    (⟨sensor.sensorId,sensor.temperatureC.map pythonFloat,
      if sensor.temperatureC.isSome then .valid else .disconnected⟩ : Client.SensorReading)
  { observedAtUtc := observedAt
    bootId := some snapshot.bootId
    sampleSequence := some snapshot.newestSequence
    sensorReadings := readings
    averageTemperatureC := Client.averageOf readings
    source := .live
    failureReason := none }

-- What the device shows of a sensor between two samples, under the number of the last one.
def standing {cfg : DeviceConfig} (s : State cfg) (sensorId : Client.SensorId) : HistoryRecord :=
  ⟨s.latestSequence,(s.sensors sensorId).latest.temperatureCentiC,(s.sensors sensorId).latest.dataStatus⟩

theorem publishedSample_current (observedAt : Rat) (snapshot : CurrentSnapshot) :
    publishedSample observedAt (currentValue snapshot) = Client.currentSample observedAt (anchorOf (currentValue snapshot))
      fun sensorId => (sensorValue sensorId.number (snapshot.sensors sensorId)).temperatureC := rfl

theorem publishedSample_readings {cfg : DeviceConfig} (observedAt : Rat) (s : State cfg) :
    (publishedSample observedAt (currentValue (currentSnapshot s))).sensorReadings =
      (List.finRange sensorCount).map fun sensorId => loggedReading sensorId (standing s sensorId) := by
  rw [publishedSample_current]
  apply List.map_congr_left
  intro sensorId _
  unfold loggedReading standing recordValue sensorValue currentSnapshot
  dsimp only
  rcases status_cases (s.sensors sensorId) with same | same
  · simp [same,Client.DataStatus.name]
  · simp [same,Client.DataStatus.name]

theorem answered_current {device : Device cfg} {session : ProtocolSession} (platform : Platform) (requestId : UInt16) :
    let answered := answerDispatch cfg.maxPacketSize device session (Opcode.value .getCurrent) platform []
    answered.status = .success →
      Client.Protocol.decodeCurrent ⟨cfg.auth.protocolVersion,.getCurrent,requestId,.success,answered.payload⟩ =
        .ok (currentValue (currentSnapshot device.thermometer)) := by
  simp only [answerDispatch,opcode_ofByte]
  intro success
  split at success
  · rename_i authenticated
    simp only [if_pos authenticated,answerAuthenticated,opcode_ofByte,List.length_nil,ne_eq,not_true_eq_false,if_false,
      answerGetCurrent] at success ⊢
    split at success
    · cases success
    · rename_i room
      rw [if_neg room]
      exact decodeCurrent_bytes _ _ _ _
  · cases success

theorem getCurrent_shown (values : SharedValues cfg) (calm : ∀ n, Calm (script n).events)
    {client : ThermometerClient (DeviceSession cfg)} {answer : Client.Protocol.CurrentSnapshot} :
    let got := client.getCurrent (clientConfig cfg) (deviceTransport cfg script mtuSize)
    got.1 = .ok answer → ∃ events more, answer = currentValue (currentSnapshot (run client.connection.thermometer events)) ∧
      got.2.connection.thermometer = run client.connection.thermometer (events ++ more) := by
  intro got answered
  have ends : Exchanged client.connection .getCurrent (client.requestId + 1) [] _ _ :=
    exchange_ends values calm (by decide) (by decide) (client.requestId + 1) [] (by simp) client.connection
  simp only [got] at answered ⊢
  unfold ThermometerClient.getCurrent at answered ⊢
  rw [request_exchange client (by simp)] at answered ⊢
  dsimp only at answered ⊢
  generalize client.connection.exchange script _ = exchanged at ends answered
  generalize parsed cfg .getCurrent (client.requestId + 1) exchanged.1 = result at ends answered
  cases ends with
  | lost failure events later => cases answered
  | served events platform later quiet changed =>
    have affected : Affects .getCurrent (client.connection.pass events).server.device client.connection.server.session
        (answerDispatch cfg.maxPacketSize (client.connection.pass events).server.device client.connection.server.session
          (Opcode.value .getCurrent) platform []) := answerDispatch_affects (by decide) (by decide) []
    obtain ⟨_,own,_,ran⟩ := affected
    unfold accept at answered
    split at answered
    · rename_i success
      have decoded := answered_current platform (client.requestId + 1) success
      simp only [Except.bind] at answered
      rw [decoded] at answered
      cases answered
      refine ⟨events,own,rfl,?_⟩
      rw [run_append]
      exact (congrArg Device.thermometer changed).trans ran
    · cases answered

-- Whatever the exchange meets: what the service publishes of an answer is what the device showed at some moment of it,
-- both sensors under the number of its last sample, and a valid temperature is that of the last successful
-- reading of the sensor.
theorem live_from_device (values : SharedValues cfg) (calm : ∀ n, Calm (script n).events) (mtuSize : Nat) (bootId : UInt32)
    (before : List Event) (client : ThermometerClient (DeviceSession cfg))
    (reached : client.connection.thermometer = run (start cfg.device bootId) before) (answer : Client.Protocol.CurrentSnapshot)
    (answered : (client.getCurrent (clientConfig cfg) (deviceTransport cfg script mtuSize)).1 = .ok answer) (observedAt : Rat) :
    ∃ seen ended, before <+: seen ∧ seen <+: ended ∧
      (client.getCurrent (clientConfig cfg) (deviceTransport cfg script mtuSize)).2.connection.thermometer =
        run (start cfg.device bootId) ended ∧
      let s := run (start cfg.device bootId) seen
      let sample := publishedSample observedAt answer
      sample.bootId = some bootId ∧ sample.sampleSequence = some s.latestSequence ∧
      sample.sensorReadings = (List.finRange sensorCount).map (fun sensorId => loggedReading sensorId (standing s sensorId)) ∧
      ∀ sensorId, s.latestSequence.toNat = (bootLog cfg.device bootId sensorId seen).length % 2 ^ 32 ∧
        ((standing s sensorId).dataStatus = .valid → ∃ measured, lastSuccessful sensorId seen = some measured ∧
          (standing s sensorId).temperatureCentiC = measured.temperatureCentiC) := by
  obtain ⟨events,more,rfl,later⟩ := getCurrent_shown values calm answered
  rw [reached,← run_append] at later ⊢
  refine ⟨before ++ events,before ++ events ++ more,List.prefix_append _ _,List.prefix_append _ _,?_,?_,rfl,
    publishedSample_readings observedAt _,?_⟩
  · rw [later,List.append_assoc]
  · exact congrArg some (run_bootId _ _)
  · intro sensorId
    exact ⟨(run_numbers cfg.device bootId sensorId _).2,(counted_after cfg.device bootId sensorId _).temperature⟩

theorem live_from_device_frost :
    ∃ answer seen, (lossyClient.getCurrent (clientConfig frostConfig) (deviceTransport frostConfig lossyScript 23)).1 =
        .ok answer ∧ answer.sensors.map (·.temperatureC) = [some (Client.Protocol.centigrade (-1234)),none] ∧
      (publishedSample 1000 answer).sensorReadings = (List.finRange sensorCount).map fun sensorId =>
        loggedReading sensorId (standing (run (start frostConfig.device 7) seen) sensorId) := by
  have ran : ((lossyClient.getCurrent (clientConfig frostConfig) (deviceTransport frostConfig lossyScript 23)).1.toOption.map
      fun answer => answer.sensors.map (·.temperatureC)) = some [some (Client.Protocol.centigrade (-1234)),none] := by
    decide +kernel
  cases answered : (lossyClient.getCurrent (clientConfig frostConfig) (deviceTransport frostConfig lossyScript 23)).1 with
  | error failure =>
    rw [answered] at ran
    cases ran
  | ok answer =>
    rw [answered] at ran
    obtain ⟨seen,_,_,_,_,_,_,readings,_⟩ := live_from_device (shippedConfig_values [] fun _ _ => none)
      (fun n => by simp [Calm,lossyScript]) 23 7 frost lossyClient rfl answer answered 1000
    exact ⟨answer,seen,rfl,Option.some.inj ran,readings⟩

end Thermometer.Link
