import Mathlib.Data.List.Induction
import Thermometer.Firmware.State

-- What a sensor shows over a whole run, told from the readings and commands alone.
namespace Thermometer.Firmware
open Wire

variable {cfg : DeviceConfig} {index : Fin sensorCount}

def Event.readingOf (index : Fin sensorCount) : Event → Option SensorReading
  | .reading sensor given => if sensor = index then some given else none
  | _ => none

def consecutive (index : Fin sensorCount) (valid : Bool) (events : List Event) : Nat :=
  ((events.filterMap (Event.readingOf index)).reverse.takeWhile (·.valid == valid)).length

def lastSuccessful (index : Fin sensorCount) (events : List Event) : Option SensorReading :=
  (events.filterMap (Event.readingOf index)).reverse.find? (·.valid)

def Event.commands (index : Fin sensorCount) : Event → Bool
  | .setDisplay sensorId _ | .toggleDisplay sensorId => sensorIndex sensorId = some index
  | _ => false

def Event.shows (enabled : Bool) : Event → Bool
  | .setDisplay _ wanted => wanted
  | .toggleDisplay _ => !enabled
  | _ => enabled

def readings (index : Fin sensorCount) (events : List Event) : List SensorReading :=
  (events.filterMap (Event.readingOf index)).reverse

theorem readings_reading (events : List Event) (taken : event.readingOf index = some reading) :
    readings index (events ++ [event]) = reading :: readings index events := by
  simp [readings,taken]

theorem readings_other (events : List Event) (other : event.readingOf index = none) :
    readings index (events ++ [event]) = readings index events := by
  simp [readings,other]

theorem consecutive_reading (valid : Bool) (events : List Event) (taken : event.readingOf index = some reading) :
    consecutive index valid (events ++ [event]) = if reading.valid = valid then consecutive index valid events + 1 else 0 := by
  have last := readings_reading events taken
  change ((readings index (events ++ [event])).takeWhile _).length = _
  rw [last,List.takeWhile_cons]
  by_cases same : reading.valid = valid
  · simp [same,consecutive,readings]
  · simp [same]

theorem consecutive_other (valid : Bool) (events : List Event) (other : event.readingOf index = none) :
    consecutive index valid (events ++ [event]) = consecutive index valid events := by
  have last := readings_other events other
  change ((readings index (events ++ [event])).takeWhile _).length = _
  rw [last]
  rfl

theorem lastSuccessful_reading (events : List Event) (taken : event.readingOf index = some reading) :
    lastSuccessful index (events ++ [event]) = if reading.valid then some reading else lastSuccessful index events := by
  have last := readings_reading events taken
  change (readings index (events ++ [event])).find? _ = _
  rw [last,List.find?_cons]
  cases reading.valid <;> rfl

theorem lastSuccessful_other (events : List Event) (other : event.readingOf index = none) :
    lastSuccessful index (events ++ [event]) = lastSuccessful index events := by
  have last := readings_other events other
  change (readings index (events ++ [event])).find? _ = _
  rw [last]
  rfl

theorem step_reading (s : State cfg) (taken : event.readingOf index = some reading) :
    (step s event).sensors index = applySensorReading (s.sensors index) reading := by
  cases event with
  | reading sensor given =>
    simp only [Event.readingOf] at taken
    split at taken
    · rename_i same
      cases taken
      subst same
      simp [step,sensorEvent]
    · cases taken
  | _ => cases taken

theorem setEnabled_sensor (s : State cfg) (other : Fin sensorCount) (enabled : Bool) :
    (setEnabled s other enabled).sensors index =
      if other = index then
        { s.sensors index with latest := { (s.sensors index).latest with displayEnabled := enabled } }
      else s.sensors index := by
  by_cases same : other = index
  · subst same
    simp [setEnabled]
  · simp [setEnabled,same,Ne.symm same]

structure SameReadings (sensor other : SensorRuntime cfg.capacity) : Prop where
  status : other.latest.dataStatus = sensor.latest.dataStatus
  temperature : other.latest.temperatureCentiC = sensor.latest.temperatureCentiC
  failed : other.failedReads = sensor.failedReads
  successful : other.successfulReads = sensor.successfulReads

theorem setEnabled_same (s : State cfg) (other : Fin sensorCount) (enabled : Bool) :
    SameReadings (s.sensors index) ((setEnabled s other enabled).sensors index) := by
  rw [setEnabled_sensor]
  split <;> exact ⟨rfl,rfl,rfl,rfl⟩

theorem step_other (s : State cfg) (other : event.readingOf index = none) :
    SameReadings (s.sensors index) ((step s event).sensors index) := by
  cases event with
  | reading sensor given =>
    have apart : index ≠ sensor := by
      rintro rfl
      simp [Event.readingOf] at other
    have same : (step s (.reading sensor given)).sensors index = s.sensors index := by simp [step,sensorEvent,apart]
    rw [same]
    exact ⟨rfl,rfl,rfl,rfl⟩
  | setDisplay sensorId enabled =>
    simp only [step,setDisplay]
    split
    · exact ⟨rfl,rfl,rfl,rfl⟩
    · split
      · exact setEnabled_same s _ enabled
      · exact ⟨rfl,rfl,rfl,rfl⟩
  | toggleDisplay sensorId =>
    simp only [step,toggleDisplay]
    split
    · exact ⟨rfl,rfl,rfl,rfl⟩
    · split
      · exact setEnabled_same s _ _
      · exact ⟨rfl,rfl,rfl,rfl⟩
  | tick | getCurrent | getHistoryMeta | copyHistory => exact ⟨rfl,rfl,rfl,rfl⟩

theorem reading_display (sensor : SensorRuntime cfg.capacity) (reading : SensorReading) :
    (applySensorReading sensor reading).latest.displayEnabled = sensor.latest.displayEnabled := by
  unfold applySensorReading
  dsimp only
  split <;> split <;> rfl

theorem step_display (index : Fin sensorCount) (s : State cfg) (event : Event) :
    ((step s event).sensors index).latest.displayEnabled =
      if event.commands index ∧ (s.sensors index).latest.dataStatus = .valid then
        event.shows (s.sensors index).latest.displayEnabled
      else (s.sensors index).latest.displayEnabled := by
  cases event with
  | reading sensor given =>
    by_cases same : index = sensor
    · subst same
      simp [step,sensorEvent,Event.commands,reading_display]
    · simp [step,sensorEvent,Event.commands,same]
  | setDisplay sensorId enabled =>
    simp only [step,setDisplay,Event.commands,Event.shows,decide_eq_true_eq]
    split
    · rename_i unknown
      rw [unknown]
      simp
    · rename_i other known
      rw [known]
      by_cases same : other = index
      · subst same
        by_cases available : (s.sensors other).latest.dataStatus = .valid
        · simp [sensorIsAvailable,available,setEnabled_sensor]
        · simp [sensorIsAvailable,available]
      · have apart : ¬ (some other = some index) := fun eq => same (Option.some.inj eq)
        split <;> simp [same,setEnabled_sensor]
  | toggleDisplay sensorId =>
    simp only [step,toggleDisplay,Event.commands,Event.shows,decide_eq_true_eq]
    split
    · rename_i unknown
      rw [unknown]
      simp
    · rename_i other known
      rw [known]
      by_cases same : other = index
      · subst same
        by_cases available : (s.sensors other).latest.dataStatus = .valid
        · simp [sensorIsAvailable,available,setEnabled_sensor]
        · simp [sensorIsAvailable,available]
      · split <;> simp [same,setEnabled_sensor]
  | tick | getCurrent | getHistoryMeta | copyHistory =>
    simp [step,sampleTick,appendHistoryRecord,getHistoryMeta,Event.commands]

theorem saturatingIncrement_toNat (counter : UInt16) : (saturatingIncrement counter).toNat = min 65535 (counter.toNat + 1) := by
  have bound := counter.toNat_lt
  have one : (1 : UInt16).toNat = 1 := rfl
  unfold saturatingIncrement
  split
  · rename_i room
    have below : counter.toNat < 65535 := UInt16.lt_iff_toNat_lt.mp room
    rw [UInt16.toNat_add,one]
    omega
  · rename_i full
    have top : ¬ counter.toNat < 65535 := fun lt => full (UInt16.lt_iff_toNat_lt.mpr lt)
    omega

theorem status_cases (sensor : SensorRuntime cfg.capacity) :
    sensor.latest.dataStatus = .valid ∨ sensor.latest.dataStatus = .disconnected := by
  cases sensor.latest.dataStatus with
  | valid => exact .inl rfl
  | disconnected => exact .inr rfl

theorem apply_successful (sensor : SensorRuntime cfg.capacity) {reading : SensorReading} (good : reading.valid = true) :
    let counted := min 65535 (sensor.successfulReads.toNat + 1)
    let next := applySensorReading sensor reading
    next.successfulReads.toNat = counted ∧ next.failedReads.toNat = 0 ∧
      (next.latest.dataStatus = .valid ↔ sensor.latest.dataStatus = .valid ∨ cfg.successfulReadLimit ≤ counted) ∧
      (next.latest.dataStatus = .valid → next.latest.temperatureCentiC = reading.temperatureCentiC) := by
  intro counted next
  have increment := saturatingIncrement_toNat sensor.successfulReads
  have unfolded : next = applySensorReading sensor reading := rfl
  unfold applySensorReading at unfolded
  rw [if_pos good] at unfolded
  dsimp only at unfolded
  rw [increment] at unfolded
  split at unfolded
  · rename_i reached
    rw [unfolded]
    exact ⟨increment,rfl,⟨fun _ => reached,fun _ => rfl⟩,fun _ => rfl⟩
  · rename_i early
    rw [unfolded]
    refine ⟨increment,rfl,⟨fun valid => .inl valid,fun reached => absurd reached early⟩,fun valid => absurd (.inl valid) early⟩

theorem apply_failed (sensor : SensorRuntime cfg.capacity) {reading : SensorReading} (bad : reading.valid = false) :
    let counted := min 65535 (sensor.failedReads.toNat + 1)
    let next := applySensorReading sensor reading
    next.failedReads.toNat = counted ∧ next.successfulReads.toNat = 0 ∧
      (next.latest.dataStatus = .valid ↔ sensor.latest.dataStatus = .valid ∧ ¬ cfg.failedReadLimit ≤ counted) ∧
      next.latest.temperatureCentiC = sensor.latest.temperatureCentiC := by
  intro counted next
  have increment := saturatingIncrement_toNat sensor.failedReads
  have unfolded : next = applySensorReading sensor reading := rfl
  unfold applySensorReading at unfolded
  rw [if_neg (by rw [bad]; exact Bool.false_ne_true)] at unfolded
  dsimp only at unfolded
  rw [increment] at unfolded
  split at unfolded
  · rename_i reached
    rw [unfolded]
    exact ⟨increment,rfl,⟨nofun,fun valid => absurd reached valid.2⟩,rfl⟩
  · rename_i early
    rw [unfolded]
    exact ⟨increment,rfl,⟨fun valid => ⟨valid,early⟩,fun valid => valid.1⟩,rfl⟩

def sensorAfter (cfg : DeviceConfig) (bootId : UInt32) (index : Fin sensorCount) (events : List Event) : SensorRuntime cfg.capacity :=
  (run (start cfg bootId) events).sensors index

theorem run_snoc (s : State cfg) (events : List Event) (event : Event) : run s (events ++ [event]) = step (run s events) event := by
  rw [run,List.foldl_append]
  rfl

structure Counted (sensor : SensorRuntime cfg.capacity) (index : Fin sensorCount) (events : List Event) : Prop where
  successful : sensor.successfulReads.toNat = min 65535 (consecutive index true events)
  failed : sensor.failedReads.toNat = min 65535 (consecutive index false events)
  temperature : sensor.latest.dataStatus = .valid →
    ∃ reading, lastSuccessful index events = some reading ∧ sensor.latest.temperatureCentiC = reading.temperatureCentiC
  below : sensor.latest.dataStatus = .disconnected → min 65535 (consecutive index true events) < cfg.successfulReadLimit
  above : sensor.latest.dataStatus = .valid → min 65535 (consecutive index false events) < cfg.failedReadLimit

theorem Counted.successfulReading {sensor : SensorRuntime cfg.capacity} (counted : Counted sensor index events)
    (taken : event.readingOf index = some reading) (good : reading.valid = true) :
    Counted (applySensorReading sensor reading) index (events ++ [event]) := by
  obtain ⟨successful,failed,status,temperature⟩ := apply_successful sensor good
  have goods := consecutive_reading true events taken
  have bads := consecutive_reading false events taken
  have last := lastSuccessful_reading events taken
  rw [if_pos good] at goods last
  rw [if_neg (by rw [good]; nofun)] at bads
  have before := counted.successful
  refine ⟨?_,?_,fun valid => ⟨reading,last,temperature valid⟩,fun disconnected => ?_,fun _ => ?_⟩
  · rw [successful,goods]
    omega
  · rw [failed,bads]
    rfl
  · have early : ¬ cfg.successfulReadLimit ≤ min 65535 (sensor.successfulReads.toNat + 1) := by
      intro reached
      rw [status.mpr (.inr reached)] at disconnected
      cases disconnected
    rw [goods]
    omega
  · rw [bads]
    exact Nat.lt_of_le_of_lt (Nat.min_le_right _ _) cfg.failedPositive

theorem Counted.failedReading {sensor : SensorRuntime cfg.capacity} (counted : Counted sensor index events)
    (taken : event.readingOf index = some reading) (bad : reading.valid = false) :
    Counted (applySensorReading sensor reading) index (events ++ [event]) := by
  obtain ⟨failed,successful,status,temperature⟩ := apply_failed sensor bad
  have goods := consecutive_reading true events taken
  have bads := consecutive_reading false events taken
  have last := lastSuccessful_reading events taken
  rw [if_neg (by rw [bad]; nofun)] at goods last
  rw [if_pos bad] at bads
  have before := counted.failed
  refine ⟨?_,?_,fun valid => ?_,fun _ => ?_,fun valid => ?_⟩
  · rw [successful,goods]
    rfl
  · rw [failed,bads]
    omega
  · obtain ⟨reading,known,same⟩ := counted.temperature (status.mp valid).1
    exact ⟨reading,last.trans known,temperature.trans same⟩
  · rw [goods]
    exact Nat.lt_of_le_of_lt (Nat.min_le_right _ _) cfg.successfulPositive
  · have early := (status.mp valid).2
    rw [bads]
    omega

theorem Counted.same {sensor other : SensorRuntime cfg.capacity} (counted : Counted sensor index events)
    (same : SameReadings sensor other) (quiet : event.readingOf index = none) : Counted other index (events ++ [event]) := by
  have goods := consecutive_other true events quiet
  have bads := consecutive_other false events quiet
  have last := lastSuccessful_other events quiet
  refine ⟨?_,?_,?_,?_,?_⟩
  · rw [same.successful,goods]
    exact counted.successful
  · rw [same.failed,bads]
    exact counted.failed
  · rw [same.status,same.temperature,last]
    exact counted.temperature
  · rw [same.status,goods]
    exact counted.below
  · rw [same.status,bads]
    exact counted.above

theorem counted_after (cfg : DeviceConfig) (bootId : UInt32) (index : Fin sensorCount) (events : List Event) :
    Counted (sensorAfter cfg bootId index events) index events := by
  induction events using List.reverseRecOn with
  | nil => exact ⟨rfl,rfl,nofun,fun _ => cfg.successfulPositive,fun _ => cfg.failedPositive⟩
  | append_singleton events event ih =>
    have last : sensorAfter cfg bootId index (events ++ [event]) = (step (run (start cfg bootId) events) event).sensors index := by
      rw [sensorAfter,run_snoc]
    rw [last]
    cases taken : event.readingOf index with
    | none => exact ih.same (step_other _ taken) taken
    | some reading =>
      rw [step_reading _ taken]
      cases good : reading.valid with
      | true => exact ih.successfulReading taken good
      | false => exact ih.failedReading taken good

variable {bootId : UInt32}

def Applied (cfg : DeviceConfig) (bootId : UInt32) (index : Fin sensorCount) (before : List Event) (event : Event) : Prop :=
  event.commands index = true ∧ (sensorAfter cfg bootId index before).latest.dataStatus = .valid

structure SensorLaw (cfg : DeviceConfig) (bootId : UInt32) (index : Fin sensorCount) : Prop where
  initial : (sensorAfter cfg bootId index []).latest.dataStatus = .disconnected
  connects : ∀ events event, (sensorAfter cfg bootId index events).latest.dataStatus = .disconnected →
    ((sensorAfter cfg bootId index (events ++ [event])).latest.dataStatus = .valid ↔
      (∃ reading, event.readingOf index = some reading ∧ reading.valid = true) ∧
        consecutive index true (events ++ [event]) = cfg.successfulReadLimit)
  disconnects : ∀ events event, (sensorAfter cfg bootId index events).latest.dataStatus = .valid →
    ((sensorAfter cfg bootId index (events ++ [event])).latest.dataStatus = .disconnected ↔
      (∃ reading, event.readingOf index = some reading ∧ reading.valid = false) ∧
        consecutive index false (events ++ [event]) = cfg.failedReadLimit)
  temperature : ∀ events, (sensorAfter cfg bootId index events).latest.dataStatus = .valid →
    ∃ reading, lastSuccessful index events = some reading ∧
      (sensorAfter cfg bootId index events).latest.temperatureCentiC = reading.temperatureCentiC
  display : ∀ events,
    (sensorAfter cfg bootId index events).latest.displayEnabled = false ∧
        (∀ before event after, events = before ++ event :: after → ¬ Applied cfg bootId index before event) ∨
      ∃ before event after, events = before ++ event :: after ∧ Applied cfg bootId index before event ∧
        (sensorAfter cfg bootId index events).latest.displayEnabled =
          event.shows (sensorAfter cfg bootId index before).latest.displayEnabled ∧
        ∀ between later rest, after = between ++ later :: rest →
          ¬ Applied cfg bootId index (before ++ event :: between) later

theorem sensorAfter_snoc (events : List Event) (event : Event) :
    sensorAfter cfg bootId index (events ++ [event]) = (step (run (start cfg bootId) events) event).sensors index := by
  rw [sensorAfter,run_snoc]

theorem snoc_cases {events before after : List Event} {event last : Event} (split : events ++ [last] = before ++ event :: after) :
    events = before ∧ last = event ∧ after = [] ∨ ∃ rest, after = rest ++ [last] ∧ events = before ++ event :: rest := by
  rcases List.eq_nil_or_concat after with rfl | ⟨rest,final,rfl⟩
  · obtain ⟨same,single⟩ := List.append_inj' split rfl
    exact .inl ⟨same,List.head_eq_of_cons_eq single,rfl⟩
  · have shifted : events ++ [last] = (before ++ event :: rest) ++ [final] := by simpa using split
    obtain ⟨same,last⟩ := List.append_inj' shifted rfl
    cases last
    exact .inr ⟨rest,by simp,same⟩

theorem display_last (cfg : DeviceConfig) (bootId : UInt32) (index : Fin sensorCount) (events : List Event) :
    (sensorAfter cfg bootId index events).latest.displayEnabled = false ∧
        (∀ before event after, events = before ++ event :: after → ¬ Applied cfg bootId index before event) ∨
      ∃ before event after, events = before ++ event :: after ∧ Applied cfg bootId index before event ∧
        (sensorAfter cfg bootId index events).latest.displayEnabled =
          event.shows (sensorAfter cfg bootId index before).latest.displayEnabled ∧
        ∀ between later rest, after = between ++ later :: rest →
          ¬ Applied cfg bootId index (before ++ event :: between) later := by
  induction events using List.reverseRecOn with
  | nil => exact .inl ⟨rfl,fun _ _ _ empty => absurd empty.symm (by simp)⟩
  | append_singleton events event ih =>
    have flag := step_display index (run (start cfg bootId) events) event
    rw [← sensorAfter_snoc] at flag
    by_cases applied : Applied cfg bootId index events event
    · refine .inr ⟨events,event,[],rfl,applied,?_,fun _ _ _ empty => absurd empty.symm (by simp)⟩
      rw [flag]
      exact if_pos applied
    · have kept : (sensorAfter cfg bootId index (events ++ [event])).latest.displayEnabled =
          (sensorAfter cfg bootId index events).latest.displayEnabled := by
        rw [flag]
        exact if_neg applied
      rcases ih with ⟨off,none⟩ | ⟨before,command,after,rfl,applies,shown,last⟩
      · refine .inl ⟨kept.trans off,fun before other after split => ?_⟩
        rcases snoc_cases split with ⟨rfl,rfl,_⟩ | ⟨rest,_,earlier⟩
        · exact applied
        · exact none before other rest earlier
      · refine .inr ⟨before,command,after ++ [event],by simp,applies,kept.trans shown,fun between later rest split => ?_⟩
        rcases snoc_cases split with ⟨rfl,rfl,_⟩ | ⟨rest,_,earlier⟩
        · exact applied
        · exact last between later rest earlier

theorem connects_at (fits : cfg.successfulReadLimit ≤ 65535) (events : List Event) (event : Event)
    (disconnected : (sensorAfter cfg bootId index events).latest.dataStatus = .disconnected) :
    (sensorAfter cfg bootId index (events ++ [event])).latest.dataStatus = .valid ↔
      (∃ reading, event.readingOf index = some reading ∧ reading.valid = true) ∧
        consecutive index true (events ++ [event]) = cfg.successfulReadLimit := by
  have counted := counted_after cfg bootId index events
  have early := counted.below disconnected
  rw [sensorAfter_snoc]
  cases taken : event.readingOf index with
  | none =>
    have same := (step_other (run (start cfg bootId) events) taken).status
    rw [show (step (run (start cfg bootId) events) event |>.sensors index).latest.dataStatus = .disconnected from same.trans disconnected]
    exact ⟨nofun,fun ⟨⟨_,known,_⟩,_⟩ => nomatch known⟩
  | some reading =>
    rw [step_reading _ taken]
    have more := consecutive_reading true events taken
    cases good : reading.valid with
    | true =>
      have status := (apply_successful (sensorAfter cfg bootId index events) good).2.2.1
      rw [counted.successful,disconnected] at status
      rw [if_pos good] at more
      change (applySensorReading (sensorAfter cfg bootId index events) reading).latest.dataStatus = .valid ↔ _
      rw [status,more]
      constructor
      · intro reached
        refine ⟨⟨reading,rfl,good⟩,?_⟩
        rcases reached with impossible | reached
        · cases impossible
        · omega
      · intro ⟨_,reached⟩
        exact .inr (by omega)
    | false =>
      have status := (apply_failed (sensorAfter cfg bootId index events) good).2.2.1
      change (applySensorReading (sensorAfter cfg bootId index events) reading).latest.dataStatus = .valid ↔ _
      rw [status,disconnected]
      refine ⟨nofun,fun ⟨⟨other,known,valid⟩,_⟩ => ?_⟩
      cases known
      rw [good] at valid
      cases valid

theorem disconnects_at (fits : cfg.failedReadLimit ≤ 65535) (events : List Event) (event : Event)
    (valid : (sensorAfter cfg bootId index events).latest.dataStatus = .valid) :
    (sensorAfter cfg bootId index (events ++ [event])).latest.dataStatus = .disconnected ↔
      (∃ reading, event.readingOf index = some reading ∧ reading.valid = false) ∧
        consecutive index false (events ++ [event]) = cfg.failedReadLimit := by
  have counted := counted_after cfg bootId index events
  have early := counted.above valid
  have lost {sensor : SensorRuntime cfg.capacity} : sensor.latest.dataStatus = .disconnected ↔ ¬ sensor.latest.dataStatus = .valid := by
    rcases status_cases sensor with same | same
    · rw [same]
      exact ⟨nofun,fun other => absurd rfl other⟩
    · rw [same]
      exact ⟨fun _ => nofun,fun _ => rfl⟩
  rw [sensorAfter_snoc,lost]
  cases taken : event.readingOf index with
  | none =>
    have same := (step_other (run (start cfg bootId) events) taken).status
    exact ⟨fun other => absurd (same.trans valid) other,fun ⟨⟨_,known,_⟩,_⟩ => nomatch known⟩
  | some reading =>
    rw [step_reading _ taken]
    have more := consecutive_reading false events taken
    cases good : reading.valid with
    | true =>
      have status := (apply_successful (sensorAfter cfg bootId index events) good).2.2.1
      refine ⟨fun other => absurd (status.mpr (.inl valid)) other,fun ⟨⟨other,known,bad⟩,_⟩ => ?_⟩
      cases known
      rw [good] at bad
      cases bad
    | false =>
      have status := (apply_failed (sensorAfter cfg bootId index events) good).2.2.1
      rw [counted.failed] at status
      rw [if_pos good] at more
      change ¬ (applySensorReading (sensorAfter cfg bootId index events) reading).latest.dataStatus = .valid ↔ _
      rw [status,more]
      constructor
      · intro reached
        refine ⟨⟨reading,rfl,good⟩,?_⟩
        by_contra other
        exact reached ⟨valid,by omega⟩
      · intro ⟨_,reached⟩ ⟨_,short⟩
        omega

def repeated (index : Fin sensorCount) (valid : Bool) (count : Nat) : List Event :=
  List.replicate count (.reading index ⟨valid,2000⟩)

theorem repeated_succ (valid : Bool) (count : Nat) :
    repeated index valid (count + 1) = repeated index valid count ++ [.reading index ⟨valid,2000⟩] :=
  List.replicate_succ'

theorem reading_taken (index : Fin sensorCount) (valid : Bool) : (Event.reading index ⟨valid,2000⟩).readingOf index = some ⟨valid,2000⟩ := by
  simp [Event.readingOf]

theorem consecutive_repeated (index : Fin sensorCount) (events : List Event) (valid : Bool) (count : Nat) :
    consecutive index valid (events ++ repeated index valid count) = consecutive index valid events + count := by
  induction count with
  | zero => simp [repeated]
  | succ count ih =>
    have more := consecutive_reading valid (events ++ repeated index valid count) (reading_taken index valid)
    rw [repeated_succ,← List.append_assoc,more,if_pos rfl,ih]
    omega

theorem never_connected (beyond : 65535 < cfg.successfulReadLimit) (events : List Event) :
    (sensorAfter cfg bootId index events).latest.dataStatus = .disconnected := by
  induction events using List.reverseRecOn with
  | nil => rfl
  | append_singleton events event ih =>
    rw [sensorAfter_snoc]
    cases taken : event.readingOf index with
    | none => exact (step_other (run (start cfg bootId) events) taken).status.trans ih
    | some reading =>
      rw [step_reading _ taken]
      change (applySensorReading (sensorAfter cfg bootId index events) reading).latest.dataStatus = .disconnected
      rcases status_cases (applySensorReading (sensorAfter cfg bootId index events) reading) with valid | done
      · cases good : reading.valid with
        | true =>
          rcases (apply_successful (sensorAfter cfg bootId index events) good).2.2.1.mp valid with before | reached
          · rw [ih] at before
            cases before
          · omega
        | false =>
          have before := ((apply_failed (sensorAfter cfg bootId index events) good).2.2.1.mp valid).1
          rw [ih] at before
          cases before
      · exact done

theorem stays_connected (beyond : 65535 < cfg.failedReadLimit) (events : List Event)
    (valid : (sensorAfter cfg bootId index events).latest.dataStatus = .valid) (count : Nat) :
    (sensorAfter cfg bootId index (events ++ repeated index false count)).latest.dataStatus = .valid := by
  induction count with
  | zero => simpa [repeated] using valid
  | succ count ih =>
    rw [repeated_succ,← List.append_assoc,sensorAfter_snoc,step_reading _ (reading_taken index false)]
    exact (apply_failed (sensorAfter cfg bootId index _) rfl).2.2.1.mpr ⟨ih,by omega⟩

theorem connected_repeated (fits : cfg.successfulReadLimit ≤ 65535) :
    (sensorAfter cfg bootId index (repeated index true cfg.successfulReadLimit)).latest.dataStatus = .valid := by
  rcases status_cases (sensorAfter cfg bootId index (repeated index true cfg.successfulReadLimit)) with valid | disconnected
  · exact valid
  · have short := (counted_after cfg bootId index _).below disconnected
    have count := consecutive_repeated index [] true cfg.successfulReadLimit
    rw [List.nil_append] at count
    rw [count] at short
    have none : consecutive index true [] = 0 := rfl
    omega

theorem law_successful (law : SensorLaw cfg bootId index) : cfg.successfulReadLimit ≤ 65535 := by
  by_contra beyond
  have limit : 65535 < cfg.successfulReadLimit := Nat.lt_of_not_le beyond
  obtain ⟨last,eq⟩ : ∃ last, cfg.successfulReadLimit = last + 1 := ⟨cfg.successfulReadLimit - 1,by omega⟩
  have reached := (law.connects (repeated index true last) (.reading index ⟨true,2000⟩) (never_connected limit _)).mpr ?_
  · rw [never_connected limit] at reached
    cases reached
  · refine ⟨⟨_,reading_taken index true,rfl⟩,?_⟩
    have count := consecutive_repeated index [] true (last + 1)
    rw [List.nil_append] at count
    rw [← repeated_succ,eq,count]
    exact Nat.zero_add _

theorem law_failed (law : SensorLaw cfg bootId index) : cfg.failedReadLimit ≤ 65535 := by
  by_contra beyond
  have limit : 65535 < cfg.failedReadLimit := Nat.lt_of_not_le beyond
  obtain ⟨last,eq⟩ : ∃ last, cfg.failedReadLimit = last + 1 := ⟨cfg.failedReadLimit - 1,by omega⟩
  have connected : (sensorAfter cfg bootId index (repeated index true cfg.successfulReadLimit)).latest.dataStatus = .valid :=
    connected_repeated (law_successful law)
  have stays (count : Nat) := stays_connected limit _ connected count
  have reached := (law.disconnects (repeated index true cfg.successfulReadLimit ++ repeated index false last)
    (.reading index ⟨false,2000⟩) (stays last)).mpr ?_
  · rw [List.append_assoc,← repeated_succ,stays (last + 1)] at reached
    cases reached
  · refine ⟨⟨_,reading_taken index false,rfl⟩,?_⟩
    obtain ⟨before,some⟩ : ∃ before, cfg.successfulReadLimit = before + 1 :=
      ⟨cfg.successfulReadLimit - 1,(Nat.sub_add_cancel cfg.successfulPositive).symm⟩
    have none : consecutive index false (repeated index true cfg.successfulReadLimit) = 0 := by
      rw [some,repeated_succ,consecutive_reading false _ (reading_taken index true)]
      rfl
    rw [List.append_assoc,← repeated_succ,consecutive_repeated,eq,none,Nat.zero_add]

-- The law holds of every run exactly if the 16-bit counters can reach both limits.
theorem sensor_law_iff (cfg : DeviceConfig) (bootId : UInt32) (index : Fin sensorCount) :
    SensorLaw cfg bootId index ↔ cfg.successfulReadLimit ≤ 65535 ∧ cfg.failedReadLimit ≤ 65535 := by
  constructor
  · intro law
    exact ⟨law_successful law,law_failed law⟩
  · intro ⟨successful,failed⟩
    exact ⟨rfl,connects_at successful,disconnects_at failed,fun events => (counted_after cfg bootId index events).temperature,
      display_last cfg bootId index⟩

def farLimit : DeviceConfig := ⟨.three,3,70000,three_positive,by decide⟩

theorem limit_never_reached :
    consecutive 0 true (repeated 0 true 70000) = farLimit.successfulReadLimit ∧
      (sensorAfter farLimit 7 0 (repeated 0 true 70000)).latest.dataStatus = .disconnected ∧ ¬ SensorLaw farLimit 7 0 := by
  have limit : 65535 < farLimit.successfulReadLimit := by decide
  refine ⟨?_,never_connected limit _,fun law => Nat.not_le_of_lt limit (law_successful law)⟩
  have count := consecutive_repeated 0 [] true 70000
  rw [List.nil_append] at count
  rw [count]
  exact Nat.zero_add _

end Thermometer.Firmware
