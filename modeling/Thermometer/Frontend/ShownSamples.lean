import Thermometer.Frontend.SampleStore

-- What the page shows of the samples that the service has handed to the database, whatever the order of the writes,
-- the queries and the page's own steps.
namespace Thermometer.Frontend.SampleStore
open Execution
open DataSource hiding SensorId
open Client (StoreCall storeAfter emptySamples SampleRecord SampleColumns Handed sampleParams storedSeconds TemperatureSamples)
open Decimal (hundredths)

variable {server : Server} {calls : List StoreCall}

-- A query reads the table as one of the calls has left it.
def ReadsTable (calls : List StoreCall) (table : Option TemperatureSamples) : Prop :=
  ∀ t, table = some t → ∃ before, before <+: calls ∧ t = storeAfter emptySamples before

def served (server : Server) (calls : List StoreCall) : Page → DataSource.Event → Prop
  | _,.latest (.ok reply) => ∃ table, ReadsTable calls table ∧ getSamplesLatest server table = .ok reply
  | _,.history (.ok rows) => ∃ table now, ReadsTable calls table ∧ getSamplesHistory server now (some windowS) table = .ok rows
  | _,_ => True

def Reads (server : Server) (sample : SampleRecord) (id : DataSource.SensorId) (value : Rat) : Prop :=
  ∃ reading ∈ sample.sensorReadings, reading.sensorId = (columnOf id).number ∧ reading.status = .valid ∧
    ∃ temperature, reading.temperatureC = some temperature ∧
      asCelsius server (.text (server.decimalText (hundredths temperature))) = some value

theorem sampleParams_parts {sample : SampleRecord} {columns : SampleColumns} (params : sampleParams sample = some columns) :
    columns.key = sample.key ∧ columns.observedAtUtc = storedSeconds sample.observedAtUtc ∧
    ∀ sensorId, ∃ reading ∈ sample.sensorReadings, reading.sensorId = Client.SensorId.number sensorId ∧
      columns.field sensorId = (reading.temperatureC.map hundredths,reading.status) := by
  obtain ⟨first,known,params⟩ := Option.bind_eq_some_iff.mp params
  obtain ⟨second,known_second,params⟩ := Option.bind_eq_some_iff.mp params
  cases params
  refine ⟨rfl,rfl,?_⟩
  intro sensorId
  match sensorId with
  | 0 =>
    refine ⟨first,List.mem_reverse.mp (List.mem_of_find?_eq_some known),?_,rfl⟩
    have number := List.find?_some known
    exact of_decide_eq_true number
  | 1 =>
    refine ⟨second,List.mem_reverse.mp (List.mem_of_find?_eq_some known_second),?_,rfl⟩
    have number := List.find?_some known_second
    exact of_decide_eq_true number

theorem sentRow_handed {t : TemperatureSamples} (before : t = storeAfter emptySamples calls) {row : Client.TemperatureSample}
    (member : row ∈ t.rows) {id : DataSource.SensorId} {value : Rat} (valid : (sentRow server row).status id = .valid)
    (shown : celsiusOrNull server.toJavaScript ((sentRow server row).celsius id) = some value) :
    ∃ measured ∈ calls.flatMap StoreCall.samples, ∃ timed ∈ calls.flatMap StoreCall.samples,
      timed.key = measured.key ∧ row.observedAtUtc = storedSeconds timed.observedAtUtc ∧ Reads server measured id value := by
  subst before
  obtain ⟨⟨early,⟨timed,given,early_params⟩,early_key,time⟩,fields⟩ := Client.store_sourced calls row member
  obtain ⟨columns,⟨measured,handed,params⟩,key,field⟩ := fields (columnOf id)
  obtain ⟨early_same,observed,-⟩ := sampleParams_parts early_params
  obtain ⟨same,-,readings⟩ := sampleParams_parts params
  obtain ⟨reading,among,number,pair⟩ := readings (columnOf id)
  refine ⟨measured,handed,timed,given,?_,time.symm.trans observed,reading,among,number,?_⟩
  · rw [← early_same,← same,early_key,key]
  · rw [field] at pair
    simp only [sentRow,pair] at valid shown
    obtain ⟨stored,column,read⟩ := decimalCell_shown shown
    obtain ⟨temperature,measured,rfl⟩ := Option.map_eq_some_iff.mp column
    exact ⟨statusOf_valid valid,temperature,measured,read⟩

theorem served_ordered (dates : ReadsDates server) (s : Page) (event : DataSource.Event) (answered : served server calls s event) :
    orderedReplies server.toJavaScript s event := by
  cases event with
  | history reply =>
    cases reply with
    | ok rows =>
      obtain ⟨table,now,-,read⟩ := answered
      exact getSamplesHistory_ordered dates read
    | error message => trivial
  | _ => trivial

theorem served_row {s : Page} {event : DataSource.Event} (answered : served server calls s event) {row : SampleRow}
    (member : row ∈ sent event) : ∃ before held, before <+: calls ∧ held ∈ (storeAfter emptySamples before).rows ∧
      row = sentRow server held := by
  cases event with
  | latest reply =>
    cases reply with
    | ok reply =>
      obtain ⟨table,reads,read⟩ := answered
      cases reply with
      | none => cases member
      | some own =>
        cases List.mem_singleton.mp member
        obtain ⟨t,held,known,among,same⟩ := getSamplesLatest_sent read rfl
        obtain ⟨before,earlier,rfl⟩ := reads t known
        exact ⟨before,held,earlier,among,same⟩
    | error message => cases member
  | history reply =>
    cases reply with
    | ok rows =>
      obtain ⟨table,now,reads,read⟩ := answered
      obtain ⟨t,held,known,among,same⟩ := getSamplesHistory_sent read member
      obtain ⟨before,earlier,rfl⟩ := reads t known
      exact ⟨before,held,earlier,among,same⟩
    | error message => cases member
  | _ => cases member

-- From the adapter to the page, whatever calls come and break off, whatever is read in between and whatever fails: the
-- page's history is oldest first, and every temperature in a frame is one that a sample handed to the adapter gives for
-- this sensor as valid, rounded to hundredths, at the time of a sample with the same key.
theorem page_shows_samples (dates : ReadsDates server) {now : Int} {trace : List (Page × DataSource.Event)} {s : Page}
    (path : Path (DataSource.step server.toJavaScript) (served server calls) (opened now) trace s) :
    Chronological s.history ∧
    ∀ frame, frame = s.last ∨ frame ∈ s.history ∨ frame = s.state.frame ∨ frame ∈ s.state.history →
      ∀ id value, (frame.readings id).celsius = some value →
        ∃ measured ∈ calls.flatMap StoreCall.samples, ∃ timed ∈ calls.flatMap StoreCall.samples, timed.key = measured.key ∧
          frame.timestamp = server.date (storedSeconds timed.observedAtUtc) ∧ Reads server measured id value := by
  refine ⟨run_chronological (path.weaken (served_ordered dates)),?_⟩
  intro frame held id value shown
  have read := (run_genuine path.unrestricted).every held
  obtain ⟨row,sent_row,valid,temperature,time⟩ := read.reading shown
  obtain ⟨entry,recorded,among⟩ := List.mem_flatMap.mp sent_row
  obtain ⟨before,stored,earlier,present,rfl⟩ := served_row (path.all_allowed entry recorded) among
  obtain ⟨measured,handed,timed,given,key,observed,reads⟩ := sentRow_handed rfl present valid temperature
  obtain ⟨later,rfl⟩ := earlier
  have within : before.flatMap StoreCall.samples ⊆ (before ++ later).flatMap StoreCall.samples := by
    rw [List.flatMap_append]
    exact List.subset_append_left _ _
  refine ⟨measured,within handed,timed,within given,key,?_,reads⟩
  rw [time _ (dates.parse stored.observedAtUtc),observed]

def clockText (milliseconds : Int) : String :=
  if milliseconds = 1767225600000 then "2026-01-01T00:00:00.000Z"
  else String.ofList (.replicate milliseconds.natAbs (if milliseconds < 0 then '-' else '+'))

def clockTime (text : String) : Option Int :=
  if text = "2026-01-01T00:00:00.000Z" then some 1767225600000
  else if '-' ∈ text.toList then some (-text.toList.length) else some text.toList.length

def exampleReader : Server where
  dateParse := clockTime
  number text := if text = "21.50" then some (43 / 2) else none
  numberText _ := ""
  dateText _ := ""
  toISOString := clockText
  decimalText hundredths := if hundredths = 2150 then "21.50" else ""
  date seconds := seconds * 1000

theorem clockTime_text (milliseconds : Int) : clockTime (clockText milliseconds) = some milliseconds := by
  unfold clockText
  split
  · rename_i own
    rw [own]
    rfl
  · have other : String.ofList (.replicate milliseconds.natAbs (if milliseconds < 0 then '-' else '+')) ≠
        "2026-01-01T00:00:00.000Z" := by
      intro same
      have member : '2' ∈ List.replicate milliseconds.natAbs (if milliseconds < 0 then '-' else '+') := by
        rw [← String.toList_ofList (l := List.replicate _ _),same]
        decide
      have only := (List.mem_replicate.mp member).2
      split at only
      · cases only
      · cases only
    unfold clockTime
    rw [if_neg other,String.toList_ofList,List.length_replicate]
    split
    · rw [if_pos (List.mem_replicate.mpr ⟨by omega,rfl⟩),Option.some.injEq]
      omega
    · have absent : '-' ∉ List.replicate milliseconds.natAbs '+' := by
        intro member
        cases (List.mem_replicate.mp member).2
      rw [if_neg absent,Option.some.injEq]
      omega

theorem exampleReader_dates : ReadsDates exampleReader := by
  constructor
  · intro seconds
    exact clockTime_text _
  · intro earlier later le
    exact Int.mul_le_mul_of_nonneg_right le (by decide)

def liveSample : SampleRecord where
  observedAtUtc := 1767225600
  bootId := some 7
  sampleSequence := some 1
  sensorReadings := [⟨1,some (Client.pythonFloat (Client.Protocol.centigrade 2150)),.valid⟩,⟨2,none,.disconnected⟩]
  averageTemperatureC := none
  source := .live
  failureReason := none

def liveCalls : List StoreCall := [.write (.publish liveSample none)]

theorem page_shows_samples_live : ∃ trace s,
    Path (DataSource.step exampleReader.toJavaScript) (served exampleReader liveCalls) (opened 1767225602000) trace s ∧
    (s.state.frame.readings .one).celsius = some (43 / 2) ∧ s.state.frame.timestamp = 1767225600000 ∧
    Reads exampleReader liveSample .one (43 / 2) := by
  have rounded : hundredths (Client.pythonFloat (Client.Protocol.centigrade 2150)) = 2150 := by decide +kernel
  have observed : storedSeconds 1767225600 = 1767225600 := by decide +kernel
  obtain ⟨held,rows,measured,valid,time⟩ : ∃ held, (storeAfter emptySamples liveCalls).rows = [held] ∧
      held.sensor1C = some (hundredths (Client.pythonFloat (Client.Protocol.centigrade 2150))) ∧
      held.sensor1Status = .valid ∧ held.observedAtUtc = storedSeconds 1767225600 := ⟨_,rfl,rfl,rfl,rfl⟩
  have reads : ReadsTable liveCalls (some (storeAfter emptySamples liveCalls)) := by
    intro t same
    cases same
    exact ⟨liveCalls,List.prefix_rfl,rfl⟩
  have newest : getSamplesLatest exampleReader (some (storeAfter emptySamples liveCalls)) =
      .ok (some (sentRow exampleReader held)) := by
    rw [getSamplesLatest,latest_sent,rows,List.mergeSort_singleton]
    rfl
  have recent : getSamplesHistory exampleReader 1767225602 (some windowS) (some (storeAfter emptySamples liveCalls)) =
      .ok [sentRow exampleReader held] := by
    rw [getSamplesHistory,history_sent,selected,rows,List.filter_cons_of_pos,List.filter_nil,List.mergeSort_singleton]
    · rfl
    · rw [time,observed]
      decide +kernel
  have mounted := Path.snoc (.nil : Path (DataSource.step exampleReader.toJavaScript) (served exampleReader liveCalls)
    (opened 1767225602000) [] _)
    (show served exampleReader liveCalls _ .mount from trivial) (rfl : DataSource.step exampleReader.toJavaScript _ .mount = some _)
  have offline := mounted.snoc (show served exampleReader liveCalls _ (.status (.error "")) from trivial) rfl
  have latest := offline.snoc (show served exampleReader liveCalls _ (.latest (.ok (some (sentRow exampleReader held)))) from
    ⟨_,reads,newest⟩) rfl
  have read := latest.snoc (show served exampleReader liveCalls _ (.history (.ok [sentRow exampleReader held])) from
    ⟨_,_,reads,recent⟩) rfl
  obtain ⟨-,frames⟩ := page_shows_samples exampleReader_dates read
  have shown : ((sentRow exampleReader held).celsius .one) = .number (43 / 2) := by
    change decimalCell exampleReader held.sensor1C = _
    rw [measured,rounded]
    rfl
  have status : (sentRow exampleReader held).status .one = .valid := by
    change statusOf held.sensor1Status = _
    rw [valid]
    rfl
  have displayed : ∀ displays switchState now,
      ((frameFromSample exampleReader.toJavaScript (sentRow exampleReader held) displays switchState now).readings .one).celsius =
        some (43 / 2) := by
    intro displays switchState now
    simp [frameFromSample,readingFromSample,status,shown,celsiusOrNull]
  obtain ⟨measured,handed,timed,given,key,at_time,reading⟩ := frames _ (.inr (.inr (.inl rfl))) .one (43 / 2) (displayed _ _ _)
  refine ⟨_,_,read,displayed _ _ _,?_,?_⟩
  · cases List.mem_singleton.mp given
    rw [at_time]
    change storedSeconds 1767225600 * 1000 = _
    rw [observed]
    rfl
  · cases List.mem_singleton.mp handed
    exact reading

end Thermometer.Frontend.SampleStore
