import Thermometer.Client.SampleOrigin
import Thermometer.Frontend.PlottedFrames

-- samples.ts over the table `temperature_samples`, and the way of its answers to the page: the two routes of app.ts
-- and the two requests of bleClient.ts.
namespace Thermometer.Frontend.SampleStore
open DataSource
open Client (TemperatureSample TemperatureSamples SensorStatus)

inductive RawValue where
  | null
  | number (value : Rat)
  | text (value : String)
  | date (milliseconds : Int)

structure RawRow where
  observedAtUtc : RawValue
  sensor1C : RawValue
  sensor1Status : RawValue
  sensor2C : RawValue
  sensor2Status : RawValue

-- JavaScript on the server, and mysql2: a decimal column comes as a text, a DATETIME as a Date.
structure Server extends DataSource.JavaScript where
  numberText : Rat → String
  dateText : Int → String
  toISOString : Int → String
  decimalText : Int → String
  date : Int → Int

variable (server : Server)

def stringOf : RawValue → String
  | .null => "null"
  | .number value => server.numberText value
  | .text value => value
  | .date milliseconds => server.dateText milliseconds

def SensorStatus.name : SensorStatus → String
  | .valid => "VALID"
  | .disconnected => "DISCONNECTED"
  | .notRetrieved => "NOT_RETRIEVED"
  | .missing => "MISSING"

def asStatus (value : RawValue) : Except String SampleStatus :=
  let status := stringOf server value
  if status = "VALID" then .ok .valid
  else if status = "DISCONNECTED" then .ok .disconnected
  else if status = "NOT_RETRIEVED" then .ok .notRetrieved
  else if status = "MISSING" then .ok .missing
  else .error ("invalid sensor status \"" ++ status ++ "\"")

def asCelsius : RawValue → Option Rat
  | .null => none
  | .number value => some value
  | .text value => if value = "" then none else server.number value
  | .date milliseconds => some milliseconds

def asUtc : RawValue → String
  | .date milliseconds => server.toISOString milliseconds
  | value => stringOf server value

def cellOf : Option Rat → Cell
  | none => .null
  | some value => .number value

def parseSampleRow (raw : RawRow) : Except String SampleRow := do
  let sensor1Status ← asStatus server raw.sensor1Status
  let sensor2Status ← asStatus server raw.sensor2Status
  return {
    observedAtUtc := asUtc server raw.observedAtUtc
    celsius := fun
      | .one => cellOf (asCelsius server raw.sensor1C)
      | .two => cellOf (asCelsius server raw.sensor2C)
    status := fun
      | .one => sensor1Status
      | .two => sensor2Status }

def rawRow (row : TemperatureSample) : RawRow where
  observedAtUtc := .date (server.date row.observedAtUtc)
  sensor1C := row.sensor1C.elim .null fun hundredths => .text (server.decimalText hundredths)
  sensor1Status := .text (SensorStatus.name row.sensor1Status)
  sensor2C := row.sensor2C.elim .null fun hundredths => .text (server.decimalText hundredths)
  sensor2Status := .text (SensorStatus.name row.sensor2Status)

-- ORDER BY observed_at_utc DESC, id DESC.
def newestFirst (left right : TemperatureSample) : Bool :=
  right.observedAtUtc < left.observedAtUtc || (right.observedAtUtc = left.observedAtUtc && right.id ≤ left.id)

-- ORDER BY observed_at_utc ASC, id ASC.
def oldestFirst (left right : TemperatureSample) : Bool := newestFirst right left

def latest (t : TemperatureSamples) : Except String (Option SampleRow) :=
  match (t.rows.mergeSort newestFirst).head? with
  | none => .ok none
  | some row => some <$> parseSampleRow server (rawRow server row)

-- `none` for a number of seconds that is not finite.
def window (seconds : Option Rat) : Rat := seconds.elim 300 fun seconds => max 1 (min seconds 3600)

-- `now` is UTC_TIMESTAMP().
def selected (t : TemperatureSamples) (now : Int) (seconds : Option Rat) : List TemperatureSample :=
  (t.rows.filter fun row => now - window seconds ≤ row.observedAtUtc).mergeSort oldestFirst

def history (t : TemperatureSamples) (now : Int) (seconds : Option Rat) : Except String (List SampleRow) :=
  (selected t now seconds).mapM fun row => parseSampleRow server (rawRow server row)

-- `none` for a server without a database. An error of the store reaches the page without its text.
def getSamplesLatest : Option TemperatureSamples → Except String (Option SampleRow)
  | none => .ok none
  | some t => (latest server t).mapError fun _ => "503 Service Unavailable"

def getSamplesHistory (now : Int) (seconds : Option Rat) : Option TemperatureSamples → Except String (List SampleRow)
  | none => .ok []
  | some t => (history server t now seconds).mapError fun _ => "503 Service Unavailable"

def columnOf : DataSource.SensorId → Client.SensorId
  | .one => 0
  | .two => 1

def statusOf : SensorStatus → SampleStatus
  | .valid => .valid
  | .disconnected => .disconnected
  | .notRetrieved => .notRetrieved
  | .missing => .missing

def decimalCell (value : Option Int) : Cell :=
  cellOf (value.bind fun hundredths => asCelsius server (.text (server.decimalText hundredths)))

def sentRow (row : TemperatureSample) : SampleRow where
  observedAtUtc := server.toISOString (server.date row.observedAtUtc)
  celsius id := decimalCell server (row.field (columnOf id)).1
  status id := statusOf (row.field (columnOf id)).2

variable {server}

theorem asStatus_name (status : SensorStatus) : asStatus server (.text (SensorStatus.name status)) = .ok (statusOf status) := by
  cases status <;> rfl

theorem asCelsius_decimal (value : Option Int) :
    cellOf (asCelsius server (value.elim .null fun hundredths => .text (server.decimalText hundredths))) = decimalCell server value := by
  cases value <;> rfl

theorem statusOf_valid {status : SensorStatus} (valid : statusOf status = .valid) : status = .valid := by
  cases status with
  | valid => rfl
  | disconnected => cases valid
  | notRetrieved => cases valid
  | missing => cases valid

theorem decimalCell_shown {column : Option Int} {value : Rat}
    (shown : celsiusOrNull server.toJavaScript (decimalCell server column) = some value) :
    ∃ hundredths, column = some hundredths ∧ asCelsius server (.text (server.decimalText hundredths)) = some value := by
  cases column with
  | none => cases shown
  | some hundredths =>
    refine ⟨hundredths,rfl,?_⟩
    simp only [decimalCell,Option.bind_some] at shown
    cases read : asCelsius server (.text (server.decimalText hundredths)) with
    | none =>
      rw [read] at shown
      cases shown
    | some number =>
      rw [read] at shown
      exact shown

theorem parse_sent (row : TemperatureSample) : parseSampleRow server (rawRow server row) = .ok (sentRow server row) := by
  unfold parseSampleRow rawRow
  simp only [asStatus_name,asCelsius_decimal,asUtc,bind,Except.bind,pure,Except.pure,Except.ok.injEq]
  unfold sentRow
  congr 1
  · funext id
    cases id <;> rfl
  · funext id
    cases id <;> rfl

theorem history_sent (t : TemperatureSamples) (now : Int) (seconds : Option Rat) :
    history server t now seconds = .ok ((selected t now seconds).map (sentRow server)) := by
  unfold history
  induction selected t now seconds with
  | nil => rfl
  | cons row rest ih =>
    rw [List.mapM_cons,parse_sent,ih]
    rfl

theorem latest_sent (t : TemperatureSamples) :
    latest server t = .ok (((t.rows.mergeSort newestFirst).head?).map (sentRow server)) := by
  unfold latest
  cases (t.rows.mergeSort newestFirst).head? with
  | none => rfl
  | some row =>
    dsimp only
    rw [parse_sent]
    rfl

theorem getSamplesLatest_sent {table : Option TemperatureSamples} {reply : Option SampleRow} {row : SampleRow}
    (answered : getSamplesLatest server table = .ok reply) (present : reply = some row) :
    ∃ t held, table = some t ∧ held ∈ t.rows ∧ row = sentRow server held := by
  cases table with
  | none =>
    cases answered
    cases present
  | some t =>
    rw [getSamplesLatest,latest_sent] at answered
    cases answered
    obtain ⟨held,first,rfl⟩ := Option.map_eq_some_iff.mp present
    refine ⟨t,held,rfl,?_,rfl⟩
    exact (List.mergeSort_perm _ _).mem_iff.mp (List.mem_of_mem_head? first)

theorem getSamplesHistory_sent {table : Option TemperatureSamples} {now : Int} {seconds : Option Rat} {rows : List SampleRow}
    {row : SampleRow} (answered : getSamplesHistory server now seconds table = .ok rows) (present : row ∈ rows) :
    ∃ t held, table = some t ∧ held ∈ t.rows ∧ row = sentRow server held := by
  cases table with
  | none =>
    cases answered
    cases present
  | some t =>
    rw [getSamplesHistory,history_sent] at answered
    cases answered
    obtain ⟨held,among,rfl⟩ := List.mem_map.mp present
    have selected := (List.mergeSort_perm _ _).mem_iff.mp among
    exact ⟨t,held,rfl,(List.mem_filter.mp selected).1,rfl⟩

theorem newestFirst_trans (a b c : TemperatureSample) (first : newestFirst a b = true) (second : newestFirst b c = true) :
    newestFirst a c = true := by
  simp only [newestFirst,Bool.or_eq_true,Bool.and_eq_true,decide_eq_true_eq] at first second ⊢
  omega

theorem newestFirst_total (a b : TemperatureSample) : (newestFirst a b || newestFirst b a) = true := by
  simp only [newestFirst,Bool.or_eq_true,Bool.and_eq_true,decide_eq_true_eq]
  omega

theorem oldestFirst_time {a b : TemperatureSample} (before : oldestFirst a b = true) : a.observedAtUtc ≤ b.observedAtUtc := by
  simp only [oldestFirst,newestFirst,Bool.or_eq_true,Bool.and_eq_true,decide_eq_true_eq] at before
  omega

-- The page reads back the moment of a DATETIME, and a later one is not before an earlier one.
structure ReadsDates (server : Server) : Prop where
  parse : ∀ seconds, server.dateParse (server.toISOString (server.date seconds)) = some (server.date seconds)
  forward : ∀ earlier later, earlier ≤ later → server.date earlier ≤ server.date later

theorem getSamplesHistory_ordered (dates : ReadsDates server) {table : Option TemperatureSamples} {now : Int}
    {seconds : Option Rat} {rows : List SampleRow} (answered : getSamplesHistory server now seconds table = .ok rows) :
    Ordered server.toJavaScript rows := by
  cases table with
  | none =>
    cases answered
    exact List.Pairwise.nil
  | some t =>
    rw [getSamplesHistory,history_sent] at answered
    cases answered
    unfold Ordered
    rw [List.pairwise_map]
    have sorted := List.pairwise_mergeSort (fun a b c first second => newestFirst_trans c b a second first)
      (fun a b => newestFirst_total b a) (t.rows.filter fun row => now - window seconds ≤ row.observedAtUtc)
    refine sorted.imp ?_
    intro a b before
    exact ⟨_,_,dates.parse _,dates.parse _,dates.forward _ _ (oldestFirst_time before)⟩

end Thermometer.Frontend.SampleStore
