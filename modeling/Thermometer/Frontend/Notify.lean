import Mathlib.Data.List.Dedup
import Thermometer.Lib.Execution
import Thermometer.Lib.Json
import Thermometer.Frontend.AlertConfig

-- notify.ts and the route of app.ts that calls it. JavaScript runs one piece of code at a
-- time: a request up to the call of the sender, what follows when the sender resolves or
-- rejects, and the rest of the route are steps of their own.
namespace Thermometer.Frontend
open Json Execution

inductive AlertSource where
  | sensor1
  | sensor2
  | average
  deriving DecidableEq

inductive AlertTransition where
  | normal
  | high
  | low
  deriving DecidableEq

structure AlertEventInput where
  id : String
  timestamp : Number
  recipientId : String
  ruleId : String
  source : AlertSource
  transition : AlertTransition
  destination : String
  message : String
  celsius : Number

structure JavaScript where
  texts : LowerCase
  toFixed1 : Number → String
  toUTCString : Number → String

def jsonText : Value → Option String
  | .text value => some value
  | _ => none

def jsonNumber : Value → Option Number
  | .integer value => some (.integer value)
  | .double value => some (.double value)
  | _ => none

-- `string().min(1)`.
def jsonName (value : Value) : Option String := (jsonText value).filter (· ≠ "")

def jsonSource (value : Value) : Option AlertSource := do
  match ← jsonText value with
  | "SENSOR_1" => some .sensor1
  | "SENSOR_2" => some .sensor2
  | "AVERAGE" => some .average
  | _ => none

def jsonTransition (value : Value) : Option AlertTransition := do
  match ← jsonText value with
  | "NORMAL" => some .normal
  | "HIGH" => some .high
  | "LOW" => some .low
  | _ => none

-- AlertEventSchema.safeParse.
def alertEvent (body : Value) : Option AlertEventInput := do
  return {
    id := ← (← body.field "id") |> jsonName
    timestamp := ← (← body.field "timestamp") |> jsonNumber
    recipientId := ← (← body.field "recipientId") |> jsonText
    ruleId := ← (← body.field "ruleId") |> jsonText
    source := ← (← body.field "source") |> jsonSource
    transition := ← (← body.field "transition") |> jsonTransition
    destination := ← (← body.field "destination") |> jsonText
    message := ← (← body.field "message") |> jsonName
    celsius := ← (← body.field "celsius") |> jsonNumber }

def normalizeDestination (js : JavaScript) (raw : String) : Option String :=
  if isEmail (js.texts.normal raw) then some (js.texts.normal raw) else none

def sourceLabel : AlertSource → String
  | .sensor1 => "Sensor 1"
  | .sensor2 => "Sensor 2"
  | .average => "Sensor average"

def escapeHtml (value : String) : String :=
  String.join (value.toList.map fun c =>
    if c = '&' then "&amp;" else if c = '<' then "&lt;" else if c = '>' then "&gt;" else if c = '"' then "&quot;" else c.toString)

structure EmailMessage where
  sendTo : String
  body : String
  subject : String
  html : String

def composeAlertEmail (js : JavaScript) (event : AlertEventInput) (destination : String) : EmailMessage :=
  let sensor := sourceLabel event.source
  let reading := js.toFixed1 event.celsius ++ "°C"
  let kind := if event.transition = .high then "HIGH" else "LOW"
  let time := js.toUTCString event.timestamp
  let accent := if event.transition = .high then "#c62828" else "#1565c0"
  let cell := "<td style=\"padding:6px 0;color:#5a5a5a"
  { sendTo := destination
    subject := kind ++ " temperature alert - " ++ sensor ++ " at " ++ reading
    body := "\n".intercalate ["Networked Thermometer alert","","Status:  " ++ kind,"Sensor:  " ++ sensor,"Reading: " ++ reading,
      "Time:    " ++ time,"",event.message,"","This message was sent by the networked thermometer computer console."]
    html := "\n".intercalate [
      "<div style=\"font-family:Segoe UI,Helvetica,Arial,sans-serif;max-width:520px;color:#1a1a1a;line-height:1.45\">",
      "  <h1 style=\"font-size:18px;margin:0 0 4px\">Networked Thermometer</h1>",
      "  <p style=\"margin:0 0 16px;font-size:14px;color:#5a5a5a\">Threshold alert from the computer console</p>",
      "  <p style=\"margin:0 0 16px;font-size:16px\"><strong style=\"color:" ++ accent ++ "\">" ++ kind ++ "</strong> on " ++ sensor ++ "</p>",
      "  <table style=\"border-collapse:collapse;width:100%;font-size:14px\">",
      "    <tr>" ++ cell ++ ";width:96px\">Sensor</td><td>" ++ escapeHtml sensor ++ "</td></tr>",
      "    <tr>" ++ cell ++ "\">Reading</td><td><strong>" ++ escapeHtml reading ++ "</strong></td></tr>",
      "    <tr>" ++ cell ++ "\">Status</td><td>" ++ kind ++ "</td></tr>",
      "    <tr>" ++ cell ++ "\">Time (UTC)</td><td>" ++ escapeHtml time ++ "</td></tr>",
      "  </table>",
      "  <p style=\"margin:16px 0 0\">" ++ escapeHtml event.message ++ "</p>",
      "  <p style=\"margin:20px 0 0;font-size:12px;color:#5a5a5a\">Sent automatically when a sensor crossed the configured min/max threshold.</p>",
      "</div>"] }

inductive EmailStatus where
  | sent
  | logged
  deriving DecidableEq

structure EmailResult where
  status : EmailStatus
  providerId : Option String
  deriving DecidableEq

inductive NotifyOutcome where
  | invalidEvent
  | notDeliverable
  | invalidDestination
  | duplicate
  | delivered (result : EmailResult)
  | sendFailed (reason : String)
  deriving DecidableEq

def NotifyOutcome.code : NotifyOutcome → Nat
  | .invalidEvent | .notDeliverable | .invalidDestination => 400
  | .duplicate | .delivered _ => 200
  | .sendFailed _ => 502

-- `handleNotify` before the duplicate check: the event and its normalized destination.
def checkEvent (js : JavaScript) (rawBody : Value) : Except NotifyOutcome (AlertEventInput × String) := do
  let event ← (alertEvent rawBody).elim (.error .invalidEvent) .ok
  if event.transition ≠ .high ∧ event.transition ≠ .low then .error .notDeliverable
  let destination ← (normalizeDestination js event.destination).elim (.error .invalidDestination) .ok
  return (event,destination)

-- `handleNotify` up to the call of the sender.
def handleNotify (js : JavaScript) (seen : List String) (rawBody : Value) : Except NotifyOutcome (AlertEventInput × EmailMessage) := do
  let (event,destination) ← checkEvent js rawBody
  if seen.contains event.id then .error .duplicate
  return (event,composeAlertEmail js event destination)

def seenLimit : Nat := 5000

-- A Set lists its values in the order of their insertion.
def addSeen (seen : List String) (id : String) : List String := if seen.contains id then seen else seen ++ [id]

def evict : List String → List String
  | [] => []
  | oldest :: rest => if seenLimit < (oldest :: rest).length then evict rest else oldest :: rest

-- A call of the sender that has not come back. `since` counts the deliveries before it.
structure Send where
  request : Nat
  event : AlertEventInput
  message : EmailMessage
  since : Nat

inductive Response where
  | unauthorized
  | outcome (outcome : NotifyOutcome)
  deriving DecidableEq

-- `seen` of createApp and the requests under way. `delivered` lists the ids of the sends
-- that completed, the newest last; only the statements read it.
structure Server where
  seen : List String
  requests : Nat
  sends : List Send
  returned : List (Nat × NotifyOutcome)
  responses : List (Nat × Response)
  delivered : List String

def Server.started : Server := ⟨[],0,[],[],[],[]⟩

inductive Action where
  | request (authorization : Option String) (rawBody : Value)
  | sent (request : Nat) (result : EmailResult)
  | failed (request : Nat) (reason : String)
  | respond (request : Nat)

-- The middleware; an empty token asks for nothing.
def authorized (apiToken authorization : Option String) : Bool :=
  match apiToken.filter (· ≠ "") with
  | some token => authorization == some ("Bearer " ++ token)
  | none => true

namespace Server

def pending (s : Server) (request : Nat) : Option Send := s.sends.find? (·.request = request)

def withdraw (s : Server) (request : Nat) (outcome : NotifyOutcome) : Server :=
  { s with sends := s.sends.filter (·.request ≠ request),returned := s.returned ++ [(request,outcome)] }

def step (js : JavaScript) (apiToken : Option String) (s : Server) : Action → Option Server
  | .request authorization rawBody =>
    let s' := { s with requests := s.requests + 1 }
    if authorized apiToken authorization then
      match handleNotify js s.seen rawBody with
      | .error outcome => some { s' with returned := s.returned ++ [(s.requests,outcome)] }
      | .ok (event,message) => some { s' with sends := s.sends ++ [⟨s.requests,event,message,s.delivered.length⟩] }
    else some { s' with responses := s.responses ++ [(s.requests,.unauthorized)] }
  | .sent request result => do
    let send ← s.pending request
    return { s.withdraw request (.delivered result) with
      seen := addSeen s.seen send.event.id
      delivered := s.delivered ++ [send.event.id] }
  | .failed request reason => do
    let _ ← s.pending request
    return s.withdraw request (.sendFailed reason)
  | .respond request => do
    let (_,outcome) ← s.returned.find? (·.1 = request)
    return { s with
      seen := evict s.seen
      returned := s.returned.filter (·.1 ≠ request)
      responses := s.responses ++ [(request,.outcome outcome)] }

end Server

end Thermometer.Frontend
