import Mathlib.Data.List.DropRight
import Mathlib.Data.Nat.Digits.Defs
import Mathlib.Order.Monotone.Basic
import Thermometer.Lib.Decimal

-- alertConfig.ts over the alert tables of schema.sql. A threshold is the decimal that its
-- number prints; texts are sequences of Unicode characters.
namespace Thermometer.Frontend
open Decimal

-- White space of String.prototype.trim and of \s.
def isSpace (c : Char) : Bool :=
  let code := c.toNat
  (9 ≤ code && code ≤ 13) || code == 0x20 || code == 0xA0 || code == 0x1680 || (0x2000 ≤ code && code ≤ 0x200A) ||
    code == 0x2028 || code == 0x2029 || code == 0x202F || code == 0x205F || code == 0x3000 || code == 0xFEFF

def trim (text : String) : String := String.ofList ((text.toList.dropWhile isSpace).rdropWhile isSpace)

-- String.prototype.length counts UTF-16 units.
def utf16Length (text : String) : Nat := (text.toList.map fun c => if c.toNat < 0x10000 then 1 else 2).sum

-- String.prototype.toLowerCase. What is lower case stays, and no space comes or goes at an end.
structure LowerCase where
  toLowerCase : String → String
  settled : ∀ text, toLowerCase (toLowerCase text) = toLowerCase text
  spaces : ∀ text, trim text = text → trim (toLowerCase text) = toLowerCase text

-- EMAIL: nothing but `[^\s@]` around one `@`, and a dot inside what follows it.
def isEmail (text : String) : Bool :=
  let named := text.toList.takeWhile (· ≠ '@')
  let host := (text.toList.dropWhile (· ≠ '@')).drop 1
  named ≠ [] && named.all (!isSpace ·) && host.all (fun c => !isSpace c && c ≠ '@') && (host.drop 1).dropLast.contains '.'

structure PersistedRecipient where
  id : String
  destination : String
  enabled : Bool
  minC : Rat
  maxC : Rat
  minMessage : String
  maxMessage : String
  deriving DecidableEq

structure PersistedAlertConfig where
  enabled : Bool
  recipients : List PersistedRecipient
  deriving DecidableEq

namespace LowerCase

variable (js : LowerCase)

def normal (destination : String) : String := js.toLowerCase (trim destination)

def shortText (text : String) : Prop := 1 ≤ utf16Length text ∧ utf16Length text ≤ 255

instance : Decidable (shortText text) := inferInstanceAs (Decidable (_ ∧ _))

structure Accepted (recipient : PersistedRecipient) : Prop where
  id : shortText recipient.id
  destination : isEmail (js.normal recipient.destination)
  minC : -55 ≤ recipient.minC ∧ recipient.minC ≤ 125
  maxC : -55 ≤ recipient.maxC ∧ recipient.maxC ≤ 125
  minMessage : shortText recipient.minMessage
  maxMessage : shortText recipient.maxMessage
  below : recipient.minC < recipient.maxC

theorem accepted_iff (recipient : PersistedRecipient) : js.Accepted recipient ↔
    shortText recipient.id ∧ isEmail (js.normal recipient.destination) ∧ (-55 ≤ recipient.minC ∧ recipient.minC ≤ 125) ∧
      (-55 ≤ recipient.maxC ∧ recipient.maxC ≤ 125) ∧ shortText recipient.minMessage ∧ shortText recipient.maxMessage ∧
      recipient.minC < recipient.maxC :=
  ⟨fun h => ⟨h.id,h.destination,h.minC,h.maxC,h.minMessage,h.maxMessage,h.below⟩,
    fun ⟨id,destination,minC,maxC,minMessage,maxMessage,below⟩ =>
      ⟨id,destination,minC,maxC,minMessage,maxMessage,below⟩⟩

instance (recipient : PersistedRecipient) : Decidable (js.Accepted recipient) :=
  decidable_of_iff _ (js.accepted_iff recipient).symm

def normalRecipient (recipient : PersistedRecipient) : PersistedRecipient :=
  { recipient with destination := js.normal recipient.destination }

def parseRecipient (recipient : PersistedRecipient) : Option PersistedRecipient :=
  if js.Accepted recipient then some (js.normalRecipient recipient) else none

-- PersistedAlertConfigSchema.parse; `none` for the ZodError.
def parse (config : PersistedAlertConfig) : Option PersistedAlertConfig := do
  let recipients ← config.recipients.mapM js.parseRecipient
  if recipients.length ≤ 25 ∧ (recipients.map (·.destination)).Nodup then
    return { config with recipients := recipients }
  else none

end LowerCase

-- The rows that the statements name. Decimal columns hold hundredths; `type` has one value.
inductive MonitoredSeries where
  | sensor1
  | sensor2
  deriving DecidableEq

structure RecipientRow where
  id : Nat
  address : String
  enabled : Bool
  deriving DecidableEq

structure RuleRow where
  id : Nat
  minThreshold : Int
  maxThreshold : Int
  highTempMessage : String
  lowTempMessage : String
  monitoredSeries : MonitoredSeries
  enabled : Bool
  deriving DecidableEq

structure LinkRow where
  alertRuleId : Nat
  alertRecipientId : Nat
  deriving DecidableEq

-- `settings` is the `enabled` of the row with id 1.
structure AlertTables where
  settings : Option Bool
  recipients : List RecipientRow
  rules : List RuleRow
  links : List LinkRow
  deriving DecidableEq

namespace AlertTables

variable (t : AlertTables)

def joined : List (RecipientRow × RuleRow) :=
  t.recipients.flatMap fun recipient =>
    (t.links.filter (·.alertRecipientId = recipient.id)).flatMap fun link =>
      (t.rules.filter (·.id = link.alertRuleId)).map (recipient,·)

-- ORDER BY recipient.id ASC, rule.id ASC.
def ordered (a b : RecipientRow × RuleRow) : Bool := a.1.id < b.1.id || (a.1.id == b.1.id && a.2.id ≤ b.2.id)

end AlertTables

def persistedId (recipientId : Nat) : String := "recipient-" ++ Nat.repr recipientId

def celsius (hundredths : Int) : Rat := hundredths / 100

def rowRecipient (row : RecipientRow × RuleRow) : PersistedRecipient := {
  id := persistedId row.1.id
  destination := row.1.address
  enabled := row.1.enabled
  minC := celsius row.2.minThreshold
  maxC := celsius row.2.maxThreshold
  minMessage := row.2.lowTempMessage
  maxMessage := row.2.highTempMessage }

def enterRow (byRecipient : List PersistedRecipient) (row : RecipientRow × RuleRow) : List PersistedRecipient :=
  if byRecipient.any (·.id = persistedId row.1.id) then byRecipient else byRecipient ++ [rowRecipient row]

def load (js : LowerCase) (t : AlertTables) : Option PersistedAlertConfig :=
  js.parse {
    enabled := t.settings.getD true
    recipients := (t.joined.mergeSort AlertTables.ordered).foldl enterRow [] }

-- MySQL during one `save`: the statement it reports an error for, counted from
-- beginTransaction, and the ids it gives to the rows of each table, which the driver
-- reads exactly.
structure Mysql where
  fault : Option Nat
  recipientId : Nat → Nat
  ruleId : Nat → Nat
  recipientIds : StrictMono recipientId
  ruleIds : StrictMono ruleId
  exactIds : ∀ row < 25, recipientId row < 2 ^ 53

structure Session where
  tables : AlertTables
  statements : Nat

def column (value : Rat) : Int := roundHalfAway (value * 100)

namespace Mysql

variable (mysql : Mysql)

def statement (effect : StateT AlertTables Option α) : StateT Session Option α := fun session =>
  if mysql.fault = some session.statements then none
  else (effect session.tables).map fun (value,tables) => (value,⟨tables,session.statements + 1⟩)

def enableSettings (enabled : Bool) : StateT AlertTables Option Unit := fun t => some ((),{ t with settings := some enabled })

def deleteLinks : StateT AlertTables Option Unit := fun t => some ((),{ t with links := [] })

def deleteRules : StateT AlertTables Option Unit := fun t => some ((),{ t with rules := [],links := [] })

def deleteRecipients : StateT AlertTables Option Unit := fun t => some ((),{ t with recipients := [],links := [] })

def insertRecipient (address : String) (enabled : Bool) : StateT AlertTables Option Nat := fun t =>
  let id := mysql.recipientId t.recipients.length
  if address.length ≤ 255 then some (id,{ t with recipients := t.recipients ++ [⟨id,address,enabled⟩] }) else none

def insertRule (minThreshold maxThreshold : Rat) (highTempMessage lowTempMessage : String)
    (monitoredSeries : MonitoredSeries) (enabled : Bool) : StateT AlertTables Option Nat := fun t =>
  let id := mysql.ruleId t.rules.length
  let row : RuleRow := ⟨id,column minThreshold,column maxThreshold,highTempMessage,lowTempMessage,monitoredSeries,enabled⟩
  if (column minThreshold).natAbs ≤ 99999 ∧ (column maxThreshold).natAbs ≤ 99999 ∧
      highTempMessage.length ≤ 255 ∧ lowTempMessage.length ≤ 255 then
    some (id,{ t with rules := t.rules ++ [row] })
  else none

def insertLink (alertRuleId alertRecipientId : Nat) : StateT AlertTables Option Unit := fun t =>
  if t.rules.any (·.id = alertRuleId) ∧ t.recipients.any (·.id = alertRecipientId) ∧ ⟨alertRuleId,alertRecipientId⟩ ∉ t.links then
    some ((),{ t with links := t.links ++ [⟨alertRuleId,alertRecipientId⟩] })
  else none

def saveRule (recipient : PersistedRecipient) (recipientId : Nat) (source : MonitoredSeries) : StateT Session Option Unit := do
  let ruleId ← mysql.statement (mysql.insertRule recipient.minC recipient.maxC recipient.maxMessage recipient.minMessage
    source recipient.enabled)
  mysql.statement (insertLink ruleId recipientId)

def saveRecipient (recipient : PersistedRecipient) : StateT Session Option Unit := do
  let recipientId ← mysql.statement (mysql.insertRecipient recipient.destination recipient.enabled)
  [MonitoredSeries.sensor1,.sensor2].forM (mysql.saveRule recipient recipientId)

def transaction (valid : PersistedAlertConfig) : StateT Session Option Unit := do
  mysql.statement (pure ())
  mysql.statement deleteLinks
  mysql.statement deleteRules
  mysql.statement deleteRecipients
  mysql.statement (enableSettings valid.enabled)
  valid.recipients.forM mysql.saveRecipient
  mysql.statement (pure ())

end Mysql

-- The tables afterwards and whether `save` succeeded. An error inside rolls the transaction back.
def save (js : LowerCase) (mysql : Mysql) (t : AlertTables) (config : PersistedAlertConfig) : AlertTables × Bool :=
  match js.parse config with
  | none => (t,false)
  | some valid =>
    match mysql.transaction valid ⟨t,0⟩ with
    | some (_,session) => (session.tables,true)
    | none => (t,false)

end Thermometer.Frontend
