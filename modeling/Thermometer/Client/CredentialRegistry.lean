import Thermometer.Client.MacAddress
import Thermometer.Client.Protocol
import Thermometer.Lib.OrderedMap
import Thermometer.Lib.Csv
import Mathlib.Data.String.Basic

-- credential_registry.py: the records in memory and the file that they are written to.
namespace Thermometer.Client.Registry
open Protocol (validatePasskey)

-- `datetime`, with `fromisoformat` as the inverse of `isoformat` for aware values.
structure Datetimes (τ : Type) where
  aware : τ → Bool
  isoformat : τ → String
  fromisoformat : String → Option τ
  inverts : ∀ t, aware t = true → fromisoformat (isoformat t) = some t

-- The csv module: its reader inverts its writer.
structure CsvModule where
  writer : List (List String) → String
  reader : String → List (List String)
  inverts : ∀ rows, reader (writer rows) = rows

structure DeviceCredential (τ : Type) where
  macAddress : String
  deviceName : String
  pairingPasskey : String
  enrolledAtUtc : τ
  lastConnectedAtUtc : τ
  deriving DecidableEq

abbrev Records (τ : Type) := List (String × DeviceCredential τ)

-- The registry's directory. Temporary files are named one after another.
structure Files where
  registry : Option String
  temporaries : List (Nat × String)
  created : Nat

structure CredentialRegistry (τ : Type) where
  files : Files
  records : Records τ

inductive RegistryError where
  | valueError (message : String)
  | osError
  deriving DecidableEq

variable {τ : Type} (u : Unicode) (csv : CsvModule) (datetimes : Datetimes τ)

def csvFields : List String := ["mac_address","device_name","pairing_passkey","enrolled_at_utc","last_connected_at_utc"]

def get (records : Records τ) (address : String) : Option (DeviceCredential τ) := (records.find? (·.1 = address)).map (·.2)

-- `sorted(records)`
def sortedRecords (records : Records τ) : Records τ := records.mergeSort fun left right => left.1 ≤ right.1

def listAll (r : CredentialRegistry τ) : List (DeviceCredential τ) := (sortedRecords r.records).map (·.2)

def lookup (r : CredentialRegistry τ) (address : String) : Except String (Option (DeviceCredential τ)) := do
  return get r.records (← normalizeMacAddress u address)

def csvRow (record : DeviceCredential τ) : List String :=
  [record.macAddress,record.deviceName,record.pairingPasskey,datetimes.isoformat record.enrolledAtUtc,
    datetimes.isoformat record.lastConnectedAtUtc]

def serialise (records : Records τ) : String :=
  csv.writer (csvFields :: (sortedRecords records).map fun entry => csvRow datetimes entry.2)

-- Where writing raises. A failing write or flush has written some of the text.
inductive WriteFailure where
  | parent
  | create
  | write (written : String)
  | flush (written : String)
  | sync
  | permission
  | replace
  deriving DecidableEq

namespace Files

def createTemporary (files : Files) : Files :=
  { files with temporaries := files.temporaries ++ [(files.created,"")], created := files.created + 1 }

def write (files : Files) (name : Nat) (text : String) : Files :=
  { files with temporaries := files.temporaries.map fun file => if file.1 = name then (name,text) else file }

-- `os.unlink`, where a missing file is no error.
def unlink (files : Files) (name : Nat) : Files :=
  { files with temporaries := files.temporaries.filter (·.1 ≠ name) }

-- `os.replace` takes effect as a whole.
def replace (files : Files) (name : Nat) : Files :=
  match files.temporaries.find? (·.1 = name) with
  | some file => { files.unlink name with registry := some file.2 }
  | none => files

end Files

def writeTemporary (failure : Option WriteFailure) (text : String) (name : Nat) (files : Files) : Except Files Files := do
  let files ←
    match failure with
    | some (.write written) | some (.flush written) => .error (files.write name written)
    | _ => .ok (files.write name text)
  if failure = some .sync then .error files
  else if failure = some .permission then .error files
  else if failure = some .replace then .error files
  else return files.replace name

-- The `finally`; after the replacement there is nothing to remove.
def cleanUp (name : Nat) : Except Files Files → Except Files Files
  | .error files => .error (files.unlink name)
  | .ok files => .ok files

def writeAll (failure : Option WriteFailure) (text : String) (files : Files) : Except Files Files :=
  if failure = some .parent ∨ failure = some .create then .error files
  else cleanUp files.created (writeTemporary failure text files.created files.createTemporary)

-- `validate_passkey`, whose errors are ValueErrors.
def checkedPasskey (passkey : String) : Except String String :=
  match validatePasskey passkey with
  | .ok passkey => .ok passkey
  | .error _ => .error "passkey must contain exactly six ASCII digits"

-- The order of the last two assignments: a failing write leaves the records in memory.
def store (failure : Option WriteFailure) (updated : Records τ) (result : α) (r : CredentialRegistry τ) :
    Except RegistryError α × CredentialRegistry τ :=
  match writeAll failure (serialise csv datetimes updated) r.files with
  | .error files => (.error .osError,{ r with files := files })
  | .ok files => (.ok result,⟨files,updated⟩)

def saveVerified (now : τ) (failure : Option WriteFailure) (r : CredentialRegistry τ) (address deviceName passkey : String)
    (connectedAtUtc : Option τ) : Except RegistryError (DeviceCredential τ) × CredentialRegistry τ :=
  match normalizeMacAddress u address with
  | .error message => (.error (.valueError message),r)
  | .ok normalized =>
    match checkedPasskey passkey with
    | .error message => (.error (.valueError message),r)
    | .ok credential =>
      let observedAt := connectedAtUtc.getD now
      if !datetimes.aware observedAt then (.error (.valueError "connected_at_utc must be timezone-aware"),r)
      else
        let record : DeviceCredential τ :=
          { macAddress := normalized
            deviceName := deviceName
            pairingPasskey := credential
            enrolledAtUtc := ((get r.records normalized).map (·.enrolledAtUtc)).getD observedAt
            lastConnectedAtUtc := observedAt }
        store csv datetimes failure (OrderedMap.assign r.records normalized record) record r

def without (records : Records τ) (address : String) : Records τ := records.filter (·.1 ≠ address)

def delete (failure : Option WriteFailure) (r : CredentialRegistry τ) (address : String) :
    Except RegistryError Bool × CredentialRegistry τ :=
  match normalizeMacAddress u address with
  | .error message => (.error (.valueError message),r)
  | .ok normalized =>
    if (get r.records normalized).isSome then
      store csv datetimes failure (without r.records normalized) true r
    else (.ok false,r)

def timestamp (text : String) : Option τ := (datetimes.fromisoformat text).filter datetimes.aware

-- One row of the DictReader. A missing field is None, which no check takes.
def readRow (row : List String) : Option (DeviceCredential τ) :=
  match row with
  | macAddress :: deviceName :: passkey :: enrolledAtUtc :: lastConnectedAtUtc :: _ => do
    let normalized ← (normalizeMacAddress u macAddress).toOption
    let passkey ← (checkedPasskey passkey).toOption
    return ⟨normalized,deviceName,passkey,← timestamp datetimes enrolledAtUtc,← timestamp datetimes lastConnectedAtUtc⟩
  | _ => none

def readRows : Nat → Records τ → List (List String) → Except RegistryError (Records τ)
  | _,records,[] => .ok records
  | rowNumber,records,row :: rest =>
    match readRow u datetimes row with
    | none => .error (.valueError s!"credential registry row {rowNumber} is invalid")
    | some record => readRows (rowNumber + 1) (OrderedMap.assign records record.macAddress record) rest

-- A DictReader passes over empty rows, except for the first.
def readAll (path : String) (files : Files) : Except RegistryError (Records τ) :=
  match files.registry with
  | none => .ok []
  | some text =>
    let rows := csv.reader text
    if rows.head?.getD [] ≠ csvFields then .error (.valueError s!"credential registry has an invalid header: {path}")
    else readRows u datetimes 2 [] (rows.tail.filter (· ≠ []))

structure Stored (entry : String × DeviceCredential τ) : Prop where
  key : entry.2.macAddress = entry.1
  normalized : normalizeMacAddress u entry.1 = .ok entry.1
  passkey : checkedPasskey entry.2.pairingPasskey = .ok entry.2.pairingPasskey
  enrolled : datetimes.aware entry.2.enrolledAtUtc = true
  connected : datetimes.aware entry.2.lastConnectedAtUtc = true

structure Consistent (r : CredentialRegistry τ) : Prop where
  distinct : (r.records.map Prod.fst).Nodup
  stored : ∀ entry ∈ r.records, Stored u datetimes entry
  agrees : r.files.registry = some (serialise csv datetimes r.records) ∨ (r.files.registry = none ∧ r.records = [])
  clean : r.files.temporaries = []

def fresh : CredentialRegistry τ := ⟨⟨none,[],0⟩,[]⟩

theorem fresh_consistent : Consistent u csv datetimes (fresh : CredentialRegistry τ) :=
  ⟨List.nodup_nil,nofun,.inr ⟨rfl,rfl⟩,rfl⟩

variable {u csv datetimes}

theorem writeTemporary_cases (text : String) {files : Files} (name : Nat) (held : files.temporaries = [(name,"")])
    (failure : Option WriteFailure) :
    (writeTemporary failure text name files = .ok { files with registry := some text, temporaries := [] }) ∨
    ∃ written, writeTemporary failure text name files = .error { files with temporaries := [(name,written)] } := by
  have wrote (written : String) : files.write name written = { files with temporaries := [(name,written)] } := by
    simp [Files.write,held]
  have replaced : ({ files with temporaries := [(name,text)] } : Files).replace name =
      { files with registry := some text, temporaries := [] } := by
    simp [Files.replace,Files.unlink]
  match failure with
  | none | some .parent | some .create => exact .inl (by simp [writeTemporary,wrote,replaced,bind,Except.bind,pure,Except.pure])
  | some (.write written) | some (.flush written) => exact .inr ⟨written,by simp [writeTemporary,wrote,bind,Except.bind]⟩
  | some .sync | some .permission | some .replace => exact .inr ⟨text,by simp [writeTemporary,wrote,bind,Except.bind]⟩

theorem writeAll_cases {files : Files} (clean : files.temporaries = []) (failure : Option WriteFailure) (text : String) :
    (∃ later, writeAll failure text files = .ok later ∧ later.registry = some text ∧ later.temporaries = []) ∨
    ∃ later, writeAll failure text files = .error later ∧ later.registry = files.registry ∧ later.temporaries = [] := by
  unfold writeAll
  split
  · exact .inr ⟨files,rfl,rfl,clean⟩
  · have held : files.createTemporary.temporaries = [(files.created,"")] := by simp [Files.createTemporary,clean]
    rcases writeTemporary_cases text files.created held failure with ran | ⟨written,raised⟩
    · rw [ran]
      exact .inl ⟨_,rfl,rfl,rfl⟩
    · rw [raised]
      exact .inr ⟨_,rfl,rfl,by simp [Files.unlink]⟩

variable {r next : CredentialRegistry τ} {updated : Records τ}

def Untouched (r next : CredentialRegistry τ) : Prop := next.files.registry = r.files.registry ∧ next.records = r.records

theorem Consistent.untouched (consistent : Consistent u csv datetimes r) (same : Untouched r next)
    (clean : next.files.temporaries = []) : Consistent u csv datetimes next := by
  obtain ⟨file,records⟩ := same
  refine ⟨?_,?_,?_,clean⟩
  · rw [records]
    exact consistent.distinct
  · rw [records]
    exact consistent.stored
  · rw [file,records]
    exact consistent.agrees

def Settles (u : Unicode) (csv : CsvModule) (datetimes : Datetimes τ) (r : CredentialRegistry τ)
    (outcome : Except RegistryError α × CredentialRegistry τ) : Prop :=
  Consistent u csv datetimes outcome.2 ∧ ∀ error, outcome.1 = .error error → Untouched r outcome.2

theorem Settles.refused (consistent : Consistent u csv datetimes r) (outcome : Except RegistryError α) :
    Settles u csv datetimes r (outcome,r) := ⟨consistent,fun _ _ => ⟨rfl,rfl⟩⟩

theorem store_settles (consistent : Consistent u csv datetimes r) (distinct : (updated.map Prod.fst).Nodup)
    (stored : ∀ entry ∈ updated, Stored u datetimes entry) (failure : Option WriteFailure) (result : α) :
    Settles u csv datetimes r (store csv datetimes failure updated result r) := by
  unfold store
  rcases writeAll_cases consistent.clean failure (serialise csv datetimes updated) with
    ⟨later,ran,file,clean⟩ | ⟨later,raised,file,clean⟩
  · rw [ran]
    exact ⟨⟨distinct,stored,.inl file,clean⟩,nofun⟩
  · rw [raised]
    exact ⟨consistent.untouched ⟨file,rfl⟩ clean,fun _ _ => ⟨file,rfl⟩⟩

theorem get_stored (consistent : Consistent u csv datetimes r) (held : get r.records address = some record) :
    Stored u datetimes (address,record) := by
  obtain ⟨entry,found,rfl⟩ := Option.map_eq_some_iff.mp held
  have named : entry.1 = address := by simpa using List.find?_some found
  rw [← named]
  exact consistent.stored entry (List.mem_of_find?_eq_some found)

theorem checkedPasskey_same (checked : checkedPasskey passkey = .ok credential) :
    checkedPasskey credential = .ok credential := by
  have same : credential = passkey := by
    unfold checkedPasskey validatePasskey at checked
    by_cases refused : passkey.length ≠ 6 ∨ !passkey.toList.all (·.toNat < 128) ∨ !passkey.toList.all Char.isDigit
    · rw [if_pos refused] at checked
      cases checked
    · rw [if_neg refused] at checked
      exact (Except.ok.inj checked).symm
  exact same ▸ same ▸ checked

theorem saveVerified_settles (consistent : Consistent u csv datetimes r) (now : τ) (failure : Option WriteFailure)
    (address deviceName passkey : String) (connectedAtUtc : Option τ) :
    Settles u csv datetimes r (saveVerified u csv datetimes now failure r address deviceName passkey connectedAtUtc) := by
  unfold saveVerified
  split
  · exact .refused consistent _
  · rename_i normalized named
    split
    · exact .refused consistent _
    · rename_i credential checked
      dsimp only
      split
      · exact .refused consistent _
      · rename_i aware
        rw [Bool.not_eq_true,Bool.not_eq_false'] at aware
        apply store_settles consistent (OrderedMap.assign_nodup consistent.distinct)
        intro entry member
        rcases OrderedMap.mem_assign member with rfl | old
        · refine ⟨rfl,normalizeMacAddress_idempotent named,checkedPasskey_same checked,?_,aware⟩
          -- A device that is known keeps the time of its first enrolment.
          cases known : get r.records normalized with
          | none => exact aware
          | some record => exact (get_stored consistent known).enrolled
        · exact consistent.stored entry old

theorem delete_settles (consistent : Consistent u csv datetimes r) (failure : Option WriteFailure) (address : String) :
    Settles u csv datetimes r (delete u csv datetimes failure r address) := by
  unfold delete
  split
  · exact .refused consistent _
  · split
    · apply store_settles consistent
      · exact consistent.distinct.sublist (List.filter_sublist.map _)
      · exact fun entry member => consistent.stored entry (List.mem_filter.mp member).1
    · exact .refused consistent _

theorem timestamp_isoformat {t : τ} (aware : datetimes.aware t = true) : timestamp datetimes (datetimes.isoformat t) = some t := by
  rw [timestamp,datetimes.inverts t aware]
  exact Option.filter_some_pos aware

theorem readRow_csvRow {entry : String × DeviceCredential τ} (stored : Stored u datetimes entry) :
    readRow u datetimes (csvRow datetimes entry.2) = some entry.2 := by
  have normalized := stored.normalized
  rw [← stored.key] at normalized
  simp [readRow,csvRow,normalized,stored.passkey,timestamp_isoformat stored.enrolled,timestamp_isoformat stored.connected,
    Except.toOption]

theorem readRows_stored {entries records : Records τ} (stored : ∀ entry ∈ entries, Stored u datetimes entry) (rowNumber : Nat) :
    readRows u datetimes rowNumber records (entries.map fun entry => csvRow datetimes entry.2) =
      .ok (OrderedMap.assignAll records entries) := by
  induction entries generalizing records rowNumber with
  | nil => rfl
  | cons entry rest ih =>
    have here := stored entry List.mem_cons_self
    rw [List.map_cons,readRows,readRow_csvRow here]
    dsimp only
    rw [here.key]
    exact ih (fun other member => stored other (List.mem_cons_of_mem _ member)) _

theorem sortedRecords_perm (records : Records τ) : (sortedRecords records).Perm records := List.mergeSort_perm _ _

theorem readAll_serialise {files : Files} {records : Records τ} (distinct : (records.map Prod.fst).Nodup)
    (stored : ∀ entry ∈ records, Stored u datetimes entry) (written : files.registry = some (serialise csv datetimes records))
    (path : String) : readAll u csv datetimes path files = .ok (sortedRecords records) := by
  have perm := sortedRecords_perm records
  have sorted : ∀ entry ∈ sortedRecords records, Stored u datetimes entry := fun entry member =>
    stored entry (perm.mem_iff.mp member)
  have keys : ((sortedRecords records).map Prod.fst).Nodup := (perm.map _).nodup_iff.mpr distinct
  have filled : ((sortedRecords records).map fun entry => csvRow datetimes entry.2).filter (· ≠ []) =
      (sortedRecords records).map fun entry => csvRow datetimes entry.2 := by
    apply List.filter_eq_self.mpr
    intro row member
    obtain ⟨entry,_,rfl⟩ := List.mem_map.mp member
    rfl
  unfold readAll
  rw [written]
  dsimp only
  rw [serialise,csv.inverts,List.head?_cons,Option.getD_some,if_neg (not_not.mpr rfl),List.tail_cons,filled,
    readRows_stored sorted,OrderedMap.assignAll_fresh keys (fun _ _ => List.not_mem_nil),List.nil_append]

theorem Consistent.readAll (consistent : Consistent u csv datetimes r) (path : String) :
    ∃ records, readAll u csv datetimes path r.files = .ok records ∧ records.Perm r.records := by
  rcases consistent.agrees with written | ⟨missing,empty⟩
  · exact ⟨_,readAll_serialise consistent.distinct consistent.stored written path,sortedRecords_perm _⟩
  · refine ⟨[],?_,by rw [empty]⟩
    rw [Registry.readAll,missing]

inductive Call (τ : Type) where
  | saveVerified (address deviceName passkey : String) (connectedAtUtc : Option τ) (now : τ) (failure : Option WriteFailure)
  | delete (address : String) (failure : Option WriteFailure)

def Call.perform (u : Unicode) (csv : CsvModule) (datetimes : Datetimes τ) (r : CredentialRegistry τ) :
    Call τ → Except RegistryError Unit × CredentialRegistry τ
  | .saveVerified address deviceName passkey connectedAtUtc now failure =>
    let (outcome,next) := Registry.saveVerified u csv datetimes now failure r address deviceName passkey connectedAtUtc
    (outcome.map fun _ => (),next)
  | .delete address failure =>
    let (outcome,next) := Registry.delete u csv datetimes failure r address
    (outcome.map fun _ => (),next)

def performAll (u : Unicode) (csv : CsvModule) (datetimes : Datetimes τ) (r : CredentialRegistry τ) (calls : List (Call τ)) :
    CredentialRegistry τ := calls.foldl (fun r call => (call.perform u csv datetimes r).2) r

theorem Settles.forget {outcome : Except RegistryError α × CredentialRegistry τ} (settles : Settles u csv datetimes r outcome) :
    Settles u csv datetimes r (outcome.1.map fun _ => (),outcome.2) := by
  obtain ⟨result,next⟩ := outcome
  refine ⟨settles.1,fun error raised => ?_⟩
  cases result with
  | ok value => cases raised
  | error other => exact settles.2 other rfl

theorem perform_settles (consistent : Consistent u csv datetimes r) (call : Call τ) :
    Settles u csv datetimes r (call.perform u csv datetimes r) := by
  cases call with
  | saveVerified address deviceName passkey connectedAtUtc now failure =>
    exact (saveVerified_settles consistent now failure address deviceName passkey connectedAtUtc).forget
  | delete address failure => exact (delete_settles consistent failure address).forget

theorem performAll_consistent (consistent : Consistent u csv datetimes r) (calls : List (Call τ)) :
    Consistent u csv datetimes (performAll u csv datetimes r calls) := by
  induction calls generalizing r with
  | nil => exact consistent
  | cons call rest ih => exact ih (perform_settles consistent call).1

-- After any calls, failing or not, file and memory agree, no temporary file is there, a new
-- registry reads the same records, and a further call that raises changes neither.
theorem registry_atomic (u : Unicode) (csv : CsvModule) (datetimes : Datetimes τ) (path : String) (r : CredentialRegistry τ)
    (consistent : Consistent u csv datetimes r) (calls : List (Call τ)) :
    let s := performAll u csv datetimes r calls
    (s.files.registry = some (serialise csv datetimes s.records) ∨ (s.files.registry = none ∧ s.records = [])) ∧
    s.files.temporaries = [] ∧
    (∃ records, readAll u csv datetimes path s.files = .ok records ∧ records.Perm s.records) ∧
    ∀ (call : Call τ) (error : RegistryError), (call.perform u csv datetimes s).1 = .error error →
      Untouched s (call.perform u csv datetimes s).2 := by
  have reached := performAll_consistent consistent calls
  exact ⟨reached.agrees,reached.clean,reached.readAll path,fun call => (perform_settles reached call).2⟩

def excel : CsvModule := ⟨Csv.writer,Csv.reader,Csv.reader_writer⟩

def instant : Datetimes Unit where
  aware _ := true
  isoformat _ := "2026-01-02T00:00:00+00:00"
  fromisoformat text := if text = "2026-01-02T00:00:00+00:00" then some () else none
  inverts _ _ := if_pos rfl

-- A name with a comma, a quote and a newline is saved; a deletion then fails at the replacement.
theorem registry_atomic_quoted :
    let calls : List (Call Unit) :=
      [.saveVerified "aa:bb:cc:dd:ee:ff" "a, \"b\"\n" "123456" none () none,.delete "AABBCCDDEEFF" (some .replace)]
    let s := performAll asciiArabic excel instant fresh calls
    s.records ≠ [] ∧
    ((s.files.registry = some (serialise excel instant s.records) ∨ (s.files.registry = none ∧ s.records = [])) ∧
    s.files.temporaries = [] ∧
    (∃ records, readAll asciiArabic excel instant "" s.files = .ok records ∧ records.Perm s.records) ∧
    ∀ (call : Call Unit) (error : RegistryError), (call.perform asciiArabic excel instant s).1 = .error error →
      Untouched s (call.perform asciiArabic excel instant s).2) :=
  ⟨by decide +kernel,registry_atomic _ _ _ "" _ (fresh_consistent _ _ _) _⟩

end Thermometer.Client.Registry
