import Thermometer.Client.CredentialRegistry
import Thermometer.Lib.Texts

-- pairing_reset.py: every enrolled thermometer is unpaired and its credential deleted.
namespace Thermometer.Client.PairingReset
open Registry
open Texts (strip)

variable {τ : Type} (u : Unicode) (csv : CsvModule) (datetimes : Datetimes τ)

-- What unpairing raised: `str(exc)` and the name of its type.
structure Raised where
  text : String
  typeName : String

-- `await remove(address)`, none where the bond is removed.
abbrev ForgetDevice := String → Option Raised

inductive ResetError where
  | registry (error : RegistryError)
  | runtimeError (message : String)

def failure (record : DeviceCredential τ) (raised : Raised) : String :=
  let detail := if strip raised.text = "" then raised.typeName else strip raised.text
  s!"{record.deviceName} ({record.macAddress}): {detail}"

-- Between two statements of the loop. `removed` are the addresses whose bonds are gone.
structure Moment (τ : Type) where
  registry : CredentialRegistry τ
  attempted : List String
  removed : List String
  failures : List String

structure Run (τ : Type) where
  passed : List (Moment τ)
  last : Moment τ
  error : Option RegistryError

def Moment.unpaired (m : Moment τ) (record : DeviceCredential τ) : Moment τ :=
  { m with attempted := m.attempted ++ [record.macAddress], removed := m.removed ++ [record.macAddress] }

def Moment.refused (m : Moment τ) (record : DeviceCredential τ) (raised : Raised) : Moment τ :=
  { m with attempted := m.attempted ++ [record.macAddress], failures := m.failures ++ [failure record raised] }

-- `writing` tells where the write of a deletion raises; nothing in the loop catches that.
def resetLoop (forget : ForgetDevice) (writing : String → Option WriteFailure) : List (DeviceCredential τ) → Moment τ → Run τ
  | [],m => ⟨[m],m,none⟩
  | record :: rest,m =>
    match forget record.macAddress with
    | some raised =>
      let run := resetLoop forget writing rest (m.refused record raised)
      { run with passed := m :: run.passed }
    | none =>
      let unpaired := m.unpaired record
      match delete u csv datetimes (writing record.macAddress) unpaired.registry record.macAddress with
      | (.error error,registry) => ⟨[m,unpaired,{ unpaired with registry := registry }],{ unpaired with registry := registry },error⟩
      | (.ok _,registry) =>
        let run := resetLoop forget writing rest { unpaired with registry := registry }
        { run with passed := m :: unpaired :: run.passed }

def resetAllPairings (forget : ForgetDevice) (writing : String → Option WriteFailure) (r : CredentialRegistry τ) :
    Run τ × Except ResetError (List (DeviceCredential τ)) :=
  let records := listAll r
  let run := resetLoop u csv datetimes forget writing records ⟨r,[],[],[]⟩
  match run.error with
  | some error => (run,.error (.registry error))
  | none =>
    if run.last.failures ≠ [] then
      (run,.error (.runtimeError ("could not remove every thermometer bond:\n- " ++ "\n- ".intercalate run.last.failures)))
    else (run,.ok records)

def OnFile (path : String) (r : CredentialRegistry τ) : Prop :=
  ∃ records, readAll u csv datetimes path r.files = .ok records ∧ records.Perm r.records

structure Opened (path : String) (r : CredentialRegistry τ) : Prop where
  distinct : (r.records.map Prod.fst).Nodup
  stored : ∀ entry ∈ r.records, Stored u datetimes entry
  onFile : OnFile u csv datetimes path r

variable {u csv datetimes} {path : String} {r next : CredentialRegistry τ}

theorem timestamp_aware {t : τ} (read : Registry.timestamp datetimes text = some t) : datetimes.aware t = true :=
  (Option.filter_eq_some_iff.mp read).2

theorem normalizeMacAddress_again (named : (normalizeMacAddress u address).toOption = some normalized) :
    normalizeMacAddress u normalized = .ok normalized := by
  cases outcome : normalizeMacAddress u address with
  | error message =>
    rw [outcome] at named
    cases named
  | ok result =>
    rw [outcome] at named
    cases named
    exact normalizeMacAddress_idempotent outcome

theorem checkedPasskey_again (checked : (checkedPasskey passkey).toOption = some credential) :
    checkedPasskey credential = .ok credential := by
  cases outcome : checkedPasskey passkey with
  | error message =>
    rw [outcome] at checked
    cases checked
  | ok result =>
    rw [outcome] at checked
    cases checked
    exact checkedPasskey_same outcome

theorem readRow_stored {record : DeviceCredential τ} (read : readRow u datetimes row = some record) :
    Stored u datetimes (record.macAddress,record) := by
  unfold readRow at read
  split at read
  · rename_i macAddress deviceName passkey enrolledAtUtc lastConnectedAtUtc rest
    simp only [bind,Option.bind_eq_some_iff,pure,Option.some.injEq] at read
    obtain ⟨normalized,named,credential,checked,enrolled,first,connected,last,rfl⟩ := read
    exact ⟨rfl,normalizeMacAddress_again named,checkedPasskey_again checked,timestamp_aware first,timestamp_aware last⟩
  · cases read

theorem readRows_kept {records entries : Records τ} (distinct : (records.map Prod.fst).Nodup)
    (stored : ∀ entry ∈ records, Stored u datetimes entry)
    (read : readRows u datetimes rowNumber records rows = .ok entries) :
    (entries.map Prod.fst).Nodup ∧ ∀ entry ∈ entries, Stored u datetimes entry := by
  induction rows generalizing records rowNumber with
  | nil =>
    cases read
    exact ⟨distinct,stored⟩
  | cons row rest ih =>
    unfold readRows at read
    split at read
    · cases read
    · rename_i record taken
      refine ih (OrderedMap.assign_nodup distinct) ?_ read
      intro entry member
      rcases OrderedMap.mem_assign member with rfl | old
      · exact readRow_stored taken
      · exact stored entry old

theorem opened {files : Files} {records : Records τ} (read : readAll u csv datetimes path files = .ok records) :
    Opened u csv datetimes path ⟨files,records⟩ := by
  have kept : (records.map Prod.fst).Nodup ∧ ∀ entry ∈ records, Stored u datetimes entry := by
    unfold readAll at read
    split at read
    · cases read
      exact ⟨List.nodup_nil,nofun⟩
    · dsimp only at read
      split at read
      · cases read
      · have empty : ((([] : Records τ)).map Prod.fst).Nodup := List.nodup_nil
        exact readRows_kept empty nofun read
  exact ⟨kept.1,kept.2,records,read,.refl _⟩

theorem consistent_opened (consistent : Registry.Consistent u csv datetimes r) (path : String) : Opened u csv datetimes path r :=
  ⟨consistent.distinct,consistent.stored,consistent.readAll path⟩

theorem replaced_registry {files : Files} (held : ∃ file ∈ files.temporaries, file.1 = name) (text : String) :
    ((files.write name text).replace name).registry = some text := by
  obtain ⟨file,member,named⟩ := held
  unfold Files.replace
  split
  · rename_i found first
    have written := List.mem_of_find?_eq_some first
    have same : found.1 = name := by simpa using List.find?_some first
    obtain ⟨before,_,rfl⟩ := List.mem_map.mp written
    by_cases here : before.1 = name
    · simp [here]
    · rw [if_neg here] at same
      exact absurd same here
  · rename_i missing
    have absent := List.find?_eq_none.mp missing (name,text)
      (List.mem_map.mpr ⟨file,member,if_pos named⟩)
    exact absurd (decide_eq_true rfl) absent

theorem writeAll_registry (failure : Option WriteFailure) (text : String) (files : Files) :
    (∃ later, writeAll failure text files = .error later ∧ later.registry = files.registry ∧ failure ≠ none) ∨
    ∃ later, writeAll failure text files = .ok later ∧ later.registry = some text := by
  match failure with
  | some .parent | some .create => exact .inl ⟨files,rfl,rfl,nofun⟩
  | some (.write written) | some (.flush written) => exact .inl ⟨_,rfl,rfl,nofun⟩
  | some .sync | some .permission | some .replace => exact .inl ⟨_,rfl,rfl,nofun⟩
  | none =>
    refine .inr ⟨_,rfl,replaced_registry ⟨(files.created,""),?_,rfl⟩ text⟩
    simp [Files.createTemporary]

theorem delete_cases (opened : Opened u csv datetimes path r) (named : normalizeMacAddress u address = .ok address)
    (writing : Option WriteFailure) :
    (∃ error next, delete u csv datetimes writing r address = (.error error,next) ∧ next.records = r.records ∧
      Opened u csv datetimes path next ∧ writing ≠ none) ∨
    ∃ found next, delete u csv datetimes writing r address = (.ok found,next) ∧
      next.records = without r.records address ∧ Opened u csv datetimes path next := by
  unfold delete
  rw [named]
  dsimp only
  split
  · unfold store
    rcases writeAll_registry writing (serialise csv datetimes (without r.records address)) r.files with
      ⟨later,raised,same,failing⟩ | ⟨later,ran,written⟩
    · rw [raised]
      refine .inl ⟨_,_,rfl,rfl,⟨opened.distinct,opened.stored,?_⟩,failing⟩
      obtain ⟨records,read,perm⟩ := opened.onFile
      refine ⟨records,?_,perm⟩
      rw [← read]
      unfold readAll
      rw [same]
    · rw [ran]
      have distinct : ((without r.records address).map Prod.fst).Nodup :=
        opened.distinct.sublist (List.filter_sublist.map _)
      have stored : ∀ entry ∈ without r.records address, Stored u datetimes entry := fun entry member =>
        opened.stored entry (List.mem_filter.mp member).1
      exact .inr ⟨_,_,rfl,rfl,distinct,stored,_,readAll_serialise distinct stored written path,sortedRecords_perm _⟩
  · rename_i missing
    refine .inr ⟨_,_,rfl,?_,opened⟩
    unfold Registry.get at missing
    rw [Bool.not_eq_true,Option.isSome_eq_false_iff,Option.isNone_iff_eq_none,Option.map_eq_none_iff] at missing
    refine (List.filter_eq_self.mpr fun entry member => ?_).symm
    simpa using List.find?_eq_none.mp missing entry member

variable {forget : ForgetDevice} {writing : String → Option WriteFailure} {m : Moment τ}

structure BondFirst (forget : ForgetDevice) (r : CredentialRegistry τ) (m : Moment τ) : Prop where
  removed : ∀ entry ∈ r.records, entry ∈ m.registry.records ∨ entry.1 ∈ m.removed
  bonds : ∀ address ∈ m.removed, forget address = none ∧ address ∈ m.attempted

theorem BondFirst.unpaired (first : BondFirst forget r m) (record : DeviceCredential τ)
    (gone : forget record.macAddress = none) : BondFirst forget r (m.unpaired record) where
  removed entry member := (first.removed entry member).imp_right fun before => List.mem_append_left _ before
  bonds address member := by
    rcases List.mem_append.mp member with before | now
    · exact ⟨(first.bonds address before).1,List.mem_append_left _ (first.bonds address before).2⟩
    · rw [List.mem_singleton.mp now]
      exact ⟨gone,List.mem_append_right _ (List.mem_singleton_self _)⟩

theorem BondFirst.refused (first : BondFirst forget r m) (record : DeviceCredential τ) (raised : Raised) :
    BondFirst forget r (m.refused record raised) where
  removed := first.removed
  bonds address member := ⟨(first.bonds address member).1,List.mem_append_left _ (first.bonds address member).2⟩

theorem BondFirst.deleted (first : BondFirst forget r m) (gone : address ∈ m.removed)
    (deleted : next.records = m.registry.records ∨ next.records = without m.registry.records address) :
    BondFirst forget r { m with registry := next } where
  removed entry member := by
    rcases first.removed entry member with present | before
    · rcases deleted with same | less
      · exact .inl (same ▸ present)
      · by_cases here : entry.1 = address
        · exact .inr (here ▸ gone)
        · exact .inl (less ▸ List.mem_filter.mpr ⟨present,decide_eq_true here⟩)
    · exact .inr before
  bonds := first.bonds

theorem resetLoop_bondFirst {records : List (DeviceCredential τ)} (opened : Opened u csv datetimes path m.registry)
    (first : BondFirst forget r m)
    (named : ∀ record ∈ records, normalizeMacAddress u record.macAddress = .ok record.macAddress) :
    ∀ moment ∈ (resetLoop u csv datetimes forget writing records m).passed,
      Opened u csv datetimes path moment.registry ∧ BondFirst forget r moment := by
  induction records generalizing m with
  | nil =>
    intro moment member
    rw [List.mem_singleton.mp member]
    exact ⟨opened,first⟩
  | cons record rest ih =>
    have later : ∀ record ∈ rest, normalizeMacAddress u record.macAddress = .ok record.macAddress := fun other member =>
      named other (List.mem_cons_of_mem _ member)
    intro moment member
    unfold resetLoop at member
    cases outcome : forget record.macAddress with
    | some raised =>
      rw [outcome] at member
      rcases List.mem_cons.mp member with rfl | member
      · exact ⟨opened,first⟩
      · exact ih (m := m.refused record raised) opened (first.refused record raised) later moment member
    | none =>
      have gone := first.unpaired record outcome
      have here : record.macAddress ∈ (m.unpaired record).removed := List.mem_append_right _ (List.mem_singleton_self _)
      rw [outcome] at member
      rcases delete_cases opened (named record List.mem_cons_self) (writing record.macAddress) with
        ⟨error,next,raised,same,still,_⟩ | ⟨found,next,ran,less,still⟩
      · simp only [Moment.unpaired,raised,List.mem_cons,List.not_mem_nil,or_false] at member
        rcases member with rfl | rfl | rfl
        · exact ⟨opened,first⟩
        · exact ⟨opened,gone⟩
        · exact ⟨still,gone.deleted here (.inl same)⟩
      · simp only [Moment.unpaired,ran,List.mem_cons] at member
        rcases member with rfl | rfl | member
        · exact ⟨opened,first⟩
        · exact ⟨opened,gone⟩
        · exact ih still (gone.deleted here (.inr less)) later moment member

structure Swept (u : Unicode) (csv : CsvModule) (datetimes : Datetimes τ) (path : String) (forget : ForgetDevice)
    (records : List (DeviceCredential τ)) (m : Moment τ) (run : Run τ) : Prop where
  finished : run.error = none
  opened : Opened u csv datetimes path run.last.registry
  attempted : run.last.attempted = m.attempted ++ records.map (·.macAddress)
  failures : run.last.failures = m.failures ++ records.filterMap fun record =>
    (forget record.macAddress).map (failure record)
  kept : run.last.registry.records = m.registry.records.filter fun entry =>
    !(records.map (·.macAddress)).contains entry.1 || (forget entry.1).isSome

theorem resetLoop_swept {records : List (DeviceCredential τ)} (opened : Opened u csv datetimes path m.registry)
    (named : ∀ record ∈ records, normalizeMacAddress u record.macAddress = .ok record.macAddress)
    (writable : ∀ address, writing address = none) :
    Swept u csv datetimes path forget records m (resetLoop u csv datetimes forget writing records m) := by
  induction records generalizing m with
  | nil => exact ⟨rfl,opened,by simp [resetLoop],by simp [resetLoop],by simp [resetLoop]⟩
  | cons record rest ih =>
    have later : ∀ record ∈ rest, normalizeMacAddress u record.macAddress = .ok record.macAddress := fun other member =>
      named other (List.mem_cons_of_mem _ member)
    unfold resetLoop
    cases outcome : forget record.macAddress with
    | some raised =>
      have swept := ih (m := m.refused record raised) opened later
      refine ⟨swept.finished,swept.opened,?_,?_,?_⟩
      · rw [List.map_cons]
        exact swept.attempted.trans (List.append_assoc ..)
      · simp only [List.filterMap_cons,outcome,Option.map_some]
        exact swept.failures.trans (List.append_assoc ..)
      · refine swept.kept.trans (List.filter_congr fun entry _ => ?_)
        by_cases here : entry.1 = record.macAddress
        · simp [here,outcome]
        · simp [here]
    | none =>
      rcases delete_cases opened (named record List.mem_cons_self) (writing record.macAddress) with
        ⟨_,_,_,_,_,failing⟩ | ⟨found,next,ran,less,still⟩
      · exact absurd (writable _) failing
      · have swept := ih (m := { m.unpaired record with registry := next }) still later
        simp only [Moment.unpaired,ran]
        refine ⟨swept.finished,swept.opened,?_,?_,?_⟩
        · rw [List.map_cons]
          exact swept.attempted.trans (List.append_assoc ..)
        · simp only [List.filterMap_cons,outcome,Option.map_none]
          exact swept.failures
        · refine swept.kept.trans ?_
          dsimp only
          rw [less,without,List.filter_filter]
          refine List.filter_congr fun entry _ => ?_
          by_cases here : entry.1 = record.macAddress
          · simp [here,outcome]
          · simp [here]

theorem listAll_enrolled (opened : Opened u csv datetimes path r) :
    ((listAll r).map (·.macAddress)).Perm (r.records.map Prod.fst) := by
  have keys : (listAll r).map (·.macAddress) = (sortedRecords r.records).map Prod.fst := by
    rw [listAll,List.map_map]
    refine List.map_congr_left fun entry member => ?_
    exact (opened.stored entry ((sortedRecords_perm _).mem_iff.mp member)).key
  rw [keys]
  exact (sortedRecords_perm _).map _

theorem listAll_named (opened : Opened u csv datetimes path r) :
    ∀ record ∈ listAll r, normalizeMacAddress u record.macAddress = .ok record.macAddress := by
  intro record member
  obtain ⟨entry,sorted,rfl⟩ := List.mem_map.mp member
  have stored := opened.stored entry ((sortedRecords_perm _).mem_iff.mp sorted)
  rw [stored.key]
  exact stored.normalized

theorem resetAllPairings_run (forget : ForgetDevice) (writing : String → Option WriteFailure) (r : CredentialRegistry τ) :
    (resetAllPairings u csv datetimes forget writing r).1 =
      resetLoop u csv datetimes forget writing (listAll r) ⟨r,[],[],[]⟩ := by
  unfold resetAllPairings
  dsimp only
  split
  · rfl
  · split <;> rfl

theorem resetAllPairings_bondFirst (opened : Opened u csv datetimes path r) (forget : ForgetDevice)
    (writing : String → Option WriteFailure) :
    ∀ moment ∈ (resetAllPairings u csv datetimes forget writing r).1.passed,
      OnFile u csv datetimes path moment.registry ∧ BondFirst forget r moment := by
  have start : BondFirst forget r ⟨r,[],[],[]⟩ := ⟨fun _ member => .inl member,nofun⟩
  rw [resetAllPairings_run]
  intro moment member
  have here := resetLoop_bondFirst (m := ⟨r,[],[],[]⟩) opened start (listAll_named opened) moment member
  exact ⟨here.1.onFile,here.2⟩

theorem resetAllPairings_outcome (finished : (resetAllPairings u csv datetimes forget writing r).1.error = none) :
    ((resetAllPairings u csv datetimes forget writing r).1.last.failures = [] ∧
      (resetAllPairings u csv datetimes forget writing r).2 = .ok (listAll r)) ∨
    ((resetAllPairings u csv datetimes forget writing r).1.last.failures ≠ [] ∧
      ∃ error, (resetAllPairings u csv datetimes forget writing r).2 = .error error) := by
  rw [resetAllPairings_run] at finished ⊢
  unfold resetAllPairings
  dsimp only
  rw [finished]
  dsimp only
  split
  · rename_i failed
    exact .inr ⟨failed,_,rfl⟩
  · rename_i clear
    exact .inl ⟨not_not.mp clear,rfl⟩

theorem failures_iff (opened : Opened u csv datetimes path r) (forget : ForgetDevice) :
    ([] ++ (listAll r).filterMap fun record => (forget record.macAddress).map (failure record)) ≠ [] ↔
      ∃ entry ∈ r.records, (forget entry.1).isSome := by
  rw [List.nil_append,Ne,List.filterMap_eq_nil_iff]
  constructor
  · intro failed
    obtain ⟨record,member,raised⟩ := by simpa using failed
    have listed : record.macAddress ∈ (listAll r).map (·.macAddress) := List.mem_map_of_mem member
    obtain ⟨entry,enrolled,same⟩ := List.mem_map.mp ((listAll_enrolled opened).mem_iff.mp listed)
    refine ⟨entry,enrolled,?_⟩
    rw [same]
    exact Option.isSome_iff_ne_none.mpr raised
  · rintro ⟨entry,enrolled,raised⟩ clear
    have key : entry.1 ∈ (listAll r).map (·.macAddress) :=
      (listAll_enrolled opened).mem_iff.mpr (List.mem_map_of_mem enrolled)
    obtain ⟨record,member,same⟩ := List.mem_map.mp key
    have none := Option.map_eq_none_iff.mp (clear record member)
    rw [same] at none
    rw [none] at raised
    cases raised

structure Reset (u : Unicode) (csv : CsvModule) (datetimes : Datetimes τ) (path : String) (forget : ForgetDevice)
    (r : CredentialRegistry τ) (result : Run τ × Except ResetError (List (DeviceCredential τ))) : Prop where
  once : result.1.last.attempted.Perm (r.records.map Prod.fst) ∧ result.1.last.attempted.Nodup
  failed : result.1.last.registry.records = r.records.filter fun entry => (forget entry.1).isSome
  onFile : OnFile u csv datetimes path result.1.last.registry
  raises : (∃ error, result.2 = .error error) ↔ ∃ entry ∈ r.records, (forget entry.1).isSome
  returns : (∀ entry ∈ r.records, forget entry.1 = none) → result.2 = .ok (listAll r)
  bondFirst : ∀ moment ∈ result.1.passed, OnFile u csv datetimes path moment.registry ∧ BondFirst forget r moment

theorem resetAllPairings_reset (opened : Opened u csv datetimes path r) (forget : ForgetDevice)
    (writing : String → Option WriteFailure) (writable : ∀ address, writing address = none) :
    Reset u csv datetimes path forget r (resetAllPairings u csv datetimes forget writing r) := by
  have enrolled := listAll_enrolled opened
  have swept : Swept u csv datetimes path forget (listAll r) ⟨r,[],[],[]⟩
      (resetAllPairings u csv datetimes forget writing r).1 := by
    rw [resetAllPairings_run]
    exact resetLoop_swept opened (listAll_named opened) writable
  have attempted := swept.attempted.trans (List.nil_append _)
  refine ⟨⟨attempted ▸ enrolled,?_⟩,?_,swept.opened.onFile,?_,?_,resetAllPairings_bondFirst opened forget writing⟩
  · rw [attempted]
    exact enrolled.nodup_iff.mpr opened.distinct
  · rw [swept.kept]
    refine List.filter_congr fun entry member => ?_
    have listed : entry.1 ∈ (listAll r).map (·.macAddress) := enrolled.mem_iff.mpr (List.mem_map_of_mem member)
    rw [List.contains_iff_mem.mpr listed]
    rfl
  · rw [← failures_iff opened forget,← swept.failures]
    rcases resetAllPairings_outcome swept.finished with ⟨clear,returned⟩ | ⟨failed,raised⟩
    · constructor
      · rintro ⟨error,raised⟩
        cases returned.symm.trans raised
      · exact fun failed => absurd clear failed
    · exact ⟨fun _ => failed,fun _ => raised⟩
  · intro none
    rcases resetAllPairings_outcome swept.finished with ⟨clear,returned⟩ | ⟨failed,raised⟩
    · exact returned
    · obtain ⟨entry,member,some⟩ := (failures_iff opened forget).mp (swept.failures ▸ failed)
      rw [none entry member] at some
      cases some

-- What stays are the records whose unpairing failed, unchanged; a further run over them, in
-- memory or opened again, that meets no failure leaves none.
theorem reset_all_pairings (u : Unicode) (csv : CsvModule) (datetimes : Datetimes τ) (path : String) (r : CredentialRegistry τ)
    (opened : Opened u csv datetimes path r) (forget : ForgetDevice) (writing : String → Option WriteFailure)
    (writable : ∀ address, writing address = none) :
    let first := resetAllPairings u csv datetimes forget writing r
    Reset u csv datetimes path forget r first ∧
    ∀ (later : CredentialRegistry τ) (repaired : ForgetDevice),
      later.files = first.1.last.registry.files → later.records.Perm first.1.last.registry.records →
      (∀ entry ∈ later.records, repaired entry.1 = none) →
      let second := resetAllPairings u csv datetimes repaired writing later
      second.1.last.registry.records = [] ∧ OnFile u csv datetimes path second.1.last.registry ∧
        second.2 = .ok (listAll later) := by
  have first := resetAllPairings_reset opened forget writing writable
  refine ⟨first,fun later repaired files perm none => ?_⟩
  have before : ∀ entry ∈ later.records, entry ∈ r.records := fun entry member => by
    have kept := perm.mem_iff.mp member
    rw [first.failed] at kept
    exact (List.mem_filter.mp kept).1
  have distinct : (later.records.map Prod.fst).Nodup := by
    rw [(perm.map _).nodup_iff,first.failed]
    exact opened.distinct.sublist (List.filter_sublist.map _)
  have onFile : OnFile u csv datetimes path later := by
    obtain ⟨records,read,same⟩ := first.onFile
    exact ⟨records,files ▸ read,same.trans perm.symm⟩
  have again : Opened u csv datetimes path later :=
    ⟨distinct,fun entry member => opened.stored entry (before entry member),onFile⟩
  have second := resetAllPairings_reset again repaired writing writable
  refine ⟨?_,second.onFile,second.returns none⟩
  rw [second.failed]
  exact List.filter_eq_nil_iff.mpr fun entry member => by simp [none entry member]

-- Two thermometers, of which the first refuses to be unpaired.
def enrolledTwo : CredentialRegistry Unit := performAll asciiArabic excel instant fresh
  [.saveVerified "AA:BB:CC:DD:EE:01" "Thermometer-One" "123456" none () none,
    .saveVerified "AA:BB:CC:DD:EE:02" "Thermometer-Two" "654321" none () none]

def refusesFirst : ForgetDevice := fun address =>
  if address = "AA:BB:CC:DD:EE:01" then some ⟨"radio refused removal","OSError"⟩ else none

theorem reset_all_pairings_two :
    enrolledTwo.records.map Prod.fst = ["AA:BB:CC:DD:EE:01","AA:BB:CC:DD:EE:02"] ∧
    let first := resetAllPairings asciiArabic excel instant refusesFirst (fun _ => none) enrolledTwo
    Reset asciiArabic excel instant "" refusesFirst enrolledTwo first ∧
    let second := resetAllPairings asciiArabic excel instant (fun _ => none) (fun _ => none) first.1.last.registry
    second.1.last.registry.records = [] ∧ OnFile asciiArabic excel instant "" second.1.last.registry ∧
      second.2 = .ok (listAll first.1.last.registry) := by
  have opened : Opened asciiArabic excel instant "" enrolledTwo :=
    consistent_opened (performAll_consistent (fresh_consistent _ _ _) _) ""
  have settled := reset_all_pairings asciiArabic excel instant "" enrolledTwo opened refusesFirst (fun _ => none) fun _ => rfl
  exact ⟨by decide +kernel,settled.1,settled.2 _ _ rfl (.refl _) fun _ _ => rfl⟩

end Thermometer.Client.PairingReset
