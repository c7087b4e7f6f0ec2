import Mathlib.Data.List.Induction
import Thermometer.Client.HistoryMerge

-- Live samples and history batches that reach one table, in any order.
namespace Thermometer.Client
open Wire Decimal Protocol

-- A call that raises may have executed some of its statements.
inductive Write where
  | publish (sample : SampleRecord) (fault : Option Nat)
  | upsert (batch : HistoryBatch) (fault : Option Nat)

def Write.samples : Write → List SampleRecord
  | .publish sample _ => [sample]
  | .upsert batch _ => batch.samples

def Write.apply (t : TemperatureSamples) : Write → TemperatureSamples × Bool
  | .publish sample none => (publishOne t sample).elim (t,false) fun done => (done.1,true)
  | .publish sample (some statements) => (if statements = 0 then t else (publishOne t sample).elim t (·.1),false)
  | .upsert batch none => (upsertHistory t batch).elim (t,false) fun after => (after,true)
  | .upsert batch (some statements) => ((((historyGroups batch.samples).take statements).foldlM executeGroup t).getD t,false)

def tableAfter (t : TemperatureSamples) (writes : List Write) : TemperatureSamples :=
  writes.foldl (fun t write => (write.apply t).1) t

def returnedSamples (t : TemperatureSamples) : List Write → List SampleRecord
  | [] => []
  | write :: rest => (if (write.apply t).2 then write.samples else []) ++ returnedSamples (write.apply t).1 rest

def drawnLive (device : DeviceRecords) (bootId sequence : UInt32) (retrieved : SensorId → Bool) (observedAtUtc : Rat) :
    SampleRecord :=
  { drawnSample device bootId sequence retrieved observedAtUtc with source := .live }

def Write.Draws (device : DeviceRecords) : Write → Prop
  | .publish sample _ => ∃ bootId sequence retrieved observedAtUtc, sample = drawnLive device bootId sequence retrieved observedAtUtc
  | .upsert batch _ => ∀ sample ∈ batch.samples, Drawn device sample

theorem currentSample_drawn {device : DeviceRecords} {snapshot : CurrentSnapshot} (observedAt : Rat) :
    currentSample observedAt snapshot (fun sensorId => (device snapshot.bootId snapshot.newestSequence sensorId).map centigrade) =
      drawnLive device snapshot.bootId snapshot.newestSequence (fun _ => true) observedAt := by
  have readings : (fun sensorId : SensorId => (⟨sensorId.number,
      ((device snapshot.bootId snapshot.newestSequence sensorId).map centigrade).map pythonFloat,
      if ((device snapshot.bootId snapshot.newestSequence sensorId).map centigrade).isSome then .valid else .disconnected⟩ :
        SensorReading)) = drawnReading (device snapshot.bootId snapshot.newestSequence) fun _ => true := by
    funext sensorId
    simp [drawnReading,deviceReading,Function.comp_def]
  unfold currentSample drawnLive drawnSample
  rw [readings]

def Knows (columns : SampleColumns) (sensorId : SensorId) : Prop := (columns.field sensorId).2 ≠ .notRetrieved

instance : Decidable (Knows columns sensorId) := inferInstanceAs (Decidable (_ ≠ _))

def Keeps (t : TemperatureSamples) (sample : SampleRecord) : Prop :=
  ∀ columns key sensorId, sampleParams sample = some columns → columns.key = some key → Knows columns sensorId →
    ∃ row, t.stored key = some row ∧ row.field sensorId = columns.field sensorId

def NothingLost (t : TemperatureSamples) (writes : List Write) : Prop :=
  ∀ before, before <+: writes → ∀ sample ∈ returnedSamples t before, Keeps (tableAfter t before) sample

def Agreeing (device : DeviceRecords) (columns : SampleColumns) : Prop :=
  ∀ key sensorId, columns.key = some key → Knows columns sensorId → columns.field sensorId = deviceField (device key.1 key.2 sensorId)

def Agrees (t : TemperatureSamples) (device : DeviceRecords) : Prop := ∀ key row, t.stored key = some row → Agreeing device row

def Covers (row columns : SampleColumns) : Prop := ∀ sensorId, Knows columns sensorId → Knows row sensorId

-- A rejected sample has nothing new, and a batch has nothing new for the rows that it
-- leaves untouched.
def Write.Safe (t : TemperatureSamples) : Write → Prop
  | .publish sample none => ∀ columns key row, sampleParams sample = some columns → columns.key = some key →
      t.stored key = some row → Covers row columns
  | .upsert batch none => ∀ sample ∈ batch.samples, ∀ columns key row, sampleParams sample = some columns →
      columns.key = some key → t.stored key = some row → row.recordSource ≠ .history → Covers row columns
  | .publish _ (some _) | .upsert _ (some _) => True

variable {device : DeviceRecords} {t after : TemperatureSamples}

theorem tableAfter_snoc (writes : List Write) (write : Write) :
    tableAfter t (writes ++ [write]) = (write.apply (tableAfter t writes)).1 := by
  rw [tableAfter,List.foldl_append]
  rfl

theorem returnedSamples_snoc (writes : List Write) (write : Write) :
    returnedSamples t (writes ++ [write]) =
      returnedSamples t writes ++ if (write.apply (tableAfter t writes)).2 then write.samples else [] := by
  induction writes generalizing t with
  | nil => exact List.append_nil _
  | cons first rest ih =>
    rw [List.cons_append,returnedSamples,ih,returnedSamples,List.append_assoc]
    rfl

structure Grows (t after : TemperatureSamples) : Prop where
  row : ∀ key row, t.stored key = some row → ∃ later, after.stored key = some later ∧
    later.recordSource = row.recordSource ∧ ∀ sensorId, Knows row sensorId → later.field sensorId = row.field sensorId

theorem Grows.refl : Grows t t := ⟨fun _ row held => ⟨row,held,rfl,fun _ _ => rfl⟩⟩

theorem Grows.trans (first : Grows t after) (second : Grows after last) : Grows t last := by
  refine ⟨fun key row held => ?_⟩
  obtain ⟨middle,found,source,fields⟩ := first.row key row held
  obtain ⟨later,kept,same,further⟩ := second.row key middle found
  refine ⟨later,kept,same.trans source,fun sensorId known => ?_⟩
  have carried : Knows middle sensorId := by
    unfold Knows
    rw [fields sensorId known]
    exact known
  exact (further sensorId carried).trans (fields sensorId known)

theorem Keeps.grows (kept : Keeps t sample) (growth : Grows t after) : Keeps after sample := by
  intro columns key sensorId params named known
  obtain ⟨row,held,same⟩ := kept columns key sensorId params named known
  obtain ⟨later,found,_,fields⟩ := growth.row key row held
  refine ⟨later,found,(fields sensorId ?_).trans same⟩
  unfold Knows
  rw [same]
  exact known

theorem stored_key (held : t.stored key = some row) : row.key = some key := by
  obtain ⟨found,present,rfl⟩ := Option.map_eq_some_iff.mp held
  simpa using List.find?_some present

theorem insert_stored (named : columns.key = some key) (inserted : t.insert columns = some after) :
    t.stored key = none ∧ ∀ other, after.stored other = if key = other then some columns else t.stored other := by
  unfold TemperatureSamples.insert at inserted
  split at inserted
  · rename_i fresh
    cases inserted
    refine ⟨?_,fun other => ?_⟩
    · rw [TemperatureSamples.stored,TemperatureSamples.fresh_find fresh named]
      rfl
    · rw [TemperatureSamples.stored_append,named]
      simp only [Option.some.injEq]
  · cases inserted

theorem insert_taken (named : columns.key = some key) (rejected : t.insert columns = none) : ∃ row, t.stored key = some row := by
  unfold TemperatureSamples.insert at rejected
  split at rejected
  · cases rejected
  · rename_i taken
    apply Option.ne_none_iff_exists'.mp
    intro missing
    apply taken
    simpa [TemperatureSamples.duplicate,named,TemperatureSamples.stored] using missing

def merged (columns : SampleColumns) (held : Option SampleColumns) : SampleColumns :=
  held.elim columns (onDuplicateKeyUpdate · columns)

theorem merged_source (columns : SampleColumns) (held : Option SampleColumns) :
    (merged columns held).recordSource = (held.elim columns fun row => row).recordSource := by
  cases held <;> rfl

theorem merged_field (columns row : SampleColumns) (sensorId : SensorId) :
    (merged columns (some row)).field sensorId =
      if row.recordSource = .history ∧ ¬ Knows row sensorId ∧ Knows columns sensorId then columns.field sensorId
      else row.field sensorId := by
  change (onDuplicateKeyUpdate row columns).field sensorId = _
  by_cases history : row.recordSource = .history
  · rw [onDuplicateKeyUpdate_field history]
    simp [Knows,history]
  · rw [onDuplicateKeyUpdate_other row columns history,if_neg fun both => history both.1]

theorem merged_known (columns : SampleColumns) (known : Knows row sensorId) :
    (merged columns (some row)).field sensorId = row.field sensorId := by
  rw [merged_field,if_neg fun both => both.2.1 known]

theorem upsert_grows (named : columns.key = some key) : Grows t (t.upsert columns) := by
  refine ⟨fun other row held => ?_⟩
  by_cases same : key = other
  · refine ⟨merged columns (some row),?_,merged_source columns (some row),fun sensorId known => merged_known columns known⟩
    rw [TemperatureSamples.stored_upsert named,if_pos same,held]
    rfl
  · refine ⟨row,?_,rfl,fun _ _ => rfl⟩
    rw [TemperatureSamples.stored_upsert named,if_neg same]
    exact held

theorem insert_grows (named : columns.key = some key) (inserted : t.insert columns = some after) : Grows t after := by
  obtain ⟨missing,stored⟩ := insert_stored named inserted
  refine ⟨fun other row held => ⟨row,?_,rfl,fun _ _ => rfl⟩⟩
  rw [stored,if_neg]
  · exact held
  · rintro rfl
    rw [missing] at held
    cases held

theorem upsert_agrees (agrees : Agrees t device) (named : columns.key = some key) (drawn : Agreeing device columns) :
    Agrees (t.upsert columns) device := by
  intro other row held
  rw [TemperatureSamples.stored_upsert named] at held
  split at held
  · cases before : t.stored key with
    | none =>
      rename_i same
      rw [← same,before] at held
      cases held
      exact drawn
    | some old =>
      rename_i same
      rw [← same,before] at held
      cases held
      intro place sensorId at_ known
      have stays : old.key = some place := at_
      have shared : columns.key = some place := by rw [named,← stored_key before,stays]
      change (merged columns (some old)).field sensorId = _
      change Knows (merged columns (some old)) sensorId at known
      unfold Knows at known
      rw [merged_field] at known ⊢
      split
      · rename_i taken
        exact drawn place sensorId shared taken.2.2
      · rename_i left
        rw [if_neg left] at known
        exact agrees key old before place sensorId stays known
  · exact agrees other row held

theorem insert_agrees (agrees : Agrees t device) (named : columns.key = some key) (drawn : Agreeing device columns)
    (inserted : t.insert columns = some after) : Agrees after device := by
  obtain ⟨_,stored⟩ := insert_stored named inserted
  intro other row held
  rw [stored] at held
  split at held
  · cases held
    exact drawn
  · exact agrees other row held

theorem agreeing_same (rowAgrees : Agreeing device row) (columnsAgree : Agreeing device columns) (held : row.key = some key)
    (named : columns.key = some key) (rowKnows : Knows row sensorId) (known : Knows columns sensorId) :
    row.field sensorId = columns.field sensorId :=
  (rowAgrees key sensorId held rowKnows).trans (columnsAgree key sensorId named known).symm

theorem upsert_stores (agrees : Agrees t device) (drawn : Agreeing device columns) (named : columns.key = some key)
    (covered : ∀ row, t.stored key = some row → row.recordSource ≠ .history → Covers row columns) (known : Knows columns sensorId) :
    ∃ row, (t.upsert columns).stored key = some row ∧ row.field sensorId = columns.field sensorId := by
  refine ⟨merged columns (t.stored key),?_,?_⟩
  · rw [TemperatureSamples.stored_upsert named,if_pos rfl]
    rfl
  · cases held : t.stored key with
    | none => rfl
    | some row =>
      rw [merged_field]
      split
      · rfl
      · rename_i left
        apply agreeing_same (agrees key row held) drawn (stored_key held) named _ known
        by_contra missing
        by_cases history : row.recordSource = .history
        · exact left ⟨history,missing,known⟩
        · exact missing (covered row held history sensorId known)

theorem upsert_foreign (named : columns.key = some other) (history : columns.recordSource = .history)
    (held : (t.upsert columns).stored key = some row) (foreign : row.recordSource ≠ .history) : t.stored key = some row := by
  rw [TemperatureSamples.stored_upsert named] at held
  split at held
  · cases before : t.stored key with
    | none =>
      rw [before] at held
      cases held
      exact absurd history foreign
    | some old =>
      rw [before] at held
      cases held
      exact congrArg some (onDuplicateKeyUpdate_other old columns foreign).symm
  · exact held

structure FromHistory (device : DeviceRecords) (columns : SampleColumns) : Prop where
  named : ∃ key, columns.key = some key
  history : columns.recordSource = .history
  agreeing : Agreeing device columns

theorem fold_grows {rows : List SampleColumns} (all : ∀ columns ∈ rows, FromHistory device columns) :
    Grows t (rows.foldl TemperatureSamples.upsert t) := by
  induction rows generalizing t with
  | nil => exact Grows.refl
  | cons columns rest ih =>
    obtain ⟨key,named⟩ := (all columns List.mem_cons_self).named
    apply (upsert_grows named).trans
    exact ih fun other member => all other (List.mem_cons_of_mem _ member)

theorem fold_agrees {rows : List SampleColumns} (all : ∀ columns ∈ rows, FromHistory device columns) (agrees : Agrees t device) :
    Agrees (rows.foldl TemperatureSamples.upsert t) device := by
  induction rows generalizing t with
  | nil => exact agrees
  | cons columns rest ih =>
    have first := all columns List.mem_cons_self
    obtain ⟨key,named⟩ := first.named
    apply ih fun other member => all other (List.mem_cons_of_mem _ member)
    exact upsert_agrees agrees named first.agreeing

theorem fold_stores {rows : List SampleColumns} (all : ∀ columns ∈ rows, FromHistory device columns) (agrees : Agrees t device)
    (member : columns ∈ rows) (named : columns.key = some key)
    (covered : ∀ row, t.stored key = some row → row.recordSource ≠ .history → Covers row columns) (known : Knows columns sensorId) :
    ∃ row, (rows.foldl TemperatureSamples.upsert t).stored key = some row ∧ row.field sensorId = columns.field sensorId := by
  induction rows generalizing t with
  | nil => cases member
  | cons first rest ih =>
    have here := all first List.mem_cons_self
    obtain ⟨place,at_⟩ := here.named
    have tail : ∀ columns ∈ rest, FromHistory device columns := fun other later => all other (List.mem_cons_of_mem _ later)
    rcases List.mem_cons.mp member with rfl | later
    · obtain ⟨row,held,same⟩ := upsert_stores agrees here.agreeing named covered known
      obtain ⟨last,found,_,fields⟩ := (fold_grows (t := t.upsert columns) tail).row key row held
      refine ⟨last,found,(fields sensorId ?_).trans same⟩
      unfold Knows
      rw [same]
      exact known
    · apply ih tail (upsert_agrees agrees at_ here.agreeing) later
      exact fun row held foreign => covered row (upsert_foreign at_ here.history held foreign) foreign

theorem fold_foreign {rows : List SampleColumns} (all : ∀ columns ∈ rows, FromHistory device columns) (held : t.stored key = some row)
    (foreign : row.recordSource ≠ .history) : (rows.foldl TemperatureSamples.upsert t).stored key = some row := by
  induction rows generalizing t with
  | nil => exact held
  | cons columns rest ih =>
    obtain ⟨place,named⟩ := (all columns List.mem_cons_self).named
    apply ih fun other member => all other (List.mem_cons_of_mem _ member)
    rw [TemperatureSamples.stored_upsert named,held]
    split
    · exact congrArg some (onDuplicateKeyUpdate_other row columns foreign)
    · rfl

theorem drawnColumns_agreeing (device : DeviceRecords) (bootId sequence : UInt32) (retrieved : SensorId → Bool) (observedAtUtc : Rat) :
    Agreeing device (drawnColumns device bootId sequence retrieved observedAtUtc) := by
  intro key sensorId named known
  cases named
  unfold Knows at known
  rw [drawnColumns_field] at known ⊢
  split
  · rfl
  · rename_i missing
    rw [if_neg missing] at known
    exact absurd rfl known

theorem sampleParams_source (sample : SampleRecord) (source : RecordSource) :
    sampleParams { sample with source := source } = (sampleParams sample).map fun columns => { columns with recordSource := source } := by
  unfold sampleParams
  dsimp only
  cases sample.sensorReadings.reverse.find? (·.sensorId = 1) with
  | none => rfl
  | some first => cases sample.sensorReadings.reverse.find? (·.sensorId = 2) <;> rfl

inductive Applied (device : DeviceRecords) (t : TemperatureSamples) : Write → TemperatureSamples → Bool → Prop where
  | unsent : Applied device t (.publish sample (some 0)) t false
  | rejected (params : sampleParams sample = some columns) (named : columns.key = some key)
      (agreeing : Agreeing device columns) (row : t.insert columns = none) : Applied device t (.publish sample fault) t fault.isNone
  | inserted (params : sampleParams sample = some columns) (named : columns.key = some key)
      (agreeing : Agreeing device columns) (row : t.insert columns = some stored) :
      Applied device t (.publish sample fault) stored fault.isNone
  | merged (samples : List SampleRecord) (all : ∀ columns ∈ samples.filterMap sampleParams, FromHistory device columns)
      (whole : fault = none → samples = batch.samples) :
      Applied device t (.upsert batch fault) ((samples.filterMap sampleParams).foldl TemperatureSamples.upsert t) fault.isNone

theorem drawn_fromHistory {samples : List SampleRecord} (drawn : ∀ sample ∈ samples, Drawn device sample) :
    ∀ columns ∈ samples.filterMap sampleParams, FromHistory device columns := by
  intro columns member
  obtain ⟨bootId,sequence,retrieved,observedAtUtc,rfl⟩ := drawn_columns drawn columns member
  exact ⟨⟨(bootId,sequence),rfl⟩,rfl,drawnColumns_agreeing device bootId sequence retrieved observedAtUtc⟩

theorem publishOne_applied (drawn : ∃ bootId sequence retrieved observedAtUtc, sample = drawnLive device bootId sequence retrieved observedAtUtc) :
    ∃ done, publishOne t sample = some done ∧ ∀ fault, Applied device t (.publish sample fault) done.1 fault.isNone := by
  obtain ⟨bootId,sequence,retrieved,observedAtUtc,rfl⟩ := drawn
  have params : sampleParams (drawnLive device bootId sequence retrieved observedAtUtc) =
      some { drawnColumns device bootId sequence retrieved observedAtUtc with recordSource := .live } := by
    rw [drawnLive,sampleParams_source,sampleParams_drawn]
    rfl
  have agreeing : Agreeing device { drawnColumns device bootId sequence retrieved observedAtUtc with recordSource := .live } :=
    drawnColumns_agreeing device bootId sequence retrieved observedAtUtc
  rw [publishOne,params]
  refine ⟨_,rfl,fun fault => ?_⟩
  dsimp only
  split
  · rename_i stored row
    exact .inserted params rfl agreeing row
  · rename_i row
    exact .rejected params rfl agreeing row

theorem apply_applied (draws : write.Draws device) : Applied device t write (write.apply t).1 (write.apply t).2 := by
  cases write with
  | publish sample fault =>
    obtain ⟨done,executed,applied⟩ := publishOne_applied (t := t) draws
    cases fault with
    | none =>
      rw [Write.apply,executed]
      exact applied none
    | some statements =>
      rw [Write.apply,executed]
      cases statements with
      | zero => exact .unsent
      | succ statements => exact applied (some (statements + 1))
  | upsert batch fault =>
    cases fault with
    | none =>
      have executed := upsertHistory_drawn (t := t) draws
      rw [Write.apply,executed]
      exact .merged batch.samples (drawn_fromHistory draws) fun _ => rfl
    | some statements =>
      have sent : ∀ sample ∈ ((historyGroups batch.samples).take statements).flatten, Drawn device sample := by
        intro sample member
        apply draws sample
        rw [← historyGroups_flatten batch.samples]
        obtain ⟨group,among,present⟩ := List.mem_flatten.mp member
        exact List.mem_flatten.mpr ⟨group,List.mem_of_mem_take among,present⟩
      have executed := executeGroups_fold (t := t) _ (mapM_drawn sent)
      rw [Write.apply,executed]
      exact .merged _ (drawn_fromHistory sent) nofun

theorem Applied.grows (applied : Applied device t write after returned) : Grows t after := by
  cases applied with
  | unsent => exact Grows.refl
  | rejected => exact Grows.refl
  | inserted _ named _ row => exact insert_grows named row
  | merged _ all => exact fold_grows all

theorem Applied.agrees (applied : Applied device t write after returned) (agrees : Agrees t device) : Agrees after device := by
  cases applied with
  | unsent => exact agrees
  | rejected => exact agrees
  | inserted _ named agreeing row => exact insert_agrees agrees named agreeing row
  | merged _ all => exact fold_agrees all agrees

theorem Applied.keeps (applied : Applied device t write after true) (agrees : Agrees t device) (safe : write.Safe t) :
    ∀ sample ∈ write.samples, Keeps after sample := by
  intro sample member columns key sensorId params named known
  generalize answer : true = returned at applied
  cases applied with
  | unsent => cases answer
  | @rejected _ others place fault given at_ agreeing row =>
    cases fault with
    | some _ => cases answer
    | none =>
      cases List.mem_singleton.mp member
      obtain ⟨old,held⟩ := insert_taken at_ row
      rw [given] at params
      cases params
      rw [named] at at_
      cases at_
      have rowKnows := safe columns key old given named held sensorId known
      exact ⟨old,held,agreeing_same (agrees key old held) agreeing (stored_key held) named rowKnows known⟩
  | inserted given at_ agreeing row =>
    cases List.mem_singleton.mp member
    obtain ⟨_,stored⟩ := insert_stored at_ row
    rw [given] at params
    cases params
    rw [named] at at_
    cases at_
    exact ⟨columns,by rw [stored,if_pos rfl],rfl⟩
  | @merged fault batch samples all whole =>
    cases fault with
    | some _ => cases answer
    | none =>
      cases whole rfl
      apply fold_stores all agrees (List.mem_filterMap.mpr ⟨sample,member,params⟩) named _ known
      exact fun row held foreign => safe sample member columns key row params named held foreign

theorem Applied.safe (applied : Applied device t write after returned)
    (kept : returned = true → ∀ sample ∈ write.samples, Keeps after sample) : write.Safe t := by
  cases applied with
  | unsent => trivial
  | @rejected _ others place fault given at_ agreeing row =>
    cases fault with
    | some _ => trivial
    | none =>
      intro columns key old params named held sensorId known
      obtain ⟨stored,found,same⟩ := kept rfl _ (List.mem_singleton.mpr rfl) columns key sensorId params named known
      rw [held] at found
      cases found
      unfold Knows
      rw [same]
      exact known
  | @inserted _ others place next fault given at_ agreeing row =>
    cases fault with
    | some _ => trivial
    | none =>
      intro columns key old params named held
      rw [given] at params
      cases params
      rw [named] at at_
      cases at_
      rw [(insert_stored named row).1] at held
      cases held
  | @merged fault batch samples all whole =>
    cases fault with
    | some _ => trivial
    | none =>
      cases whole rfl
      intro sample member columns key old params named held foreign sensorId known
      obtain ⟨stored,found,same⟩ := kept rfl sample member columns key sensorId params named known
      rw [fold_foreign all held foreign] at found
      cases found
      unfold Knows
      rw [same]
      exact known

theorem tableAfter_agrees (writes : List Write) (draws : ∀ write ∈ writes, write.Draws device) (agrees : Agrees t device) :
    Agrees (tableAfter t writes) device := by
  induction writes using List.reverseRecOn with
  | nil => exact agrees
  | append_singleton writes write ih =>
    have earlier := ih fun other member => draws other (List.mem_append_left _ member)
    rw [tableAfter_snoc]
    exact (apply_applied (draws write (by simp))).agrees earlier

theorem safe_keeps (writes : List Write) (draws : ∀ write ∈ writes, write.Draws device) (agrees : Agrees t device)
    (safe : ∀ before write, before ++ [write] <+: writes → write.Safe (tableAfter t before)) :
    ∀ sample ∈ returnedSamples t writes, Keeps (tableAfter t writes) sample := by
  induction writes using List.reverseRecOn with
  | nil => exact fun _ member => (List.not_mem_nil member).elim
  | append_singleton writes write ih =>
    have all : ∀ other ∈ writes, other.Draws device := fun other member => draws other (List.mem_append_left _ member)
    have applied := apply_applied (t := tableAfter t writes) (draws write (by simp))
    have earlier := ih all fun before other front => safe before other (front.trans (List.prefix_append _ _))
    rw [tableAfter_snoc,returnedSamples_snoc]
    intro sample member
    rcases List.mem_append.mp member with old | new
    · exact (earlier sample old).grows applied.grows
    · split at new
      · rename_i returned
        rw [returned] at applied
        exact applied.keeps (tableAfter_agrees writes all agrees) (safe writes write (List.prefix_refl _)) sample new
      · exact (List.not_mem_nil new).elim

-- Nothing that a call stored or reported is lost exactly if every call is safe in the
-- table that it meets.
theorem nothing_lost_iff (device : DeviceRecords) (t : TemperatureSamples) (writes : List Write) (agrees : Agrees t device)
    (draws : ∀ write ∈ writes, write.Draws device) :
    NothingLost t writes ↔ ∀ before write, before ++ [write] <+: writes → write.Safe (tableAfter t before) := by
  constructor
  · intro kept before write front
    have drawn : write.Draws device := draws write (front.subset (by simp))
    apply (apply_applied (t := tableAfter t before) drawn).safe
    intro returned sample member
    have stored := kept (before ++ [write]) front sample
    rw [tableAfter_snoc,returnedSamples_snoc,if_pos returned] at stored
    exact stored (List.mem_append_right _ member)
  · intro safe before front
    apply safe_keeps before (fun write member => draws write (front.subset member)) agrees
    exact fun first write part => safe first write (part.trans front)

def CompleteLive (t : TemperatureSamples) : Prop :=
  ∀ key row, t.stored key = some row → row.recordSource ≠ .history → ∀ sensorId, Knows row sensorId

theorem fold_complete {rows : List SampleColumns} (all : ∀ columns ∈ rows, FromHistory device columns) (complete : CompleteLive t) :
    CompleteLive (rows.foldl TemperatureSamples.upsert t) := by
  induction rows generalizing t with
  | nil => exact complete
  | cons columns rest ih =>
    have first := all columns List.mem_cons_self
    obtain ⟨place,named⟩ := first.named
    apply ih fun other member => all other (List.mem_cons_of_mem _ member)
    exact fun key row held foreign => complete key row (upsert_foreign named first.history held foreign) foreign

theorem Applied.complete (applied : Applied device t write after returned) (complete : CompleteLive t)
    (known : ∀ sample fault columns, write = .publish sample fault → sampleParams sample = some columns →
      ∀ sensorId, Knows columns sensorId) :
    CompleteLive after := by
  cases applied with
  | unsent => exact complete
  | rejected => exact complete
  | @inserted _ columns place next fault given at_ agreeing row =>
    intro key stored held foreign
    rw [(insert_stored at_ row).2] at held
    split at held
    · cases held
      exact known _ _ _ rfl given
    · exact complete key stored held foreign
  | merged _ all => exact fold_complete all complete

theorem drawnLive_known {bootId sequence : UInt32}
    (params : sampleParams (drawnLive device bootId sequence (fun _ => true) observedAtUtc) = some columns) :
    ∀ sensorId, Knows columns sensorId := by
  rw [drawnLive,sampleParams_source,sampleParams_drawn] at params
  cases params
  intro sensorId
  change ((drawnColumns device bootId sequence (fun _ => true) observedAtUtc).field sensorId).2 ≠ .notRetrieved
  rw [drawnColumns_field]
  exact deviceField_known _

theorem complete_upserts_safe (writes : List Write) (draws : ∀ write ∈ writes, write.Draws device) (complete : CompleteLive t)
    (live : ∀ sample fault, .publish sample fault ∈ writes →
      ∃ bootId sequence observedAtUtc, sample = drawnLive device bootId sequence (fun _ => true) observedAtUtc) :
    ∀ before batch fault, before ++ [.upsert batch fault] <+: writes → (Write.upsert batch fault).Safe (tableAfter t before) := by
  have kept : CompleteLive (tableAfter t writes) ∧ ∀ before, before <+: writes → CompleteLive (tableAfter t before) := by
    induction writes using List.reverseRecOn with
    | nil => exact ⟨complete,fun before front => List.prefix_nil.mp front ▸ complete⟩
    | append_singleton writes write ih =>
      obtain ⟨here,earlier⟩ := ih (fun other member => draws other (List.mem_append_left _ member))
        fun sample fault member => live sample fault (List.mem_append_left _ member)
      have next : CompleteLive (tableAfter t (writes ++ [write])) := by
        rw [tableAfter_snoc]
        apply (apply_applied (draws write (by simp))).complete here
        intro sample fault columns same params
        obtain ⟨bootId,sequence,observedAtUtc,rfl⟩ := live sample fault (by simp [same])
        exact drawnLive_known params
      refine ⟨next,fun before front => ?_⟩
      rcases List.prefix_concat_iff.mp front with rfl | shorter
      · exact next
      · exact earlier before shorter
  intro before batch fault front
  cases fault with
  | some _ => trivial
  | none =>
    intro sample member columns key row params named held foreign sensorId _
    exact kept.2 before ((List.prefix_append _ _).trans front) key row held foreign sensorId

theorem empty_agrees (device : DeviceRecords) : Agrees emptySamples device := fun _ _ held => nomatch held

-- A history batch retrieves sensor 1 only, then the live sample of the same second arrives.
def lateLive : List Write :=
  [.upsert ⟨[drawnSample roomRecords 7 1 (· = 0) 0]⟩ none,.publish (drawnLive roomRecords 7 1 (fun _ => true) 0) none]

theorem lateLive_draws : ∀ write ∈ lateLive, write.Draws roomRecords := by
  intro write member
  rcases List.mem_cons.mp member with rfl | last
  · intro sample among
    exact ⟨7,1,_,0,List.mem_singleton.mp among⟩
  · cases List.mem_singleton.mp last
    exact ⟨7,1,_,0,rfl⟩

theorem nothing_lost_iff_lateLive : NothingLost emptySamples lateLive ↔
    ∀ before write, before ++ [write] <+: lateLive → write.Safe (tableAfter emptySamples before) :=
  nothing_lost_iff roomRecords emptySamples lateLive (empty_agrees roomRecords) lateLive_draws

-- Both calls return, and the row still has no reading of sensor 2.
theorem live_reading_lost :
    (returnedSamples emptySamples lateLive).length = 2 ∧
      ((tableAfter emptySamples lateLive).stored (7,1)).map (·.field 1) = some (none,.notRetrieved) ∧
      ¬ NothingLost emptySamples lateLive := by
  have row : ((tableAfter emptySamples lateLive).stored (7,1)).map (·.field 1) = some (none,.notRetrieved) := by decide +kernel
  have returned : returnedSamples emptySamples lateLive =
      [drawnSample roomRecords 7 1 (· = 0) 0,drawnLive roomRecords 7 1 (fun _ => true) 0] := by decide +kernel
  refine ⟨congrArg List.length returned,row,fun kept => ?_⟩
  have member : drawnLive roomRecords 7 1 (fun _ => true) 0 ∈ returnedSamples emptySamples lateLive := by
    rw [returned]
    exact List.mem_cons_of_mem _ List.mem_cons_self
  have known : (sampleParams (drawnLive roomRecords 7 1 (fun _ => true) 0)).map (fun columns => (columns.key,columns.field 1)) =
      some (some (7,1),some 1913,.valid) := by decide +kernel
  obtain ⟨columns,params,same⟩ := Option.map_eq_some_iff.mp known
  obtain ⟨named,field⟩ := Prod.mk.inj same
  obtain ⟨stored,held,equal⟩ := kept lateLive (List.prefix_refl _) _ member columns (7,1) 1 params named (by
    unfold Knows
    rw [field]
    nofun)
  rw [held,Option.map_some,equal,field] at row
  cases row

end Thermometer.Client
