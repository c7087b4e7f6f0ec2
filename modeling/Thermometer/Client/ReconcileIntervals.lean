import Thermometer.Client.MysqlAdapter

-- Which placeholders a history batch removes from the table.
namespace Thermometer.Client

section Tiling
variable {𝕜 : Type} [Field 𝕜] [LinearOrder 𝕜] [IsStrictOrderedRing 𝕜]

-- Closed intervals of one radius around points that are at most a diameter apart leave no
-- hole between the first point and the last.
theorem tiled {radius x first last : 𝕜} (points : List 𝕜) (positive : 0 ≤ radius)
    (close : (first :: points).IsChain fun a b => b ≤ a + 2 * radius)
    (ends : (first :: points).getLast? = some last) (above : first ≤ x) (below : x ≤ last) :
    ∃ point ∈ first :: points, |x - point| ≤ radius := by
  induction points generalizing first with
  | nil =>
    cases ends
    have same : x = first := le_antisymm below above
    exact ⟨first,List.mem_cons_self,by simpa [same] using positive⟩
  | cons second rest ih =>
    obtain ⟨step,later⟩ := List.isChain_cons_cons.mp close
    rcases le_or_gt second x with past | short
    · obtain ⟨point,member,near⟩ := ih later (by rwa [List.getLast?_cons_cons] at ends) past
      exact ⟨point,List.mem_cons_of_mem _ member,near⟩
    · -- Between two neighbours one of them is near enough.
      rcases le_or_gt x (first + radius) with left | right
      · exact ⟨first,List.mem_cons_self,abs_le.mpr ⟨by linarith,by linarith⟩⟩
      · exact ⟨second,List.mem_cons_of_mem _ List.mem_cons_self,abs_le.mpr ⟨by linarith,by linarith⟩⟩

end Tiling

def sampleTimes (batch : HistoryBatch) : List Rat := batch.samples.map (·.observedAtUtc)

-- `sorted(...)`
def sortedTimes (batch : HistoryBatch) : List Rat := (sampleTimes batch).mergeSort

-- `reconcile_provisional_intervals`: the SELECT, then the DELETE if there is something to delete.
def reconcileProvisionalIntervals (samplePeriodMs : Nat) (t : TemperatureSamples) (batch : HistoryBatch) :
    TemperatureSamples × PersistenceResult :=
  if batch.samples = [] then (t,⟨true,true,some "no history samples to reconcile against"⟩)
  else
    let stale := staleIds samplePeriodMs t batch
    (if stale = [] then t else deleteStale t stale,
      ⟨true,true,some s!"removed {stale.length} provisional row(s) superseded by recovered history"⟩)

def Superseded (samplePeriodMs : Nat) (batch : HistoryBatch) (row : TemperatureSample) : Prop :=
  row.recordSource = .provisional ∧
    ∃ sample ∈ batch.samples, |(row.observedAtUtc : Rat) - sample.observedAtUtc| ≤ samplePeriodMs / 1000 / 2

instance (samplePeriodMs : Nat) (batch : HistoryBatch) : DecidablePred (Superseded samplePeriodMs batch) :=
  fun _ => inferInstanceAs (Decidable (_ ∧ ∃ sample ∈ batch.samples, _))

def Contiguous (samplePeriodMs : Nat) (batch : HistoryBatch) : Prop :=
  (sortedTimes batch).IsChain fun earlier later => later ≤ earlier + (samplePeriodMs : Rat) / 1000

variable {samplePeriodMs : Nat} {t : TemperatureSamples} {batch : HistoryBatch} {row : TemperatureSample}

theorem near_iff {observedAt : Int} {sample : SampleRecord} : near samplePeriodMs observedAt sample = true ↔
    |(observedAt : Rat) - sample.observedAtUtc| ≤ samplePeriodMs / 1000 / 2 := decide_eq_true_iff

theorem mem_sortedTimes {time : Rat} : time ∈ sortedTimes batch ↔ time ∈ sampleTimes batch :=
  (List.mergeSort_perm _ _).mem_iff

theorem sampleTimes_nil (sorted : sortedTimes batch = []) : sampleTimes batch = [] := by
  have same := List.mergeSort_perm (sampleTimes batch) fun a b => decide (a ≤ b)
  exact List.nil_perm.mp (sorted ▸ same)

theorem sortedTimes_ordered (batch : HistoryBatch) : (sortedTimes batch).Pairwise (· ≤ ·) :=
  List.pairwise_mergeSort' (· ≤ ·) _

theorem window_start : (sampleTimes batch).min? = (sortedTimes batch).head? := by
  cases sorted : sortedTimes batch with
  | nil => rw [sampleTimes_nil sorted,List.min?_nil,List.head?_nil]
  | cons first rest =>
    have ordered := sortedTimes_ordered batch
    rw [sorted,List.pairwise_cons] at ordered
    refine List.min?_eq_some_iff.mpr ⟨mem_sortedTimes.mp (sorted ▸ List.mem_cons_self),fun time member => ?_⟩
    rcases List.mem_cons.mp (sorted ▸ mem_sortedTimes.mpr member) with rfl | later
    · exact le_rfl
    · exact ordered.1 time later

theorem window_end : (sampleTimes batch).max? = (sortedTimes batch).getLast? := by
  rcases List.eq_nil_or_concat (sortedTimes batch) with sorted | ⟨rest,last,sorted⟩
  · rw [sorted,sampleTimes_nil sorted,List.max?_nil,List.getLast?_nil]
  · have ordered := sortedTimes_ordered batch
    rw [sorted,List.concat_eq_append,List.pairwise_append] at ordered
    rw [sorted,List.concat_eq_append,List.getLast?_concat]
    refine List.max?_eq_some_iff.mpr ⟨mem_sortedTimes.mp (by simp [sorted]),fun time member => ?_⟩
    have among : time ∈ rest ++ [last] := by simpa [sorted] using mem_sortedTimes.mpr member
    rcases List.mem_append.mp among with earlier | final
    · exact ordered.2.2 time earlier last (List.mem_singleton.mpr rfl)
    · exact le_of_eq (List.mem_singleton.mp final)

theorem window_contains {first last : Rat} {sample : SampleRecord} (member : sample ∈ batch.samples)
    (least : (sampleTimes batch).min? = some first) (greatest : (sampleTimes batch).max? = some last)
    (close : |(row.observedAtUtc : Rat) - sample.observedAtUtc| ≤ samplePeriodMs / 1000 / 2) :
    first - tolerance samplePeriodMs ≤ row.observedAtUtc ∧ row.observedAtUtc ≤ last + tolerance samplePeriodMs := by
  have among : sample.observedAtUtc ∈ sampleTimes batch := List.mem_map_of_mem member
  have lower : first ≤ sample.observedAtUtc := (List.min?_eq_some_iff.mp least).2 _ among
  have upper : sample.observedAtUtc ≤ last := (List.max?_eq_some_iff.mp greatest).2 _ among
  obtain ⟨left,right⟩ := abs_le.mp close
  unfold tolerance
  constructor
  · linarith
  · linarith

theorem mem_staleIds {id : Nat} : id ∈ staleIds samplePeriodMs t batch ↔
    ∃ row ∈ t.rows, row.id = id ∧ Superseded samplePeriodMs batch row := by
  unfold staleIds
  split
  · rename_i first last least greatest
    constructor
    · intro member
      obtain ⟨row,found,same⟩ := List.mem_map.mp member
      obtain ⟨candidate,close⟩ := List.mem_filter.mp found
      obtain ⟨present,provisional⟩ := List.mem_filter.mp candidate
      obtain ⟨sample,among,near⟩ := List.any_eq_true.mp close
      exact ⟨row,present,same,(of_decide_eq_true provisional).1,sample,among,near_iff.mp near⟩
    · rintro ⟨row,present,same,provisional,sample,among,close⟩
      have window := window_contains among least greatest close
      have near := List.any_eq_true.mpr ⟨sample,among,near_iff.mpr close⟩
      refine List.mem_map.mpr ⟨row,List.mem_filter.mpr ⟨List.mem_filter.mpr ⟨present,?_⟩,near⟩,same⟩
      exact decide_eq_true ⟨provisional,window⟩
  · -- Without a first and a last time there is no sample.
    rename_i missing
    constructor
    · nofun
    · rintro ⟨row,_,_,_,sample,among,_⟩
      have held : sample.observedAtUtc ∈ sampleTimes batch := List.mem_map_of_mem among
      obtain ⟨first,least⟩ := Option.isSome_iff_exists.mp (List.isSome_min?_of_mem held)
      obtain ⟨last,greatest⟩ := Option.isSome_iff_exists.mp (List.isSome_max?_of_mem held)
      exact (missing first last least greatest).elim

theorem superseded_iff (present : row ∈ t.rows) :
    row.id ∈ staleIds samplePeriodMs t batch ↔ Superseded samplePeriodMs batch row := by
  rw [mem_staleIds]
  constructor
  · rintro ⟨other,member,same,superseded⟩
    have equal : other = row := List.inj_on_of_nodup_map t.primaryKey.1 member present same
    exact equal ▸ superseded
  · intro superseded
    exact ⟨row,present,rfl,superseded⟩

theorem deleteStale_rows : (deleteStale t (staleIds samplePeriodMs t batch)).rows =
    t.rows.filter fun row => ¬ Superseded samplePeriodMs batch row := by
  apply List.filter_congr
  intro row present
  by_cases superseded : Superseded samplePeriodMs batch row
  · simp [superseded,superseded.1,(superseded_iff present).mpr superseded]
  · have kept : row.id ∉ staleIds samplePeriodMs t batch := fun stale => superseded ((superseded_iff present).mp stale)
    simp [superseded,kept]

theorem reconcile_rows : (reconcileProvisionalIntervals samplePeriodMs t batch).1.rows =
    t.rows.filter fun row => ¬ Superseded samplePeriodMs batch row := by
  unfold reconcileProvisionalIntervals
  split
  · rename_i empty
    symm
    apply List.filter_eq_self.mpr
    intro row _
    simp [Superseded,empty]
  · by_cases nothing : staleIds samplePeriodMs t batch = []
    · simp only [if_pos nothing]
      symm
      apply List.filter_eq_self.mpr
      intro row present
      have fresh : row.id ∉ staleIds samplePeriodMs t batch := by simp [nothing]
      exact decide_eq_true fun superseded => fresh ((superseded_iff present).mpr superseded)
    · simp only [if_neg nothing,deleteStale_rows]

theorem contiguous_near {first last observedAt : Rat} (contiguous : Contiguous samplePeriodMs batch)
    (starts : (sortedTimes batch).head? = some first) (ends : (sortedTimes batch).getLast? = some last)
    (above : first ≤ observedAt) (below : observedAt ≤ last) :
    ∃ sample ∈ batch.samples, |observedAt - sample.observedAtUtc| ≤ samplePeriodMs / 1000 / 2 := by
  obtain ⟨rest,sorted⟩ := List.head?_eq_some_iff.mp starts
  rw [Contiguous,sorted] at contiguous
  rw [sorted] at ends
  have close : (first :: rest).IsChain fun a b => b ≤ a + 2 * ((samplePeriodMs : Rat) / 1000 / 2) :=
    contiguous.imp fun a b step => by linarith
  have positive : (0 : Rat) ≤ samplePeriodMs / 1000 / 2 := by positivity
  obtain ⟨time,member,near⟩ := tiled rest positive close ends above below
  obtain ⟨sample,among,rfl⟩ := List.mem_map.mp (mem_sortedTimes.mp (sorted ▸ member))
  exact ⟨sample,among,near⟩

-- The rows that go are the placeholders within half a sample period of a sample, and no
-- placeholder stays between two samples of a contiguous batch.
theorem reconcile_coverage (samplePeriodMs : Nat) (t : TemperatureSamples) (batch : HistoryBatch) :
    (reconcileProvisionalIntervals samplePeriodMs t batch).1.rows =
      t.rows.filter (fun row => ¬ Superseded samplePeriodMs batch row) ∧
    (Contiguous samplePeriodMs batch → ∀ earlier ∈ batch.samples, ∀ later ∈ batch.samples,
      ∀ row ∈ (reconcileProvisionalIntervals samplePeriodMs t batch).1.rows, row.recordSource = .provisional →
        ¬ (earlier.observedAtUtc ≤ row.observedAtUtc ∧ row.observedAtUtc ≤ later.observedAtUtc)) := by
  refine ⟨reconcile_rows,?_⟩
  rintro contiguous earlier amongEarlier later amongLater row member provisional ⟨above,below⟩
  have heldEarlier : earlier.observedAtUtc ∈ sampleTimes batch := List.mem_map_of_mem amongEarlier
  have heldLater : later.observedAtUtc ∈ sampleTimes batch := List.mem_map_of_mem amongLater
  obtain ⟨first,least⟩ := Option.isSome_iff_exists.mp (List.isSome_min?_of_mem heldEarlier)
  obtain ⟨last,greatest⟩ := Option.isSome_iff_exists.mp (List.isSome_max?_of_mem heldLater)
  have starts := (List.min?_eq_some_iff.mp least).2 _ heldEarlier
  have ends := (List.max?_eq_some_iff.mp greatest).2 _ heldLater
  obtain ⟨sample,among,near⟩ := contiguous_near contiguous (window_start.symm.trans least) (window_end.symm.trans greatest)
    (starts.trans above) (below.trans ends)
  rw [reconcile_rows] at member
  exact of_decide_eq_true (List.mem_filter.mp member).2 ⟨provisional,sample,among,near⟩

private def coverageSample (observedAtUtc : Rat) : SampleRecord := ⟨observedAtUtc,some 7,some 0,[],none,.history,none⟩

private def coverageBatch : HistoryBatch := ⟨[coverageSample (41 / 4),coverageSample (45 / 4),coverageSample (49 / 4)]⟩

private def coverageRow (id : Nat) (observedAtUtc : Int) (source : RecordSource) : TemperatureSample :=
  ⟨⟨none,none,observedAtUtc,none,.missing,none,.missing,none,false,source,none⟩,id⟩

private def coverageTable : TemperatureSamples where
  rows := [coverageRow 1 9 .provisional,coverageRow 2 11 .provisional,coverageRow 3 12 .live,coverageRow 4 13 .provisional]
  autoIncrement := 5
  primaryKey := by decide
  uqSample := by decide

theorem coverageBatch_contiguous : Contiguous 1000 coverageBatch := by
  have sorted : sortedTimes coverageBatch = [41 / 4,45 / 4,49 / 4] := List.mergeSort_of_pairwise (by decide +kernel)
  rw [Contiguous,sorted]
  decide +kernel

theorem reconcile_coverage_three :
    (reconcileProvisionalIntervals 1000 coverageTable coverageBatch).1.rows =
      coverageTable.rows.filter (fun row => ¬ Superseded 1000 coverageBatch row) ∧
    ∀ row ∈ (reconcileProvisionalIntervals 1000 coverageTable coverageBatch).1.rows, row.recordSource = .provisional →
      ¬ ((41 / 4 : Rat) ≤ row.observedAtUtc ∧ row.observedAtUtc ≤ (49 / 4 : Rat)) := by
  have covered := reconcile_coverage 1000 coverageTable coverageBatch
  exact ⟨covered.1,covered.2 coverageBatch_contiguous (coverageSample (41 / 4)) (by simp [coverageBatch])
    (coverageSample (49 / 4)) (by simp [coverageBatch])⟩

end Thermometer.Client
