import Mathlib.Data.List.Pairwise
import Mathlib.Data.Nat.Find
import Thermometer.Frontend.PlottedFrames

-- ChartRecorder.tsx: the bands and the trace of one sensor. Coordinates are points of any line:
-- that paintBand makes a band at least one pixel wide, and the triangles of readings off the
-- scale, are left out.
namespace Thermometer.Frontend.DataSource

structure Sample (X : Type) where
  x : X
  celsius : Option Rat

structure Band (X : Type) where
  x0 : X
  x1 : X
  deriving DecidableEq

inductive PathCommand (X Y : Type) where
  | moveTo (x : X) (y : Y)
  | lineTo (x : X) (y : Y)

variable {X Y : Type}

-- `place` is where the chart draws what was observed so many milliseconds ago.
def samplesOf (place : Int → X) (history : List ThermometerFrame) (nowMs : Int) (sensorId : SensorId) : List (Sample X) :=
  history.map fun frame => ⟨place (nowMs - frame.timestamp),(frame.readings sensorId).celsius⟩

structure MissingLoop (X : Type) where
  runStart : Option Nat
  bands : List (Band X)

def missingAt (samples : List (Sample X)) (i : Nat) : Bool := samples[i]?.any fun sample => sample.celsius.isNone

-- `samples[runStart - 1]?.x ?? samples[runStart].x` and `samples[i]?.x ?? samples[i - 1].x`.
def bandStart (samples : List (Sample X)) (runStart : Nat) : Option X :=
  ((if runStart = 0 then none else samples[runStart - 1]?) <|> samples[runStart]?).map (·.x)

def bandEnd (samples : List (Sample X)) (i : Nat) : Option X := (samples[i]? <|> samples[i - 1]?).map (·.x)

def band (samples : List (Sample X)) (runStart i : Nat) : Option (Band X) := do
  let x0 ← bandStart samples runStart
  let x1 ← bandEnd samples i
  some ⟨x0,x1⟩

def missingRound (samples : List (Sample X)) (loop : MissingLoop X) (i : Nat) : MissingLoop X :=
  let missing := missingAt samples i
  let runStart := if missing && loop.runStart.isNone then some i else loop.runStart
  match runStart with
  | some start => if missing then ⟨some start,loop.bands⟩ else ⟨none,loop.bands ++ (band samples start i).toList⟩
  | none => ⟨none,loop.bands⟩

def drawMissingBands (samples : List (Sample X)) : List (Band X) :=
  ((List.range (samples.length + 1)).foldl (missingRound samples) ⟨none,[]⟩).bands

structure Pen (X Y : Type) where
  down : Bool
  commands : List (PathCommand X Y)

def traceRound (yForC : Rat → Y) (pen : Pen X Y) (sample : Sample X) : Pen X Y :=
  match sample.celsius with
  | none => { pen with down := false }
  | some celsius =>
    ⟨true,pen.commands ++ [if pen.down then .lineTo sample.x (yForC celsius) else .moveTo sample.x (yForC celsius)]⟩

def drawTrace (yForC : Rat → Y) (samples : List (Sample X)) : List (PathCommand X Y) :=
  (samples.foldl (traceRound yForC) ⟨false,[]⟩).commands

-- What a canvas strokes for a path: a line to each point from the one before it.
def strokes : Option (X × Y) → List (PathCommand X Y) → List ((X × Y) × (X × Y))
  | _,[] => []
  | _,.moveTo x y :: rest => strokes (some (x,y)) rest
  | none,.lineTo x y :: rest => strokes (some (x,y)) rest
  | some point,.lineTo x y :: rest => (point,(x,y)) :: strokes (some (x,y)) rest

structure MissingRun (samples : List (Sample X)) (start stop : Nat) : Prop where
  nonempty : start < stop
  missing : ∀ j, start ≤ j → j < stop → missingAt samples j = true
  before : start = 0 ∨ missingAt samples (start - 1) = false
  after : missingAt samples stop = false

theorem missingAt_length {samples : List (Sample X)} {i : Nat} (missing : missingAt samples i = true) : i < samples.length := by
  by_contra outside
  rw [missingAt,List.getElem?_eq_none (not_lt.mp outside)] at missing
  cases missing

structure LoopInvariant (samples : List (Sample X)) (i : Nat) (loop : MissingLoop X) : Prop where
  closed : ∀ drawn, drawn ∈ loop.bands ↔ ∃ start stop, stop < i ∧ MissingRun samples start stop ∧ band samples start stop = some drawn
  running : ∀ start, loop.runStart = some start →
    start < i ∧ (∀ j, start ≤ j → j < i → missingAt samples j = true) ∧ (start = 0 ∨ missingAt samples (start - 1) = false)
  resting : loop.runStart = none → i = 0 ∨ missingAt samples (i - 1) = false

theorem MissingRun.start_le {samples : List (Sample X)} {start other stop : Nat} (run : MissingRun samples start stop)
    (same_stop : MissingRun samples other stop) : start ≤ other := by
  rcases run.before with zero | measured
  · omega
  · by_contra later
    have inside := same_stop.missing (start - 1) (by omega) (by have := run.nonempty; omega)
    rw [measured] at inside
    cases inside

theorem MissingRun.start_unique {samples : List (Sample X)} {start other stop : Nat} (run : MissingRun samples start stop)
    (same_stop : MissingRun samples other stop) : start = other :=
  Nat.le_antisymm (run.start_le same_stop) (same_stop.start_le run)

theorem missing_round {samples : List (Sample X)} {i : Nat} {loop : MissingLoop X} (missing : missingAt samples i = true)
    (invariant : LoopInvariant samples i loop) : LoopInvariant samples (i + 1) (missingRound samples loop i) := by
  -- No run ends in front of a missing sample.
  have same_runs : ∀ {start stop}, MissingRun samples start stop → (stop < i + 1 ↔ stop < i) := by
    intro start stop run
    have elsewhere : stop ≠ i := by
      rintro rfl
      rw [run.after] at missing
      cases missing
    omega
  have closed : ∀ drawn, drawn ∈ loop.bands ↔
      ∃ start stop, stop < i + 1 ∧ MissingRun samples start stop ∧ band samples start stop = some drawn := by
    intro drawn
    rw [invariant.closed]
    constructor
    · rintro ⟨start,stop,earlier,run,drawn⟩
      exact ⟨start,stop,Nat.lt_succ_of_lt earlier,run,drawn⟩
    · rintro ⟨start,stop,earlier,run,drawn⟩
      exact ⟨start,stop,(same_runs run).mp earlier,run,drawn⟩
  have extends_to : ∀ start, (∀ j, start ≤ j → j < i → missingAt samples j = true) →
      ∀ j, start ≤ j → j < i + 1 → missingAt samples j = true := by
    intro start earlier j from_start until_here
    rcases Nat.lt_succ_iff_lt_or_eq.mp until_here with before | rfl
    · exact earlier j from_start before
    · exact missing
  cases running : loop.runStart with
  | none =>
    have round : missingRound samples loop i = ⟨some i,loop.bands⟩ := by
      simp [missingRound,missing,running]
    rw [round]
    refine ⟨closed,?_,nofun⟩
    intro start here
    cases Option.some.inj here
    exact ⟨Nat.lt_succ_self i,extends_to i fun j from_here before => by omega,invariant.resting running⟩
  | some start =>
    have round : missingRound samples loop i = ⟨some start,loop.bands⟩ := by
      simp [missingRound,missing,running]
    rw [round]
    refine ⟨closed,?_,nofun⟩
    intro other same
    cases Option.some.inj same
    obtain ⟨earlier,inside,before⟩ := invariant.running start running
    exact ⟨Nat.lt_succ_of_lt earlier,extends_to start inside,before⟩

theorem measured_round {samples : List (Sample X)} {i : Nat} {loop : MissingLoop X} (measured : missingAt samples i = false)
    (invariant : LoopInvariant samples i loop) : LoopInvariant samples (i + 1) (missingRound samples loop i) := by
  cases running : loop.runStart with
  | none =>
    have round : missingRound samples loop i = ⟨none,loop.bands⟩ := by
      simp [missingRound,measured,running]
    rw [round]
    refine ⟨?_,nofun,fun _ => .inr measured⟩
    intro drawn
    rw [invariant.closed]
    constructor
    · rintro ⟨start,stop,earlier,run,drawn⟩
      exact ⟨start,stop,Nat.lt_succ_of_lt earlier,run,drawn⟩
    · rintro ⟨start,stop,earlier,run,drawn⟩
      refine ⟨start,stop,?_,run,drawn⟩
      have elsewhere : stop ≠ i := by
        rintro rfl
        have before := run.nonempty
        have inside := run.missing (stop - 1) (by omega) (by omega)
        rcases invariant.resting running with zero | measured
        · omega
        · rw [measured] at inside
          cases inside
      omega
  | some start =>
    have round : missingRound samples loop i = ⟨none,loop.bands ++ (band samples start i).toList⟩ := by
      simp [missingRound,measured,running]
    obtain ⟨earlier,inside,before⟩ := invariant.running start running
    have ended : MissingRun samples start i := ⟨earlier,inside,before,measured⟩
    rw [round]
    refine ⟨?_,nofun,fun _ => .inr measured⟩
    intro drawn
    rw [List.mem_append,invariant.closed,Option.mem_toList]
    constructor
    · rintro (⟨first,stop,ended_before,run,old⟩ | new)
      · exact ⟨first,stop,Nat.lt_succ_of_lt ended_before,run,old⟩
      · exact ⟨start,i,Nat.lt_succ_self i,ended,new⟩
    · rintro ⟨first,stop,ended_before,run,drawn⟩
      rcases Nat.lt_succ_iff_lt_or_eq.mp ended_before with old | rfl
      · exact .inl ⟨first,stop,old,run,drawn⟩
      · rw [run.start_unique ended] at drawn
        exact .inr drawn

theorem loop_invariant (samples : List (Sample X)) (n : Nat) :
    LoopInvariant samples n ((List.range n).foldl (missingRound samples) ⟨none,[]⟩) := by
  induction n with
  | zero => exact ⟨fun drawn => by simp,nofun,fun _ => .inl rfl⟩
  | succ i ih =>
    rw [List.range_succ,List.foldl_append]
    cases state : missingAt samples i with
    | true => exact missing_round state ih
    | false => exact measured_round state ih

theorem mem_drawMissingBands (samples : List (Sample X)) (drawn : Band X) : drawn ∈ drawMissingBands samples ↔
    ∃ start stop, MissingRun samples start stop ∧ band samples start stop = some drawn := by
  unfold drawMissingBands
  rw [(loop_invariant samples (samples.length + 1)).closed]
  constructor
  · rintro ⟨start,stop,_,run,drawn⟩
    exact ⟨start,stop,run,drawn⟩
  · rintro ⟨start,stop,run,drawn⟩
    have last := run.nonempty
    have before_end := missingAt_length (run.missing (stop - 1) (by omega) (by omega))
    exact ⟨start,stop,by omega,run,drawn⟩

theorem missing_run {samples : List (Sample X)} {i : Nat} (missing : missingAt samples i = true) :
    ∃ start stop, start ≤ i ∧ i < stop ∧ MissingRun samples start stop := by
  have invariant := loop_invariant samples (i + 1)
  cases running : ((List.range (i + 1)).foldl (missingRound samples) ⟨none,[]⟩).runStart with
  | none =>
    rcases invariant.resting running with zero | measured
    · omega
    · rw [Nat.add_sub_cancel,missing] at measured
      cases measured
  | some start =>
    obtain ⟨earlier,inside,before⟩ := invariant.running start running
    have ends : ∃ later, missingAt samples (i + 1 + later) = false := by
      refine ⟨samples.length,?_⟩
      rw [missingAt,List.getElem?_eq_none (by omega)]
      rfl
    refine ⟨start,i + 1 + Nat.find ends,by omega,by omega,by omega,?_,before,Nat.find_spec ends⟩
    intro j from_start until_end
    rcases Nat.lt_or_ge j (i + 1) with before_next | after
    · exact inside j from_start before_next
    · have between := Nat.find_min ends (show j - (i + 1) < Nat.find ends by omega)
      rw [Nat.add_sub_cancel' after] at between
      simpa using between

def joined (yForC : Rat → Y) (samples : List (Sample X)) : List ((X × Y) × (X × Y)) :=
  (samples.zip samples.tail).filterMap fun pair => do
    let before ← pair.1.celsius
    let after ← pair.2.celsius
    some ((pair.1.x,yForC before),(pair.2.x,yForC after))

theorem trace_accumulates (yForC : Rat → Y) (samples : List (Sample X)) (down : Bool) (commands : List (PathCommand X Y)) :
    (samples.foldl (traceRound yForC) ⟨down,commands⟩).commands =
      commands ++ (samples.foldl (traceRound yForC) ⟨down,[]⟩).commands := by
  induction samples generalizing down commands with
  | nil => exact (List.append_nil _).symm
  | cons sample rest ih =>
    rw [List.foldl_cons,List.foldl_cons]
    cases measured : sample.celsius with
    | none =>
      simp only [traceRound,measured]
      exact ih false commands
    | some celsius =>
      simp only [traceRound,measured]
      rw [ih,ih true ([] ++ _),List.append_assoc,List.nil_append]

theorem strokes_trace (yForC : Rat → Y) (samples : List (Sample X)) :
    (∀ pen, strokes pen (samples.foldl (traceRound yForC) ⟨false,[]⟩).commands = joined yForC samples) ∧
    ∀ x celsius, strokes (some (x,yForC celsius)) (samples.foldl (traceRound yForC) ⟨true,[]⟩).commands =
      joined yForC (⟨x,some celsius⟩ :: samples) := by
  induction samples with
  | nil => exact ⟨fun pen => by cases pen <;> rfl,fun x celsius => rfl⟩
  | cons sample rest ih =>
    obtain ⟨up,down⟩ := ih
    rcases sample with ⟨x,measured⟩
    cases measured with
    | none =>
      have skipped : joined yForC (⟨x,none⟩ :: rest) = joined yForC rest := by
        cases rest <;> simp [joined]
      refine ⟨fun pen => ?_,fun before celsius => ?_⟩
      · rw [skipped,List.foldl_cons]
        exact up pen
      · have apart : joined yForC (⟨before,some celsius⟩ :: ⟨x,none⟩ :: rest) = joined yForC (⟨x,none⟩ :: rest) := by
          simp [joined]
        rw [apart,skipped,List.foldl_cons]
        exact up _
    | some value =>
      refine ⟨fun pen => ?_,fun before celsius => ?_⟩
      · rw [List.foldl_cons,← down x value]
        simp only [traceRound,List.nil_append,Bool.false_eq_true,if_false]
        rw [trace_accumulates]
        cases pen <;> rfl
      · have linked : joined yForC (⟨before,some celsius⟩ :: ⟨x,some value⟩ :: rest) =
            ((before,yForC celsius),(x,yForC value)) :: joined yForC (⟨x,some value⟩ :: rest) := by
          simp [joined]
        rw [linked,List.foldl_cons,← down x value]
        simp only [traceRound,List.nil_append,if_true]
        rw [trace_accumulates]
        rfl

theorem strokes_drawTrace (yForC : Rat → Y) (samples : List (Sample X)) :
    strokes none (drawTrace yForC samples) = joined yForC samples := (strokes_trace yForC samples).1 none

theorem MissingRun.band {samples : List (Sample X)} {start stop : Nat} (run : MissingRun samples start stop) :
    ∃ first last ending, samples[start - 1]? = some first ∧ samples[ending]? = some last ∧
      (ending = stop ∨ ending + 1 = stop ∧ stop = samples.length) ∧
      DataSource.band samples start stop = some ⟨first.x,last.x⟩ := by
  have nonempty := run.nonempty
  have fits : stop ≤ samples.length := by
    have inside := missingAt_length (run.missing (stop - 1) (by omega) (by omega))
    omega
  obtain ⟨opening,first⟩ : ∃ opening, samples[start - 1]? = some opening :=
    ⟨samples.get ⟨start - 1,by omega⟩,List.getElem?_eq_getElem _⟩
  have starts : bandStart samples start = some opening.x := by
    unfold bandStart
    by_cases zero : start = 0
    · subst zero
      have oldest : samples[0]? = some opening := first
      rw [if_pos rfl,oldest]
      rfl
    · rw [if_neg zero,first]
      rfl
  rcases Nat.lt_or_ge stop samples.length with inside | at_end
  · have last : samples[stop]? = some samples[stop] := List.getElem?_eq_getElem inside
    refine ⟨_,_,stop,first,last,.inl rfl,?_⟩
    simp [DataSource.band,starts,bandEnd,last]
  · have whole : stop = samples.length := Nat.le_antisymm fits at_end
    obtain ⟨closing,last⟩ : ∃ closing, samples[stop - 1]? = some closing :=
      ⟨samples.get ⟨stop - 1,by omega⟩,List.getElem?_eq_getElem _⟩
    have beyond : samples[stop]? = none := List.getElem?_eq_none at_end
    refine ⟨_,_,stop - 1,first,last,.inr ⟨by omega,whole⟩,?_⟩
    simp [DataSource.band,starts,bandEnd,last,beyond]

variable [Preorder X]

def Rightward (samples : List (Sample X)) : Prop := samples.Pairwise fun left right => left.x ≤ right.x

theorem Rightward.le {samples : List (Sample X)} (rightward : Rightward samples) {i j : Nat} {left right : Sample X}
    (at_left : samples[i]? = some left) (at_right : samples[j]? = some right) (order : i ≤ j) : left.x ≤ right.x := by
  obtain ⟨inside_left,rfl⟩ := List.getElem?_eq_some_iff.mp at_left
  obtain ⟨inside_right,rfl⟩ := List.getElem?_eq_some_iff.mp at_right
  rcases Nat.lt_or_eq_of_le order with before | rfl
  · exact List.pairwise_iff_getElem.mp rightward i j inside_left inside_right before
  · exact le_rfl

theorem samplesOf_rightward {place : Int → X} (scrolls : ∀ newer older, newer ≤ older → place older ≤ place newer)
    {frames : List ThermometerFrame} (chronological : Chronological frames) (nowMs : Int) (id : SensorId) :
    Rightward (samplesOf place frames nowMs id) := by
  unfold Rightward samplesOf
  rw [List.pairwise_map]
  exact chronological.imp fun earlier => scrolls _ _ (by omega)

theorem bands_apart {samples : List (Sample X)} (rightward : Rightward samples) {i : Nat} {left right : Sample X}
    (at_left : samples[i]? = some left) (at_right : samples[i + 1]? = some right)
    (measured : left.celsius.isSome) (measured_next : right.celsius.isSome) :
    ∀ drawn ∈ drawMissingBands samples, drawn.x1 ≤ left.x ∨ right.x ≤ drawn.x0 := by
  intro drawn member
  obtain ⟨start,stop,run,is_band⟩ := (mem_drawMissingBands samples drawn).mp member
  obtain ⟨first,last,ending,at_first,at_last,ends,same⟩ := run.band
  cases Option.some.inj (is_band.symm.trans same)
  have outside : ∀ j sample, samples[j]? = some sample → sample.celsius.isSome → j < start ∨ stop ≤ j := by
    intro j sample found has_reading
    by_contra inside
    have missing := run.missing j (by omega) (by omega)
    rw [missingAt,found] at missing
    cases reading : sample.celsius <;> simp [reading] at missing has_reading
  have inside := missingAt_length (run.missing start le_rfl run.nonempty)
  have right_fits := (List.getElem?_eq_some_iff.mp at_right).1
  rcases outside i left at_left measured with before | after
  · rcases outside (i + 1) right at_right measured_next with before_next | after_next
    · exact .inr (rightward.le at_right at_first (by omega))
    · have nonempty := run.nonempty
      omega
  · refine .inl (rightward.le at_last at_left ?_)
    rcases ends with rfl | ⟨_,_⟩ <;> omega

theorem bands_cover {samples : List (Sample X)} (rightward : Rightward samples) {i j : Nat} {left right : Sample X}
    (at_left : samples[i]? = some left) (at_right : samples[j]? = some right) (next : i ≤ j ∧ j ≤ i + 1)
    (missing : missingAt samples i = true ∨ missingAt samples j = true) :
    ∃ drawn ∈ drawMissingBands samples, drawn.x0 ≤ left.x ∧ right.x ≤ drawn.x1 := by
  obtain ⟨start,stop,starts,stops,run⟩ : ∃ start stop, start ≤ i + 1 ∧ j ≤ stop ∧ MissingRun samples start stop := by
    rcases missing with left_missing | right_missing
    · obtain ⟨start,stop,from_start,to_stop,run⟩ := missing_run left_missing
      exact ⟨start,stop,by omega,by omega,run⟩
    · obtain ⟨start,stop,from_start,to_stop,run⟩ := missing_run right_missing
      exact ⟨start,stop,by omega,by omega,run⟩
  obtain ⟨first,last,ending,at_first,at_last,ends,drawn⟩ := run.band
  have right_fits := (List.getElem?_eq_some_iff.mp at_right).1
  refine ⟨⟨first.x,last.x⟩,(mem_drawMissingBands samples _).mpr ⟨start,stop,run,drawn⟩,?_,?_⟩
  · exact rightward.le at_first at_left (by omega)
  · refine rightward.le at_right at_last ?_
    rcases ends with rfl | ⟨_,_⟩ <;> omega

-- The line and the bands of a sensor share out the chart between its oldest and its newest frame: the line joins
-- exactly the neighbouring readings, no band lies over such a stretch, and every other stretch,
-- like every frame without a reading, is within a band.
theorem chart_shared_out {place : Int → X} (scrolls : ∀ newer older, newer ≤ older → place older ≤ place newer)
    {frames : List ThermometerFrame} (chronological : Chronological frames) (nowMs : Int) (id : SensorId) (yForC : Rat → Y) :
    let samples := samplesOf place frames nowMs id
    strokes none (drawTrace yForC samples) = joined yForC samples ∧
    (∀ i left right, samples[i]? = some left → samples[i + 1]? = some right →
      if left.celsius.isSome ∧ right.celsius.isSome then
        ∀ drawn ∈ drawMissingBands samples, drawn.x1 ≤ left.x ∨ right.x ≤ drawn.x0
      else ∃ drawn ∈ drawMissingBands samples, drawn.x0 ≤ left.x ∧ right.x ≤ drawn.x1) ∧
    ∀ sample ∈ samples, sample.celsius = none → ∃ drawn ∈ drawMissingBands samples, drawn.x0 ≤ sample.x ∧ sample.x ≤ drawn.x1 := by
  intro samples
  have rightward : Rightward samples := samplesOf_rightward scrolls chronological nowMs id
  have missing_of : ∀ i sample, samples[i]? = some sample → sample.celsius = none → missingAt samples i = true := by
    intro i sample found missing
    simp [missingAt,found,missing]
  refine ⟨strokes_drawTrace yForC samples,?_,?_⟩
  · intro i left right at_left at_right
    split
    case isTrue measured => exact bands_apart rightward at_left at_right measured.1 measured.2
    case isFalse unmeasured =>
      refine bands_cover rightward at_left at_right ⟨Nat.le_succ i,le_rfl⟩ ?_
      rcases Classical.not_and_iff_not_or_not.mp unmeasured with none_left | none_right
      · exact .inl (missing_of i left at_left (by simpa using none_left))
      · exact .inr (missing_of (i + 1) right at_right (by simpa using none_right))
  · intro sample member missing
    obtain ⟨i,found⟩ := List.mem_iff_getElem?.mp member
    exact bands_cover rightward found found ⟨le_rfl,Nat.le_succ i⟩ (.inl (missing_of i sample found missing))

-- A second without the box between two readings of it.
theorem chart_shared_out_outage :
    let measured := fun timestamp => (⟨timestamp,.on,fun id => ⟨id,some 20,true,true⟩⟩ : ThermometerFrame)
    let samples := samplesOf (fun ago => -ago) [measured 0,offlineFrame 1000,measured 2000] 2000 .one
    (∃ drawn ∈ drawMissingBands samples, drawn.x0 ≤ -1000 ∧ -1000 ≤ drawn.x1) ∧ drawMissingBands samples = [⟨-2000,0⟩] := by
  intro measured samples
  have scrolls : ∀ newer older : Int, newer ≤ older → -older ≤ -newer := fun _ _ order => Int.neg_le_neg order
  have chronological : Chronological [measured 0,offlineFrame 1000,measured 2000] := by
    simp [Chronological,measured,offlineFrame]
  have parts := chart_shared_out scrolls chronological 2000 .one fun celsius => celsius
  exact ⟨parts.2.2 ⟨-1000,none⟩ (by simp [samplesOf,offlineFrame]) rfl,by decide⟩

end Thermometer.Frontend.DataSource
