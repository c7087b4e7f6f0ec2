import Thermometer.Client.Samples
import Thermometer.Lib.Execution
import Mathlib.Algebra.Order.Archimedean.Basic
import Mathlib.Tactic.Linarith
import Mathlib.Tactic.Ring

-- `_poll_current`. The clocks are rationals, and everything that is awaited takes any time.
namespace Thermometer.Client.Poller
open Execution

structure Schedule where
  interval : Rat
  monotonicAnchor : Rat
  utcAnchor : Rat

def Schedule.slot (schedule : Schedule) (k : Nat) : Rat := schedule.monotonicAnchor + k * schedule.interval

def Schedule.slotTime (schedule : Schedule) (k : Nat) : Rat := schedule.utcAnchor + k * schedule.interval

theorem Schedule.slot_succ (schedule : Schedule) (k : Nat) :
    schedule.slot (k + 1) = schedule.slot k + schedule.interval := by
  unfold slot
  push_cast
  ring

theorem Schedule.slot_le {schedule : Schedule} (positive : 0 < schedule.interval) {j k : Nat} (le : j ≤ k) :
    schedule.slot j ≤ schedule.slot k := by
  unfold slot
  have count : (j : Rat) ≤ k := Nat.cast_le.mpr le
  have product : (j : Rat) * schedule.interval ≤ k * schedule.interval :=
    mul_le_mul_of_nonneg_right count (le_of_lt positive)
  linarith

theorem Schedule.slot_lt {schedule : Schedule} (positive : 0 < schedule.interval) {j k : Nat}
    (lt : schedule.slot j < schedule.slot k) : j < k := by
  by_contra le
  have ordered := slot_le positive (Nat.not_lt.mp le)
  linarith

inductive Stage where
  | pausing
  | sleeping (wakeAt : Rat)
  | checking
  | due
  | requesting
  | emitting
  | ended
  deriving DecidableEq

-- `now` and `caughtUp` are not part of the source: the latest time known, and the reading
-- that ended the latest catch-up. A record is kept with the deadline it was made for, and
-- a request is that deadline.
structure State where
  schedule : Schedule
  started : Bool
  nextDeadline : Rat
  stage : Stage
  now : Rat
  caughtUp : Rat
  records : List (Rat × SampleRecord)
  requests : List Rat
  linkLost : List String

inductive Action where
  | clock (reading : Rat)
  | woken (time : Rat)
  | ready
  | unready (lastError : Option String)
  | answered (snapshot : CurrentSnapshot) (temperatureC : SensorId → Option Rat) (utcNow : Rat)
  | failed (failure : Failure)
  | emitted
  | stopping
  | cancelled

namespace State

variable (s : State)

def scheduledAt : Rat := s.schedule.utcAnchor + (s.nextDeadline - s.schedule.monotonicAnchor)

def publishMissingInterval (reason : String) : State :=
  { s with records := s.records ++ [(s.nextDeadline,missingInterval s.scheduledAt reason)] }

def publishCurrentSnapshot (snapshot : CurrentSnapshot) (temperatureC : SensorId → Option Rat) (utcNow : Rat) : State :=
  { s with records := s.records ++ [(s.nextDeadline,currentSample utcNow snapshot temperatureC)] }

-- `next_deadline += interval`.
def advance (stage : Stage) : State :=
  { s with nextDeadline := s.nextDeadline + s.schedule.interval, stage := stage }

def requestFailed (failure : Failure) : State :=
  match failure with
  | .cancelled => { s with stage := .ended }
  | _ =>
    let published := s.publishMissingInterval (describeBleError failure)
    { published with linkLost := s.linkLost ++ [describeBleError failure] }.advance .pausing

def step (s : State) : Action → Option State
  | .stopping => some { s with started := false }
  | .clock reading =>
    let read := { s with now := reading }
    match s.stage with
    | .pausing =>
      if s.started then some { read with stage := .sleeping (reading + max 0 (s.nextDeadline - reading)) }
      else some { read with stage := .ended }
    | .checking =>
      if s.nextDeadline + s.schedule.interval ≤ reading then
        some ((read.publishMissingInterval "current polling deadline was missed").advance .checking)
      else some { read with caughtUp := reading, stage := .due }
    | _ => none
  | .woken time =>
    match s.stage with
    | .sleeping _ => some { s with now := time, stage := .checking }
    | _ => none
  | .ready =>
    match s.stage with
    | .due => some { s with requests := s.requests ++ [s.nextDeadline], stage := .requesting }
    | _ => none
  | .unready lastError =>
    match s.stage with
    | .due =>
      some ((s.publishMissingInterval (lastError.getD "thermometer is not connected")).advance .pausing)
    | _ => none
  | .answered snapshot temperatureC utcNow =>
    match s.stage with
    | .requesting => some { s.publishCurrentSnapshot snapshot temperatureC utcNow with stage := .emitting }
    | _ => none
  | .failed failure =>
    match s.stage with
    | .requesting => some (s.requestFailed failure)
    | _ => none
  | .emitted =>
    match s.stage with
    | .emitting => some (s.advance .pausing)
    | _ => none
  | .cancelled =>
    match s.stage with
    | .sleeping _ | .emitting => some { s with stage := .ended }
    | _ => none

def start (schedule : Schedule) : State where
  schedule := schedule
  started := true
  nextDeadline := schedule.monotonicAnchor + schedule.interval
  stage := .pausing
  now := schedule.monotonicAnchor
  caughtUp := schedule.monotonicAnchor
  records := []
  requests := []
  linkLost := []

-- The clock does not go back, and a sleep lasts at least as long as it was asked for.
def keepsTime (s : State) : Action → Bool
  | .clock reading => s.now ≤ reading
  | .woken time => s.now ≤ time && match s.stage with
    | .sleeping wakeAt => wakeAt ≤ time
    | _ => true
  | _ => true

end State

def Stage.recorded : Stage → Bool
  | .emitting => true
  | _ => false

def Stage.reached : Stage → Bool
  | .checking | .due | .requesting => true
  | _ => false

def Stage.issued : Stage → Bool
  | .requesting | .emitting => true
  | _ => false

def Polled (schedule : Schedule) (record : Rat × SampleRecord) : Prop :=
  (∃ reason, record.2 = missingInterval (schedule.utcAnchor + (record.1 - schedule.monotonicAnchor)) reason) ∨
    ∃ utcNow snapshot temperatureC, record.2 = currentSample utcNow snapshot temperatureC

structure State.Slotted (s : State) : Prop where
  deadlines : ∀ (k : Nat) (record : Rat × SampleRecord), s.records[k]? = some record →
    record.1 = s.schedule.slot (k + 1)
  polled : ∀ record ∈ s.records, Polled s.schedule record
  next : s.stage ≠ .ended → s.nextDeadline = s.schedule.slot (s.records.length + if s.stage.recorded then 0 else 1)
  increasing : s.requests.Pairwise (· < ·)
  issued : ∀ deadline ∈ s.requests, ∃ k ≤ s.records.length, deadline = s.schedule.slot (k + 1)
  earlier : ∀ deadline ∈ s.requests, s.stage ≠ .ended → s.stage.issued = false → deadline < s.nextDeadline
  latest : ∀ deadline ∈ s.requests, s.stage ≠ .ended → deadline ≤ s.nextDeadline
  past : s.schedule.slot s.records.length ≤ s.now
  asleep : ∀ wakeAt, s.stage = .sleeping wakeAt → s.nextDeadline ≤ wakeAt
  reached : s.stage.reached → s.nextDeadline ≤ s.now
  caught : s.stage ≠ .ended → s.caughtUp < s.nextDeadline + s.schedule.interval
  idle : s.stage ≠ .ended → s.stage ≠ .due → s.stage.issued = false → s.caughtUp < s.nextDeadline

namespace State.Slotted

variable {s next : State} {stage : Stage}

theorem published (slotted : s.Slotted) (reached : s.stage.reached)
    {sample : SampleRecord} (polled : Polled s.schedule (s.nextDeadline,sample)) :
    { s with records := s.records ++ [(s.nextDeadline,sample)], stage := .emitting }.Slotted := by
  have running : s.stage ≠ .ended := by
    intro ended
    rw [ended] at reached
    cases reached
  have next : s.nextDeadline = s.schedule.slot (s.records.length + 1) := by
    have unrecorded : s.stage.recorded = false := by
      cases at' : s.stage <;> simp_all [Stage.reached,Stage.recorded]
    simpa [unrecorded] using slotted.next running
  refine ⟨?_,?_,fun _ => ?_,slotted.increasing,?_,fun _ _ _ => nofun,?_,?_,nofun,nofun,fun _ => ?_,fun _ _ => nofun⟩
  · intro k record present
    rcases Nat.lt_trichotomy k s.records.length with old | rfl | beyond
    · rw [List.getElem?_append_left old] at present
      exact slotted.deadlines k record present
    · rw [List.getElem?_append_right (Nat.le_refl _)] at present
      simp only [Nat.sub_self,List.getElem?_cons_zero,Option.some.injEq] at present
      rw [← present]
      exact next
    · rw [List.getElem?_eq_none (by simp; omega)] at present
      cases present
  · intro record present
    rcases List.mem_append.mp present with old | new
    · exact slotted.polled record old
    · rw [List.mem_singleton.mp new]
      exact polled
  · simpa [Stage.recorded] using next
  · intro deadline present
    obtain ⟨k,bound,same⟩ := slotted.issued deadline present
    refine ⟨k,?_,same⟩
    rw [List.length_append]
    exact Nat.le_add_right_of_le bound
  · exact fun deadline present _ => slotted.latest deadline present running
  · change s.schedule.slot (s.records ++ [(s.nextDeadline,sample)]).length ≤ s.now
    rw [List.length_append,List.length_singleton,← next]
    exact slotted.reached reached
  · exact slotted.caught running

theorem advanced (slotted : s.Slotted) (emitting : s.stage = .emitting) (positive : 0 < s.schedule.interval)
    (target : stage = .pausing ∨ stage = .checking ∧ s.nextDeadline + s.schedule.interval ≤ s.now) :
    (s.advance stage).Slotted := by
  have running : s.stage ≠ .ended := by simp [emitting]
  have next : s.nextDeadline = s.schedule.slot s.records.length := by
    simpa [emitting,Stage.recorded] using slotted.next running
  have behind : ∀ deadline ∈ s.requests, deadline < s.nextDeadline + s.schedule.interval := by
    intro deadline present
    have bound := slotted.latest deadline present running
    linarith
  have caught := slotted.caught running
  refine ⟨slotted.deadlines,slotted.polled,fun _ => ?_,slotted.increasing,slotted.issued,?_,?_,slotted.past,?_,
    ?_,fun _ => ?_,fun _ _ _ => caught⟩
  · have unrecorded : stage.recorded = false := by rcases target with rfl | ⟨rfl,_⟩ <;> rfl
    change s.nextDeadline + s.schedule.interval = s.schedule.slot (s.records.length + if stage.recorded then 0 else 1)
    simp [unrecorded,Schedule.slot_succ,next]
  · exact fun deadline present _ _ => behind deadline present
  · exact fun deadline present _ => le_of_lt (behind deadline present)
  · intro wakeAt sleeping
    have still : stage = .sleeping wakeAt := sleeping
    rcases target with rfl | ⟨rfl,_⟩ <;> cases still
  · intro reached
    rcases target with rfl | ⟨rfl,late⟩
    · cases reached
    · exact late
  · change s.caughtUp < s.nextDeadline + s.schedule.interval + s.schedule.interval
    linarith

theorem missed (slotted : s.Slotted) (reached : s.stage.reached) (positive : 0 < s.schedule.interval) (reason : String)
    (target : stage = .pausing ∨ stage = .checking ∧ s.nextDeadline + s.schedule.interval ≤ s.now) :
    ((s.publishMissingInterval reason).advance stage).Slotted :=
  (slotted.published reached (.inl ⟨reason,rfl⟩)).advanced rfl positive target

theorem ended (slotted : s.Slotted) : { s with stage := .ended }.Slotted :=
  ⟨slotted.deadlines,slotted.polled,fun running => absurd rfl running,slotted.increasing,slotted.issued,
    fun _ _ running => absurd rfl running,fun _ _ running => absurd rfl running,slotted.past,nofun,
    nofun,fun running => absurd rfl running,fun running => absurd rfl running⟩

theorem later (slotted : s.Slotted) {time : Rat} (forward : s.now ≤ time) : { s with now := time }.Slotted :=
  { slotted with
    past := slotted.past.trans forward
    reached := fun reached => (slotted.reached reached).trans forward }

theorem moved (slotted : s.Slotted) (waiting : s.stage ≠ .ended ∧ s.stage ≠ .due ∧ s.stage.issued = false)
    (target : stage ≠ .ended ∧ stage ≠ .due ∧ stage.issued = false)
    (asleep : ∀ wakeAt, stage = .sleeping wakeAt → s.nextDeadline ≤ wakeAt)
    (reached : stage.reached → s.nextDeadline ≤ s.now) : { s with stage := stage }.Slotted := by
  have unrecorded : ∀ stage : Stage, stage.issued = false → stage.recorded = false := by
    intro stage
    cases stage <;> simp [Stage.issued,Stage.recorded]
  have next := slotted.next waiting.1
  rw [unrecorded _ waiting.2.2] at next
  exact { slotted with
    next := fun _ => by rw [unrecorded _ target.2.2]; exact next
    earlier := fun deadline present _ _ => slotted.earlier deadline present waiting.1 waiting.2.2
    latest := fun deadline present _ => slotted.latest deadline present waiting.1
    asleep := asleep
    reached := reached
    caught := fun _ => slotted.caught waiting.1
    idle := fun _ _ _ => slotted.idle waiting.1 waiting.2.1 waiting.2.2 }

theorem caughtUp (slotted : s.Slotted) (checking : s.stage = .checking)
    (current : s.now < s.nextDeadline + s.schedule.interval) : { s with caughtUp := s.now, stage := .due }.Slotted :=
  { slotted with
    next := fun _ => by simpa [checking,Stage.recorded] using slotted.next
    earlier := fun deadline present _ _ => slotted.earlier deadline present (by simp [checking]) (by simp [checking,Stage.issued])
    latest := fun deadline present _ => slotted.latest deadline present (by simp [checking])
    asleep := nofun
    reached := fun _ => slotted.reached (by simp [checking,Stage.reached])
    caught := fun _ => current
    idle := fun _ due => absurd rfl due }

theorem requested (slotted : s.Slotted) (due : s.stage = .due) :
    { s with requests := s.requests ++ [s.nextDeadline], stage := .requesting }.Slotted := by
  have running : s.stage ≠ .ended := by simp [due]
  have unissued : s.stage.issued = false := by rw [due]; rfl
  have next : s.nextDeadline = s.schedule.slot (s.records.length + 1) := by
    simpa [due,Stage.recorded] using slotted.next running
  refine { slotted with
    next := fun _ => next, increasing := ?_, issued := ?_, earlier := fun _ _ _ => nofun, latest := ?_, asleep := nofun
    reached := fun _ => slotted.reached (by rw [due]; rfl), caught := fun _ => slotted.caught running
    idle := fun _ _ => nofun }
  · apply List.pairwise_append.mpr
    refine ⟨slotted.increasing,List.pairwise_singleton _ _,?_⟩
    intro earlier present latest new
    rw [List.mem_singleton.mp new]
    exact slotted.earlier earlier present running unissued
  · intro deadline present
    rcases List.mem_append.mp present with old | new
    · exact slotted.issued deadline old
    · exact ⟨s.records.length,Nat.le_refl _,(List.mem_singleton.mp new).trans next⟩
  · intro deadline present _
    rcases List.mem_append.mp present with old | new
    · exact slotted.latest deadline old running
    · exact le_of_eq (List.mem_singleton.mp new)

end State.Slotted

theorem State.slotted_start (schedule : Schedule) (positive : 0 < schedule.interval) : (start schedule).Slotted := by
  refine ⟨by simp [start],by simp [start],fun _ => ?_,.nil,by simp [start],by simp [start],by simp [start],?_,
    by rintro _ ⟨⟩,by rintro ⟨⟩,fun _ => ?_,fun _ _ _ => ?_⟩
  · change schedule.monotonicAnchor + schedule.interval = schedule.slot (0 + 1)
    simp [Schedule.slot]
  · change schedule.slot 0 ≤ schedule.monotonicAnchor
    simp [Schedule.slot]
  · change schedule.monotonicAnchor < schedule.monotonicAnchor + schedule.interval + schedule.interval
    linarith
  · change schedule.monotonicAnchor < schedule.monotonicAnchor + schedule.interval
    linarith

theorem State.Slotted.step {s next : State} {action : Action} (slotted : s.Slotted) (positive : 0 < s.schedule.interval)
    (timed : s.keepsTime action) (ran : State.step s action = some next) :
    next.Slotted ∧ next.schedule = s.schedule := by
  cases action with
  | stopping =>
    cases Option.some.inj ran
    exact ⟨{ slotted with },rfl⟩
  | clock reading =>
    have forward : s.now ≤ reading := by simpa [keepsTime] using timed
    simp only [State.step] at ran
    split at ran
    · rename_i pausing
      have moved := slotted.later forward
      split at ran <;> cases Option.some.inj ran
      · refine ⟨moved.moved ?_ ⟨nofun,nofun,rfl⟩ ?_ nofun,rfl⟩
        · simp [pausing,Stage.issued]
        · rintro _ ⟨⟩
          have enough : s.nextDeadline - reading ≤ max 0 (s.nextDeadline - reading) := le_max_right _ _
          change s.nextDeadline ≤ reading + max 0 (s.nextDeadline - reading)
          linarith
      · exact ⟨moved.ended,rfl⟩
    · rename_i checking
      have moved := slotted.later forward
      split at ran <;> cases Option.some.inj ran
      · rename_i late
        exact ⟨moved.missed (by simp [checking,Stage.reached]) positive _ (.inr ⟨rfl,late⟩),rfl⟩
      · rename_i current
        exact ⟨moved.caughtUp checking (not_le.mp current),rfl⟩
    · cases ran
  | woken time =>
    have forward : s.now ≤ time ∧ ∀ wakeAt, s.stage = .sleeping wakeAt → wakeAt ≤ time := by
      simp only [keepsTime,Bool.and_eq_true,decide_eq_true_eq] at timed
      refine ⟨timed.1,fun wakeAt sleeping => ?_⟩
      simpa [sleeping] using timed.2
    simp only [State.step] at ran
    split at ran
    · rename_i wakeAt sleeping
      cases Option.some.inj ran
      refine ⟨(slotted.later forward.1).moved ?_ ⟨nofun,nofun,rfl⟩ nofun fun _ => ?_,rfl⟩
      · simp [sleeping,Stage.issued]
      · exact (slotted.asleep wakeAt sleeping).trans (forward.2 wakeAt sleeping)
    · cases ran
  | ready =>
    simp only [State.step] at ran
    split at ran
    · rename_i due
      cases Option.some.inj ran
      exact ⟨slotted.requested due,rfl⟩
    · cases ran
  | unready lastError =>
    simp only [State.step] at ran
    split at ran
    · rename_i due
      cases Option.some.inj ran
      exact ⟨slotted.missed (by simp [due,Stage.reached]) positive _ (.inl rfl),rfl⟩
    · cases ran
  | answered snapshot temperatureC utcNow =>
    simp only [State.step] at ran
    split at ran
    · rename_i requesting
      cases Option.some.inj ran
      exact ⟨slotted.published (by simp [requesting,Stage.reached]) (.inr ⟨utcNow,snapshot,temperatureC,rfl⟩),rfl⟩
    · cases ran
  | failed failure =>
    simp only [State.step] at ran
    split at ran
    · rename_i requesting
      have missed (reason : String) := slotted.missed (by simp [requesting,Stage.reached]) positive reason (.inl rfl)
      cases Option.some.inj ran
      cases failure with
      | cancelled => exact ⟨slotted.ended,rfl⟩
      | _ => exact ⟨{ missed _ with },rfl⟩
    · cases ran
  | emitted =>
    simp only [State.step] at ran
    split at ran
    · rename_i emitting
      cases Option.some.inj ran
      exact ⟨slotted.advanced emitting positive (.inl rfl),rfl⟩
    · cases ran
  | cancelled =>
    simp only [State.step] at ran
    split at ran
    · cases Option.some.inj ran
      exact ⟨slotted.ended,rfl⟩
    · cases Option.some.inj ran
      exact ⟨slotted.ended,rfl⟩
    · cases ran

theorem State.slotted_reached {schedule : Schedule} (positive : 0 < schedule.interval)
    (path : Path State.step (fun s action => s.keepsTime action) (start schedule) trace s) :
    s.Slotted ∧ s.schedule = schedule :=
  path.invariant (fun s => s.Slotted ∧ s.schedule = schedule) ⟨slotted_start schedule positive,rfl⟩
    fun s action next ⟨slotted,same⟩ timed ran => by
      obtain ⟨kept,still⟩ := slotted.step (same ▸ positive) timed ran
      exact ⟨kept,still.trans same⟩

-- The catch-up loop ends: each turn moves the deadline towards the clock.
theorem State.catchUp_ends {s : State} (positive : 0 < s.schedule.interval) (checking : s.stage = .checking)
    (reading : Rat) : ∃ count next, run State.step s (List.replicate count (.clock reading)) = some next ∧
      next.stage = .due := by
  have bounded : ∀ (turns : Nat) (s : State), s.stage = .checking →
      reading < s.nextDeadline + (turns + 1) * s.schedule.interval →
      ∃ count next, run State.step s (List.replicate count (.clock reading)) = some next ∧ next.stage = .due := by
    intro turns
    induction turns with
    | zero =>
      intro s checking short
      refine ⟨1,{ s with now := reading, caughtUp := reading, stage := .due },?_,rfl⟩
      have current : ¬ s.nextDeadline + s.schedule.interval ≤ reading := by
        simp only [Nat.cast_zero,zero_add,one_mul] at short
        exact not_le.mpr short
      simp [run,State.step,checking,current]
    | succ turns ih =>
      intro s checking short
      by_cases late : s.nextDeadline + s.schedule.interval ≤ reading
      · let missed := ({ s with now := reading }.publishMissingInterval "current polling deadline was missed").advance .checking
        have nearer : reading < missed.nextDeadline + (turns + 1) * missed.schedule.interval := by
          change reading < s.nextDeadline + s.schedule.interval + (turns + 1) * s.schedule.interval
          push_cast at short
          linarith
        obtain ⟨count,next,ran,due⟩ := ih missed rfl nearer
        refine ⟨count + 1,next,?_,due⟩
        have turned : State.step s (.clock reading) = some missed := by
          simp only [State.step,checking,if_pos late]
          rfl
        rw [List.replicate_succ,run,turned,Option.bind_some]
        exact ran
      · refine ⟨1,{ s with now := reading, caughtUp := reading, stage := .due },?_,rfl⟩
        simp [run,State.step,checking,late]
  obtain ⟨turns,enough⟩ := exists_nat_gt ((reading - s.nextDeadline) / s.schedule.interval)
  apply bounded turns s checking
  have product := (div_lt_iff₀ positive).mp enough
  linarith

-- Every slot up to the current one has exactly one record, the k-th record is that of slot
-- k, and no record comes before its time. A stall is always caught up.
theorem polling_slots {schedule : Schedule} (positive : 0 < schedule.interval)
    (path : Path State.step (fun s action => s.keepsTime action) (State.start schedule) trace s) :
    (∀ k record, s.records[k]? = some record → record.1 = schedule.slot (k + 1) ∧
      ((∃ reason, record.2 = missingInterval (schedule.slotTime (k + 1)) reason) ∨
        ∃ utcNow snapshot temperatureC, record.2 = currentSample utcNow snapshot temperatureC)) ∧
    (∀ k ≤ s.records.length, schedule.slot k ≤ s.now) ∧
    (s.stage ≠ .ended → s.stage ≠ .due → s.stage.issued = false →
      ∀ k, schedule.slot k ≤ s.caughtUp → k ≤ s.records.length) ∧
    (s.stage = .due ∨ s.stage = .requesting → ∀ k, schedule.slot k ≤ s.caughtUp → k ≤ s.records.length + 1) ∧
    (s.requests.Nodup ∧ ∀ deadline ∈ s.requests, ∃ k ≤ s.records.length, deadline = schedule.slot (k + 1)) ∧
    (s.stage = .checking → ∀ reading, ∃ count next,
      run State.step s (List.replicate count (.clock reading)) = some next ∧ next.stage = .due) := by
  obtain ⟨slotted,rfl⟩ := State.slotted_reached positive path
  refine ⟨?_,?_,?_,?_,⟨?_,slotted.issued⟩,State.catchUp_ends positive⟩
  · intro k record present
    have deadline := slotted.deadlines k record present
    refine ⟨deadline,?_⟩
    apply (slotted.polled record (List.mem_of_getElem? present)).imp_left
    rintro ⟨reason,missing⟩
    refine ⟨reason,?_⟩
    rw [missing,deadline]
    simp [Schedule.slot,Schedule.slotTime]
  · intro k recorded
    exact (Schedule.slot_le positive recorded).trans slotted.past
  · intro running undue unissued k passed
    have unrecorded : s.stage.recorded = false := by
      cases at' : s.stage <;> simp_all [Stage.issued,Stage.recorded]
    have next := slotted.next running
    rw [unrecorded] at next
    have caught := slotted.idle running undue unissued
    rw [next] at caught
    exact Nat.le_of_lt_succ (Schedule.slot_lt positive (lt_of_le_of_lt passed caught))
  · intro asking k passed
    have running : s.stage ≠ .ended := by rcases asking with at' | at' <;> simp [at']
    have next : s.nextDeadline = s.schedule.slot (s.records.length + 1) := by
      have known := slotted.next running
      rcases asking with at' | at' <;> simpa [at',Stage.recorded] using known
    have caught := slotted.caught running
    rw [next,← Schedule.slot_succ] at caught
    exact Nat.le_of_lt_succ (Schedule.slot_lt positive (lt_of_le_of_lt passed caught))
  · exact slotted.increasing.imp fun lt => ne_of_lt lt

def stalledRun : List Action :=
  [.clock 0,.woken (7 / 2),.clock (7 / 2),.clock (7 / 2),.clock (7 / 2),.ready,.failed (.timeout "TimeoutError"),
    .clock (18 / 5)]

theorem polling_slots_stalled :
    ∃ s : State, s.records.map (·.1) = [1,2,3] ∧ s.requests = [3] ∧
      ∀ k record, s.records[k]? = some record → record.1 = (⟨1,0,50⟩ : Schedule).slot (k + 1) := by
  have ran : (run (guarded State.step State.keepsTime) (State.start ⟨1,0,50⟩) stalledRun).any
      (fun s => s.records.map (·.1) = [1,2,3] && s.requests = [3]) = true := by decide +kernel
  obtain ⟨trace,s,path,made⟩ := guarded_checked ran
  simp only [Bool.and_eq_true,decide_eq_true_eq] at made
  exact ⟨s,made.1,made.2,fun k record present => ((polling_slots (by decide) path).1 k record present).1⟩

end Thermometer.Client.Poller
