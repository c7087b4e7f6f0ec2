import Thermometer.Firmware.LocalControls
import Thermometer.Firmware.SampleLog

-- thermometer_state_task: one record of each sensor for every period of the tick counter, which wraps.
namespace Thermometer.Firmware.SamplingClock
open LocalControls Wire

-- What the other tasks may do to the state.
def foreign : Event → Bool
  | .tick | .reading _ _ => false
  | .setDisplay _ _ | .toggleDisplay _ | .getCurrent | .getHistoryMeta | .copyHistory _ _ _ => true

-- A round of the loop: when it reads the tick counter, in ticks that do not wrap; what others did since the
-- round before it; and what it receives where it waits.
structure Round where
  time : Nat
  others : List Event
  received : Option (Fin sensorCount × SensorReading)
  others_foreign : ∀ event ∈ others, foreign event = true

structure Sampler (cfg : DeviceConfig) where
  state : State cfg
  nextSnapshot : UInt32

def begin (cfg : DeviceConfig) (bootId period : UInt32) (time : Nat) : Sampler cfg :=
  ⟨Firmware.start cfg bootId,UInt32.ofNat time + period⟩

def due (nextSnapshot : UInt32) (time : Nat) : Bool := deadlineReached (UInt32.ofNat time) nextSnapshot

-- The timeout of `xQueueReceive`.
def timeout (nextSnapshot : UInt32) (time : Nat) : Nat := (nextSnapshot - UInt32.ofNat time).toNat

def own (nextSnapshot : UInt32) (round : Round) : List Event :=
  if due nextSnapshot round.time then [.tick]
  else (round.received.map fun event => .reading event.1 event.2).toList

def following (period nextSnapshot : UInt32) (round : Round) : UInt32 :=
  if due nextSnapshot round.time then nextSnapshot + period else nextSnapshot

variable {cfg : DeviceConfig}

def turn (period : UInt32) (s : Sampler cfg) (round : Round) : Sampler cfg :=
  ⟨run s.state (round.others ++ own s.nextSnapshot round),following period s.nextSnapshot round⟩

def sampling (period : UInt32) (s : Sampler cfg) (rounds : List Round) : Sampler cfg := rounds.foldl (turn period) s

def events (period : UInt32) : UInt32 → List Round → List Event
  | _,[] => []
  | nextSnapshot,round :: rest =>
    round.others ++ own nextSnapshot round ++ events period (following period nextSnapshot round) rest

def taken (period : UInt32) : UInt32 → List Round → List Nat
  | _,[] => []
  | nextSnapshot,round :: rest =>
    (if due nextSnapshot round.time then [round.time] else []) ++ taken period (following period nextSnapshot round) rest

def ready (nextSnapshot : UInt32) (round : Round) : Nat :=
  if due nextSnapshot round.time then round.time else round.time + timeout nextSnapshot round.time

def Timely (delay : Nat) (period : UInt32) : UInt32 → Nat → Nat → List Round → Prop
  | _,_,_,[] => True
  | nextSnapshot,previous,possible,round :: rest =>
    previous ≤ round.time ∧ round.time ≤ possible + delay ∧
      Timely delay period (following period nextSnapshot round) round.time (ready nextSnapshot round) rest

def deadline (period : UInt32) (nextSnapshot : UInt32) (rounds : List Round) : UInt32 := rounds.foldl (following period) nextSnapshot

theorem sampling_deadline (period : UInt32) (s : Sampler cfg) (rounds : List Round) :
    (sampling period s rounds).nextSnapshot = deadline period s.nextSnapshot rounds := by
  induction rounds generalizing s with
  | nil => rfl
  | cons round rest ih => exact ih (turn period s round)

theorem sampling_state (period : UInt32) (s : Sampler cfg) (rounds : List Round) :
    (sampling period s rounds).state = run s.state (events period s.nextSnapshot rounds) := by
  induction rounds generalizing s with
  | nil => rfl
  | cons round rest ih =>
    have later := ih (turn period s round)
    rw [events,run_append]
    exact later

structure OnTrack (delay : Nat) (period nextSnapshot : UInt32) (base previous possible : Nat) : Prop where
  deadline : nextSnapshot = UInt32.ofNat base + period
  begun : base ≤ previous
  soon : possible ≤ base + period.toNat

section

variable {delay base previous possible : Nat} {period nextSnapshot : UInt32} {round : Round}

theorem OnTrack.timeout_eq (short : period.toNat < 2 ^ 31)
    (track : OnTrack delay period nextSnapshot base previous possible) (later : previous ≤ round.time)
    (waits : round.time < base + period.toNat) :
    round.time + timeout nextSnapshot round.time = base + period.toNat := by
  have begun := track.begun
  have wait : timeout nextSnapshot round.time = base + period.toNat - round.time := by
    rw [timeout,track.deadline,UInt32.toNat_sub,UInt32.toNat_add,UInt32.toNat_ofNat',UInt32.toNat_ofNat']
    omega
  omega

-- The task may be late by up to a period, and a period is less than half a turn of the counter.
variable (short : period.toNat < 2 ^ 31) (able : delay ≤ period.toNat)

include short able

theorem OnTrack.due_iff (track : OnTrack delay period nextSnapshot base previous possible) (later : previous ≤ round.time)
    (prompt : round.time ≤ possible + delay) : due nextSnapshot round.time = true ↔ base + period.toNat ≤ round.time := by
  have soon := track.soon
  rw [due,track.deadline]
  exact deadlineReached_iff short (track.begun.trans later) (by omega)

theorem OnTrack.snapshot (track : OnTrack delay period nextSnapshot base previous possible) (later : previous ≤ round.time)
    (prompt : round.time ≤ possible + delay) (is_due : due nextSnapshot round.time = true) :
    OnTrack delay period (following period nextSnapshot round) (base + period.toNat) round.time (ready nextSnapshot round) := by
  have reached := (track.due_iff short able later prompt).mp is_due
  have soon := track.soon
  refine ⟨?_,reached,?_⟩
  · rw [following,if_pos is_due,track.deadline,UInt32.ofNat_add,UInt32.ofNat_toNat]
  · rw [ready,if_pos is_due]
    omega

theorem OnTrack.waiting (track : OnTrack delay period nextSnapshot base previous possible) (later : previous ≤ round.time)
    (prompt : round.time ≤ possible + delay) (not_due : ¬ due nextSnapshot round.time = true) :
    OnTrack delay period (following period nextSnapshot round) base round.time (ready nextSnapshot round) := by
  have early : round.time < base + period.toNat := by
    rw [track.due_iff short able later prompt] at not_due
    exact not_le.mp not_due
  refine ⟨?_,track.begun.trans later,?_⟩
  · rw [following,if_neg not_due,track.deadline]
  · rw [ready,if_neg not_due,track.timeout_eq short later early]

theorem OnTrack.taken_times {rounds : List Round} (track : OnTrack delay period nextSnapshot base previous possible)
    (timely : Timely delay period nextSnapshot previous possible rounds) : ∀ k time,
      (taken period nextSnapshot rounds)[k]? = some time →
      base + (k + 1) * period.toNat ≤ time ∧ time ≤ base + (k + 1) * period.toNat + delay := by
  induction rounds generalizing nextSnapshot base previous possible with
  | nil => exact fun k time found => by cases found
  | cons round rest ih =>
    obtain ⟨later,prompt,timely⟩ := timely
    intro k time found
    by_cases is_due : due nextSnapshot round.time = true
    · have on_track := track.snapshot short able later prompt is_due
      rw [taken,if_pos is_due,List.singleton_append] at found
      cases k with
      | zero =>
        cases Option.some.inj found
        have reached := (track.due_iff short able later prompt).mp is_due
        have soon := track.soon
        omega
      | succ k =>
        have bounds := ih on_track timely k time found
        have one_more : (k + 1 + 1) * period.toNat = (k + 1) * period.toNat + period.toNat := Nat.succ_mul _ _
        omega
    · rw [taken,if_neg is_due,List.nil_append] at found
      exact ih (track.waiting short able later prompt is_due) timely k time found

theorem OnTrack.run {rounds rest : List Round} (track : OnTrack delay period nextSnapshot base previous possible)
    (timely : Timely delay period nextSnapshot previous possible (rounds ++ rest)) : ∃ last next,
      OnTrack delay period (SamplingClock.deadline period nextSnapshot rounds)
        (base + (taken period nextSnapshot rounds).length * period.toNat) last next ∧
      Timely delay period (SamplingClock.deadline period nextSnapshot rounds) last next rest := by
  induction rounds generalizing nextSnapshot base previous possible with
  | nil =>
    rw [taken,List.length_nil,Nat.zero_mul,Nat.add_zero]
    exact ⟨previous,possible,track,timely⟩
  | cons round rounds ih =>
    obtain ⟨later,prompt,timely⟩ := timely
    by_cases is_due : due nextSnapshot round.time = true
    · obtain ⟨last,next,on_track,follows⟩ := ih (track.snapshot short able later prompt is_due) timely
      have one_more (n : Nat) : base + (1 + n) * period.toNat = base + period.toNat + n * period.toNat := by
        rw [Nat.add_mul,Nat.one_mul,Nat.add_assoc]
      rw [taken,if_pos is_due,List.length_append,List.length_singleton,one_more]
      exact ⟨last,next,on_track,follows⟩
    · rw [taken,if_neg is_due,List.nil_append]
      exact ih (track.waiting short able later prompt is_due) timely

theorem OnTrack.taken_count {rounds rest : List Round} {waiting : Round} (positive : 0 < period.toNat)
    (track : OnTrack delay period nextSnapshot base previous possible)
    (timely : Timely delay period nextSnapshot previous possible (rounds ++ waiting :: rest))
    (waits : ¬ due (SamplingClock.deadline period nextSnapshot rounds) waiting.time = true) :
    (taken period nextSnapshot rounds).length = (waiting.time - base) / period.toNat := by
  obtain ⟨last,next,on_track,later,prompt,_⟩ := track.run short able timely
  rw [on_track.due_iff short able later prompt] at waits
  have begun := on_track.begun
  symm
  rw [Nat.div_eq_iff positive]
  omega

end

theorem taken_log (period nextSnapshot : UInt32) (rounds : List Round) (s : State cfg) (i : Fin sensorCount) :
    (sampleLog s i (events period nextSnapshot rounds)).length = (taken period nextSnapshot rounds).length := by
  have quiet : ∀ (others : List Event) (s : State cfg), (∀ event ∈ others, foreign event = true) → sampleLog s i others = [] := by
    intro others
    induction others with
    | nil => exact fun _ _ => rfl
    | cons event rest ih =>
      intro s all_foreign
      rw [List.forall_mem_cons] at all_foreign
      have no_tick : event ≠ .tick := by
        rintro rfl
        cases all_foreign.1
      rw [sampleLog,sampled_quiet s no_tick,List.nil_append]
      exact ih _ all_foreign.2
  induction rounds generalizing nextSnapshot s with
  | nil => rfl
  | cons round rest ih =>
    rw [events,taken,sampleLog_append,sampleLog_append,quiet round.others s round.others_foreign,List.nil_append,
      List.length_append,List.length_append,ih]
    congr 1
    unfold own
    split
    · rfl
    · cases round.received <;> rfl

theorem begin_on_track (delay : Nat) (period : UInt32) (begun : Nat) :
    OnTrack delay period (UInt32.ofNat begun + period) begun begun begun := ⟨rfl,le_rfl,Nat.le_add_right _ _⟩

-- In every run in which the loop comes round at most `delay` ticks after it could, and that is at most a period:
-- the n-th record of a sensor has the number n and was sampled n periods after the start, at
-- most `delay` ticks late, however long the run is; and when the loop waits there is a record
-- for every period that is over.
theorem records_on_schedule (cfg : DeviceConfig) (bootId period : UInt32) (begun delay : Nat) (rounds : List Round)
    (positive : 0 < period.toNat) (short : period.toNat < 2 ^ 31) (able : delay ≤ period.toNat)
    (timely : Timely delay period (UInt32.ofNat begun + period) begun begun rounds) (i : Fin sensorCount) :
    let log := bootLog cfg bootId i (events period (UInt32.ofNat begun + period) rounds)
    let times := taken period (UInt32.ofNat begun + period) rounds
    (sampling period (begin cfg bootId period begun) rounds).state =
      run (Firmware.start cfg bootId) (events period (UInt32.ofNat begun + period) rounds) ∧
    times.length = log.length ∧
    (∀ n record time, log[n]? = some record → times[n]? = some time →
      record.sequence.toNat = (n + 1) % 2 ^ 32 ∧
      begun + (n + 1) * period.toNat ≤ time ∧ time ≤ begun + (n + 1) * period.toNat + delay) ∧
    ∀ before waiting after, rounds = before ++ waiting :: after →
      ¬ due (sampling period (begin cfg bootId period begun) before).nextSnapshot waiting.time = true →
      (taken period (UInt32.ofNat begun + period) before).length = (waiting.time - begun) / period.toNat := by
  intro log times
  refine ⟨sampling_state period _ rounds,(taken_log period _ rounds _ i).symm,?_,?_⟩
  · intro n record time logged found
    exact ⟨bootLog_number logged,(begin_on_track delay period begun).taken_times short able timely n time found⟩
  · rintro before waiting after rfl waits
    rw [sampling_deadline] at waits
    exact (begin_on_track delay period begun).taken_count short able positive timely waits

-- The counter wraps between the two snapshots; the second one comes ten ticks late.
def wrappingRounds : List Round := [
  ⟨4294967146,[],some (0,⟨true,2150⟩),nofun⟩,
  ⟨4294967246,[.getHistoryMeta],none,by decide⟩,
  ⟨4294967250,[],none,nofun⟩,
  ⟨4294967356,[],none,nofun⟩]

theorem records_on_schedule_wrapping :
    taken 100 (UInt32.ofNat 4294967146 + 100) wrappingRounds = [4294967246,4294967356] ∧
    (bootLog threeSlots 7 1 (events 100 (UInt32.ofNat 4294967146 + 100) wrappingRounds)).length = 2 := by
  have timely : Timely 10 100 (UInt32.ofNat 4294967146 + 100) 4294967146 4294967146 wrappingRounds :=
    ⟨by decide,by decide,by decide,by decide,by decide,by decide,by decide,by decide,trivial⟩
  have two : taken 100 (UInt32.ofNat 4294967146 + 100) wrappingRounds = [4294967246,4294967356] := by decide
  have counted := (records_on_schedule threeSlots 7 100 4294967146 10 wrappingRounds (by decide) (by decide) (by decide) timely 1).2.1
  exact ⟨two,counted.symm.trans (congrArg List.length two)⟩

end Thermometer.Firmware.SamplingClock
