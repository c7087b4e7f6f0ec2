import Thermometer.Firmware.State
import Thermometer.Lib.Debounce

-- local_controls.c: the poll of the two buttons, which has to see through their bounces.
namespace Thermometer.Firmware.LocalControls
open Debounce

inductive Level where
  | low | high
  deriving DecidableEq

def buttonPressedLevel : Level := .low

structure ButtonState where
  sensorId : UInt8
  stableLevel : Level
  candidateLevel : Level
  candidateSince : UInt32

-- In the arithmetic of TickType_t.
def pdMsToTicks (tickRateHz milliseconds : UInt32) : UInt32 := milliseconds * tickRateHz / 1000

def buttonDebounceTime (tickRateHz : UInt32) : UInt32 := pdMsToTicks tickRateHz 40

def deadlineReached (now deadline : UInt32) : Bool := 0 ≤ (now - deadline).toInt32

def pollButton (tickRateHz : UInt32) (button : ButtonState) (rawLevel : Level) (now : UInt32) : Bool × ButtonState :=
  let button :=
    if rawLevel ≠ button.candidateLevel then { button with candidateLevel := rawLevel, candidateSince := now } else button
  if button.candidateLevel ≠ button.stableLevel ∧
      deadlineReached now (button.candidateSince + buttonDebounceTime tickRateHz) then
    (button.candidateLevel = buttonPressedLevel,{ button with stableLevel := button.candidateLevel })
  else (false,button)

abbrev Buttons := Fin 2 → ButtonState

-- One turn of the loop. The counter of the ticks shows `time` modulo 2^32.
structure Poll where
  time : Nat
  levels : Fin 2 → Level

-- The pins are read twice at the start, for the stable level and for the candidate.
def startButtons (time : Nat) (stable candidate : Fin 2 → Level) : Buttons := fun index =>
  ⟨UInt8.ofNat (index + 1),stable index,candidate index,UInt32.ofNat time⟩

def pollButtons (tickRateHz : UInt32) (buttons : Buttons) (poll : Poll) (index : Fin 2) : Bool × ButtonState :=
  pollButton tickRateHz (buttons index) (poll.levels index) (UInt32.ofNat poll.time)

def buttonsAfter (tickRateHz : UInt32) (buttons : Buttons) (polls : List Poll) : Buttons :=
  polls.foldl (fun buttons poll index => (pollButtons tickRateHz buttons poll index).2) buttons

def reported (tickRateHz : UInt32) (buttons : Buttons) (poll : Poll) (index : Fin 2) : Bool :=
  (pollButtons tickRateHz buttons poll index).1

-- What a turn does to the thermometer; a refused toggle is only logged.
def toggled (tickRateHz : UInt32) (buttons : Buttons) (poll : Poll) (s : State cfg) : State cfg :=
  (List.finRange 2).foldl (fun s index =>
    if reported tickRateHz buttons poll index then (toggleDisplay s (buttons index).sensorId).2 else s) s

def presses (tickRateHz : UInt32) (index : Fin 2) : Buttons → List Poll → Nat
  | _,[] => 0
  | buttons,poll :: rest => (reported tickRateHz buttons poll index).toNat +
      presses tickRateHz index (buttonsAfter tickRateHz buttons [poll]) rest

def transitions (tickRateHz : UInt32) (index : Fin 2) : Buttons → List Poll → List Level
  | _,[] => []
  | buttons,poll :: rest =>
    let next := buttonsAfter tickRateHz buttons [poll]
    (if (next index).stableLevel = (buttons index).stableLevel then none else some (next index).stableLevel).toList ++
      transitions tickRateHz index next rest

def delay (tickRateHz : UInt32) : Nat := (buttonDebounceTime tickRateHz).toNat

section Counter

variable {tickRateHz : UInt32} {buttons : Buttons} {index : Fin 2} {button : ButtonState}

theorem delay_small (tickRateHz : UInt32) : delay tickRateHz < 2 ^ 31 := by
  have bound := (40 * tickRateHz).toNat_lt
  have divided : delay tickRateHz = (40 * tickRateHz).toNat / 1000 := UInt32.toNat_div _ _
  omega

-- The difference keeps its sign as long as the deadline is less than half a turn away.
theorem deadlineReached_iff {now since : Nat} {wait : UInt32} (short : wait.toNat < 2 ^ 31) (ordered : since ≤ now)
    (near : now < since + wait.toNat + 2 ^ 31) :
    deadlineReached (UInt32.ofNat now) (UInt32.ofNat since + wait) = true ↔ since + wait.toNat ≤ now := by
  have sign : (0 : Int32) ≤ (UInt32.ofNat now - (UInt32.ofNat since + wait)).toInt32 ↔
      2 * (UInt32.ofNat now - (UInt32.ofNat since + wait)).toNat < 2 ^ 32 := by
    rw [Int32.le_iff_toInt_le]
    exact BitVec.toInt_pos_iff
  rw [deadlineReached,decide_eq_true_iff,sign,UInt32.toNat_sub,UInt32.toNat_add,UInt32.toNat_ofNat',UInt32.toNat_ofNat']
  omega

theorem deadlineReached_delay {now since : Nat} (ordered : since ≤ now) (near : now < since + delay tickRateHz + 2 ^ 31) :
    deadlineReached (UInt32.ofNat now) (UInt32.ofNat since + buttonDebounceTime tickRateHz) = true ↔
      since + delay tickRateHz ≤ now :=
  deadlineReached_iff (delay_small tickRateHz) ordered near

structure Tracks (tickRateHz : UInt32) (button : ButtonState) (filter : LevelFilter Level) (last : Nat) : Prop where
  stable : button.stableLevel = filter.stable
  candidate : button.candidateLevel = filter.candidate
  since : button.candidateSince = UInt32.ofNat filter.since
  ordered : filter.since ≤ last
  -- A candidate that waits is either new or not yet old enough.
  waiting : filter.candidate ≠ filter.stable → last < filter.since + delay tickRateHz ∨ last = filter.since

def raised (button : ButtonState) (rawLevel : Level) (now : UInt32) : ButtonState :=
  if rawLevel ≠ button.candidateLevel then { button with candidateLevel := rawLevel, candidateSince := now } else button

theorem Tracks.takes (tracks : Tracks tickRateHz button filter last) (time : Nat) (rawLevel : Level) :
    raised button rawLevel (UInt32.ofNat time) = { button with
      candidateLevel := rawLevel
      candidateSince := UInt32.ofNat (filter.next (delay tickRateHz) ⟨time,rawLevel⟩).since } := by
  rw [raised,next_since]
  by_cases same : rawLevel = filter.candidate
  · rw [if_neg (not_not_intro (same.trans tracks.candidate.symm)),if_pos same,same,← tracks.candidate,← tracks.since]
  · rw [if_pos fun equal => same (equal.trans tracks.candidate),if_neg same]

theorem Tracks.since_ordered (tracks : Tracks tickRateHz button filter last) {time : Nat} (later : last ≤ time)
    (rawLevel : Level) : (filter.next (delay tickRateHz) ⟨time,rawLevel⟩).since ≤ time := by
  rw [next_since]
  split
  · exact tracks.ordered.trans later
  · exact le_rfl

theorem Tracks.since_near (tracks : Tracks tickRateHz button filter last) {time : Nat} (later : last ≤ time)
    (near : time < last + 2 ^ 31) {rawLevel : Level} (waits : rawLevel ≠ filter.stable) :
    time < (filter.next (delay tickRateHz) ⟨time,rawLevel⟩).since + delay tickRateHz + 2 ^ 31 := by
  have ordered := tracks.ordered
  rw [next_since]
  split
  · rename_i same
    have early := tracks.waiting fun equal => waits (Eq.trans same equal)
    omega
  · change time < time + _ + _
    omega

theorem Tracks.poll (tracks : Tracks tickRateHz button filter last) {time : Nat} (later : last ≤ time) (near : time < last + 2 ^ 31)
    (rawLevel : Level) :
    Tracks tickRateHz (pollButton tickRateHz button rawLevel (UInt32.ofNat time)).2
        (filter.next (delay tickRateHz) ⟨time,rawLevel⟩) time ∧
      ((pollButton tickRateHz button rawLevel (UInt32.ofNat time)).1 = true ↔
        change (delay tickRateHz) filter ⟨time,rawLevel⟩ = some buttonPressedLevel) := by
  have polled : pollButton tickRateHz button rawLevel (UInt32.ofNat time) =
      let raised := raised button rawLevel (UInt32.ofNat time)
      if raised.candidateLevel ≠ raised.stableLevel ∧
          deadlineReached (UInt32.ofNat time) (raised.candidateSince + buttonDebounceTime tickRateHz) then
        (decide (raised.candidateLevel = buttonPressedLevel),{ raised with stableLevel := raised.candidateLevel })
      else (false,raised) := rfl
  rw [tracks.takes time rawLevel] at polled
  rw [polled,change_some]
  dsimp only
  have ordered := tracks.since_ordered later rawLevel
  have stable : (filter.next (delay tickRateHz) ⟨time,rawLevel⟩).stable = if (filter.next (delay tickRateHz)
      ⟨time,rawLevel⟩).since + delay tickRateHz ≤ time then rawLevel else filter.stable := next_stable
  by_cases waits : rawLevel = filter.stable
  · have settled : (filter.next (delay tickRateHz) ⟨time,rawLevel⟩).stable = filter.stable := by
      rw [stable,waits,ite_self]
    rw [if_neg fun both => both.1 (waits.trans tracks.stable.symm),settled]
    refine ⟨⟨tracks.stable.trans settled.symm,rfl,rfl,ordered,fun waiting => ?_⟩,?_⟩
    · exact absurd (waits.trans settled.symm) waiting
    · constructor
      · nofun
      · exact fun both => absurd both.1.symm both.2
  · have reached := deadlineReached_delay ordered (tracks.since_near later near waits)
    have differs : rawLevel ≠ button.stableLevel := fun same => waits (same.trans tracks.stable)
    by_cases old : (filter.next (delay tickRateHz) ⟨time,rawLevel⟩).since + delay tickRateHz ≤ time
    · rw [if_pos old] at stable
      rw [if_pos ⟨differs,reached.mpr old⟩,stable]
      refine ⟨⟨stable.symm,rfl,rfl,ordered,fun waiting => absurd stable.symm waiting⟩,?_⟩
      rw [decide_eq_true_iff]
      exact ⟨fun same => ⟨same,fun equal => waits (same.trans equal)⟩,And.left⟩
    · rw [if_neg old] at stable
      rw [if_neg fun both => old (reached.mp both.2),stable]
      refine ⟨⟨tracks.stable.trans stable.symm,rfl,rfl,ordered,fun _ => ?_⟩,?_⟩
      · exact .inl (Nat.lt_of_not_le old)
      · constructor
        · nofun
        · exact fun both => absurd both.1.symm both.2

-- The times of the polls never decrease, and less than half a turn of the counter lies between two.
def Clocked (start : Nat) (polls : List Poll) : Prop :=
  (start :: polls.map (·.time)).IsChain fun earlier later => earlier ≤ later ∧ later < earlier + 2 ^ 31

def sampleOf (index : Fin 2) (poll : Poll) : Sample Level := ⟨poll.time,poll.levels index⟩

def samples (index : Fin 2) (polls : List Poll) : List (Sample Level) := polls.map (sampleOf index)

variable {filter : LevelFilter Level} {begun last : Nat} {poll : Poll} {polls before rest window : List Poll}

theorem buttonsAfter_append (tickRateHz : UInt32) (buttons : Buttons) (first second : List Poll) :
    buttonsAfter tickRateHz buttons (first ++ second) = buttonsAfter tickRateHz (buttonsAfter tickRateHz buttons first) second :=
  List.foldl_append

theorem Tracks.start (time : Nat) (stable candidate : Fin 2 → Level) (index : Fin 2) :
    Tracks tickRateHz (startButtons time stable candidate index) ⟨stable index,candidate index,time⟩ time :=
  ⟨rfl,rfl,rfl,le_rfl,fun _ => .inr rfl⟩

theorem Tracks.turn (tracks : Tracks tickRateHz (buttons index) filter last) (clocked : Clocked last (poll :: rest)) :
    Tracks tickRateHz (buttonsAfter tickRateHz buttons [poll] index) (filter.next (delay tickRateHz) (sampleOf index poll)) poll.time ∧
      (reported tickRateHz buttons poll index = true ↔
        change (delay tickRateHz) filter (sampleOf index poll) = some buttonPressedLevel) ∧ Clocked poll.time rest := by
  obtain ⟨⟨later,near⟩,remaining⟩ := List.isChain_cons_cons.mp clocked
  obtain ⟨tracked,report⟩ := tracks.poll later near (poll.levels index)
  exact ⟨tracked,report,remaining⟩

theorem Tracks.run (tracks : Tracks tickRateHz (buttons index) filter begun) (clocked : Clocked begun (before ++ rest)) :
    ∃ last, Tracks tickRateHz (buttonsAfter tickRateHz buttons before index)
      (after (delay tickRateHz) filter (samples index before)) last ∧ Clocked last rest := by
  induction before generalizing buttons filter begun with
  | nil => exact ⟨begun,tracks,clocked⟩
  | cons poll before ih =>
    obtain ⟨tracked,_,remaining⟩ := tracks.turn clocked
    exact ih tracked remaining

theorem Tracks.presses (tracks : Tracks tickRateHz (buttons index) filter begun) (clocked : Clocked begun (window ++ rest)) :
    presses tickRateHz index buttons window =
      (changes (delay tickRateHz) filter (samples index window)).count buttonPressedLevel := by
  induction window generalizing buttons filter begun with
  | nil => rfl
  | cons poll window ih =>
    obtain ⟨tracked,report,remaining⟩ := tracks.turn clocked
    have split : changes (delay tickRateHz) filter (samples index (poll :: window)) =
        (change (delay tickRateHz) filter (sampleOf index poll)).toList ++
          changes (delay tickRateHz) (filter.next (delay tickRateHz) (sampleOf index poll)) (samples index window) := rfl
    rw [LocalControls.presses,ih tracked remaining,split,List.count_append]
    congr 1
    cases here : reported tickRateHz buttons poll index with
    | true => rw [report.mp here]; rfl
    | false =>
      have other : change (delay tickRateHz) filter (sampleOf index poll) ≠ some buttonPressedLevel :=
        fun changed => by rw [report.mpr changed] at here; cases here
      cases changed : change (delay tickRateHz) filter (sampleOf index poll) with
      | none => rfl
      | some level =>
        have differs : level ≠ buttonPressedLevel := fun same => other (same ▸ changed)
        simp [differs]

theorem Tracks.transitions (tracks : Tracks tickRateHz (buttons index) filter begun) (clocked : Clocked begun (window ++ rest)) :
    transitions tickRateHz index buttons window = changes (delay tickRateHz) filter (samples index window) := by
  induction window generalizing buttons filter begun with
  | nil => rfl
  | cons poll window ih =>
    obtain ⟨tracked,_,remaining⟩ := tracks.turn clocked
    have here : (if (buttonsAfter tickRateHz buttons [poll] index).stableLevel = (buttons index).stableLevel then none
        else some (buttonsAfter tickRateHz buttons [poll] index).stableLevel) =
          change (delay tickRateHz) filter (sampleOf index poll) := by
      rw [tracked.stable,tracks.stable]
      rfl
    rw [LocalControls.transitions,ih tracked remaining,here]
    rfl

end Counter

structure Task where
  tickRateHz : UInt32
  start : Nat
  stable : Fin 2 → Level
  candidate : Fin 2 → Level

namespace Task

def buttons (task : Task) (polls : List Poll) : Buttons :=
  buttonsAfter task.tickRateHz (startButtons task.start task.stable task.candidate) polls

def debounced (task : Task) (index : Fin 2) (polls : List Poll) : Level := (task.buttons polls index).stableLevel

def reports (task : Task) (index : Fin 2) (before : List Poll) (poll : Poll) : Bool :=
  reported task.tickRateHz (task.buttons before) poll index

-- The readings of the start count as one.
def readings (task : Task) (index : Fin 2) (polls : List Poll) : List (Sample Level) :=
  ⟨task.start,task.candidate index⟩ :: samples index polls

structure Law (task : Task) (index : Fin 2) (polls : List Poll) : Prop where
  -- A reported press has lasted for the debounce time, and no reading in between was another.
  held : ∀ before poll rest, polls = before ++ poll :: rest → task.reports index before poll = true →
    Held (delay task.tickRateHz) buttonPressedLevel (task.readings index (before ++ [poll])) (sampleOf index poll)
  -- What is reported is that the debounced level becomes the pressed one.
  entered : ∀ before poll rest, polls = before ++ poll :: rest → (task.reports index before poll = true ↔
    task.debounced index before ≠ buttonPressedLevel ∧ task.debounced index (before ++ [poll]) = buttonPressedLevel)
  alternate : (task.stable index :: transitions task.tickRateHz index (task.buttons []) polls).IsChain (· ≠ ·)
  released : ∀ before first between second rest, polls = before ++ first :: (between ++ second :: rest) →
    task.reports index before first = true → task.reports index (before ++ first :: between) second = true →
    ∃ left release right, between = left ++ release :: right ∧
      task.debounced index (before ++ first :: left) = buttonPressedLevel ∧
      task.debounced index (before ++ first :: (left ++ [release])) ≠ buttonPressedLevel
  -- A released button that is held down for the debounce time is reported once.
  once : ∀ before window rest first last, polls = before ++ (window ++ rest) → window.head? = some first →
    window.getLast? = some last → (∀ poll ∈ window, poll.levels index = buttonPressedLevel) →
    first.time + delay task.tickRateHz ≤ last.time → task.debounced index before ≠ buttonPressedLevel →
      presses task.tickRateHz index (task.buttons before) window = 1

def filter (task : Task) (index : Fin 2) (polls : List Poll) : LevelFilter Level :=
  after (delay task.tickRateHz) ⟨task.stable index,task.candidate index,task.start⟩ (samples index polls)

variable {task : Task} {index : Fin 2} {poll : Poll} {polls before rest : List Poll}

theorem tracks (index : Fin 2) (clocked : Clocked task.start (before ++ rest)) :
    ∃ last, Tracks task.tickRateHz (task.buttons before index) (task.filter index before) last ∧ Clocked last rest :=
  Tracks.run (Tracks.start task.start task.stable task.candidate index) clocked

theorem follows (task : Task) (index : Fin 2) (polls : List Poll) :
    Follows (task.filter index polls) (task.readings index polls) := by
  have initial : Follows ⟨task.stable index,task.candidate index,task.start⟩
      [(⟨task.start,task.candidate index⟩ : Sample Level)] := ⟨[],_,[],rfl,by simp,rfl⟩
  exact initial.after (delay task.tickRateHz) (samples index polls)

theorem filter_snoc (task : Task) (index : Fin 2) (before : List Poll) (poll : Poll) : task.filter index (before ++ [poll]) =
    (task.filter index before).next (delay task.tickRateHz) (sampleOf index poll) := by
  rw [filter,samples,List.map_append,after_append]
  rfl

theorem filter_append (task : Task) (index : Fin 2) (before : List Poll) (poll : Poll) (later : List Poll) :
    task.filter index (before ++ poll :: later) =
      after (delay task.tickRateHz) ((task.filter index before).next (delay task.tickRateHz) (sampleOf index poll))
        (samples index later) := by
  rw [filter,samples,List.map_append,after_append]
  rfl

theorem reports_iff (clocked : Clocked task.start (before ++ poll :: rest)) : task.reports index before poll = true ↔
    change (delay task.tickRateHz) (task.filter index before) (sampleOf index poll) = some buttonPressedLevel := by
  obtain ⟨last,tracked,remaining⟩ := tracks index clocked
  exact (tracked.turn remaining).2.1

theorem debounced_filter (clocked : Clocked task.start (before ++ rest)) :
    task.debounced index before = (task.filter index before).stable := by
  obtain ⟨last,tracked,_⟩ := tracks index clocked
  exact tracked.stable

theorem button_law (index : Fin 2) (clocked : Clocked task.start polls) : task.Law index polls where
  held before poll rest split report := by
    subst split
    have changed := (reports_iff clocked).mp report
    have held := (follows task index before).held changed
    rw [readings,samples,List.map_append]
    exact held
  entered before poll rest split := by
    subst split
    rw [reports_iff clocked,change_some,← filter_snoc,debounced_filter clocked]
    have here : Clocked task.start ((before ++ [poll]) ++ rest) := by simpa using clocked
    rw [debounced_filter here]
    constructor
    · exact fun both => ⟨Ne.symm both.2,both.1⟩
    · exact fun both => ⟨both.2,Ne.symm both.1⟩
  alternate := by
    have whole : Clocked task.start (polls ++ []) := by simpa using clocked
    have same : transitions task.tickRateHz index (task.buttons []) polls =
        changes (delay task.tickRateHz) (task.filter index []) (samples index polls) :=
      (Tracks.start task.start task.stable task.candidate index).transitions whole
    have filtered : ((task.filter index []).stable ::
        changes (delay task.tickRateHz) (task.filter index []) (samples index polls)).IsChain (· ≠ ·) := changes_alternate
    rw [same]
    exact filtered
  released before first between second rest split report again := by
    subst split
    have later : Clocked task.start ((before ++ first :: between) ++ second :: rest) := by simpa using clocked
    have entered := (reports_iff clocked).mp report
    have twice := (reports_iff later).mp again
    rw [filter_append] at twice
    obtain ⟨other,passed,differs⟩ := left_between entered twice
    obtain ⟨left,sample,right,parts,changed⟩ := mem_changes.mp passed
    obtain ⟨left,tail,rfl,rfl,mapped⟩ := List.map_eq_append_iff.mp parts
    obtain ⟨release,right,rfl,rfl,rfl⟩ := List.map_eq_cons_iff.mp mapped
    obtain ⟨entered,left_⟩ := change_some.mp changed
    have earlier : Clocked task.start ((before ++ first :: left) ++ (release :: right ++ second :: rest)) := by
      simpa using clocked
    have then_ : Clocked task.start ((before ++ first :: (left ++ [release])) ++ (right ++ second :: rest)) := by
      simpa using clocked
    refine ⟨left,release,right,rfl,?_,?_⟩
    · -- There are two levels, and the one that is entered is not the pressed one.
      rw [debounced_filter earlier,filter_append]
      cases other <;> cases here : (after (delay task.tickRateHz)
        ((task.filter index before).next (delay task.tickRateHz) (sampleOf index first)) (samples index left)).stable
      · exact absurd here.symm left_
      · exact absurd rfl differs
      · rfl
      · exact absurd here.symm left_
    · rw [debounced_filter then_,filter_append,samples,List.map_append,after_append]
      exact entered ▸ differs
  once before window rest first last split head final levels long free := by
    subst split
    obtain ⟨time,tracked,remaining⟩ := tracks index clocked
    cases window with
    | nil => cases head
    | cons poll window =>
      obtain rfl : poll = first := Option.some.inj head
      have ordered := tracked.ordered.trans (List.isChain_cons_cons.mp remaining).1.1
      have pressed : ∀ sample ∈ samples index (poll :: window), sample.level = buttonPressedLevel :=
        List.forall_mem_map.mpr levels
      have lasted : (samples index (poll :: window)).getLast? = some (sampleOf index last) := by
        rw [samples,List.getLast?_map,final]
        rfl
      have stable := held_stable ordered pressed lasted long
      have released : (task.filter index before).stable ≠ buttonPressedLevel := by
        rw [← debounced_filter clocked]
        exact free
      rw [tracked.presses remaining,changes_level pressed,if_pos ⟨released,stable⟩,List.count_singleton_self]

theorem sensorId (task : Task) (polls : List Poll) (index : Fin 2) : (task.buttons polls index).sensorId = UInt8.ofNat (index + 1) := by
  induction polls using List.reverseRecOn with
  | nil => rfl
  | append_singleton polls poll ih =>
    rw [buttons,buttonsAfter_append]
    refine Eq.trans ?_ ih
    change (pollButton _ _ _ _).2.sensorId = _
    unfold pollButton
    dsimp only
    split <;> split <;> rfl

theorem sensorIndex_button : ∀ index : Fin 2, sensorIndex (UInt8.ofNat (index + 1)) = some index := by decide

theorem toggle_latest (s : State cfg) (index other : Fin 2) :
    ((toggleDisplay s (UInt8.ofNat (index + 1))).2.sensors other).latest =
      { (s.sensors other).latest with
        displayEnabled := xor (s.sensors other).latest.displayEnabled
          (decide (other = index) && sensorIsAvailable (s.sensors other).latest) } := by
  unfold toggleDisplay
  rw [sensorIndex_button]
  dsimp only
  cases available : sensorIsAvailable (s.sensors index).latest with
  | false =>
    rw [if_neg Bool.false_ne_true]
    by_cases same : other = index
    · subst same
      simp [available]
    · simp [same]
  | true =>
    rw [if_pos rfl,setEnabled]
    by_cases same : other = index
    · subst same
      simp [available]
    · simp [same]

theorem toggled_display (task : Task) (polls : List Poll) (poll : Poll) (s : State cfg) (index : Fin 2) :
    ((toggled task.tickRateHz (task.buttons polls) poll s).sensors index).latest.displayEnabled =
      xor (s.sensors index).latest.displayEnabled
        (task.reports index polls poll && sensorIsAvailable (s.sensors index).latest) := by
  have step (s : State cfg) (index other : Fin 2) :
      ((if reported task.tickRateHz (task.buttons polls) poll index then
        (toggleDisplay s (task.buttons polls index).sensorId).2 else s).sensors other).latest =
        { (s.sensors other).latest with
          displayEnabled := xor (s.sensors other).latest.displayEnabled
            (decide (other = index) && task.reports index polls poll && sensorIsAvailable (s.sensors other).latest) } := by
    cases report : reported task.tickRateHz (task.buttons polls) poll index with
    | false =>
      have silent : task.reports index polls poll = false := report
      simp [silent]
    | true =>
      have pressed : task.reports index polls poll = true := report
      rw [if_pos rfl,sensorId,toggle_latest,pressed,Bool.and_true]
  have both : List.finRange 2 = [0,1] := by decide
  rw [toggled,both,List.foldl_cons,List.foldl_cons,List.foldl_nil,step,step]
  have kept (sensor : SensorSnapshot) (enabled : Bool) :
      sensorIsAvailable { sensor with displayEnabled := enabled } = sensorIsAvailable sensor := rfl
  dsimp only
  rw [kept]
  match index with
  | 0 => simp
  | 1 => simp

end Task

private def bouncing : Task := ⟨100,2 ^ 32 - 3,fun _ => .high,fun _ => .high⟩

-- At 100 Hz the debounce time has four ticks. The counter wraps while the contact bounces.
private def bounces : List Poll :=
  [Level.low,.high,.low,.low,.low,.low,.low,.low,.high].zipIdx.map fun entry =>
    ⟨2 ^ 32 - 3 + entry.2,fun index => if index = 0 then entry.1 else .high⟩

theorem button_law_bounces : bouncing.Law 0 bounces ∧ presses 100 0 (bouncing.buttons []) bounces = 1 := by
  refine ⟨Task.button_law 0 ?_,by decide +kernel⟩
  unfold Clocked
  decide +kernel

end Thermometer.Firmware.LocalControls
