import Thermometer.Firmware.FrozenHistory
import Thermometer.Firmware.HistoryQueue

-- Over a boot the samples of a sensor form a log that only grows. The ring shows the end
-- of it, and the frozen copy the end of what it was at the last metadata request.
namespace Thermometer.Firmware
open Wrapping Wire

variable {cfg : DeviceConfig} {i : Fin sensorCount}

def sampled (s : State cfg) (i : Fin sensorCount) : Event → List HistoryRecord
  | .tick => [⟨s.latestSequence + 1,(s.sensors i).latest.temperatureCentiC,(s.sensors i).latest.dataStatus⟩]
  | _ => []

def sampleLog (s : State cfg) (i : Fin sensorCount) : List Event → List HistoryRecord
  | [] => []
  | event :: rest => sampled s i event ++ sampleLog (step s event) i rest

def bootLog (cfg : DeviceConfig) (bootId : UInt32) (i : Fin sensorCount) (events : List Event) : List HistoryRecord :=
  sampleLog (start cfg bootId) i events

theorem run_append (s : State cfg) (before after : List Event) : run s (before ++ after) = run (run s before) after :=
  List.foldl_append

theorem sampleLog_append (s : State cfg) (before after : List Event) :
    sampleLog s i (before ++ after) = sampleLog s i before ++ sampleLog (run s before) i after := by
  induction before generalizing s with
  | nil => rfl
  | cons event rest ih =>
    rw [List.cons_append,sampleLog,sampleLog,ih,List.append_assoc]
    rfl

theorem sampleLog_snoc (s : State cfg) (events : List Event) (event : Event) :
    sampleLog s i (events ++ [event]) = sampleLog s i events ++ sampled (run s events) i event := by
  rw [sampleLog_append,sampleLog,sampleLog,List.append_nil]

theorem bootLog_begins (cfg : DeviceConfig) (bootId : UInt32) (i : Fin sensorCount) {before after : List Event}
    (earlier : before <+: after) : bootLog cfg bootId i before <+: bootLog cfg bootId i after := by
  obtain ⟨rest,rfl⟩ := earlier
  rw [bootLog,bootLog,sampleLog_append]
  exact List.prefix_append _ _

theorem sampled_quiet (s : State cfg) {event : Event} (quiet : event ≠ .tick) : sampled s i event = [] := by
  cases event with
  | tick => exact absurd rfl quiet
  | _ => rfl

theorem step_contents (s : State cfg) (event : Event) {log : List HistoryRecord}
    (shown : (s.sensors i).history.contents = lastRecords cfg.capacity.size log) :
    ((step s event).sensors i).history.contents = lastRecords cfg.capacity.size (log ++ sampled s i event) := by
  by_cases due : event = .tick
  · subst due
    have appended : ((step s .tick).sensors i).history = (s.sensors i).history.append
        ⟨s.latestSequence + 1,(s.sensors i).latest.temperatureCentiC,(s.sensors i).latest.dataStatus⟩ := rfl
    rw [appended,HistoryBuffer.append_contents,shown]
    exact pushBounded_lastRecords cfg.capacity.size log _
  · rw [sampled_quiet s due,List.append_nil,(step_rings s event due).2 i]
    exact shown

theorem run_contents (cfg : DeviceConfig) (bootId : UInt32) (i : Fin sensorCount) (events : List Event) :
    ((run (start cfg bootId) events).sensors i).history.contents =
      lastRecords cfg.capacity.size (bootLog cfg bootId i events) := by
  induction events using List.reverseRecOn with
  | nil =>
    rw [show bootLog cfg bootId i [] = [] from rfl,lastRecords,List.drop_nil]
    exact HistoryBuffer.init_contents
  | append_singleton events event ih =>
    rw [bootLog,sampleLog_snoc,run_append]
    exact step_contents _ event ih

theorem run_numbers (cfg : DeviceConfig) (bootId : UInt32) (i : Fin sensorCount) (events : List Event) :
    let log := bootLog cfg bootId i events
    log.map (·.sequence.toNat) = span (2 ^ 32) 1 log.length ∧
      (run (start cfg bootId) events).latestSequence.toNat = log.length % 2 ^ 32 := by
  induction events using List.reverseRecOn with
  | nil => exact ⟨rfl,rfl⟩
  | append_singleton events event ih =>
    obtain ⟨numbers,latest⟩ := ih
    dsimp only
    rw [bootLog,sampleLog_snoc,run_append]
    change _ ∧ (step (run (start cfg bootId) events) event).latestSequence.toNat = _
    rw [← bootLog]
    by_cases due : event = .tick
    · subst due
      have next : ((run (start cfg bootId) events).latestSequence + 1).toNat =
          (1 + (bootLog cfg bootId i events).length) % 2 ^ 32 := by
        rw [UInt32.toNat_add,latest,Nat.mod_add_mod,Nat.add_comm]
        rfl
      refine ⟨?_,?_⟩
      · rw [List.map_append,numbers,List.length_append,sampled,List.length_singleton,span_succ,← next]
        rfl
      · rw [List.length_append,sampled,List.length_singleton,Nat.add_comm]
        exact next
    · rw [sampled_quiet _ due,List.append_nil,(step_rings _ event due).1]
      exact ⟨numbers,latest⟩

theorem bootLog_number {bootId : UInt32} {events : List Event} {n : Nat} {record : HistoryRecord}
    (logged : (bootLog cfg bootId i events)[n]? = some record) : record.sequence.toNat = (n + 1) % 2 ^ 32 := by
  have number := congrArg (fun numbers => numbers[n]?) (run_numbers cfg bootId i events).1
  have fits := (List.getElem?_eq_some_iff.mp logged).1
  simp only [List.getElem?_map,logged,span,List.getElem?_range fits,Option.map_some,Option.some.injEq] at number
  rw [number,Nat.add_comm]

theorem run_announced (cfg : DeviceConfig) (bootId : UInt32) (i : Fin sensorCount) (events : List Event) :
    let history := ((run (start cfg bootId) events).sensors i).history
    history.contents.map (·.sequence.toNat) = span (2 ^ 32) history.oldestSequence.toNat history.count.toNat := by
  intro history
  have rings := started_consecutive cfg bootId events i
  rcases Nat.eq_zero_or_pos history.count.toNat with none | positive
  · have empty : history.contents = [] := by
      rw [← List.length_eq_zero_iff,HistoryBuffer.contents_length]
      exact none
    rw [none,empty]
    rfl
  · exact (consecutive_oldest rings positive).1

def FrozenAt (bootId : UInt32) (asked : List Event) (s : State cfg) : Prop :=
  s.historySnapshotValid = true ∧ ∀ i, s.historySnapshot i = ((run (start cfg bootId) asked).sensors i).history

def FrozenBy (bootId : UInt32) (s : State cfg) : Option (List Event) → Prop
  | none => s.historySnapshotValid = false
  | some asked => FrozenAt bootId asked s

theorem FrozenBy.quiet {bootId : UInt32} {s : State cfg} {asked : Option (List Event)} (frozen : FrozenBy bootId s asked)
    (events : List Event) (other : Event.getHistoryMeta ∉ events) : FrozenBy bootId (run s events) asked := by
  obtain ⟨snapshot,valid⟩ := run_frozen events s other
  cases asked with
  | none => exact valid.trans frozen
  | some asked => exact ⟨valid.trans frozen.1,fun i => (congrFun snapshot i).trans (frozen.2 i)⟩

theorem FrozenBy.asked (bootId : UInt32) (events : List Event) :
    FrozenBy bootId (getHistoryMeta (run (start cfg bootId) events)).2 (some events) := ⟨rfl,fun _ => rfl⟩

def lastAsked : List Event → List Event → Option (List Event) → Option (List Event)
  | _,[],asked => asked
  | past,.getHistoryMeta :: rest,_ => lastAsked (past ++ [.getHistoryMeta]) rest (some past)
  | past,event :: rest,asked => lastAsked (past ++ [event]) rest asked

theorem lastAsked_quiet (past rest : List Event) (asked : Option (List Event)) {event : Event}
    (other : event ≠ .getHistoryMeta) :
    lastAsked past (event :: rest) asked = lastAsked (past ++ [event]) rest asked := by
  cases event with
  | getHistoryMeta => exact absurd rfl other
  | _ => rfl

theorem lastAsked_append (past before after : List Event) (asked : Option (List Event)) :
    lastAsked past (before ++ after) asked = lastAsked (past ++ before) after (lastAsked past before asked) := by
  induction before generalizing past asked with
  | nil =>
    rw [List.nil_append,List.append_nil]
    rfl
  | cons event rest ih =>
    by_cases request : event = .getHistoryMeta
    · subst request
      rw [List.cons_append,lastAsked,lastAsked,ih,List.append_assoc,List.singleton_append]
    · rw [List.cons_append,lastAsked_quiet _ _ _ request,lastAsked_quiet _ _ _ request,ih,List.append_assoc,
        List.singleton_append]

theorem lastAsked_calm (past events : List Event) (asked : Option (List Event)) (other : Event.getHistoryMeta ∉ events) :
    lastAsked past events asked = asked := by
  induction events generalizing past with
  | nil => rfl
  | cons event rest ih =>
    obtain ⟨notEvent,notRest⟩ := List.ne_and_not_mem_of_not_mem_cons other
    rw [lastAsked_quiet past rest asked (Ne.symm notEvent)]
    exact ih _ notRest

theorem lastAsked_some (past events asked : List Event) : ∃ later, lastAsked past events (some asked) = some later := by
  induction events generalizing past asked with
  | nil => exact ⟨asked,rfl⟩
  | cons event rest ih =>
    by_cases request : event = .getHistoryMeta
    · subst request
      exact ih _ _
    · rw [lastAsked_quiet past rest _ request]
      exact ih _ _

theorem lastAsked_request {past events found : List Event} {asked : Option (List Event)}
    (last : lastAsked past events asked = some found) :
    asked = some found ∨ found ++ [.getHistoryMeta] <+: past ++ events := by
  induction events generalizing past asked with
  | nil => exact .inl last
  | cons event rest ih =>
    have joined : past ++ event :: rest = past ++ [event] ++ rest := by rw [List.append_assoc,List.singleton_append]
    rw [joined]
    by_cases request : event = .getHistoryMeta
    · subst request
      rcases ih last with here | further
      · cases here
        exact .inr (List.prefix_append _ _)
      · exact .inr further
    · rw [lastAsked_quiet past rest _ request] at last
      exact ih last

theorem run_frozenBy (cfg : DeviceConfig) (bootId : UInt32) (events : List Event) :
    FrozenBy bootId (run (start cfg bootId) events) (lastAsked [] events none) ∧
      ∀ asked, lastAsked [] events none = some asked → asked <+: events := by
  have general : ∀ (rest past : List Event) (asked : Option (List Event)),
      FrozenBy bootId (run (start cfg bootId) past) asked → (∀ earlier, asked = some earlier → earlier <+: past) →
      FrozenBy bootId (run (start cfg bootId) (past ++ rest)) (lastAsked past rest asked) ∧
        ∀ earlier, lastAsked past rest asked = some earlier → earlier <+: past ++ rest := by
    intro rest
    induction rest with
    | nil =>
      intro past asked frozen earlier
      rw [List.append_nil]
      exact ⟨frozen,earlier⟩
    | cons event rest ih =>
      intro past asked frozen earlier
      have behind : past ++ event :: rest = (past ++ [event]) ++ rest := by simp
      have whole : past <+: past ++ [event] := List.prefix_append _ _
      rw [behind]
      by_cases request : event = .getHistoryMeta
      · subst request
        refine ih (past ++ [.getHistoryMeta]) (some past) ?_ ?_
        · rw [run_append]
          exact FrozenBy.asked bootId past
        · intro other same
          cases same
          exact whole
      · rw [lastAsked_quiet past rest asked request]
        refine ih (past ++ [event]) asked ?_ fun other same => (earlier other same).trans whole
        rw [run_append]
        exact frozen.quiet [event] (by simpa using Ne.symm request)
  exact general events [] none rfl (by intro _ impossible; cases impossible)

theorem lastRecords_suffix (capacity : Nat) (records : List α) : lastRecords capacity records <:+ records :=
  List.drop_suffix _ _

theorem copied_span {c : Capacity} {buffer : HistoryBuffer c}
    (copied : buffer.copy startSequence requestedCount = some records) :
    records <:+: buffer.contents ∧ (records.head?).map (·.sequence) = some startSequence := by
  have spec := buffer.copy_contents startSequence requestedCount
  dsimp only at spec
  rw [copied] at spec
  split at spec
  · cases spec
  · rename_i present
    simp only [not_or] at present
    have bound : buffer.contents.findIdx (·.sequence == startSequence) ≤ buffer.contents.length := List.findIdx_le_length
    have found : buffer.contents.findIdx (·.sequence == startSequence) < buffer.contents.length := by omega
    have first := List.findIdx_getElem (w := found)
    cases Option.some.inj spec
    refine ⟨(List.take_prefix _ _).isInfix.trans (List.drop_suffix _ _).isInfix,?_⟩
    rw [List.head?_take,if_neg present.2,List.head?_drop,List.getElem?_eq_getElem found,Option.map_some,
      beq_iff_eq.mp first]

def shownEvents (events : List Event) : List Event := (lastAsked [] events none).getD events

theorem shownEvents_begins (cfg : DeviceConfig) (bootId : UInt32) (events : List Event) : shownEvents events <+: events := by
  obtain ⟨_,earlier⟩ := run_frozenBy cfg bootId events
  unfold shownEvents
  cases last : lastAsked [] events none with
  | none => exact List.prefix_refl _
  | some asked => exact earlier asked last

theorem copyHistory_shown (cfg : DeviceConfig) (bootId : UInt32) (events : List Event)
    (known : sensorIndex sensorId = some i) (startSequence : UInt32) (requestedCount : Nat) :
    copyHistory (run (start cfg bootId) events) sensorId startSequence requestedCount =
      ((run (start cfg bootId) (shownEvents events)).sensors i).history.copy startSequence requestedCount := by
  obtain ⟨frozen,_⟩ := run_frozenBy cfg bootId events
  simp only [copyHistory,known,shownEvents]
  cases last : lastAsked [] events none with
  | none =>
    rw [last] at frozen
    rw [show (run (start cfg bootId) events).historySnapshotValid = false from frozen]
    rfl
  | some asked =>
    rw [last] at frozen
    rw [show (run (start cfg bootId) events).historySnapshotValid = true from frozen.1,if_pos rfl,frozen.2 i]
    rfl

-- Whatever has happened on the device, the n-th sample of a boot carries the number n, and
-- a chunk is a piece of that log without a gap that begins with the requested number: of
-- its end at the last metadata request, or before the first one of its present end.
theorem chunk_from_log (cfg : DeviceConfig) (bootId : UInt32) (events : List Event) (sensorId : UInt8)
    (i : Fin sensorCount) (known : sensorIndex sensorId = some i) (startSequence : UInt32) (requestedCount : Nat)
    (records : List HistoryRecord)
    (copied : copyHistory (run (start cfg bootId) events) sensorId startSequence requestedCount = some records) :
    let log := bootLog cfg bootId i (shownEvents events)
    log <+: bootLog cfg bootId i events ∧ log.map (·.sequence.toNat) = span (2 ^ 32) 1 log.length ∧
      records <:+: lastRecords cfg.capacity.size log ∧ (records.head?).map (·.sequence) = some startSequence := by
  intro log
  rw [copyHistory_shown cfg bootId events known] at copied
  refine ⟨bootLog_begins cfg bootId i (shownEvents_begins cfg bootId events),(run_numbers cfg bootId i _).1,?_⟩
  rw [← run_contents]
  exact copied_span copied

-- Three slots, five samples, a metadata request behind the fourth.
theorem chunk_from_log_three_slots :
    [⟨3,0,.disconnected⟩,⟨4,0,.disconnected⟩] <:+:
      lastRecords threeSlots.capacity.size (bootLog threeSlots 7 0 (shownEvents (.replicate 4 .tick ++ [.getHistoryMeta,.tick]))) :=
  (chunk_from_log threeSlots 7 (.replicate 4 .tick ++ [.getHistoryMeta,.tick]) 1 0 (by decide) 3 5
    [⟨3,0,.disconnected⟩,⟨4,0,.disconnected⟩] (by decide)).2.2.1

end Thermometer.Firmware
