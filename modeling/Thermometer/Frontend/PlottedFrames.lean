import Mathlib.Data.List.Pairwise
import Thermometer.Frontend.PythonBleSource

-- What the page keeps and hands on of the rows it reads, and in what order.
namespace Thermometer.Frontend.DataSource
open Execution Page

variable {js : JavaScript}

def Chronological (frames : List ThermometerFrame) : Prop := frames.Pairwise fun earlier later => earlier.timestamp ≤ later.timestamp

def Ordered (js : JavaScript) (rows : List SampleRow) : Prop :=
  rows.Pairwise fun earlier later => ∃ before after,
    js.dateParse earlier.observedAtUtc = some before ∧ js.dateParse later.observedAtUtc = some after ∧ before ≤ after

def orderedReplies (js : JavaScript) : Page → Event → Prop
  | _,.history (.ok rows) => Ordered js rows
  | _,_ => True

theorem frames_chronological {rows : List SampleRow} (ordered : Ordered js rows) (displays : SensorId → Bool)
    (switchState : SwitchState) (now : Int) :
    Chronological (rows.map fun row => frameFromSample js row displays switchState now) := by
  unfold Chronological
  rw [List.pairwise_map]
  refine ordered.imp ?_
  rintro earlier later ⟨before,after,parsed,parsed_later,le⟩
  simpa [frameFromSample,parsed,parsed_later] using le

theorem Chronological.dropWhile {frames : List ThermometerFrame} (chronological : Chronological frames)
    (p : ThermometerFrame → Bool) : Chronological (frames.dropWhile p) :=
  chronological.sublist (List.dropWhile_sublist p)

theorem Chronological.within {frames : List ThermometerFrame} (chronological : Chronological frames) (cutoff : Int) :
    ∀ frame ∈ frames.dropWhile fun frame => frame.timestamp < cutoff, cutoff ≤ frame.timestamp := by
  induction frames with
  | nil => exact fun _ member => absurd member List.not_mem_nil
  | cons oldest rest ih =>
    obtain ⟨before_all,ordered⟩ := List.pairwise_cons.mp chronological
    intro frame member
    by_cases old : oldest.timestamp < cutoff
    · rw [List.dropWhile_cons_of_pos (by simpa using old)] at member
      exact ih ordered frame member
    · rw [List.dropWhile_cons_of_neg (by simpa using old)] at member
      have recent := not_lt.mp old
      rcases List.mem_cons.mp member with rfl | later
      · exact recent
      · exact recent.trans (before_all frame later)

theorem appendFrame_chronological {frames : List ThermometerFrame} (chronological : Chronological frames)
    (frame : ThermometerFrame) : Chronological (appendFrame frames frame) := by
  rcases List.eq_nil_or_concat frames with rfl | ⟨earlier,last,rfl⟩
  · exact List.pairwise_singleton _ _
  · rw [List.concat_eq_append] at chronological ⊢
    obtain ⟨ordered,_,before⟩ := List.pairwise_append.mp chronological
    have before_last : ∀ one ∈ earlier, one.timestamp ≤ last.timestamp := fun one member =>
      before one member last (List.mem_singleton.mpr rfl)
    simp only [appendFrame,List.getLast?_concat]
    split
    case isTrue newer =>
      refine List.pairwise_append.mpr ⟨chronological,List.pairwise_singleton _ _,?_⟩
      intro one member other same
      cases List.mem_singleton.mp same
      rcases List.mem_append.mp member with early | is_last
      · exact (before_last one early).trans newer.le
      · cases List.mem_singleton.mp is_last
        exact newer.le
    case isFalse =>
      split
      case isTrue equal =>
        rw [List.dropLast_concat]
        refine List.pairwise_append.mpr ⟨ordered,List.pairwise_singleton _ _,?_⟩
        intro one member other same
        cases List.mem_singleton.mp same
        exact equal ▸ before_last one member
      case isFalse => exact chronological

theorem readHistory_chronological {s : Page} {reply : Except String (List SampleRow)} (chronological : Chronological s.history)
    (ordered : orderedReplies js s (.history reply)) : Chronological (s.readHistory js reply) := by
  cases reply with
  | ok rows => exact frames_chronological ordered _ _ _
  | error message => exact chronological

theorem receivedHistory_chronological {s : Page} {reply : Except String (List SampleRow)}
    (chronological : Chronological s.history) (ordered : orderedReplies js s (.history reply)) :
    Chronological (s.receivedHistory js reply) := by
  unfold receivedHistory
  split
  · exact appendFrame_chronological (readHistory_chronological chronological ordered) _
  · exact readHistory_chronological chronological ordered

structure Updating (js : JavaScript) (s : Page) (event : Event) (middle : Page) : Prop where
  now : middle.now = s.now
  lastSample : middle.lastSample = s.lastSample
  state : middle.state = s.state
  history : middle.history = s.history ∨ ∃ reply, event = .history reply ∧ middle.history = s.receivedHistory js reply

structure Frames where
  now : Int
  last : ThermometerFrame
  history : List ThermometerFrame
  state : ThermometerState

def Page.frames (s : Page) : Frames := ⟨s.now,s.last,s.history,s.state⟩

theorem step_frames {s next : Page} {event : Event} (stepped : step js s event = some next) :
    (∃ later, s.now ≤ later ∧ next.frames = { s.frames with now := later }) ∨
    next.frames = { s.frames with state := ⟨s.last,Page.trim (s.getHistory windowS) s.now⟩ } ∨
    ∃ middle, Updating js s event middle ∧ next.frames = (middle.updateFrame js).frames := by
  cases event with
  | pass elapsed =>
    cases Option.some.inj stepped
    exact .inl ⟨_,by simp,rfl⟩
  | unmount | stop | control =>
    cases Option.some.inj stepped
    exact .inl ⟨_,le_rfl,rfl⟩
  | mount =>
    cases Option.some.inj stepped
    refine .inr (.inl ?_)
    simp only [Page.mount,Page.start,Page.tick]
    split
    · rfl
    · split <;> rfl
  | start =>
    cases Option.some.inj stepped
    refine .inl ⟨s.now,le_rfl,?_⟩
    simp only [Page.start,Page.tick]
    split
    · rfl
    · split <;> rfl
  | timer =>
    obtain ⟨_,rfl⟩ := step_timer.mp stepped
    refine .inl ⟨s.now,le_rfl,?_⟩
    unfold Page.tick
    split <;> rfl
  | setSensorEnabled id enabled =>
    cases Option.some.inj stepped
    refine .inl ⟨s.now,le_rfl,?_⟩
    unfold Page.setSensorEnabled
    split <;> rfl
  | status reply =>
    obtain ⟨_,rfl⟩ := step_status.mp stepped
    obtain ⟨_,_,_,eq⟩ := statusReplied_eq { s with waiting := s.waiting.erase .status } reply
    refine .inl ⟨s.now,le_rfl,?_⟩
    rw [eq]
    rfl
  | latest reply =>
    obtain ⟨_,rfl⟩ := step_latest.mp stepped
    cases reply <;> exact .inl ⟨s.now,le_rfl,rfl⟩
  | history reply =>
    obtain ⟨_,rfl⟩ := step_history.mp stepped
    let waits := { s with waiting := s.waiting.erase .history }
    exact .inr (.inr ⟨{ waits with history := waits.receivedHistory js reply },⟨rfl,rfl,rfl,.inr ⟨reply,rfl,rfl⟩⟩,rfl⟩)
  | display id enabled reply =>
    obtain ⟨_,rfl⟩ := step_display.mp stepped
    cases reply with
    | ok confirmed =>
      let shown := { s with
        waiting := s.waiting.erase (.display id enabled)
        displays := Function.update s.displays id confirmed
        confirmedOverrides := Function.update s.confirmedOverrides id (some ⟨confirmed,s.now + 3000⟩) }
      exact .inr (.inr ⟨shown,⟨rfl,rfl,rfl,.inl rfl⟩,rfl⟩)
    | error message => exact .inl ⟨s.now,le_rfl,rfl⟩
  | controlled reply =>
    obtain ⟨_,rfl⟩ := step_controlled.mp stepped
    cases reply <;> exact .inl ⟨s.now,le_rfl,rfl⟩
  | refreshed reply =>
    obtain ⟨_,rfl⟩ := step_refreshed.mp stepped
    cases reply with
    | ok status =>
      let known := { s with waiting := s.waiting.erase .controlStatus, lastStatus := status }
      exact .inr (.inr ⟨known,⟨rfl,rfl,rfl,.inl rfl⟩,rfl⟩)
    | error message => exact .inl ⟨s.now,le_rfl,rfl⟩

theorem updateFrame_frames (middle : Page) : (middle.updateFrame js).frames = (middle.windowed js).frames ∨
    (middle.updateFrame js).frames = ((middle.windowed js).listener (middle.current js)).frames := by
  unfold Page.updateFrame Page.emit
  split
  · exact .inr rfl
  · exact .inl rfl

theorem Updating.chronological {s middle : Page} {event : Event} (updating : Updating js s event middle)
    (chronological : Chronological s.history) (ordered : orderedReplies js s event) : Chronological middle.history := by
  rcases updating.history with same | ⟨reply,rfl,read⟩
  · exact same ▸ chronological
  · exact read ▸ receivedHistory_chronological chronological ordered

theorem getHistory_chronological {s : Page} (chronological : Chronological s.history) (seconds : Int) :
    Chronological (s.getHistory seconds) := chronological.sublist List.filter_sublist

theorem trim_chronological {frames : List ThermometerFrame} (chronological : Chronological frames) (now : Int) :
    Chronological (Page.trim frames now) := chronological.dropWhile _

theorem frames_eq {s other : Page} (same : s.frames = other.frames) :
    s.now = other.now ∧ s.last = other.last ∧ s.history = other.history ∧ s.state = other.state := by
  simpa [Page.frames] using same

theorem updateFrame_step {s next middle : Page} {event : Event} (updating : Updating js s event middle)
    (chronological : Chronological middle.history) (same : next.frames = (middle.updateFrame js).frames) :
    Chronological next.history ∧ (∀ frame ∈ next.history, next.now - historyMs ≤ frame.timestamp) ∧
    (next.getHistory windowS ≠ [] → next.state = s.state ∨ Chronological next.state.history) := by
  have windowed : Chronological (middle.windowed js).history := chronological.dropWhile _
  rcases updateFrame_frames middle with plain | heard
  · obtain ⟨now,_,history,state⟩ := frames_eq (same.trans plain)
    refine ⟨history ▸ windowed,?_,fun _ => .inl (state.trans updating.state)⟩
    rw [history,now]
    exact chronological.within _
  · obtain ⟨now,_,history,state⟩ := frames_eq (same.trans heard)
    have seeded : next.getHistory windowS = (middle.windowed js).getHistory windowS := by
      simp only [getHistory,history,now]
      rfl
    refine ⟨history ▸ windowed,?_,fun some => .inr ?_⟩
    · rw [history,now]
      exact chronological.within _
    · rw [seeded] at some
      simp only [state,listener,if_neg some]
      exact trim_chronological (getHistory_chronological windowed _) _

theorem step_chronological {s next : Page} {event : Event} (chronological : Chronological s.history)
    (ordered : orderedReplies js s event) (stepped : step js s event = some next) :
    Chronological next.history ∧
    (next.history = s.history ∨ ∀ frame ∈ next.history, next.now - historyMs ≤ frame.timestamp) ∧
    (next.getHistory windowS ≠ [] → next.state = s.state ∨ Chronological next.state.history) := by
  rcases step_frames stepped with ⟨later,_,same⟩ | same | ⟨middle,updating,same⟩
  · have parts : next.history = s.history ∧ next.state = s.state := by
      simp only [Page.frames,Frames.mk.injEq] at same
      exact same.2.2
    exact ⟨parts.1 ▸ chronological,.inl parts.1,fun _ => .inl parts.2⟩
  · simp only [Page.frames,Frames.mk.injEq] at same
    obtain ⟨_,_,history,state⟩ := same
    refine ⟨history ▸ chronological,.inl history,fun _ => .inr ?_⟩
    rw [state]
    exact trim_chronological (getHistory_chronological chronological _) _
  · obtain ⟨in_order,window,handed⟩ := updateFrame_step updating (updating.chronological chronological ordered) same
    exact ⟨in_order,.inr window,handed⟩

theorem run_chronological {now : Int} {trace : List (Page × Event)} {s : Page}
    (path : Path (step js) (orderedReplies js) (opened now) trace s) : Chronological s.history :=
  path.invariant (fun s => Chronological s.history) (show Chronological [] from .nil) fun _ _ _ chronological ordered stepped =>
    (step_chronological chronological ordered stepped).1

-- In every run in which the rows come as the samples server sorts them, the page's history is oldest first
-- whatever fails between; a step that touches it leaves it within the window, and what the hook
-- is given from it is oldest first, too.
theorem plotted_in_order {now : Int} {trace : List (Page × Event)} {s : Page}
    (path : Path (step js) (orderedReplies js) (opened now) trace s) :
    Chronological s.history ∧
    (∀ seconds, Chronological (s.getHistory seconds) ∧
      ∀ frame ∈ s.getHistory seconds, s.now - seconds * 1000 ≤ frame.timestamp) ∧
    ∀ event next, orderedReplies js s event → step js s event = some next →
      (next.history = s.history ∨ ∀ frame ∈ next.history, next.now - historyMs ≤ frame.timestamp) ∧
      (next.getHistory windowS ≠ [] → next.state = s.state ∨ Chronological next.state.history) := by
  have chronological := run_chronological path
  refine ⟨chronological,fun seconds => ⟨getHistory_chronological chronological seconds,?_⟩,?_⟩
  · intro frame member
    simpa using List.of_mem_filter member
  · intro event next ordered stepped
    exact (step_chronological chronological ordered stepped).2

def exampleBrowser : JavaScript where
  dateParse := fun text =>
    if text = "2026-01-01T00:00:00Z" then some 1767225600000
    else if text = "2026-01-01T00:00:01Z" then some 1767225601000
    else none
  number := fun _ => none

def measuredRow : SampleRow := ⟨"2026-01-01T00:00:00Z",fun _ => .number 21,fun _ => .valid⟩

def unpluggedRow : SampleRow :=
  ⟨"2026-01-01T00:00:01Z",fun _ => .null,fun id => match id with | .one => .disconnected | .two => .missing⟩

theorem plotted_in_order_first_tick :
    ∃ trace s, Path (step exampleBrowser) (orderedReplies exampleBrowser) (opened 1767225602000) trace s ∧
      trace.map Prod.snd = [.mount,.status (.error ""),.latest (.ok (some unpluggedRow)),.history (.ok [measuredRow,unpluggedRow])] ∧
      s.history.map (·.timestamp) = [1767225600000,1767225601000] ∧ Chronological s.history := by
  have mounted := Path.snoc (.nil : Path (step exampleBrowser) (orderedReplies exampleBrowser) (opened 1767225602000) [] _)
    (show orderedReplies exampleBrowser _ .mount from trivial) rfl
  have offline := mounted.snoc (show orderedReplies exampleBrowser _ (.status (.error "")) from trivial) rfl
  have latest := offline.snoc (show orderedReplies exampleBrowser _ (.latest (.ok (some unpluggedRow))) from trivial) rfl
  have ordered : Ordered exampleBrowser [measuredRow,unpluggedRow] := by
    unfold Ordered
    rw [List.pairwise_pair]
    exact ⟨_,_,rfl,rfl,by decide⟩
  have read := latest.snoc (show orderedReplies exampleBrowser _ (.history (.ok [measuredRow,unpluggedRow])) from ordered) rfl
  exact ⟨_,_,read,rfl,by decide,(plotted_in_order read).1⟩

def sent : Event → List SampleRow
  | .latest (.ok (some row)) => [row]
  | .history (.ok rows) => rows
  | _ => []

def returned (trace : List (Page × Event)) : List SampleRow := trace.flatMap fun entry => sent entry.2

def Genuine (js : JavaScript) (rows : List SampleRow) (frame : ThermometerFrame) : Prop :=
  (∃ moment, frame = offlineFrame moment) ∨
  ∃ row ∈ rows, ∃ displays switchState moment, frame = frameFromSample js row displays switchState moment

theorem Genuine.mono {rows more : List SampleRow} {frame : ThermometerFrame} (genuine : Genuine js rows frame)
    (subset : rows ⊆ more) : Genuine js more frame := by
  rcases genuine with offline | ⟨row,member,made⟩
  · exact .inl offline
  · exact .inr ⟨row,subset member,made⟩

structure AllGenuine (js : JavaScript) (rows : List SampleRow) (s : Page) : Prop where
  lastSample : ∀ row, s.lastSample = some row → row ∈ rows
  last : Genuine js rows s.last
  history : ∀ frame ∈ s.history, Genuine js rows frame
  frame : Genuine js rows s.state.frame
  handed : ∀ frame ∈ s.state.history, Genuine js rows frame

theorem step_lastSample {s next : Page} {event : Event} (stepped : step js s event = some next) (row : SampleRow)
    (known : next.lastSample = some row) : s.lastSample = some row ∨ row ∈ sent event := by
  cases event with
  | pass | unmount | stop | control =>
    cases Option.some.inj stepped
    exact .inl known
  | mount | start =>
    cases Option.some.inj stepped
    simp only [Page.mount,Page.start,Page.tick] at known
    split at known
    · exact .inl known
    · split at known <;> exact .inl known
  | timer =>
    obtain ⟨_,rfl⟩ := step_timer.mp stepped
    unfold Page.tick at known
    split at known <;> exact .inl known
  | setSensorEnabled id enabled =>
    cases Option.some.inj stepped
    unfold Page.setSensorEnabled at known
    split at known <;> exact .inl known
  | status reply =>
    obtain ⟨_,rfl⟩ := step_status.mp stepped
    obtain ⟨_,_,_,eq⟩ := statusReplied_eq { s with waiting := s.waiting.erase .status } reply
    rw [eq] at known
    exact .inl known
  | latest reply =>
    obtain ⟨_,rfl⟩ := step_latest.mp stepped
    cases reply with
    | ok latest =>
      have now_known : latest = some row := known
      rw [now_known]
      exact .inr (List.mem_singleton.mpr rfl)
    | error message => cases known
  | history reply =>
    obtain ⟨_,rfl⟩ := step_history.mp stepped
    exact .inl (by simpa [historyReplied] using known)
  | display id enabled reply =>
    obtain ⟨_,rfl⟩ := step_display.mp stepped
    cases reply <;> exact .inl (by simpa [displayReplied] using known)
  | controlled reply =>
    obtain ⟨_,rfl⟩ := step_controlled.mp stepped
    cases reply <;> exact .inl known
  | refreshed reply =>
    obtain ⟨_,rfl⟩ := step_refreshed.mp stepped
    cases reply <;> exact .inl (by simpa [Page.refreshed] using known)

theorem mem_appendFrame {frames : List ThermometerFrame} {frame one : ThermometerFrame}
    (member : one ∈ appendFrame frames frame) : one ∈ frames ∨ one = frame := by
  unfold appendFrame at member
  split at member
  · simpa using member
  · split at member
    · simpa using member
    · split at member
      · exact (List.mem_append.mp member).imp (List.dropLast_subset frames ·) List.mem_singleton.mp
      · exact .inl member

theorem readHistory_genuine {s : Page} {rows : List SampleRow} {reply : Except String (List SampleRow)}
    (genuine : ∀ frame ∈ s.history, Genuine js rows frame) (known : sent (.history reply) ⊆ rows) :
    ∀ frame ∈ s.readHistory js reply, Genuine js rows frame := by
  cases reply with
  | error message => exact genuine
  | ok read =>
    intro frame member
    obtain ⟨row,of_read,rfl⟩ := List.mem_map.mp member
    exact .inr ⟨row,known of_read,_,_,_,rfl⟩

theorem receivedHistory_genuine {s : Page} {rows : List SampleRow} {reply : Except String (List SampleRow)}
    (genuine : ∀ frame ∈ s.history, Genuine js rows frame) (known : sent (.history reply) ⊆ rows)
    (sampled : ∀ row, s.lastSample = some row → row ∈ rows) : ∀ frame ∈ s.receivedHistory js reply, Genuine js rows frame := by
  intro frame member
  unfold receivedHistory at member
  split at member
  case h_1 row last =>
    rcases mem_appendFrame member with read | rfl
    · exact readHistory_genuine genuine known frame read
    · exact .inr ⟨row,sampled row last,_,_,_,rfl⟩
  case h_2 => exact readHistory_genuine genuine known frame member

theorem current_genuine {s : Page} {rows : List SampleRow} (sampled : ∀ row, s.lastSample = some row → row ∈ rows) :
    Genuine js rows (s.current js) := by
  unfold Page.current
  split
  case h_1 row last => exact .inr ⟨row,sampled row last,_,_,_,rfl⟩
  case h_2 => exact .inl ⟨_,rfl⟩

theorem trim_subset (frames : List ThermometerFrame) (now : Int) : Page.trim frames now ⊆ frames := List.dropWhile_subset _

theorem getHistory_subset (s : Page) (seconds : Int) : s.getHistory seconds ⊆ s.history := List.filter_subset_self _

theorem updateFrame_genuine {s next middle : Page} {event : Event} {rows : List SampleRow} (genuine : AllGenuine js rows s)
    (known : sent event ⊆ rows) (updating : Updating js s event middle)
    (same : next.frames = (middle.updateFrame js).frames) : Genuine js rows next.last ∧
      (∀ frame ∈ next.history, Genuine js rows frame) ∧ Genuine js rows next.state.frame ∧
      ∀ frame ∈ next.state.history, Genuine js rows frame := by
  have found : ∀ frame ∈ middle.history, Genuine js rows frame := by
    rcases updating.history with kept | ⟨reply,rfl,read⟩
    · exact kept ▸ genuine.history
    · exact read ▸ receivedHistory_genuine genuine.history known genuine.lastSample
  have now_shown : Genuine js rows (middle.current js) := current_genuine (updating.lastSample ▸ genuine.lastSample)
  have windowed : ∀ frame ∈ (middle.windowed js).history, Genuine js rows frame := fun frame member =>
    found frame (List.dropWhile_subset _ member)
  rcases updateFrame_frames middle with plain | heard
  · obtain ⟨_,last,history,state⟩ := frames_eq (same.trans plain)
    have handed : next.state = s.state := state.trans updating.state
    exact ⟨last ▸ now_shown,history ▸ windowed,handed ▸ genuine.frame,handed ▸ genuine.handed⟩
  · obtain ⟨_,last,history,state⟩ := frames_eq (same.trans heard)
    refine ⟨last ▸ now_shown,history ▸ windowed,state ▸ now_shown,?_⟩
    rw [state]
    intro frame member
    have source := trim_subset _ _ member
    split at source
    · rcases List.mem_append.mp source with old | current
      · exact genuine.handed frame (updating.state ▸ old)
      · exact List.mem_singleton.mp current ▸ now_shown
    · exact windowed frame (getHistory_subset _ _ source)

theorem step_genuine {s next : Page} {event : Event} {rows : List SampleRow} (genuine : AllGenuine js rows s)
    (known : sent event ⊆ rows) (stepped : step js s event = some next) : AllGenuine js rows next := by
  have sampled : ∀ row, next.lastSample = some row → row ∈ rows := fun row last =>
    (step_lastSample stepped row last).elim (genuine.lastSample row) fun fresh => known fresh
  rcases step_frames stepped with ⟨later,_,same⟩ | same | ⟨middle,updating,same⟩
  · simp only [Page.frames,Frames.mk.injEq] at same
    obtain ⟨_,last,history,state⟩ := same
    exact ⟨sampled,last ▸ genuine.last,history ▸ genuine.history,state ▸ genuine.frame,state ▸ genuine.handed⟩
  · simp only [Page.frames,Frames.mk.injEq] at same
    obtain ⟨_,last,history,state⟩ := same
    refine ⟨sampled,last ▸ genuine.last,history ▸ genuine.history,state ▸ genuine.last,?_⟩
    rw [state]
    intro frame member
    exact genuine.history frame (getHistory_subset _ _ (trim_subset _ _ member))
  · obtain ⟨last,history,frame,handed⟩ := updateFrame_genuine genuine known updating same
    exact ⟨sampled,last,history,frame,handed⟩

theorem AllGenuine.mono {s : Page} {rows more : List SampleRow} (genuine : AllGenuine js rows s) (subset : rows ⊆ more) :
    AllGenuine js more s where
  lastSample := fun row last => subset (genuine.lastSample row last)
  last := genuine.last.mono subset
  history := fun frame member => (genuine.history frame member).mono subset
  frame := genuine.frame.mono subset
  handed := fun frame member => (genuine.handed frame member).mono subset

theorem run_genuine {now : Int} {trace : List (Page × Event)} {s : Page} (path : Path (step js) anyStep (opened now) trace s) :
    AllGenuine js (returned trace) s := by
  refine path.history (fun trace s => AllGenuine js (returned trace) s) ?_ ?_
  · exact ⟨nofun,.inl ⟨now,rfl⟩,nofun,.inl ⟨now,rfl⟩,nofun⟩
  · intro trace s event next _ genuine _ stepped
    have grown : returned (trace ++ [(s,event)]) = returned trace ++ sent event := by
      simp [returned]
    rw [grown]
    exact step_genuine (genuine.mono (List.subset_append_left _ _)) (List.subset_append_right _ _) stepped

theorem AllGenuine.every {s : Page} {rows : List SampleRow} (genuine : AllGenuine js rows s) {frame : ThermometerFrame}
    (held : frame = s.last ∨ frame ∈ s.history ∨ frame = s.state.frame ∨ frame ∈ s.state.history) : Genuine js rows frame := by
  rcases held with rfl | kept | rfl | handed
  · exact genuine.last
  · exact genuine.history frame kept
  · exact genuine.frame
  · exact genuine.handed frame handed

theorem Genuine.reading {rows : List SampleRow} {frame : ThermometerFrame} (genuine : Genuine js rows frame) {id : SensorId}
    {value : Rat} (shown : (frame.readings id).celsius = some value) : ∃ row ∈ rows,
      row.status id = .valid ∧ celsiusOrNull js (row.celsius id) = some value ∧
      ∀ moment, js.dateParse row.observedAtUtc = some moment → frame.timestamp = moment := by
  rcases genuine with ⟨moment,rfl⟩ | ⟨row,member,displays,switchState,moment,rfl⟩
  · cases shown
  · refine ⟨row,member,?_⟩
    simp only [frameFromSample,readingFromSample] at shown ⊢
    split at shown
    case isTrue valid =>
      refine ⟨valid,shown,fun observed parsed => ?_⟩
      rw [parsed]
      rfl
    case isFalse => cases shown

-- The page makes no readings up: whatever it holds or hands on in any run, every frame is blank or made of a
-- row that the samples server sent, and every temperature stands in such a row, as the
-- valid value of that sensor at the time that the frame bears.
theorem plotted_frames_read {now : Int} {trace : List (Page × Event)} {s : Page}
    (path : Path (step js) anyStep (opened now) trace s) :
    ∀ frame, frame = s.last ∨ frame ∈ s.history ∨ frame = s.state.frame ∨ frame ∈ s.state.history →
      Genuine js (returned trace) frame ∧
      ∀ id value, (frame.readings id).celsius = some value → ∃ row ∈ returned trace,
        row.status id = .valid ∧ celsiusOrNull js (row.celsius id) = some value ∧
        ∀ moment, js.dateParse row.observedAtUtc = some moment → frame.timestamp = moment := by
  intro frame held
  have read := (run_genuine path).every held
  exact ⟨read,fun _ _ => read.reading⟩

theorem plotted_frames_read_first_tick :
    ∃ trace s, Path (step exampleBrowser) anyStep (opened 1767225602000) trace s ∧
      trace.map Prod.snd = [.mount,.status (.error ""),.latest (.ok (some measuredRow)),.history (.ok [measuredRow])] ∧
      (s.state.frame.readings .one).celsius = some 21 ∧ Genuine exampleBrowser (returned trace) s.state.frame := by
  have mounted := Path.snoc (.nil : Path (step exampleBrowser) anyStep (opened 1767225602000) [] _) trivial
    (rfl : step exampleBrowser _ .mount = some _)
  have offline := mounted.snoc trivial (rfl : step exampleBrowser _ (.status (.error "")) = some _)
  have latest := offline.snoc trivial (rfl : step exampleBrowser _ (.latest (.ok (some measuredRow))) = some _)
  have read := latest.snoc trivial (rfl : step exampleBrowser _ (.history (.ok [measuredRow])) = some _)
  exact ⟨_,_,read,rfl,rfl,(plotted_frames_read read _ (.inr (.inr (.inl rfl)))).1⟩

end Thermometer.Frontend.DataSource
