import Thermometer.Frontend.PythonBleSource

-- How long the page keeps showing what a display command confirmed.
namespace Thermometer.Frontend.DataSource
open Execution Page

variable {js : JavaScript} {id : SensorId} {c : Bool} {limit : Int}

-- What ends it: a status reply that agrees or comes too late to be stale, or another confirmation.
def Releases (id : SensorId) (c : Bool) (limit : Int) (entry : Page × Event) : Prop :=
  match entry.2 with
  | .status (.ok status) => (id.number,c) ∈ status.displays.getD [] ∨ limit ≤ entry.1.now
  | .display other _ (.ok _) => other = id
  | _ => False

structure Holds (id : SensorId) (c : Bool) (limit : Int) (s : Page) : Prop where
  shown : s.displays id = c
  held : s.confirmedOverrides id = some ⟨c,limit⟩

theorem sensorOf_number (id : SensorId) : sensorOf id.number = some id := by
  cases id <;> rfl

theorem number_of_sensorOf {number : Int} (known : sensorOf number = some id) : number = id.number := by
  unfold sensorOf at known
  split at known
  case isTrue first =>
    cases Option.some.inj known
    exact first
  case isFalse =>
    split at known
    case isTrue second =>
      cases Option.some.inj known
      exact second
    case isFalse => cases known

theorem showDisplay_holds {s : Page} {display : Int × Bool} (holds : Holds id c limit s) (fresh : s.now < limit)
    (differs : display ≠ (id.number,c)) : Holds id c limit (s.showDisplay display) := by
  unfold showDisplay
  split
  case h_1 => exact holds
  case h_2 other known =>
    split
    case isFalse => exact holds
    case isTrue taken =>
      by_cases same : other = id
      · subst same
        have opposite : c ≠ display.2 := by
          intro agrees
          exact differs (Prod.ext (number_of_sensorOf known) agrees.symm)
        simp [takes,holds.held,opposite,fresh] at taken
      · exact ⟨by simp [Function.update_of_ne (Ne.symm same),holds.shown],
          by simp [Function.update_of_ne (Ne.symm same),holds.held]⟩

@[simp] theorem showDisplay_now (s : Page) (display : Int × Bool) : (s.showDisplay display).now = s.now := by
  unfold showDisplay
  split
  · rfl
  · split <;> rfl

theorem showDisplays_holds {listed : List (Int × Bool)} {s : Page} (holds : Holds id c limit s) (fresh : s.now < limit)
    (silent : (id.number,c) ∉ listed) : Holds id c limit (listed.foldl showDisplay s) := by
  induction listed generalizing s with
  | nil => exact holds
  | cons display rest ih =>
    rw [List.mem_cons,not_or] at silent
    exact ih (showDisplay_holds holds fresh (Ne.symm silent.1)) (by simpa using fresh) silent.2

-- What is on the screen while the display is held. It is blank only as long as there is no
-- sample, or until the tick that has read one has its answer about the history.
def Displayed (id : SensorId) (c : Bool) (s : Page) : Prop :=
  (s.last.readings id).enabled = c ∨
    (∃ moment, s.last = offlineFrame moment) ∧ (s.lastSample = none ∨ .history ∈ s.waiting)

theorem Displayed.keep {s next : Page} (displayed : Displayed id c s) (last : next.last = s.last)
    (sample : next.lastSample = s.lastSample) (asking : .history ∈ s.waiting → .history ∈ next.waiting) : Displayed id c next := by
  unfold Displayed
  rw [last,sample]
  exact displayed.imp_right fun blank => ⟨blank.1,blank.2.imp_right asking⟩

theorem current_displayed {s next : Page} (shown : s.displays id = c) (last : next.last = s.current js)
    (sample : next.lastSample = s.lastSample) : Displayed id c next := by
  unfold Displayed
  rw [last,sample]
  unfold Page.current
  split
  · exact .inl shown
  · rename_i missing
    exact .inr ⟨⟨_,rfl⟩,.inl missing⟩

theorem asking_erase {s : Page} {waited : Waiting} (other : waited ≠ .history) (asking : .history ∈ s.waiting) :
    .history ∈ s.waiting.erase waited :=
  (List.mem_erase_of_ne other.symm).mpr asking

theorem tick_holds {s : Page} (holds : Holds id c limit s) (displayed : Displayed id c s) :
    Holds id c limit s.tick ∧ Displayed id c s.tick := by
  unfold Page.tick
  split
  · exact ⟨holds,displayed⟩
  · exact ⟨⟨holds.shown,holds.held⟩,displayed.keep rfl rfl (List.mem_append_left _)⟩

theorem start_holds {s : Page} (holds : Holds id c limit s) (displayed : Displayed id c s) :
    Holds id c limit s.start ∧ Displayed id c s.start := by
  unfold Page.start
  split
  · exact ⟨holds,displayed⟩
  · obtain ⟨kept,shown⟩ := tick_holds holds displayed
    exact ⟨⟨kept.shown,kept.held⟩,shown.keep rfl rfl fun asking => asking⟩

theorem step_holds {s next : Page} {event : Event} (holds : Holds id c limit s) (displayed : Displayed id c s)
    (unreleased : ¬ Releases id c limit (s,event)) (stepped : step js s event = some next) :
    Holds id c limit next ∧ Displayed id c next := by
  cases event with
  | pass | unmount | stop =>
    cases Option.some.inj stepped
    exact ⟨⟨holds.shown,holds.held⟩,displayed.keep rfl rfl fun asking => asking⟩
  | control =>
    cases Option.some.inj stepped
    exact ⟨⟨holds.shown,holds.held⟩,displayed.keep rfl rfl (List.mem_append_left _)⟩
  | start =>
    cases Option.some.inj stepped
    exact start_holds holds displayed
  | mount =>
    cases Option.some.inj stepped
    exact start_holds ⟨holds.shown,holds.held⟩ (displayed.keep rfl rfl fun asking => asking)
  | timer =>
    obtain ⟨_,rfl⟩ := step_timer.mp stepped
    exact tick_holds holds displayed
  | setSensorEnabled other enabled =>
    cases Option.some.inj stepped
    unfold Page.setSensorEnabled
    split
    · exact ⟨holds,displayed⟩
    · exact ⟨⟨holds.shown,holds.held⟩,displayed.keep rfl rfl (List.mem_append_left _)⟩
  | status reply =>
    obtain ⟨_,rfl⟩ := step_status.mp stepped
    cases reply with
    | error message =>
      exact ⟨⟨holds.shown,holds.held⟩,displayed.keep rfl rfl fun asking => List.mem_append_left _ (asking_erase nofun asking)⟩
    | ok status =>
      have conditions : (id.number,c) ∉ status.displays.getD [] ∧ ¬ limit ≤ s.now := not_or.mp unreleased
      let replied := { s with waiting := s.waiting.erase .status, lastStatus := status }
      have held : Holds id c limit replied := ⟨holds.shown,holds.held⟩
      have kept := showDisplays_holds held (not_le.mp conditions.2) conditions.1
      obtain ⟨_,_,_,eq⟩ := statusReplied_eq { s with waiting := s.waiting.erase .status } (.ok status)
      refine ⟨⟨kept.shown,kept.held⟩,?_⟩
      rw [eq]
      exact displayed.keep rfl rfl fun asking => List.mem_append_left _ (asking_erase nofun asking)
  | latest reply =>
    obtain ⟨_,rfl⟩ := step_latest.mp stepped
    have asking : Waiting.history ∈ s.waiting.erase .latest ++ [.history] := List.mem_append_right _ (List.mem_singleton_self _)
    cases reply <;> exact ⟨⟨holds.shown,holds.held⟩,displayed.imp_right fun blank => ⟨blank.1,.inr asking⟩⟩
  | history reply =>
    obtain ⟨_,rfl⟩ := step_history.mp stepped
    refine ⟨⟨by simpa [historyReplied] using holds.shown,by simpa [historyReplied] using holds.held⟩,?_⟩
    exact current_displayed (s := s) holds.shown (updateFrame_last _) (updateFrame_lastSample _)
  | display other enabled reply =>
    obtain ⟨_,rfl⟩ := step_display.mp stepped
    cases reply with
    | error message => exact ⟨⟨holds.shown,holds.held⟩,displayed.keep rfl rfl (asking_erase nofun)⟩
    | ok confirmed =>
      have apart : id ≠ other := fun same => unreleased same.symm
      have shown : Function.update s.displays other confirmed id = c := by
        rw [Function.update_of_ne apart,holds.shown]
      refine ⟨⟨by simpa [displayReplied] using shown,?_⟩,?_⟩
      · simp [displayReplied,Function.update_of_ne apart,holds.held]
      · exact current_displayed (s := { s with displays := _, confirmedOverrides := _, waiting := _ }) shown (updateFrame_last _)
          (updateFrame_lastSample _)
  | controlled reply =>
    obtain ⟨_,rfl⟩ := step_controlled.mp stepped
    cases reply with
    | ok => exact ⟨⟨holds.shown,holds.held⟩,displayed.keep rfl rfl fun asking => List.mem_append_left _ (asking_erase nofun asking)⟩
    | error message => exact ⟨⟨holds.shown,holds.held⟩,displayed.keep rfl rfl (asking_erase nofun)⟩
  | refreshed reply =>
    obtain ⟨_,rfl⟩ := step_refreshed.mp stepped
    cases reply with
    | error message => exact ⟨⟨holds.shown,holds.held⟩,displayed.keep rfl rfl (asking_erase nofun)⟩
    | ok status =>
      refine ⟨⟨by simpa [Page.refreshed] using holds.shown,by simpa [Page.refreshed] using holds.held⟩,?_⟩
      exact current_displayed (s := { s with lastStatus := status, waiting := _ }) holds.shown (updateFrame_last _)
        (updateFrame_lastSample _)

theorem run_holds {start s : Page} {trace : List (Page × Event)} (path : Path (step js) anyStep start trace s)
    (holds : Holds id c limit start) (displayed : Displayed id c start)
    (unreleased : ∀ entry ∈ trace, ¬ Releases id c limit entry) : Holds id c limit s ∧ Displayed id c s := by
  refine path.recorded.invariant (fun s => Holds id c limit s ∧ Displayed id c s) ⟨holds,displayed⟩ ?_
  rintro s event next ⟨holds,displayed⟩ ⟨_,taken⟩ stepped
  exact step_holds holds displayed (unreleased _ taken) stepped

structure Follows (id : SensorId) (s : Page) : Prop where
  unlocked : s.displayLocks id = false
  stale : ∀ confirmed, s.confirmedOverrides id = some confirmed → confirmed.heldUntil ≤ s.now

theorem Follows.takes {s : Page} (follows : Follows id s) (enabled : Bool) : s.takes id enabled = true := by
  unfold Page.takes
  cases found : s.confirmedOverrides id with
  | none => simp [follows.unlocked]
  | some confirmed =>
    have expired := follows.stale confirmed found
    simp [follows.unlocked,expired]

theorem showDisplay_follows {s : Page} (follows : Follows id s) (display : Int × Bool) : Follows id (s.showDisplay display) := by
  unfold showDisplay
  split
  case h_1 => exact follows
  case h_2 other _ =>
    split
    case isFalse => exact follows
    case isTrue =>
      refine ⟨follows.unlocked,fun confirmed found => ?_⟩
      by_cases same : id = other
      · simp [same] at found
      · exact follows.stale confirmed (by simpa [Function.update_of_ne same] using found)

theorem showDisplay_own {s : Page} (follows : Follows id s) (enabled : Bool) :
    (s.showDisplay (id.number,enabled)).displays id = enabled := by
  simp [showDisplay,sensorOf_number,follows.takes]

theorem showDisplay_other {s : Page} {display : Int × Bool} (other : display.1 ≠ id.number) :
    (s.showDisplay display).displays id = s.displays id := by
  unfold showDisplay
  split
  case h_1 => rfl
  case h_2 listed known =>
    have apart : id ≠ listed := fun same => other (same ▸ number_of_sensorOf known)
    split
    · exact Function.update_of_ne apart _ _
    · rfl

theorem showDisplays_reported {listed : List (Int × Bool)} {s : Page} {reported : Bool} (follows : Follows id s)
    (agree : ∀ display ∈ listed, display.1 = id.number → display.2 = reported)
    (known : s.displays id = reported ∨ (id.number,reported) ∈ listed) :
    (listed.foldl showDisplay s).displays id = reported := by
  induction listed generalizing s with
  | nil => exact known.resolve_right List.not_mem_nil
  | cons display rest ih =>
    rw [List.forall_mem_cons] at agree
    refine ih (showDisplay_follows follows display) agree.2 ?_
    by_cases own : display.1 = id.number
    · have said : display = (id.number,reported) := Prod.ext own (agree.1 own)
      rw [said]
      exact .inl (showDisplay_own follows reported)
    · rw [showDisplay_other own]
      refine known.imp_right fun member => (List.mem_cons.mp member).resolve_left ?_
      rintro rfl
      exact own rfl

-- From the moment a display command is confirmed, the page shows the confirmed display until a status reply
-- agrees with it, a later confirmation comes, or three seconds are over: a stale status never
-- undoes it. Once the hold is over and no command is under way, the display is what a status reports.
theorem confirmed_display_held {now : Int} {trace first rest : List (Page × Event)} {s confirming : Page} {asked : Bool}
    (path : Path (step js) anyStep (opened now) trace s)
    (recorded : trace = first ++ (confirming,.display id asked (.ok c)) :: rest) :
    ((∀ entry ∈ rest, ¬ Releases id c (confirming.now + 3000) entry) →
      s.displays id = c ∧ Displayed id c s ∧
        s.confirmedOverrides id = some ⟨c,confirming.now + 3000⟩) ∧
    ∀ status next reported, step js s (.status (.ok status)) = some next → Follows id s →
      (id.number,reported) ∈ status.displays.getD [] →
      (∀ display ∈ status.displays.getD [], display.1 = id.number → display.2 = reported) →
      next.displays id = reported := by
  obtain ⟨after,stepped,later⟩ := path.after recorded
  obtain ⟨_,rfl⟩ := step_display.mp stepped
  constructor
  · intro unreleased
    have holds : Holds id c (confirming.now + 3000)
        ({ confirming with waiting := confirming.waiting.erase (.display id asked) }.displayReplied js id asked (.ok c)) :=
      ⟨by simp [displayReplied],by simp [displayReplied]⟩
    have displayed : Displayed id c
        ({ confirming with waiting := confirming.waiting.erase (.display id asked) }.displayReplied js id asked (.ok c)) :=
      current_displayed (s := { confirming with displays := _, confirmedOverrides := _, waiting := _ })
        (Function.update_self _ _ _) (updateFrame_last _) (updateFrame_lastSample _)
    obtain ⟨held,shown⟩ := run_holds later holds displayed unreleased
    exact ⟨held.shown,shown,held.held⟩
  · rintro status next reported replied follows lists agree
    obtain ⟨_,rfl⟩ := step_status.mp replied
    let waits := { s with waiting := s.waiting.erase .status, lastStatus := status }
    have ready : Follows id waits := ⟨follows.unlocked,follows.stale⟩
    have reports := showDisplays_reported ready agree (.inr lists)
    exact reports

-- A status from before the command arrives a second after the confirmation.
theorem confirmed_display_held_stale_status :
    let status : BleStatus := ⟨"READY",true,true,none,none,some [(1,true),(2,true)]⟩
    ∃ trace s, Path (step ⟨fun _ => none,fun _ => none⟩) anyStep (opened 0) trace s ∧
      trace.map Prod.snd = [.start,.setSensorEnabled .one false,.display .one false (.ok false),.pass 1000,.status (.ok status)] ∧
      s.displays .one = false ∧ s.displays .two = true := by
  intro status
  let browser : JavaScript := ⟨fun _ => none,fun _ => none⟩
  have started := Path.snoc (.nil : Path (step browser) anyStep (opened 0) [] (opened 0)) trivial
    (rfl : step browser _ .start = some _)
  have asked := started.snoc trivial (rfl : step browser _ (.setSensorEnabled .one false) = some _)
  have confirmed := asked.snoc trivial (rfl : step browser _ (.display .one false (.ok false)) = some _)
  have waited := confirmed.snoc trivial (rfl : step browser _ (.pass 1000) = some _)
  have polled := waited.snoc trivial (rfl : step browser _ (.status (.ok status)) = some _)
  refine ⟨_,_,polled,rfl,?_,rfl⟩
  refine ((confirmed_display_held polled (rfl : _ = [_,_] ++ _ :: [_,_])).1 ?_).1
  intro entry member
  rcases List.mem_cons.mp member with rfl | last
  · exact id
  · cases List.mem_singleton.mp last
    exact not_or.mpr ⟨by decide,by decide⟩

end Thermometer.Frontend.DataSource
