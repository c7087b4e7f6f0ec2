import Mathlib.Data.List.Count
import Thermometer.Frontend.PythonBleSource

-- How the page's requests exclude each other, whatever the order of calls, timers and replies.
namespace Thermometer.Frontend.DataSource
open Execution Page

variable {js : JavaScript}

def ticking : Waiting → Bool
  | .status | .latest | .history => true
  | .display _ _ | .control | .controlStatus => false

def commands (id : SensorId) : Waiting → Bool
  | .display other _ => other = id
  | .status | .latest | .history | .control | .controlStatus => false

structure Accounted (s : Page) : Prop where
  tick : s.waiting.countP ticking = if s.inFlight then 1 else 0
  locks : ∀ id, s.waiting.countP (commands id) = if s.displayLocks id then 1 else 0

theorem countP_erase_add {waiting : List Waiting} {waited : Waiting} (member : waited ∈ waiting) (p : Waiting → Bool) :
    (waiting.erase waited).countP p + (if p waited then 1 else 0) = waiting.countP p := by
  rw [(List.perm_cons_erase member).countP_eq p,List.countP_cons]

theorem opened_accounted (now : Int) : Accounted (opened now) := ⟨rfl,fun _ => rfl⟩

theorem tick_accounted {s : Page} (accounted : Accounted s) : Accounted s.tick := by
  unfold Page.tick
  split
  case isTrue => exact accounted
  case isFalse idle =>
    refine ⟨?_,fun id => ?_⟩
    · have none_waits := accounted.tick
      rw [if_neg idle] at none_waits
      simp [none_waits,ticking]
    · simpa [commands] using accounted.locks id

theorem start_accounted {s : Page} (accounted : Accounted s) : Accounted s.start := by
  unfold Page.start
  split
  · exact accounted
  · exact ⟨(tick_accounted accounted).tick,(tick_accounted accounted).locks⟩

theorem setSensorEnabled_accounted {s : Page} (id : SensorId) (enabled : Bool) (accounted : Accounted s) :
    Accounted (s.setSensorEnabled id enabled) := by
  unfold Page.setSensorEnabled
  split
  case isTrue => exact accounted
  case isFalse free =>
    refine ⟨by simpa [ticking] using accounted.tick,fun other => ?_⟩
    have counted := accounted.locks other
    by_cases same : id = other
    · subst same
      rw [if_neg free] at counted
      simp [counted,commands]
    · simpa [commands,same,Ne.symm same] using counted

theorem tick_replied {s next : Page} {waited : Waiting} (accounted : Accounted s) (member : waited ∈ s.waiting)
    (asked : ticking waited = true) (locks : next.displayLocks = s.displayLocks)
    (follows : (next.waiting = s.waiting.erase waited ∧ next.inFlight = false) ∨
      ∃ later, ticking later = true ∧ next.waiting = s.waiting.erase waited ++ [later] ∧ next.inFlight = s.inFlight) :
    Accounted next := by
  have one := countP_erase_add member ticking
  have same := fun id => countP_erase_add member (commands id)
  have other : ∀ id {request : Waiting}, ticking request = true → commands id request = false := by
    intro id request tick
    cases request <;> simp_all [ticking,commands]
  have counted := accounted.tick
  simp only [other _ asked,Bool.false_eq_true,if_false,Nat.add_zero] at same
  rw [asked,if_pos rfl] at one
  cases flying : s.inFlight with
  | false =>
    rw [flying,if_neg Bool.false_ne_true] at counted
    omega
  | true =>
    rw [flying,if_pos rfl] at counted
    rcases follows with ⟨waiting,idle⟩ | ⟨later,tick,waiting,flight⟩
    · refine ⟨?_,fun id => ?_⟩
      · rw [waiting,idle,if_neg Bool.false_ne_true]
        omega
      · rw [waiting,locks,same,accounted.locks]
    · refine ⟨?_,fun id => ?_⟩
      · rw [waiting,flight,flying,if_pos rfl,List.countP_append,List.countP_singleton,if_pos tick]
        omega
      · rw [waiting,locks,List.countP_append,List.countP_singleton,other id tick,same,accounted.locks]
        simp

theorem display_replied {s next : Page} {id : SensorId} {enabled : Bool} (accounted : Accounted s)
    (member : .display id enabled ∈ s.waiting) (waiting : next.waiting = s.waiting.erase (.display id enabled))
    (flight : next.inFlight = s.inFlight) (locks : next.displayLocks = Function.update s.displayLocks id false) :
    Accounted next := by
  refine ⟨?_,fun other => ?_⟩
  · have same := countP_erase_add member ticking
    rw [waiting,flight,← accounted.tick,← same]
    simp [ticking]
  · have one := countP_erase_add member (commands other)
    have counted := accounted.locks other
    rw [waiting,locks]
    by_cases same : id = other
    · subst same
      rw [Function.update_self,if_neg Bool.false_ne_true]
      simp only [commands,decide_true,if_true] at one
      cases locked : s.displayLocks id <;> simp only [locked,Bool.false_eq_true,if_false,if_true] at counted <;> omega
    · rw [Function.update_of_ne (Ne.symm same),← counted,← one]
      simp [commands,same]

theorem control_replied {s next : Page} {waited : Waiting} (accounted : Accounted s) (member : waited ∈ s.waiting)
    (asked : waited = .control ∨ waited = .controlStatus) (flight : next.inFlight = s.inFlight)
    (locks : next.displayLocks = s.displayLocks)
    (follows : next.waiting = s.waiting.erase waited ∨ next.waiting = s.waiting.erase waited ++ [.controlStatus]) :
    Accounted next := by
  have apart : ticking waited = false ∧ ∀ id, commands id waited = false := by
    rcases asked with rfl | rfl <;> exact ⟨rfl,fun _ => rfl⟩
  refine ⟨?_,fun id => ?_⟩
  · have same := countP_erase_add member ticking
    rw [flight,← accounted.tick,← same,apart.1]
    rcases follows with waiting | waiting <;> simp [waiting,ticking]
  · have same := countP_erase_add member (commands id)
    rw [locks,← accounted.locks id,← same,apart.2]
    rcases follows with waiting | waiting <;> simp [waiting,commands]

theorem step_accounted {s next : Page} {event : Event} (accounted : Accounted s) (stepped : step js s event = some next) :
    Accounted next := by
  cases event with
  | pass | unmount | stop =>
    cases Option.some.inj stepped
    exact ⟨accounted.tick,accounted.locks⟩
  | mount =>
    cases Option.some.inj stepped
    exact start_accounted ⟨accounted.tick,accounted.locks⟩
  | start =>
    cases Option.some.inj stepped
    exact start_accounted accounted
  | timer =>
    obtain ⟨_,rfl⟩ := step_timer.mp stepped
    exact tick_accounted accounted
  | setSensorEnabled id enabled =>
    cases Option.some.inj stepped
    exact setSensorEnabled_accounted id enabled accounted
  | control =>
    cases Option.some.inj stepped
    exact ⟨by simpa [ticking] using accounted.tick,fun id => by simpa [commands] using accounted.locks id⟩
  | status reply =>
    obtain ⟨member,rfl⟩ := step_status.mp stepped
    obtain ⟨_,_,_,replied⟩ := statusReplied_eq { s with waiting := s.waiting.erase .status } reply
    exact tick_replied accounted member rfl (by rw [replied]) (.inr ⟨.latest,rfl,rfl,by rw [replied]⟩)
  | latest reply =>
    obtain ⟨member,rfl⟩ := step_latest.mp stepped
    cases reply <;> exact tick_replied accounted member rfl rfl (.inr ⟨.history,rfl,rfl,rfl⟩)
  | history reply =>
    obtain ⟨member,rfl⟩ := step_history.mp stepped
    exact tick_replied accounted member rfl (by simp [historyReplied]) (.inl ⟨by simp [historyReplied],rfl⟩)
  | display id enabled reply =>
    obtain ⟨member,rfl⟩ := step_display.mp stepped
    cases reply <;> exact display_replied accounted member (by simp [displayReplied]) (by simp [displayReplied])
      (by simp [displayReplied])
  | controlled reply =>
    obtain ⟨member,rfl⟩ := step_controlled.mp stepped
    cases reply with
    | ok => exact control_replied accounted member (.inl rfl) rfl rfl (.inr rfl)
    | error => exact control_replied accounted member (.inl rfl) rfl rfl (.inl rfl)
  | refreshed reply =>
    obtain ⟨member,rfl⟩ := step_refreshed.mp stepped
    cases reply <;> exact control_replied accounted member (.inr rfl) (by simp [Page.refreshed]) (by simp [Page.refreshed])
      (.inl (by simp [Page.refreshed]))

theorem run_accounted {now : Int} {trace : List (Page × Event)} {s : Page}
    (path : Path (step js) anyStep (opened now) trace s) : Accounted s :=
  path.invariant Accounted (opened_accounted now) fun _ _ _ accounted _ stepped => step_accounted accounted stepped

theorem status_alone {s next : Page} {reply : Except String BleStatus} (accounted : Accounted s)
    (stepped : step js s (.status reply) = some next) : .status ∉ next.waiting := by
  obtain ⟨member,rfl⟩ := step_status.mp stepped
  have one := countP_erase_add member ticking
  have counted := accounted.tick
  have none_left : (s.waiting.erase .status).countP ticking = 0 := by
    cases flying : s.inFlight <;> simp only [flying,ticking,Bool.false_eq_true,if_false,if_true] at one counted <;> omega
  intro still
  rcases List.mem_append.mp still with left | added
  · exact List.countP_eq_zero.mp none_left .status left rfl
  · cases List.mem_singleton.mp added

theorem tick_asks {s : Page} (asked : .status ∈ s.tick.waiting) : .status ∈ s.waiting ∨ s.inFlight = false := by
  unfold Page.tick at asked
  split at asked
  · exact .inl asked
  · exact .inr (by simp_all)

theorem start_asks {s : Page} (asked : .status ∈ s.start.waiting) : .status ∈ s.waiting ∨ s.inFlight = false := by
  unfold Page.start at asked
  split at asked
  · exact .inl asked
  · exact tick_asks asked

theorem step_asks {s next : Page} {event : Event} (stepped : step js s event = some next)
    (asked : .status ∈ next.waiting) : .status ∈ s.waiting ∨ s.inFlight = false := by
  cases event with
  | pass | unmount | stop =>
    cases Option.some.inj stepped
    exact .inl asked
  | mount =>
    cases Option.some.inj stepped
    let mounted := { s with state := ⟨s.last,Page.trim (s.getHistory windowS) s.now⟩, subscribed := true }
    have started : .status ∈ mounted.start.waiting := asked
    have asks := start_asks started
    exact asks
  | start =>
    cases Option.some.inj stepped
    exact start_asks asked
  | timer =>
    obtain ⟨_,rfl⟩ := step_timer.mp stepped
    exact tick_asks asked
  | setSensorEnabled id enabled =>
    cases Option.some.inj stepped
    unfold Page.setSensorEnabled at asked
    split at asked
    · exact .inl asked
    · exact .inl (by simpa using asked)
  | control =>
    cases Option.some.inj stepped
    exact .inl (by simpa using asked)
  | status reply =>
    obtain ⟨member,_⟩ := step_status.mp stepped
    exact .inl member
  | latest reply =>
    obtain ⟨_,rfl⟩ := step_latest.mp stepped
    exact .inl (by simpa using asked)
  | history reply =>
    obtain ⟨_,rfl⟩ := step_history.mp stepped
    exact .inl (by simpa [historyReplied] using asked)
  | display id enabled reply =>
    obtain ⟨_,rfl⟩ := step_display.mp stepped
    cases reply <;> exact .inl (by simpa [displayReplied] using asked)
  | controlled reply =>
    obtain ⟨_,rfl⟩ := step_controlled.mp stepped
    cases reply <;> exact .inl (by simpa [controlReplied] using asked)
  | refreshed reply =>
    obtain ⟨_,rfl⟩ := step_refreshed.mp stepped
    cases reply <;> exact .inl (by simpa [Page.refreshed] using asked)

-- Requests of the page exclude each other in every run: one request of a tick is under way exactly while the
-- flag is up, one command for a sensor exactly while it is locked, and a status reply that
-- follows another was asked for after that one had arrived.
theorem requests_exclude {now : Int} {trace : List (Page × Event)} {s : Page}
    (path : Path (step js) anyStep (opened now) trace s) :
    s.waiting.countP ticking = (if s.inFlight then 1 else 0) ∧
    (∀ id, s.waiting.countP (commands id) = if s.displayLocks id then 1 else 0) ∧
    ∀ first earlier reply middle later answer last,
      trace = first ++ (earlier,.status reply) :: (middle ++ (later,.status answer) :: last) →
      ∃ entry ∈ middle, entry.1.inFlight = false ∧ .status ∉ entry.1.waiting ∧
        ∃ next, step js entry.1 entry.2 = some next ∧ .status ∈ next.waiting := by
  refine ⟨(run_accounted path).tick,(run_accounted path).locks,?_⟩
  rintro first earlier reply middle later answer last rfl
  have before := run_accounted (path.upTo rfl)
  obtain ⟨after,stepped,rest⟩ := path.after rfl
  have alone := status_alone before stepped
  have until_later := rest.upTo rfl
  obtain ⟨_,answered,_⟩ := rest.after rfl
  obtain ⟨waits,_⟩ := step_status.mp answered
  obtain ⟨entry,member,idle,next,came,asked⟩ :=
    until_later.becomes (fun s => .status ∈ s.waiting) alone waits
  have free := (step_asks came asked).resolve_left idle
  exact ⟨entry,member,free,idle,next,came,asked⟩

-- Nobody answers: each request fails, and the next tick asks again.
theorem requests_exclude_unreachable :
    ∃ trace s, Path (step ⟨fun _ => none,fun _ => none⟩) anyStep (opened 0) trace s ∧
      trace.map Prod.snd = [.start,.status (.error ""),.latest (.error ""),.history (.error ""),.timer,.status (.error "")] ∧
      s.waiting.countP ticking = 1 ∧ ∃ entry ∈ trace, entry.1.inFlight = false ∧ .status ∉ entry.1.waiting ∧
        ∃ next, step ⟨fun _ => none,fun _ => none⟩ entry.1 entry.2 = some next ∧ .status ∈ next.waiting := by
  let browser : JavaScript := ⟨fun _ => none,fun _ => none⟩
  have started := Path.snoc (.nil : Path (step browser) anyStep (opened 0) [] (opened 0)) trivial
    (rfl : step browser _ .start = some _)
  have offline := started.snoc trivial (rfl : step browser _ (.status (.error "")) = some _)
  have unread := offline.snoc trivial (rfl : step browser _ (.latest (.error "")) = some _)
  have ticked := unread.snoc trivial (rfl : step browser _ (.history (.error "")) = some _)
  have again := ticked.snoc trivial (rfl : step browser _ .timer = some _)
  have failed := again.snoc trivial (rfl : step browser _ (.status (.error "")) = some _)
  obtain ⟨counted,_,between⟩ := requests_exclude failed
  obtain ⟨entry,member,idle⟩ := between [_] _ _ [_,_,_] _ _ [] rfl
  exact ⟨_,_,failed,rfl,counted,entry,List.mem_append_left _ (List.mem_append_right [_,_] member),idle⟩

end Thermometer.Frontend.DataSource
