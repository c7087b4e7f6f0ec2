import Mathlib.Data.List.Perm.Subperm
import Thermometer.Frontend.AlertRoundTrip
import Thermometer.Frontend.Notify

-- At most one delivery for each of the last ids, and what a failed send leaves.
namespace Thermometer.Frontend
open Json Execution

def Recent (log : List String) (id : String) : Prop :=
  ∃ before after, log = before ++ id :: after ∧ after.dedup.length < seenLimit

def Once (log : List String) : Prop := ∀ before id after, log = before ++ id :: after → ¬ Recent before id

theorem Once.append {log : List String} {id : String} (once : Once log) (new : ¬ Recent log id) : Once (log ++ [id]) := by
  intro before other after split
  rcases List.eq_nil_or_concat after with rfl | ⟨rest,last,rfl⟩
  · obtain ⟨rfl,same⟩ := List.append_inj' split rfl
    cases same
    exact new
  · have inner : log ++ [id] = (before ++ other :: rest) ++ [last] := by simpa using split
    obtain ⟨rfl,_⟩ := List.append_inj' inner rfl
    exact once before other rest rfl

theorem evict_eq (seen : List String) : evict seen = seen.drop (seen.length - seenLimit) := by
  induction seen with
  | nil => rfl
  | cons oldest rest ih =>
    unfold evict
    split
    case isTrue over_limit =>
      have count : (oldest :: rest).length - seenLimit = rest.length - seenLimit + 1 := by
        rw [List.length_cons] at over_limit ⊢
        omega
      rw [ih,count,List.drop_succ_cons]
    case isFalse within =>
      rw [Nat.sub_eq_zero_of_le (Nat.not_lt.mp within)]
      rfl

structure Remembers (seen log : List String) : Prop where
  window : ∃ forgotten, log = forgotten ++ seen ∧ (forgotten ≠ [] → seenLimit ≤ seen.length)
  distinct : seen.Nodup

theorem Remembers.recent {seen log : List String} {id : String} (remembers : Remembers seen log) (recent : Recent log id) :
    id ∈ seen := by
  obtain ⟨forgotten,split,old⟩ := remembers.window
  obtain ⟨before,after,at_id,few⟩ := recent
  by_contra absent
  -- The occurrence is among the forgotten ids, so all of `seen` was delivered after it.
  have behind : seen ⊆ after := by
    rw [split] at at_id
    rcases List.append_eq_append_iff.mp at_id with ⟨rest,_,same⟩ | ⟨rest,_,same⟩
    · rw [same] at absent
      simp at absent
    · cases rest with
      | nil =>
        rw [List.nil_append] at same
        rw [← same] at absent
        simp at absent
      | cons first rest =>
        obtain ⟨_,rfl⟩ := List.cons.inj same
        exact List.subset_append_right rest seen
  have some_forgotten : forgotten ≠ [] := by
    rintro rfl
    rw [List.nil_append] at split
    rw [← split,at_id] at absent
    simp at absent
  have counted : seen.length ≤ after.dedup.length :=
    (remembers.distinct.subperm fun x member => List.mem_dedup.mpr (behind member)).length_le
  exact absurd (old some_forgotten) (by omega)

theorem Remembers.deliver {seen log : List String} {id : String} (remembers : Remembers seen log) (absent : id ∉ seen) :
    Remembers (addSeen seen id) (log ++ [id]) := by
  obtain ⟨forgotten,rfl,old⟩ := remembers.window
  have added : addSeen seen id = seen ++ [id] := if_neg (by simpa using absent)
  rw [added]
  refine ⟨⟨forgotten,List.append_assoc _ _ _,fun some => ?_⟩,?_⟩
  · exact (old some).trans (by simp)
  · rw [List.nodup_append]
    refine ⟨remembers.distinct,List.nodup_singleton id,?_⟩
    intro x member y last
    rw [List.mem_singleton.mp last]
    exact fun same => absent (same ▸ member)

theorem Remembers.evict {seen log : List String} (remembers : Remembers seen log) : Remembers (evict seen) log := by
  obtain ⟨forgotten,rfl,old⟩ := remembers.window
  rw [evict_eq]
  refine ⟨⟨forgotten ++ seen.take (seen.length - seenLimit),?_,fun some => ?_⟩,remembers.distinct.sublist (List.drop_sublist _ _)⟩
  · rw [List.append_assoc,List.take_append_drop]
  · rw [List.length_drop]
    by_cases large : seenLimit ≤ seen.length
    · omega
    · rw [Nat.sub_eq_zero_of_le (by omega),List.take_zero,List.append_nil] at some
      exact absurd (old some) large

theorem evict_subset (seen : List String) : Frontend.evict seen ⊆ seen := by
  rw [evict_eq]
  exact List.drop_subset _ _

namespace Server

variable {js : JavaScript} {apiToken : Option String} {s next : Server}

@[simp] theorem withdraw_seen (s : Server) (request : Nat) (outcome : NotifyOutcome) :
    (s.withdraw request outcome).seen = s.seen := rfl

-- A send that is under way when its id is remembered was overtaken by a delivery of that id.
def Overtaken (s : Server) (send : Send) : Prop :=
  send.since ≤ s.delivered.length ∧ (send.event.id ∈ s.seen → send.event.id ∈ s.delivered.drop send.since)

structure Invariant (s : Server) : Prop where
  remembers : Remembers s.seen s.delivered
  once : Once s.delivered
  sends : ∀ send ∈ s.sends, s.Overtaken send

theorem started_invariant : Invariant started where
  remembers := ⟨⟨[],rfl,fun some => absurd rfl some⟩,List.nodup_nil⟩
  once := fun before id after split => by simp [started] at split
  sends := fun send member => by simp [started] at member

theorem handleNotify_new {js : JavaScript} {seen : List String} {rawBody : Value}
    (accepted : handleNotify js seen rawBody = .ok (event,message)) : event.id ∉ seen := by
  unfold handleNotify at accepted
  cases checked : checkEvent js rawBody with
  | error outcome =>
    rw [checked] at accepted
    cases accepted
  | ok result =>
    rw [checked] at accepted
    by_cases known : result.1.id ∈ seen
    · simp [Bind.bind,Except.bind,known] at accepted
    · simp [Bind.bind,Except.bind,known,pure,Except.pure] at accepted
      exact accepted.1 ▸ known

theorem request_invariant (invariant : Invariant s) (ran : s.step js apiToken (.request authorization rawBody) = some next) :
    Invariant next := by
  simp only [step] at ran
  split at ran
  case isFalse =>
    cases ran
    exact ⟨invariant.remembers,invariant.once,invariant.sends⟩
  case isTrue =>
    cases handled : handleNotify js s.seen rawBody with
    | error outcome =>
      rw [handled] at ran
      cases ran
      exact ⟨invariant.remembers,invariant.once,invariant.sends⟩
    | ok result =>
      rw [handled] at ran
      cases ran
      refine ⟨invariant.remembers,invariant.once,fun send member => ?_⟩
      rcases List.mem_append.mp member with old | new
      · exact invariant.sends send old
      · rw [List.mem_singleton.mp new]
        exact ⟨Nat.le_refl _,fun known => absurd known (handleNotify_new handled)⟩

theorem failed_invariant (invariant : Invariant s) (ran : s.step js apiToken (.failed request reason) = some next) :
    Invariant next := by
  obtain ⟨send,_,done⟩ := Option.bind_eq_some_iff.mp ran
  cases done
  exact ⟨invariant.remembers,invariant.once,fun other member => invariant.sends other (List.mem_filter.mp member).1⟩

theorem respond_invariant (invariant : Invariant s) (ran : s.step js apiToken (.respond request) = some next) :
    Invariant next := by
  obtain ⟨entry,_,done⟩ := Option.bind_eq_some_iff.mp ran
  cases done
  refine ⟨invariant.remembers.evict,invariant.once,fun send member => ?_⟩
  obtain ⟨since,known⟩ := invariant.sends send member
  exact ⟨since,fun kept => known (evict_subset s.seen kept)⟩

def unovertaken (s : Server) : Action → Bool
  | .sent request _ => (s.pending request).all fun send => !(s.delivered.drop send.since).contains send.event.id
  | _ => true

theorem sent_invariant (invariant : Invariant s) (alone : unovertaken s (.sent request result))
    (ran : s.step js apiToken (.sent request result) = some next) : Invariant next := by
  obtain ⟨send,found,done⟩ := Option.bind_eq_some_iff.mp ran
  cases done
  have member : send ∈ s.sends := List.mem_of_find?_eq_some found
  have alone' : send.event.id ∉ s.delivered.drop send.since := by simpa [unovertaken,found] using alone
  have absent : send.event.id ∉ s.seen := fun known => alone' ((invariant.sends send member).2 known)
  refine ⟨invariant.remembers.deliver absent,?_,fun other inside => ?_⟩
  · exact invariant.once.append fun recent => absent (invariant.remembers.recent recent)
  · obtain ⟨since,known⟩ := invariant.sends other (List.mem_filter.mp inside).1
    refine ⟨since.trans (by simp),fun kept => ?_⟩
    change other.event.id ∈ (s.delivered ++ [send.event.id]).drop other.since
    rw [List.drop_append_of_le_length since]
    have added : addSeen s.seen send.event.id = s.seen ++ [send.event.id] := if_neg (by simpa using absent)
    change other.event.id ∈ addSeen s.seen send.event.id at kept
    rw [added] at kept
    rcases List.mem_append.mp kept with old | new
    · exact List.mem_append_left _ (known old)
    · exact List.mem_append_right _ new

theorem step_invariant (s : Server) (action : Action) (next : Server) (invariant : Invariant s) (alone : unovertaken s action)
    (ran : s.step js apiToken action = some next) : Invariant next := by
  cases action with
  | request authorization rawBody => exact request_invariant invariant ran
  | sent request result => exact sent_invariant invariant alone ran
  | failed request reason => exact failed_invariant invariant ran
  | respond request => exact respond_invariant invariant ran

def Retried (js : JavaScript) (apiToken : Option String) (s : Server) : Prop :=
  ∀ request reason send after, s.pending request = some send → s.step js apiToken (.failed request reason) = some after →
    send.event.id ∉ s.delivered.drop send.since → ∀ authorization rawBody event destination,
      authorized apiToken authorization → checkEvent js rawBody = .ok (event,destination) → event.id = send.event.id →
      ∃ again retried, after.step js apiToken (.request authorization rawBody) = some again ∧ again.sends = after.sends ++ [retried] ∧
        retried.event = event ∧ retried.message = composeAlertEmail js event destination

theorem invariant_retried (invariant : Invariant s) : Retried js apiToken s := by
  intro request reason send after found ran missing authorization rawBody event destination allowed checked same
  obtain ⟨other,_,done⟩ := Option.bind_eq_some_iff.mp ran
  cases done
  have absent : event.id ∉ s.seen := by
    rw [same]
    exact fun known => missing ((invariant.sends send (List.mem_of_find?_eq_some found)).2 known)
  have handled : handleNotify js s.seen rawBody = .ok (event,composeAlertEmail js event destination) := by
    unfold handleNotify
    rw [checked]
    simp [Bind.bind,Except.bind,absent,pure,Except.pure]
  have sent : (s.withdraw request (.sendFailed reason)).step js apiToken (.request authorization rawBody) = some {
      s.withdraw request (.sendFailed reason) with
      requests := s.requests + 1
      sends := (s.withdraw request (.sendFailed reason)).sends ++
        [⟨s.requests,event,composeAlertEmail js event destination,s.delivered.length⟩] } := by
    simp only [step,if_pos allowed,withdraw_seen,handled]
    rfl
  exact ⟨_,_,sent,rfl,rfl,rfl⟩

-- Every run in which no send is overtaken by another of its id delivers an id at most once
-- among the last ones, and gives a failed one another try.
theorem notified_once {js : JavaScript} {apiToken : Option String} {trace : List (Server × Action)} {s : Server}
    (path : Path (step js apiToken) (fun s action => unovertaken s action) started trace s) : Once s.delivered ∧ Retried js apiToken s := by
  have invariant : Invariant s := path.invariant Invariant started_invariant step_invariant
  exact ⟨invariant.once,invariant_retried invariant⟩

def exampleScript : JavaScript := ⟨asciiLower,fun _ => "30.0",fun _ => "Thu, 01 Jan 1970 00:00:00 GMT"⟩

def hotEvent : Value := .object [("id",.text "e1"),("timestamp",.integer 0),("recipientId",.text "r"),("ruleId",.text "r:sensor-1"),
  ("source",.text "SENSOR_1"),("transition",.text "HIGH"),("destination",.text "amy@lab.org"),("message",.text "hot"),
  ("celsius",.integer 30)]

theorem notified_once_retry : ∃ s : Server, s.delivered = ["e1"] ∧ Once s.delivered ∧ Retried exampleScript none s := by
  have ran : (run (guarded (step exampleScript none) unovertaken) started [.request none hotEvent,.failed 0 "down",
      .request none hotEvent,.sent 1 ⟨.sent,none⟩,.respond 0,.respond 1,.request none hotEvent]).any
      (fun s => s.delivered = ["e1"]) = true := by decide +kernel
  obtain ⟨trace,s,path,delivered⟩ := guarded_checked ran
  exact ⟨s,of_decide_eq_true delivered,notified_once path⟩

-- Two requests with one id, the second before the first has been sent.
theorem delivered_twice : ∃ trace s, Path (step exampleScript none) anyStep started trace s ∧ ¬ Once s.delivered := by
  have ran : (run (step exampleScript none) started [.request none hotEvent,.request none hotEvent,.sent 0 ⟨.sent,none⟩,
      .sent 1 ⟨.sent,none⟩]).any (fun s => s.delivered = ["e1","e1"]) = true := by decide +kernel
  obtain ⟨trace,s,path,delivered⟩ := run_checked ran
  refine ⟨trace,s,path,fun once => ?_⟩
  rw [of_decide_eq_true delivered] at once
  exact once ["e1"] "e1" [] rfl ⟨[],[],rfl,by decide⟩

end Server

end Thermometer.Frontend
