import Mathlib.Data.List.Perm.Subperm
import Thermometer.Frontend.AlertEngine

-- useAlertEngine.ts and useAlertNotifier.ts: from the engine's events to the calls of
-- notifyAlert. React may run the engine's effect several times before the notifier's effect
-- sees the list again; a round is what happens up to that.
namespace Thermometer.Frontend.Console

def maxEvents : Nat := 40

structure Input (js : LowerCase) where
  frame : ThermometerFrame
  config : PersistedAlertConfig
  accepted : js.Passes config

-- The refs and states of both hooks, and the calls of notifyAlert, the oldest first.
structure Hooks where
  engine : AlertEngineState
  events : List AlertEvent
  dispatched : List String
  notified : List AlertEvent

def Hooks.mounted : Hooks := ⟨[],[],[],[]⟩

variable {js : LowerCase}

def fire (state : AlertEngineState) (input : Input js) : AlertEngineStep :=
  stepAlertEngine state input.frame (configRules input.config) (configRecipients input.config)

def engineEffect (hooks : Hooks) (input : Input js) : Hooks :=
  let fired := (fire hooks.engine input).events
  { hooks with
    engine := (fire hooks.engine input).states
    events := if 0 < fired.length then (fired.reverse ++ hooks.events).take maxEvents else hooks.events }

def deliverable (event : AlertEvent) : Bool := event.transition = .high || event.transition = .low

def notifyEvent (hooks : Hooks) (event : AlertEvent) : Hooks :=
  if !deliverable event then hooks
  else if hooks.dispatched.contains event.id then hooks
  else { hooks with dispatched := hooks.dispatched ++ [event.id],notified := hooks.notified ++ [event] }

def notifierEffect (hooks : Hooks) : Hooks := hooks.events.foldl notifyEvent hooks

def round (hooks : Hooks) (inputs : List (Input js)) : Hooks := notifierEffect (inputs.foldl engineEffect hooks)

def emitted (state : AlertEngineState) : List (Input js) → List AlertEvent
  | [] => []
  | input :: rest => (fire state input).events ++ emitted (fire state input).states rest

def after (state : AlertEngineState) : List (Input js) → AlertEngineState
  | [] => state
  | input :: rest => after (fire state input).states rest

def emittedRounds (state : AlertEngineState) : List (List (Input js)) → List (List AlertEvent)
  | [] => []
  | inputs :: rest => emitted state inputs :: emittedRounds (after state inputs) rest

theorem take_take_append (newer older : List AlertEvent) (n : Nat) : (newer ++ older.take n).take n = (newer ++ older).take n := by
  rw [List.take_append,List.take_append,List.take_take,Nat.min_eq_left (Nat.sub_le _ _)]

theorem engineEffects_eq (inputs : List (Input js)) (hooks : Hooks) (bounded : hooks.events.length ≤ maxEvents) :
    inputs.foldl engineEffect hooks = { hooks with
      engine := after hooks.engine inputs
      events := ((emitted hooks.engine inputs).reverse ++ hooks.events).take maxEvents } := by
  induction inputs generalizing hooks with
  | nil =>
    simp only [List.foldl_nil,after,emitted,List.reverse_nil,List.nil_append]
    rw [List.take_of_length_le bounded]
  | cons input rest ih =>
    have listed : (engineEffect hooks input).events = ((fire hooks.engine input).events.reverse ++ hooks.events).take maxEvents := by
      unfold engineEffect
      dsimp only
      split
      case isTrue => rfl
      case isFalse none =>
        have empty : (fire hooks.engine input).events = [] := List.eq_nil_of_length_eq_zero (by omega)
        rw [empty,List.reverse_nil,List.nil_append,List.take_of_length_le bounded]
    rw [List.foldl_cons,ih]
    case bounded =>
      rw [listed]
      exact List.length_take_le _ _
    rw [listed,take_take_append]
    simp only [engineEffect,after,emitted,List.reverse_append,List.append_assoc]

def fresh (dispatched : List String) : List AlertEvent → List AlertEvent
  | [] => []
  | event :: rest =>
    if deliverable event ∧ event.id ∉ dispatched then event :: fresh (dispatched ++ [event.id]) rest else fresh dispatched rest

theorem notifier_fresh (events : List AlertEvent) (hooks : Hooks) : events.foldl notifyEvent hooks = { hooks with
    dispatched := hooks.dispatched ++ (fresh hooks.dispatched events).map (·.id)
    notified := hooks.notified ++ fresh hooks.dispatched events } := by
  induction events generalizing hooks with
  | nil => simp [fresh]
  | cons event rest ih =>
    rw [List.foldl_cons,ih]
    by_cases wanted : deliverable event = true
    · by_cases known : event.id ∈ hooks.dispatched
      · simp [notifyEvent,fresh,wanted,known]
      · simp [notifyEvent,fresh,wanted,known]
    · simp [notifyEvent,fresh,wanted]

theorem fresh_sublist (dispatched : List String) (events : List AlertEvent) :
    (fresh dispatched events).Sublist (events.filter deliverable) := by
  induction events generalizing dispatched with
  | nil => exact List.Sublist.refl _
  | cons event rest ih =>
    unfold fresh
    split
    case isTrue new =>
      rw [List.filter_cons_of_pos new.1]
      exact (ih _).cons_cons event
    case isFalse =>
      rw [List.filter_cons]
      split
      · exact (ih _).cons event
      · exact ih _

theorem fresh_append (dispatched : List String) (first second : List AlertEvent) : fresh dispatched (first ++ second) =
    fresh dispatched first ++ fresh (dispatched ++ (fresh dispatched first).map (·.id)) second := by
  induction first generalizing dispatched with
  | nil => simp [fresh]
  | cons event rest ih =>
    rw [List.cons_append]
    by_cases new : deliverable event ∧ event.id ∉ dispatched
    · rw [fresh,if_pos new,ih,fresh,if_pos new]
      simp [List.append_assoc]
    · rw [fresh,if_neg new,ih,fresh,if_neg new]

theorem fresh_known (events : List AlertEvent) (known : ∀ event ∈ events, deliverable event → event.id ∈ dispatched) :
    fresh dispatched events = [] := by
  induction events with
  | nil => rfl
  | cons event rest ih =>
    unfold fresh
    rw [if_neg fun new => new.2 (known event List.mem_cons_self new.1)]
    exact ih fun other member => known other (List.mem_cons_of_mem _ member)

theorem fresh_covers (dispatched : List String) (events : List AlertEvent) : ∀ event ∈ events, deliverable event →
    event.id ∈ dispatched ++ (fresh dispatched events).map (·.id) := by
  induction events generalizing dispatched with
  | nil => exact fun _ member => absurd member List.not_mem_nil
  | cons first rest ih =>
    intro event member wanted
    by_cases new : deliverable first ∧ first.id ∉ dispatched
    · rw [fresh,if_pos new,List.map_cons,List.append_cons]
      rcases List.mem_cons.mp member with rfl | behind
      · exact List.mem_append_left _ (List.mem_append_right _ List.mem_cons_self)
      · exact ih _ event behind wanted
    · rw [fresh,if_neg new]
      rcases List.mem_cons.mp member with rfl | behind
      · exact List.mem_append_left _ (by simpa [wanted] using new)
      · exact ih _ event behind wanted

theorem fresh_distinct (events : List AlertEvent) (distinct : dispatched.Nodup) :
    (dispatched ++ (fresh dispatched events).map (·.id)).Nodup := by
  induction events generalizing dispatched with
  | nil => simpa [fresh] using distinct
  | cons event rest ih =>
    by_cases new : deliverable event ∧ event.id ∉ dispatched
    · rw [fresh,if_pos new,List.map_cons,List.append_cons]
      apply ih
      rw [List.nodup_append]
      refine ⟨distinct,List.nodup_singleton _,fun id member other last => ?_⟩
      rw [List.mem_singleton.mp last]
      exact fun same => new.2 (same ▸ member)
    · rw [fresh,if_neg new]
      exact ih distinct

theorem fresh_all_iff (events : List AlertEvent) (distinct : dispatched.Nodup) :
    fresh dispatched events = events.filter deliverable ↔ (dispatched ++ (events.filter deliverable).map (·.id)).Nodup := by
  constructor
  · intro all
    rw [← all]
    exact fresh_distinct events distinct
  · intro separate
    induction events generalizing dispatched with
    | nil => rfl
    | cons event rest ih =>
      by_cases wanted : deliverable event = true
      · rw [List.filter_cons_of_pos wanted,List.map_cons] at separate
        have absent : event.id ∉ dispatched := by
          intro member
          exact (List.nodup_append.mp separate).2.2 event.id member event.id List.mem_cons_self rfl
        rw [List.append_cons] at separate
        rw [fresh,if_pos ⟨wanted,absent⟩,List.filter_cons_of_pos wanted,ih (List.nodup_append.mp separate).1 separate]
      · rw [List.filter_cons_of_neg wanted] at separate ⊢
        rw [fresh,if_neg fun new => wanted new.1]
        exact ih distinct separate

def Listed (fired : List AlertEvent) : Prop :=
  ∀ before event later, fired = before ++ event :: later → deliverable event → later.length < maxEvents

theorem listed_iff (fired : List AlertEvent) : Listed fired ↔ (fired.reverse.drop maxEvents).filter deliverable = [] := by
  rw [List.drop_reverse,List.filter_eq_nil_iff]
  constructor
  · intro listed event member wanted
    rw [List.mem_reverse] at member
    obtain ⟨before,rest,split⟩ := List.append_of_mem member
    have whole : fired = before ++ event :: (rest ++ fired.drop (fired.length - maxEvents)) := by
      rw [← List.cons_append,← List.append_assoc,← split,List.take_append_drop]
    have short := listed _ _ _ whole wanted
    have counted := congrArg List.length split
    have inside := List.length_pos_of_mem member
    simp only [List.length_append,List.length_drop,List.length_take] at short counted inside
    omega
  · intro none before event later split wanted
    by_contra long
    apply none event _ wanted
    have front : before.length + 1 ≤ fired.length - maxEvents := by
      rw [split,List.length_append,List.length_cons]
      omega
    rw [List.mem_reverse,split,List.append_cons,List.mem_take_iff_getElem]
    refine ⟨before.length,?_,?_⟩
    · rw [← List.append_cons,← split]
      omega
    · simp

structure Settled (hooks : Hooks) (wanted : List AlertEvent) : Prop where
  bounded : hooks.events.length ≤ maxEvents
  ids : hooks.dispatched = hooks.notified.map (·.id)
  distinct : hooks.dispatched.Nodup
  seen : ∀ event ∈ hooks.events, deliverable event → event.id ∈ hooks.dispatched
  among : hooks.notified.Subperm wanted

def Complete (hooks : Hooks) (wanted : List AlertEvent) : Prop := hooks.notified.length = wanted.length

variable {hooks : Hooks} {wanted : List AlertEvent}

theorem Settled.perm (settled : Settled hooks wanted) (complete : Complete hooks wanted) : hooks.notified.Perm wanted :=
  settled.among.perm_of_length_le complete.ge

theorem Settled.complete_distinct (settled : Settled hooks wanted) (complete : Complete hooks wanted) :
    (wanted.map (·.id)).Nodup := by
  rw [← ((settled.perm complete).map (·.id)).nodup_iff,← settled.ids]
  exact settled.distinct

def window (fired : List AlertEvent) : List AlertEvent := fired.reverse.take maxEvents

theorem window_split (fired : List AlertEvent) : (fired.filter deliverable).length =
    ((window fired).filter deliverable).length + ((fired.reverse.drop maxEvents).filter deliverable).length := by
  rw [← List.length_append,← List.filter_append,window,List.take_append_drop,List.filter_reverse,List.length_reverse]

theorem round_eq (settled : Settled hooks wanted) (inputs : List (Input js)) : ∃ events,
    round hooks inputs = {
      engine := after hooks.engine inputs
      events := events
      dispatched := hooks.dispatched ++ (fresh hooks.dispatched (window (emitted hooks.engine inputs))).map (·.id)
      notified := hooks.notified ++ fresh hooks.dispatched (window (emitted hooks.engine inputs)) } ∧
    events.length ≤ maxEvents ∧ ∀ event ∈ events, deliverable event →
      event.id ∈ hooks.dispatched ++ (fresh hooks.dispatched (window (emitted hooks.engine inputs))).map (·.id) := by
  have old : fresh (hooks.dispatched ++ (fresh hooks.dispatched (window (emitted hooks.engine inputs))).map (·.id))
      (hooks.events.take (maxEvents - (emitted hooks.engine inputs).reverse.length)) = [] := by
    apply fresh_known
    intro event member wanted
    exact List.mem_append_left _ (settled.seen event (List.mem_of_mem_take member) wanted)
  refine ⟨((emitted hooks.engine inputs).reverse ++ hooks.events).take maxEvents,?_,List.length_take_le _ _,?_⟩
  · unfold round
    rw [engineEffects_eq inputs hooks settled.bounded,notifierEffect,notifier_fresh]
    dsimp only
    rw [List.take_append,fresh_append,← window,old,List.append_nil]
  · intro event member wanted
    rw [List.take_append] at member
    rcases List.mem_append.mp member with new | kept
    · exact fresh_covers _ _ event new wanted
    · exact List.mem_append_left _ (settled.seen event (List.mem_of_mem_take kept) wanted)

theorem round_settled (settled : Settled hooks wanted) (inputs : List (Input js)) :
    Settled (round hooks inputs) (wanted ++ (emitted hooks.engine inputs).filter deliverable) := by
  obtain ⟨events,eq,bounded,seen⟩ := round_eq settled inputs
  rw [eq]
  refine ⟨bounded,?_,fresh_distinct _ settled.distinct,seen,?_⟩
  · rw [List.map_append,← settled.ids]
  · apply List.Subperm.append settled.among
    have inside : ((window (emitted hooks.engine inputs)).filter deliverable).Sublist
        ((emitted hooks.engine inputs).reverse.filter deliverable) := (List.take_sublist _ _).filter _
    have turned : ((emitted hooks.engine inputs).reverse.filter deliverable).Perm ((emitted hooks.engine inputs).filter deliverable) :=
      (List.reverse_perm _).filter _
    exact ((fresh_sublist _ _).trans inside).subperm.trans turned.subperm

theorem round_complete (settled : Settled hooks wanted) (inputs : List (Input js)) :
    Complete (round hooks inputs) (wanted ++ (emitted hooks.engine inputs).filter deliverable) ↔
      Complete hooks wanted ∧ Listed (emitted hooks.engine inputs) ∧
        ((wanted ++ (emitted hooks.engine inputs).filter deliverable).map (·.id)).Nodup := by
  obtain ⟨events,eq,_,_⟩ := round_eq settled inputs
  have handed : (round hooks inputs).notified =
      hooks.notified ++ fresh hooks.dispatched (window (emitted hooks.engine inputs)) := by rw [eq]
  generalize emitted hooks.engine inputs = fired at handed ⊢
  have before := settled.among.length_le
  have now := (fresh_sublist hooks.dispatched (window fired)).length_le
  have split := window_split fired
  unfold Complete
  rw [handed,List.length_append,List.length_append,listed_iff,← List.length_eq_zero_iff]
  have counts : hooks.notified.length + (fresh hooks.dispatched (window fired)).length =
      wanted.length + (fired.filter deliverable).length ↔
        hooks.notified.length = wanted.length ∧ ((fired.reverse.drop maxEvents).filter deliverable).length = 0 ∧
          (fresh hooks.dispatched (window fired)).length = ((window fired).filter deliverable).length := by omega
  rw [counts]
  apply and_congr_right
  intro complete
  apply and_congr_right
  intro none
  have all : (fresh hooks.dispatched (window fired)).length = ((window fired).filter deliverable).length ↔
      fresh hooks.dispatched (window fired) = (window fired).filter deliverable :=
    ⟨(fresh_sublist _ _).eq_of_length,congrArg List.length⟩
  rw [all,fresh_all_iff _ settled.distinct]
  apply List.Perm.nodup_iff
  rw [List.map_append,settled.ids]
  apply List.Perm.append ((settled.perm complete).map _)
  apply List.Perm.map
  -- Nothing deliverable was cut off, so the window holds what the round emitted.
  have kept : (window fired).filter deliverable = fired.reverse.filter deliverable := by
    rw [window]
    conv_rhs => rw [← List.take_append_drop maxEvents fired.reverse,List.filter_append]
    rw [List.length_eq_zero_iff.mp none,List.append_nil]
  rw [kept]
  exact (List.reverse_perm fired).filter _

theorem rounds_complete (rounds : List (List (Input js))) (settled : Settled hooks wanted) :
    Settled (rounds.foldl round hooks) (wanted ++ (emittedRounds hooks.engine rounds).flatten.filter deliverable) ∧
      (Complete (rounds.foldl round hooks) (wanted ++ (emittedRounds hooks.engine rounds).flatten.filter deliverable) ↔
        Complete hooks wanted ∧ (∀ fired ∈ emittedRounds hooks.engine rounds, Listed fired) ∧
          ((wanted ++ (emittedRounds hooks.engine rounds).flatten.filter deliverable).map (·.id)).Nodup) := by
  induction rounds generalizing hooks wanted with
  | nil =>
    rw [List.foldl_nil,show emittedRounds hooks.engine ([] : List (List (Input js))) = [] from rfl,List.flatten_nil,
      List.filter_nil,List.append_nil]
    exact ⟨settled,fun complete => ⟨complete,by simp,settled.complete_distinct complete⟩,fun all => all.1⟩
  | cons inputs rest ih =>
    have engine : (round hooks inputs).engine = after hooks.engine inputs := by
      obtain ⟨events,eq,_⟩ := round_eq settled inputs
      rw [eq]
    obtain ⟨final,iff⟩ := ih (round_settled settled inputs)
    rw [engine,List.append_assoc] at final iff
    rw [List.foldl_cons,emittedRounds,List.flatten_cons,List.filter_append]
    refine ⟨final,iff.trans ?_⟩
    rw [round_complete settled inputs,List.forall_mem_cons]
    constructor
    · intro ⟨⟨complete,listed,_⟩,later,distinct⟩
      exact ⟨complete,⟨listed,later⟩,distinct⟩
    · intro ⟨complete,⟨listed,later⟩,distinct⟩
      refine ⟨⟨complete,listed,?_⟩,later,distinct⟩
      rw [← List.append_assoc,List.map_append] at distinct
      exact (List.nodup_append.mp distinct).1

theorem mounted_settled : Settled Hooks.mounted [] := ⟨by simp [Hooks.mounted],rfl,List.nodup_nil,by simp [Hooks.mounted],List.Subperm.refl _⟩

theorem emitted_named (state : AlertEngineState) (inputs : List (Input js)) : ∀ event ∈ emitted state inputs, Named event := by
  induction inputs generalizing state with
  | nil => exact fun _ member => absurd member List.not_mem_nil
  | cons input rest ih =>
    intro event member
    rcases List.mem_append.mp member with here | later
    · exact engine_named input.accepted.1 state event here
    · exact ih _ event later

theorem rounds_named (state : AlertEngineState) (rounds : List (List (Input js))) :
    ∀ event ∈ (emittedRounds state rounds).flatten, Named event := by
  induction rounds generalizing state with
  | nil => exact fun _ member => absurd member List.not_mem_nil
  | cons inputs rest ih =>
    intro event member
    rw [emittedRounds,List.flatten_cons] at member
    rcases List.mem_append.mp member with here | later
    · exact emitted_named state inputs event here
    · exact ih _ event later

def HandedOnce (rounds : List (List (Input js))) : Prop :=
  (rounds.foldl round Hooks.mounted).notified.Perm ((emittedRounds [] rounds).flatten.filter deliverable)

-- Events are lost where a round fires so many that the list drops one before the notifier
-- sees it, and where a sensor enters a state of a recipient twice at one timestamp.
theorem handed_once_iff (rounds : List (List (Input js))) : HandedOnce rounds ↔
    (∀ fired ∈ emittedRounds [] rounds, Listed fired) ∧
      (((emittedRounds [] rounds).flatten.filter deliverable).map crossing).Nodup := by
  obtain ⟨settled,iff⟩ := rounds_complete rounds mounted_settled
  rw [List.nil_append,show Hooks.mounted.engine = [] from rfl] at settled iff
  have counted : HandedOnce rounds ↔ Complete (rounds.foldl round Hooks.mounted) ((emittedRounds [] rounds).flatten.filter deliverable) :=
    ⟨List.Perm.length_eq,settled.perm⟩
  have ids : (((emittedRounds [] rounds).flatten.filter deliverable).map (·.id)) =
      (((emittedRounds [] rounds).flatten.filter deliverable).map crossing).map crossingId := by
    rw [List.map_map]
    apply List.map_congr_left
    intro event member
    exact (rounds_named [] rounds event (List.mem_filter.mp member).1).crossing_id
  rw [counted,iff,ids,List.nodup_map_iff fun _ _ => crossingId_inj]
  exact ⟨fun all => all.2,fun all => ⟨rfl,all⟩⟩

def crowd : PersistedAlertConfig := ⟨true,(List.range 25).map fun k =>
  ⟨persistedId k,"user" ++ Nat.repr k ++ "@lab.org",true,15,30,"cold","hot"⟩⟩

theorem crowd_accepted : asciiLower.Passes crowd := ⟨by decide +kernel,by decide,by decide +kernel⟩

def hotFrame : Input asciiLower := ⟨⟨0,some 40,some 40⟩,crowd,crowd_accepted⟩

theorem crowd_dropped : ¬ HandedOnce [[hotFrame]] := by
  intro handed
  have counted := handed.length_eq
  revert counted
  decide +kernel

-- A limit raised above the reading and set back re-enters HIGH at the timestamp of the frame.
def limited (maxC : Rat) : PersistedAlertConfig := ⟨true,[⟨"a","amy@lab.org",true,15,maxC,"cold","hot"⟩]⟩

def edited (maxC : Rat) (accepted : asciiLower.Passes (limited maxC)) : Input asciiLower := ⟨⟨0,some 40,none⟩,limited maxC,accepted⟩

theorem limited_accepted (accepted : asciiLower.Accepted ⟨"a","amy@lab.org",true,15,maxC,"cold","hot"⟩) : asciiLower.Passes (limited maxC) :=
  ⟨by simpa [limited] using accepted,by simp [limited],by simp [limited]⟩

example : ¬ HandedOnce [[edited 30 (limited_accepted (by decide +kernel))],[edited 50 (limited_accepted (by decide +kernel))],
    [edited 30 (limited_accepted (by decide +kernel))]] := by
  intro handed
  have counted := handed.length_eq
  revert counted
  decide +kernel

end Thermometer.Frontend.Console
