import Mathlib.Data.List.Destutter
import Thermometer.Frontend.AlertEngine

-- The runs of alertEngine.ts under fixed rules and recipients: what is emitted for one
-- recipient and one rule, beside all the others and by itself.
namespace Thermometer.Frontend.Console
open OrderedMap

def runFrame (rules : List AlertRule) (recipients : List AlertRecipient) (run : AlertEngineStep) (frame : ThermometerFrame) :
    AlertEngineStep :=
  let step := stepAlertEngine run.states frame rules recipients
  ⟨step.states,run.events ++ step.events⟩

def runAlertEngine (rules : List AlertRule) (recipients : List AlertRecipient) (frames : List ThermometerFrame) :
    AlertEngineStep := frames.foldl (runFrame rules recipients) ⟨[],[]⟩

abbrev Combination := AlertRecipient × AlertRule

-- The two conditions under which the inner loop goes on to the reading.
def active (recipient : AlertRecipient) (rule : AlertRule) : Bool :=
  recipient.enabled && rule.enabled && !(rule.recipientId.any fun id => id ≠ "" && id ≠ recipient.id)

def combinations (rules : List AlertRule) (recipients : List AlertRecipient) : List Combination :=
  recipients.flatMap fun recipient => (rules.filter (active recipient)).map fun rule => (recipient,rule)

namespace Combination

def key (p : Combination) : String := ruleStateKey p.1.id p.2.id p.2.source

def owns (p : Combination) (event : AlertEvent) : Bool :=
  event.recipientId = p.1.id && event.ruleId = p.2.id && event.source = p.2.source

def event (p : Combination) (frame : ThermometerFrame) (zone : RuleState) (celsius : Rat) : AlertEvent := {
  id := sep.intercalate [p.key,zone.text,toString frame.timestamp]
  timestamp := frame.timestamp
  recipientId := p.1.id
  ruleId := p.2.id
  source := p.2.source
  transition := zone
  destination := p.1.destination
  message := messageFor p.2 zone
  celsius := celsius }

def advance (p : Combination) (frame : ThermometerFrame) (current : RuleState) : RuleState × List AlertEvent :=
  match sourceCelsius frame p.2.source with
  | none => (current,[])
  | some celsius => if zoneFor celsius p.2 = current then (current,[]) else (zoneFor celsius p.2,[p.event frame (zoneFor celsius p.2) celsius])

def episode (p : Combination) : RuleState → List ThermometerFrame → List AlertEvent
  | _,[] => []
  | current,frame :: rest => (p.advance frame current).2 ++ episode p (p.advance frame current).1 rest

end Combination

def zones (rule : AlertRule) (frames : List ThermometerFrame) : List RuleState :=
  (frames.filterMap fun frame => sourceCelsius frame rule.source).map fun celsius => zoneFor celsius rule

variable {p q : Combination} {frame : ThermometerFrame} {current : RuleState} {celsius : Rat} {event : AlertEvent}

theorem advance_gap (read : sourceCelsius frame p.2.source = none) (current : RuleState) :
    p.advance frame current = (current,[]) := by
  rw [Combination.advance,read]

theorem advance_read (read : sourceCelsius frame p.2.source = some celsius) (current : RuleState) :
    p.advance frame current = (zoneFor celsius p.2,
      if zoneFor celsius p.2 = current then [] else [p.event frame (zoneFor celsius p.2) celsius]) := by
  rw [Combination.advance,read]
  dsimp only
  by_cases same : zoneFor celsius p.2 = current
  · rw [if_pos same,if_pos same,same]
  · rw [if_neg same,if_neg same]

theorem advance_owned (member : event ∈ (p.advance frame current).2) : p.owns event := by
  cases read : sourceCelsius frame p.2.source with
  | none =>
    rw [advance_gap read] at member
    cases member
  | some celsius =>
    rw [advance_read read] at member
    dsimp only at member
    split at member
    · cases member
    · rw [List.mem_singleton.mp member]
      simp [Combination.owns,Combination.event]

theorem advance_quiet (quiet : (p.advance frame current).2 = []) : (p.advance frame current).1 = current := by
  cases read : sourceCelsius frame p.2.source with
  | none => rw [advance_gap read]
  | some celsius =>
    rw [advance_read read] at quiet ⊢
    dsimp only at quiet ⊢
    split at quiet
    · assumption
    · cases quiet

theorem advance_again (p : Combination) (frame : ThermometerFrame) (current : RuleState) :
    (p.advance frame (p.advance frame current).1).2 = [] := by
  cases read : sourceCelsius frame p.2.source with
  | none => rw [advance_gap read]
  | some celsius =>
    rw [advance_read read,advance_read read]
    exact if_pos rfl

theorem destutter_head (l : List RuleState) (current : RuleState) :
    l.destutter' (· ≠ ·) current = current :: (l.destutter' (· ≠ ·) current).tail := by
  induction l with
  | nil => rfl
  | cons zone rest ih =>
    by_cases crossing : current ≠ zone
    · rw [List.destutter'_cons_pos rest crossing]
      rfl
    · rw [List.destutter'_cons_neg rest crossing]
      exact ih

theorem episode_transitions (p : Combination) (current : RuleState) (frames : List ThermometerFrame) :
    (p.episode current frames).map (·.transition) = ((zones p.2 frames).destutter' (· ≠ ·) current).tail := by
  induction frames generalizing current with
  | nil => rfl
  | cons frame rest ih =>
    rw [Combination.episode,List.map_append,ih]
    cases read : sourceCelsius frame p.2.source with
    | none =>
      have same : zones p.2 (frame :: rest) = zones p.2 rest := by simp [zones,read]
      rw [advance_gap read,same]
      rfl
    | some celsius =>
      have more : zones p.2 (frame :: rest) = zoneFor celsius p.2 :: zones p.2 rest := by simp [zones,read]
      rw [advance_read read,more]
      by_cases crossing : zoneFor celsius p.2 = current
      · rw [if_pos crossing,List.destutter'_cons_neg _ (not_not.mpr crossing.symm),crossing]
        rfl
      · rw [if_neg crossing,List.destutter'_cons_pos _ (Ne.symm crossing)]
        exact (destutter_head _ _).symm

def currentOf (states : AlertEngineState) (key : String) : RuleState := (states.lookup key).getD .normal

-- The inner body for a combination that passes both conditions.
def stepCombination (frame : ThermometerFrame) (step : AlertEngineStep) (p : Combination) : AlertEngineStep :=
  let next := p.advance frame (currentOf step.states p.key)
  if next.2 = [] then step else ⟨assign step.states p.key next.1,step.events ++ next.2⟩

variable {step : AlertEngineStep} {rules : List AlertRule} {recipients : List AlertRecipient} {recipient : AlertRecipient}

theorem stepRule_combination (here : recipient.enabled = true) (step : AlertEngineStep) (rule : AlertRule) :
    stepRule frame recipient step rule =
      if active recipient rule then stepCombination frame step (recipient,rule) else step := by
  unfold stepRule active
  rw [here]
  cases rule.enabled with
  | false => rfl
  | true =>
    cases rule.recipientId.any fun id => id ≠ "" && id ≠ recipient.id with
    | true => rfl
    | false =>
      unfold stepCombination Combination.advance
      dsimp only [Bool.not_true,Bool.not_false,Bool.and_true]
      cases sourceCelsius frame rule.source with
      | none => rfl
      | some celsius =>
        dsimp only
        by_cases same : zoneFor celsius rule = currentOf step.states (Combination.key (recipient,rule))
        · simp only [if_pos same]
          exact if_pos same
        · simp only [if_neg same]
          exact if_neg same

theorem stepRecipient_combinations (recipient : AlertRecipient) (step : AlertEngineStep) :
    stepRecipient frame rules step recipient =
      ((rules.filter (active recipient)).map fun rule => (recipient,rule)).foldl (stepCombination frame) step := by
  unfold stepRecipient
  split
  · rename_i here
    induction rules generalizing step with
    | nil => rfl
    | cons rule rest ih =>
      rw [List.foldl_cons,ih,stepRule_combination here]
      by_cases passes : active recipient rule = true
      · rw [if_pos passes,List.filter_cons_of_pos passes]
        rfl
      · rw [if_neg passes,List.filter_cons_of_neg passes]
  · rename_i off
    have none : rules.filter (active recipient) = [] :=
      List.filter_eq_nil_iff.mpr fun rule _ => by simp [active,off]
    rw [none]
    rfl

theorem stepAlertEngine_combinations (prev : AlertEngineState) (frame : ThermometerFrame) :
    stepAlertEngine prev frame rules recipients =
      (combinations rules recipients).foldl (stepCombination frame) ⟨prev,[]⟩ := by
  unfold stepAlertEngine combinations
  generalize (⟨prev,[]⟩ : AlertEngineStep) = step
  induction recipients generalizing step with
  | nil => rfl
  | cons recipient rest ih =>
    rw [List.foldl_cons,List.flatMap_cons,List.foldl_append,ih,stepRecipient_combinations]

theorem stepCombination_states (frame : ThermometerFrame) (step : AlertEngineStep) (p : Combination) (key : String) :
    currentOf (stepCombination frame step p).states key =
      if key = p.key then (p.advance frame (currentOf step.states p.key)).1 else currentOf step.states key := by
  unfold stepCombination
  dsimp only
  by_cases quiet : (p.advance frame (currentOf step.states p.key)).2 = []
  · rw [if_pos quiet,advance_quiet quiet]
    split
    · rename_i here
      rw [here]
    · rfl
  · rw [if_neg quiet]
    unfold currentOf
    dsimp only
    split
    · rename_i here
      rw [here,lookup_assign_self]
      rfl
    · rename_i other
      rw [lookup_assign_other other]

theorem stepCombination_events (frame : ThermometerFrame) (step : AlertEngineStep) (p : Combination) :
    (stepCombination frame step p).events = step.events ++ (p.advance frame (currentOf step.states p.key)).2 := by
  unfold stepCombination
  dsimp only
  split
  · rename_i quiet
    rw [quiet,List.append_nil]
  · rfl

theorem owns_key (own : p.owns event) : ruleStateKey event.recipientId event.ruleId event.source = p.key := by
  simp only [Combination.owns,Bool.and_eq_true,decide_eq_true_eq] at own
  rw [own.1.1,own.1.2,own.2]
  rfl

theorem advance_foreign (apart : p.key ≠ q.key) : (q.advance frame current).2.filter p.owns = [] := by
  refine List.filter_eq_nil_iff.mpr fun event member own => apart ?_
  rw [← owns_key own,owns_key (advance_owned member)]

theorem advance_own (p : Combination) (frame : ThermometerFrame) (current : RuleState) :
    (p.advance frame current).2.filter p.owns = (p.advance frame current).2 :=
  List.filter_eq_self.mpr fun _ member => advance_owned member

variable {ps qs : List Combination}

theorem fold_foreign (apart : ∀ q ∈ ps, p.key ≠ q.key) (frame : ThermometerFrame) (step : AlertEngineStep) :
    currentOf (ps.foldl (stepCombination frame) step).states p.key = currentOf step.states p.key ∧
      (ps.foldl (stepCombination frame) step).events.filter p.owns = step.events.filter p.owns := by
  induction ps generalizing step with
  | nil => exact ⟨rfl,rfl⟩
  | cons q rest ih =>
    have here := apart q List.mem_cons_self
    have later := ih (fun other member => apart other (List.mem_cons_of_mem _ member)) (stepCombination frame step q)
    rw [stepCombination_states,if_neg here,stepCombination_events,List.filter_append,advance_foreign here,
      List.append_nil] at later
    exact later

theorem fold_advance (distinct : (ps.map Combination.key).Nodup) (member : p ∈ ps) (frame : ThermometerFrame)
    (step : AlertEngineStep) :
    currentOf (ps.foldl (stepCombination frame) step).states p.key = (p.advance frame (currentOf step.states p.key)).1 ∧
      (ps.foldl (stepCombination frame) step).events.filter p.owns =
        step.events.filter p.owns ++ (p.advance frame (currentOf step.states p.key)).2 := by
  induction ps generalizing step with
  | nil => cases member
  | cons q rest ih =>
    rw [List.map_cons,List.nodup_cons] at distinct
    rcases List.mem_cons.mp member with rfl | later
    · have apart : ∀ q ∈ rest, p.key ≠ q.key := fun q among same => distinct.1 (same ▸ List.mem_map_of_mem among)
      have frames := fold_foreign apart frame (stepCombination frame step p)
      rw [stepCombination_states,if_pos rfl,stepCombination_events,List.filter_append,advance_own] at frames
      exact frames
    · have apart : p.key ≠ q.key := fun same => distinct.1 (same ▸ List.mem_map_of_mem later)
      have went := ih distinct.2 later (stepCombination frame step q)
      rw [stepCombination_states,if_neg apart,stepCombination_events,List.filter_append,advance_foreign apart,
        List.append_nil] at went
      exact went

theorem fold_quiet (step : AlertEngineStep)
    (quiet : ∀ p ∈ ps, (p.advance frame (currentOf step.states p.key)).2 = []) :
    ps.foldl (stepCombination frame) step = step := by
  induction ps with
  | nil => rfl
  | cons p rest ih =>
    have same : stepCombination frame step p = step := if_pos (quiet p List.mem_cons_self)
    rw [List.foldl_cons,same]
    exact ih fun q member => quiet q (List.mem_cons_of_mem _ member)

theorem fold_owned (step : AlertEngineStep) (fromOne : ∀ event ∈ step.events, ∃ p ∈ qs, p.owns event) (inside : ∀ p ∈ ps, p ∈ qs) :
    ∀ event ∈ (ps.foldl (stepCombination frame) step).events, ∃ p ∈ qs, p.owns event := by
  induction ps generalizing step with
  | nil => exact fromOne
  | cons p rest ih =>
    apply ih (stepCombination frame step p) _ fun q member => inside q (List.mem_cons_of_mem _ member)
    intro event member
    rw [stepCombination_events] at member
    rcases List.mem_append.mp member with old | new
    · exact fromOne event old
    · exact ⟨p,inside p List.mem_cons_self,advance_owned new⟩

theorem run_episode (distinct : ((combinations rules recipients).map Combination.key).Nodup) (member : p ∈ combinations rules recipients)
    (frames : List ThermometerFrame) (run : AlertEngineStep) :
    (frames.foldl (runFrame rules recipients) run).events.filter p.owns =
      run.events.filter p.owns ++ p.episode (currentOf run.states p.key) frames := by
  induction frames generalizing run with
  | nil => exact (List.append_nil _).symm
  | cons frame rest ih =>
    have went := fold_advance distinct member frame ⟨run.states,[]⟩
    rw [← stepAlertEngine_combinations] at went
    obtain ⟨state,events⟩ := went
    rw [List.foldl_cons,ih]
    unfold runFrame
    dsimp only
    rw [List.filter_append,events,state,List.append_assoc]
    rfl

theorem run_owned (frames : List ThermometerFrame) (run : AlertEngineStep)
    (fromOne : ∀ event ∈ run.events, ∃ p ∈ combinations rules recipients, p.owns event) :
    ∀ event ∈ (frames.foldl (runFrame rules recipients) run).events, ∃ p ∈ combinations rules recipients, p.owns event := by
  induction frames generalizing run with
  | nil => exact fromOne
  | cons frame rest ih =>
    refine ih _ fun event member => ?_
    rcases List.mem_append.mp member with old | new
    · exact fromOne event old
    · rw [stepAlertEngine_combinations] at new
      exact fold_owned ⟨run.states,[]⟩ (fun _ none => absurd none List.not_mem_nil) (fun _ inside => inside) event new

theorem mem_combinations : p ∈ combinations rules recipients ↔ p.1 ∈ recipients ∧ p.2 ∈ rules ∧ active p.1 p.2 = true := by
  obtain ⟨recipient,rule⟩ := p
  unfold combinations
  rw [List.mem_flatMap]
  constructor
  · rintro ⟨other,present,member⟩
    obtain ⟨same,kept,equal⟩ := List.mem_map.mp member
    cases equal
    exact ⟨present,List.mem_filter.mp kept⟩
  · rintro ⟨present,kept⟩
    exact ⟨recipient,present,List.mem_map.mpr ⟨rule,List.mem_filter.mpr kept,rfl⟩⟩

structure Distinct (rules : List AlertRule) (recipients : List AlertRecipient) : Prop where
  recipients : (recipients.map (·.id)).Nodup
  rules : (rules.map (·.id)).Nodup

theorem Distinct.same (distinct : Distinct rules recipients) (one : p.1 ∈ recipients ∧ p.2 ∈ rules)
    (other : q.1 ∈ recipients ∧ q.2 ∈ rules) (recipientIds : p.1.id = q.1.id) (ruleIds : p.2.id = q.2.id) : p = q :=
  Prod.ext (List.inj_on_of_nodup_map distinct.recipients one.1 other.1 recipientIds)
    (List.inj_on_of_nodup_map distinct.rules one.2 other.2 ruleIds)

theorem Distinct.combinations (distinct : Distinct rules recipients) : (combinations rules recipients).Nodup := by
  refine List.nodup_flatMap.mpr ⟨fun recipient _ => ?_,?_⟩
  · exact (distinct.rules.of_map.filter _).map fun one other same => (Prod.mk.inj same).2
  · refine distinct.recipients.of_map.imp fun {one other} apart => ?_
    intro pair first second
    obtain ⟨_,_,rfl⟩ := List.mem_map.mp first
    obtain ⟨_,_,equal⟩ := List.mem_map.mp second
    exact apart (Prod.mk.inj equal).1.symm

theorem Distinct.owner (distinct : Distinct rules recipients) (one : p.1 ∈ recipients ∧ p.2 ∈ rules)
    (other : q.1 ∈ recipients ∧ q.2 ∈ rules) (first : p.owns event) (second : q.owns event) : p = q := by
  simp only [Combination.owns,Bool.and_eq_true,decide_eq_true_eq] at first second
  exact distinct.same one other (first.1.1.symm.trans second.1.1) (first.1.2.symm.trans second.1.2)

theorem exists_hotter (rules : List AlertRule) : ∃ celsius, ∀ rule ∈ rules, rule.maxC < celsius := by
  induction rules with
  | nil => exact ⟨0,fun _ none => absurd none List.not_mem_nil⟩
  | cons rule rest ih =>
    obtain ⟨celsius,hotter⟩ := ih
    refine ⟨max celsius (rule.maxC + 1),fun other member => ?_⟩
    rcases List.mem_cons.mp member with rfl | later
    · exact lt_of_lt_of_le (lt_add_one _) (le_max_right _ _)
    · exact lt_of_lt_of_le (hotter other later) (le_max_left _ _)

def bothAt (celsius : Rat) : ThermometerFrame := ⟨0,some celsius,some celsius⟩

theorem bothAt_read (celsius : Rat) (source : AlertSource) : sourceCelsius (bothAt celsius) source = some celsius := by
  cases source <;> rfl

theorem hot_advance (hot : p.2.maxC < celsius) (current : RuleState) :
    p.advance (bothAt celsius) current = (.high,if .high = current then [] else [p.event (bothAt celsius) .high celsius]) := by
  have zone : zoneFor celsius p.2 = .high := if_pos hot
  rw [advance_read (bothAt_read celsius _),zone]

theorem hot_state (hot : ∀ p ∈ ps, p.2.maxC < celsius) (step : AlertEngineStep)
    (reached : currentOf step.states key = .high ∨ key ∈ ps.map Combination.key) :
    currentOf (ps.foldl (stepCombination (bothAt celsius)) step).states key = .high := by
  induction ps generalizing step with
  | nil => exact reached.resolve_right List.not_mem_nil
  | cons p rest ih =>
    refine ih (fun q member => hot q (List.mem_cons_of_mem _ member)) (stepCombination (bothAt celsius) step p) ?_
    rw [stepCombination_states,hot_advance (hot p List.mem_cons_self)]
    by_cases here : key = p.key
    · exact .inl (if_pos here)
    · rw [if_neg here]
      exact reached.imp_right fun member => (List.mem_cons.mp member).resolve_left here

theorem repeated_key (clash : ¬ (ps.map Combination.key).Nodup) :
    ∃ first p rest, ps = first ++ p :: rest ∧ p.key ∈ first.map Combination.key := by
  induction ps with
  | nil => exact absurd List.nodup_nil clash
  | cons q rest ih =>
    rw [List.map_cons,List.nodup_cons,not_and_or,not_not] at clash
    rcases clash with here | later
    · obtain ⟨p,member,same⟩ := List.mem_map.mp here
      obtain ⟨before,after,rfl⟩ := List.append_of_mem member
      exact ⟨q :: before,p,after,rfl,by simp [same]⟩
    · obtain ⟨first,p,after,rfl,member⟩ := ih later
      exact ⟨q :: first,p,after,rfl,List.mem_cons_of_mem _ member⟩

theorem clash_silent (distinct : Distinct rules recipients) (clash : ¬ ((combinations rules recipients).map Combination.key).Nodup) :
    ∃ p ∈ combinations rules recipients, ∃ celsius, p.2.maxC < celsius ∧
      (runAlertEngine rules recipients [bothAt celsius]).events.filter p.owns = [] := by
  obtain ⟨celsius,hotter⟩ := exists_hotter rules
  obtain ⟨first,p,rest,split,shared⟩ := repeated_key clash
  have inside : ∀ q ∈ first ++ p :: rest, q ∈ combinations rules recipients := fun q member => split ▸ member
  have hot : ∀ q ∈ first ++ p :: rest, q.2.maxC < celsius := fun q member =>
    hotter q.2 (mem_combinations.mp (inside q member)).2.1
  have here : p ∈ first ++ p :: rest := by simp
  refine ⟨p,inside p here,celsius,hot p here,?_⟩
  have high := hot_state (fun q member => hot q (List.mem_append_left _ member)) ⟨[],[]⟩ (.inr shared)
  have passed : stepCombination (bothAt celsius) (first.foldl (stepCombination (bothAt celsius)) ⟨[],[]⟩) p =
      first.foldl (stepCombination (bothAt celsius)) ⟨[],[]⟩ := by
    refine if_pos ?_
    rw [high,hot_advance (hot p here)]
    rfl
  have events : (runAlertEngine rules recipients [bothAt celsius]).events =
      ((first ++ rest).foldl (stepCombination (bothAt celsius)) ⟨[],[]⟩).events := by
    unfold runAlertEngine
    rw [List.foldl_cons,List.foldl_nil,runFrame,stepAlertEngine_combinations,split,List.foldl_append,List.foldl_cons,passed,
      ← List.foldl_append]
    rfl
  rw [events]
  refine List.filter_eq_nil_iff.mpr fun event member own => ?_
  obtain ⟨q,other,owned⟩ := fold_owned ⟨[],[]⟩ (fun _ none => absurd none List.not_mem_nil) (fun _ among => among) event member
  have apart : p ∉ first ++ rest := by
    have once := distinct.combinations
    rw [split,List.nodup_middle,List.nodup_cons] at once
    exact once.1
  have present {q : Combination} (member : q ∈ first ++ p :: rest) : q.1 ∈ recipients ∧ q.2 ∈ rules :=
    let known := mem_combinations.mp (inside q member)
    ⟨known.1,known.2.1⟩
  have among : q ∈ first ++ p :: rest := by
    rcases List.mem_append.mp other with before | behind
    · exact List.mem_append_left _ before
    · exact List.mem_append_right _ (List.mem_cons_of_mem _ behind)
  exact apart (distinct.owner (present here) (present among) own owned ▸ other)

structure RunLaw (rules : List AlertRule) (recipients : List AlertRecipient) : Prop where
  edges : ∀ recipient ∈ recipients, ∀ rule ∈ rules, active recipient rule = true → ∀ frames,
    ((runAlertEngine rules recipients frames).events.filter (Combination.owns (recipient,rule))).map (·.transition) =
      ((zones rule frames).destutter' (· ≠ ·) .normal).tail
  silent : ∀ recipient ∈ recipients, ∀ rule ∈ rules, active recipient rule = false → ∀ frames,
    (runAlertEngine rules recipients frames).events.filter (Combination.owns (recipient,rule)) = []
  again : ∀ prev frame,
    let step := stepAlertEngine prev frame rules recipients
    stepAlertEngine step.states frame rules recipients = ⟨step.states,[]⟩

def Independent (rules : List AlertRule) (recipients : List AlertRecipient) : Prop :=
  ∀ recipient ∈ recipients, ∀ rule ∈ rules, ∀ frames,
    (runAlertEngine rules recipients frames).events.filter (Combination.owns (recipient,rule)) =
      (runAlertEngine [rule] [recipient] frames).events

theorem run_active (distinct : ((combinations rules recipients).map Combination.key).Nodup) (member : p ∈ combinations rules recipients)
    (frames : List ThermometerFrame) :
    (runAlertEngine rules recipients frames).events.filter p.owns = p.episode .normal frames :=
  run_episode distinct member frames ⟨[],[]⟩

theorem run_silent (distinct : Distinct rules recipients) (present : p.1 ∈ recipients ∧ p.2 ∈ rules)
    (off : active p.1 p.2 = false) (frames : List ThermometerFrame) :
    (runAlertEngine rules recipients frames).events.filter p.owns = [] := by
  refine List.filter_eq_nil_iff.mpr fun event member own => ?_
  obtain ⟨q,other,owned⟩ := run_owned frames ⟨[],[]⟩ (fun _ none => absurd none List.not_mem_nil) event member
  have known := mem_combinations.mp other
  rw [distinct.owner present ⟨known.1,known.2.1⟩ own owned,known.2.2] at off
  cases off

theorem combinations_alone (p : Combination) : combinations [p.2] [p.1] = if active p.1 p.2 then [p] else [] := by
  unfold combinations
  rw [List.flatMap_singleton]
  split
  · rename_i here
    rw [List.filter_cons_of_pos here]
    rfl
  · rename_i off
    rw [List.filter_cons_of_neg off]
    rfl

theorem run_alone (p : Combination) (frames : List ThermometerFrame) : (runAlertEngine [p.2] [p.1] frames).events =
    if active p.1 p.2 then p.episode .normal frames else [] := by
  have alone := combinations_alone p
  have owned : ∀ event ∈ (runAlertEngine [p.2] [p.1] frames).events, ∃ q ∈ combinations [p.2] [p.1], q.owns event :=
    run_owned frames ⟨[],[]⟩ fun _ none => absurd none List.not_mem_nil
  split
  · rename_i here
    rw [if_pos here] at alone
    have distinct : ((combinations [p.2] [p.1]).map Combination.key).Nodup := alone ▸ List.nodup_singleton _
    have own : (runAlertEngine [p.2] [p.1] frames).events.filter p.owns = (runAlertEngine [p.2] [p.1] frames).events := by
      refine List.filter_eq_self.mpr fun event member => ?_
      obtain ⟨q,among,owner⟩ := owned event member
      rw [alone] at among
      exact List.mem_singleton.mp among ▸ owner
    rw [← own]
    exact run_active distinct (alone ▸ List.mem_singleton_self p) frames
  · rename_i off
    rw [if_neg off] at alone
    refine List.eq_nil_iff_forall_not_mem.mpr fun event member => ?_
    obtain ⟨q,among,_⟩ := owned event member
    rw [alone] at among
    cases among

theorem step_again (distinct : ((combinations rules recipients).map Combination.key).Nodup) (prev : AlertEngineState)
    (frame : ThermometerFrame) :
    let step := stepAlertEngine prev frame rules recipients
    stepAlertEngine step.states frame rules recipients = ⟨step.states,[]⟩ := by
  dsimp only
  rw [stepAlertEngine_combinations,stepAlertEngine_combinations]
  refine fold_quiet _ fun p member => ?_
  dsimp only
  rw [(fold_advance distinct member frame ⟨prev,[]⟩).1]
  exact advance_again p frame _

theorem runLaw_keys (distinct : Distinct rules recipients) :
    RunLaw rules recipients ↔ ((combinations rules recipients).map Combination.key).Nodup := by
  constructor
  · intro law
    by_contra clash
    obtain ⟨p,member,celsius,hot,silent⟩ := clash_silent distinct clash
    obtain ⟨present,configured,on⟩ := mem_combinations.mp member
    have edges := law.edges p.1 present p.2 configured on [bothAt celsius]
    have high : zones p.2 [bothAt celsius] = [.high] := by simp [zones,bothAt_read,zoneFor,hot]
    rw [silent,high] at edges
    cases edges
  · intro keys
    refine ⟨fun recipient present rule configured on frames => ?_,fun recipient present rule configured off frames => ?_,step_again keys⟩
    · have member : (recipient,rule) ∈ combinations rules recipients := mem_combinations.mpr ⟨present,configured,on⟩
      rw [run_active keys member]
      exact episode_transitions (recipient,rule) .normal frames
    · have given : (recipient,rule).1 ∈ recipients ∧ (recipient,rule).2 ∈ rules := ⟨present,configured⟩
      exact run_silent distinct given off frames

theorem independent_keys (distinct : Distinct rules recipients) :
    Independent rules recipients ↔ ((combinations rules recipients).map Combination.key).Nodup := by
  constructor
  · intro independent
    by_contra clash
    obtain ⟨p,member,celsius,hot,silent⟩ := clash_silent distinct clash
    obtain ⟨present,configured,on⟩ := mem_combinations.mp member
    have same := independent p.1 present p.2 configured [bothAt celsius]
    rw [run_alone,if_pos on,Combination.episode,Combination.episode,List.append_nil,hot_advance hot,silent] at same
    cases same
  · intro keys recipient present rule configured frames
    rw [run_alone (recipient,rule)]
    split
    · rename_i on
      exact run_active keys (mem_combinations.mpr ⟨present,configured,on⟩) frames
    · rename_i off
      have given : (recipient,rule).1 ∈ recipients ∧ (recipient,rule).2 ∈ rules := ⟨present,configured⟩
      exact run_silent distinct given (Bool.not_eq_true _ ▸ off) frames

theorem key_eq_iff : p.key = q.key ↔ p.2.source = q.2.source ∧ p.1.id ++ sep ++ p.2.id = q.1.id ++ sep ++ q.2.id := by
  constructor
  · intro same
    have texts := congrArg String.toList same
    unfold Combination.key ruleStateKey at texts
    rw [sep_parts,sep_parts] at texts
    obtain ⟨before,sources⟩ := Texts.split_last (source_plain _) (source_plain _) texts
    refine ⟨source_inj sources,String.toList_inj.mp ?_⟩
    have colons : sep.toList = [':',':'] := by decide +kernel
    simpa [String.toList_append,colons] using List.append_cancel_right before
  · rintro ⟨source,ids⟩
    have text (p : Combination) : p.key = p.1.id ++ sep ++ p.2.id ++ sep ++ p.2.source.text := rfl
    rw [text,text,ids,source]

def Ambiguous (rules : List AlertRule) (recipients : List AlertRecipient) : Prop :=
  ∃ p ∈ combinations rules recipients, ∃ q ∈ combinations rules recipients, p ≠ q ∧ p.2.source = q.2.source ∧
    p.1.id ++ sep ++ p.2.id = q.1.id ++ sep ++ q.2.id

theorem keys_ambiguous (distinct : Distinct rules recipients) :
    ((combinations rules recipients).map Combination.key).Nodup ↔ ¬ Ambiguous rules recipients := by
  rw [List.nodup_map_iff_inj_on distinct.combinations]
  constructor
  · rintro injective ⟨p,first,q,second,apart,shared⟩
    exact apart (injective p first q second (key_eq_iff.mpr shared))
  · intro clear p first q second same
    by_contra apart
    exact clear ⟨p,first,q,second,apart,key_eq_iff.mp same⟩

-- Without the separator in them, ids are joined to the same text where one colon stands at the
-- end of a recipient's id or at the beginning of a rule's.
def Adjacent (rules : List AlertRule) (recipients : List AlertRecipient) : Prop :=
  ∃ p ∈ combinations rules recipients, ∃ q ∈ combinations rules recipients, p.2.source = q.2.source ∧
    q.1.id = p.1.id ++ ":" ∧ p.2.id = ":" ++ q.2.id

theorem ambiguous_adjacent (distinct : Distinct rules recipients)
    (free : ∀ recipient ∈ recipients, ¬ sep.toList <:+: recipient.id.toList) :
    Ambiguous rules recipients ↔ Adjacent rules recipients := by
  have colons : sep.toList = [':',':'] := by decide +kernel
  constructor
  · rintro ⟨p,first,q,second,apart,source,ids⟩
    have known := mem_combinations.mp first
    have other := mem_combinations.mp second
    have texts : p.1.id.toList ++ ':' :: ':' :: p.2.id.toList = q.1.id.toList ++ ':' :: ':' :: q.2.id.toList := by
      simpa [String.toList_append,colons] using congrArg String.toList ids
    rcases Texts.split_double (colons ▸ free p.1 known.1) (colons ▸ free q.1 other.1) texts with same | longer | shorter
    · exact absurd (distinct.same ⟨known.1,known.2.1⟩ ⟨other.1,other.2.1⟩ (String.toList_inj.mp same.1)
        (String.toList_inj.mp same.2)) apart
    · refine ⟨p,first,q,second,source,String.toList_inj.mp ?_,String.toList_inj.mp ?_⟩
      · rw [String.toList_append,longer.1]
        rfl
      · rw [String.toList_append,longer.2]
        rfl
    · refine ⟨q,second,p,first,source.symm,String.toList_inj.mp ?_,String.toList_inj.mp ?_⟩
      · rw [String.toList_append,shorter.1]
        rfl
      · rw [String.toList_append,shorter.2]
        rfl
  · rintro ⟨p,first,q,second,source,recipientIds,ruleIds⟩
    refine ⟨p,first,q,second,?_,source,?_⟩
    · rintro rfl
      have lengths := congrArg String.length recipientIds
      rw [String.length_append] at lengths
      have one : ":".length = 1 := rfl
      omega
    · rw [recipientIds,ruleIds]
      exact String.toList_inj.mp (by simp [String.toList_append,colons])

-- The run law, for ids without the separator.
theorem run_law_iff (distinct : Distinct rules recipients)
    (free : ∀ recipient ∈ recipients, ¬ sep.toList <:+: recipient.id.toList) :
    RunLaw rules recipients ↔ ¬ Adjacent rules recipients := by
  rw [runLaw_keys distinct,keys_ambiguous distinct,ambiguous_adjacent distinct free]

def band (id : String) : AlertRule := ⟨id,.sensor1,10,30,true,none,"too hot","too cold","back to normal"⟩

def reader (id : String) : AlertRecipient := ⟨id,"amy@lab.org",true⟩

theorem run_law_two : RunLaw [band "r:1",band "r:2"] [reader "amy",reader "bob"] :=
  (run_law_iff ⟨by decide +kernel,by decide +kernel⟩ (by decide +kernel)).mpr (by unfold Adjacent; decide +kernel)

-- "a:" with "b" and "a" with ":b": the last of the four combinations is never alerted.
theorem run_law_colons : Distinct [band "b",band ":b"] [reader "a:",reader "a"] ∧
    (∀ recipient ∈ [reader "a:",reader "a"], ¬ sep.toList <:+: recipient.id.toList) ∧
    (∀ rule ∈ [band "b",band ":b"], ¬ sep.toList <:+: rule.id.toList) ∧
    ¬ RunLaw [band "b",band ":b"] [reader "a:",reader "a"] := by
  refine ⟨⟨by decide +kernel,by decide +kernel⟩,by decide +kernel,by decide +kernel,fun law => ?_⟩
  have edges := law.edges (reader "a") (by simp) (band ":b") (by simp) rfl [bothAt 35]
  revert edges
  decide +kernel

-- Without that on the ids.
theorem independent_iff (distinct : Distinct rules recipients) : Independent rules recipients ↔ ¬ Ambiguous rules recipients := by
  rw [independent_keys distinct,keys_ambiguous distinct]

theorem independent_two : Independent [band "r:1",band "r:2"] [reader "amy",reader "bob"] := by
  have distinct : Distinct [band "r:1",band "r:2"] [reader "amy",reader "bob"] := ⟨by decide +kernel,by decide +kernel⟩
  exact (independent_iff distinct).mpr ((keys_ambiguous distinct).mp (by decide +kernel))

-- "a::b" with "c" finds the state that "a" with "b::c" has left.
theorem independent_separator : Distinct [band "b::c",band "c"] [reader "a",reader "a::b"] ∧
    ¬ Independent [band "b::c",band "c"] [reader "a",reader "a::b"] := by
  refine ⟨⟨by decide +kernel,by decide +kernel⟩,fun independent => ?_⟩
  have same := independent (reader "a::b") (by simp) (band "c") (by simp) [bothAt 35]
  revert same
  decide +kernel

end Thermometer.Frontend.Console
