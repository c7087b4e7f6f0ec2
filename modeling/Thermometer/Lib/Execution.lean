import Mathlib.Data.List.Basic
import Mathlib.Tactic.Common

namespace Thermometer.Execution

variable {σ α : Type}

-- Executable side: a partial step function folded over a list of actions.
def run (step : σ → α → Option σ) : σ → List α → Option σ
  | s,[] => some s
  | s,action :: rest => (step s action).bind (run step · rest)

-- Relational side. The trace keeps every state that was left together with the
-- action taken in it, so that properties may speak about the past of a run.
-- `allowed` restricts the steps of a run; `anyStep` restricts nothing.
inductive Path (step : σ → α → Option σ) (allowed : σ → α → Prop) (start : σ) :
    List (σ × α) → σ → Prop where
  | nil : Path step allowed start [] start
  | snoc : Path step allowed start trace s → allowed s action → step s action = some next →
      Path step allowed start (trace ++ [(s,action)]) next

def anyStep : σ → α → Prop := fun _ _ => True

variable {step : σ → α → Option σ} {allowed : σ → α → Prop} {start s next : σ}

theorem Path.weaken {wider : σ → α → Prop} (path : Path step allowed start trace s)
    (wide : ∀ s action, allowed s action → wider s action) : Path step wider start trace s := by
  induction path with
  | nil => exact .nil
  | snoc _ ok ran ih => exact .snoc ih (wide _ _ ok) ran

theorem Path.unrestricted (path : Path step allowed start trace s) : Path step anyStep start trace s :=
  path.weaken fun _ _ _ => trivial

theorem Path.all_allowed (path : Path step allowed start trace s) : ∀ entry ∈ trace, allowed entry.1 entry.2 := by
  induction path with
  | nil => exact fun _ => nofun
  | snoc _ ok _ ih =>
    simp only [List.forall_mem_append,List.forall_mem_singleton]
    exact ⟨ih,ok⟩

theorem Path.recorded (path : Path step allowed start trace s) :
    Path step (fun s action => allowed s action ∧ (s,action) ∈ trace) start trace s := by
  induction path with
  | nil => exact .nil
  | snoc _ ok ran ih =>
    refine .snoc (ih.weaken fun _ _ taken => ?_) ⟨ok,List.mem_append_right _ (List.mem_singleton.mpr rfl)⟩ ran
    exact ⟨taken.1,List.mem_append_left _ taken.2⟩

-- The induction packaged once: what holds at the start and survives every
-- allowed step holds at the end of every allowed run.
theorem Path.invariant (Inv : σ → Prop) (initial : Inv start)
    (preserved : ∀ s action next, Inv s → allowed s action → step s action = some next → Inv next)
    (path : Path step allowed start trace s) : Inv s := by
  induction path with
  | nil => exact initial
  | snoc _ ok ran ih => exact preserved _ _ _ ih ok ran

-- The same rule for a property that also speaks about the trace behind it.
theorem Path.history (Inv : List (σ × α) → σ → Prop) (initial : Inv [] start)
    (preserved : ∀ trace s action next, Path step allowed start trace s → Inv trace s →
      allowed s action → step s action = some next → Inv (trace ++ [(s,action)]) next)
    (path : Path step allowed start trace s) : Inv trace s := by
  induction path with
  | nil => exact initial
  | snoc prior ok ran ih => exact preserved _ _ _ _ prior ih ok ran

theorem Path.everywhere {Base Good : σ → Prop} {harmless : α → Prop} (path : Path step allowed start trace s)
    (base : Base start) (good : Good start)
    (keeps : ∀ s action next, Base s → allowed s action → step s action = some next → Base next)
    (survives : ∀ s action next, Base s → Good s → allowed s action → step s action = some next →
      (Good next ↔ harmless action)) :
    Base s ∧ ((∀ entry ∈ trace, Good entry.1) ∧ Good s ↔ ∀ entry ∈ trace, harmless entry.2) := by
  induction path with
  | nil => exact ⟨base,by simpa using good⟩
  | @snoc trace s action next _ ok ran ih =>
    obtain ⟨held,everywhere⟩ := ih
    refine ⟨keeps s action next held ok ran,?_⟩
    simp only [List.forall_mem_append,List.forall_mem_singleton]
    constructor
    · rintro ⟨⟨before,here⟩,after⟩
      exact ⟨everywhere.mp ⟨before,here⟩,(survives s action next held here ok ran).mp after⟩
    · rintro ⟨before,harmless⟩
      obtain ⟨earlier,here⟩ := everywhere.mpr before
      exact ⟨⟨earlier,here⟩,(survives s action next held here ok ran).mpr harmless⟩

theorem Path.append {middle : σ} (left : Path step allowed start first middle)
    (right : Path step allowed middle second s) : Path step allowed start (first ++ second) s := by
  induction right with
  | nil => simpa using left
  | snoc _ ok ran ih => simpa only [List.append_assoc] using Path.snoc ih ok ran

theorem Path.upTo (path : Path step allowed start trace s) (recorded : trace = first ++ (middle,action) :: rest) :
    Path step allowed start first middle := by
  induction path generalizing rest with
  | nil => simp at recorded
  | @snoc trace last taken next prior ok ran ih =>
    rcases List.eq_nil_or_concat rest with rfl | ⟨between,final,rfl⟩
    · obtain ⟨rfl,same⟩ := List.append_inj' recorded rfl
      cases same
      exact prior
    · have shifted : trace ++ [(last,taken)] = (first ++ (middle,action) :: between) ++ [final] := by simpa using recorded
      exact ih (List.append_inj' shifted rfl).1

theorem Path.after (path : Path step allowed start trace s) (recorded : trace = first ++ (middle,action) :: rest) :
    ∃ next, step middle action = some next ∧ Path step allowed next rest s := by
  induction path generalizing rest with
  | nil => simp at recorded
  | @snoc trace last taken next prior ok ran ih =>
    rcases List.eq_nil_or_concat rest with rfl | ⟨between,final,rfl⟩
    · obtain ⟨rfl,same⟩ := List.append_inj' recorded rfl
      cases same
      exact ⟨next,ran,.nil⟩
    · have shifted : trace ++ [(last,taken)] = (first ++ (middle,action) :: between) ++ [final] := by simpa using recorded
      obtain ⟨same,ends⟩ := List.append_inj' shifted rfl
      cases ends
      obtain ⟨start,stepped,later⟩ := ih same
      rw [List.concat_eq_append]
      exact ⟨start,stepped,.snoc later ok ran⟩

theorem Path.becomes (path : Path step allowed start trace s) (P : σ → Prop) (before : ¬ P start) (after : P s) :
    ∃ entry ∈ trace, ¬ P entry.1 ∧ ∃ next, step entry.1 entry.2 = some next ∧ P next := by
  induction path with
  | nil => exact absurd after before
  | @snoc trace last taken next _ _ ran ih =>
    by_cases already : P last
    · obtain ⟨entry,member,came⟩ := ih already
      exact ⟨entry,List.mem_append_left _ member,came⟩
    · exact ⟨(last,taken),List.mem_append_right _ (List.mem_singleton.mpr rfl),already,next,ran,after⟩

theorem run_path (ran : run step start actions = some next) :
    ∃ trace, Path step anyStep start trace next ∧ trace.map Prod.snd = actions := by
  have general : ∀ (actions : List α) (s : σ) (done : List (σ × α)), Path step anyStep start done s →
      run step s actions = some next →
      ∃ trace, Path step anyStep start trace next ∧
        trace.map Prod.snd = done.map Prod.snd ++ actions := by
    intro actions
    induction actions with
    | nil =>
      intro s done path ran
      cases Option.some.inj ran
      exact ⟨done,path,by simp⟩
    | cons action rest ih =>
      intro s done path ran
      cases taken : step s action with
      | none => simp [run,taken] at ran
      | some middle =>
        have tail : run step middle rest = some next := by simpa [run,taken] using ran
        obtain ⟨trace,whole,labels⟩ := ih middle _ (.snoc path trivial taken) tail
        exact ⟨trace,whole,by simp [labels]⟩
  simpa using general actions start [] .nil ran

def guarded (step : σ → α → Option σ) (allowed : σ → α → Bool) (s : σ) (action : α) : Option σ :=
  if allowed s action then step s action else none

theorem Path.guarded {allowed : σ → α → Bool} (path : Path (guarded step allowed) anyStep start trace s) :
    Path step (fun s action => allowed s action) start trace s := by
  induction path with
  | nil => exact .nil
  | @snoc _ s action _ _ _ stepped ih =>
    unfold Execution.guarded at stepped
    split at stepped
    · exact .snoc ih ‹_› stepped
    · cases stepped

theorem run_checked {check : σ → Bool} (passed : (run step start actions).any check = true) :
    ∃ trace s, Path step anyStep start trace s ∧ check s = true := by
  obtain ⟨s,ran,holds⟩ := (Option.any_eq_true _ _).mp passed
  obtain ⟨trace,path,_⟩ := run_path ran
  exact ⟨trace,s,path,holds⟩

theorem guarded_checked {allowed : σ → α → Bool} {check : σ → Bool}
    (passed : (run (guarded step allowed) start actions).any check = true) :
    ∃ trace s, Path step (fun s action => allowed s action) start trace s ∧ check s = true := by
  obtain ⟨trace,s,path,holds⟩ := run_checked passed
  exact ⟨trace,s,path.guarded,holds⟩

end Thermometer.Execution
