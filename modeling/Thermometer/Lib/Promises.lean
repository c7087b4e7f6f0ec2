import Mathlib.Data.List.Basic

-- Numbered promises: each is pending until it gets an outcome, and keeps the first one.
namespace Thermometer.Promises

variable {β : Type}

abbrev Table (β : Type) := Nat → Option β

def settle (table : Table β) (n : Nat) (outcome : β) : Table β :=
  fun m => if m = n then some ((table m).getD outcome) else table m

def settleAll (table : Table β) : List Nat → β → Table β
  | [],_ => table
  | n :: rest,outcome => settleAll (settle table n outcome) rest outcome

def Keeps (before after : Table β) : Prop := ∀ n outcome, before n = some outcome → after n = some outcome

variable {table before middle after : Table β} {n m : Nat} {outcome : β}

theorem Keeps.refl (table : Table β) : Keeps table table := fun _ _ settled => settled

theorem Keeps.trans (first : Keeps before middle) (second : Keeps middle after) : Keeps before after :=
  fun n outcome settled => second n outcome (first n outcome settled)

theorem settle_other (different : m ≠ n) : settle table n outcome m = table m := if_neg different

theorem settle_pending (pending : table n = none) : settle table n outcome n = some outcome := by
  rw [settle,if_pos rfl,pending]
  rfl

theorem settle_keeps (table : Table β) (n : Nat) (outcome : β) : Keeps table (settle table n outcome) := by
  intro m first settled
  by_cases same : m = n
  · rw [settle,if_pos same,settled]
    rfl
  · rw [settle_other same]
    exact settled

theorem settle_cases (found : settle table n outcome m = some held) : table m = some held ∨ (m = n ∧ held = outcome) := by
  by_cases same : m = n
  · rw [settle,if_pos same] at found
    cases known : table m with
    | none =>
      rw [known] at found
      exact .inr ⟨same,(Option.some.inj found).symm⟩
    | some first =>
      rw [known] at found
      exact .inl found
  · rw [settle_other same] at found
    exact .inl found

theorem pending_of_settle (pending : settle table n outcome m = none) : table m = none ∧ m ≠ n := by
  by_cases same : m = n
  · rw [settle,if_pos same] at pending
    cases pending
  · rw [settle_other same] at pending
    exact ⟨pending,same⟩

theorem settleAll_keeps (table : Table β) (numbers : List Nat) (outcome : β) : Keeps table (settleAll table numbers outcome) := by
  induction numbers generalizing table with
  | nil => exact Keeps.refl table
  | cons n rest ih => exact (settle_keeps table n outcome).trans (ih _)

theorem settleAll_cases {numbers : List Nat} (found : settleAll table numbers outcome m = some held) :
    table m = some held ∨ (m ∈ numbers ∧ held = outcome) := by
  induction numbers generalizing table with
  | nil => exact .inl found
  | cons n rest ih =>
    rcases ih found with before | ⟨among,new⟩
    · rcases settle_cases before with old | ⟨same,new⟩
      · exact .inl old
      · exact .inr ⟨same ▸ List.mem_cons_self,new⟩
    · exact .inr ⟨List.mem_cons_of_mem _ among,new⟩

theorem pending_of_settleAll {numbers : List Nat} (pending : settleAll table numbers outcome m = none) :
    table m = none ∧ m ∉ numbers := by
  induction numbers generalizing table with
  | nil => exact ⟨pending,List.not_mem_nil⟩
  | cons n rest ih =>
    obtain ⟨before,later⟩ := ih pending
    obtain ⟨old,different⟩ := pending_of_settle before
    exact ⟨old,List.not_mem_cons_of_ne_of_not_mem different later⟩

theorem settleAll_settled {numbers : List Nat} (among : n ∈ numbers) : (settleAll table numbers outcome n).isSome := by
  cases pending : settleAll table numbers outcome n with
  | none => exact absurd among (pending_of_settleAll pending).2
  | some held => rfl

end Thermometer.Promises
