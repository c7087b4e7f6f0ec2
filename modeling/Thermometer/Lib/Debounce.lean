import Mathlib.Data.List.Chain
import Mathlib.Tactic.Common

-- A filter that follows a sampled level once it has stayed the same for long enough.
namespace Thermometer.Debounce

structure Sample (L : Type) where
  time : Nat
  level : L

structure LevelFilter (L : Type) where
  stable : L
  candidate : L
  since : Nat

variable {L : Type} [DecidableEq L]

def LevelFilter.next (delay : Nat) (filter : LevelFilter L) (sample : Sample L) : LevelFilter L :=
  let since := if sample.level = filter.candidate then filter.since else sample.time
  ⟨if since + delay ≤ sample.time then sample.level else filter.stable,sample.level,since⟩

def after (delay : Nat) (filter : LevelFilter L) (samples : List (Sample L)) : LevelFilter L := samples.foldl (LevelFilter.next delay) filter

def change (delay : Nat) (filter : LevelFilter L) (sample : Sample L) : Option L :=
  if (filter.next delay sample).stable = filter.stable then none else some (filter.next delay sample).stable

def changes (delay : Nat) : LevelFilter L → List (Sample L) → List L
  | _,[] => []
  | filter,sample :: rest => (change delay filter sample).toList ++ changes delay (filter.next delay sample) rest

def Held (delay : Nat) (level : L) (samples : List (Sample L)) (last : Sample L) : Prop :=
  ∃ earlier first rest, samples = earlier ++ first :: rest ∧ (∀ sample ∈ first :: rest, sample.level = level) ∧
    first.time + delay ≤ last.time

variable {delay : Nat} {filter : LevelFilter L} {sample : Sample L} {samples : List (Sample L)} {level : L}

@[simp] theorem next_candidate : (filter.next delay sample).candidate = sample.level := rfl

theorem next_since : (filter.next delay sample).since = if sample.level = filter.candidate then filter.since else sample.time := rfl

theorem next_stable : (filter.next delay sample).stable =
    if (filter.next delay sample).since + delay ≤ sample.time then sample.level else filter.stable := rfl

theorem next_either (delay : Nat) (filter : LevelFilter L) (sample : Sample L) :
    (filter.next delay sample).stable = sample.level ∨ (filter.next delay sample).stable = filter.stable := by
  rw [next_stable]
  split
  · exact .inl rfl
  · exact .inr rfl

@[simp] theorem after_cons : after delay filter (sample :: samples) = after delay (filter.next delay sample) samples := rfl

@[simp] theorem after_append {first second : List (Sample L)} :
    after delay filter (first ++ second) = after delay (after delay filter first) second := List.foldl_append

theorem changes_append {first second : List (Sample L)} : changes delay filter (first ++ second) =
    changes delay filter first ++ changes delay (after delay filter first) second := by
  induction first generalizing filter with
  | nil => rfl
  | cons sample rest ih => rw [List.cons_append,changes,changes,ih,List.append_assoc,after_cons]

theorem change_some : change delay filter sample = some level ↔
    (filter.next delay sample).stable = level ∧ level ≠ filter.stable := by
  unfold change
  split
  · rename_i same
    constructor
    · nofun
    · rintro ⟨rfl,different⟩
      exact absurd same different
  · rename_i different
    constructor
    · intro found
      cases found
      exact ⟨rfl,different⟩
    · rintro ⟨rfl,_⟩
      rfl

theorem mem_changes : level ∈ changes delay filter samples ↔
    ∃ left sample right, samples = left ++ sample :: right ∧ change delay (after delay filter left) sample = some level := by
  induction samples generalizing filter with
  | nil => simp [changes]
  | cons first rest ih =>
    rw [changes,List.mem_append,Option.mem_toList,ih]
    constructor
    · rintro (here | ⟨left,sample,right,rfl,later⟩)
      · exact ⟨[],first,rest,rfl,here⟩
      · exact ⟨first :: left,sample,right,rfl,later⟩
    · rintro ⟨left,sample,right,split,changed⟩
      rcases List.cons_eq_append_iff.mp split with ⟨rfl,same⟩ | ⟨others,rfl,rfl⟩
      · cases same
        exact .inl changed
      · exact .inr ⟨others,sample,right,rfl,changed⟩

theorem changes_alternate : (filter.stable :: changes delay filter samples).IsChain (· ≠ ·) := by
  induction samples generalizing filter with
  | nil => exact .singleton _
  | cons sample rest ih =>
    have later : ((filter.next delay sample).stable :: changes delay (filter.next delay sample) rest).IsChain (· ≠ ·) := ih
    rw [changes]
    cases changed : change delay filter sample with
    | none =>
      have same : (filter.next delay sample).stable = filter.stable := by
        unfold change at changed
        by_contra different
        rw [if_neg different] at changed
        cases changed
      rw [same] at later
      exact later
    | some level =>
      obtain ⟨rfl,different⟩ := change_some.mp changed
      exact .cons_cons (Ne.symm different) later

theorem left_between {between : List (Sample L)} {first second : Sample L} (entered : change delay filter first = some level)
    (again : change delay (after delay (filter.next delay first) between) second = some level) :
    ∃ other ∈ changes delay (filter.next delay first) between, other ≠ level := by
  have alternate : ((filter.next delay first).stable ::
      changes delay (filter.next delay first) (between ++ [second])).IsChain (· ≠ ·) := changes_alternate
  rw [(change_some.mp entered).1,changes_append,changes,again] at alternate
  cases passed : changes delay (filter.next delay first) between with
  | nil =>
    rw [passed] at alternate
    exact absurd rfl (List.isChain_cons_cons.mp alternate).1
  | cons other rest =>
    rw [passed] at alternate
    exact ⟨other,List.mem_cons_self,(List.isChain_cons_cons.mp alternate).1.symm⟩

def Follows (filter : LevelFilter L) (samples : List (Sample L)) : Prop :=
  ∃ earlier first rest, samples = earlier ++ first :: rest ∧ (∀ sample ∈ first :: rest, sample.level = filter.candidate) ∧
    first.time = filter.since

theorem Follows.next (follows : Follows filter samples) (delay : Nat) (sample : Sample L) :
    Follows (filter.next delay sample) (samples ++ [sample]) := by
  by_cases same : sample.level = filter.candidate
  · obtain ⟨earlier,first,rest,rfl,levels,since⟩ := follows
    refine ⟨earlier,first,rest ++ [sample],by simp,?_,?_⟩
    · rw [← List.cons_append]
      simp only [List.forall_mem_append,List.forall_mem_singleton,next_candidate,and_true]
      exact fun other member => (levels other member).trans same.symm
    · simp [LevelFilter.next,same,since]
  · refine ⟨samples,sample,[],rfl,by simp,?_⟩
    simp [LevelFilter.next,same]

theorem Follows.after (follows : Follows filter samples) (delay : Nat) (more : List (Sample L)) :
    Follows (after delay filter more) (samples ++ more) := by
  induction more generalizing filter samples with
  | nil => simpa [Debounce.after] using follows
  | cons sample rest ih =>
    have later := ih (follows.next delay sample)
    simpa using later

theorem Follows.held (follows : Follows filter samples) (changed : change delay filter sample = some level) :
    Held delay level (samples ++ [sample]) sample := by
  obtain ⟨stable,different⟩ := change_some.mp changed
  obtain ⟨earlier,first,rest,split,levels,since⟩ := follows.next delay sample
  have old : (filter.next delay sample).since + delay ≤ sample.time := by
    by_contra early
    apply different
    rw [← stable]
    exact if_neg early
  have entered : sample.level = level := by
    rw [← stable]
    exact (if_pos old).symm
  refine ⟨earlier,first,rest,split,?_,?_⟩
  · rw [← entered]
    exact levels
  · rw [since]
    exact old

theorem stable_kept (levels : ∀ sample ∈ samples, sample.level = level) (stable : filter.stable = level) :
    (after delay filter samples).stable = level := by
  induction samples generalizing filter with
  | nil => exact stable
  | cons sample rest ih =>
    obtain ⟨here,later⟩ := List.forall_mem_cons.mp levels
    apply ih later
    rcases next_either delay filter sample with entered | kept
    · exact entered.trans here
    · exact kept.trans stable

theorem since_kept (levels : ∀ sample ∈ samples, sample.level = level) (candidate : filter.candidate = level) :
    (after delay filter samples).since = filter.since := by
  induction samples generalizing filter with
  | nil => rfl
  | cons sample rest ih =>
    obtain ⟨here,later⟩ := List.forall_mem_cons.mp levels
    rw [after_cons,ih later here,next_since,if_pos (here.trans candidate.symm)]

theorem changes_level (levels : ∀ sample ∈ samples, sample.level = level) : changes delay filter samples =
    if filter.stable ≠ level ∧ (after delay filter samples).stable = level then [level] else [] := by
  induction samples generalizing filter with
  | nil =>
    rw [if_neg]
    · rfl
    · exact fun both => both.1 both.2
  | cons sample rest ih =>
    obtain ⟨here,later⟩ := List.forall_mem_cons.mp levels
    rw [changes,ih later,after_cons]
    have kept : (filter.next delay sample).stable = level → (after delay (filter.next delay sample) rest).stable = level :=
      stable_kept later
    rcases next_either delay filter sample with entered | same
    · have stable := entered.trans here
      rw [if_neg fun both => both.1 stable,List.append_nil]
      unfold change
      rw [stable,kept stable]
      by_cases old : level = filter.stable
      · simp [old]
      · simp [old,Ne.symm old]
    · unfold change
      rw [if_pos same,same]
      rfl

theorem held_stable {first last : Sample L} (ordered : filter.since ≤ first.time)
    (levels : ∀ sample ∈ first :: samples, sample.level = level) (final : (first :: samples).getLast? = some last)
    (long : first.time + delay ≤ last.time) : (after delay filter (first :: samples)).stable = level := by
  obtain ⟨here,later⟩ := List.forall_mem_cons.mp levels
  have since : (after delay filter (first :: samples)).since ≤ first.time := by
    rw [after_cons,since_kept later here,next_since]
    split
    · exact ordered
    · exact le_rfl
  obtain ⟨init,split⟩ := List.getLast?_eq_some_iff.mp final
  rw [split,List.forall_mem_append,List.forall_mem_singleton] at levels
  rw [split,after_append,after_cons] at since ⊢
  change ((after delay filter init).next delay last).since ≤ _ at since
  change ((after delay filter init).next delay last).stable = _
  rw [next_stable,if_pos (by omega)]
  exact levels.2

end Thermometer.Debounce
