import Mathlib.Data.List.Nodup
import Mathlib.Tactic.Common

namespace Thermometer.OrderedMap

variable {κ ν : Type} [DecidableEq κ] {entries : List (κ × ν)} {key : κ} {value : ν}

-- A map that remembers the order in which its keys came: assigning to a known key
-- keeps its place.
def assign (entries : List (κ × ν)) (key : κ) (value : ν) : List (κ × ν) :=
  if key ∈ entries.map Prod.fst then entries.map fun entry => if entry.1 = key then (key,value) else entry
  else entries ++ [(key,value)]

def assignAll (entries : List (κ × ν)) (more : List (κ × ν)) : List (κ × ν) :=
  more.foldl (fun entries entry => assign entries entry.1 entry.2) entries

theorem assign_fresh (fresh : key ∉ entries.map Prod.fst) : assign entries key value = entries ++ [(key,value)] :=
  if_neg fresh

theorem mem_assign (member : entry ∈ assign entries key value) : entry = (key,value) ∨ entry ∈ entries := by
  unfold assign at member
  split at member
  · obtain ⟨old,present,equal⟩ := List.mem_map.mp member
    split at equal
    · exact .inl equal.symm
    · exact .inr (equal ▸ present)
  · rcases List.mem_append.mp member with old | new
    · exact .inr old
    · exact .inl (List.mem_singleton.mp new)

theorem mem_assign_self (entries : List (κ × ν)) (key : κ) (value : ν) : (key,value) ∈ assign entries key value := by
  unfold assign
  split
  · rename_i known
    obtain ⟨old,present,same⟩ := List.mem_map.mp known
    exact List.mem_map.mpr ⟨old,present,if_pos same⟩
  · exact List.mem_append_right _ List.mem_cons_self

theorem mem_assign_other (member : entry ∈ entries) (other : entry.1 ≠ key) : entry ∈ assign entries key value := by
  unfold assign
  split
  · exact List.mem_map.mpr ⟨entry,member,if_neg other⟩
  · exact List.mem_append_left _ member

theorem mem_assignAll (member : entry ∈ assignAll entries more) : entry ∈ more ∨ entry ∈ entries := by
  induction more generalizing entries with
  | nil => exact .inr member
  | cons first rest ih =>
    rcases ih member with later | now
    · exact .inl (List.mem_cons_of_mem _ later)
    · rcases mem_assign now with rfl | old
      · exact .inl List.mem_cons_self
      · exact .inr old

theorem assign_nodup (distinct : (entries.map Prod.fst).Nodup) : ((assign entries key value).map Prod.fst).Nodup := by
  unfold assign
  split
  · have same : (fun entry : κ × ν => (if entry.1 = key then (key,value) else entry).1) = Prod.fst := by
      funext entry
      by_cases known : entry.1 = key <;> simp [known]
    rw [List.map_map]
    change (entries.map fun entry => (if entry.1 = key then (key,value) else entry).1).Nodup
    rw [same]
    exact distinct
  · rename_i fresh
    rw [List.map_append,List.map_singleton]
    exact List.Nodup.append distinct (List.nodup_singleton key) (List.disjoint_singleton.mpr fresh)

theorem assignAll_nodup (more : List (κ × ν)) (distinct : (entries.map Prod.fst).Nodup) :
    ((assignAll entries more).map Prod.fst).Nodup := by
  induction more generalizing entries with
  | nil => exact distinct
  | cons first rest ih => exact ih (assign_nodup distinct)

omit [DecidableEq κ] in
theorem value_unique (distinct : (entries.map Prod.fst).Nodup) (first : (key,value) ∈ entries)
    (second : (key,other) ∈ entries) : value = other := by
  have same := List.inj_on_of_nodup_map distinct first second rfl
  exact (Prod.mk.inj same).2

omit [DecidableEq κ] in
theorem entry_unique (distinct : (entries.map Prod.fst).Nodup) (first : entry ∈ entries) (second : other ∈ entries)
    (same : entry.1 = other.1) : entry = other :=
  List.inj_on_of_nodup_map distinct first second same

theorem assignAll_fresh (distinct : (more.map Prod.fst).Nodup)
    (fresh : ∀ key ∈ more.map Prod.fst, key ∉ entries.map Prod.fst) :
    assignAll entries more = entries ++ more := by
  induction more generalizing entries with
  | nil => simp [assignAll]
  | cons first rest ih =>
    rw [List.map_cons,List.nodup_cons] at distinct
    have new : first.1 ∉ entries.map Prod.fst := fresh _ (by simp)
    have later : ∀ key ∈ rest.map Prod.fst, key ∉ (entries ++ [(first.1,first.2)]).map Prod.fst := by
      intro key member
      have old := fresh key (by simp [member])
      have other : key ≠ first.1 := fun equal => distinct.1 (equal ▸ member)
      simp only [List.map_append,List.map_cons,List.map_nil,List.mem_append,List.mem_singleton,not_or]
      exact ⟨old,other⟩
    calc assignAll entries (first :: rest)
        = assignAll (assign entries first.1 first.2) rest := rfl
      _ = assignAll (entries ++ [(first.1,first.2)]) rest := by rw [assign_fresh new]
      _ = (entries ++ [(first.1,first.2)]) ++ rest := ih distinct.2 later
      _ = entries ++ first :: rest := by simp

theorem assign_cons_other {first : κ × ν} (other : first.1 ≠ key) (rest : List (κ × ν)) (value : ν) :
    assign (first :: rest) key value = first :: assign rest key value := by
  unfold assign
  by_cases known : key ∈ rest.map Prod.fst
  · simp [known,other]
  · simp [known,Ne.symm other]

theorem lookup_assign_self (entries : List (κ × ν)) (key : κ) (value : ν) : (assign entries key value).lookup key = some value := by
  induction entries with
  | nil => simp [assign]
  | cons first rest ih =>
    by_cases here : first.1 = key
    · simp [assign,here]
    · have other : (key == first.1) = false := beq_false_of_ne (Ne.symm here)
      rw [assign_cons_other here,List.lookup_cons,other]
      exact ih

theorem lookup_assign_other (other : asked ≠ key) (entries : List (κ × ν)) (value : ν) :
    (assign entries key value).lookup asked = entries.lookup asked := by
  have apart : (asked == key) = false := beq_false_of_ne other
  unfold assign
  split
  · clear * - other apart
    induction entries with
    | nil => rfl
    | cons first rest ih =>
      rw [List.map_cons,List.lookup_cons,List.lookup_cons,ih]
      by_cases here : first.1 = key
      · rw [if_pos here,here,apart]
      · rw [if_neg here]
  · rw [List.lookup_append,List.lookup_cons,apart]
    exact Option.or_none

end Thermometer.OrderedMap
