import Mathlib.Data.List.Infix
import Mathlib.Tactic.Common

-- Spaces around texts, and their beginnings and ends, to tell composed names apart; these
-- are compared as bytes.
namespace Thermometer.Texts

-- `str.isspace` of one character, and `str.strip`.
def isSpace (c : Char) : Bool :=
  (9 ≤ c.toNat && c.toNat ≤ 13) || (28 ≤ c.toNat && c.toNat ≤ 32) || (0x2000 ≤ c.toNat && c.toNat ≤ 0x200a) ||
    [0x85,0xa0,0x1680,0x2028,0x2029,0x202f,0x205f,0x3000].contains c.toNat

def strip (text : String) : String :=
  String.ofList ((text.toList.dropWhile isSpace).reverse.dropWhile isSpace).reverse

def bytes (text : String) : List UInt8 := text.toByteArray.data.toList

def begins (start text : String) : Bool := (bytes start).isPrefixOf (bytes text)

def ends (tail text : String) : Bool := (bytes tail).isSuffixOf (bytes text)

variable {a b text : String}

theorem bytes_append (a b : String) : bytes (a ++ b) = bytes a ++ bytes b := by simp [bytes]

theorem begins_iff : begins a text ↔ bytes a <+: bytes text := List.isPrefixOf_iff_prefix

theorem ends_iff : ends a text ↔ bytes a <:+ bytes text := List.isSuffixOf_iff_suffix

theorem begins_append (a rest : String) : begins a (a ++ rest) := by
  rw [begins_iff,bytes_append]
  exact List.prefix_append _ _

theorem begins_append_left (rest : String) (start : begins a text) : begins a (text ++ rest) := by
  rw [begins_iff] at start ⊢
  rw [bytes_append]
  exact start.trans (List.prefix_append _ _)

theorem ends_append (start a : String) : ends a (start ++ a) := by
  rw [ends_iff,bytes_append]
  exact List.suffix_append _ _

theorem begins_comparable (first : begins a text) (second : begins b text) : begins a b ∨ begins b a := by
  rw [begins_iff] at first second
  rw [begins_iff,begins_iff]
  exact List.prefix_or_prefix_of_prefix first second

theorem ends_comparable (first : ends a text) (second : ends b text) : ends a b ∨ ends b a := by
  rw [ends_iff] at first second
  rw [ends_iff,ends_iff]
  exact List.suffix_or_suffix_of_suffix first second

theorem not_both_begin (apart : (begins a b || begins b a) = false) (first : begins a text) : ¬ begins b text := by
  intro second
  rw [Bool.or_eq_false_iff] at apart
  rcases begins_comparable first second with start | start
  · exact Bool.false_ne_true (apart.1.symm.trans start)
  · exact Bool.false_ne_true (apart.2.symm.trans start)

theorem not_both_end (apart : (ends a b || ends b a) = false) (first : ends a text) : ¬ ends b text := by
  intro second
  rw [Bool.or_eq_false_iff] at apart
  rcases ends_comparable first second with tail | tail
  · exact Bool.false_ne_true (apart.1.symm.trans tail)
  · exact Bool.false_ne_true (apart.2.symm.trans tail)

theorem split_last {α : Type} {mark : α} {before behind before' behind' : List α} (plain : mark ∉ behind) (plain' : mark ∉ behind')
    (same : before ++ mark :: behind = before' ++ mark :: behind') : before = before' ∧ behind = behind' := by
  rcases List.append_eq_append_iff.mp same with ⟨rest,rfl,tail⟩ | ⟨rest,rfl,tail⟩
  · cases rest with
    | nil => exact ⟨(List.append_nil _).symm,(List.cons.inj tail).2⟩
    | cons first rest =>
      have inside := (List.cons.inj tail).2
      exact absurd (inside ▸ List.mem_append_right rest List.mem_cons_self) plain
  · cases rest with
    | nil => exact ⟨List.append_nil _,(List.cons.inj tail).2.symm⟩
    | cons first rest =>
      have inside := (List.cons.inj tail).2
      exact absurd (inside ▸ List.mem_append_right rest List.mem_cons_self) plain'

-- Two ways to see a doubled mark, where it is the first one: they can only overlap.
theorem split_double {α : Type} {mark : α} {before behind before' behind' : List α} (plain : ¬ [mark,mark] <:+: before)
    (plain' : ¬ [mark,mark] <:+: before') (same : before ++ mark :: mark :: behind = before' ++ mark :: mark :: behind') :
    (before = before' ∧ behind = behind') ∨ (before' = before ++ [mark] ∧ behind = mark :: behind') ∨
      (before = before' ++ [mark] ∧ behind' = mark :: behind) := by
  have overlap {first later tail tail' : List α} (free : ¬ [mark,mark] <:+: later) (rest : List α) (longer : later = first ++ rest)
      (tails : mark :: mark :: tail = rest ++ mark :: mark :: tail') :
      (first = later ∧ tail = tail') ∨ (later = first ++ [mark] ∧ tail = mark :: tail') := by
    match rest with
    | [] => exact .inl ⟨(longer.trans (List.append_nil _)).symm,(List.cons.inj (List.cons.inj tails).2).2⟩
    | [one] =>
      obtain ⟨head,behind⟩ := List.cons.inj tails
      exact .inr ⟨head ▸ longer,(List.cons.inj behind).2⟩
    | one :: two :: more =>
      obtain ⟨head,behind⟩ := List.cons.inj tails
      obtain ⟨second,_⟩ := List.cons.inj behind
      refine absurd ⟨first,more,?_⟩ free
      rw [longer,← head,← second]
      simp
  rcases List.append_eq_append_iff.mp same with ⟨rest,longer,tails⟩ | ⟨rest,longer,tails⟩
  · rcases overlap plain' rest longer tails with same | shifted
    · exact .inl same
    · exact .inr (.inl shifted)
  · rcases overlap plain rest longer tails with same | shifted
    · exact .inl ⟨same.1.symm,same.2.symm⟩
    · exact .inr (.inr shifted)

theorem repr_inj {m n : Nat} (same : Nat.repr m = Nat.repr n) : m = n := by
  have digits := congrArg String.toList same
  rw [Nat.toList_repr,Nat.toList_repr] at digits
  rw [← Nat.ofDigitChars_ten_toDigits (n := m),digits,Nat.ofDigitChars_ten_toDigits]

end Thermometer.Texts
