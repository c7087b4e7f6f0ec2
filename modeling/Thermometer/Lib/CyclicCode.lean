import Mathlib.Algebra.CharP.Two
import Mathlib.Algebra.Field.ZMod
import Mathlib.Algebra.Polynomial.FieldDivision
import Mathlib.Tactic.LinearCombination

-- Checksums of a shift register as division of polynomials over the field of two elements.
namespace Thermometer.CyclicCode
open Polynomial

-- The first bit has the highest power.
noncomputable def polynomial : List Bool → (ZMod 2)[X]
  | [] => 0
  | bit :: rest => (if bit then X ^ rest.length else 0) + polynomial rest

variable {w : Nat} {first second : List Bool}

theorem polynomial_append (first second : List Bool) :
    polynomial (first ++ second) = polynomial first * X ^ second.length + polynomial second := by
  induction first with
  | nil => simp [polynomial]
  | cons bit rest ih =>
    rw [List.cons_append,polynomial,polynomial,ih,List.length_append,pow_add]
    cases bit <;> simp [add_mul,add_assoc]

theorem polynomial_silent (n : Nat) : polynomial (List.replicate n false) = 0 := by
  induction n with
  | zero => rfl
  | succ n ih => simp [List.replicate_succ,polynomial,ih]

theorem degree_polynomial (bits : List Bool) : (polynomial bits).degree < bits.length := by
  induction bits with
  | nil => simp [polynomial]
  | cons bit rest ih =>
    have later : (polynomial rest).degree < (rest.length + 1 : Nat) :=
      ih.trans (by exact_mod_cast Nat.lt_succ_self _)
    rw [polynomial,List.length_cons]
    refine lt_of_le_of_lt (degree_add_le _ _) (max_lt ?_ later)
    cases bit with
    | false => simp
    | true =>
      rw [if_pos rfl,degree_X_pow]
      exact_mod_cast Nat.lt_succ_self _

theorem polynomial_zero {bits : List Bool} (zero : polynomial bits = 0) : true ∉ bits := by
  induction bits with
  | nil => exact List.not_mem_nil
  | cons bit rest ih =>
    have leading : (polynomial (bit :: rest)).coeff rest.length = if bit then 1 else 0 := by
      rw [polynomial,coeff_add,coeff_eq_zero_of_degree_lt (degree_polynomial rest),add_zero]
      cases bit <;> simp
    rw [zero,coeff_zero] at leading
    cases bit with
    | true => simp at leading
    | false =>
      have later : polynomial rest = 0 := by simpa [polynomial] using zero
      simpa using ih later

theorem polynomial_xor (first second : List Bool) (aligned : first.length = second.length) :
    polynomial (List.zipWith xor first second) = polynomial first + polynomial second := by
  induction first generalizing second with
  | nil =>
    cases second with
    | nil => simp [polynomial]
    | cons => cases aligned
  | cons bit rest ih =>
    cases second with
    | nil => cases aligned
    | cons other later =>
      have same : rest.length = later.length := Nat.succ.inj aligned
      rw [List.zipWith_cons_cons,polynomial,polynomial,polynomial,ih later same,List.length_zipWith,← same,Nat.min_self]
      have twice : (X ^ rest.length + X ^ rest.length : (ZMod 2)[X]) = 0 := CharTwo.add_self_eq_zero _
      cases bit <;> cases other <;> simp only [Bool.xor_false,Bool.xor_true,Bool.not_false,Bool.not_true,if_true,if_false,Bool.false_eq_true]
      · ring
      · ring
      · ring
      · linear_combination -twice

-- Low bit first.
def bits (register : BitVec w) : List Bool := List.ofFn fun i : Fin w => register[i]

def shift (generator register : BitVec w) : BitVec w :=
  if register.getLsbD 0 then register >>> 1 ^^^ generator else register >>> 1

def absorb (generator register : BitVec w) (bit : Bool) : BitVec w :=
  shift generator (register ^^^ (BitVec.ofBool bit).setWidth w)

def feed (generator register : BitVec w) (message : List Bool) : BitVec w :=
  message.foldl (absorb generator) register

@[simp] theorem feed_append (generator register : BitVec w) (first second : List Bool) :
    feed generator register (first ++ second) = feed generator (feed generator register first) second := List.foldl_append

@[simp] theorem length_bits (register : BitVec w) : (bits register).length = w := List.length_ofFn

theorem bits_xor (a b : BitVec w) : bits (a ^^^ b) = List.zipWith xor (bits a) (bits b) := by
  apply List.ext_getElem
  · simp
  · intro i _ _
    simp [bits]

theorem bits_injective : Function.Injective (bits (w := w)) := by
  intro a b same
  apply BitVec.eq_of_getElem_eq
  intro i inside
  have here := congrFun (List.ofFn_injective same) ⟨i,inside⟩
  exact here

@[simp] theorem bits_zero : bits (0 : BitVec w) = List.replicate w false := by
  rw [List.eq_replicate_iff]
  simp [bits]

theorem bits_low (register : BitVec (w + 1)) :
    bits register = register.getLsbD 0 :: List.ofFn fun i : Fin w => register.getLsbD (i + 1) := by
  rw [bits,List.ofFn_succ]
  rfl

theorem bits_shift (register : BitVec (w + 1)) :
    bits (register >>> 1) = (List.ofFn fun i : Fin w => register.getLsbD (i + 1)) ++ [false] := by
  have last : (register >>> 1).getLsbD w = false := by
    rw [BitVec.getLsbD_ushiftRight]
    exact BitVec.getLsbD_of_ge _ _ (by omega)
  have low (i : Fin w) : (register >>> 1).getLsbD i = register.getLsbD (i + 1) := by
    rw [BitVec.getLsbD_ushiftRight,Nat.add_comm 1 i.val]
  rw [bits,List.ofFn_succ',List.concat_eq_append]
  exact congrArg₂ (· ++ [·]) (congrArg List.ofFn (funext low)) last

theorem polynomial_bits_zero {register : BitVec w} : polynomial (bits register) = 0 ↔ register = 0 := by
  constructor
  · intro zero
    apply bits_injective
    rw [bits_zero,List.eq_replicate_iff]
    refine ⟨length_bits register,fun bit member => Bool.eq_false_iff.mpr fun set => ?_⟩
    exact polynomial_zero zero (set ▸ member)
  · rintro rfl
    rw [bits_zero,polynomial_silent]

theorem bits_bit (bit : Bool) : bits ((BitVec.ofBool bit).setWidth (w + 1)) = bit :: List.replicate w false := by
  rw [bits_low]
  cases bit <;> simp

noncomputable def divisor (generator : BitVec w) : (ZMod 2)[X] := X ^ w + polynomial (bits generator)

theorem divisor_monic (generator : BitVec w) : (divisor generator).Monic := by
  apply monic_X_pow_add
  simpa using degree_polynomial (bits generator)

theorem divisor_degree (generator : BitVec w) : (divisor generator).degree = w := by
  rw [divisor,degree_add_eq_left_of_degree_lt,degree_X_pow]
  rw [degree_X_pow]
  simpa using degree_polynomial (bits generator)

-- A clock multiplies by X and takes the divisor off when the low bit falls out.
theorem polynomial_shift (generator register : BitVec (w + 1)) : polynomial (bits (shift generator register)) =
    X * polynomial (bits register) + if register.getLsbD 0 then divisor generator else 0 := by
  have lowest : polynomial (bits register) = (if register.getLsbD 0 then X ^ w else 0) +
      polynomial (List.ofFn fun i : Fin w => register.getLsbD (i + 1)) := by
    rw [bits_low,polynomial,List.length_ofFn]
  have shifted : polynomial (bits (register >>> 1)) =
      X * polynomial (List.ofFn fun i : Fin w => register.getLsbD (i + 1)) := by
    rw [bits_shift,polynomial_append]
    simp [polynomial,mul_comm]
  have twice : (X ^ (w + 1) + X ^ (w + 1) : (ZMod 2)[X]) = 0 := CharTwo.add_self_eq_zero _
  rw [shift,lowest]
  split
  · rw [bits_xor,polynomial_xor _ _ (by simp),shifted,divisor]
    linear_combination -twice
  · rw [shifted,zero_add,add_zero]

theorem polynomial_absorb (generator register : BitVec (w + 1)) (bit : Bool) :
    divisor generator ∣ polynomial (bits (absorb generator register bit)) -
      (X * polynomial (bits register) + if bit then X ^ (w + 1) else 0) := by
  have mixed : polynomial (bits (register ^^^ (BitVec.ofBool bit).setWidth (w + 1))) =
      polynomial (bits register) + if bit then X ^ w else 0 := by
    rw [bits_xor,polynomial_xor _ _ (by simp),bits_bit,polynomial,polynomial_silent,List.length_replicate,add_zero]
  have split : polynomial (bits (absorb generator register bit)) -
      (X * polynomial (bits register) + if bit then X ^ (w + 1) else 0) =
        if (register ^^^ (BitVec.ofBool bit).setWidth (w + 1)).getLsbD 0 then divisor generator else 0 := by
    rw [absorb,polynomial_shift,mixed]
    cases bit <;> simp only [if_true,if_false,Bool.false_eq_true] <;> ring
  rw [split]
  split
  · exact dvd_rfl
  · exact dvd_zero _

-- The register holds, up to a multiple of the divisor, the message behind what it held.
theorem polynomial_feed (generator register : BitVec (w + 1)) (message : List Bool) :
    divisor generator ∣ polynomial (bits (feed generator register message)) -
      (X ^ message.length * polynomial (bits register) + X ^ (w + 1) * polynomial message) := by
  induction message generalizing register with
  | nil => simp [feed,polynomial]
  | cons bit rest ih =>
    have first := polynomial_absorb generator register bit
    have later := ih (absorb generator register bit)
    have both := dvd_add later (Dvd.dvd.mul_left first (X ^ rest.length))
    convert both using 1
    rw [polynomial,List.length_cons]
    change polynomial (bits (feed generator (absorb generator register bit) rest)) - _ = _
    cases bit <;> simp <;> ring

theorem feed_zero {generator register : BitVec (w + 1)} {message : List Bool} : feed generator register message = 0 ↔
    divisor generator ∣ X ^ message.length * polynomial (bits register) + X ^ (w + 1) * polynomial message := by
  have related := polynomial_feed generator register message
  constructor
  · intro zero
    rw [polynomial_bits_zero.mpr zero,zero_sub,dvd_neg] at related
    exact related
  · intro divides
    have divided := (dvd_sub_left divides).mp related
    have small : (polynomial (bits (feed generator register message))).degree < (divisor generator).degree := by
      rw [divisor_degree]
      simpa using degree_polynomial (bits (feed generator register message))
    exact polynomial_bits_zero.mp (eq_zero_of_dvd_of_degree_lt divided small)

theorem feed_remainder (generator : BitVec (w + 1)) (message : List Bool) :
    polynomial (bits (feed generator 0 message)) = X ^ (w + 1) * polynomial message %ₘ divisor generator := by
  have related := polynomial_feed generator 0 message
  rw [polynomial_bits_zero.mpr rfl,mul_zero,zero_add] at related
  have small : (polynomial (bits (feed generator 0 message))).degree < (divisor generator).degree := by
    rw [divisor_degree]
    simpa using degree_polynomial (bits (feed generator 0 message))
  have reduced := (modByMonic_eq_self_iff (divisor_monic generator)).mpr small
  rw [← reduced]
  exact modByMonic_eq_of_dvd_sub (divisor_monic generator) related

def Burst (longest : Nat) (errors : List Bool) : Prop :=
  ∃ before burst after, errors = List.replicate before false ++ burst ++ List.replicate after false ∧
    burst.length ≤ longest ∧ true ∈ burst

theorem divisor_coprime {generator : BitVec (w + 1)} (top : generator.getLsbD w = true) (n : Nat) :
    IsCoprime (divisor generator) (X ^ n : (ZMod 2)[X]) := by
  have last : bits generator = (List.ofFn fun i : Fin w => generator.getLsbD i) ++ [true] := by
    rw [bits,List.ofFn_succ',List.concat_eq_append]
    exact congrArg₂ (· ++ [·]) rfl top
  have constant : (divisor generator).coeff 0 = 1 := by
    simp [divisor,last,polynomial_append,polynomial]
  have parts : X * divX (divisor generator) + 1 = divisor generator := by
    simpa [constant] using X_mul_divX_add (divisor generator)
  exact IsCoprime.pow_right ⟨1,-divX (divisor generator),by linear_combination -parts⟩

theorem feed_own {generator : BitVec (w + 1)} (top : generator.getLsbD w = true) {register other : BitVec (w + 1)} :
    feed generator register (bits other) = 0 ↔ register = other := by
  have together : X ^ (w + 1) * polynomial (bits register) + X ^ (w + 1) * polynomial (bits other) =
      X ^ (w + 1) * polynomial (bits (register ^^^ other)) := by
    rw [bits_xor,polynomial_xor _ _ (by simp),mul_add]
  rw [feed_zero,length_bits,together]
  constructor
  · intro divided
    have small : (polynomial (bits (register ^^^ other))).degree < (divisor generator).degree := by
      rw [divisor_degree]
      simpa using degree_polynomial (bits (register ^^^ other))
    have part := (divisor_coprime top _).dvd_of_dvd_mul_left divided
    exact BitVec.xor_eq_zero_iff.mp (polynomial_bits_zero.mp (eq_zero_of_dvd_of_degree_lt part small))
  · rintro rfl
    have silent : polynomial (bits (register ^^^ register)) = 0 := polynomial_bits_zero.mpr BitVec.xor_self
    rw [silent,mul_zero]
    exact dvd_zero _

theorem shift_xor (generator a b : BitVec w) : shift generator (a ^^^ b) = shift generator a ^^^ shift generator b := by
  unfold shift
  rw [BitVec.getLsbD_xor,BitVec.ushiftRight_xor_distrib]
  cases a.getLsbD 0 <;> cases b.getLsbD 0 <;>
    simp only [Bool.xor_false,Bool.xor_true,Bool.not_false,Bool.not_true,if_true,if_false,Bool.false_eq_true]
  · exact BitVec.xor_assoc _ _ _
  · ac_rfl
  · -- Taken off on both sides, the generator cancels.
    have cancel : generator ^^^ (b >>> 1 ^^^ generator) = b >>> 1 := by
      rw [BitVec.xor_comm,BitVec.xor_assoc,BitVec.xor_self,BitVec.xor_zero]
    rw [BitVec.xor_assoc,cancel]

theorem absorb_xor (generator a b : BitVec w) (first second : Bool) :
    absorb generator (a ^^^ b) (xor first second) = absorb generator a first ^^^ absorb generator b second := by
  have bits : BitVec.ofBool (xor first second) = BitVec.ofBool first ^^^ BitVec.ofBool second := by
    cases first <;> cases second <;> rfl
  rw [absorb,absorb,absorb,← shift_xor,bits,BitVec.setWidth_xor]
  congr 1
  ac_rfl

theorem feed_xor (generator a b : BitVec w) {first second : List Bool} (aligned : first.length = second.length) :
    feed generator (a ^^^ b) (List.zipWith xor first second) = feed generator a first ^^^ feed generator b second := by
  induction first generalizing a b second with
  | nil =>
    cases second with
    | nil => rfl
    | cons => cases aligned
  | cons bit rest ih =>
    cases second with
    | nil => cases aligned
    | cons other later =>
      have same := ih (absorb generator a bit) (absorb generator b other) (Nat.succ.inj aligned)
      rw [← absorb_xor] at same
      exact same

theorem burst_detected {generator : BitVec (w + 1)} (top : generator.getLsbD w = true) {errors : List Bool}
    (burst : Burst (w + 1) errors) : feed generator 0 errors ≠ 0 := by
  obtain ⟨before,burst,after,rfl,short,error⟩ := burst
  intro silent
  have divided := feed_zero.mp silent
  rw [polynomial_bits_zero.mpr rfl,mul_zero,zero_add,polynomial_append,polynomial_append,polynomial_silent,polynomial_silent,
    zero_mul,zero_add,add_zero] at divided
  have whole := (divisor_coprime top _).dvd_of_dvd_mul_left divided
  have part := (divisor_coprime top _).dvd_of_dvd_mul_right whole
  apply polynomial_zero (eq_zero_of_dvd_of_degree_lt part _) error
  rw [divisor_degree]
  exact (degree_polynomial burst).trans_le (by exact_mod_cast short)

theorem burst_audible {generator : BitVec (w + 1)} (top : generator.getLsbD w = true) {message errors : List Bool}
    (aligned : message.length = errors.length) (valid : feed generator 0 message = 0) (burst : Burst (w + 1) errors) :
    feed generator 0 (List.zipWith xor message errors) ≠ 0 := by
  intro silent
  have both := feed_xor generator 0 0 aligned
  have zero (register : BitVec (w + 1)) : 0 ^^^ register = register := BitVec.zero_xor
  rw [valid,zero,zero,silent] at both
  exact burst_detected top burst both.symm

theorem burst_of_window {error : Nat → Bool} {start longest n : Nat}
    (window : ∀ place, error place = true → start ≤ place ∧ place < start + longest)
    (hit : ∃ place < n, error place = true) : Burst longest ((List.range n).map error) := by
  obtain ⟨place,inside,wrong⟩ := hit
  obtain ⟨low,high⟩ := window place wrong
  have silent (k : Nat) (outside : k < start ∨ start + longest ≤ k) : error k = false := by
    refine Bool.eq_false_iff.mpr fun set => ?_
    have := window k set
    omega
  have quiet (first count : Nat) (outside : ∀ k, first ≤ k → k < first + count → k < start ∨ start + longest ≤ k) :
      (List.range' first count).map error = List.replicate count false := by
    rw [List.eq_replicate_iff]
    refine ⟨by simp,fun bit member => ?_⟩
    obtain ⟨k,among,rfl⟩ := List.mem_map.mp member
    obtain ⟨above,below⟩ := List.mem_range'_1.mp among
    exact silent k (outside k above below)
  obtain ⟨width,rest,short,enough,total⟩ : ∃ width rest, width ≤ longest ∧ (rest = 0 ∨ width = longest) ∧
      n = start + (width + rest) := by
    refine ⟨min longest (n - start),n - start - min longest (n - start),?_,?_,?_⟩ <;> omega
  have parts : List.range n = List.range' 0 start ++ List.range' start width ++ List.range' (start + width) rest := by
    rw [List.range_eq_range',List.append_assoc,List.range'_append_1,total]
    simpa using (List.range'_append_1 (s := 0) (m := start) (n := width + rest)).symm
  refine ⟨start,(List.range' start width).map error,rest,?_,by simpa using short,?_⟩
  · rw [parts,List.map_append,List.map_append,quiet 0 start (by omega),quiet (start + width) rest (by omega)]
  · refine List.mem_map.mpr ⟨place,List.mem_range'_1.mpr ⟨low,?_⟩,wrong⟩
    omega

end Thermometer.CyclicCode
