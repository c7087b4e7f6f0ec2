import Mathlib.Data.List.Basic
import Mathlib.Data.Nat.Digits.Defs
import Mathlib.Tactic.Common

-- The Bluetooth addresses of credential_registry.py.
namespace Thermometer.Client

-- What the interpreter knows of a character: `str.isalnum`, the value of a decimal digit
-- of any script, and `str.upper`. Beyond ASCII the tables depend on the version.
structure Unicode where
  isAlnum : Char → Bool
  decimal : Char → Option Nat
  upper : Char → List Char
  ascii : ∀ c, c.toNat < 128 → isAlnum c = c.isAlphanum ∧
    decimal c = (if c.isDigit then some (c.toNat - 48) else none) ∧ upper c = [c.toUpper]
  digits : ∀ c value, decimal c = some value → value < 10 ∧ isAlnum c = true ∧ upper c = [c]

variable (u : Unicode)

def compactOf (address : String) : List Char := address.toList.filter u.isAlnum

def letterValue : Char → Option Nat
  | 'a' | 'A' => some 10
  | 'b' | 'B' => some 11
  | 'c' | 'C' => some 12
  | 'd' | 'D' => some 13
  | 'e' | 'E' => some 14
  | 'f' | 'F' => some 15
  | _ => none

-- `int` reads every decimal digit as the ASCII digit of its value.
def digitValue (c : Char) : Option Nat := (u.decimal c).or (letterValue c)

def withoutPrefix : List Char → List Char
  | zero :: mark :: rest => if u.decimal zero = some 0 ∧ (mark = 'x' ∨ mark = 'X') then rest else zero :: mark :: rest
  | text => text

-- `int(compact, 16)`; among alphanumeric characters there is no sign, blank or underscore.
def intBase16 (compact : List Char) : Option Nat :=
  if withoutPrefix u compact = [] then none
  else ((withoutPrefix u compact).mapM (digitValue u)).map (·.foldl (fun value digit => 16 * value + digit) 0)

def macAddressHex (address : String) : Except String String :=
  let compact := compactOf u address
  if compact.length ≠ 12 then .error s!"invalid Bluetooth address: {address}"
  else
    match intBase16 u compact with
    | none => .error s!"invalid Bluetooth address: {address}"
    | some _ => .ok (String.ofList (compact.flatMap u.upper))

def normalizeMacAddress (address : String) : Except String String := do
  let compact ← macAddressHex u address
  return String.ofList ([':'].intercalate ((List.range 6).map fun index => (compact.toList.drop (2 * index)).take 2))

-- `_address_as_integer` of windows_pairing.py.
def addressAsInteger (address : String) : Except String Nat := do
  match intBase16 u (← macAddressHex u address).toList with
  | none => .error s!"invalid Bluetooth address: {address}"
  | some value => return value

-- `string.hexdigits`
def hexdigits : List Char := "0123456789abcdefABCDEF".toList

def TwelveHex (compact : List Char) : Prop := compact.length = 12 ∧ ∀ c ∈ compact, c ∈ hexdigits

def colonPairs : List Char → List Char
  | [a,b] => [a,b]
  | a :: b :: rest => a :: b :: ':' :: colonPairs rest
  | rest => rest

-- Twelve characters that `int` reads, though not all are hexadecimal digits: a digit of
-- another script is among them, or they begin like a literal.
def Misread (compact : List Char) : Prop :=
  compact.length = 12 ∧
    (((∀ c ∈ compact, (digitValue u c).isSome) ∧ ∃ c ∈ compact, c ∉ hexdigits) ∨
      ∃ zero mark rest, compact = zero :: mark :: rest ∧ u.decimal zero = some 0 ∧ (mark = 'x' ∨ mark = 'X') ∧
        ∀ c ∈ rest, (digitValue u c).isSome)

variable {u}

theorem hexdigits_facts {c : Char} (member : c ∈ hexdigits) : c.toNat < 128 ∧ c.isAlphanum ∧ c.toUpper ∈ hexdigits ∧
    c.toUpper.toUpper = c.toUpper ∧ (c.isDigit ∨ (letterValue c).isSome) := by
  have all : hexdigits.all (fun c => c.toNat < 128 ∧ c.isAlphanum ∧ c.toUpper ∈ hexdigits ∧
    c.toUpper.toUpper = c.toUpper ∧ (c.isDigit ∨ (letterValue c).isSome)) = true := by decide +kernel
  exact of_decide_eq_true (List.all_eq_true.mp all c member)

theorem decimal_ascii {c : Char} (known : c ∈ hexdigits) : (digitValue u c).isSome := by
  obtain ⟨small,_,_,_,digit⟩ := hexdigits_facts known
  unfold digitValue
  rw [(u.ascii c small).2.1]
  rcases digit with digit | letter
  · simp [digit]
  · split
    · rfl
    · exact letter

theorem letter_hex {c : Char} (letter : (letterValue c).isSome) : c ∈ hexdigits := by
  unfold letterValue at letter
  split at letter
  all_goals first | decide | cases letter

theorem digitValue_mark {mark : Char} (letter : mark = 'x' ∨ mark = 'X') : digitValue u mark = none := by
  unfold digitValue
  rcases letter with rfl | rfl <;> rw [(u.ascii _ (by decide)).2.1] <;> decide

theorem upper_single {c : Char} (plain : (digitValue u c).isSome ∨ c.toNat < 128) : u.upper c = [c.toUpper] := by
  by_cases small : c.toNat < 128
  · exact (u.ascii c small).2.2
  · have wide : c.toUpper = c := by
      unfold Char.toUpper
      exact dif_neg fun lower => small (Nat.lt_of_le_of_lt lower.2 (by decide))
    have letter : letterValue c = none := by
      apply Option.not_isSome_iff_eq_none.mp
      exact fun some => small (hexdigits_facts (letter_hex some)).1
    rcases plain with digit | ascii
    · rw [digitValue,letter,Option.or_none] at digit
      obtain ⟨value,known⟩ := Option.isSome_iff_exists.mp digit
      rw [wide]
      exact (u.digits c value known).2.2
    · exact absurd ascii small

theorem mapM_isSome {f : Char → Option Nat} {text : List Char} : (text.mapM f).isSome ↔ ∀ c ∈ text, (f c).isSome := by
  induction text with
  | nil => simp
  | cons c rest ih =>
    rw [List.mapM_cons,List.forall_mem_cons,← ih]
    cases f c with
    | none => simp
    | some value => cases rest.mapM f <;> simp

theorem withoutPrefix_digits {compact : List Char} (digits : ∀ c ∈ compact, (digitValue u c).isSome) :
    withoutPrefix u compact = compact := by
  unfold withoutPrefix
  split
  · rename_i zero mark rest
    rw [if_neg]
    rintro ⟨_,letter⟩
    have digit := digits mark (by simp)
    rw [digitValue_mark letter] at digit
    cases digit
  · rfl

theorem intBase16_twelve {compact : List Char} (twelve : compact.length = 12) :
    (intBase16 u compact).isSome ↔ TwelveHex compact ∨ Misread u compact := by
  have read : (intBase16 u compact).isSome ↔
      withoutPrefix u compact ≠ [] ∧ ∀ c ∈ withoutPrefix u compact, (digitValue u c).isSome := by
    unfold intBase16
    split
    · simp [*]
    · rw [Option.isSome_map,mapM_isSome]
      simp [*]
  rw [read]
  constructor
  · rintro ⟨_,digits⟩
    match compact with
    | zero :: mark :: rest =>
      by_cases literal : u.decimal zero = some 0 ∧ (mark = 'x' ∨ mark = 'X')
      · rw [withoutPrefix,if_pos literal] at digits
        exact .inr ⟨twelve,.inr ⟨zero,mark,rest,rfl,literal.1,literal.2,digits⟩⟩
      · rw [withoutPrefix,if_neg literal] at digits
        by_cases hex : ∀ c ∈ zero :: mark :: rest, c ∈ hexdigits
        · exact .inl ⟨twelve,hex⟩
        · obtain ⟨c,other⟩ := not_forall.mp hex
          exact .inr ⟨twelve,.inl ⟨digits,c,Classical.not_imp.mp other⟩⟩
  · rintro (⟨_,hex⟩ | ⟨_,⟨digits,_⟩ | ⟨zero,mark,rest,rfl,value,letter,digits⟩⟩)
    · have digits := fun c member => decimal_ascii (u := u) (hex c member)
      rw [withoutPrefix_digits digits]
      exact ⟨List.ne_nil_of_length_eq_add_one twelve,digits⟩
    · rw [withoutPrefix_digits digits]
      exact ⟨List.ne_nil_of_length_eq_add_one twelve,digits⟩
    · rw [withoutPrefix,if_pos ⟨value,letter⟩]
      exact ⟨List.ne_nil_of_length_eq_add_one (n := 9) (by simpa using twelve),digits⟩

theorem not_both {compact : List Char} (hex : TwelveHex compact) : ¬ Misread u compact := by
  rintro ⟨_,⟨_,c,member,other⟩ | ⟨zero,mark,rest,rfl,_,letter,_⟩⟩
  · exact other (hex.2 c member)
  · have known := hex.2 mark (by simp)
    rcases letter with rfl | rfl <;> revert known <;> decide

def upperCase (compact : List Char) : List Char := compact.map Char.toUpper

theorem accepted_upper {compact : List Char} (accepted : TwelveHex compact ∨ Misread u compact) :
    compact.flatMap u.upper = upperCase compact := by
  have single : ∀ c ∈ compact, u.upper c = [c.toUpper] := by
    intro c member
    rcases accepted with ⟨_,hex⟩ | ⟨_,⟨digits,_⟩ | ⟨zero,mark,rest,rfl,value,letter,digits⟩⟩
    · exact upper_single (.inr (hexdigits_facts (hex c member)).1)
    · exact upper_single (.inl (digits c member))
    · rcases List.mem_cons.mp member with rfl | behind
      · exact upper_single (.inl (by simp [digitValue,value]))
      · rcases List.mem_cons.mp behind with rfl | later
        · refine upper_single (.inr ?_)
          rcases letter with rfl | rfl <;> decide
        · exact upper_single (.inl (digits c later))
  rw [List.flatMap_congr single]
  exact List.flatMap_pure_eq_map ..

theorem macAddressHex_ok : macAddressHex u address = .ok hex ↔
    (TwelveHex (compactOf u address) ∨ Misread u (compactOf u address)) ∧ hex = String.ofList (upperCase (compactOf u address)) := by
  unfold macAddressHex
  by_cases twelve : (compactOf u address).length = 12
  · rw [← intBase16_twelve twelve]
    cases read : intBase16 u (compactOf u address) with
    | none => simp [twelve,read]
    | some value =>
      have accepted := (intBase16_twelve twelve).mp (Option.isSome_iff_exists.mpr ⟨value,read⟩)
      simp [twelve,read,accepted_upper accepted,eq_comm]
  · simp only [if_pos twelve,reduceCtorEq,false_iff]
    rintro ⟨⟨length,_⟩ | ⟨length,_⟩,_⟩ <;> exact twelve length

theorem colonPairs_twelve {text : List Char} (twelve : text.length = 12) :
    [':'].intercalate ((List.range 6).map fun index => (text.drop (2 * index)).take 2) = colonPairs text := by
  match text with
  | [a,b,c,d,e,f,g,h,i,j,k,l] => rfl

theorem colonPairs_injective {first second : List Char} (twelve : first.length = 12) (other : second.length = 12)
    (same : colonPairs first = colonPairs second) : first = second := by
  match first,second with
  | [a,b,c,d,e,f,g,h,i,j,k,l],[a',b',c',d',e',f',g',h',i',j',k',l'] =>
    simpa [colonPairs] using same

theorem normalizeMacAddress_ok : normalizeMacAddress u address = .ok key ↔
    (TwelveHex (compactOf u address) ∨ Misread u (compactOf u address)) ∧
      key = String.ofList (colonPairs (upperCase (compactOf u address))) := by
  unfold normalizeMacAddress
  cases converted : macAddressHex u address with
  | error message =>
    have refused : ¬ (TwelveHex (compactOf u address) ∨ Misread u (compactOf u address)) := by
      intro accepted
      cases converted.symm.trans (macAddressHex_ok.mpr ⟨accepted,rfl⟩)
    simp [refused,bind,Except.bind]
  | ok hex =>
    obtain ⟨accepted,rfl⟩ := macAddressHex_ok.mp converted
    have twelve : (upperCase (compactOf u address)).length = 12 := by
      rw [upperCase,List.length_map]
      rcases accepted with hex | misread
      · exact hex.1
      · exact misread.1
    simp only [bind,Except.bind,pure,Except.pure,String.toList_ofList,colonPairs_twelve twelve,Except.ok.injEq]
    exact ⟨fun same => ⟨accepted,same.symm⟩,fun named => named.2.symm⟩

def Normalises (u : Unicode) (address : String) : Prop :=
  ((∃ key, normalizeMacAddress u address = .ok key) ↔ TwelveHex (compactOf u address)) ∧
  ∀ key, normalizeMacAddress u address = .ok key →
    key = String.ofList (colonPairs (upperCase (compactOf u address))) ∧
    normalizeMacAddress u key = .ok key ∧
    ∀ other otherKey, normalizeMacAddress u other = .ok otherKey →
      (key = otherKey ↔ upperCase (compactOf u address) = upperCase (compactOf u other)) ∧
      (key = otherKey → addressAsInteger u address = addressAsInteger u other)

-- A digit that is not an ASCII one is a decimal digit, and those have no case.
theorem digit_cases {c : Char} (digit : (digitValue u c).isSome) :
    c ∈ hexdigits ∨ ((u.decimal c).isSome ∧ c.toUpper = c) := by
  cases known : u.decimal c with
  | some value =>
    have single := upper_single (.inl digit)
    rw [(u.digits c value known).2.2] at single
    exact .inr ⟨rfl,(List.singleton_inj.mp single).symm⟩
  | none =>
    rw [digitValue,known,Option.none_or] at digit
    exact .inl (letter_hex digit)

theorem digit_upper {c : Char} (digit : (digitValue u c).isSome) :
    u.isAlnum c.toUpper = true ∧ c.toUpper.toUpper = c.toUpper ∧ (digitValue u c.toUpper).isSome := by
  rcases digit_cases digit with hex | ⟨decimal,same⟩
  · obtain ⟨_,_,upper,twice,_⟩ := hexdigits_facts hex
    obtain ⟨small,alnum,_⟩ := hexdigits_facts upper
    exact ⟨(u.ascii _ small).1.trans alnum,twice,decimal_ascii upper⟩
  · obtain ⟨value,known⟩ := Option.isSome_iff_exists.mp decimal
    rw [same]
    exact ⟨(u.digits c value known).2.1,same,digit⟩

theorem mark_upper {mark : Char} (letter : mark = 'x' ∨ mark = 'X') :
    u.isAlnum mark.toUpper = true ∧ mark.toUpper = 'X' := by
  have upper : mark.toUpper = 'X' := by rcases letter with rfl | rfl <;> rfl
  rw [upper,(u.ascii 'X' (by decide)).1]
  exact ⟨rfl,rfl⟩

theorem upperCase_hex {compact : List Char} (hex : TwelveHex compact) : TwelveHex (upperCase compact) := by
  refine ⟨by rw [upperCase,List.length_map,hex.1],fun c member => ?_⟩
  obtain ⟨digit,among,rfl⟩ := List.mem_map.mp member
  exact (hexdigits_facts (hex.2 digit among)).2.2.1

theorem upperCase_misread {compact : List Char} (misread : Misread u compact) : Misread u (upperCase compact) := by
  obtain ⟨twelve,⟨digits,c,member,other⟩ | ⟨zero,mark,rest,rfl,value,letter,digits⟩⟩ := misread
  · refine ⟨by rw [upperCase,List.length_map,twelve],.inl ⟨?_,c.toUpper,List.mem_map_of_mem member,?_⟩⟩
    · intro upper among
      obtain ⟨digit,present,rfl⟩ := List.mem_map.mp among
      exact (digit_upper (digits digit present)).2.2
    · rcases digit_cases (digits c member) with hex | ⟨_,same⟩
      · exact absurd hex other
      · rwa [same]
  · have kept : zero.toUpper = zero := by
      have single := upper_single (.inl (show (digitValue u zero).isSome by simp [digitValue,value]))
      rw [(u.digits zero 0 value).2.2] at single
      exact (List.singleton_inj.mp single).symm
    refine ⟨by rw [upperCase,List.length_map,twelve],
      .inr ⟨zero,'X',upperCase rest,?_,value,.inr rfl,fun upper among => ?_⟩⟩
    · rw [upperCase,List.map_cons,List.map_cons,kept,(mark_upper (u := u) letter).2]
      rfl
    · obtain ⟨digit,present,rfl⟩ := List.mem_map.mp among
      exact (digit_upper (digits digit present)).2.2

theorem accepted_character {compact : List Char} (accepted : TwelveHex compact ∨ Misread u compact) {c : Char}
    (member : c ∈ compact) : u.isAlnum c.toUpper = true ∧ c.toUpper.toUpper = c.toUpper := by
  have digit (read : (digitValue u c).isSome) := And.intro (digit_upper read).1 (digit_upper read).2.1
  rcases accepted with ⟨_,hex⟩ | ⟨_,⟨digits,_⟩ | ⟨zero,mark,rest,rfl,value,letter,digits⟩⟩
  · exact digit (decimal_ascii (hex c member))
  · exact digit (digits c member)
  · rcases List.mem_cons.mp member with rfl | behind
    · exact digit (by simp [digitValue,value])
    · rcases List.mem_cons.mp behind with rfl | later
      · rw [(mark_upper (u := u) letter).2,(u.ascii 'X' (by decide)).1]
        exact ⟨rfl,rfl⟩
      · exact digit (digits c later)

theorem upperCase_length {compact : List Char} (accepted : TwelveHex compact ∨ Misread u compact) :
    (upperCase compact).length = 12 := by
  rw [upperCase,List.length_map]
  exact accepted.elim And.left And.left

theorem upperCase_twice {compact : List Char} (accepted : TwelveHex compact ∨ Misread u compact) :
    upperCase (upperCase compact) = upperCase compact := by
  rw [upperCase,upperCase,List.map_map]
  exact List.map_congr_left fun c member => (accepted_character accepted member).2

theorem compactOf_key {compact : List Char} (accepted : TwelveHex compact ∨ Misread u compact) :
    compactOf u (String.ofList (colonPairs (upperCase compact))) = upperCase compact := by
  have counts : ∀ c ∈ upperCase compact, u.isAlnum c = true := by
    intro c member
    obtain ⟨digit,among,rfl⟩ := List.mem_map.mp member
    exact (accepted_character accepted among).1
  have colon : u.isAlnum ':' = false := by rw [(u.ascii ':' (by decide)).1]; decide
  have length := upperCase_length accepted
  generalize upperCase compact = text at *
  match text with
  | [a,b,c,d,e,f,g,h,i,j,k,l] =>
    simp only [List.forall_mem_cons] at counts
    simp [compactOf,colonPairs,colon,counts]

theorem normalizeMacAddress_idempotent (normalized : normalizeMacAddress u address = .ok key) :
    normalizeMacAddress u key = .ok key := by
  obtain ⟨accepted,rfl⟩ := normalizeMacAddress_ok.mp normalized
  rw [normalizeMacAddress_ok,compactOf_key accepted,upperCase_twice accepted]
  exact ⟨accepted.imp upperCase_hex upperCase_misread,rfl⟩

theorem keys_agree (first : normalizeMacAddress u address = .ok key) (second : normalizeMacAddress u other = .ok otherKey) :
    key = otherKey ↔ upperCase (compactOf u address) = upperCase (compactOf u other) := by
  obtain ⟨accepted,rfl⟩ := normalizeMacAddress_ok.mp first
  obtain ⟨acceptedToo,rfl⟩ := normalizeMacAddress_ok.mp second
  constructor
  · intro same
    exact colonPairs_injective (upperCase_length accepted) (upperCase_length acceptedToo) (String.ofList_inj.mp same)
  · intro same
    rw [same]

theorem keys_device (hex : TwelveHex (compactOf u address)) (first : normalizeMacAddress u address = .ok key)
    (second : normalizeMacAddress u other = .ok otherKey) (same : key = otherKey) :
    addressAsInteger u address = addressAsInteger u other := by
  have digits := (keys_agree first second).mp same
  have left := macAddressHex_ok.mpr ⟨(normalizeMacAddress_ok.mp first).1,rfl⟩
  have right := macAddressHex_ok.mpr ⟨(normalizeMacAddress_ok.mp second).1,rfl⟩
  rw [← digits] at right
  have again := upperCase_hex hex
  have accepted : (intBase16 u (upperCase (compactOf u address))).isSome := (intBase16_twelve again.1).mpr (.inl again)
  obtain ⟨value,read⟩ := Option.isSome_iff_exists.mp accepted
  simp [addressAsInteger,left,right,bind,Except.bind,read]

-- The promise is kept for the addresses that `int` does not misread, and for no other.
theorem normalises_iff (u : Unicode) (address : String) : Normalises u address ↔ ¬ Misread u (compactOf u address) := by
  have succeeds : (∃ key, normalizeMacAddress u address = .ok key) ↔
      TwelveHex (compactOf u address) ∨ Misread u (compactOf u address) :=
    ⟨fun ⟨_,normalized⟩ => (normalizeMacAddress_ok.mp normalized).1,fun accepted => ⟨_,normalizeMacAddress_ok.mpr ⟨accepted,rfl⟩⟩⟩
  constructor
  · rintro ⟨exactly,_⟩ misread
    exact not_both (exactly.mp (succeeds.mpr (.inr misread))) misread
  · intro sound
    have hex : (∃ key, normalizeMacAddress u address = .ok key) ↔ TwelveHex (compactOf u address) := by
      rw [succeeds,or_iff_left sound]
    refine ⟨hex,fun key normalized => ?_⟩
    have twelve := hex.mp ⟨key,normalized⟩
    refine ⟨(normalizeMacAddress_ok.mp normalized).2,normalizeMacAddress_idempotent normalized,?_⟩
    intro other otherKey second
    exact ⟨keys_agree normalized second,keys_device twelve normalized second⟩

def arabicDigit (c : Char) : Bool := 0x660 ≤ c.toNat && c.toNat ≤ 0x669

def asciiArabic : Unicode where
  isAlnum c := c.isAlphanum || arabicDigit c
  decimal c := if c.isDigit then some (c.toNat - 48) else if arabicDigit c then some (c.toNat - 0x660) else none
  upper c := [c.toUpper]
  ascii c small := by
    have other : arabicDigit c = false := by simp [arabicDigit]; omega
    simp [other]
  digits c value known := by
    have lower : c.isDigit = true ∨ arabicDigit c = true → c.toUpper = c := by
      intro digit
      unfold Char.toUpper
      refine dif_neg fun between => ?_
      have low : 97 ≤ c.toNat := between.1
      have high : c.toNat ≤ 122 := between.2
      rcases digit with ascii | arabic
      · have small : c.toNat ≤ 57 := (of_decide_eq_true (Bool.and_eq_true_iff.mp ascii).2 : c.val ≤ 57)
        omega
      · have large : 0x660 ≤ c.toNat := of_decide_eq_true (Bool.and_eq_true_iff.mp arabic).1
        omega
    split at known
    · rename_i ascii
      have small : c.toNat ≤ 57 := (of_decide_eq_true (Bool.and_eq_true_iff.mp ascii).2 : c.val ≤ 57)
      cases known
      exact ⟨by omega,by simp [Char.isAlphanum,ascii],by rw [lower (.inl ascii)]⟩
    · split at known
      · rename_i arabic
        have large : c.toNat ≤ 0x669 := of_decide_eq_true (Bool.and_eq_true_iff.mp arabic).2
        have same := Option.some.inj known
        exact ⟨by omega,by simp [arabic],by rw [lower (.inr arabic)]⟩
      · cases known

-- A literal of another language, and digits of another script.
theorem normalises_misread :
    normalizeMacAddress asciiArabic "0x1234567890" = .ok "0X:12:34:56:78:90" ∧
      ¬ Normalises asciiArabic "0x1234567890" ∧ ¬ Normalises asciiArabic "٠٠:٠٠:٠٠:٠٠:٠٠:٠٠" := by
  have literal : normalizeMacAddress asciiArabic "0x1234567890" = .ok "0X:12:34:56:78:90" := by decide +kernel
  have script : normalizeMacAddress asciiArabic "٠٠:٠٠:٠٠:٠٠:٠٠:٠٠" = .ok "٠٠:٠٠:٠٠:٠٠:٠٠:٠٠" := by decide +kernel
  refine ⟨literal,?_,?_⟩
  · rintro ⟨exactly,_⟩
    exact absurd ((exactly.mp ⟨_,literal⟩).2 'x' (by decide +kernel)) (by decide)
  · rintro ⟨exactly,_⟩
    exact absurd ((exactly.mp ⟨_,script⟩).2 '٠' (by decide +kernel)) (by decide)

end Thermometer.Client
