import Thermometer.Firmware.State
import Thermometer.Lib.Numerals

-- real_display.c: the two lines of the LCD.
namespace Thermometer.Firmware
open Wire Numerals

def lcdColumnCount : Nat := 16

-- A buffer of `size` bytes keeps one of them for the end of the text.
def snprintf (size : Nat) (text : List Char) : List Char := text.take (size - 1)

def lineOf (text : List Char) : List Char := (text.take lcdColumnCount).rightpad lcdColumnCount ' '

-- `%02u`
def twoDigits (n : Nat) : List Char := (Nat.toDigits 10 n).leftpad 2 '0'

def formatSensorLine (lineSize : Nat) (sensorIndex : Fin sensorCount) (sensor : SensorSnapshot) : List Char :=
  let sensorNumber := Nat.toDigits 10 (sensorIndex.val + 1)
  if sensor.dataStatus ≠ .valid then snprintf lineSize ('S' :: (sensorNumber ++ ": DISCONNECTED".toList))
  else if !sensor.displayEnabled then snprintf lineSize ("Sensor ".toList ++ (sensorNumber ++ ": OFF".toList))
  else
    let temperature := sensor.temperatureCentiC.toInt
    let magnitude := temperature.natAbs
    snprintf lineSize ('S' :: (sensorNumber ++ ':' :: ((if temperature < 0 then ['-'] else []) ++
      (Nat.toDigits 10 (magnitude / 100) ++ '.' :: (twoDigits (magnitude % 100) ++ "C  ON".toList)))))

def lcdRow (index : Fin sensorCount) (sensor : SensorSnapshot) : List Char :=
  lineOf (formatSensorLine (lcdColumnCount + 1) index sensor)

inductive Shown where
  | disconnected
  | off
  | on (centiC : Int)
  deriving DecidableEq, Repr

def shown (sensor : SensorSnapshot) : Shown :=
  match visibleState sensor with
  | .disconnected => .disconnected
  | .off => .off
  | .on => .on sensor.temperatureCentiC.toInt

def digitAt (row : List Char) (column : Nat) : Nat := (row.getD column '0').toNat - '0'.toNat

def readTemperature (text : List Char) : Int :=
  let digits := (signed text).2
  let fraction := (digits.dropWhile Char.isDigit).drop 1
  withSign (signed text).1 (100 * Nat.ofDigitChars 10 (digits.takeWhile Char.isDigit) 0 + Nat.ofDigitChars 10 (fraction.take 2) 0)

def readRow (row : List Char) : Nat × Shown :=
  if row[1]? = some 'e' then (digitAt row 7,.off)
  else if row[3]? = some ' ' then (digitAt row 1,.disconnected)
  else (digitAt row 1,.on (readTemperature (row.drop 3)))

theorem isDigit_toDigits (n : Nat) : ∀ c ∈ Nat.toDigits 10 n, c.isDigit = true :=
  fun _ member => Nat.isDigit_of_mem_toDigits (by decide) (by decide) member

theorem twoDigits_length {n : Nat} (below : n < 100) : (twoDigits n).length = 2 := by
  have short : (Nat.toDigits 10 n).length ≤ 2 := (Nat.length_toDigits_le_iff (by decide) (by decide)).mpr below
  rw [twoDigits,List.length_leftpad]
  omega

theorem twoDigits_value (n : Nat) : Nat.ofDigitChars 10 (twoDigits n) 0 = n := by
  rw [twoDigits,List.leftpad,Nat.ofDigitChars_append,Nat.ofDigitChars_replicate_zero,Nat.mul_zero]
  exact Nat.ofDigitChars_toDigits (by decide) (by decide)

theorem signed_digit {c : Char} (digit : c.isDigit = true) (rest : List Char) : signed (c :: rest) = (false,c :: rest) := by
  unfold signed
  split
  case h_1 minus =>
    cases minus
    cases digit
  case h_2 plus =>
    cases plus
    cases digit
  case h_3 => rfl

theorem signed_written (negative : Bool) (whole : Nat) (rest : List Char) :
    signed ((if negative then ['-'] else []) ++ (Nat.toDigits 10 whole ++ rest)) = (negative,Nat.toDigits 10 whole ++ rest) := by
  cases negative with
  | true => rfl
  | false =>
    have digits := isDigit_toDigits whole
    cases written : Nat.toDigits 10 whole with
    | nil => exact absurd written Nat.toDigits_ne_nil
    | cons first more =>
      rw [written] at digits
      exact signed_digit (digits first List.mem_cons_self) (more ++ rest)

theorem readTemperature_written (negative : Bool) (whole : Nat) {fraction : Nat} (below : fraction < 100) (rest : List Char) :
    readTemperature ((if negative then ['-'] else []) ++ (Nat.toDigits 10 whole ++ '.' :: (twoDigits fraction ++ rest))) =
      withSign negative (100 * whole + fraction) := by
  have digits := isDigit_toDigits whole
  have point : ('.' : Char).isDigit = false := rfl
  have first : ('.' :: (twoDigits fraction ++ rest)).takeWhile Char.isDigit = [] := List.takeWhile_cons_of_neg (by simp [point])
  have after : ('.' :: (twoDigits fraction ++ rest)).dropWhile Char.isDigit = '.' :: (twoDigits fraction ++ rest) :=
    List.dropWhile_cons_of_neg (by simp [point])
  have two : (twoDigits fraction ++ rest).take 2 = twoDigits fraction := by
    rw [← twoDigits_length below,List.take_left]
  simp only [readTemperature,signed_written,List.takeWhile_append_of_pos digits,List.dropWhile_append_of_pos digits,first,after,
    List.append_nil,List.drop_succ_cons,List.drop_zero,two,twoDigits_value]
  rw [Nat.ofDigitChars_toDigits (by decide) (by decide)]

theorem temperature_bounds (temperature : Int16) : temperature.toInt.natAbs ≤ 32768 := by
  have below := temperature.toInt_lt
  have above := temperature.le_toInt
  omega

theorem withSign_magnitude (n : Int) : withSign (decide (n < 0)) (100 * (n.natAbs / 100) + n.natAbs % 100) = n := by
  rw [Nat.div_add_mod]
  unfold withSign
  split
  case isTrue negative =>
    have below : n < 0 := of_decide_eq_true negative
    omega
  case isFalse positive =>
    have above : ¬ n < 0 := fun below => positive (decide_eq_true below)
    omega

def onText (index : Fin sensorCount) (centiC : Int) : List Char :=
  'S' :: (Nat.toDigits 10 (index.val + 1) ++ ':' :: ((if centiC < 0 then ['-'] else []) ++
    (Nat.toDigits 10 (centiC.natAbs / 100) ++ '.' :: (twoDigits (centiC.natAbs % 100) ++ "C  ON".toList))))

theorem sensorNumber_digit (index : Fin sensorCount) : ∃ c, Nat.toDigits 10 (index.val + 1) = [c] ∧
    c.toNat - '0'.toNat = index.val + 1 := by
  have one_digit : index.val + 1 < 10 := Nat.lt_of_le_of_lt index.isLt (by decide)
  exact ⟨(index.val + 1).digitChar,Nat.toDigits_of_lt_base one_digit,Nat.toNat_digitChar_sub_48_of_lt_ten one_digit⟩

theorem onText_length (index : Fin sensorCount) (centiC : Int) (bounded : centiC.natAbs ≤ 32768) :
    (onText index centiC).length ≤ lcdColumnCount := by
  obtain ⟨number,written,_⟩ := sensorNumber_digit index
  have fraction := twoDigits_length (Nat.mod_lt centiC.natAbs (by decide : 100 > 0))
  have whole : (Nat.toDigits 10 (centiC.natAbs / 100)).length ≤ 3 :=
    (Nat.length_toDigits_le_iff (by decide) (by decide)).mpr (by omega)
  have sign : (if centiC < 0 then ['-'] else []).length ≤ 1 := by split <;> decide
  simp only [onText,written,List.length_cons,List.length_append,List.length_nil,fraction,lcdColumnCount]
  have unit : ("C  ON".toList).length = 5 := rfl
  omega

theorem lineOf_snprintf {text : List Char} (fits : text.length ≤ lcdColumnCount) :
    lineOf (snprintf (lcdColumnCount + 1) text) = text ++ .replicate (lcdColumnCount - text.length) ' ' := by
  have whole : text.take lcdColumnCount = text := List.take_of_length_le fits
  simp only [lineOf,snprintf,Nat.add_sub_cancel,whole,List.rightpad]

theorem sign_visible (negative : Bool) (whole : Nat) (rest : List Char) :
    ((if negative then ['-'] else []) ++ (Nat.toDigits 10 whole ++ rest))[0]? ≠ some ' ' := by
  cases negative with
  | true => simp
  | false =>
    have digits := isDigit_toDigits whole
    cases written : Nat.toDigits 10 whole with
    | nil => exact absurd written Nat.toDigits_ne_nil
    | cons first more =>
      rw [written] at digits
      have digit := digits first List.mem_cons_self
      intro blank
      cases Option.some.inj blank
      cases digit

theorem sensorNumber_letter {index : Fin sensorCount} {number : Char} (value : number.toNat - '0'.toNat = index.val + 1) :
    number ≠ 'e' := by
  intro letter
  have small : index.val < 2 := index.isLt
  rw [letter] at value
  have large : 'e'.toNat - '0'.toNat = 53 := rfl
  omega

theorem readRow_on (index : Fin sensorCount) (centiC : Int) (blanks : List Char) :
    readRow (onText index centiC ++ blanks) = (index.val + 1,.on centiC) := by
  obtain ⟨number,written,value⟩ := sensorNumber_digit index
  let body := (if decide (centiC < 0) = true then ['-'] else []) ++
    (Nat.toDigits 10 (centiC.natAbs / 100) ++ '.' :: (twoDigits (centiC.natAbs % 100) ++ ("C  ON".toList ++ blanks)))
  have same : onText index centiC ++ blanks = 'S' :: number :: ':' :: body := by
    simp [onText,written,body]
  have temperature : readTemperature body = centiC := by
    rw [readTemperature_written _ _ (Nat.mod_lt _ (by decide))]
    exact withSign_magnitude centiC
  have no_letter : ('S' :: number :: ':' :: body)[1]? ≠ some 'e' :=
    fun letter => sensorNumber_letter value (Option.some.inj letter)
  have no_blank : ('S' :: number :: ':' :: body)[3]? ≠ some ' ' := sign_visible _ _ _
  rw [same,readRow,if_neg no_letter,if_neg no_blank]
  exact congrArg₂ Prod.mk value (congrArg Shown.on temperature)

theorem readRow_disconnected (index : Fin sensorCount) (blanks : List Char) :
    readRow ('S' :: (Nat.toDigits 10 (index.val + 1) ++ ": DISCONNECTED".toList) ++ blanks) = (index.val + 1,.disconnected) := by
  obtain ⟨number,written,value⟩ := sensorNumber_digit index
  have no_letter : ('S' :: number :: (": DISCONNECTED".toList ++ blanks))[1]? ≠ some 'e' :=
    fun letter => sensorNumber_letter value (Option.some.inj letter)
  rw [written]
  exact (if_neg no_letter).trans (congrArg (·,Shown.disconnected) value)

theorem readRow_off (index : Fin sensorCount) (blanks : List Char) :
    readRow ("Sensor ".toList ++ (Nat.toDigits 10 (index.val + 1) ++ ": OFF".toList) ++ blanks) = (index.val + 1,.off) := by
  obtain ⟨number,written,value⟩ := sensorNumber_digit index
  rw [written]
  exact congrArg (·,Shown.off) value

theorem readRow_lcdRow (index : Fin sensorCount) (sensor : SensorSnapshot) :
    (lcdRow index sensor).length = lcdColumnCount ∧ readRow (lcdRow index sensor) = (index.val + 1,shown sensor) := by
  constructor
  · rw [lcdRow,lineOf,List.length_rightpad,List.length_take]
    omega
  · obtain ⟨number,written,_⟩ := sensorNumber_digit index
    obtain ⟨temperature,status,enabled,sequence⟩ := sensor
    unfold lcdRow formatSensorLine
    cases status with
    | disconnected =>
      have fits : ('S' :: (Nat.toDigits 10 (index.val + 1) ++ ": DISCONNECTED".toList)).length ≤ lcdColumnCount := by
        rw [written]
        exact le_rfl
      exact (congrArg readRow (lineOf_snprintf fits)).trans (readRow_disconnected index _)
    | valid =>
      cases enabled with
      | false =>
        have fits : ("Sensor ".toList ++ (Nat.toDigits 10 (index.val + 1) ++ ": OFF".toList)).length ≤ lcdColumnCount := by
          rw [written]
          exact Nat.le_of_ble_eq_true rfl
        exact (congrArg readRow (lineOf_snprintf fits)).trans (readRow_off index _)
      | true =>
        have fits := onText_length index temperature.toInt (temperature_bounds temperature)
        exact (congrArg readRow (lineOf_snprintf fits)).trans (readRow_on index _ _)

end Thermometer.Firmware
