import Thermometer.Verification.ManualRun

-- What a guided manual run that records PASS has read.
namespace Thermometer.Verification.Manual
open Json (Value Number Checked)

variable {t : Interpreter} {field : ManualField} {value limit : Value} {reading : Reading} {lines rest : List String}

def AsExpected (field : ManualField) (value : Value) : Prop := ∀ wanted, field.expected = some wanted → same value wanted = true

structure Within (field : ManualField) (value : Value) (number : Number) : Prop where
  read : value.number = .ok number
  isNumber : number.exact ≠ .nan
  minimum : ∀ limit, field.minimum = some limit → ∃ least, limit.number = .ok least ∧ least.le number = true
  maximum : ∀ limit, field.maximum = some limit → ∃ most, limit.number = .ok most ∧ number.le most = true
  exclusiveMaximum : ∀ limit, field.exclusiveMaximum = some limit → ∃ bound, limit.number = .ok bound ∧ number.lt bound = true

def Meets (field : ManualField) (value : Value) : Prop :=
  match field.type with
  | .number | .integer => (∃ number, Within field value number) ∧ AsExpected field value
  | .boolean | .choice => AsExpected field value
  | .text => ∃ text, value = .text text ∧ text ≠ ""
  | .photo => True

def limits (field : ManualField) : List Value :=
  field.minimum.toList ++ field.maximum.toList ++ field.exclusiveMaximum.toList

structure NoNan (t : Interpreter) (field : ManualField) (answer : String) : Prop where
  typed : field.type = .number → ∀ value, Numerals.float t.decimal answer.toList = some value → (Number.double value).exact ≠ .nan
  limits : field.type = .number ∨ field.type = .integer → ∀ limit ∈ limits field, ∀ number, limit.number = .ok number →
    number.exact ≠ .nan

theorem limited_ok {bound : Option Value} {violated : Value → Checked Bool} {failure : Value → Failure}
    (clear : limited bound violated failure = .ok []) : ∀ limit, bound = some limit → violated limit = .ok false := by
  rintro limit rfl
  obtain ⟨bad,found,done⟩ := Json.bind_ok clear
  cases bad with
  | true => cases done
  | false => exact found

theorem check_ok (clear : check field value = .ok []) :
    AsExpected field value ∧ (∀ limit, field.minimum = some limit → lessThan value limit = .ok false) ∧
      (∀ limit, field.maximum = some limit → lessThan limit value = .ok false) ∧
      ∀ limit, field.exclusiveMaximum = some limit → atLeast value limit = .ok false := by
  obtain ⟨below,first,clear⟩ := Json.bind_ok clear
  obtain ⟨above,second,clear⟩ := Json.bind_ok clear
  obtain ⟨reached,third,clear⟩ := Json.bind_ok clear
  have none := Except.ok.inj clear
  simp only [List.append_eq_nil_iff] at none
  obtain ⟨⟨⟨expected,rfl⟩,rfl⟩,rfl⟩ := none
  refine ⟨fun wanted given => ?_,limited_ok first,limited_ok second,limited_ok third⟩
  unfold expectation at expected
  rw [given] at expected
  dsimp only at expected
  split at expected
  · assumption
  · cases expected

theorem lessThan_limit (read : value.number = .ok number) (done : lessThan value limit = .ok answer) :
    ∃ other, limit.number = .ok other ∧ number.lt other = answer := by
  have numeric : lessThan value limit = do return (← value.number).lt (← limit.number) := by
    cases value <;> first | rfl | cases read
  rw [numeric,read] at done
  obtain ⟨_,here,done⟩ := Json.bind_ok done
  cases here
  obtain ⟨other,found,done⟩ := Json.bind_ok done
  exact ⟨other,found,Except.ok.inj done⟩

theorem limit_lessThan (read : value.number = .ok number) (done : lessThan limit value = .ok answer) :
    ∃ other, limit.number = .ok other ∧ other.lt number = answer := by
  have numeric : lessThan limit value = do return (← limit.number).lt (← value.number) := by
    cases value <;> first | (cases limit <;> rfl) | cases read
  rw [numeric,read] at done
  obtain ⟨other,found,done⟩ := Json.bind_ok done
  obtain ⟨_,here,done⟩ := Json.bind_ok done
  cases here
  exact ⟨other,found,Except.ok.inj done⟩

theorem atLeast_limit (read : value.number = .ok number) (done : atLeast value limit = .ok answer) :
    ∃ other, limit.number = .ok other ∧ other.le number = answer := by
  have numeric : atLeast value limit = do return (← limit.number).le (← value.number) := by
    cases value <;> first | rfl | cases read
  rw [numeric,read] at done
  obtain ⟨other,found,done⟩ := Json.bind_ok done
  obtain ⟨_,here,done⟩ := Json.bind_ok done
  cases here
  exact ⟨other,found,Except.ok.inj done⟩

theorem within_iff (read : value.number = .ok number) (clear : check field value = .ok []) :
    Within field value number ↔ number.exact ≠ .nan ∧
      ∀ limit ∈ limits field, ∀ other, limit.number = .ok other → other.exact ≠ .nan := by
  obtain ⟨_,least,most,bound⟩ := check_ok clear
  constructor
  · intro within
    refine ⟨within.isNumber,fun limit member other found => ?_⟩
    unfold limits at member
    simp only [List.mem_append,Option.mem_toList] at member
    rcases member with (given | given) | given
    · obtain ⟨_,same,below⟩ := within.minimum limit given
      cases found.symm.trans same
      exact (Number.not_nan_of_le below).1
    · obtain ⟨_,same,below⟩ := within.maximum limit given
      cases found.symm.trans same
      exact (Number.not_nan_of_le below).2
    · obtain ⟨_,same,below⟩ := within.exclusiveMaximum limit given
      cases found.symm.trans same
      exact (Number.not_nan_of_le ((Bool.and_eq_true _ _).mp below).1).2
  · rintro ⟨isNumber,noNan⟩
    refine ⟨read,isNumber,fun limit given => ?_,fun limit given => ?_,fun limit given => ?_⟩
    · obtain ⟨other,found,clear⟩ := lessThan_limit read (least limit given)
      have here : other.exact ≠ .nan := noNan limit (by simp [limits,given]) other found
      exact ⟨other,found,(Number.not_lt_iff isNumber here).mp clear⟩
    · obtain ⟨other,found,clear⟩ := limit_lessThan read (most limit given)
      have here : other.exact ≠ .nan := noNan limit (by simp [limits,given]) other found
      exact ⟨other,found,(Number.not_lt_iff here isNumber).mp clear⟩
    · obtain ⟨other,found,clear⟩ := atLeast_limit read (bound limit given)
      have here : other.exact ≠ .nan := noNan limit (by simp [limits,given]) other found
      refine ⟨other,found,?_⟩
      by_contra reached
      rw [Bool.not_eq_true,Number.not_lt_iff isNumber here,clear] at reached
      cases reached

theorem noNan_other (notNumber : field.type ≠ .number) (notInteger : field.type ≠ .integer) : NoNan t field answer :=
  ⟨fun type => absurd type notNumber,fun type => absurd type (not_or.mpr ⟨notNumber,notInteger⟩)⟩

theorem meets_iff (converted : convert t field.type answer = .ok value) (clear : check field value = .ok []) :
    Meets field value ↔ NoNan t field answer := by
  have expected := (check_ok clear).1
  unfold Meets
  cases type : field.type with
  | number =>
    rw [type] at converted
    unfold convert at converted
    dsimp only at converted ⊢
    cases typed : Numerals.float t.decimal answer.toList with
    | none =>
      rw [typed] at converted
      cases converted
    | some double =>
      rw [typed] at converted
      cases converted
      have read : (Value.double double).number = .ok (.double double) := rfl
      constructor
      · rintro ⟨⟨number,within⟩,_⟩
        cases within.read
        have kept := (within_iff read clear).mp within
        refine ⟨fun _ other same => ?_,fun _ => kept.2⟩
        cases typed.symm.trans same
        exact kept.1
      · intro noNan
        exact ⟨⟨_,(within_iff read clear).mpr ⟨noNan.typed type double typed,noNan.limits (.inl type)⟩⟩,expected⟩
  | integer =>
    rw [type] at converted
    unfold convert at converted
    dsimp only at converted ⊢
    cases typed : Numerals.integer t.decimal answer.toList with
    | none =>
      rw [typed] at converted
      cases converted
    | some integer =>
      rw [typed] at converted
      cases converted
      have read : (Value.integer integer).number = .ok (.integer integer) := rfl
      constructor
      · rintro ⟨⟨number,within⟩,_⟩
        cases within.read
        exact ⟨fun other => absurd (type.symm.trans other) nofun,fun _ => ((within_iff read clear).mp within).2⟩
      · intro noNan
        exact ⟨⟨_,(within_iff read clear).mpr ⟨nofun,noNan.limits (.inr type)⟩⟩,expected⟩
  | boolean => exact ⟨fun _ => noNan_other (by simp [type]) (by simp [type]),fun _ => expected⟩
  | choice => exact ⟨fun _ => noNan_other (by simp [type]) (by simp [type]),fun _ => expected⟩
  | photo => exact ⟨fun _ => noNan_other (by simp [type]) (by simp [type]),fun _ => trivial⟩
  | text =>
    refine ⟨fun _ => noNan_other (by simp [type]) (by simp [type]),fun _ => ?_⟩
    rw [type] at converted
    unfold convert at converted
    dsimp only at converted
    split at converted
    · cases converted
    · rename_i typed
      cases converted
      exact ⟨answer,rfl,typed⟩

theorem judge_ok (judged : judge t field answer = .ok reading) : reading.field = field ∧ reading.answer = answer ∧
    (reading.failures = [] → convert t field.type answer = .ok reading.value ∧ check field reading.value = .ok []) := by
  unfold judge at judged
  cases converted : convert t field.type answer with
  | ok value =>
    rw [converted] at judged
    dsimp only at judged
    cases checked : check field value with
    | ok failures =>
      rw [checked] at judged
      cases judged
      exact ⟨rfl,rfl,fun clear => ⟨rfl,checked.trans (congrArg _ clear)⟩⟩
    | error error =>
      rw [checked] at judged
      cases judged
  | error error =>
    rw [converted] at judged
    dsimp only at judged
    split at judged
    · cases judged
      exact ⟨rfl,rfl,nofun⟩
    · cases judged

theorem readFields_ok {fields : List ManualField} (read : fields.mapM (readField t deferPhotos) lines = .ok (readings,rest)) :
    readings.map (·.field) = fields ∧ ∀ reading ∈ readings, judge t reading.field reading.answer = .ok reading := by
  induction fields generalizing readings lines with
  | nil =>
    rw [List.mapM_nil] at read
    cases read
    exact ⟨rfl,nofun⟩
  | cons field fields ih =>
    rw [List.mapM_cons] at read
    obtain ⟨reading,between,first,read⟩ := Console.bind_ok read
    obtain ⟨others,later,read,done⟩ := Console.bind_ok read
    cases done
    obtain ⟨answer,_,_,judged⟩ := Console.bind_ok first
    obtain ⟨same,all⟩ := ih read
    have judged := Console.lift_ok judged
    have parts := judge_ok judged
    refine ⟨by rw [List.map_cons,same,parts.1],fun other member => ?_⟩
    rcases List.mem_cons.mp member with rfl | old
    · rw [parts.1,parts.2.1]
      exact judged
    · exact all other old

variable {catalog : FieldCatalogue} {test : GuidedTest} {fixtures instrumentation : List (String × String)}
  {attended deferPhotos : Bool} {result : ManualResult} {record : Option ManualRecord}

theorem functionalOutcome_passed (passed : functionalOutcome t answers failures chosen = .pass) : failures = [] := by
  by_contra failed
  rw [functionalOutcome,if_pos failed] at passed
  cases passed

theorem manualResult_passed {kept : ManualRecord} (passed : (manualResult t test fixtures instrumentation kept).outcome = .pass) :
    kept.functionalOutcome = .pass := by
  unfold manualResult at passed
  dsimp only at passed
  split at passed
  · cases passed
  · exact passed

theorem runManual_passed
    (ran : runManual t catalog test fixtures instrumentation attended deferPhotos lines = .ok ((result,record),rest))
    (passed : result.outcome = .pass) :
    ∃ kept, record = some kept ∧ result.metrics = valuesOf kept.readings ∧
      kept.readings.map (·.field) = fieldsOf catalog test.id ∧
      ∀ reading ∈ kept.readings, judge t reading.field reading.answer = .ok reading ∧ reading.failures = [] := by
  unfold runManual at ran
  cases attended with
  | false =>
    cases ran
    cases passed
  | true =>
    simp only [Bool.not_true,Bool.false_eq_true,if_false] at ran
    obtain ⟨answers,_,_,ran⟩ := Console.bind_ok ran
    obtain ⟨readings,_,read,ran⟩ := Console.bind_ok ran
    obtain ⟨chosen,_,_,ran⟩ := Console.bind_ok ran
    obtain ⟨operator,_,_,ran⟩ := Console.bind_ok ran
    obtain ⟨comments,_,_,ran⟩ := Console.bind_ok ran
    cases ran
    have clear := functionalOutcome_passed (manualResult_passed passed)
    obtain ⟨fields,judged⟩ := readFields_ok read
    refine ⟨_,rfl,rfl,fields,fun reading member => ⟨judged reading member,?_⟩⟩
    exact List.flatMap_eq_nil_iff.mp clear reading member

-- In every run that records PASS, every field meets its demands if and only if NaN is neither
-- among the numbers that were typed nor among the limits.
theorem manual_limits_iff
    (ran : runManual t catalog test fixtures instrumentation attended deferPhotos lines = .ok ((result,record),rest))
    (passed : result.outcome = .pass) :
    ∃ kept, record = some kept ∧ result.metrics = valuesOf kept.readings ∧
      kept.readings.map (·.field) = fieldsOf catalog test.id ∧
      ((∀ reading ∈ kept.readings, Meets reading.field reading.value) ↔
        ∀ reading ∈ kept.readings, NoNan t reading.field reading.answer) := by
  obtain ⟨kept,recorded,metrics,fields,judged⟩ := runManual_passed ran passed
  refine ⟨kept,recorded,metrics,fields,forall₂_congr fun reading member => ?_⟩
  obtain ⟨accepted,clear⟩ := judged reading member
  obtain ⟨converted,checked⟩ := (judge_ok accepted).2.2 clear
  exact meets_iff converted checked

theorem valuesOf_distinct {readings : List Reading} (distinct : (readings.map (·.field.id)).Nodup) :
    valuesOf readings = readings.map fun reading => (reading.field.id,reading.value) := by
  have keys : ((readings.map fun reading => (reading.field.id,reading.value)).map Prod.fst).Nodup := by
    rw [List.map_map]
    exact distinct
  exact (OrderedMap.assignAll_fresh keys fun _ _ => List.not_mem_nil).trans (List.nil_append _)

def asciiInterpreter : Interpreter where
  decimal c := if c.toNat < 128 ∧ c.isDigit then some (c.toNat - 48) else none
  isDigit c := c.isDigit
  casefold c := [c.toLower]
  str _ := ""
  repr _ := ""
  pathExists _ := .ok false
  ascii c small := ⟨by simp [small],rfl,rfl⟩

def cableLength : ManualField where
  id := "sensor_1_cable_length_m"
  type := .number
  choices := none
  expected := none
  minimum := some (.double 0.9)
  maximum := some (.double 1.1)
  exclusiveMaximum := none

def measureCable (length : String) : Except RunError ((ManualResult × Option ManualRecord) × List String) :=
  runManual asciiInterpreter [("HW-01",[cableLength])] ⟨"HW-01",[]⟩ [] [] true false [length,"PASS","ab",""]

def passedWith (answer : String) : Except RunError ((ManualResult × Option ManualRecord) × List String) → Bool
  | .ok ((result,some kept),_) => result.outcome = .pass && kept.readings.map (·.answer) = [answer]
  | _ => false

theorem passedWith_ok {outcome : Except RunError ((ManualResult × Option ManualRecord) × List String)}
    (passed : passedWith answer outcome = true) : ∃ result kept rest, outcome = .ok ((result,some kept),rest) ∧
      result.outcome = .pass ∧ kept.readings.map (·.answer) = [answer] := by
  unfold passedWith at passed
  split at passed
  · rename_i result kept rest
    simp only [Bool.and_eq_true,decide_eq_true_eq] at passed
    exact ⟨result,kept,rest,rfl,passed.1,passed.2⟩
  · cases passed

theorem manual_limits_metre : ∃ result kept rest, measureCable "1.0" = .ok ((result,some kept),rest) ∧
    ∃ same, some kept = some same ∧ result.metrics = valuesOf same.readings ∧
      same.readings.map (·.field) = fieldsOf [("HW-01",[cableLength])] "HW-01" ∧
      ((∀ reading ∈ same.readings, Meets reading.field reading.value) ↔
        ∀ reading ∈ same.readings, NoNan asciiInterpreter reading.field reading.answer) := by
  have ran : passedWith "1.0" (measureCable "1.0") = true := by decide +kernel
  obtain ⟨result,kept,rest,ran,passed,_⟩ := passedWith_ok ran
  exact ⟨result,kept,rest,ran,manual_limits_iff ran passed⟩

-- A cable of length NaN passes.
theorem manual_limits_nan : ∃ result kept rest, measureCable "nan" = .ok ((result,some kept),rest) ∧ result.outcome = .pass ∧
    kept.readings.map (·.field) = [cableLength] ∧ ¬ ∀ reading ∈ kept.readings, Meets reading.field reading.value := by
  have ran : passedWith "nan" (measureCable "nan") = true := by decide +kernel
  obtain ⟨result,kept,rest,ran,passed,answers⟩ := passedWith_ok ran
  obtain ⟨_,same,_,fields,judged⟩ := runManual_passed ran passed
  cases same
  have only : fieldsOf [("HW-01",[cableLength])] "HW-01" = [cableLength] := rfl
  rw [only] at fields
  refine ⟨result,kept,rest,ran,passed,fields,fun meets => ?_⟩
  obtain ⟨reading,single,field⟩ := List.map_eq_singleton_iff.mp fields
  rw [single,List.map_singleton,List.cons.injEq] at answers
  obtain ⟨accepted,clear⟩ := judged reading (by simp [single])
  obtain ⟨converted,checked⟩ := (judge_ok accepted).2.2 clear
  have noNan := (meets_iff converted checked).mp (meets reading (by simp [single]))
  have nan : (Numerals.float asciiInterpreter.decimal "nan".toList).map (fun value => (Number.double value).exact) = some .nan := by
    decide +kernel
  obtain ⟨value,typed,exact⟩ := Option.map_eq_some_iff.mp nan
  exact noNan.typed (by rw [field]; rfl) value (by rw [answers.1]; exact typed) exact

end Thermometer.Verification.Manual
