import Mathlib.Data.List.Basic
import Mathlib.Tactic.Common

-- Comma-separated rows in the dialect "excel": a field is quoted where it has to be, and a
-- row ends with carriage return and newline.
namespace Thermometer.Csv

def special (c : Char) : Bool := c = ',' || c = '"' || c = '\r' || c = '\n'

def doubled (field : List Char) : List Char := field.flatMap fun c => if c = '"' then ['"','"'] else [c]

def writeField (field : List Char) : List Char :=
  if field.any special then '"' :: (doubled field ++ ['"']) else field

def joined : List (List Char) → List Char
  | [] => []
  | [field] => writeField field
  | field :: rest => writeField field ++ ',' :: joined rest

-- A row of one empty field would look like a row without fields.
def writeRow : List (List Char) → List Char
  | [[]] => ['"','"','\r','\n']
  | row => joined row ++ ['\r','\n']

def writer (rows : List (List String)) : String := String.ofList (rows.flatMap fun row => writeRow (row.map String.toList))

inductive Mode where
  | startRecord | startField | inField | inQuoted | quoteInQuoted | eatNewline

structure Reader where
  mode : Mode
  field : List Char
  row : List (List Char)

def idle : Reader := ⟨.startRecord,[],[]⟩

def plain (field : List Char) (row : List (List Char)) (c : Char) : Reader × List (List (List Char)) :=
  if c = ',' then (⟨.startField,[],row ++ [field]⟩,[])
  else if c = '\n' then (idle,[row ++ [field]])
  else if c = '\r' then (⟨.eatNewline,[],[]⟩,[row ++ [field]])
  else (⟨.inField,field ++ [c],row⟩,[])

def startField (row : List (List Char)) (c : Char) : Reader × List (List (List Char)) :=
  if c = '"' then (⟨.inQuoted,[],row⟩,[]) else plain [] row c

def startRecord (c : Char) : Reader × List (List (List Char)) :=
  if c = '\n' then (idle,[[]]) else if c = '\r' then (⟨.eatNewline,[],[]⟩,[[]]) else startField [] c

def step (s : Reader) (c : Char) : Reader × List (List (List Char)) :=
  match s.mode with
  | .startRecord => startRecord c
  | .startField => startField s.row c
  | .inField => plain s.field s.row c
  | .inQuoted => if c = '"' then ({ s with mode := .quoteInQuoted },[]) else ({ s with field := s.field ++ [c] },[])
  | .quoteInQuoted => if c = '"' then (⟨.inQuoted,s.field ++ ['"'],s.row⟩,[]) else plain s.field s.row c
  | .eatNewline => if c = '\n' then (idle,[]) else startRecord c

def finish (s : Reader) : List (List (List Char)) :=
  match s.mode with
  | .startRecord | .eatNewline => []
  | _ => [s.row ++ [s.field]]

def records (s : Reader) : List Char → List (List (List Char))
  | [] => finish s
  | c :: rest => (step s c).2 ++ records (step s c).1 rest

def reader (text : String) : List (List String) := (records idle text.toList).map (·.map String.ofList)

variable {field : List Char} {row : List (List Char)} {rest : List Char}

theorem inField_run {text : List Char} (simple : text.any special = false) :
    records ⟨.inField,field,row⟩ (text ++ rest) = records ⟨.inField,field ++ text,row⟩ rest := by
  induction text generalizing field with
  | nil => simp
  | cons c text ih =>
    rw [List.any_cons,Bool.or_eq_false_iff] at simple
    obtain ⟨ordinary,later⟩ := simple
    have kept : step ⟨.inField,field,row⟩ c = (⟨.inField,field ++ [c],row⟩,[]) := by
      simp [special] at ordinary
      simp [step,plain,ordinary]
    rw [List.cons_append,records,kept,List.nil_append,ih later,List.append_assoc]
    rfl

theorem inQuoted_run (text : List Char) :
    records ⟨.inQuoted,field,row⟩ (doubled text ++ rest) = records ⟨.inQuoted,field ++ text,row⟩ rest := by
  induction text generalizing field with
  | nil => simp [doubled]
  | cons c text ih =>
    have one : doubled (c :: text) = (if c = '"' then ['"','"'] else [c]) ++ doubled text := rfl
    rw [one]
    have run : records ⟨.inQuoted,field ++ [c],row⟩ (doubled text ++ rest) =
      records ⟨.inQuoted,field ++ [c] ++ text,row⟩ rest := ih
    by_cases quote : c = '"'
    · subst quote
      simpa [records,step] using run
    · simpa [records,step,quote] using run

theorem field_ended {c : Char} (last : c = ',' ∨ c = '\r') (field : List Char) :
    records ⟨.startField,[],row⟩ (writeField field ++ c :: rest) =
      (plain field row c).2 ++ records (plain field row c).1 rest := by
  have unquoted : c ≠ '"' := by rcases last with rfl | rfl <;> decide
  unfold writeField
  split
  · have opened : step ⟨.startField,[],row⟩ '"' = (⟨.inQuoted,[],row⟩,[]) := rfl
    rw [List.cons_append,records,opened,List.nil_append,List.append_assoc,inQuoted_run]
    simp [records,step,unquoted]
  · rename_i simple
    cases field with
    | nil => simp [records,step,startField,unquoted]
    | cons first text =>
      rw [Bool.not_eq_true,List.any_cons,Bool.or_eq_false_iff] at simple
      obtain ⟨ordinary,later⟩ := simple
      have began : step ⟨.startField,[],row⟩ first = (⟨.inField,[first],row⟩,[]) := by
        simp [special] at ordinary
        simp [step,startField,plain,ordinary]
      rw [List.cons_append,records,began,List.nil_append,inField_run later]
      simp [records,step]

theorem row_ended (field : List Char) (fields : List (List Char)) :
    records ⟨.startField,[],row⟩ (joined (field :: fields) ++ '\r' :: '\n' :: rest) =
      (row ++ field :: fields) :: records idle rest := by
  induction fields generalizing field row with
  | nil =>
    rw [joined,field_ended (.inr rfl)]
    simp [plain,records,step]
  | cons next fields ih =>
    rw [joined,List.append_assoc,List.cons_append,field_ended (.inl rfl)]
    · have continued : records ⟨.startField,[],row ++ [field]⟩ (joined (next :: fields) ++ '\r' :: '\n' :: rest) =
        (row ++ [field] ++ next :: fields) :: records idle rest := ih next
      simpa [plain] using continued
    · exact List.cons_ne_nil _ _

theorem writeField_begins (filled : field ≠ []) : ∃ c text, writeField field = c :: text ∧ c ≠ '\n' ∧ c ≠ '\r' := by
  unfold writeField
  split
  · exact ⟨'"',_,rfl,by decide,by decide⟩
  · rename_i simple
    obtain ⟨c,text,rfl⟩ := List.exists_cons_of_ne_nil filled
    rw [Bool.not_eq_true,List.any_cons,Bool.or_eq_false_iff] at simple
    refine ⟨c,text,rfl,?_,?_⟩ <;>
    · rintro rfl
      cases simple.1

theorem row_begun (row : List (List Char)) (filled : row ≠ []) (other : row ≠ [[]]) :
    records idle (joined row ++ '\r' :: '\n' :: rest) = records ⟨.startField,[],[]⟩ (joined row ++ '\r' :: '\n' :: rest) := by
  have first : ∃ c text, joined row = c :: text ∧ c ≠ '\n' ∧ c ≠ '\r' := by
    match row with
    | [field] =>
      rw [joined]
      exact writeField_begins fun empty => other (by rw [empty])
    | [] :: next :: fields => exact ⟨',',_,rfl,by decide,by decide⟩
    | (c :: text) :: next :: fields =>
      obtain ⟨first,later,same,apart⟩ := writeField_begins (List.cons_ne_nil c text)
      exact ⟨first,later ++ ',' :: joined (next :: fields),by rw [joined,same]; rfl; exact List.cons_ne_nil _ _,apart⟩
  obtain ⟨c,text,same,newline,carriage⟩ := first
  rw [same,List.cons_append,records,records]
  simp [step,idle,startRecord,newline,carriage]

theorem row_read (row : List (List Char)) : records idle (writeRow row ++ rest) = row :: records idle rest := by
  unfold writeRow
  split
  · simp [records,step,idle,startRecord,startField,plain]
  · rename_i other
    rw [List.append_assoc]
    cases row with
    | nil => simp [joined,records,step,idle,startRecord]
    | cons field fields =>
      exact (row_begun (field :: fields) (List.cons_ne_nil _ _) other).trans (row_ended field fields)

theorem rows_read (rows : List (List (List Char))) : records idle (rows.flatMap writeRow) = rows := by
  induction rows with
  | nil => rfl
  | cons row rows ih => rw [List.flatMap_cons,row_read,ih]

theorem reader_writer (rows : List (List String)) : reader (writer rows) = rows := by
  unfold reader writer
  rw [String.toList_ofList]
  have read := rows_read (rows.map (·.map String.toList))
  rw [List.flatMap_map] at read
  rw [read,List.map_map]
  simp

example : writer [["say \"no\", twice","","\n"],[""]] = "\"say \"\"no\"\", twice\",,\"\n\"\r\n\"\"\r\n" := by decide +kernel

end Thermometer.Csv
