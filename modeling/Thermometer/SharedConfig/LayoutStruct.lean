import Thermometer.SharedConfig.LoadAndValidate
import Thermometer.Lib.Struct

-- `_layout_struct` of the Python client: the same layouts as little-endian structs.
namespace Thermometer.SharedConfig
open Json

def structCodes : List (String × String) :=
  [("u8","B"),("i8","b"),("u16","H"),("i16","h"),("u32","I"),("i32","i"),("bytes6","6s"),("bytes16","16s"),
    ("bytes32","32s")]

-- `_STRUCT_CODES[field["type"]]`.
def structCode (field : Value) : Checked String := do
  let fieldType ← field.subscript "type"
  let _ ← fieldType.key
  match structCodes.find? fun known => fieldType.equals (.text known.1) with
  | some known => .ok known.2
  | none => .error (.keyError fieldType)

def formatCodes (layoutName : String) (layout : Value) : Checked String := do
  match (← layout.items).mapM structCode with
  | .ok codes => .ok (String.join codes)
  | .error (.keyError _) => .error (.valueErrorShowing "invalid protocol layout " (.text layoutName) "")
  | .error error => .error error

-- `field["name"]` of every field, with which the items of the struct are paired.
def fieldNames (layout : Value) : Checked (List Value) := do
  (← layout.items).mapM fun field => field.subscript "name"

structure LayoutStruct (layoutName : String) (layout : Value) (names : List String) (sizes : List Nat) : Prop where
  names : fieldNames layout = .ok (names.map Value.text)
  format : ∃ codes, formatCodes layoutName layout = .ok codes ∧ Struct.itemSizes none codes.toList = some sizes

theorem equals_text {value : Value} (equal : value.equals (.text text) = true) : value = .text text := by
  unfold Value.equals at equal
  cases value with
  | text value =>
    have same : value = text := by simpa [Value.key] using equal
    rw [same]
  | _ => simp [Value.key] at equal

theorem field_of_get {field : Value} (done : field.get name = .ok (.text value)) :
    field.subscript name = .ok (.text value) := by
  obtain ⟨entries,dictionary,same⟩ := bind_ok done
  cases field with
  | object pairs =>
    unfold Value.subscript
    cases present : Value.field (.object pairs) name with
    | none =>
      rw [present] at same
      cases same
    | some found =>
      rw [present] at same
      exact same
  | _ => cases dictionary

theorem typeSize_struct {field fieldType : Value} (read : field.get "type" = .ok fieldType)
    (known : typeSize fieldType = .ok size) :
    ∃ codes, structCode field = .ok codes ∧ Struct.itemSizes none codes.toList = some [size] := by
  obtain ⟨_,_,found⟩ := bind_ok known
  cases searched : typeSizes.find? fun known => fieldType.equals (.text known.1) with
  | none =>
    rw [searched] at found
    cases found
  | some entry =>
    rw [searched] at found
    cases found
    have member := List.mem_of_find?_eq_some searched
    have found := List.find?_some searched
    have typed := equals_text found
    subst typed
    unfold structCode
    rw [field_of_get read]
    simp only [typeSizes,List.mem_cons,List.not_mem_nil,or_false] at member
    rcases member with rfl | rfl | rfl | rfl | rfl | rfl | rfl | rfl | rfl <;>
      exact ⟨_,rfl,by decide +kernel⟩

theorem addField_struct {field : Value} (added : addField (offset,offsets) field = .ok details) :
    ∃ name codes size, field.subscript "name" = .ok (.text name) ∧ structCode field = .ok codes ∧
      Struct.itemSizes none codes.toList = some [size] ∧ details = (offset + size,offsets ++ [(name,offset)]) := by
  obtain ⟨name,named,added⟩ := bind_ok added
  obtain ⟨fieldType,typed,added⟩ := bind_ok added
  cases name with
  | text name =>
    obtain ⟨_,_,added⟩ := bind_ok added
    obtain ⟨size,sized,added⟩ := bind_ok added
    obtain ⟨_,_,made⟩ := bind_ok added
    obtain ⟨codes,coded,items⟩ := typeSize_struct typed sized
    exact ⟨name,codes,size,field_of_get named,coded,items,(Except.ok.inj made).symm⟩
  | _ => cases added

theorem addFields_struct {fields : List Value} (added : fields.foldlM addField (offset,offsets) = .ok details) :
    ∃ (names codes : List String) (sizes : List Nat), fields.mapM (fun field => field.subscript "name") = .ok (names.map Value.text) ∧
      fields.mapM structCode = .ok codes ∧ Struct.itemSizes none (String.join codes).toList = some sizes ∧
      details = (offset + sizes.sum,offsets ++ names.zip (Struct.itemOffsets offset sizes)) ∧
      names.length = sizes.length := by
  induction fields generalizing offset offsets with
  | nil =>
    cases added
    exact ⟨[],[],[],rfl,rfl,rfl,by simp [Struct.itemOffsets],rfl⟩
  | cons field rest ih =>
    rw [List.foldlM_cons] at added
    obtain ⟨middle,first,later⟩ := bind_ok added
    obtain ⟨name,code,size,named,coded,item,rfl⟩ := addField_struct first
    obtain ⟨names,codes,sizes,otherNames,otherCodes,items,made,count⟩ := ih later
    refine ⟨name :: names,code :: codes,size :: sizes,?_,?_,?_,?_,by simp [count]⟩
    · rw [List.mapM_cons,named,otherNames]
      rfl
    · rw [List.mapM_cons,coded,otherCodes]
      rfl
    · rw [String.join_cons,String.toList_append,Struct.itemSizes_append item,items]
      rfl
    · rw [made]
      simp [Struct.itemOffsets,Nat.add_assoc]

theorem layoutDetails_struct (layoutName : String) {layout : Value} (detailed : layoutDetails layout = .ok (size,offsets)) :
    ∃ names sizes, LayoutStruct layoutName layout names sizes ∧ size = sizes.sum ∧
      offsets = names.zip (Struct.itemOffsets 0 sizes) ∧ names.length = sizes.length := by
  obtain ⟨fields,read,added⟩ := bind_ok detailed
  obtain ⟨names,codes,sizes,named,coded,items,made,count⟩ := addFields_struct added
  simp only [Prod.mk.injEq,Nat.zero_add,List.nil_append] at made
  refine ⟨names,sizes,⟨?_,String.join codes,?_,items⟩,made.1,made.2,count⟩
  · unfold fieldNames
    rw [read]
    exact named
  · unfold formatCodes
    rw [read]
    change (match fields.mapM structCode with | .ok codes => _ | .error (.keyError _) => _ | .error error => _) = _
    rw [coded]

end Thermometer.SharedConfig
