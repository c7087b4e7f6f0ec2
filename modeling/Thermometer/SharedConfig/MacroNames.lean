import Thermometer.Lib.Texts
import Thermometer.SharedConfig.GenerateHeader
import Thermometer.SharedConfig.LayoutStruct
import Thermometer.SharedConfig.ThermometerProtocol

-- What a generated header says about the layouts, and when its names tell the names of the
-- document apart.
namespace Thermometer.SharedConfig
open Json Texts

def layoutsOf (config : Value) : List (String × Value) := (config.follow ["protocol","layouts"]).entries

def tableOf (config : Value) (group : String) : List (String × Value) := (config.follow ["protocol",group]).entries

def sensorsOf (config : Value) : List Value :=
  match (config.follow ["simulation","sensors"]).items with
  | .ok sensors => sensors
  | .error _ => []

def fieldPairs (config : Value) : List (String × String) :=
  (layoutsOf config).flatMap fun layout => (layoutFieldsOf layout.2).2.map fun field => (layout.1,field.1)

inductive ConfigName where
  | entry (table : String × String) (name : String)
  | field (pair : String × String)
  deriving DecidableEq

def configNames (config : Value) : List ConfigName :=
  (tablePrefixes.flatMap fun table => (tableOf config table.1).map fun known => .entry table known.1) ++
    (fieldPairs config).map .field

def ConfigName.macro (library : Library) : ConfigName → String
  | .entry table name => table.2 ++ macroName library name
  | .field pair => offsetMacro library pair.1 pair.2

section Statement

variable (library : Library) (config : Value) (lines : List Line)

def DefinesLayout (layout : String × Value) : Prop :=
  ∃ names sizes, LayoutStruct layout.1 layout.2 names sizes ∧ names.length = sizes.length ∧
    (sizeMacro library layout.1,unsignedInteger sizes.sum) ∈ definitions lines ∧
    ∀ item ∈ names.zip (Struct.itemOffsets 0 sizes),
      (offsetMacro library layout.1 item.1,unsignedInteger item.2) ∈ definitions lines

def Agree (a b : List (String × MacroValue)) : Prop :=
  ∀ name first second, (name,first) ∈ a → (name,second) ∈ b → first = second

structure HeaderAgrees : Prop where
  layouts : ∀ layout ∈ layoutsOf config, DefinesLayout library lines layout
  single : Agree (definitions lines) (definitions lines)
  distinct : ∀ a ∈ configNames config, ∀ b ∈ configNames config, a.macro library = b.macro library → a = b

structure Separated : Prop where
  tables : ∀ table ∈ tablePrefixes, ∀ a ∈ tableOf config table.1, ∀ b ∈ tableOf config table.1,
    macroName library a.1 = macroName library b.1 → a.1 = b.1
  fields : ∀ a ∈ fieldPairs config, ∀ b ∈ fieldPairs config,
    macroName library a.1 ++ "_" ++ macroName library a.2 = macroName library b.1 ++ "_" ++ macroName library b.2 → a = b
  tableFields : ∀ table ∈ tablePrefixes, ∀ a ∈ tableOf config table.1, ∀ b ∈ fieldPairs config,
    table.2 ++ macroName library a.1 ≠ offsetMacro library b.1 b.2
  tableSizes : ∀ table ∈ tablePrefixes, ∀ a ∈ tableOf config table.1, ∀ b ∈ layoutsOf config,
    table.2 ++ macroName library a.1 = sizeMacro library b.1 → a.2 = .integer (layoutFieldsOf b.2).1
  layouts : ∀ a ∈ layoutsOf config, ∀ b ∈ layoutsOf config, macroName library a.1 = macroName library b.1 →
    (layoutFieldsOf a.2).1 = (layoutFieldsOf b.2).1
  packet : ∀ a ∈ layoutsOf config, macroName library a.1 = "MAX_PACKET" →
    maximumPacketSize (config.follow ["protocol"]) (config.follow ["protocol","layouts"]) =
      .ok (.integer (layoutFieldsOf a.2).1)
  sensors : ∀ sensor ∈ sensorsOf config, ∀ a ∈ sensor.entries, ∀ b ∈ sensor.entries,
    macroName library a.1 = macroName library b.1 → library.str a.2 = library.str b.2

end Statement

section Agreement

variable {a b c : List (String × MacroValue)}

theorem agree_comm : Agree a b ↔ Agree b a :=
  ⟨fun agree name first second h k => (agree name second first k h).symm,
    fun agree name first second h k => (agree name second first k h).symm⟩

theorem agree_append_left : Agree (a ++ b) c ↔ Agree a c ∧ Agree b c := by
  constructor
  · intro agree
    exact ⟨fun name first second h => agree name first second (List.mem_append_left _ h),
      fun name first second h => agree name first second (List.mem_append_right _ h)⟩
  · intro ⟨left,right⟩ name first second h
    rcases List.mem_append.mp h with h | h
    · exact left name first second h
    · exact right name first second h

theorem agree_append_right : Agree a (b ++ c) ↔ Agree a b ∧ Agree a c := by
  rw [agree_comm,agree_append_left,agree_comm,agree_comm (a := c)]

theorem agree_append_self : Agree (a ++ b) (a ++ b) ↔ Agree a a ∧ Agree b b ∧ Agree a b := by
  rw [agree_append_left,agree_append_right,agree_append_right,agree_comm (a := b) (b := a)]
  tauto

theorem agree_of_nodup (distinct : (a.map Prod.fst).Nodup) : Agree a a :=
  fun _ _ _ h k => OrderedMap.value_unique distinct h k

end Agreement

section Groups

variable {library : Library} {config layouts protocol : Value} {sensors : List Value} {name : String} {value : MacroValue}

theorem mem_sensorDefinitions : (name,value) ∈ sensorDefinitions library sensors ↔
    ∃ index sensor, sensors[index]? = some sensor ∧ ∃ known ∈ sensor.entries,
      sensorMacro library index known.1 = name ∧ .plain (library.str known.2) = value := by
  simp only [sensorDefinitions,List.mem_flatMap,List.mem_map,Prod.mk.injEq]
  constructor
  · rintro ⟨⟨sensor,index⟩,listed,known⟩
    exact ⟨index,sensor,List.mem_zipIdx_iff_getElem?.mp listed,known⟩
  · rintro ⟨index,sensor,listed,known⟩
    exact ⟨(sensor,index),List.mem_zipIdx_iff_getElem?.mpr listed,known⟩

theorem mem_tableDefinitions : (name,value) ∈ tableDefinitions library (config.follow ["protocol"]) ↔
    ∃ table ∈ tablePrefixes, ∃ known ∈ tableOf config table.1,
      table.2 ++ macroName library known.1 = name ∧ .unsigned known.2 = value := by
  simp only [tableDefinitions,List.mem_flatMap,List.mem_map,Prod.mk.injEq]
  rfl

theorem mem_layoutDefinitions : (name,value) ∈ layoutDefinitions library (config.follow ["protocol","layouts"]) ↔
    ∃ layout ∈ layoutsOf config,
      name = sizeMacro library layout.1 ∧ value = unsignedInteger (layoutFieldsOf layout.2).1 ∨
      ∃ field ∈ (layoutFieldsOf layout.2).2,
        offsetMacro library layout.1 field.1 = name ∧ unsignedInteger field.2 = value := by
  simp only [layoutDefinitions,List.mem_flatMap,List.mem_cons,List.mem_map,Prod.mk.injEq]
  rfl

theorem mem_fieldPairs {pair : String × String} : pair ∈ fieldPairs config ↔
    ∃ layout ∈ layoutsOf config, ∃ field ∈ (layoutFieldsOf layout.2).2, (layout.1,field.1) = pair := by
  simp only [fieldPairs,List.mem_flatMap,List.mem_map]

theorem fixedNames_nodup : fixedNames.Nodup := by decide +kernel

theorem fixed_apart : ∀ name ∈ fixedNames, begins "THERMOMETER_FAKE_SENSOR_" name = false ∧
    (begins "PROTOCOL_" name → (∀ table ∈ tablePrefixes, begins table.2 name = false) ∧
      (ends "_SIZE" name || ends "_OFFSET" name) = false) := by
  decide +kernel

-- The pieces of which the names are made do not fit into one another.
theorem pieces_apart :
    (begins "THERMOMETER_FAKE_SENSOR_" "PROTOCOL_" || begins "PROTOCOL_" "THERMOMETER_FAKE_SENSOR_") = false ∧
    (begins ("THERMOMETER_FAKE_SENSOR_" ++ toString (0 + 1) ++ "_") ("THERMOMETER_FAKE_SENSOR_" ++ toString (1 + 1) ++ "_") ||
      begins ("THERMOMETER_FAKE_SENSOR_" ++ toString (1 + 1) ++ "_")
        ("THERMOMETER_FAKE_SENSOR_" ++ toString (0 + 1) ++ "_")) = false ∧
    (ends "_SIZE" "_OFFSET" || ends "_OFFSET" "_SIZE") = false ∧
    "PROTOCOL_MAX_PACKET_SIZE" = "PROTOCOL_" ++ "MAX_PACKET" ++ "_SIZE" ∧
    ∀ table ∈ tablePrefixes, begins "PROTOCOL_" table.2 ∧ begins table.2 "PROTOCOL_MAX_PACKET_SIZE" = false ∧
      ∀ other ∈ tablePrefixes, begins table.2 other.2 → table = other := by
  decide +kernel

theorem packet_begins : begins "PROTOCOL_" "PROTOCOL_MAX_PACKET_SIZE" := by
  rw [pieces_apart.2.2.2.1]
  exact begins_append_left _ (begins_append _ _)

theorem packet_ends : ends "_SIZE" "PROTOCOL_MAX_PACKET_SIZE" := by
  rw [pieces_apart.2.2.2.1]
  exact ends_append _ _

theorem table_unique {table other : String × String} (known : table ∈ tablePrefixes) (alsoKnown : other ∈ tablePrefixes)
    (first : begins table.2 name) (second : begins other.2 name) : table = other := by
  obtain ⟨_,_,_,_,tables⟩ := pieces_apart
  rcases begins_comparable first second with start | start
  · exact (tables table known).2.2 other alsoKnown start
  · exact ((tables other alsoKnown).2.2 table known start).symm

theorem sensorMacro_begins (index : Nat) (key : String) :
    begins "THERMOMETER_FAKE_SENSOR_" (sensorMacro library index key) := by
  unfold sensorMacro
  rw [String.append_assoc,String.append_assoc]
  exact begins_append _ _

theorem sensor_index {i j : Nat} (below : i < 2) (belowOther : j < 2)
    (first : begins ("THERMOMETER_FAKE_SENSOR_" ++ toString (i + 1) ++ "_") name)
    (second : begins ("THERMOMETER_FAKE_SENSOR_" ++ toString (j + 1) ++ "_") name) : i = j := by
  by_contra different
  have sides : i = 0 ∧ j = 1 ∨ i = 1 ∧ j = 0 := by omega
  rcases sides with ⟨rfl,rfl⟩ | ⟨rfl,rfl⟩
  · exact absurd second (not_both_begin pieces_apart.2.1 first)
  · exact absurd first (not_both_begin pieces_apart.2.1 second)

theorem sizeMacro_ends (layoutName : String) : ends "_SIZE" (sizeMacro library layoutName) := ends_append _ _

theorem offsetMacro_ends (layoutName fieldName : String) :
    ends "_OFFSET" (offsetMacro library layoutName fieldName) := ends_append _ _

theorem sizeMacro_begins (layoutName : String) : begins "PROTOCOL_" (sizeMacro library layoutName) :=
  begins_append_left _ (begins_append _ _)

theorem offsetMacro_begins (layoutName fieldName : String) :
    begins "PROTOCOL_" (offsetMacro library layoutName fieldName) := by
  unfold offsetMacro
  rw [String.append_assoc,String.append_assoc,String.append_assoc]
  exact begins_append _ _

theorem size_ne_offset (a b field : String) : sizeMacro library a ≠ offsetMacro library b field := by
  intro same
  exact not_both_end pieces_apart.2.2.1 (sizeMacro_ends a) (same ▸ offsetMacro_ends b field)

theorem sizeMacro_inj {a b : String} (same : sizeMacro library a = sizeMacro library b) :
    macroName library a = macroName library b := by
  unfold sizeMacro at same
  rwa [String.append_left_inj,String.append_right_inj] at same

theorem sizeMacro_packet {a : String} :
    sizeMacro library a = "PROTOCOL_MAX_PACKET_SIZE" ↔ macroName library a = "MAX_PACKET" := by
  unfold sizeMacro
  rw [pieces_apart.2.2.2.1,String.append_left_inj,String.append_right_inj]

theorem offsetMacro_eq_iff {a b : String × String} :
    offsetMacro library a.1 a.2 = offsetMacro library b.1 b.2 ↔
      macroName library a.1 ++ "_" ++ macroName library a.2 = macroName library b.1 ++ "_" ++ macroName library b.2 := by
  have regroup (x y : String) : "PROTOCOL_" ++ x ++ "_" ++ y ++ "_OFFSET" = "PROTOCOL_" ++ (x ++ "_" ++ y) ++ "_OFFSET" := by
    simp only [String.append_assoc]
  unfold offsetMacro
  rw [regroup,regroup,String.append_left_inj,String.append_right_inj]

variable (separated : Separated library config)

include separated in
theorem tables_agree : Agree (tableDefinitions library (config.follow ["protocol"]))
    (tableDefinitions library (config.follow ["protocol"])) := by
  intro name first second left right
  obtain ⟨table,known,a,inA,rfl,rfl⟩ := mem_tableDefinitions.mp left
  obtain ⟨other,alsoKnown,b,inB,same,rfl⟩ := mem_tableDefinitions.mp right
  have one := table_unique known alsoKnown (begins_append table.2 _) (same ▸ begins_append other.2 _)
  subst one
  have named := separated.tables table known a inA b inB (String.append_right_inj _ |>.mp same.symm)
  rw [List.inj_on_of_nodup_map (Value.entries_nodup _) inA inB named]

include separated in
theorem sensors_agree (listed : sensorsOf config = sensors) (two : sensors.length = 2) :
    Agree (sensorDefinitions library sensors) (sensorDefinitions library sensors) := by
  intro name first second left right
  obtain ⟨i,sensor,atI,a,inA,rfl,rfl⟩ := mem_sensorDefinitions.mp left
  obtain ⟨j,other,atJ,b,inB,same,rfl⟩ := mem_sensorDefinitions.mp right
  have below : i < 2 := two ▸ (List.getElem?_eq_some_iff.mp atI).1
  have belowOther : j < 2 := two ▸ (List.getElem?_eq_some_iff.mp atJ).1
  by_cases one : i = j
  · subst one
    cases Option.some.inj (atI.symm.trans atJ)
    have named : macroName library b.1 = macroName library a.1 := String.append_right_inj _ |>.mp same
    rw [separated.sensors sensor (listed ▸ List.mem_of_getElem? atI) b inB a inA named]
  · have start : begins ("THERMOMETER_FAKE_SENSOR_" ++ toString (j + 1) ++ "_") (sensorMacro library i a.1) :=
      same ▸ begins_append _ _
    exact absurd (sensor_index below belowOther (begins_append _ _) start) one

include separated in
theorem layouts_agree (detailed : ∀ layout ∈ layoutsOf config, ∃ details, layoutDetails layout.2 = .ok details) :
    Agree (layoutDefinitions library (config.follow ["protocol","layouts"]))
      (layoutDefinitions library (config.follow ["protocol","layouts"])) := by
  intro name first second left right
  obtain ⟨a,inA,sizeA | offsetA⟩ := mem_layoutDefinitions.mp left <;>
    obtain ⟨b,inB,sizeB | offsetB⟩ := mem_layoutDefinitions.mp right
  · obtain ⟨rfl,rfl⟩ := sizeA
    obtain ⟨same,rfl⟩ := sizeB
    rw [separated.layouts a inA b inB (sizeMacro_inj same)]
  · obtain ⟨rfl,rfl⟩ := sizeA
    obtain ⟨field,_,same,_⟩ := offsetB
    exact absurd same.symm (size_ne_offset a.1 b.1 field.1)
  · obtain ⟨rfl,rfl⟩ := sizeB
    obtain ⟨field,_,same,_⟩ := offsetA
    exact absurd same.symm (size_ne_offset b.1 a.1 field.1)
  · obtain ⟨f,inF,rfl,rfl⟩ := offsetA
    obtain ⟨g,inG,same,rfl⟩ := offsetB
    have pairs := separated.fields (a.1,f.1) (mem_fieldPairs.mpr ⟨a,inA,f,inF,rfl⟩) (b.1,g.1)
      (mem_fieldPairs.mpr ⟨b,inB,g,inG,rfl⟩) (offsetMacro_eq_iff.mp same.symm)
    obtain ⟨layoutName,fieldName⟩ := Prod.mk.inj pairs
    cases List.inj_on_of_nodup_map (Value.entries_nodup _) inA inB layoutName
    obtain ⟨details,known⟩ := detailed a inA
    have viewed : layoutFieldsOf a.2 = details := by rw [layoutFieldsOf,known]
    rw [viewed] at inF inG
    rw [List.inj_on_of_nodup_map (layoutDetails_distinct known) inF inG fieldName]

include separated in
theorem tables_layouts_agree : Agree (tableDefinitions library (config.follow ["protocol"]))
    (layoutDefinitions library (config.follow ["protocol","layouts"])) := by
  intro name first second left right
  obtain ⟨table,known,a,inA,rfl,rfl⟩ := mem_tableDefinitions.mp left
  obtain ⟨b,inB,⟨same,rfl⟩ | ⟨field,inField,same,_⟩⟩ := mem_layoutDefinitions.mp right
  · rw [separated.tableSizes table known a inA b inB same]
    rfl
  · have pair := mem_fieldPairs.mpr ⟨b,inB,field,inField,rfl⟩
    exact absurd same.symm (separated.tableFields table known a inA (b.1,field.1) pair)

include separated in
theorem layouts_packet_agree {maximum : Number}
    (made : maximumPacketSize (config.follow ["protocol"]) (config.follow ["protocol","layouts"]) = .ok maximum) :
    Agree (layoutDefinitions library (config.follow ["protocol","layouts"]))
      [("PROTOCOL_MAX_PACKET_SIZE",unsignedNumber maximum)] := by
  intro name first second left right
  obtain ⟨rfl,rfl⟩ := Prod.mk.inj (List.mem_singleton.mp right)
  obtain ⟨a,inA,⟨same,rfl⟩ | ⟨field,_,same,_⟩⟩ := mem_layoutDefinitions.mp left
  · have size := separated.packet a inA (sizeMacro_packet.mp same.symm)
    cases Except.ok.inj (made.symm.trans size)
    rfl
  · have offset := @offsetMacro_ends library a.1 field.1
    rw [same] at offset
    exact absurd offset (not_both_end pieces_apart.2.2.1 packet_ends)

omit separated in
theorem sensor_begins (present : (name,value) ∈ sensorDefinitions library sensors) :
    begins "THERMOMETER_FAKE_SENSOR_" name := by
  obtain ⟨index,_,_,known,_,rfl,_⟩ := mem_sensorDefinitions.mp present
  exact sensorMacro_begins index known.1

omit separated in
theorem table_begins (present : (name,value) ∈ tableDefinitions library (config.follow ["protocol"])) :
    begins "PROTOCOL_" name ∧ ∃ table ∈ tablePrefixes, begins table.2 name := by
  obtain ⟨table,known,_,_,rfl,_⟩ := mem_tableDefinitions.mp present
  obtain ⟨_,_,_,_,tables⟩ := pieces_apart
  exact ⟨begins_append_left _ (tables table known).1,table,known,begins_append _ _⟩

omit separated in
theorem layout_shape (present : (name,value) ∈ layoutDefinitions library (config.follow ["protocol","layouts"])) :
    begins "PROTOCOL_" name ∧ (ends "_SIZE" name || ends "_OFFSET" name) := by
  obtain ⟨layout,_,⟨rfl,_⟩ | ⟨field,_,rfl,_⟩⟩ := mem_layoutDefinitions.mp present
  · refine ⟨sizeMacro_begins _,?_⟩
    rw [sizeMacro_ends]
    rfl
  · refine ⟨offsetMacro_begins _ _,?_⟩
    rw [offsetMacro_ends,Bool.or_true]

omit separated in
theorem fixed_agree {fixed : List (String × MacroValue)} {maximum : Number} (named : fixed.map Prod.fst = fixedNames) :
    Agree fixed (sensorDefinitions library sensors ++ (tableDefinitions library (config.follow ["protocol"]) ++
      (layoutDefinitions library (config.follow ["protocol","layouts"]) ++
        [("PROTOCOL_MAX_PACKET_SIZE",unsignedNumber maximum)]))) := by
  intro name first second left right
  obtain ⟨noSensor,others⟩ := fixed_apart name (named ▸ List.mem_map_of_mem (f := Prod.fst) left)
  exfalso
  rcases List.mem_append.mp right with sensor | right
  · exact Bool.false_ne_true (noSensor.symm.trans (sensor_begins sensor))
  rcases List.mem_append.mp right with table | right
  · obtain ⟨protocol,table,known,start⟩ := table_begins table
    exact Bool.false_ne_true (((others protocol).1 table known).symm.trans start)
  rcases List.mem_append.mp right with layout | packet
  · obtain ⟨protocol,ending⟩ := layout_shape layout
    exact Bool.false_ne_true ((others protocol).2.symm.trans ending)
  · cases List.mem_singleton.mp packet
    have ending := (others packet_begins).2
    rw [packet_ends,Bool.true_or] at ending
    exact Bool.false_ne_true ending.symm

omit separated in
theorem sensors_others_agree {maximum : Number} : Agree (sensorDefinitions library sensors)
    (tableDefinitions library (config.follow ["protocol"]) ++
      (layoutDefinitions library (config.follow ["protocol","layouts"]) ++
        [("PROTOCOL_MAX_PACKET_SIZE",unsignedNumber maximum)])) := by
  intro name first second left right
  have protocol : begins "PROTOCOL_" name := by
    rcases List.mem_append.mp right with table | right
    · exact (table_begins table).1
    rcases List.mem_append.mp right with layout | packet
    · exact (layout_shape layout).1
    · cases List.mem_singleton.mp packet
      exact packet_begins
  exact absurd protocol (not_both_begin pieces_apart.1 (sensor_begins left))

omit separated in
theorem tables_packet_agree {maximum : Number} : Agree (tableDefinitions library (config.follow ["protocol"]))
    [("PROTOCOL_MAX_PACKET_SIZE",unsignedNumber maximum)] := by
  intro name first second left right
  cases List.mem_singleton.mp right
  obtain ⟨_,table,known,start⟩ := table_begins left
  obtain ⟨_,_,_,_,tables⟩ := pieces_apart
  exact absurd start (by simp [(tables table known).2.1])

end Groups

section Headers

variable {library : Library} {config result : Value} {lines : List Line} {sourceName passkey : String}

theorem header_defines (generated : generateHeader library config sourceName passkey = .ok lines)
    (member : layout ∈ layoutsOf config) : DefinesLayout library lines layout := by
  obtain ⟨_,_,_,_,_,_,_,detailed,defined⟩ := generateHeader_definitions generated
  obtain ⟨⟨size,offsets⟩,known⟩ := detailed layout member
  obtain ⟨names,sizes,struct,total,items,count⟩ := layoutDetails_struct layout.1 known
  have viewed : layoutFieldsOf layout.2 = (size,offsets) := by rw [layoutFieldsOf,known]
  refine ⟨names,sizes,struct,count,?_,?_⟩
  · apply (defined _).mpr
    refine .inr (.inr (.inr (.inl (mem_layoutDefinitions.mpr ⟨layout,member,.inl ⟨rfl,?_⟩⟩))))
    rw [viewed,total]
  · intro item listed
    apply (defined _).mpr
    refine .inr (.inr (.inr (.inl (mem_layoutDefinitions.mpr ⟨layout,member,.inr ⟨item,?_,rfl,rfl⟩⟩))))
    rw [viewed,items]
    exact listed

theorem header_single (accepted : loadAndValidate library config = .ok result)
    (generated : generateHeader library config sourceName passkey = .ok lines) (separated : Separated library config) :
    Agree (definitions lines) (definitions lines) := by
  obtain ⟨fixed,sensors,maximum,items,named,_,made,detailed,defined⟩ := generateHeader_definitions generated
  obtain ⟨others,sameItems,two⟩ := accepted_sensors accepted
  cases Except.ok.inj (items.symm.trans sameItems)
  have listed : sensorsOf config = sensors := by rw [sensorsOf,items]
  have packet : Agree [("PROTOCOL_MAX_PACKET_SIZE",unsignedNumber maximum)]
      [("PROTOCOL_MAX_PACKET_SIZE",unsignedNumber maximum)] := agree_of_nodup (List.nodup_singleton _)
  have fixedAgree : Agree fixed fixed := agree_of_nodup (named ▸ fixedNames_nodup)
  have layouts := agree_append_self.mpr
    ⟨layouts_agree separated detailed,packet,layouts_packet_agree separated made⟩
  have tables := agree_append_self.mpr ⟨tables_agree separated,layouts,
    agree_append_right.mpr ⟨tables_layouts_agree separated,tables_packet_agree⟩⟩
  have sensorsAgree := agree_append_self.mpr ⟨sensors_agree separated listed two,tables,sensors_others_agree⟩
  have whole := agree_append_self.mpr ⟨fixedAgree,sensorsAgree,fixed_agree named⟩
  intro name first second left right
  apply whole name first second
  · simpa only [List.mem_append,List.mem_singleton] using (defined _).mp left
  · simpa only [List.mem_append,List.mem_singleton] using (defined _).mp right

theorem header_distinct (separated : Separated library config) : ∀ a ∈ configNames config, ∀ b ∈ configNames config,
    a.macro library = b.macro library → a = b := by
  intro a inA b inB same
  simp only [configNames,List.mem_append,List.mem_flatMap,List.mem_map] at inA inB
  rcases inA with ⟨table,known,entry,inEntry,rfl⟩ | ⟨pair,inPair,rfl⟩ <;>
    rcases inB with ⟨other,alsoKnown,second,inSecond,rfl⟩ | ⟨otherPair,inOther,rfl⟩
  · have same : table.2 ++ macroName library entry.1 = other.2 ++ macroName library second.1 := same
    have one := table_unique known alsoKnown (begins_append table.2 _) (same ▸ begins_append other.2 _)
    subst one
    rw [separated.tables table known entry inEntry second inSecond (String.append_right_inj _ |>.mp same)]
  · exact absurd same (separated.tableFields table known entry inEntry otherPair inOther)
  · exact absurd same.symm (separated.tableFields other alsoKnown second inSecond pair inPair)
  · rw [separated.fields pair inPair otherPair inOther (offsetMacro_eq_iff.mp same)]

theorem mem_configNames {table : String × String} (known : table ∈ tablePrefixes) {entry : String × Value}
    (inEntry : entry ∈ tableOf config table.1) : .entry table entry.1 ∈ configNames config :=
  List.mem_append_left _ (List.mem_flatMap.mpr ⟨table,known,List.mem_map.mpr ⟨entry,inEntry,rfl⟩⟩)

theorem mem_configNames_field {pair : String × String} (inPair : pair ∈ fieldPairs config) :
    .field pair ∈ configNames config := List.mem_append_right _ (List.mem_map_of_mem inPair)

theorem separated_of_agrees (generated : generateHeader library config sourceName passkey = .ok lines)
    (agrees : HeaderAgrees library config lines) : Separated library config := by
  obtain ⟨fixed,sensors,maximum,items,_,_,made,_,defined⟩ := generateHeader_definitions generated
  have listed : sensorsOf config = sensors := by rw [sensorsOf,items]
  have table {name : String} {value : MacroValue}
      (present : (name,value) ∈ tableDefinitions library (config.follow ["protocol"])) :
      (name,value) ∈ definitions lines := (defined _).mpr (.inr (.inr (.inl present)))
  have size {layout : String × Value} (member : layout ∈ layoutsOf config) :
      (sizeMacro library layout.1,unsignedInteger (layoutFieldsOf layout.2).1) ∈ definitions lines :=
    (defined _).mpr (.inr (.inr (.inr (.inl (mem_layoutDefinitions.mpr ⟨layout,member,.inl ⟨rfl,rfl⟩⟩)))))
  refine ⟨?_,?_,?_,?_,?_,?_,?_⟩
  · intro group known a inA b inB same
    have one := agrees.distinct _ (mem_configNames known inA) _ (mem_configNames known inB)
      (congrArg (group.2 ++ ·) same)
    exact (ConfigName.entry.inj one).2
  · intro a inA b inB same
    have one := agrees.distinct _ (mem_configNames_field inA) _ (mem_configNames_field inB)
      (offsetMacro_eq_iff.mpr same)
    exact ConfigName.field.inj one
  · intro group known a inA b inB same
    have one := agrees.distinct _ (mem_configNames known inA) _ (mem_configNames_field inB) same
    cases one
  · intro group known a inA b inB same
    have one := agrees.single _ _ _ (table (mem_tableDefinitions.mpr ⟨group,known,a,inA,rfl,rfl⟩)) (same ▸ size inB)
    exact MacroValue.unsigned.inj one
  · intro a inA b inB same
    have macros : sizeMacro library a.1 = sizeMacro library b.1 := by rw [sizeMacro,sizeMacro,same]
    have one := agrees.single _ _ _ (size inA) (macros ▸ size inB)
    exact Int.ofNat.inj (Value.integer.inj (MacroValue.unsigned.inj one))
  · intro a inA same
    have packet : ("PROTOCOL_MAX_PACKET_SIZE",unsignedNumber maximum) ∈ definitions lines :=
      (defined _).mpr (.inr (.inr (.inr (.inr rfl))))
    have one := agrees.single _ _ _ packet (sizeMacro_packet.mpr same ▸ size inA)
    rw [made]
    cases maximum with
    | integer value => rw [Value.integer.inj (MacroValue.unsigned.inj one)]
    | double value => cases MacroValue.unsigned.inj one
  · intro sensor inSensors a inA b inB same
    obtain ⟨index,atIndex⟩ := List.mem_iff_getElem?.mp (listed ▸ inSensors)
    have sensed {known : String × Value} (member : known ∈ sensor.entries) :
        (sensorMacro library index known.1,.plain (library.str known.2)) ∈ definitions lines :=
      (defined _).mpr (.inr (.inl (mem_sensorDefinitions.mpr ⟨index,sensor,atIndex,known,member,rfl,rfl⟩)))
    have macros : sensorMacro library index a.1 = sensorMacro library index b.1 :=
      congrArg (("THERMOMETER_FAKE_SENSOR_" ++ toString (index + 1) ++ "_") ++ ·) same
    have second := sensed inB
    rw [← macros] at second
    exact MacroValue.plain.inj (agrees.single _ _ _ (sensed inA) second)

-- The generated header agrees with the Python client exactly when the mangled names keep
-- apart what they have to.
theorem header_agrees_iff (accepted : loadAndValidate library config = .ok result)
    (generated : generateHeader library config sourceName passkey = .ok lines) :
    HeaderAgrees library config lines ↔ Separated library config :=
  ⟨separated_of_agrees generated,fun separated => ⟨fun _ member => header_defines generated member,
    header_single accepted generated separated,header_distinct separated⟩⟩

theorem header_agrees_iff_document :
    ∃ lines, generateHeader asciiLibrary thermometerProtocol "thermometer_protocol.json" "012345" = .ok lines ∧
      (HeaderAgrees asciiLibrary thermometerProtocol lines ↔ Separated asciiLibrary thermometerProtocol) := by
  have made : (generateHeader asciiLibrary thermometerProtocol "thermometer_protocol.json" "012345").toBool = true := by
    decide +kernel
  obtain ⟨result,accepted⟩ := of_toBool thermometerProtocol_accepted
  obtain ⟨lines,generated⟩ := of_toBool made
  exact ⟨lines,generated,header_agrees_iff accepted generated⟩

-- The field b_c of a layout a and the field c of a layout a_b.
def collidingDocument : Value := document 32 72 [("a",[("x","u8"),("b_c","u8")]),("a_b",[("c","u8")])]

theorem header_collision : (loadAndValidate asciiLibrary collidingDocument).toBool = true ∧
    ∃ lines, generateHeader asciiLibrary collidingDocument "thermometer_protocol.json" "012345" = .ok lines ∧
      ¬ HeaderAgrees asciiLibrary collidingDocument lines := by
  have made : (generateHeader asciiLibrary collidingDocument "thermometer_protocol.json" "012345").toBool = true := by
    decide +kernel
  obtain ⟨lines,generated⟩ := of_toBool made
  refine ⟨by decide +kernel,lines,generated,?_⟩
  intro agrees
  have first : ("a","b_c") ∈ fieldPairs collidingDocument := by decide +kernel
  have second : ("a_b","c") ∈ fieldPairs collidingDocument := by decide +kernel
  have same : offsetMacro asciiLibrary "a" "b_c" = offsetMacro asciiLibrary "a_b" "c" := by decide +kernel
  have one := agrees.distinct _ (mem_configNames_field first) _ (mem_configNames_field second) same
  revert one
  decide

end Headers

end Thermometer.SharedConfig
