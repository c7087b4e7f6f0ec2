import Thermometer.SharedConfig.MacroNames
import Thermometer.Link.RequestHandling

-- The buffers of the firmware that is compiled with a generated header.
namespace Thermometer.SharedConfig
open Json
open Firmware (HistoryBuffer HistoryRecord Capacity)

-- The sizes that the firmware uses, by layout.
def firmwareSizes : List (String × String) :=
  [("header","PROTOCOL_HEADER_SIZE"),("current_response","PROTOCOL_CURRENT_RESPONSE_SIZE"),
    ("set_display_request","PROTOCOL_SET_DISPLAY_REQUEST_SIZE"),
    ("set_display_response","PROTOCOL_SET_DISPLAY_RESPONSE_SIZE"),
    ("history_meta_response","PROTOCOL_HISTORY_META_RESPONSE_SIZE"),
    ("history_chunk_request","PROTOCOL_HISTORY_CHUNK_REQUEST_SIZE"),
    ("history_chunk_prefix","PROTOCOL_HISTORY_CHUNK_PREFIX_SIZE"),("history_record","PROTOCOL_HISTORY_RECORD_SIZE"),
    ("compact_history_record","PROTOCOL_COMPACT_HISTORY_RECORD_SIZE"),
    ("auth_begin_response","PROTOCOL_AUTH_BEGIN_RESPONSE_SIZE"),
    ("auth_prove_request","PROTOCOL_AUTH_PROVE_REQUEST_SIZE")]

structure PacketMacros where
  size : String → Nat
  maxHistoryRecords : Nat
  maxCompactHistoryRecords : Nat
  maxPacketSize : Nat
  historyCapacity : Nat

def Reads (lines : List Line) (name : String) (value : Nat) : Prop :=
  (name,unsignedInteger value) ∈ definitions lines ∧
    ∀ other, (name,other) ∈ definitions lines → other = unsignedInteger value

structure Compiled (lines : List Line) (macros : PacketMacros) : Prop where
  sizes : ∀ entry ∈ firmwareSizes, Reads lines entry.2 (macros.size entry.1)
  records : Reads lines "PROTOCOL_MAX_HISTORY_RECORDS" macros.maxHistoryRecords
  compactRecords : Reads lines "PROTOCOL_MAX_COMPACT_HISTORY_RECORDS" macros.maxCompactHistoryRecords
  packet : Reads lines "PROTOCOL_MAX_PACKET_SIZE" macros.maxPacketSize
  capacity : Reads lines "THERMOMETER_HISTORY_CAPACITY" macros.historyCapacity

namespace PacketMacros

variable (macros : PacketMacros)

-- The check of `handle_characteristic_access`.
def acceptsLength (length : Nat) : Bool := macros.size "header" ≤ length && length ≤ macros.maxPacketSize

-- The check in front of a response; the response buffer has the maximum packet size.
def lacksSpace (payload : Nat) : Bool := macros.maxPacketSize < macros.size "header" + payload

def packetOverhead : Nat := macros.size "header" + macros.size "history_chunk_prefix"

def recordSize (compact : Bool) : Nat :=
  if compact then macros.size "compact_history_record" else macros.size "history_record"

def maxRecords (compact : Bool) : Nat :=
  if compact then macros.maxCompactHistoryRecords else macros.maxHistoryRecords

-- The three limits of a chunk; `none` is the division by a record size of zero.
def chunkCount (compact : Bool) (capacity requested : Nat) : Option Nat :=
  let allowed := min requested (macros.maxRecords compact)
  if macros.packetOverhead < capacity then
    if macros.recordSize compact = 0 then none
    else some (min allowed ((capacity - macros.packetOverhead) / macros.recordSize compact))
  else some 0

def requestPayloads : List Nat :=
  [0,macros.size "set_display_request",macros.size "history_chunk_request",macros.size "auth_prove_request"]

def responsePayloads : List Nat :=
  [0,macros.size "current_response",macros.size "set_display_response",macros.size "history_meta_response",
    macros.size "auth_begin_response"]

-- The handler's local array holds PROTOCOL_MAX_COMPACT_HISTORY_RECORDS records; the history
-- is any that appending leads to.
structure BuffersSafe : Prop where
  copies : ∀ (c : Capacity), c.size = macros.historyCapacity → ∀ (appended : List HistoryRecord) (compact : Bool)
    (requested count : Nat), 0 < requested → requested ≤ 255 →
    macros.chunkCount compact macros.maxPacketSize requested = some count → ∀ startSequence records,
    (appended.foldl HistoryBuffer.append (.init c)).copy startSequence count = some records →
    records.length ≤ macros.maxCompactHistoryRecords
  requests : ∀ payload ∈ macros.requestPayloads, macros.acceptsLength (macros.size "header" + payload) = true
  responses : ∀ payload ∈ macros.responsePayloads, macros.lacksSpace payload = false
  chunks : ∀ (compact : Bool) (requested : Nat), 0 < requested → requested ≤ 255 →
    ∃ count, macros.chunkCount compact macros.maxPacketSize requested = some count ∧ count ≠ 0 ∧
      macros.packetOverhead + count * macros.recordSize compact ≤ macros.maxPacketSize

end PacketMacros

def layoutSizeIn (config : Value) (layoutName : String) : Nat :=
  (layoutFieldsOf (config.follow ["protocol","layouts",layoutName])).1

def integerIn (config : Value) (path : List String) : Nat :=
  match config.follow path with
  | .integer value => value.toNat
  | _ => 0

def largestChunk (config : Value) : Nat :=
  max (integerIn config ["protocol","max_history_records_per_chunk"] * layoutSizeIn config "history_record")
    (integerIn config ["protocol","max_compact_history_records_per_chunk"] *
      layoutSizeIn config "compact_history_record")

-- Records that take space, an array for the longer of the two forms, and room for the payloads
-- besides the chunks.
structure BuffersSuffice (config : Value) : Prop where
  record : 0 < layoutSizeIn config "history_record"
  compactRecord : 0 < layoutSizeIn config "compact_history_record"
  array : integerIn config ["protocol","max_history_records_per_chunk"] ≤
      integerIn config ["protocol","max_compact_history_records_per_chunk"] ∨
    integerIn config ["device","history_capacity_records"] ≤
      integerIn config ["protocol","max_compact_history_records_per_chunk"]
  payloads : ∀ layoutName ∈ ["set_display_request","history_chunk_request","auth_prove_request","current_response",
      "set_display_response","history_meta_response","auth_begin_response"],
    layoutSizeIn config layoutName ≤ layoutSizeIn config "history_chunk_prefix" + largestChunk config

structure Matches (config : Value) (macros : PacketMacros) : Prop where
  size : ∀ entry ∈ firmwareSizes, macros.size entry.1 = layoutSizeIn config entry.1
  records : integerIn config ["protocol","max_history_records_per_chunk"] = macros.maxHistoryRecords
  compactRecords : integerIn config ["protocol","max_compact_history_records_per_chunk"] =
    macros.maxCompactHistoryRecords
  capacity : integerIn config ["device","history_capacity_records"] = macros.historyCapacity
  packet : macros.maxPacketSize = layoutSizeIn config "header" + layoutSizeIn config "history_chunk_prefix" +
    largestChunk config
  somePositive : 0 < macros.maxHistoryRecords ∧ 0 < macros.maxCompactHistoryRecords
  small : macros.maxHistoryRecords ≤ 255 ∧ macros.maxCompactHistoryRecords ≤ 255
  capacityRange : 0 < macros.historyCapacity ∧ macros.historyCapacity ≤ 65535

section Compiled

variable {library : Library} {config result : Value} {lines : List Line} {macros : PacketMacros}
  {sourceName passkey : String}

theorem unsignedInteger_inj {a b : Nat} (same : unsignedInteger a = unsignedInteger b) : a = b :=
  Int.ofNat.inj (Value.integer.inj (MacroValue.unsigned.inj same))

theorem firmwareSizes_macros : ∀ entry ∈ firmwareSizes, isAscii entry.1 ∧
    "PROTOCOL_" ++ String.ofList (stripUnderscores (underscored false (asciiUpper entry.1).toList)) ++ "_SIZE" = entry.2 ∧
    entry.1 ∈ requiredLayouts := by
  decide +kernel

theorem layoutSizeIn_of_mem {layoutName : String} {layout : Value} (present : (layoutName,layout) ∈ layoutsOf config) :
    layoutSizeIn config layoutName = (layoutFieldsOf layout).1 := by
  have found := Value.field_of_mem present
  have path : config.follow ["protocol","layouts",layoutName] = layout := Value.follow_of_field found
  rw [layoutSizeIn,path]

theorem compiled_size (accepted : loadAndValidate library config = .ok result)
    (generated : generateHeader library config sourceName passkey = .ok lines) (compiled : Compiled lines macros) :
    ∀ entry ∈ firmwareSizes, macros.size entry.1 = layoutSizeIn config entry.1 := by
  obtain ⟨_,_,_,_,_,_,_,_,defined⟩ := generateHeader_definitions generated
  intro entry known
  obtain ⟨ascii,named,required⟩ := firmwareSizes_macros entry known
  obtain ⟨layout,present⟩ := accepted_layouts accepted entry.1 required
  have macroNamed : sizeMacro library entry.1 = entry.2 := by
    rw [sizeMacro,macroName,library.upperAscii _ ascii]
    exact named
  have member : (sizeMacro library entry.1,unsignedInteger (layoutFieldsOf layout).1) ∈ definitions lines :=
    (defined _).mpr (.inr (.inr (.inr (.inl (mem_layoutDefinitions.mpr ⟨(entry.1,layout),present,.inl ⟨rfl,rfl⟩⟩)))))
  rw [layoutSizeIn_of_mem present]
  exact (unsignedInteger_inj ((compiled.sizes entry known).2 _ (macroNamed ▸ member))).symm

theorem compiled_integer {name key : String} {part : Value} {value : Nat} {defined : MacroValue}
    (made : MacroValue.unsigned <$> part.subscript key = .ok defined) (member : (name,defined) ∈ definitions lines)
    (reads : Reads lines name value) : part.field key = some (.integer value) := by
  obtain ⟨found,read,rfl⟩ := map_ok made
  have same := MacroValue.unsigned.inj (reads.2 _ member)
  rw [Value.subscript_ok read,same]

theorem follow_integer {section' key : String} {value : Nat}
    (present : (config.follow [section']).field key = some (.integer value)) :
    config.follow [section',key] = .integer value ∧ integerIn config [section',key] = value := by
  have path : config.follow [section',key] = .integer value := Value.follow_of_field present
  refine ⟨path,?_⟩
  rw [integerIn,path]
  rfl

theorem layoutSize_in {layoutName : String} {size : Nat}
    (sized : layoutSize (config.follow ["protocol","layouts"]) layoutName = .ok size) :
    layoutSizeIn config layoutName = size := by
  obtain ⟨layout,read,sized⟩ := bind_ok sized
  obtain ⟨⟨_,offsets⟩,detailed,same⟩ := bind_ok sized
  cases same
  have path : config.follow ["protocol","layouts",layoutName] = layout :=
    Value.follow_of_field (Value.subscript_ok read)
  rw [layoutSizeIn,path,layoutFieldsOf,detailed]

theorem maximumPacketSize_integer {records compactRecords : Nat} {maximum : Number}
    (full : (config.follow ["protocol"]).field "max_history_records_per_chunk" = some (.integer records))
    (compact : (config.follow ["protocol"]).field "max_compact_history_records_per_chunk" =
      some (.integer compactRecords))
    (made : maximumPacketSize (config.follow ["protocol"]) (config.follow ["protocol","layouts"]) = .ok maximum) :
    maximum = .integer (layoutSizeIn config "header" + layoutSizeIn config "history_chunk_prefix" +
      max (records * layoutSizeIn config "history_record")
        (compactRecords * layoutSizeIn config "compact_history_record") : Nat) := by
  obtain ⟨headerSize,header,made⟩ := bind_ok made
  obtain ⟨prefixSize,chunkPrefix,made⟩ := bind_ok made
  obtain ⟨recordSize,record,made⟩ := bind_ok made
  obtain ⟨compactSize,compactRecord,made⟩ := bind_ok made
  obtain ⟨found,present,made⟩ := bind_ok made
  obtain ⟨number,numbered,made⟩ := bind_ok made
  obtain ⟨foundCompact,presentCompact,made⟩ := bind_ok made
  obtain ⟨compactNumber,compactNumbered,made⟩ := bind_ok made
  cases Option.some.inj (full.symm.trans (Value.subscript_ok present))
  cases Option.some.inj (compact.symm.trans (Value.subscript_ok presentCompact))
  cases numbered
  cases compactNumbered
  cases made
  rw [Number.max_integer,layoutSize_in header,layoutSize_in chunkPrefix,layoutSize_in record,layoutSize_in compactRecord]
  congr 1
  push_cast
  omega

theorem compiled_matches (accepted : loadAndValidate library config = .ok result)
    (generated : generateHeader library config sourceName passkey = .ok lines) (compiled : Compiled lines macros) :
    Matches config macros := by
  have sizes := compiled_size accepted generated compiled
  obtain ⟨fixed,_,maximum,_,_,values,made,_,defined⟩ := generateHeader_definitions generated
  have given (entry : String × Checked MacroValue)
      (member : entry ∈ deviceMacros (config.follow ["device"]) ++ protocolMacros (config.follow ["protocol"])) :
      ∃ value, entry.2 = .ok value ∧ (entry.1,value) ∈ definitions lines := by
    obtain ⟨value,known,listed⟩ := values entry (List.mem_append_left _ member)
    exact ⟨value,known,(defined _).mpr (.inl listed)⟩
  obtain ⟨_,fullMade,fullListed⟩ := given ("PROTOCOL_MAX_HISTORY_RECORDS",
    .unsigned <$> (config.follow ["protocol"]).subscript "max_history_records_per_chunk")
    (List.mem_append_right _ (by simp only [protocolMacros,List.mem_cons,true_or,or_true]))
  obtain ⟨_,compactMade,compactListed⟩ := given ("PROTOCOL_MAX_COMPACT_HISTORY_RECORDS",
    .unsigned <$> (config.follow ["protocol"]).subscript "max_compact_history_records_per_chunk")
    (List.mem_append_right _ (by simp only [protocolMacros,List.mem_cons,true_or,or_true]))
  obtain ⟨_,capacityMade,capacityListed⟩ := given ("THERMOMETER_HISTORY_CAPACITY",
    .unsigned <$> (config.follow ["device"]).subscript "history_capacity_records")
    (List.mem_append_left _ (by simp only [deviceMacros,List.mem_cons,true_or,or_true]))
  have full := compiled_integer fullMade fullListed compiled.records
  have compact := compiled_integer compactMade compactListed compiled.compactRecords
  have capacity := compiled_integer capacityMade capacityListed compiled.capacity
  have listed : ("PROTOCOL_MAX_PACKET_SIZE",unsignedNumber maximum) ∈ definitions lines :=
    (defined _).mpr (.inr (.inr (.inr (.inr rfl))))
  have packet := compiled.packet.2 _ listed
  rw [maximumPacketSize_integer full compact made] at packet
  obtain ⟨fullAt,fullIn⟩ := follow_integer full
  obtain ⟨compactAt,compactIn⟩ := follow_integer compact
  obtain ⟨capacityAt,capacityIn⟩ := follow_integer capacity
  have fullRange := accepted_limits accepted (by simp) fullAt
  have compactRange := accepted_limits accepted (by simp) compactAt
  have capacityRange := accepted_capacity accepted capacityAt
  refine ⟨sizes,fullIn,compactIn,capacityIn,?_,by omega,by omega,by omega⟩
  rw [largestChunk,fullIn,compactIn]
  exact (unsignedInteger_inj packet).symm

end Compiled

section Safety

variable {config : Value} {macros : PacketMacros}

theorem Matches.recordSize (same : Matches config macros) :
    macros.recordSize false = layoutSizeIn config "history_record" ∧
      macros.recordSize true = layoutSizeIn config "compact_history_record" :=
  ⟨same.size ("history_record","PROTOCOL_HISTORY_RECORD_SIZE") (by simp [firmwareSizes]),
    same.size ("compact_history_record","PROTOCOL_COMPACT_HISTORY_RECORD_SIZE") (by simp [firmwareSizes])⟩

theorem Matches.chunkFits (same : Matches config macros) (compact : Bool) :
    macros.packetOverhead + macros.maxRecords compact * macros.recordSize compact ≤ macros.maxPacketSize := by
  have header := same.size ("header","PROTOCOL_HEADER_SIZE") (by simp [firmwareSizes])
  have chunkPrefix := same.size ("history_chunk_prefix","PROTOCOL_HISTORY_CHUNK_PREFIX_SIZE") (by simp [firmwareSizes])
  obtain ⟨record,compactRecord⟩ := same.recordSize
  have packet := same.packet
  rw [largestChunk,same.records,same.compactRecords] at packet
  unfold PacketMacros.packetOverhead
  simp only at header chunkPrefix
  rw [header,chunkPrefix,packet]
  apply Nat.add_le_add_left
  cases compact
  · rw [record]
    exact le_max_left _ _
  · rw [compactRecord]
    exact le_max_right _ _

theorem Matches.maxRecords_pos (same : Matches config macros) (compact : Bool) : 0 < macros.maxRecords compact := by
  cases compact
  · exact same.somePositive.1
  · exact same.somePositive.2

-- With records that take space the space never limits a chunk.
theorem Matches.chunkCount (same : Matches config macros) {compact : Bool} (space : 0 < macros.recordSize compact)
    (requested : Nat) :
    macros.chunkCount compact macros.maxPacketSize requested = some (min requested (macros.maxRecords compact)) := by
  have fits := same.chunkFits compact
  have some' := Nat.mul_pos (same.maxRecords_pos compact) space
  have inside : macros.packetOverhead < macros.maxPacketSize := by omega
  have enough : macros.maxRecords compact ≤ (macros.maxPacketSize - macros.packetOverhead) / macros.recordSize compact :=
    (Nat.le_div_iff_mul_le space).mpr (by omega)
  rw [PacketMacros.chunkCount,if_pos inside,if_neg (Nat.ne_of_gt space)]
  congr 1
  omega

-- Without, a chunk is a division by zero or an error.
theorem recordSize_pos (safe : macros.BuffersSafe) (compact : Bool) :
    0 < macros.recordSize compact := by
  obtain ⟨count,counted,positive,_⟩ := safe.chunks compact 1 (by omega) (by omega)
  unfold PacketMacros.chunkCount at counted
  split at counted
  · split at counted
    · cases counted
    · omega
  · cases counted
    exact absurd rfl positive

theorem appended_contents {c : Capacity} (appended : List HistoryRecord) (buffer : HistoryBuffer c)
    (room : buffer.contents.length + appended.length ≤ c.size) :
    (appended.foldl HistoryBuffer.append buffer).contents = buffer.contents ++ appended := by
  induction appended generalizing buffer with
  | nil => simp
  | cons record rest ih =>
    rw [List.length_cons] at room
    have pushed : (buffer.append record).contents = buffer.contents ++ [record] := by
      rw [HistoryBuffer.append_contents,Ring.pushBounded_room (by omega)]
    rw [List.foldl_cons,ih (buffer.append record) (by rw [pushed,List.length_append,List.length_singleton]; omega),pushed]
    simp

theorem copied_length {c : Capacity} {buffer : HistoryBuffer c} {startSequence : UInt32} {count : Nat}
    {records : List HistoryRecord} (copied : buffer.copy startSequence count = some records) :
    records.length ≤ count ∧ records.length ≤ c.size := by
  have whole := HistoryBuffer.copy_contents buffer startSequence count
  have stored : buffer.contents.length ≤ c.size := by
    rw [HistoryBuffer.contents_length]
    exact buffer.countBounded
  rw [copied] at whole
  dsimp only at whole
  split at whole
  · cases whole
  · cases Option.some.inj whole
    rw [List.length_take,List.length_drop]
    omega

theorem copied_full (c : Capacity) {count : Nat} (positive : 0 < count) :
    ∃ records, ((List.replicate c.size HistoryRecord.zeroed).foldl HistoryBuffer.append (.init c)).copy 0 count =
      some records ∧ records.length = min count c.size := by
  have stored := appended_contents (List.replicate c.size HistoryRecord.zeroed) (.init c)
    (by simp [HistoryBuffer.init_contents])
  rw [HistoryBuffer.init_contents,List.nil_append] at stored
  have size := c.positive
  have first : (List.replicate c.size HistoryRecord.zeroed).findIdx (·.sequence == 0) = 0 := by
    apply (List.findIdx_eq (by simpa using size)).mpr
    simp [HistoryRecord.zeroed]
  refine ⟨(List.replicate c.size HistoryRecord.zeroed).take count,?_,by simp⟩
  have copied := HistoryBuffer.copy_contents
    ((List.replicate c.size HistoryRecord.zeroed).foldl HistoryBuffer.append (.init c)) 0 count
  simp only [stored,first,List.drop_zero] at copied
  rw [copied,if_neg]
  simp only [List.length_replicate]
  omega

theorem Matches.room (same : Matches config macros) (payload : Nat) :
    macros.size "header" + payload ≤ macros.maxPacketSize ↔
      payload ≤ layoutSizeIn config "history_chunk_prefix" + largestChunk config := by
  have header := same.size ("header","PROTOCOL_HEADER_SIZE") (by simp [firmwareSizes])
  simp only at header
  rw [header,same.packet]
  omega

theorem Matches.payloads (same : Matches config macros) :
    macros.requestPayloads = [0,layoutSizeIn config "set_display_request",layoutSizeIn config "history_chunk_request",
      layoutSizeIn config "auth_prove_request"] ∧
    macros.responsePayloads = [0,layoutSizeIn config "current_response",layoutSizeIn config "set_display_response",
      layoutSizeIn config "history_meta_response",layoutSizeIn config "auth_begin_response"] := by
  have size (entry : String × String) (known : entry ∈ firmwareSizes) := same.size entry known
  simp only [firmwareSizes,List.forall_mem_cons] at size
  obtain ⟨_,current,display,displayed,history,chunk,_,_,_,begin',prove,_⟩ := size
  unfold PacketMacros.requestPayloads PacketMacros.responsePayloads
  rw [current,display,displayed,history,chunk,begin',prove]
  exact ⟨rfl,rfl⟩

theorem Matches.safe_of_suffice (same : Matches config macros) (suffice : BuffersSuffice config) :
    macros.BuffersSafe := by
  have space (compact : Bool) : 0 < macros.recordSize compact := by
    cases compact
    · exact same.recordSize.1 ▸ suffice.record
    · exact same.recordSize.2 ▸ suffice.compactRecord
  have array := suffice.array
  rw [same.records,same.compactRecords,same.capacity] at array
  have fixed (payload : Nat) (known : payload ∈ macros.requestPayloads ++ macros.responsePayloads) :
      macros.size "header" + payload ≤ macros.maxPacketSize := by
    apply (same.room payload).mpr
    rw [same.payloads.1,same.payloads.2] at known
    have room := suffice.payloads
    simp only [List.forall_mem_cons] at room
    obtain ⟨display,chunk,prove,current,displayed,history,begin',_⟩ := room
    simp only [List.mem_append,List.mem_cons,List.not_mem_nil,or_false] at known
    rcases known with (rfl | rfl | rfl | rfl) | (rfl | rfl | rfl | rfl | rfl)
    all_goals omega
  refine ⟨?_,?_,?_,?_⟩
  · intro c sized appended compact requested count _ _ counted startSequence records copied
    obtain ⟨few,stored⟩ := copied_length copied
    rw [same.chunkCount (space compact)] at counted
    cases Option.some.inj counted
    cases compact with
    | true => exact few.trans (Nat.min_le_right _ _)
    | false =>
      have limited : records.length ≤ macros.maxHistoryRecords := few.trans (Nat.min_le_right _ _)
      omega
  · intro payload known
    have room := fixed payload (List.mem_append_left _ known)
    simp only [PacketMacros.acceptsLength,Bool.and_eq_true,decide_eq_true_eq]
    omega
  · intro payload known
    have room := fixed payload (List.mem_append_right _ known)
    simp only [PacketMacros.lacksSpace,decide_eq_false_iff_not]
    omega
  · intro compact requested positive _
    refine ⟨_,same.chunkCount (space compact) requested,?_,?_⟩
    · have limit := same.maxRecords_pos compact
      omega
    · have least : min requested (macros.maxRecords compact) * macros.recordSize compact ≤
          macros.maxRecords compact * macros.recordSize compact := Nat.mul_le_mul_right _ (Nat.min_le_right _ _)
      have fits := same.chunkFits compact
      omega

theorem Matches.suffice_of_safe (same : Matches config macros) (safe : macros.BuffersSafe) : BuffersSuffice config := by
  have space := recordSize_pos safe
  refine ⟨same.recordSize.1 ▸ space false,same.recordSize.2 ▸ space true,?_,?_⟩
  · rw [same.records,same.compactRecords,same.capacity]
    by_contra tooMany
    obtain ⟨longer,stored⟩ := not_or.mp tooMany
    let c : Capacity := ⟨macros.historyCapacity,same.capacityRange.1,same.capacityRange.2⟩
    obtain ⟨records,copied,length⟩ := copied_full c same.somePositive.1
    have counted := same.chunkCount (space false) macros.maxHistoryRecords
    rw [show macros.maxRecords false = macros.maxHistoryRecords from rfl,Nat.min_self] at counted
    have bound := safe.copies c rfl _ false _ _ same.somePositive.1 same.small.1 counted 0 records copied
    rw [length] at bound
    change min macros.maxHistoryRecords macros.historyCapacity ≤ _ at bound
    omega
  · have requests := safe.requests
    have responses := safe.responses
    rw [same.payloads.1] at requests
    rw [same.payloads.2] at responses
    simp only [List.forall_mem_cons,PacketMacros.acceptsLength,PacketMacros.lacksSpace,Bool.and_eq_true,
      decide_eq_true_eq,decide_eq_false_iff_not,Nat.not_lt] at requests responses
    obtain ⟨_,display,chunk,prove,_⟩ := requests
    obtain ⟨_,current,displayed,history,begin',_⟩ := responses
    simp only [List.forall_mem_cons]
    refine ⟨?_,?_,?_,?_,?_,?_,?_,nofun⟩ <;> apply (same.room _).mp
    exacts [display.2,chunk.2,prove.2,current,displayed,history,begin']

end Safety

-- The numbers with which Firmware.Protocol is written.
def PacketMacros.ofFirmware (cfg : Firmware.FirmwareConfig) : PacketMacros where
  size
    | "header" => Wire.headerSize
    | "current_response" => Wire.currentResponseSize
    | "set_display_request" => Wire.setDisplayRequestSize
    | "set_display_response" => Wire.setDisplayResponseSize
    | "history_meta_response" => Wire.historyMetaResponseSize
    | "history_chunk_request" => Wire.historyChunkRequestSize
    | "history_chunk_prefix" => Wire.historyChunkPrefixSize
    | "history_record" => Wire.historyRecordSize
    | "compact_history_record" => Wire.compactHistoryRecordSize
    | "auth_begin_response" => Wire.authBeginResponseSize
    | "auth_prove_request" => Wire.authProveRequestSize
    | _ => 0
  maxHistoryRecords := cfg.maxHistoryRecords
  maxCompactHistoryRecords := cfg.maxCompactHistoryRecords
  maxPacketSize := cfg.maxPacketSize
  historyCapacity := cfg.device.capacity.size

theorem chunkCount_firmware (cfg : Firmware.FirmwareConfig) (compact : Bool) (capacity : Nat) (requested : UInt8) :
    (PacketMacros.ofFirmware cfg).chunkCount compact capacity requested.toNat =
      some (Firmware.chunkLimit cfg capacity compact requested) := by
  have size : (PacketMacros.ofFirmware cfg).recordSize compact = Firmware.chunkRecordSize compact := by
    cases compact <;> rfl
  have space : Firmware.chunkRecordSize compact ≠ 0 := by cases compact <;> decide
  have limit : (PacketMacros.ofFirmware cfg).maxRecords compact =
      if compact then cfg.maxCompactHistoryRecords else cfg.maxHistoryRecords := rfl
  have overhead : (PacketMacros.ofFirmware cfg).packetOverhead = Wire.headerSize + Wire.historyChunkPrefixSize := rfl
  simp only [PacketMacros.chunkCount,Firmware.chunkLimit,overhead,size,limit,if_neg space]
  by_cases inside : Wire.headerSize + Wire.historyChunkPrefixSize < capacity
  · rw [if_pos inside,if_pos inside]
  · rw [if_neg inside,if_neg inside,Nat.min_zero]

-- The firmware of an accepted document is safe exactly when its numbers suffice.
theorem buffers_safe_iff {library : Library} {config result : Value} {lines : List Line} {macros : PacketMacros}
    {sourceName passkey : String} (accepted : loadAndValidate library config = .ok result)
    (generated : generateHeader library config sourceName passkey = .ok lines) (compiled : Compiled lines macros) :
    macros.BuffersSafe ↔ BuffersSuffice config :=
  have same := compiled_matches accepted generated compiled
  ⟨same.suffice_of_safe,same.safe_of_suffice⟩

def readsNumber (lines : List Line) (name : String) (number : Nat) : Bool :=
  let found := (definitions lines).filter fun definition => definition.1 = name
  !found.isEmpty && found.all fun definition => match definition.2 with
    | .unsigned (.integer value) => value = number
    | _ => false

theorem single_of_looked {lines : List Line} {name : String} {value : MacroValue} (agrees : MacroValue → Bool)
    (faithful : ∀ other, agrees other = true → other = value)
    (looked : (!((definitions lines).filter fun definition => definition.1 = name).isEmpty &&
      ((definitions lines).filter fun definition => definition.1 = name).all fun definition => agrees definition.2) = true) :
    (name,value) ∈ definitions lines ∧ ∀ other, (name,other) ∈ definitions lines → other = value := by
  simp only [Bool.and_eq_true,Bool.not_eq_true',List.isEmpty_eq_false_iff,List.all_eq_true] at looked
  have value (other : MacroValue) (present : (name,other) ∈ definitions lines) : other = value :=
    faithful other (looked.2 (name,other) (List.mem_filter.mpr ⟨present,by simp⟩))
  obtain ⟨⟨found,other⟩,member⟩ := List.exists_mem_of_ne_nil _ looked.1
  obtain ⟨present,named⟩ := List.mem_filter.mp member
  have same : found = name := by simpa using named
  subst same
  exact ⟨value other present ▸ present,value⟩

theorem reads_of_number {lines : List Line} {name : String} {number : Nat} (looked : readsNumber lines name number) :
    Reads lines name number := by
  apply single_of_looked (fun other => match other with
    | .unsigned (.integer value) => value = number
    | _ => false) _ looked
  intro other agreed
  cases other with
  | unsigned value =>
    cases value with
    | integer value => exact congrArg unsignedInteger (of_decide_eq_true agreed)
    | _ => cases agreed
  | _ => cases agreed

def readsAll (lines : List Line) (macros : PacketMacros) : Bool :=
  (firmwareSizes.all fun entry => readsNumber lines entry.2 (macros.size entry.1)) &&
    readsNumber lines "PROTOCOL_MAX_HISTORY_RECORDS" macros.maxHistoryRecords &&
    readsNumber lines "PROTOCOL_MAX_COMPACT_HISTORY_RECORDS" macros.maxCompactHistoryRecords &&
    readsNumber lines "PROTOCOL_MAX_PACKET_SIZE" macros.maxPacketSize &&
    readsNumber lines "THERMOMETER_HISTORY_CAPACITY" macros.historyCapacity

theorem compiled_of_reads {lines : List Line} {macros : PacketMacros} (looked : readsAll lines macros) :
    Compiled lines macros := by
  simp only [readsAll,Bool.and_eq_true,List.all_eq_true] at looked
  obtain ⟨⟨⟨⟨sizes,records⟩,compactRecords⟩,packet⟩,capacity⟩ := looked
  exact ⟨fun entry known => reads_of_number (sizes entry known),reads_of_number records,
    reads_of_number compactRecords,reads_of_number packet,reads_of_number capacity⟩

def headerReads (config : Value) (macros : PacketMacros) : Bool :=
  match generateHeader asciiLibrary config "thermometer_protocol.json" "012345" with
  | .ok lines => readsAll lines macros
  | .error _ => false

theorem header_of_reads {config : Value} {macros : PacketMacros} (looked : headerReads config macros) :
    ∃ lines, generateHeader asciiLibrary config "thermometer_protocol.json" "012345" = .ok lines ∧
      Compiled lines macros := by
  unfold headerReads at looked
  split at looked
  · rename_i lines generated
    exact ⟨lines,generated,compiled_of_reads looked⟩
  · cases looked

def shortDocument : Value := document 32 8 []

def shortFirmware : Firmware.FirmwareConfig :=
  { Link.shippedConfig [] fun _ _ => none with maxCompactHistoryRecords := 8 }

theorem shortDocument_accepted : (loadAndValidate asciiLibrary shortDocument).toBool = true := by decide +kernel

theorem shortDocument_reads : headerReads shortDocument (.ofFirmware shortFirmware) = true := by decide +kernel

theorem buffers_safe_iff_short : (PacketMacros.ofFirmware shortFirmware).BuffersSafe ↔ BuffersSuffice shortDocument := by
  obtain ⟨result,accepted⟩ := of_toBool shortDocument_accepted
  obtain ⟨lines,generated,compiled⟩ := header_of_reads shortDocument_reads
  exact buffers_safe_iff accepted generated compiled

-- Thirty-two records of the full form, an array for eight.
theorem chunk_leaves_array : (loadAndValidate asciiLibrary shortDocument).toBool = true ∧
    ∃ lines, generateHeader asciiLibrary shortDocument "thermometer_protocol.json" "012345" = .ok lines ∧
      Compiled lines (.ofFirmware shortFirmware) ∧ ¬ (PacketMacros.ofFirmware shortFirmware).BuffersSafe := by
  obtain ⟨result,accepted⟩ := of_toBool shortDocument_accepted
  obtain ⟨lines,generated,compiled⟩ := header_of_reads shortDocument_reads
  refine ⟨shortDocument_accepted,lines,generated,compiled,?_⟩
  intro safe
  have same := compiled_matches accepted generated compiled
  have array := (same.suffice_of_safe safe).array
  rw [same.records,same.compactRecords,same.capacity] at array
  revert array
  decide

end Thermometer.SharedConfig
