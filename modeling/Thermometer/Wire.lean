import Mathlib.Algebra.GroupWithZero.Nat
import Mathlib.Tactic.Common

-- The wire values of protocol/thermometer_protocol.json, the one definition that
-- the firmware header and the Python client are both generated from.
namespace Thermometer.Wire

inductive Opcode where
  | getCurrent | setDisplay | getHistoryMeta | getHistoryChunk
  | authBegin | authProve | resetBond | getHistoryChunkCompact
  deriving DecidableEq, Repr

def Opcode.value : Opcode → UInt8
  | .getCurrent => 1 | .setDisplay => 2 | .getHistoryMeta => 3 | .getHistoryChunk => 4
  | .authBegin => 5 | .authProve => 6 | .resetBond => 7 | .getHistoryChunkCompact => 8

def Opcode.all : List Opcode :=
  [.getCurrent,.setDisplay,.getHistoryMeta,.getHistoryChunk,.authBegin,.authProve,.resetBond,
    .getHistoryChunkCompact]

def Opcode.ofByte (byte : UInt8) : Option Opcode := Opcode.all.find? (·.value == byte)

inductive Status where
  | success | invalidCommand | invalidSensor | invalidValue | notAvailable | internalError
  | unsupportedVersion | authenticationRequired | authenticationFailed | authenticationLocked
  deriving DecidableEq, Repr

def Status.value : Status → UInt8
  | .success => 0 | .invalidCommand => 1 | .invalidSensor => 2 | .invalidValue => 3
  | .notAvailable => 4 | .internalError => 5 | .unsupportedVersion => 6
  | .authenticationRequired => 7 | .authenticationFailed => 8 | .authenticationLocked => 9

inductive DataStatus where
  | valid | disconnected
  deriving DecidableEq, Repr

def DataStatus.value : DataStatus → UInt8
  | .valid => 0 | .disconnected => 1

abbrev sensorCount : Nat := 2

-- The literals of `Fin sensorCount` rest on this one.
instance (priority := 2000) sensorCount_neZero : NeZero sensorCount := ⟨by decide⟩

-- Sizes and field offsets of the layouts.
abbrev headerSize : Nat := 8
abbrev headerVersion : Nat := 0
abbrev headerOpcode : Nat := 1
abbrev headerRequestId : Nat := 2
abbrev headerPayloadLength : Nat := 4
abbrev headerStatus : Nat := 6
abbrev headerFlags : Nat := 7

abbrev currentResponseSize : Nat := 20
abbrev currentResponseBootId : Nat := 0
abbrev currentResponseNewestSequence : Nat := 4
abbrev currentResponseSensor1 : Nat := 8
abbrev currentResponseSensor2 : Nat := 12
abbrev currentResponseAverage : Nat := 16
abbrev currentResponseAverageValid : Nat := 18
abbrev currentResponseReserved : Nat := 19

abbrev setDisplayRequestSize : Nat := 2
abbrev setDisplayResponseSize : Nat := 3

abbrev historyMetaResponseSize : Nat := 20
abbrev historyMetaResponseBootId : Nat := 0
abbrev historyMetaResponseNewestSequence : Nat := 4
abbrev historyMetaResponseSensor1Count : Nat := 8
abbrev historyMetaResponseSensor2Count : Nat := 10
abbrev historyMetaResponseSensor1Oldest : Nat := 12
abbrev historyMetaResponseSensor2Oldest : Nat := 16

abbrev historyChunkRequestSize : Nat := 6
abbrev historyChunkRequestStartSequence : Nat := 1
abbrev historyChunkRequestRecordCount : Nat := 5

abbrev historyChunkPrefixSize : Nat := 7
abbrev historyChunkPrefixStartSequence : Nat := 1
abbrev historyChunkPrefixRecordCount : Nat := 5
abbrev historyChunkPrefixRecordSize : Nat := 6

abbrev historyRecordSize : Nat := 7
abbrev compactHistoryRecordSize : Nat := 3

abbrev authBeginResponseSize : Nat := 26
abbrev authBeginResponseDeviceId : Nat := 0
abbrev authBeginResponseBootId : Nat := 6
abbrev authBeginResponseNonce : Nat := 10

abbrev authProveRequestSize : Nat := 32

end Thermometer.Wire
