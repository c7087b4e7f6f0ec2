import Thermometer.Firmware.Protocol
import Thermometer.Lib.Execution

namespace Thermometer.Firmware
open Memory Wire

structure BleAddress where
  kind : UInt8
  value : Vector UInt8 6

-- The static variables of ble_server.c next to the device they serve. `linked` is
-- the stack's knowledge of its one possible connection.
structure Server (cfg : FirmwareConfig) where
  response : Vector UInt8 cfg.maxPacketSize
  responseLength : Nat
  deviceId : Vector UInt8 6
  session : ProtocolSession
  clearBondOnDisconnect : Bool
  bondToClear : Option BleAddress
  device : Device cfg
  linked : Bool

inductive AttResult where
  | success | invalidAttrValueLen | unlikely | insufficientRes
  deriving DecidableEq, Repr

variable {cfg : FirmwareConfig}

-- `ble_server_start` on the started thermometer: a readable NOT_AVAILABLE header.
def serverStart (cfg : FirmwareConfig) (bootId : UInt32) (deviceId : Vector UInt8 6) : Server cfg where
  response := (((Vector.replicate cfg.maxPacketSize 0).setIfInBounds headerVersion
    cfg.auth.protocolVersion).setIfInBounds headerStatus Status.notAvailable.value).setIfInBounds
    headerFlags cfg.responseFlag
  responseLength := headerSize
  deviceId := deviceId
  session := .zeroed
  clearBondOnDisconnect := false
  bondToClear := none
  device := ⟨start cfg.device bootId,.cleared⟩
  linked := false

def Server.withOutcome (s : Server cfg) (outcome : Outcome cfg cfg.maxPacketSize) : Server cfg :=
  { s with
    response := outcome.reply.buffer, responseLength := outcome.reply.length
    session := { outcome.session with bondResetRequested := false }, device := outcome.device }

def scheduleBondReset (s : Server cfg) : Bool → Option BleAddress → Server cfg
  | true,some peer => { s with bondToClear := some peer, clearBondOnDisconnect := true }
  | _,_ => s

-- A write to the request characteristic. `flat` is the success of copying the
-- message out of the stack's buffers, `peer` what `ble_gap_conn_find` returns.
def writeRequest (s : Server cfg) (request : List UInt8) (platform : Platform) (flat : Bool)
    (peer : Option BleAddress) : Option (AttResult × Server cfg) :=
  if request.length < headerSize ∨ cfg.maxPacketSize < request.length then some (.invalidAttrValueLen,s)
  else if !flat then some (.unlikely,s)
  else do
    let outcome ← processRequest cfg s.device s.session s.response platform request
    some (if 0 < outcome.reply.length then .success else .unlikely,
      scheduleBondReset (s.withOutcome outcome) outcome.session.bondResetRequested peer)

-- A read of the response characteristic; `room` is the success of appending to the
-- outgoing message. The flag answers whether the link is to be terminated.
def readResponse (s : Server cfg) (room : Bool) : Option (List UInt8) × Bool × Server cfg :=
  if room then
    let (terminate,authentication) := takeDisconnect s.session.authentication
    (some (s.response.toList.take s.responseLength),terminate,
      { s with session := { s.session with authentication := authentication } })
  else (none,false,s)

def handleConnect (s : Server cfg) (established : Bool) : Server cfg :=
  if established then { s with session := protocolSessionStart s.deviceId, linked := true } else s

def handleDisconnect (s : Server cfg) : Server cfg :=
  let ended := { s with session := protocolSessionEnd, linked := false }
  if s.clearBondOnDisconnect then { ended with clearBondOnDisconnect := false, bondToClear := none } else ended

inductive LinkEvent where
  | connect (established : Bool)
  | disconnect
  | write (request : List UInt8) (platform : Platform) (flat : Bool) (peer : Option BleAddress)
  | read (room : Bool)
  | tick
  | reading (index : Fin sensorCount) (reading : SensorReading)
  | toggleDisplay (sensorId : UInt8)

def onThermometer (s : Server cfg) (event : Event) : Server cfg :=
  { s with device := { s.device with thermometer := step s.device.thermometer event } }

-- The stack delivers accesses only over a link.
def serverStep (s : Server cfg) : LinkEvent → Option (Server cfg)
  | .connect established => some (handleConnect s established)
  | .disconnect => some (handleDisconnect s)
  | .write request platform flat peer =>
    if s.linked then (writeRequest s request platform flat peer).map (·.2) else none
  | .read room => if s.linked then some (readResponse s room).2.2 else none
  | .tick => some (onThermometer s .tick)
  | .reading index reading => some (onThermometer s (.reading index reading))
  | .toggleDisplay sensorId => some (onThermometer s (.toggleDisplay sensorId))

end Thermometer.Firmware
