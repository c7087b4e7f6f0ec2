import Thermometer.Client.Protocol

-- The part of thermometer_client.py that authenticates and reads history chunks. A
-- transport is what a write of the request characteristic and the read behind it answer.
namespace Thermometer.Client.Protocol
open Wire

structure Transport (σ : Type) where
  exchange : List UInt8 → σ → Except Failure (List UInt8) × σ
  mtuSize : σ → Nat

structure ThermometerClient (σ : Type) where
  passkey : Option String
  requestId : UInt16
  compactHistorySupported : Option Bool
  connection : σ

namespace ThermometerClient

variable {σ : Type} (cfg : ProtocolConfig) (transport : Transport σ) (client : ThermometerClient σ)

def nextRequestId : ThermometerClient σ := { client with requestId := client.requestId + 1 }

def compact : Bool := client.compactHistorySupported ≠ some false

-- An ATT Read Response spends one byte on its standard opcode.
def recordsPerChunk : Int :=
  let valueCapacity : Int := max 0 (transport.mtuSize client.connection - 1)
  let mtuCount := (valueCapacity - (headerSize + historyChunkPrefixSize)) / (recordLayout client.compact).2.1
  max 1 (min (maximumRecords cfg client.compact) mtuCount)

def exchangePacket (packet : List UInt8) (opcode : Opcode) (requestId : UInt16) :
    Except Failure Response × ThermometerClient σ :=
  let (raw,connection) := transport.exchange packet client.connection
  (raw.bind fun raw => parseResponse cfg raw (some opcode) (some requestId) false,
    { client with connection := connection })

def request (opcode : Opcode) (payload : List UInt8) : Except Failure Response × ThermometerClient σ :=
  let client := client.nextRequestId
  match buildRequest cfg opcode client.requestId.toNat payload with
  | .error failure => (.error failure,client)
  | .ok packet => client.exchangePacket cfg transport packet opcode client.requestId

def credential (passkey : Option String) : Except Failure String × ThermometerClient σ :=
  match passkey with
  | none =>
    match client.passkey with
    | none => (valueError "a six-digit passkey is required for this device",client)
    | some passkey => (.ok passkey,client)
  | some passkey =>
    match validatePasskey passkey with
    | .error failure => (.error failure,client)
    | .ok passkey => (.ok passkey,{ client with passkey := some passkey })

def beginAuthentication : Except Failure AuthenticationChallenge × ThermometerClient σ :=
  let (response,client) := client.request cfg transport .authBegin []
  (response.bind decodeAuthenticationChallenge,client)

def authenticate (passkey : Option String) : Except Failure Unit × ThermometerClient σ :=
  match client.credential passkey with
  | (.error failure,client) => (.error failure,client)
  | (.ok credential,client) =>
    match client.beginAuthentication cfg transport with
    | (.error failure,client) => (.error failure,client)
    | (.ok challenge,client) =>
      match computeAuthenticationProof cfg credential challenge with
      | .error failure => (.error failure,client)
      | .ok proof =>
        let client := client.nextRequestId
        match buildAuthenticationProofRequest cfg client.requestId.toNat proof with
        | .error failure => (.error failure,client)
        | .ok packet =>
          let (response,client) := client.exchangePacket cfg transport packet .authProve client.requestId
          (response.map fun _ => (),client)

def getCurrent : Except Failure CurrentSnapshot × ThermometerClient σ :=
  let (response,client) := client.request cfg transport .getCurrent []
  (response.bind decodeCurrent,client)

def getHistoryMeta : Except Failure HistoryMeta × ThermometerClient σ :=
  let (response,client) := client.request cfg transport .getHistoryMeta []
  (response.bind decodeHistoryMeta,client)

def setDisplay (sensorId : Int) (enabled : Bool) : Except Failure DisplayResult × ThermometerClient σ :=
  let client := client.nextRequestId
  match buildSetDisplayRequest cfg client.requestId.toNat sensorId enabled with
  | .error failure => (.error failure,client)
  | .ok packet =>
    let (response,client) := client.exchangePacket cfg transport packet .setDisplay client.requestId
    (response.bind decodeDisplayResult,client)

-- One round of the loop in `get_history_chunk`.
def chunkRound (sensorId startSequence count : Int) (compact : Bool) :
    Except Failure Response × ThermometerClient σ :=
  let client := client.nextRequestId
  let requested := min count (client.recordsPerChunk cfg transport)
  match buildHistoryChunkRequest cfg client.requestId.toNat sensorId startSequence requested compact with
  | .error failure => (.error failure,client)
  | .ok packet => client.exchangePacket cfg transport packet (chunkOpcode compact) client.requestId

def chunkRead (compact : Bool) : Except Failure Response × ThermometerClient σ →
    Except Failure HistoryChunk × ThermometerClient σ
  | (.ok response,client) => (decodeHistoryChunk response,{ client with compactHistorySupported := some compact })
  | (.error failure,client) => (.error failure,client)

-- Older firmware does not know the compact form; only then is there a second round.
def getHistoryChunk (sensorId startSequence count : Int) : Except Failure HistoryChunk × ThermometerClient σ :=
  let first := client.chunkRound cfg transport sensorId startSequence count client.compact
  match client.compact,first with
  | true,(.error (.protocol _ (some .invalidCommand)),client) =>
    let client := { client with compactHistorySupported := some false }
    chunkRead false (client.chunkRound cfg transport sensorId startSequence count false)
  | compact,first => chunkRead compact first

variable {cfg transport client} {sensorId startSequence count : Int}

theorem authenticate_steps {passkey : String} (digits : validatePasskey passkey = .ok passkey)
    (issued : { client with passkey := some passkey }.beginAuthentication cfg transport = (.ok challenge,asked))
    (computed : computeAuthenticationProof cfg passkey challenge = .ok proof)
    (built : buildAuthenticationProofRequest cfg asked.nextRequestId.requestId.toNat proof = .ok packet)
    (exchanged : asked.nextRequestId.exchangePacket cfg transport packet .authProve asked.nextRequestId.requestId =
      (.ok response,proven)) :
    client.authenticate cfg transport (some passkey) = (.ok (),proven) := by
  simp only [authenticate,credential,digits,issued,computed,built,exchanged]
  rfl

theorem getHistoryChunk_full (full : client.compact = false) :
    client.getHistoryChunk cfg transport sensorId startSequence count =
      chunkRead false (client.chunkRound cfg transport sensorId startSequence count false) := by
  simp [getHistoryChunk,full]

theorem getHistoryChunk_refused {later : ThermometerClient σ} (compact : client.compact = true)
    (refused : client.chunkRound cfg transport sensorId startSequence count true =
      (.error (.protocol message (some .invalidCommand)),later)) :
    client.getHistoryChunk cfg transport sensorId startSequence count =
      chunkRead false ({ later with compactHistorySupported := some false }.chunkRound cfg transport
        sensorId startSequence count false) := by
  simp [getHistoryChunk,compact,refused]

theorem getHistoryChunk_compact (compact : client.compact = true)
    (kept : ∀ message, (client.chunkRound cfg transport sensorId startSequence count true).1 ≠
      .error (.protocol message (some .invalidCommand))) :
    client.getHistoryChunk cfg transport sensorId startSequence count =
      chunkRead true (client.chunkRound cfg transport sensorId startSequence count true) := by
  unfold getHistoryChunk
  rw [compact]
  dsimp only
  split
  · rename_i refused
    exact absurd (congrArg (·.1) refused) (kept _)
  · rfl

theorem chunkRead_supported {round : Except Failure Response × ThermometerClient σ}
    (hopeful : round.2.compactHistorySupported ≠ some false) :
    (chunkRead true round).2.compactHistorySupported ≠ some false := by
  obtain ⟨response | failure,later⟩ := round
  · exact hopeful
  · simp [chunkRead]

end ThermometerClient

end Thermometer.Client.Protocol
