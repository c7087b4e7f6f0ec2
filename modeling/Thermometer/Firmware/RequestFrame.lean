import Thermometer.Firmware.Responses
import Thermometer.Firmware.Authentication

-- What a request may change, told from its opcode and from the status it is answered with.
namespace Thermometer.Firmware
open Memory Wire

variable {cfg : FirmwareConfig} {device : Device cfg} {session : ProtocolSession} {capacity : Nat}
  {response : Vector UInt8 capacity} {payload : List UInt8} {platform : Platform}

def requestOpcode (request : List UInt8) : Option Opcode := (request[headerOpcode]?).bind Opcode.ofByte

def Reply.status (reply : Reply capacity) : Option UInt8 := (reply.buffer.toList.take reply.length)[headerStatus]?

theorem Carries.status {reply : Reply capacity} {status : Status}
    (carries : Carries reply (packet cfg opcode requestId status payload)) : reply.status = some status.value := by
  unfold Reply.status
  rw [carries.content]
  rfl

def Spares (device : Device cfg) (session after : ProtocolSession) (changed : Device cfg) : Prop :=
  changed.thermometer = device.thermometer ∧ after.bondResetRequested = session.bondResetRequested

def Performs (device : Device cfg) (session : ProtocolSession) (payload : List UInt8) (after : ProtocolSession)
    (changed : Device cfg) : Option Opcode → Prop
  | some .getCurrent | some .getHistoryChunk | some .getHistoryChunkCompact => after = session ∧ changed = device
  | some .setDisplay => after = session ∧ ∃ sensorId enabled index,
      payload = [sensorId,enabled] ∧ sensorIndex sensorId = some index ∧
        let sensor := device.thermometer.sensors index
        let switched := { sensor with latest := { sensor.latest with displayEnabled := decide (enabled ≠ 0) } }
        changed = { device with thermometer :=
          { device.thermometer with sensors := Function.update device.thermometer.sensors index switched } }
  | some .getHistoryMeta => after = session ∧ ∃ snapshot, changed = { device with thermometer :=
      { device.thermometer with historySnapshot := snapshot, historySnapshotValid := true } }
  | some .resetBond => after = { session with bondResetRequested := true } ∧ changed = device
  | some .authBegin | some .authProve => Spares device session after changed
  | none => False

structure Framed (device : Device cfg) (session : ProtocolSession) (opcode : Option Opcode) (payload : List UInt8)
    (answer : Answer cfg) : Prop where
  refused : answer.status ≠ .success → Spares device session answer.session answer.device
  performed : answer.status = .success → Performs device session payload answer.session answer.device opcode
  authentication : opcode ≠ some .authBegin → opcode ≠ some .authProve →
    answer.session.authentication = session.authentication ∧ answer.device.lockout = device.lockout

namespace Framed

theorem refusal (refused : status ≠ Status.success) :
    Framed device session opcode payload ⟨status,bytes,session,device⟩ :=
  ⟨fun _ => ⟨rfl,rfl⟩,fun success => absurd success refused,fun _ _ => ⟨rfl,rfl⟩⟩

theorem authBegin : Framed device session (some .authBegin) payload (answerAuthBegin capacity device session platform) := by
  have spares : Spares device session (answerAuthBegin capacity device session platform).session
      (answerAuthBegin capacity device session platform).device := by
    unfold answerAuthBegin
    dsimp only
    split
    · exact ⟨rfl,rfl⟩
    · split <;> exact ⟨rfl,rfl⟩
  exact ⟨fun _ => spares,fun _ => spares,fun other _ => absurd rfl other⟩

theorem authProve : Framed device session (some .authProve) payload (answerAuthProve device session platform payload) := by
  have spares : Spares device session (answerAuthProve device session platform payload).session
      (answerAuthProve device session platform payload).device := by
    unfold answerAuthProve
    split <;> exact ⟨rfl,rfl⟩
  exact ⟨fun _ => spares,fun _ => spares,fun _ other => absurd rfl other⟩

theorem getCurrent : Framed device session (some .getCurrent) payload (answerGetCurrent capacity device session) := by
  unfold answerGetCurrent
  split
  · exact refusal nofun
  · exact ⟨fun _ => ⟨rfl,rfl⟩,fun _ => ⟨rfl,rfl⟩,fun _ _ => ⟨rfl,rfl⟩⟩

theorem setDisplay : Framed device session (some .setDisplay) payload (answerSetDisplay capacity device session payload) := by
  unfold answerSetDisplay
  split
  · rename_i sensorId enabled
    split
    · exact refusal nofun
    · rename_i valid
      split
      · exact refusal nofun
      · split
        · exact refusal nofun
        · have known : ∃ index, sensorIndex sensorId = some index := by
            unfold sensorIndex
            have small : sensorId.toNat - 1 < sensorCount := by
              simp only [not_or,Nat.not_lt] at valid
              have count : 0 < sensorCount := by decide
              omega
            rw [dif_pos small,if_neg fun zero => valid (.inl zero)]
            exact ⟨_,rfl⟩
          obtain ⟨index,known⟩ := known
          unfold Firmware.setDisplay
          rw [known]
          dsimp only
          cases available : sensorIsAvailable (device.thermometer.sensors index).latest with
          | false => exact refusal nofun
          | true =>
            refine ⟨fun refused => absurd rfl refused,fun _ => ?_,fun _ _ => ⟨rfl,rfl⟩⟩
            exact ⟨rfl,sensorId,enabled,index,rfl,known,rfl⟩
  · exact refusal nofun

theorem getHistoryMeta :
    Framed device session (some .getHistoryMeta) payload (answerGetHistoryMeta capacity device session) := by
  unfold answerGetHistoryMeta
  split
  · exact refusal nofun
  · exact ⟨fun refused => absurd rfl refused,fun _ => ⟨rfl,_,rfl⟩,fun _ _ => ⟨rfl,rfl⟩⟩

theorem getHistoryChunk (opcode : Opcode) (chunk : opcode = .getHistoryChunk ∨ opcode = .getHistoryChunkCompact) :
    Framed device session (some opcode) payload (answerGetHistoryChunk capacity device session payload compact) := by
  have kept : (answerGetHistoryChunk capacity device session payload compact).session = session ∧
      (answerGetHistoryChunk capacity device session payload compact).device = device := by
    unfold answerGetHistoryChunk
    split
    · unfold answerChunk
      repeat' split
      all_goals exact ⟨rfl,rfl⟩
    · exact ⟨rfl,rfl⟩
  refine ⟨fun _ => ?_,fun _ => ?_,fun _ _ => ?_⟩
  · rw [Spares,kept.1,kept.2]
    exact ⟨rfl,rfl⟩
  · rcases chunk with rfl | rfl <;> exact kept
  · rw [kept.1,kept.2]
    exact ⟨rfl,rfl⟩

theorem authenticated (byte : UInt8) :
    Framed device session (Opcode.ofByte byte) payload (answerAuthenticated capacity device session byte payload) := by
  unfold answerAuthenticated
  cases Opcode.ofByte byte with
  | none => exact refusal nofun
  | some name =>
    cases name with
    | getCurrent =>
      dsimp only
      split
      · exact refusal nofun
      · exact getCurrent
    | setDisplay => exact setDisplay
    | getHistoryMeta =>
      dsimp only
      split
      · exact refusal nofun
      · exact getHistoryMeta
    | getHistoryChunk => exact getHistoryChunk _ (.inl rfl)
    | getHistoryChunkCompact => exact getHistoryChunk _ (.inr rfl)
    | resetBond =>
      dsimp only
      split
      · exact refusal nofun
      · exact ⟨fun refused => absurd rfl refused,fun _ => ⟨rfl,rfl⟩,fun _ _ => ⟨rfl,rfl⟩⟩
    | _ => exact refusal nofun

theorem dispatch (byte : UInt8) :
    Framed device session (Opcode.ofByte byte) payload
      (answerDispatch capacity device session byte platform payload) := by
  have checked : Framed device session (Opcode.ofByte byte) payload
      (if session.authentication.authenticated then answerAuthenticated capacity device session byte payload
      else ⟨.authenticationRequired,[],session,device⟩) := by
    split
    · exact authenticated byte
    · exact refusal nofun
  unfold answerDispatch
  cases known : Opcode.ofByte byte with
  | none =>
    rw [known] at checked
    exact checked
  | some name =>
    rw [known] at checked
    cases name with
    | authBegin =>
      dsimp only
      split
      · exact refusal nofun
      · exact authBegin
    | authProve => exact authProve
    | _ => exact checked

theorem answer (request : List UInt8) :
    Framed device session (requestOpcode request) (request.drop headerSize)
      (answer capacity device session platform request) := by
  unfold Firmware.answer
  split
  · exact refusal nofun
  · rename_i long
    split
    · exact refusal nofun
    · split
      · exact refusal nofun
      · have present : request[headerOpcode]? = some (echo request).1 := by
          unfold echo
          have inside : headerOpcode < request.length := by
            simp only [headerSize,headerOpcode] at *
            omega
          rw [List.getElem?_eq_getElem inside]
          rfl
        rw [requestOpcode,present]
        exact dispatch _

end Framed

theorem status_success {status : Status} : status.value = Status.success.value ↔ status = .success := by
  cases status <;> decide

-- For every request in every state: without SUCCESS nothing but the authentication may
-- change, with it only what the request names; and the authentication changes by the two
-- authentication requests alone.
theorem request_frame
    (processed : processRequest cfg device session response platform request = some outcome) :
    (outcome.reply.status ≠ some Status.success.value → Spares device session outcome.session outcome.device) ∧
    (outcome.reply.status = some Status.success.value →
      Performs device session (request.drop headerSize) outcome.session outcome.device (requestOpcode request)) ∧
    (requestOpcode request ≠ some .authBegin → requestOpcode request ≠ some .authProve →
      outcome.session.authentication = session.authentication ∧ outcome.device.lockout = device.lockout) := by
  by_cases room : headerSize ≤ capacity
  · have settled : Settles (echo request).1 (echo request).2
        (processRequest cfg device session response platform request)
        (answer capacity device session platform request) := processRequest_settles room request
    rcases settled with ⟨_,overrun⟩ | ⟨reply,same,carries⟩
    · cases processed.symm.trans overrun
    · cases Option.some.inj (processed.symm.trans same)
      have framed : Framed device session (requestOpcode request) (request.drop headerSize)
          (answer capacity device session platform request) := .answer request
      rw [carries.status,ne_eq,Option.some.injEq,status_success]
      exact ⟨framed.refused,framed.performed,framed.authentication⟩
  · unfold processRequest at processed
    rw [if_pos (Nat.lt_of_not_le room)] at processed
    cases Option.some.inj processed
    exact ⟨fun _ => ⟨rfl,rfl⟩,nofun,fun _ _ => ⟨rfl,rfl⟩⟩

def displayDevice : Device provenConfig := ⟨run (start _ 7) [.reading 0 ⟨true,2150⟩],.cleared⟩

def displaySession : ProtocolSession := ⟨{ AuthSession.zeroed with authenticated := true },false⟩

theorem request_frame_display :
    ∃ outcome : Outcome provenConfig 16, outcome.reply.status = some 0 ∧
      Performs displayDevice displaySession [1,1] outcome.session outcome.device (some .setDisplay) := by
  have ran : (processRequest provenConfig displayDevice displaySession (Vector.replicate 16 0) ⟨0,.replicate 16 0⟩
      [2,2,1,0,2,0,0,0,1,1]).map (·.reply.status) = some (some 0) := by decide +kernel
  obtain ⟨outcome,processed,status⟩ := Option.map_eq_some_iff.mp ran
  exact ⟨outcome,status,(request_frame processed).2.1 status⟩

end Thermometer.Firmware
