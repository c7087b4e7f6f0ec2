import Mathlib.Data.List.Induction
import Thermometer.Firmware.RequestFrame

-- Which bond a disconnect removes, and on whose word.
namespace Thermometer.Firmware
open Memory Wire Execution

variable {cfg : FirmwareConfig} {device : Device cfg} {session : ProtocolSession} {capacity : Nat}
  {response : Vector UInt8 capacity} {payload : List UInt8} {platform : Platform} {opcode : UInt8} {requestId : UInt16}

theorem answerDispatch_resets (unscheduled : session.bondResetRequested = false) :
    (answerDispatch capacity device session opcode platform payload).session.bondResetRequested = true ↔
      Opcode.ofByte opcode = some .resetBond ∧ payload = [] ∧ session.authentication.authenticated = true := by
  constructor
  · intro flagged
    have framed : Framed device session (Opcode.ofByte opcode) payload
        (answerDispatch capacity device session opcode platform payload) := .dispatch opcode
    have refused_contradicts : ∀ {after : ProtocolSession} {changed : Device cfg},
        Spares device session after changed → after.bondResetRequested = true → False := by
      rintro after changed ⟨_,kept⟩ raised
      rw [kept,unscheduled] at raised
      cases raised
    have success : (answerDispatch capacity device session opcode platform payload).status = .success := by
      by_contra refused
      exact refused_contradicts (framed.refused refused) flagged
    have performed := framed.performed success
    have same_contradicts : ∀ {after : ProtocolSession}, after = session → after.bondResetRequested = true → False := by
      rintro after rfl raised
      rw [unscheduled] at raised
      cases raised
    cases known : Opcode.ofByte opcode with
    | none =>
      rw [known] at performed
      cases performed
    | some name =>
      rw [known] at performed
      cases name with
      | resetBond =>
        refine ⟨rfl,?_⟩
        simp only [answerDispatch,known] at flagged
        split at flagged
        case isTrue authenticated =>
          simp only [answerAuthenticated,known] at flagged
          split at flagged
          case isTrue => exact absurd flagged (by simp [unscheduled])
          case isFalse empty => exact ⟨by simpa using empty,authenticated⟩
        case isFalse => exact absurd flagged (by simp [unscheduled])
      | getCurrent => exact (same_contradicts performed.1 flagged).elim
      | getHistoryChunk => exact (same_contradicts performed.1 flagged).elim
      | getHistoryChunkCompact => exact (same_contradicts performed.1 flagged).elim
      | setDisplay => exact (same_contradicts performed.1 flagged).elim
      | getHistoryMeta => exact (same_contradicts performed.1 flagged).elim
      | authBegin => exact (refused_contradicts performed flagged).elim
      | authProve => exact (refused_contradicts performed flagged).elim
  · rintro ⟨known,rfl,authenticated⟩
    simp [answerDispatch,answerAuthenticated,known,authenticated]

theorem processRequest_resets (room : headerSize ≤ capacity) {request : List UInt8} {outcome : Outcome cfg capacity}
    (unscheduled : session.bondResetRequested = false)
    (processed : processRequest cfg device session response platform request = some outcome) :
    outcome.session.bondResetRequested = true ↔
      acceptedRequest cfg request = some (.resetBond,[]) ∧ session.authentication.authenticated = true := by
  rcases processRequest_cases cfg room request with ⟨refused,_,_,_,same⟩ | ⟨opcode,requestId,accepted,same⟩
  · rw [same] at processed
    rw [(finishEmpty_untouched processed).1,unscheduled,refused]
    simp
  · rw [same] at processed
    have settled : Settles opcode requestId
        (dispatch cfg device session opcode requestId (.replicate capacity 0) platform (request.drop headerSize))
        (answerDispatch capacity device session opcode platform (request.drop headerSize)) := dispatch_settles room
    rcases settled with ⟨_,overrun⟩ | ⟨reply,answered,_⟩
    · cases processed.symm.trans overrun
    · cases Option.some.inj (processed.symm.trans answered)
      rw [answerDispatch_resets unscheduled,accepted]
      cases Opcode.ofByte opcode <;> simp [and_assoc]

def Resets (left : Server cfg) (event : LinkEvent) (peer : BleAddress) : Prop :=
  ∃ request platform, event = .write request platform true (some peer) ∧
    asked cfg event = some ((.resetBond,[]),platform) ∧ left.session.authentication.authenticated = true

theorem Resets.peer_unique {left : Server cfg} {event : LinkEvent} {peer other : BleAddress} (resets : Resets left event peer)
    (again : Resets left event other) : peer = other := by
  obtain ⟨_,_,rfl,_⟩ := resets
  obtain ⟨_,_,same,_⟩ := again
  cases same
  rfl

structure Bond where
  clear : Bool
  peer : Option BleAddress

def Server.bond (s : Server cfg) : Bond := ⟨s.clearBondOnDisconnect,s.bondToClear⟩

theorem write_bond {s next : Server cfg} {request : List UInt8} {flat : Bool} {peer : Option BleAddress} {result : AttResult}
    (unscheduled : s.session.bondResetRequested = false)
    (wrote : writeRequest s request platform flat peer = some (result,next)) :
    (∃ named, Resets s (.write request platform flat peer) named ∧ next.bond = ⟨true,some named⟩) ∨
    (∀ named, ¬ Resets s (.write request platform flat peer) named) ∧ next.bond = s.bond := by
  rcases writeRequest_cases cfg request platform flat peer with ⟨unasked,refusal,_,refused⟩ | ⟨asks,served⟩
  · rw [refused] at wrote
    cases wrote
    refine .inr ⟨?_,rfl⟩
    rintro named ⟨_,_,_,asked,_⟩
    rw [unasked] at asked
    cases asked
  · rw [served] at wrote
    simp only [Option.bind_eq_some_iff,Option.some.injEq,Prod.mk.injEq] at wrote
    obtain ⟨outcome,processed,_,rfl⟩ := wrote
    have flagged := processRequest_resets (maxPacketSize_header cfg) unscheduled processed
    cases raised : outcome.session.bondResetRequested with
    | false =>
      refine .inr ⟨?_,rfl⟩
      rintro named ⟨_,_,_,asked,authenticated⟩
      rw [asks] at asked
      obtain ⟨accepted,is_reset,same⟩ := Option.map_eq_some_iff.mp asked
      cases same
      rw [raised,is_reset] at flagged
      cases flagged.mpr ⟨rfl,authenticated⟩
    | true =>
      obtain ⟨is_reset,authenticated⟩ := flagged.mp raised
      cases peer with
      | none =>
        refine .inr ⟨?_,rfl⟩
        rintro named ⟨_,_,same,_⟩
        cases same
      | some named =>
        cases flat with
        | true => exact .inl ⟨named,⟨request,platform,rfl,by rw [asks,is_reset]; rfl,authenticated⟩,rfl⟩
        | false =>
          rw [is_reset] at asks
          simp [asked] at asks

def LatestReset (trace : List (Server cfg × LinkEvent)) (peer : BleAddress) : Prop :=
  ∃ before left event after, trace = before ++ (left,event) :: after ∧ Resets left event peer ∧
    ∀ entry ∈ after, entry.2 ≠ .disconnect ∧ ∀ other, ¬ Resets entry.1 entry.2 other

theorem latestReset_snoc {trace : List (Server cfg × LinkEvent)} {left : Server cfg} {event : LinkEvent} {peer : BleAddress} :
    LatestReset (trace ++ [(left,event)]) peer ↔
      Resets left event peer ∨ event ≠ .disconnect ∧ (∀ other, ¬ Resets left event other) ∧ LatestReset trace peer := by
  constructor
  · rintro ⟨before,asker,asking,after,split,resets,quiet⟩
    rcases List.eq_nil_or_concat after with rfl | ⟨middle,last,rfl⟩
    · obtain ⟨_,same⟩ := List.append_inj' split rfl
      cases same
      exact .inl resets
    · have shifted : trace ++ [(left,event)] = (before ++ (asker,asking) :: middle) ++ [last] := by simpa using split
      obtain ⟨rfl,same⟩ := List.append_inj' shifted rfl
      cases same
      obtain ⟨stays,other⟩ := quiet (left,event) (by simp)
      exact .inr ⟨stays,other,before,asker,asking,middle,rfl,resets,fun entry member => quiet entry (by simp [member])⟩
  · rintro (resets | ⟨stays,other,before,asker,asking,after,rfl,resets,quiet⟩)
    · exact ⟨trace,left,event,[],rfl,resets,fun entry member => absurd member List.not_mem_nil⟩
    · refine ⟨before,asker,asking,after ++ [(left,event)],by simp,resets,?_⟩
      intro entry member
      rcases List.mem_append.mp member with old | new
      · exact quiet entry old
      · cases List.mem_singleton.mp new
        exact ⟨stays,other⟩

theorem not_latestReset_nil (peer : BleAddress) : ¬ LatestReset ([] : List (Server cfg × LinkEvent)) peer := by
  rintro ⟨before,left,event,after,split,_⟩
  cases before <;> cases split

theorem latestReset_unique {trace : List (Server cfg × LinkEvent)} {peer other : BleAddress} (latest : LatestReset trace peer)
    (again : LatestReset trace other) : peer = other := by
  induction trace using List.reverseRecOn with
  | nil => exact absurd latest (not_latestReset_nil peer)
  | append_singleton trace entry ih =>
    rcases latestReset_snoc.mp latest with resets | ⟨_,none,old⟩
    · rcases latestReset_snoc.mp again with same | ⟨_,none,_⟩
      · exact resets.peer_unique same
      · exact absurd resets (none peer)
    · rcases latestReset_snoc.mp again with resets | ⟨_,_,same⟩
      · exact absurd resets (none other)
      · exact ih old same

theorem step_bond {s next : Server cfg} {event : LinkEvent} (unscheduled : s.session.bondResetRequested = false)
    (stepped : serverStep s event = some next) (held : s.bond.clear = false → s.bond.peer = none) :
    (∃ named, Resets s event named ∧ next.bond = ⟨true,some named⟩) ∨
    (∀ named, ¬ Resets s event named) ∧
      (event = .disconnect ∧ next.bond = ⟨false,none⟩ ∨ event ≠ .disconnect ∧ next.bond = s.bond) := by
  have no_write : (∀ request platform flat peer, event ≠ .write request platform flat peer) → ∀ named, ¬ Resets s event named := by
    rintro other named ⟨request,platform,same,_⟩
    exact other _ _ _ _ same
  cases event with
  | write request platform flat peer =>
    simp only [serverStep] at stepped
    split at stepped
    · obtain ⟨⟨result,last⟩,wrote,rfl⟩ := Option.map_eq_some_iff.mp stepped
      rcases write_bond unscheduled wrote with resets | ⟨none,same⟩
      · exact .inl resets
      · exact .inr ⟨none,.inr ⟨by simp,same⟩⟩
    · cases stepped
  | disconnect =>
    cases Option.some.inj stepped
    refine .inr ⟨no_write (by simp),.inl ⟨rfl,?_⟩⟩
    unfold handleDisconnect
    split
    case isTrue => rfl
    case isFalse clear =>
      have off : s.clearBondOnDisconnect = false := by simpa using clear
      have empty : s.bondToClear = none := held off
      simp [Server.bond,off,empty]
  | connect established =>
    cases Option.some.inj stepped
    refine .inr ⟨no_write (by simp),.inr ⟨by simp,?_⟩⟩
    cases established <;> rfl
  | read room =>
    simp only [serverStep] at stepped
    split at stepped
    · cases Option.some.inj stepped
      refine .inr ⟨no_write (by simp),.inr ⟨by simp,?_⟩⟩
      cases room <;> rfl
    · cases stepped
  | tick | reading | toggleDisplay =>
    cases Option.some.inj stepped
    exact .inr ⟨no_write (by simp),.inr ⟨by simp,rfl⟩⟩

def Scheduled (trace : List (Server cfg × LinkEvent)) (s : Server cfg) : Prop :=
  (∃ peer, s.bond = ⟨true,some peer⟩ ∧ LatestReset trace peer) ∨ s.bond = ⟨false,none⟩ ∧ ∀ peer, ¬ LatestReset trace peer

theorem Scheduled.held {trace : List (Server cfg × LinkEvent)} {s : Server cfg} (scheduled : Scheduled trace s) :
    s.bond.clear = false → s.bond.peer = none := by
  rcases scheduled with ⟨peer,same,_⟩ | ⟨same,_⟩ <;> rw [same] <;> simp

theorem Scheduled.step {trace : List (Server cfg × LinkEvent)} {s next : Server cfg} {event : LinkEvent}
    (scheduled : Scheduled trace s) (unscheduled : s.session.bondResetRequested = false)
    (stepped : serverStep s event = some next) : Scheduled (trace ++ [(s,event)]) next := by
  rcases step_bond unscheduled stepped scheduled.held with ⟨named,resets,same⟩ | ⟨none,⟨rfl,same⟩ | ⟨stays,same⟩⟩
  · exact .inl ⟨named,same,latestReset_snoc.mpr (.inl resets)⟩
  · refine .inr ⟨same,fun peer latest => ?_⟩
    rcases latestReset_snoc.mp latest with resets | ⟨stays,_⟩
    · exact none peer resets
    · exact stays rfl
  · rcases scheduled with ⟨peer,held,latest⟩ | ⟨held,unasked⟩
    · exact .inl ⟨peer,same.trans held,latestReset_snoc.mpr (.inr ⟨stays,none,latest⟩)⟩
    · refine .inr ⟨same.trans held,fun peer latest => ?_⟩
      rcases latestReset_snoc.mp latest with resets | ⟨_,_,old⟩
      · exact none peer resets
      · exact unasked peer old

def deletedBond (s : Server cfg) : LinkEvent → Option BleAddress
  | .disconnect => if s.clearBondOnDisconnect then s.bondToClear else none
  | _ => none

variable {deviceId : Vector UInt8 6} {bootId : UInt32} {trace : List (Server cfg × LinkEvent)} {s : Server cfg}

theorem run_scheduled (path : Path serverStep anyStep (serverStart cfg bootId deviceId) trace s) :
    Sound deviceId bootId trace s ∧ Scheduled trace s := by
  refine path.history (fun trace s => Sound deviceId bootId trace s ∧ Scheduled trace s) ⟨?_,?_⟩ ?_
  · refine ⟨rfl,rfl,rfl,fun _ => rfl,fun linked => ?_⟩
    cases linked
  · exact .inr ⟨rfl,not_latestReset_nil⟩
  · rintro trace s event next _ ⟨sound,scheduled⟩ _ stepped
    exact ⟨sound.step stepped,scheduled.step sound.unscheduled stepped⟩

-- In every run, a disconnect deletes a bond exactly where an authorised request for it came since the last
-- disconnect, and it deletes the bond of the peer that the last such request came from, once.
-- Authorised is a request only in a session whose client has proved the passkey.
theorem bond_reset_authorised (path : Path serverStep anyStep (serverStart cfg bootId deviceId) trace s) :
    (∀ peer, deletedBond s .disconnect = some peer ↔ LatestReset trace peer) ∧
    (∀ before left event after peer, trace = before ++ (left,event) :: after → Resets left event peer →
      Proved deviceId bootId before) ∧
    deletedBond (handleDisconnect s) .disconnect = none := by
  obtain ⟨_,scheduled⟩ := run_scheduled path
  refine ⟨?_,?_,?_⟩
  · intro peer
    rcases scheduled with ⟨named,same,latest⟩ | ⟨same,unasked⟩
    · have held : s.clearBondOnDisconnect = true ∧ s.bondToClear = some named := by
        simpa [Server.bond] using same
      rw [deletedBond,if_pos held.1,held.2]
      constructor
      · intro named_peer
        cases Option.some.inj named_peer
        exact latest
      · intro other
        rw [latestReset_unique latest other]
    · have held : s.clearBondOnDisconnect = false ∧ s.bondToClear = none := by
        simpa [Server.bond] using same
      rw [deletedBond,held.1,if_neg Bool.false_ne_true]
      exact ⟨nofun,fun latest => absurd latest (unasked peer)⟩
  · rintro before left event after peer rfl resets
    obtain ⟨sound,_⟩ := run_scheduled (path.upTo rfl)
    obtain ⟨_,stepped,_⟩ := path.after rfl
    obtain ⟨request,platform,rfl,_,authenticated⟩ := resets
    have linked : left.linked = true := by
      simp only [serverStep] at stepped
      split at stepped
      · assumption
      · cases stepped
    exact (sound.authentication linked).proved authenticated
  · unfold handleDisconnect
    split
    case isTrue => rfl
    case isFalse clear => exact if_neg clear

def resetRun : List LinkEvent := provenRun ++ [.write [2,7,3,0,0,0,0,0] ⟨3000,.replicate 16 0⟩ true (some ⟨0,.replicate 6 8⟩)]

theorem bond_reset_authorised_reset_run :
    ∃ trace s peer, Path serverStep anyStep (serverStart provenConfig 7 ⟨#[1,2,3,4,5,6],rfl⟩) trace s ∧
      trace.map Prod.snd = resetRun ∧ deletedBond s .disconnect = some peer ∧ LatestReset trace peer := by
  have ran : (Execution.run serverStep (serverStart provenConfig 7 ⟨#[1,2,3,4,5,6],rfl⟩) resetRun).map
      (fun s => (deletedBond s .disconnect).isSome) = some true := by decide
  obtain ⟨s,reached,deletes⟩ := Option.map_eq_some_iff.mp ran
  obtain ⟨peer,deleted⟩ := Option.isSome_iff_exists.mp deletes
  obtain ⟨trace,path,taken⟩ := run_path reached
  exact ⟨trace,s,peer,path,taken,deleted,((bond_reset_authorised path).1 peer).mp deleted⟩

end Thermometer.Firmware
