import Thermometer.Lib.Memory

namespace Thermometer.Firmware
open Memory

-- The authentication macros of the generated header. `psaMac` is the PSA call that
-- imports the key and computes HMAC-SHA-256; it may fail or return another length.
structure AuthConfig where
  domain : List UInt8
  passkey : List UInt8
  protocolVersion : UInt8
  challengeTimeoutMs : Nat
  maxFailures : Nat
  lockoutMs : Nat
  psaMac : List UInt8 → List UInt8 → Option (List UInt8)

inductive AuthResult where
  | success | required | failed | locked
  deriving DecidableEq, Repr

structure AuthSession where
  deviceId : Vector UInt8 6
  nonce : Vector UInt8 16
  issuedAtUs : Int
  challengeActive : Bool
  authenticated : Bool
  disconnectRequested : Bool

def AuthSession.zeroed : AuthSession := ⟨.replicate 6 0,.replicate 16 0,0,false,false,false⟩

-- `s_failure_count` and `s_locked_until_us`, shared by all sessions of a boot.
structure Lockout where
  failureCount : UInt32
  lockedUntilUs : Int
  deriving DecidableEq, Repr

def Lockout.cleared : Lockout := ⟨0,0⟩

-- An expired lock is cleared, counter included, by the check that notices it.
def isLocked (lockout : Lockout) (nowUs : Int) : Bool × Lockout :=
  if lockout.lockedUntilUs = 0 then (false,lockout)
  else if nowUs < lockout.lockedUntilUs then (true,lockout)
  else (false,.cleared)

def constantTimeEqual (left right : List UInt8) : Bool :=
  (List.zipWith (· ^^^ ·) left right).foldl (· ||| ·) 0 == 0

def proofMessage (cfg : AuthConfig) (deviceId : Vector UInt8 6) (bootId : UInt32) (nonce : Vector UInt8 16) :
    List UInt8 :=
  cfg.domain ++ [cfg.protocolVersion] ++ deviceId.toList ++ u32Bytes bootId ++ nonce.toList

-- `none` when the passkey has a wrong size, the MAC call fails or its length is wrong.
def calculateProof (cfg : AuthConfig) (deviceId : Vector UInt8 6) (bootId : UInt32) (nonce : Vector UInt8 16) :
    Option (List UInt8) :=
  if cfg.passkey.length ≠ 6 then none
  else match cfg.psaMac cfg.passkey (proofMessage cfg deviceId bootId nonce) with
    | none => none
    | some proof => if proof.length = 32 then some proof else none

def authSessionStart (deviceId : Vector UInt8 6) : AuthSession := { AuthSession.zeroed with deviceId := deviceId }

def applicationAuthBegin (session : AuthSession) (lockout : Lockout) (nowUs : Int) (random : Vector UInt8 16) :
    AuthResult × AuthSession × Lockout :=
  match isLocked lockout nowUs with
  | (true,lockout) => (.locked,session,lockout)
  | (false,lockout) =>
    (.success,{ session with
      nonce := random, issuedAtUs := nowUs, challengeActive := true, authenticated := false },lockout)

def maximumAgeUs (cfg : AuthConfig) : Int := cfg.challengeTimeoutMs * 1000

def proofValid (cfg : AuthConfig) (session : AuthSession) (bootId : UInt32) (proof : List UInt8) : Bool :=
  match calculateProof cfg session.deviceId bootId session.nonce with
  | none => false
  | some expected => constantTimeEqual expected proof

def applicationAuthProve (cfg : AuthConfig) (session : AuthSession) (lockout : Lockout) (nowUs : Int)
    (bootId : UInt32) (proof : List UInt8) : AuthResult × AuthSession × Lockout :=
  match isLocked lockout nowUs with
  | (true,lockout) => (.locked,{ session with disconnectRequested := true },lockout)
  | (false,lockout) =>
    if !session.challengeActive ∨ maximumAgeUs cfg < nowUs - session.issuedAtUs then
      (.required,{ session with challengeActive := false },lockout)
    else if proofValid cfg session bootId proof then
      (.success,{ session with challengeActive := false, authenticated := true },.cleared)
    else
      let session := { session with
        challengeActive := false, authenticated := false, disconnectRequested := true }
      let failureCount := lockout.failureCount + 1
      if cfg.maxFailures ≤ failureCount.toNat then
        (.locked,session,⟨failureCount,nowUs + cfg.lockoutMs * 1000⟩)
      else (.failed,session,{ lockout with failureCount := failureCount })

def takeDisconnect (session : AuthSession) : Bool × AuthSession :=
  (session.disconnectRequested,{ session with disconnectRequested := false })

-- The comparison accumulates differences and is still an equality test.
theorem constantTimeEqual_iff (same : left.length = right.length) :
    constantTimeEqual left right = true ↔ left = right := by
  have accumulate : ∀ (left right : List UInt8) (difference : UInt8), left.length = right.length →
      ((List.zipWith (· ^^^ ·) left right).foldl (· ||| ·) difference = 0 ↔
        difference = 0 ∧ left = right) := by
    intro left
    induction left with
    | nil =>
      intro right difference same
      cases right with
      | nil => simp
      | cons => cases same
    | cons head tail ih =>
      intro right difference same
      cases right with
      | nil => cases same
      | cons other rest =>
        rw [List.zipWith_cons_cons,List.foldl_cons,ih _ _ (by simpa using same),UInt8.or_eq_zero_iff,
          UInt8.xor_eq_zero_iff,List.cons.injEq,and_assoc]
  rw [constantTimeEqual,beq_iff_eq,accumulate _ _ _ same]
  simp

theorem proofValid_iff (length : proof.length = 32) :
    proofValid cfg session bootId proof = true ↔
      calculateProof cfg session.deviceId bootId session.nonce = some proof := by
  unfold proofValid
  cases expected : calculateProof cfg session.deviceId bootId session.nonce with
  | none => simp
  | some bytes =>
    have size : bytes.length = 32 := by
      unfold calculateProof at expected
      split at expected
      · cases expected
      · split at expected
        · cases expected
        · split at expected
          · rename_i size; cases Option.some.inj expected; exact size
          · cases expected
    rw [Option.some.injEq]
    exact constantTimeEqual_iff (size.trans length.symm)

end Thermometer.Firmware
