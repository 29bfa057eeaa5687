import Mathlib.Logic.Function.Basic

/-!
# One-time codes

A granted code waits under its key until it is used, replaced or expired.  The codes and the readings of
the steady clock are inputs.
-/

namespace Alicia

structure OtpSystem.Code where
  expiry : Nat
  code : UInt32
  deriving DecidableEq

structure OtpSystem where
  codes : UInt64 → Option OtpSystem.Code := fun _ => none

namespace OtpSystem

/-- The time for which a code can be used, in nanoseconds. -/
def lifetime : Nat := 30000000000

def grantCode (key : UInt64) (now : Nat) (code : UInt32) (system : OtpSystem) : OtpSystem :=
  { codes := Function.update system.codes key (some ⟨now + lifetime, code⟩) }

/-- Whether the code is right, and the codes that are left. -/
def authorizeCode (key : UInt64) (now : Nat) (code : UInt32) (system : OtpSystem) : Bool × OtpSystem :=
  match system.codes key with
  | none => (false, system)
  | some granted =>
    if now ≤ granted.expiry ∧ granted.code = code then
      (true, { codes := Function.update system.codes key none })
    else (false, system)

end OtpSystem

end Alicia
