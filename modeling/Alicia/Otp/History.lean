import Alicia.Otp
import Alicia.Transition.Run
import Mathlib.Data.List.Basic
import Mathlib.Data.List.Induction

/-!
# Histories of one-time codes

The lobby grants codes, and the race and ranch servers authorize them.  What an authorization
answers is a matter of the calls before it: the latest grant for the key decides, as long as nobody
has used its code.
-/

namespace Alicia.OtpSystem

open Transition List

/-! ## Calls -/

/-- A call at a reading of the clock.  The code of a grant is the one that it returns. -/
inductive Call where
  | grantCode (key : UInt64) (now : Nat) (code : UInt32)
  | authorizeCode (key : UInt64) (now : Nat) (code : UInt32)
  deriving DecidableEq

def Call.key : Call → UInt64
  | grantCode key _ _ => key
  | authorizeCode key _ _ => key

def call (system : OtpSystem) : Call → OtpSystem
  | .grantCode key now code => system.grantCode key now code
  | .authorizeCode key now code => (system.authorizeCode key now code).2

/-- The system after some calls. -/
def after (calls : List Call) : OtpSystem := run call {} calls

/-- What an authorization after the calls answers. -/
def authorizes (calls : List Call) (key : UInt64) (now : Nat) (code : UInt32) : Bool :=
  ((after calls).authorizeCode key now code).1

/-- The keys that the servers use: the hash of a character and a room, or the uid of a character. -/
inductive Use where
  | room (characterUid roomUid : UInt32)
  | ranch (characterUid : UInt32)
  deriving DecidableEq

def Use.key (identityHash : UInt32 → UInt32 → UInt64) : Use → UInt64
  | room characterUid roomUid => identityHash characterUid roomUid
  | ranch characterUid => characterUid.toUInt64

/-! ## What the calls entitle to -/

/-- None of the calls grants a code for the key. -/
def NoGrant (key : UInt64) (calls : List Call) : Prop :=
  ∀ now code, .grantCode key now code ∉ calls

/-- No authorization of the code among the later calls has succeeded. -/
def Unused (earlier : List Call) (key : UInt64) (code : UInt32) (later : List Call) : Prop :=
  ∀ first now rest, later = first ++ .authorizeCode key now code :: rest →
    authorizes (earlier ++ first) key now code = false

/-- The latest grant for the key returned the code at the time, and nobody has used it since. -/
def Granted (calls : List Call) (key : UInt64) (time : Nat) (code : UInt32) : Prop :=
  ∃ before later, calls = before ++ .grantCode key time code :: later ∧ NoGrant key later ∧
    Unused (before ++ [.grantCode key time code]) key code later

/-- No call for another key matters to the key. -/
def Independent (calls : List Call) (key : UInt64) : Prop :=
  ∀ before call later, calls = before ++ call :: later → call.key ≠ key →
    ∀ now code, authorizes calls key now code = authorizes (before ++ later) key now code

/-- Codes can be used once, for thirty seconds, whatever is called for other keys. -/
structure UsedOnce (identityHash : UInt32 → UInt32 → UInt64) (calls : List Call) : Prop where
  authorizes_iff : ∀ key now code, authorizes calls key now code = true ↔
    ∃ time, Granted calls key time code ∧ now ≤ time + lifetime
  independent : ∀ key, Independent calls key
  uses : ∀ use : Use, Independent calls (use.key identityHash)

/-! ## One call -/

theorem after_concat (calls : List Call) (last : Call) :
    after (calls ++ [last]) = (after calls).call last := by
  simp [after, run_append]

theorem codes_call_of_ne (system : OtpSystem) {call : Call} {key : UInt64} (h : call.key ≠ key) :
    (system.call call).codes key = system.codes key := by
  cases call with
  | grantCode other now code => exact Function.update_of_ne h.symm _ _
  | authorizeCode other now code =>
    simp only [OtpSystem.call, authorizeCode]
    split
    · rfl
    · split
      · exact Function.update_of_ne h.symm _ _
      · rfl

/-- An authorization succeeds exactly for the code that waits and has not expired. -/
theorem authorizeCode_iff {system : OtpSystem} {key : UInt64} {now : Nat} {code : UInt32} :
    (system.authorizeCode key now code).1 = true ↔
      ∃ expiry, system.codes key = some ⟨expiry, code⟩ ∧ now ≤ expiry := by
  unfold authorizeCode
  cases hcodes : system.codes key with
  | none => simp
  | some granted =>
    obtain ⟨expiry, waiting⟩ := granted
    by_cases hright : now ≤ expiry ∧ waiting = code
    · obtain ⟨hnow, rfl⟩ := hright
      simp [hnow]
    · simp only [hright, if_false, Bool.false_eq_true, false_iff]
      rintro ⟨other, hother, hnow⟩
      cases hother
      exact hright ⟨hnow, rfl⟩

theorem codes_authorizeCode (system : OtpSystem) (key : UInt64) (now : Nat) (code : UInt32) :
    (system.authorizeCode key now code).2.codes key =
      if (system.authorizeCode key now code).1 then none else system.codes key := by
  unfold authorizeCode
  cases hcodes : system.codes key with
  | none => simp [hcodes]
  | some granted => by_cases hright : now ≤ granted.expiry ∧ granted.code = code <;>
      simp [hright, hcodes]

/-! ## One more call -/

/-- An item of a list with one more item at the end is that one, or one of the list. -/
theorem concat_eq_append_cons {α : Type} {items before later : List α} {last item : α} :
    items ++ [last] = before ++ item :: later ↔
      later = [] ∧ last = item ∧ items = before ∨
        ∃ rest, later = rest ++ [last] ∧ items = before ++ item :: rest := by
  constructor
  · intro h
    obtain rfl | ⟨rest, other, rfl⟩ := later.eq_nil_or_concat'
    · obtain ⟨hitems, hlast⟩ := append_inj' h rfl
      exact .inl ⟨rfl, singleton_inj.1 hlast, hitems⟩
    · rw [← cons_append, ← append_assoc] at h
      obtain ⟨hitems, hlast⟩ := append_inj' h rfl
      cases singleton_inj.1 hlast
      exact .inr ⟨rest, rfl, hitems⟩
  · rintro (⟨rfl, rfl, rfl⟩ | ⟨rest, rfl, rfl⟩)
    · rfl
    · simp

section OneMore

variable {calls earlier later : List Call} {last : Call} {key : UInt64} {time : Nat} {code : UInt32}

theorem noGrant_concat : NoGrant key (later ++ [last]) ↔
    NoGrant key later ∧ ∀ now code, last ≠ .grantCode key now code := by
  simp only [NoGrant, mem_append, mem_singleton, not_or]
  exact ⟨fun h => ⟨fun now code => (h now code).1, fun now code => Ne.symm (h now code).2⟩,
    fun h now code => ⟨h.1 now code, Ne.symm (h.2 now code)⟩⟩

theorem unused_concat : Unused earlier key code (later ++ [last]) ↔
    Unused earlier key code later ∧ ∀ now, last = .authorizeCode key now code →
      authorizes (earlier ++ later) key now code = false := by
  constructor
  · intro h
    refine ⟨fun first now rest hlater => h first now (rest ++ [last]) ?_, fun now hlast => ?_⟩
    · rw [hlater, append_assoc, cons_append]
    · exact h later now [] (hlast ▸ rfl)
  · rintro ⟨hunused, hlast⟩ first now rest hlater
    obtain ⟨-, hsame, rfl⟩ | ⟨others, -, hothers⟩ := concat_eq_append_cons.1 hlater
    · exact hlast now hsame
    · exact hunused first now others hothers

/-- A new grant is the latest. -/
theorem granted_grantCode (calls : List Call) (key : UInt64) (now time : Nat)
    (granted code : UInt32) :
    Granted (calls ++ [.grantCode key now granted]) key time code ↔
      now = time ∧ granted = code := by
  constructor
  · rintro ⟨before, later, hcalls, hnone, -⟩
    obtain ⟨-, hsame, -⟩ | ⟨rest, rfl, -⟩ := concat_eq_append_cons.1 hcalls
    · cases hsame
      exact ⟨rfl, rfl⟩
    · exact absurd rfl ((noGrant_concat.1 hnone).2 now granted)
  · rintro ⟨rfl, rfl⟩
    refine ⟨calls, [], rfl, fun _ _ => not_mem_nil, fun first _ _ hlater => ?_⟩
    simp at hlater

/-- Another call leaves the latest grant what it is, unless it uses its code. -/
theorem granted_concat (hlast : ∀ now granted, last ≠ .grantCode key now granted) :
    Granted (calls ++ [last]) key time code ↔ Granted calls key time code ∧
      ∀ now, last = .authorizeCode key now code → authorizes calls key now code = false := by
  constructor
  · rintro ⟨before, later, hcalls, hnone, hunused⟩
    obtain ⟨-, hsame, -⟩ | ⟨rest, rfl, rfl⟩ := concat_eq_append_cons.1 hcalls
    · exact absurd hsame (hlast time code)
    · obtain ⟨hbefore, huse⟩ := unused_concat.1 hunused
      rw [append_assoc] at huse
      exact ⟨⟨before, rest, rfl, (noGrant_concat.1 hnone).1, hbefore⟩, huse⟩
  · rintro ⟨⟨before, later, rfl, hnone, hunused⟩, huse⟩
    refine ⟨before, later ++ [last], by simp, noGrant_concat.2 ⟨hnone, hlast⟩,
      unused_concat.2 ⟨hunused, fun now hsame => ?_⟩⟩
    rw [append_assoc]
    exact huse now hsame

end OneMore

/-! ## Histories -/

/-- A code waits under a key with the expiry of its grant. -/
def Waits (calls : List Call) (key : UInt64) (expiry : Nat) (code : UInt32) : Prop :=
  ∃ time, Granted calls key time code ∧ expiry = time + lifetime

theorem waits_concat {calls : List Call} {last : Call} {key : UInt64} {expiry : Nat} {code : UInt32}
    (hlast : ∀ now granted, last ≠ .grantCode key now granted) :
    Waits (calls ++ [last]) key expiry code ↔ Waits calls key expiry code ∧
      ∀ now, last = .authorizeCode key now code → authorizes calls key now code = false := by
  simp only [Waits, granted_concat hlast]
  grind

/-- The code that waits under a key is that of its latest grant, as long as it is unused. -/
theorem codes_iff (calls : List Call) (key : UInt64) (expiry : Nat) (code : UInt32) :
    (after calls).codes key = some ⟨expiry, code⟩ ↔ Waits calls key expiry code := by
  induction calls using List.reverseRecOn generalizing expiry code with
  | nil =>
    refine iff_of_false nofun ?_
    rintro ⟨time, ⟨before, later, hcalls, -⟩, -⟩
    simp at hcalls
  | append_singleton calls last ih =>
    rw [after_concat]
    by_cases hkey : last.key = key
    · subst hkey
      cases last with
      | grantCode key now granted =>
        simp only [call, grantCode, Call.key, Function.update_self, Waits, granted_grantCode,
          Option.some.injEq, Code.mk.injEq]
        grind
      | authorizeCode key now presented =>
        rw [waits_concat (by nofun), ← ih]
        dsimp only [call, Call.key]
        rw [codes_authorizeCode]
        cases hanswer : ((after calls).authorizeCode key now presented).1 with
        | false =>
          refine (and_iff_left ?_).symm
          rintro _ ⟨⟩
          exact hanswer
        | true =>
          -- The code that is used is the one that waits.
          obtain ⟨waiting, hwaiting, -⟩ := authorizeCode_iff.1 hanswer
          refine iff_of_false nofun ?_
          rintro ⟨hcodes, hunused⟩
          cases hwaiting.symm.trans hcodes
          exact absurd hanswer (Bool.eq_false_iff.1 (hunused now rfl))
    · rw [codes_call_of_ne _ hkey, ih, waits_concat]
      · refine (and_iff_left ?_).symm
        rintro now rfl
        exact absurd rfl hkey
      · rintro now granted rfl
        exact hkey rfl

/-- An authorization of a key depends on the code that waits under it alone. -/
theorem codes_run_congr {key : UInt64} {first second : OtpSystem}
    (h : first.codes key = second.codes key) (calls : List Call) :
    (run call first calls).codes key = (run call second calls).codes key := by
  induction calls generalizing first second with
  | nil => exact h
  | cons head rest ih =>
    refine ih ?_
    by_cases hkey : head.key = key
    · subst hkey
      cases head with
      | grantCode key now code => simp [call, grantCode, Call.key]
      | authorizeCode key now code =>
        have hsame : (first.authorizeCode key now code).1 =
            (second.authorizeCode key now code).1 := by
          rw [Bool.eq_iff_iff, authorizeCode_iff, authorizeCode_iff]
          exact h ▸ Iff.rfl
        dsimp only [call, Call.key] at h ⊢
        rw [codes_authorizeCode, codes_authorizeCode, hsame, h]
    · rw [codes_call_of_ne _ hkey, codes_call_of_ne _ hkey, h]

theorem independent (calls : List Call) (key : UInt64) : Independent calls key := by
  rintro before other later rfl hkey now code
  have hsame : (after (before ++ other :: later)).codes key =
      (after (before ++ later)).codes key := by
    rw [after, after, run_append, run_append, run_cons]
    exact codes_run_congr (codes_call_of_ne _ hkey) later
  rw [Bool.eq_iff_iff, authorizes, authorizes, authorizeCode_iff, authorizeCode_iff, hsame]

/-- In every history of grants and authorizations of any keys, a code is good for its key alone,
once and for thirty seconds. -/
theorem used_once (identityHash : UInt32 → UInt32 → UInt64) (calls : List Call) :
    UsedOnce identityHash calls := by
  refine ⟨fun key now code => ?_, independent calls, fun use => independent calls _⟩
  rw [authorizes, authorizeCode_iff]
  simp only [codes_iff, Waits]
  grind

end Alicia.OtpSystem
