import Alicia.Reward.System

/-!
# Rewards are paid once

The history says which carrots were added, and the balances agree with it.  A call that grants or
marks a reward relies on what it read before, so a reward is paid once exactly in the runs in which no
other call has paid it in between.
-/

namespace Alicia.Reward

open Transition Data Function List Bool Storage
open Chrono (TimePoint)
open DataDirector (characterStorage rewardStorage)

/-! ## What a claim is for -/

/-- Whether a reward is claimed, as a number. -/
def claimed (uid : Uid) (data : DataDirector) : Nat := ((data.rewards uid).any Data.Reward.isClaimed).toNat

/-- The number of calls for the reward that are in a phase. -/
def inPhase (phase : Phase) (uid : Uid) (calls : List Call) : Nat :=
  calls.countP fun call => call.claimUid = uid && call.phase = phase

/-- The number of times that the carrots of the reward were added to a character. -/
def payments (uid : Uid) (grants : List Grant) : Nat :=
  grants.countP fun grant => grant.claimUid = uid

/-- The carrots which a character was granted. -/
def received (uid : Uid) : List Grant → Int32
  | [] => 0
  | grant :: rest =>
    if grant.characterUid = uid then received uid rest + grant.carrots.toInt32 else received uid rest

/-- Rewards are paid once and to their owners, and claimed exactly when they are paid. -/
structure PaidOnce (world : World) : Prop where
  once : ∀ uid, payments uid world.grants + claimed uid world.start ≤ 1
  named : ∀ grant ∈ world.grants, ∃ reward, world.start.rewards grant.claimUid = some reward ∧
    grant.characterUid = reward.characterUid ∧ grant.carrots = reward.carrots
  balances : ∀ uid, (world.data.characters uid).map Character.carrots =
    (world.start.characters uid).map fun character => character.carrots + received uid world.grants
  claimed_paid : ∀ uid reward, world.data.rewards uid = some reward → reward.isClaimed = true →
    0 < payments uid world.grants + claimed uid world.start ∨ reward.carrots = 0
  paid_claimed : ∀ uid, 0 < payments uid world.grants → inPhase .marking uid world.calls = 0 → claimed uid world.data = 1
  returned : ∀ uid, inPhase (.returned true) uid world.calls + claimed uid world.start ≤ 1

/-- The condition under which an access keeps to this.  No other call has granted the carrots which
the access grants, and none has claimed the reward without carrots which it marks. -/
def Alone (world : World) : Input → Prop
  | .call _ _ => True
  | .advance index available _ =>
    match world.calls[index]? with
    | none => True
    | some call =>
      match call.phase with
      | .granting _ =>
        (characterStorage.find available call.characterUid world.data).isSome = true →
          claimed call.claimUid world.data = 0 ∧ inPhase .marking call.claimUid world.calls = 0
      | .marking =>
        match rewardStorage.find available call.claimUid world.data with
        | none => ∀ reward, world.data.rewards call.claimUid = some reward → reward.carrots = 0
        | some reward => reward.carrots = 0 → reward.isClaimed = false
      | _ => True

/-! ## The invariant -/

/-- The owner and the carrots of a reward. -/
def owed (uid : Uid) (data : DataDirector) : Option (Uid × UInt32) :=
  (data.rewards uid).map fun reward => (reward.characterUid, reward.carrots)

/-- What a call has read is still right, but for the claim. -/
def Call.Read (data : DataDirector) (call : Call) : Prop :=
  match call.phase with
  | .granting carrots => owed call.claimUid data = some (call.characterUid, carrots) ∧ 0 < carrots
  | .marking => ∃ entry, owed call.claimUid data = some entry
  | _ => True

/-- Each reward is accounted for: it is unclaimed, granted by a call that has still to mark it, or
claimed by one call. -/
structure Accounted (world : World) : Prop where
  read : ∀ call ∈ world.calls, call.Read world.data
  kept : ∀ uid, owed uid world.data = owed uid world.start
  named : ∀ grant ∈ world.grants,
    owed grant.claimUid world.start = some (grant.characterUid, grant.carrots) ∧ 0 < grant.carrots
  balances : ∀ uid, (world.data.characters uid).map Character.carrots =
    (world.start.characters uid).map fun character => character.carrots + received uid world.grants
  paid : ∀ uid entry, owed uid world.data = some entry → 0 < entry.2 →
    inPhase .marking uid world.calls + claimed uid world.data = payments uid world.grants + claimed uid world.start
  once : ∀ uid, payments uid world.grants + claimed uid world.start ≤ 1
  counted : ∀ uid, inPhase (.returned true) uid world.calls + claimed uid world.start = claimed uid world.data

theorem claimed_le (uid : Uid) (data : DataDirector) : claimed uid data ≤ 1 := toNat_le _

theorem accounted_opened (data : DataDirector) : Accounted (World.opened data) where
  read _ hcall := by cases hcall
  kept _ := rfl
  named _ hgrant := by cases hgrant
  balances uid := by
    show (data.characters uid).map _ = (data.characters uid).map fun character => character.carrots + 0
    simp
  paid _ _ _ _ := rfl
  once uid := (Nat.zero_add _).trans_le (claimed_le uid data)
  counted _ := Nat.zero_add _

/-- A reward that was paid has carrots. -/
theorem Accounted.owed_of_paid {world : World} (h : Accounted world) {uid : Uid}
    (hpaid : 0 < payments uid world.grants) : ∃ entry, owed uid world.data = some entry ∧ 0 < entry.2 := by
  obtain ⟨grant, hgrant, huid⟩ := countP_pos_iff.1 hpaid
  obtain ⟨howed, hcarrots⟩ := h.named grant hgrant
  rw [of_decide_eq_true huid, ← h.kept] at howed
  exact ⟨_, howed, hcarrots⟩

/-- Accounted rewards are paid once. -/
theorem Accounted.paidOnce {world : World} (h : Accounted world) : PaidOnce world where
  once := h.once
  named grant hgrant := by
    obtain ⟨reward, hreward, hpair⟩ := Option.map_eq_some_iff.1 (h.named grant hgrant).1
    obtain ⟨huid, hcarrots⟩ := Prod.mk.inj hpair
    exact ⟨reward, hreward, huid.symm, hcarrots.symm⟩
  balances := h.balances
  claimed_paid uid reward hreward hclaimed := by
    by_cases hcarrots : reward.carrots = 0
    · exact .inr hcarrots
    · have howed : owed uid world.data = some (reward.characterUid, reward.carrots) :=
        congrArg (Option.map _) hreward
      have hpaid := h.paid uid _ howed (UInt32.pos_iff_ne_zero.2 hcarrots)
      have hone : claimed uid world.data = 1 := by simp [claimed, hreward, hclaimed]
      exact .inl (by omega)
  paid_claimed uid hpaid hmarking := by
    obtain ⟨entry, howed, hcarrots⟩ := h.owed_of_paid hpaid
    have hpaid' := h.paid uid entry howed hcarrots
    have hle := claimed_le uid world.data
    omega
  returned uid := by
    have hcounted := h.counted uid
    have hle := claimed_le uid world.data
    omega

/-! ## Accesses -/

theorem countP_set_add {α : Type} {p : α → Bool} {items : List α} {index : Nat} {before after : α}
    (h : items[index]? = some before) :
    (items.set index after).countP p + (p before).toNat = items.countP p + (p after).toNat := by
  induction items generalizing index with
  | nil => cases h
  | cons item rest ih =>
    cases index with
    | zero =>
      cases h
      rw [set_cons_zero, countP_cons, countP_cons]
      cases p before <;> cases p after <;> rfl
    | succ index =>
      have hrest : (rest.set index after).countP p + _ = rest.countP p + _ := ih h
      rw [set_cons_succ, countP_cons, countP_cons]
      omega

section Access

variable {world : World} {index : Nat} {available : Bool} {now : TimePoint} {call : Call}
  {calls : List Call} {phase next : Phase} {uid : Uid}

/-- A call that neither enters nor leaves the phase. -/
theorem inPhase_stay (hcall : calls[index]? = some call)
    (hstay : call.claimUid = uid → (next = phase ↔ call.phase = phase)) :
    inPhase phase uid (calls.set index { call with phase := next }) = inPhase phase uid calls := by
  have hcount : inPhase phase uid (calls.set index { call with phase := next }) +
      (call.claimUid = uid && call.phase = phase : Bool).toNat = inPhase phase uid calls +
        (call.claimUid = uid && next = phase : Bool).toNat := countP_set_add hcall
  by_cases huid : call.claimUid = uid
  · simp only [hstay huid] at hcount
    omega
  · simp only [huid, decide_false, Bool.false_and] at hcount
    exact hcount

theorem inPhase_enter (hcall : calls[index]? = some call) (hbefore : call.phase ≠ phase) :
    inPhase phase uid (calls.set index { call with phase := phase }) =
      inPhase phase uid calls + (decide (call.claimUid = uid)).toNat := by
  have hcount : inPhase phase uid (calls.set index { call with phase := phase }) +
      (call.claimUid = uid && call.phase = phase : Bool).toNat = inPhase phase uid calls +
        (call.claimUid = uid && phase = phase : Bool).toNat := countP_set_add hcall
  simpa [hbefore] using hcount

theorem inPhase_leave (hcall : calls[index]? = some call) (hbefore : call.phase = phase)
    (hafter : next ≠ phase) :
    inPhase phase uid (calls.set index { call with phase := next }) +
      (decide (call.claimUid = uid)).toNat = inPhase phase uid calls := by
  have hcount : inPhase phase uid (calls.set index { call with phase := next }) +
      (call.claimUid = uid && call.phase = phase : Bool).toNat = inPhase phase uid calls +
        (call.claimUid = uid && next = phase : Bool).toNat := countP_set_add hcall
  simpa [hbefore, hafter] using hcount

/-- A call that moves to another phase, without a change of the records. -/
theorem Accounted.move (h : Accounted world) (hcall : world.calls[index]? = some call)
    (hread : Call.Read world.data { call with phase := next })
    (hmarking : ∀ entry, owed call.claimUid world.data = some entry → 0 < entry.2 →
      (next = .marking ↔ call.phase = .marking))
    (hclaims : next = .returned true ↔ call.phase = .returned true) :
    Accounted { world with calls := world.calls.set index { call with phase := next } } where
  read other hother := by
    obtain hmem | rfl := mem_or_eq_of_mem_set hother
    · exact h.read other hmem
    · exact hread
  kept := h.kept
  named := h.named
  balances := h.balances
  paid uid entry howed hcarrots := by
    rw [inPhase_stay hcall fun huid => hmarking entry (huid ▸ howed) hcarrots]
    exact h.paid uid entry howed hcarrots
  once := h.once
  counted uid := by
    rw [inPhase_stay hcall fun _ => hclaims]
    exact h.counted uid

variable (available) in
/-- The checks of a call lead to a phase in which what it read is right. -/
theorem read_checkReward (call : Call) (data : DataDirector) :
    Call.Read data { call with phase := checkReward available call.claimUid call.characterUid data } ∧
      (∀ entry, owed call.claimUid data = some entry → 0 < entry.2 →
        checkReward available call.claimUid call.characterUid data ≠ .marking) ∧
      checkReward available call.claimUid call.characterUid data ≠ .returned true := by
  rw [checkReward]
  split
  · exact ⟨trivial, fun _ _ _ => by simp, by simp⟩
  split
  · exact ⟨trivial, fun _ _ _ => by simp, by simp⟩
  · next reward hfind =>
    have howed : owed call.claimUid data = some (reward.characterUid, reward.carrots) :=
      congrArg (Option.map _) (find_eq_some.1 hfind).2.2
    split
    · exact ⟨trivial, fun _ _ _ => by simp, by simp⟩
    split
    · exact ⟨trivial, fun _ _ _ => by simp, by simp⟩
    · next htarget =>
      have htarget : reward.characterUid = call.characterUid := Decidable.not_not.1 htarget
      split
      · next hcarrots => exact ⟨⟨htarget ▸ howed, hcarrots⟩, fun _ _ _ => by simp, by simp⟩
      · next hnone =>
        refine ⟨⟨_, howed⟩, fun entry hentry hcarrots => ?_, by simp⟩
        rw [howed] at hentry
        cases hentry
        exact absurd hcarrots hnone

/-- The carrots of a reward are granted, which nobody has granted before. -/
theorem Accounted.grant (h : Accounted world) (hcall : world.calls[index]? = some call)
    {carrots : UInt32} (hphase : call.phase = .granting carrots) {character : Character}
    (hfind : characterStorage.find available call.characterUid world.data = some character)
    (halone : claimed call.claimUid world.data = 0 ∧ inPhase .marking call.claimUid world.calls = 0) :
    Accounted { world with
      data := characterStorage.write call.characterUid (grantCarrots carrots character) world.data
      calls := world.calls.set index { call with phase := .marking }
      grants := ⟨call.claimUid, call.characterUid, carrots⟩ :: world.grants } := by
  have hread := h.read call (mem_of_getElem? hcall)
  rw [Call.Read, hphase] at hread
  obtain ⟨howed, hcarrots⟩ := hread
  have hpaid := h.paid call.claimUid _ howed hcarrots
  constructor
  case read =>
    intro other hother
    obtain hmem | rfl := mem_or_eq_of_mem_set hother
    · exact h.read other hmem
    · exact ⟨_, howed⟩
  case kept => exact h.kept
  case named =>
    intro grant hgrant
    obtain rfl | hgrant := mem_cons.1 hgrant
    · exact ⟨(h.kept call.claimUid).symm.trans howed, hcarrots⟩
    · exact h.named grant hgrant
  case balances =>
    intro uid
    have hbalances := h.balances uid
    show ((update world.data.characters call.characterUid _) uid).map _ = _
    rw [received]
    dsimp only
    by_cases huid : call.characterUid = uid
    · subst huid
      have hcharacter : world.data.characters call.characterUid = some character :=
        (find_eq_some.1 hfind).2.2
      rw [hcharacter] at hbalances
      rw [update_self, if_pos rfl]
      cases hstart : world.start.characters call.characterUid with
      | none =>
        rw [hstart] at hbalances
        cases hbalances
      | some before =>
        rw [hstart] at hbalances
        have hbefore : character.carrots = before.carrots + received call.characterUid world.grants :=
          Option.some_inj.1 hbalances
        show some (character.carrots + carrots.toInt32) = some _
        rw [hbefore, Int32.add_assoc]
    · rw [update_of_ne (Ne.symm huid), if_neg huid]
      exact hbalances
  case paid =>
    intro uid entry hentry hpositive
    have hpaid' := h.paid uid entry hentry hpositive
    show inPhase .marking uid _ + claimed uid world.data = payments uid (_ :: _) + _
    rw [inPhase_enter hcall (by rw [hphase]; simp), payments, countP_cons, ← payments]
    dsimp only
    by_cases huid : call.claimUid = uid
    · simp only [huid, decide_true, toNat_true, if_true]
      omega
    · simp only [huid, decide_false, toNat_false, false_eq_true, if_false]
      omega
  case once =>
    intro uid
    have honce := h.once uid
    show payments uid (_ :: _) + _ ≤ 1
    rw [payments, countP_cons, ← payments]
    by_cases huid : call.claimUid = uid
    · subst huid
      simp only [decide_true, if_true]
      omega
    · simp only [huid, decide_false, false_eq_true, if_false]
      exact honce
  case counted =>
    intro uid
    show inPhase (.returned true) uid _ + _ = claimed uid world.data
    rw [inPhase_stay hcall fun _ => by simp [hphase]]
    exact h.counted uid

variable {reward : Data.Reward}

theorem owed_markClaimed (hreward : world.data.rewards uid = some reward) (other : Uid) :
    owed other (rewardStorage.write uid (markClaimed now reward) world.data) = owed other world.data := by
  show ((update world.data.rewards uid _) other).map _ = _
  by_cases huid : other = uid
  · subst huid
    rw [update_self, owed, hreward]
    rfl
  · rw [update_of_ne huid]
    rfl

theorem claimed_markClaimed (hreward : world.data.rewards uid = some reward)
    (hunclaimed : reward.isClaimed = false) (other : Uid) :
    claimed other (rewardStorage.write uid (markClaimed now reward) world.data) =
      claimed other world.data + (decide (uid = other)).toNat := by
  show (((update world.data.rewards uid _) other).any _).toNat = _
  by_cases huid : uid = other
  · subst huid
    rw [update_self, claimed, hreward]
    simp [markClaimed, hunclaimed]
  · rw [update_of_ne (Ne.symm huid)]
    simp [claimed, huid]

theorem Call.Read.of_owed {data after : DataDirector} {call : Call} (h : call.Read data)
    (howed : ∀ uid, owed uid after = owed uid data) : call.Read after := by
  obtain ⟨claimUid, characterUid, phase⟩ := call
  cases phase with
  | granting carrots => exact ⟨(howed claimUid).trans h.1, h.2⟩
  | marking => exact ⟨h.choose, (howed claimUid).trans h.choose_spec⟩
  | called => trivial
  | returned claimed => trivial
  | thrown what => trivial

theorem inPhase_pos (hcall : calls[index]? = some call) (hphase : call.phase = phase) :
    0 < inPhase phase call.claimUid calls :=
  countP_pos_iff.2 ⟨call, mem_of_getElem? hcall, by simp [hphase]⟩

theorem isClaimed_eq_false {data : DataDirector} (hreward : data.rewards uid = some reward)
    (hzero : claimed uid data = 0) :
    reward.isClaimed = false := by
  rw [claimed, hreward] at hzero
  simpa using hzero

/-- A reward with carrots that a call is about to mark was paid by that call, and is unclaimed. -/
theorem Accounted.unmarked (h : Accounted world) (hcall : world.calls[index]? = some call)
    (hphase : call.phase = .marking) (hreward : world.data.rewards call.claimUid = some reward)
    (hcarrots : reward.carrots ≠ 0) :
    payments call.claimUid world.grants = 1 ∧ inPhase .marking call.claimUid world.calls = 1 ∧
      claimed call.claimUid world.data = 0 := by
  have hpaid := h.paid call.claimUid _ (congrArg (Option.map _) hreward)
    (UInt32.pos_iff_ne_zero.2 hcarrots)
  have honce := h.once call.claimUid
  have hcounted := h.counted call.claimUid
  have hpos := inPhase_pos hcall hphase
  omega

/-- A reward is marked that nobody has claimed before. -/
theorem Accounted.mark (h : Accounted world) (hcall : world.calls[index]? = some call)
    (hphase : call.phase = .marking)
    (hfind : rewardStorage.find available call.claimUid world.data = some reward)
    (hunclaimed : reward.isClaimed = false) :
    Accounted { world with
      data := rewardStorage.write call.claimUid (markClaimed now reward) world.data
      calls := world.calls.set index { call with phase := .returned true } } := by
  have hreward : world.data.rewards call.claimUid = some reward := (find_eq_some.1 hfind).2.2
  have howed : ∀ uid, owed uid (rewardStorage.write call.claimUid (markClaimed now reward) world.data) =
    owed uid world.data := owed_markClaimed hreward
  have hclaimed : ∀ uid, claimed uid
      (rewardStorage.write call.claimUid (markClaimed now reward) world.data) = _ :=
    claimed_markClaimed hreward hunclaimed
  constructor
  case read =>
    intro other hother
    obtain hmem | rfl := mem_or_eq_of_mem_set hother
    · exact (h.read other hmem).of_owed howed
    · trivial
  case kept => exact fun uid => (howed uid).trans (h.kept uid)
  case named => exact h.named
  case balances => exact h.balances
  case paid =>
    intro uid entry hentry hpositive
    have hpaid := h.paid uid entry ((howed uid).symm.trans hentry) hpositive
    have hleave : inPhase .marking uid (world.calls.set index { call with phase := .returned true }) +
      _ = inPhase .marking uid world.calls := inPhase_leave hcall hphase (by simp)
    show inPhase .marking uid (world.calls.set index { call with phase := .returned true }) +
      claimed uid _ = payments uid world.grants + claimed uid world.start
    rw [hclaimed]
    omega
  case once => exact h.once
  case counted =>
    intro uid
    show inPhase (.returned true) uid _ + claimed uid world.start = claimed uid _
    rw [hclaimed, inPhase_enter hcall (by simp [hphase]), ← h.counted uid]
    omega

/-- A new call. -/
theorem Accounted.enter (h : Accounted world) (claimUid characterUid : Uid) :
    Accounted { world with calls := world.calls ++ [⟨claimUid, characterUid, .called⟩] } := by
  have hsame : ∀ phase uid, phase ≠ .called →
      inPhase phase uid (world.calls ++ [⟨claimUid, characterUid, .called⟩]) =
        inPhase phase uid world.calls := by
    intro phase uid hphase
    rw [inPhase, countP_append, countP_singleton]
    simp [hphase.symm, inPhase]
  constructor
  case read =>
    intro other hother
    obtain hmem | hmem := mem_append.1 hother
    · exact h.read other hmem
    · cases mem_singleton.1 hmem
      trivial
  case kept => exact h.kept
  case named => exact h.named
  case balances => exact h.balances
  case paid =>
    intro uid entry hentry hpositive
    rw [hsame .marking uid (by simp)]
    exact h.paid uid entry hentry hpositive
  case once => exact h.once
  case counted =>
    intro uid
    rw [hsame (.returned true) uid (by simp)]
    exact h.counted uid

/-- The next access of a call that nobody interferes with. -/
theorem Accounted.access (h : Accounted world) (hcall : world.calls[index]? = some call)
    (halone : Alone world (.advance index available now)) :
    Accounted (step world (.advance index available now)) := by
  rw [Alone, hcall] at halone
  rw [step, hcall]
  dsimp only at halone ⊢
  rw [Call.advance, granted]
  cases hphase : call.phase with
  | called =>
    obtain ⟨hread, hmarking, hclaims⟩ := read_checkReward available call world.data
    refine h.move hcall hread (fun entry hentry hpositive => ?_) ?_
    · simp [hmarking entry hentry hpositive, hphase]
    · simp [hclaims, hphase]
  | granting carrots =>
    rw [hphase] at halone
    dsimp only at halone ⊢
    cases hfind : characterStorage.find available call.characterUid world.data with
    | none => exact h.move hcall trivial (by simp [hphase]) (by simp [hphase])
    | some character =>
      rw [hfind] at halone
      exact h.grant hcall hphase hfind (halone rfl)
  | marking =>
    rw [hphase] at halone
    dsimp only at halone ⊢
    cases hfind : rewardStorage.find available call.claimUid world.data with
    | none =>
      rw [hfind] at halone
      refine h.move hcall trivial (fun entry hentry hpositive => ?_) (by simp [hphase])
      obtain ⟨reward, hreward, rfl⟩ := Option.map_eq_some_iff.1 hentry
      rw [halone reward hreward] at hpositive
      exact absurd hpositive (by simp)
    | some reward =>
      rw [hfind] at halone
      refine h.mark hcall hphase hfind ?_
      by_cases hcarrots : reward.carrots = 0
      · exact halone hcarrots
      · have hreward := (find_eq_some.1 hfind).2.2
        exact isClaimed_eq_false hreward (h.unmarked hcall hphase hreward hcarrots).2.2
  | returned claimed => exact h.move hcall trivial (by simp [hphase]) (by simp [hphase])
  | thrown what => exact h.move hcall trivial (by simp [hphase]) (by simp [hphase])

theorem Accounted.step (h : Accounted world) (input : Input) (halone : Alone world input) :
    Accounted (step world input) := by
  cases input with
  | call claimUid characterUid => exact h.enter claimUid characterUid
  | advance index available now =>
    cases hcall : world.calls[index]? with
    | none =>
      rw [Reward.step, hcall]
      exact h
    | some call => exact h.access hcall halone

/-- Only an access that nobody interferes with keeps rewards paid once. -/
theorem Accounted.alone (h : Accounted world) (input : Input) (hpaid : PaidOnce (Reward.step world input)) :
    Alone world input := by
  cases input with
  | call claimUid characterUid => trivial
  | advance index available now =>
    rw [Alone]
    cases hcall : world.calls[index]? with
    | none => trivial
    | some call =>
      rw [Reward.step, hcall] at hpaid
      dsimp only at hpaid ⊢
      rw [Call.advance, granted] at hpaid
      cases hphase : call.phase with
      | granting carrots =>
        have hread := h.read call (mem_of_getElem? hcall)
        rw [hphase] at hpaid
        rw [Call.Read, hphase] at hread
        intro hfind
        obtain ⟨character, hfind⟩ := Option.isSome_iff_exists.1 hfind
        rw [hfind] at hpaid
        -- The payment of this access is the first one.
        have honce : payments call.claimUid (⟨call.claimUid, call.characterUid, carrots⟩ ::
          world.grants) + claimed call.claimUid world.start ≤ 1 := hpaid.once call.claimUid
        have hbefore := h.paid call.claimUid _ hread.1 hread.2
        simp only [payments, countP_cons, decide_true, if_true] at honce hbefore
        exact ⟨by omega, by omega⟩
      | marking =>
        rw [hphase] at hpaid
        dsimp only
        cases hfind : rewardStorage.find available call.claimUid world.data with
        | none =>
          rw [hfind] at hpaid
          intro reward hreward
          by_contra hcarrots
          obtain ⟨hpayments, hmarking, hzero⟩ := h.unmarked hcall hphase hreward hcarrots
          -- No call is left to mark the reward.
          have hleave : inPhase .marking call.claimUid (world.calls.set index { call with
              phase := .thrown "Value of the record is unavailable" }) + _ =
            inPhase .marking call.claimUid world.calls := inPhase_leave hcall hphase (by simp)
          rw [decide_eq_true rfl, toNat_true, hmarking] at hleave
          have hone : claimed call.claimUid world.data = 1 :=
            hpaid.paid_claimed call.claimUid (hpayments.symm ▸ Nat.one_pos)
              (Nat.succ_injective hleave)
          omega
        | some reward =>
          rw [hfind] at hpaid
          intro _
          have henter : inPhase (.returned true) call.claimUid (world.calls.set index { call with
              phase := .returned true }) = inPhase (.returned true) call.claimUid world.calls + _ :=
            inPhase_enter hcall (by simp [hphase])
          rw [decide_eq_true rfl, toNat_true] at henter
          have hreturned : inPhase (.returned true) call.claimUid (world.calls.set index { call with
              phase := .returned true }) + claimed call.claimUid world.start ≤ 1 :=
            hpaid.returned call.claimUid
          have hcounted := h.counted call.claimUid
          exact isClaimed_eq_false (find_eq_some.1 hfind).2.2 (by omega)
      | _ => trivial

end Access

/-- Rewards are paid once in every state of a run exactly if each access that grants or marks a reward is
the only one to do so. -/
theorem rewards_paid_once (data : DataDirector) (inputs : List Input) :
    Guarded step Alone (World.opened data) inputs ↔ ∀ first second, inputs = first ++ second →
      PaidOnce (run step (World.opened data) first) :=
  guarded_iff_prefixes (fun _ input h halone => h.step input halone) (fun _ h => h.paidOnce)
    (fun _ input h hpaid => h.alone input hpaid) (accounted_opened data)

/-- A character, and a reward for it. -/
def prize : DataDirector where
  characters uid := if uid = 1 then some { uid := 1 } else none
  rewards uid := if uid = 5 then some { claimUid := 5, characterUid := 1, carrots := 100 } else none

/-- Two calls that read the reward before either of them grants its carrots. -/
def racingCalls : List Input :=
  [.call 5 1, .call 5 1, .advance 0 true .epoch, .advance 1 true .epoch, .advance 0 true .epoch,
    .advance 1 true .epoch]

theorem reward_paid_twice : ¬∀ first second, racingCalls = first ++ second →
    PaidOnce (run step (World.opened prize) first) := by
  intro h
  have honce := (h racingCalls [] (List.append_nil _).symm).once 5
  exact absurd honce (by decide +kernel)

end Alicia.Reward
