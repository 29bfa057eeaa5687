import Alicia.Collection.Handover
import Alicia.Magic.Expiry

/-!
# Dragons

A racer may hold the dragon of a cast: the OID of the caster and the effect instance.  A holder hands it over to
another racer with a command that names both as well.
-/

namespace Alicia.Magic

open Std (ExtTreeMap)
open Transition Effect Data Collection Function Option RaceInstance

/-- `DragonPassCooldown`, in nanoseconds. -/
def dragonPassCooldown : Nat := 500 * 1000000

/-- `HandleChangeMagicTarget`. -/
def handleChangeMagicTarget (around : Surroundings) (client : ClientId) (command : ChangeMagicTarget) :
    Handling Unit := do
  let (uid, racer) ← Effect.ask (around.getRacer client)
  if command.targetOid ≠ racer.oid then return ()
  else if racer.pendingMagicTarget.isNone then
    queueCommand around client (.changeMagicTargetCancel command)
  else
    match (← get).findRacerByOid command.targetOid2 with
    | none => return ()
    | some (target, targetRacer) =>
      if around.now - racer.dragonReceivedAt < dragonPassCooldown then
        queueCommand around client (.changeMagicTargetCancel command)
      else if targetRacer.pendingMagicTarget.isSome then
        queueCommand around client (.changeMagicTargetCancel command)
      else
        updateRacer target fun racer =>
          { racer with
            dragonReceivedAt := around.now
            pendingMagicTarget := some (command.casterOid, command.effectInstanceId) }
        updateRacer uid fun racer => { racer with pendingMagicTarget := none }
        queueCommand around client (.changeMagicTargetOK command)
        broadcast around (.changeMagicTargetNotify command)

/-! ## What is held -/

/-- The pair that a racer holds. -/
def RaceInstance.holding (race : RaceInstance) (uid : Uid) : Option (UInt16 × UInt16) :=
  race.racers[uid]?.bind Racer.pendingMagicTarget

/-- The pairs that are held in all. -/
def RaceInstance.heldPairs (race : RaceInstance) : List (UInt16 × UInt16) :=
  race.racers.toList.filterMap fun entry => entry.2.pendingMagicTarget

theorem heldPairs_eq (race : RaceInstance) : race.heldPairs = race.racers.keys.filterMap race.holding := by
  rw [← ExtTreeMap.map_fst_toList_eq_keys, List.filterMap_map]
  refine List.filterMap_congr fun entry hentry => ?_
  have hracer := ExtTreeMap.mem_toList_iff_getElem?_eq_some.1 hentry
  exact (congrArg (Option.bind · Racer.pendingMagicTarget) hracer).symm

/-- Nobody's pair is changed, or the sender has handed its own over to another racer, which held none; in all the
same pairs are held. -/
structure HandsOver (around : Surroundings) (client : ClientId) (before after : RaceInstance) : Prop where
  moved : after.holding = before.holding ∨
    ∃ uid racer target pair, around.getRacer client before = .ok (uid, racer) ∧ target ≠ uid ∧
      target ∈ before.racers ∧ before.holding uid = some pair ∧ before.holding target = none ∧
      after.holding = handover before.holding uid target pair
  held : after.heldPairs.Perm before.heldPairs

/-- The command is accepted: the racer of the sender has the OID that it names and holds a pair, for long enough, and
the target is there and holds none. -/
structure Accepted (around : Surroundings) (client : ClientId) (command : ChangeMagicTarget) (race : RaceInstance)
    (uid : Uid) (racer : Racer) (pair : UInt16 × UInt16) (target : Uid) (targetRacer : Racer) : Prop where
  sender : around.getRacer client race = .ok (uid, racer)
  named : command.targetOid = racer.oid
  held : racer.pendingMagicTarget = some pair
  found : race.findRacerByOid command.targetOid2 = some (target, targetRacer)
  cooled : dragonPassCooldown ≤ around.now - racer.dragonReceivedAt
  free : targetRacer.pendingMagicTarget = none

/-- A command that is accepted names the pair that its sender holds. -/
def NamesHeld (around : Surroundings) (client : ClientId) (command : ChangeMagicTarget) (race : RaceInstance) : Prop :=
  ∀ uid racer pair target targetRacer, Accepted around client command race uid racer pair target targetRacer →
    pair = (command.casterOid, command.effectInstanceId)

section Handover

variable {around : Surroundings} {client : ClientId} {command : ChangeMagicTarget} {before after race : RaceInstance}
  {uid target : Uid} {racer targetRacer : Racer} {pair : UInt16 × UInt16}

theorem heldPairs_perm {first second : RaceInstance} (hmem : ∀ uid, uid ∈ first.racers ↔ uid ∈ second.racers)
    {holding : Uid → Option (UInt16 × UInt16)} (h : first.holding = holding) :
    first.heldPairs.Perm (second.racers.keys.filterMap holding) := by
  rw [heldPairs_eq, h]
  refine List.Perm.filterMap _ ((List.perm_ext_iff_of_nodup ExtTreeMap.nodup_keys ExtTreeMap.nodup_keys).2 fun uid => ?_)
  rw [ExtTreeMap.mem_keys, ExtTreeMap.mem_keys]
  exact hmem uid

/-- Where the racers stay, nothing is handed over. -/
theorem handsOver_of_same (h : SameRacers before after) : HandsOver around client before after := by
  have hholding : after.holding = before.holding := by
    funext uid
    rw [holding, holding, show after.racers = before.racers from h]
  refine ⟨.inl hholding, ?_⟩
  rw [heldPairs, heldPairs, show after.racers = before.racers from h]

theorem Accepted.getElem?_sender (h : Accepted around client command race uid racer pair target targetRacer) :
    race.racers[uid]? = some racer := getRacer_racers h.sender

theorem Accepted.getElem?_target (h : Accepted around client command race uid racer pair target targetRacer) :
    race.racers[target]? = some targetRacer := findRacerByOid_racers h.found

theorem Accepted.holding_sender (h : Accepted around client command race uid racer pair target targetRacer) :
    race.holding uid = some pair := by
  rw [holding, h.getElem?_sender]
  exact h.held

theorem Accepted.holding_target (h : Accepted around client command race uid racer pair target targetRacer) :
    race.holding target = none := by
  rw [holding, h.getElem?_target]
  exact h.free

theorem Accepted.ne (h : Accepted around client command race uid racer pair target targetRacer) : target ≠ uid := by
  intro hsame
  have htarget := h.holding_target
  rw [hsame, h.holding_sender] at htarget
  cases htarget

/-- A command that is not accepted leaves the racers. -/
theorem sameRacers_of_not_accepted
    (h : ∀ uid racer pair target targetRacer, ¬Accepted around client command race uid racer pair target targetRacer) :
    SameRacers race ((handleChangeMagicTarget around client command).final race) := by
  rw [handleChangeMagicTarget]
  cases hracer : around.getRacer client race with
  | error failure =>
    rw [final_bind_error (ask_error hracer)]
    rfl
  | ok found =>
  obtain ⟨uid, racer⟩ := found
  rw [final_bind_ok (ask_ok hracer)]
  dsimp only
  split
  · rfl
  next hnamed =>
  split
  · exact keeps_queueCommand _ _ _ race
  next hheld =>
  obtain ⟨pair, hpair⟩ := ne_none_iff_exists'.1 fun hnone => hheld (isNone_iff_eq_none.2 hnone)
  rw [final_bind_ok (get_apply _)]
  split
  · rfl
  next target targetRacer hfound =>
  split
  · exact keeps_queueCommand _ _ _ race
  next hcooled =>
  split
  · exact keeps_queueCommand _ _ _ race
  next hfree =>
  exact absurd ⟨hracer, not_not.1 hnamed, hpair, hfound, Nat.not_lt.1 hcooled,
    not_isSome_iff_eq_none.1 hfree⟩ (h uid racer pair target targetRacer)

/-- A command that is accepted hands over what it names. -/
theorem Accepted.racers (h : Accepted around client command race uid racer pair target targetRacer) :
    SameRacers (RaceInstance.updateRacer uid (fun racer => { racer with pendingMagicTarget := none })
        (RaceInstance.updateRacer target (fun racer =>
          { racer with
            dragonReceivedAt := around.now
            pendingMagicTarget := some (command.casterOid, command.effectInstanceId) }) race))
      ((handleChangeMagicTarget around client command).final race) := by
  rw [handleChangeMagicTarget, final_bind_ok (ask_ok h.sender)]
  dsimp only
  rw [if_neg (not_not.2 h.named), h.held, isNone_some, if_neg Bool.false_ne_true, final_bind_ok (get_apply _), h.found]
  dsimp only
  rw [if_neg (Nat.not_lt.2 h.cooled), h.free, isSome_none, if_neg Bool.false_ne_true, updateRacer, updateRacer,
    final_bind_ok (modify_apply _ _), final_bind_ok (modify_apply _ _)]
  exact Keeps.bind (keeps_queueCommand _ _ _) (fun _ => keeps_broadcast _ _) _

theorem Accepted.mem_racers (h : Accepted around client command race uid racer pair target targetRacer)
    (other : Uid) :
    other ∈ ((handleChangeMagicTarget around client command).final race).racers ↔ other ∈ race.racers := by
  rw [show ((handleChangeMagicTarget around client command).final race).racers = _ from h.racers]
  exact ExtTreeMap.mem_modify.trans ExtTreeMap.mem_modify

theorem Accepted.holding (h : Accepted around client command race uid racer pair target targetRacer) :
    ((handleChangeMagicTarget around client command).final race).holding =
      handover race.holding uid target (command.casterOid, command.effectInstanceId) := by
  funext other
  rw [RaceInstance.holding, show ((handleChangeMagicTarget around client command).final race).racers = _ from h.racers,
    getElem?_updateRacer, getElem?_updateRacer, handover]
  by_cases hto : other = target
  · rw [hto, if_neg h.ne, if_pos rfl, h.getElem?_target, update_self]
    rfl
  · rw [if_neg hto, update_of_ne hto]
    by_cases hfrom : other = uid
    · rw [hfrom, if_pos rfl, h.getElem?_sender, update_self]
      rfl
    · rw [if_neg hfrom, update_of_ne hfrom]
      rfl

/-- A command hands over a pair, or leaves all of them, exactly where it names the one that is held if it is
accepted. -/
theorem handsOver_iff (around : Surroundings) (client : ClientId) (command : ChangeMagicTarget) (race : RaceInstance) :
    HandsOver around client race ((handleChangeMagicTarget around client command).final race) ↔
      NamesHeld around client command race := by
  constructor
  · rintro ⟨hmoved, -⟩ uid racer pair target targetRacer h
    have htarget : ((handleChangeMagicTarget around client command).final race).holding target =
        some (command.casterOid, command.effectInstanceId) := by
      rw [h.holding, handover, update_self]
    rcases hmoved with hsame | ⟨sender, _, receiver, given, hsender, -, -, hgiven, -, hholding⟩
    · rw [hsame, h.holding_target] at htarget
      cases htarget
    · cases h.sender.symm.trans hsender
      cases h.holding_sender.symm.trans hgiven
      rw [hholding, handover] at htarget
      by_cases hreceiver : target = receiver
      · rw [hreceiver, update_self] at htarget
        exact Option.some.inj htarget
      · rw [update_of_ne hreceiver, update_of_ne h.ne, h.holding_target] at htarget
        cases htarget
  · intro hnames
    by_cases haccepted : ∃ uid racer pair target targetRacer,
        Accepted around client command race uid racer pair target targetRacer
    · obtain ⟨uid, racer, pair, target, targetRacer, h⟩ := haccepted
      have hholding := h.holding
      rw [← hnames uid racer pair target targetRacer h] at hholding
      have hfrom : uid ∈ race.racers := ExtTreeMap.isSome_getElem?_iff_mem.1 (Option.isSome_of_mem h.getElem?_sender)
      have hto : target ∈ race.racers := ExtTreeMap.isSome_getElem?_iff_mem.1 (Option.isSome_of_mem h.getElem?_target)
      refine ⟨.inr ⟨uid, racer, target, pair, h.sender, h.ne, hto, h.holding_sender, h.holding_target, hholding⟩, ?_⟩
      refine (heldPairs_perm h.mem_racers hholding).trans ?_
      rw [heldPairs_eq race]
      exact filterMap_handover ExtTreeMap.nodup_keys (ExtTreeMap.mem_keys.2 hfrom) (ExtTreeMap.mem_keys.2 hto)
        h.holding_sender h.holding_target
    · refine handsOver_of_same (sameRacers_of_not_accepted fun uid racer pair target targetRacer h => ?_)
      exact haccepted ⟨uid, racer, pair, target, targetRacer, h⟩

end Handover

/-! ### Another dragon arrives -/

/-- The first of two racers holds the dragon that the third caster has cast. -/
def carrying : RaceInstance where
  racers := ((∅ : ExtTreeMap Uid Racer).insert 100 { oid := 1, pendingMagicTarget := some (3, 7) }).insert 200
    { oid := 2 }

def carrier : Surroundings where
  clients := [(5, { characterUid := 100, roomUid := 1, isAuthenticated := true })]
  players := some [(100, 5)]
  now := 1000000000

def misnamed : ChangeMagicTarget where
  effectInstanceId := 9
  casterOid := 2
  targetOid := 1
  targetOid2 := 2

/-- The target gets a dragon that nobody has cast. -/
theorem other_dragon_arrives :
    ¬HandsOver carrier 5 carrying ((handleChangeMagicTarget carrier 5 misnamed).final carrying) := by
  intro h
  have hafter : ((handleChangeMagicTarget carrier 5 misnamed).final carrying).heldPairs = [(2, 9)] := by decide +kernel
  have hbefore : carrying.heldPairs = [(3, 7)] := by decide +kernel
  have hheld := h.held
  rw [hafter, hbefore] at hheld
  cases List.singleton_perm_singleton.1 hheld

end Alicia.Magic
