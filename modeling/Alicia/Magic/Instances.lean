import Alicia.Magic.Restarts
import Alicia.Number.Wrapping

/-!
# The effect instances of a race

Every cast claims a block of effect instance ids, and reports where it starts.  The count of them goes round
16 bits and leaves out zero where it comes to it, but it starts there, and an ice wall without obstacles claims
nothing.
-/

namespace Alicia.Magic

open Std (ExtTreeMap)
open Transition Effect Data List Wrapping UInt16

/-! ## What counts no instance -/

instance : Frame SameInstances where
  sent _ _ := rfl
  update _ _ _ _ := rfl
  map _ _ _ := rfl
  others _ _ _ _ := rfl

section Frames

variable {registry : Registry} {around : Surroundings} {client : ClientId} {uid : Uid} {racer : Racer}
  {command : UserRaceItemGet} {lookups : PickupLookups} {deck : ItemDeck}

theorem sameInstances_updateRacer (change : Racer → Racer) : Keeps SameInstances (updateRacer uid change) :=
  .modify fun _ => rfl

theorem sameInstances_tickMagicGauge : Keeps SameInstances (tickMagicGauge registry around) := by
  refine .bind .get fun race => ?_
  split
  · exact .pure _
  refine .bind (keeps_ask _) fun players => .forM (fun player => ?_) _
  obtain ⟨uid, client⟩ := player
  refine .bind .get fun now => ?_
  split
  · exact .pure _
  · exact .bind (sameInstances_updateRacer _) fun _ => keeps_queueCommand _ _ _

theorem sameInstances_getDeckInMode {gameMode : GameModeInfo} :
    Keeps SameInstances (getDeckInMode registry around client uid racer deck command lookups gameMode) := by
  rw [getDeckInMode]
  split
  · exact .bind (sameInstances_updateRacer _) fun _ =>
      .bind (keeps_queueCommand _ _ _) fun _ => .pure _
  split
  · exact .bind Frame.takeMagicItem fun _ =>
      .bind (.bind (.modify fun _ => rfl) fun _ => .pure _) fun _ =>
      .bind (keeps_broadcastExcept _ _ _) fun _ => .pure _
  · exact .pure _

theorem sameInstances_handleUserRaceItemGet :
    Keeps SameInstances (handleUserRaceItemGet registry around client command lookups) := by
  refine .bind (keeps_ask _) ?_
  rintro ⟨uid, racer⟩
  dsimp only
  split
  · exact Frame.getEventItem
  refine .bind .get fun race => ?_
  split
  · exact .pure _
  split
  · exact .pure _
  · exact .bind (.modify (Frame.coolDown _ _ _)) fun _ =>
      .bind (keeps_ask _) fun _ => .bind (keeps_ask _) fun _ =>
      .bind sameInstances_getDeckInMode fun _ => keeps_broadcast _ _

end Frames

/-! ## Casts -/

/-- A cast reports the id that it was given, and has claimed some from there on. -/
structure Cast where
  reported : UInt16
  claimed : Nat
  deriving DecidableEq

/-- The ids of a cast: the block that it has claimed, or the id that it reports at least. -/
def Cast.ids (cast : Cast) : List UInt16 :=
  (List.range (max cast.claimed 1)).map fun offset => cast.reported + UInt16.ofNat offset

/-- The ids that a spell claims: one for each obstacle of an ice wall, or one. -/
def claimedBy (slot : SlotInfo) (command : UseMagicItem) : UInt16 :=
  if isIceWall slot.type then UInt16.ofNat command.targetList.length else 1

/-- The spell that a command casts, if it gets to that: the racer holds something, and its aura is consumed. -/
def spellOf (registry : Registry) (around : Surroundings) (client : ClientId) (command : UseMagicItem) :
    Handling (Option SlotInfo) := do
  let (uid, racer) ← Effect.ask (around.getRacer client)
  if command.characterOid ≠ racer.oid then return none
  else if racer.magicItem.isNone || command.magicItemId = 0 then return none
  else
    let slot ← Effect.ask fun _ => registry.getSlotInfo command.magicItemId
    let slot ← consumeCriticalAura registry around uid racer slot
    return some slot

/-- The cast of a command, before it is handled. -/
def castOf (registry : Registry) (race : RaceInstance) (input : MagicInput) : Option Cast :=
  match input.command with
  | .useMagicItem client command =>
    match spellOf registry input.around client command race with
    | .ok (some slot) _ => some ⟨race.nextEffectInstanceId, (claimedBy slot command).toNat⟩
    | _ => none
  | _ => none

/-- The casts of a run. -/
def casts (registry : Registry) : RaceInstance → List MagicInput → List Cast
  | _, [] => []
  | race, input :: inputs => (castOf registry race input).toList ++ casts registry (magicStep registry race input) inputs

section Casts

variable {registry : Registry} {around : Surroundings} {client : ClientId} {command : UseMagicItem}
  {race : RaceInstance}

theorem nextEffectInstanceId_apply (race : RaceInstance) (increment : UInt16) :
    nextEffectInstanceId increment race = .ok race.nextEffectInstanceId
      { race with nextEffectInstanceId := if race.nextEffectInstanceId + increment = 0 then 1
          else race.nextEffectInstanceId + increment } := rfl

/-- A command casts nothing and counts nothing, or it claims the ids of its cast and reports the first. -/
theorem handleUseMagicItem_cases :
    (castOf registry race ⟨around, .useMagicItem client command⟩ = none ∧
      SameInstances race ((handleUseMagicItem registry around client command).final race)) ∨
    ∃ slot targetList now rest,
      castOf registry race ⟨around, .useMagicItem client command⟩ =
        some ⟨race.nextEffectInstanceId, (claimedBy slot command).toNat⟩ ∧
      now.nextEffectInstanceId = (if race.nextEffectInstanceId + claimedBy slot command = 0 then 1
        else race.nextEffectInstanceId + claimedBy slot command) ∧
      handleUseMagicItem registry around client command race =
        (queueCommand around client (.useMagicItemOK command.characterOid slot.type targetList
          race.nextEffectInstanceId) >>= rest) now ∧
      ∀ done, Keeps SameInstances (rest done) := by
  rw [handleUseMagicItem, castOf]
  dsimp only
  rw [spellOf]
  cases hracer : around.getRacer client race with
  | error failure =>
    have hask := ask_error hracer
    rw [bind_error hask, final_bind_error hask]
    exact .inl ⟨rfl, rfl⟩
  | ok found =>
  have hask := ask_ok hracer
  rw [bind_ok hask, bind_ok hask, final_bind_ok hask]
  obtain ⟨uid, racer⟩ := found
  dsimp only
  by_cases hother : command.characterOid ≠ racer.oid
  · rw [if_pos hother, if_pos hother]
    exact .inl ⟨rfl, rfl⟩
  rw [if_neg hother, if_neg hother]
  by_cases hnone : racer.magicItem.isNone || command.magicItemId = 0
  · rw [if_pos hnone, if_pos hnone]
    refine .inl ⟨rfl, ?_⟩
    exact Keeps.bind (sameInstances_updateRacer _) (fun _ => keeps_queueCommand _ _ _) race
  rw [if_neg hnone, if_neg hnone]
  cases hslot : registry.getSlotInfo command.magicItemId with
  | error failure =>
    have hask : Effect.ask (fun _ => (.error failure : Except Failure SlotInfo)) race = .error failure race := rfl
    rw [bind_error hask, final_bind_error hask]
    exact .inl ⟨rfl, rfl⟩
  | ok slot =>
  have hask : Effect.ask (fun _ => (.ok slot : Except Failure SlotInfo)) race = .ok slot race := rfl
  rw [bind_ok hask, bind_ok hask, final_bind_ok hask]
  have hsame := @Frame.consumeCriticalAura SameInstances _ registry around uid racer slot _ _ race
  cases hconsume : consumeCriticalAura registry around uid racer slot race with
  | error failure after =>
    rw [final_error hconsume] at hsame
    rw [bind_error hconsume, final_bind_error hconsume]
    exact .inl ⟨rfl, hsame⟩
  | ok slot now =>
    rw [final_ok hconsume] at hsame
    rw [bind_ok hconsume, bind_ok hconsume]
    have hcount : now.nextEffectInstanceId = race.nextEffectInstanceId := hsame
    have hnext := nextEffectInstanceId_apply now (claimedBy slot command)
    rw [claimedBy] at hnext
    rw [bind_ok (get_apply _), bind_ok hnext, ← hcount]
    refine .inr ⟨slot, _, _, _, rfl, rfl, rfl, fun _ => ?_⟩
    exact Keeps.bind (keeps_broadcastExcept _ _ _) fun _ =>
      Keeps.bind Frame.applyImmediateMagicEffects fun _ => sameInstances_updateRacer _

theorem toNat_advance (count claimed : UInt16) :
    (if count + claimed = 0 then 1 else count + claimed).toNat =
      advance 65536 count.toNat claimed.toNat := by
  have hsum : (count + claimed).toNat = (count.toNat + claimed.toNat) % 65536 := UInt16.toNat_add count claimed
  have hzero : count + claimed = 0 ↔ (count + claimed).toNat = 0 := UInt16.toNat_inj.symm
  rw [advance, ← hsum]
  by_cases h : count + claimed = 0
  · rw [if_pos h, if_pos (hzero.1 h)]
    rfl
  · rw [if_neg h, if_neg fun hnone => h (hzero.2 hnone)]

/-- A command that casts takes the count past the block, and no other command moves it. -/
theorem nextEffectInstanceId_magicStep (registry : Registry) (race : RaceInstance) (input : MagicInput) :
    (magicStep registry race input).nextEffectInstanceId.toNat =
      (castOf registry race input).elim race.nextEffectInstanceId.toNat fun cast =>
        advance 65536 race.nextEffectInstanceId.toNat cast.claimed := by
  obtain ⟨around, command⟩ := input
  cases command with
  | useMagicItem client command =>
    rcases @handleUseMagicItem_cases registry around client command race with
      ⟨hnone, hsame⟩ | ⟨slot, targetList, now, rest, hcast, hcount, hhandle, hrest⟩
    · rw [hnone]
      exact congrArg toNat hsame
    · have hreported := Keeps.bind (keeps_queueCommand around client
        (.useMagicItemOK command.characterOid slot.type targetList race.nextEffectInstanceId)) hrest now
      rw [← final_congr hhandle] at hreported
      rw [hcast]
      exact (congrArg toNat (Eq.trans hreported hcount)).trans (toNat_advance _ _)
  | requestMagicItem client characterOid roll =>
    exact congrArg toNat (@Frame.handleRequestMagicItem SameInstances _ _ _ _ _ _ _ _ race)
  | userRaceItemGet client command lookups =>
    exact congrArg toNat (sameInstances_handleUserRaceItemGet race)
  | activateSkillEffect client command =>
    exact congrArg toNat (@Frame.handleActivateSkillEffect SameInstances _ _ _ _ _ _ _ race)
  | gaugeTick => exact congrArg toNat (sameInstances_tickMagicGauge race)
  | itemStrip uid => exact congrArg toNat (@Frame.stripHeldMagicItem SameInstances _ _ _ _ _ race)

theorem reported_castOf {input : MagicInput} {cast : Cast} (h : castOf registry race input = some cast) :
    cast.reported = race.nextEffectInstanceId := by
  rw [castOf] at h
  split at h
  · split at h
    · cases h
      rfl
    · cases h
  · cases h

/-- A cast reports the count that the earlier ones have come to. -/
theorem reported_eq {cast : Cast} {later : List Cast} (inputs : List MagicInput) :
    ∀ {race : RaceInstance} {earlier : List Cast}, casts registry race inputs = earlier ++ cast :: later →
      cast.reported.toNat =
        after 65536 race.nextEffectInstanceId.toNat (earlier.map Cast.claimed) := by
  induction inputs with
  | nil => exact fun h => absurd h.symm (append_ne_nil_of_right_ne_nil _ (cons_ne_nil _ _))
  | cons input inputs ih =>
    intro race earlier h
    have hcount := nextEffectInstanceId_magicStep registry race input
    rw [casts] at h
    cases hcast : castOf registry race input with
    | none =>
      rw [hcast] at h hcount
      rw [ih h, hcount]
      rfl
    | some first =>
      rw [hcast] at h hcount
      cases earlier with
      | nil =>
        cases (List.cons.inj h).1
        exact congrArg toNat (reported_castOf hcast)
      | cons other earlier =>
        obtain ⟨rfl, hrest⟩ := List.cons.inj h
        rw [ih hrest, hcount]
        rfl

end Casts

/-! ## Blocks -/

/-- No id is reported as zero, and two casts have no id in common if fewer than 65535 were claimed between them. -/
structure Separate (casts : List Cast) : Prop where
  reported : ∀ cast ∈ casts, cast.reported ≠ 0
  apart : ∀ earlier first between second later, casts = earlier ++ first :: (between ++ second :: later) →
    (between.map Cast.claimed).sum < 65535 → List.Disjoint first.ids second.ids

/-- The count has started at another number than zero, nothing follows a cast that claims nothing, and the ids from
a cast up to a later one, with those of it and the zero that may be left out, go round once at most. -/
structure Roomy (count : Nat) (claims : List Nat) : Prop where
  started : claims ≠ [] → count ≠ 0
  claimed : ∀ earlier first second later, claims = earlier ++ first :: second :: later → first ≠ 0
  around : ∀ earlier first between second later, claims = earlier ++ first :: (between ++ second :: later) →
    between.sum < 65535 →
      Wrapping.span 65536 (Wrapping.after 65536 count earlier) (first :: between) + max second 1 ≤ 65536

theorem map_toNat_ids (cast : Cast) :
    cast.ids.map UInt16.toNat = block 65536 cast.reported.toNat (max cast.claimed 1) := by
  rw [Cast.ids, block, map_map]
  refine map_congr_left fun offset _ => ?_
  refine (UInt16.toNat_add _ _).trans ?_
  rw [UInt16.toNat_ofNat', Nat.add_mod_mod]

theorem disjoint_ids_iff (first second : Cast) :
    List.Disjoint first.ids second.ids ↔
      List.Disjoint (block 65536 first.reported.toNat (max first.claimed 1))
        (block 65536 second.reported.toNat (max second.claimed 1)) := by
  rw [← map_toNat_ids, ← map_toNat_ids]
  exact ⟨disjoint_map fun _ _ => UInt16.toNat_inj.1,
    fun h _ hfirst hsecond => h (mem_map_of_mem hfirst) (mem_map_of_mem hsecond)⟩

section Runs

variable {registry : Registry} {race : RaceInstance} {inputs : List MagicInput} {earlier between later : List Cast}
  {first second : Cast}

/-- Two casts of a run have no id in common if the later one starts behind the earlier one, and does not come round
to it. -/
theorem disjoint_ids_of_casts
    (h : casts registry race inputs = earlier ++ first :: (between ++ second :: later))
    (hbetween : (between.map Cast.claimed).sum < 65535) :
    List.Disjoint first.ids second.ids ↔
      max first.claimed 1 ≤ Wrapping.span 65536
          (Wrapping.after 65536 race.nextEffectInstanceId.toNat (earlier.map Cast.claimed))
          (first.claimed :: between.map Cast.claimed) ∧
        Wrapping.span 65536 (Wrapping.after 65536 race.nextEffectInstanceId.toNat (earlier.map Cast.claimed))
          (first.claimed :: between.map Cast.claimed) + max second.claimed 1 ≤ 65536 := by
  have hfirst := reported_eq inputs h
  have hsecond := reported_eq inputs
    (h.trans (append_assoc earlier (first :: between) (second :: later)).symm)
  rw [map_append, map_cons, Wrapping.after, foldl_append] at hsecond
  rw [disjoint_ids_iff, hfirst, hsecond]
  exact Wrapping.disjoint_after_iff (by decide) (Wrapping.after_lt (by decide) race.nextEffectInstanceId.toNat_lt)
    (Nat.succ_lt_succ hbetween) (Nat.lt_of_lt_of_le Nat.one_pos (Nat.le_max_right _ _))

theorem roomy_of_separate (h : Separate (casts registry race inputs)) :
    Roomy race.nextEffectInstanceId.toNat ((casts registry race inputs).map Cast.claimed) := by
  have hstarted : casts registry race inputs ≠ [] → race.nextEffectInstanceId.toNat ≠ 0 := by
    intro hsome
    obtain ⟨first, later, hcasts⟩ := exists_cons_of_ne_nil hsome
    have hfirst := @reported_eq registry first later inputs race [] hcasts
    exact fun hzero => h.reported first (hcasts ▸ mem_cons_self) (UInt16.toNat_inj.1 (hfirst.trans hzero))
  refine ⟨fun hsome => hstarted fun hnone => hsome (by rw [hnone]; rfl), ?_, ?_⟩
  · intro claims claimed next others hsplit hzero
    obtain ⟨earlier, _, hcasts, rfl, hcons⟩ := map_eq_append_iff.1 hsplit
    obtain ⟨first, _, rfl, rfl, hnext⟩ := map_eq_cons_iff.1 hcons
    obtain ⟨second, later, rfl, rfl, rfl⟩ := map_eq_cons_iff.1 hnext
    have hpos : race.nextEffectInstanceId.toNat ≠ 0 := hstarted (hcasts ▸ append_ne_nil_of_right_ne_nil _
      (cons_ne_nil _ _))
    have hcount := @Wrapping.after_pos 65536 _ (earlier.map Cast.claimed) (Nat.pos_of_ne_zero hpos)
    have hlt := @Wrapping.after_lt 65536 _ (earlier.map Cast.claimed) (by decide) race.nextEffectInstanceId.toNat_lt
    have hbehind := ((@disjoint_ids_of_casts _ _ _ _ [] _ _ _ hcasts (by decide)).1
      (h.apart earlier first [] second later hcasts (by decide))).1
    rw [hzero, map_nil, Wrapping.span, Wrapping.span, Nat.add_zero, Nat.add_zero,
      Nat.mod_eq_of_lt hlt, if_neg (Nat.pos_iff_ne_zero.1 hcount)] at hbehind
    exact absurd hbehind (by decide)
  · intro claims claimed betweens next others hsplit hsum
    obtain ⟨earlier, _, hcasts, rfl, hcons⟩ := map_eq_append_iff.1 hsplit
    obtain ⟨first, _, rfl, rfl, happend⟩ := map_eq_cons_iff.1 hcons
    obtain ⟨between, _, rfl, rfl, hnext⟩ := map_eq_append_iff.1 happend
    obtain ⟨second, later, rfl, rfl, rfl⟩ := map_eq_cons_iff.1 hnext
    exact ((disjoint_ids_of_casts hcasts hsum).1 (h.apart earlier first between second later hcasts hsum)).2

theorem separate_of_roomy
    (h : Roomy race.nextEffectInstanceId.toNat ((casts registry race inputs).map Cast.claimed)) :
    Separate (casts registry race inputs) := by
  refine ⟨?_, ?_⟩
  · intro cast hcast hzero
    obtain ⟨earlier, later, hcasts⟩ := append_of_mem hcast
    have hpos : race.nextEffectInstanceId.toNat ≠ 0 := h.started fun hnone => by
      rw [map_eq_nil_iff.1 hnone] at hcast
      cases hcast
    have hcount := @after_pos 65536 _ (earlier.map Cast.claimed) (Nat.pos_of_ne_zero hpos)
    rw [← reported_eq inputs hcasts, hzero] at hcount
    exact Nat.lt_irrefl 0 hcount
  · intro earlier first between second later hcasts hsum
    have hsplit : (casts registry race inputs).map Cast.claimed = earlier.map Cast.claimed ++
        first.claimed :: (between.map Cast.claimed ++ second.claimed :: later.map Cast.claimed) := by
      rw [hcasts, map_append, map_cons, map_append, map_cons]
    refine (disjoint_ids_of_casts hcasts hsum).2 ⟨?_, h.around _ _ _ _ _ hsplit hsum⟩
    have hclaimed : first.claimed ≠ 0 := by
      cases between with
      | nil => exact h.claimed _ _ _ _ hsplit
      | cons other between => exact h.claimed _ _ _ _ hsplit
    have hspan := @sum_le_span 65536
      (after 65536 race.nextEffectInstanceId.toNat (earlier.map Cast.claimed))
      (first.claimed :: between.map Cast.claimed)
    rw [sum_cons] at hspan
    omega

/-- The casts of a run report other ids than zero and own different ones, as long as fewer than 65535 are claimed
between two of them, in exactly the runs that start at another count than zero, in which nothing follows an ice wall
without obstacles and no block comes round to an earlier one. -/
theorem casts_separate_iff (registry : Registry) (race : RaceInstance) (inputs : List MagicInput) :
    Separate (casts registry race inputs) ↔
      Roomy race.nextEffectInstanceId.toNat ((casts registry race inputs).map Cast.claimed) :=
  ⟨roomy_of_separate, separate_of_roomy⟩

end Runs

/-! ### The first cast of a new race -/

def wallRegistry : Registry where
  slotInfo := [{ type := MagicType.iceWall }]

/-- A racer with an ice wall, in a race without casts so far. -/
def armed : RaceInstance where
  racers := (∅ : ExtTreeMap Uid Racer).insert 100 { oid := 1, magicItem := some MagicType.iceWall }

def wallCast : MagicInput where
  around :=
    { clients := [(5, { characterUid := 100, roomUid := 1, isAuthenticated := true })]
      players := some [(100, 5)] }
  command := .useMagicItem 5 { characterOid := 1, magicItemId := MagicType.iceWall, targetList := [2] }

/-- The first cast reports zero. -/
theorem first_cast_reports_zero : ¬Separate (casts wallRegistry armed [wallCast]) := by
  have hcasts : casts wallRegistry armed [wallCast] = [⟨0, 1⟩] := by decide +kernel
  rw [hcasts]
  exact fun h => h.reported ⟨0, 1⟩ List.mem_cons_self rfl

end Alicia.Magic
