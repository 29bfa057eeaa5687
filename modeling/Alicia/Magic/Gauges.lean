import Alicia.Magic.Frames
import Alicia.Magic.Expiry
import Alicia.Magic.Stars

/-!
# The gauges of a race

An award of star points is capped by what the mode of the race allows.  The sum before the cap is one of 32 bits,
and a pickup asks the room for the mode, which its master may have changed since the race began.  Without a
wrap-around and in the mode of the race, every gauge stays within its limits and no award lowers it.
-/

namespace Alicia.Magic

open Std (ExtTreeMap)
open Transition Effect Data RaceInstance
open Race (Instant TeamColor)

/-! ## The purpose of the gauges -/

/-- The gauge of a racer. -/
def RaceInstance.stars (race : RaceInstance) (uid : Uid) : Option UInt32 :=
  (race.racers[uid]?).map Racer.starPointValue

/-- Every gauge is within the limit of the mode of the race. -/
def StarsFit (registry : Registry) (race : RaceInstance) : Prop :=
  ∀ uid value, race.stars uid = some value →
    ∃ gameMode, registry.gameModeInfo race.gameMode = some gameMode ∧ value ≤ gameMode.starPointsMax

/-- A spur consumes what it costs, or throws and leaves all gauges. -/
def SpurSound (registry : Registry) (around : Surroundings) (client : ClientId) (command : RequestSpur)
    (race : RaceInstance) : Prop :=
  let after := (handleRequestSpur registry around client command).final race
  (∃ uid racer gameMode, around.getOwnRacer client command.characterOid race = .ok (uid, racer) ∧
      registry.gameModeInfo race.gameMode = some gameMode ∧
      gameMode.spurConsumeStarPoints ≤ racer.starPointValue ∧
      ∀ other, after.stars other =
        if other = uid then some (racer.starPointValue - gameMode.spurConsumeStarPoints) else race.stars other) ∨
    ¬(handleRequestSpur registry around client command).Completes race ∧ ∀ other, after.stars other = race.stars other

/-- The command awards points.  A pickup does not where the race and the room are ones of magic, but empties the
gauge for an item. -/
def CourseInput.awards (race : RaceInstance) : CourseInput → Bool
  | .star _ (.requestSpur _ _) => false
  | .star _ _ => true
  | .room (.command around (.egg (.userRaceItemGet _ _ _))) =>
    !(race.gameMode = magicMode && around.roomGameMode = magicMode)
  | .room _ => false

/-- No gauge is lower than before. -/
def Raises (before after : RaceInstance) : Prop :=
  ∀ uid value, before.stars uid = some value → ∃ now, after.stars uid = some now ∧ value ≤ now

/-- What is expected of a step: the gauges are within the limit of the mode, a spur costs what it costs, and no
award lowers a gauge. -/
structure StarsSound (registry : Registry) (scheduled : ScheduledRace) (input : CourseInput) : Prop where
  fit : StarsFit registry (courseStep registry scheduled input).race
  spur : ∀ around client command, input = .star around (.requestSpur client command) →
    SpurSound registry around client command scheduled.race
  award : input.awards scheduled.race = true →
    Raises scheduled.race (courseStep registry scheduled input).race

/-! ## The condition -/

/-- What a hurdle gives, by the jump. -/
def Racer.hurdlePoints (racer : Racer) (gameMode : GameModeInfo) : HurdleClearType → UInt32
  | .perfect => gameMode.perfectJumpStarPoints +
      min gameMode.perfectJumpMaxBonusCombo (min 99 (racer.jumpComboValue + 1)) * gameMode.perfectJumpUnitStarPoints
  | .good | .doubleJumpOrGlide => racer.buffed gameMode.goodJumpStarPoints
  | .collision | .unhandled _ => 0

/-- The sum of a gauge and the points fits into 32 bits. -/
def Addable (value points : UInt32) : Prop := value.toNat + points.toNat < 4294967296

/-- The horseshoe of a deck does not carry the gauge past 32 bits. -/
def Shoeable (currentItem value : UInt32) : Prop :=
  (currentItem = 101 → (value.toNat / 40000 + 1) * 40000 < 4294967296) ∧ (currentItem = 102 → Addable value 10000)

/-- A pickup comes to an item deck, which its racer does not have to wait for. -/
structure Reaches (around : Surroundings) (client : ClientId) (command : UserRaceItemGet) (race : RaceInstance)
    (uid : Uid) (racer : Racer) (deck : ItemDeck) : Prop where
  getRacer : around.getRacer client race = .ok (uid, racer)
  noEvent : findEventItem racer command.itemDeckId = none
  deck : race.itemDecks[command.itemDeckId]? = some deck
  ready : ¬(racer.deckCooldown command.itemDeckId).any (fun until_ => around.now < until_) = true

/-- No award wraps around, and a pickup of an item deck finds the room in the mode of the race. -/
def Unwrapped (registry : Registry) (scheduled : ScheduledRace) : CourseInput → Prop
  | .star around (.starPointGet client command) => ∀ uid racer,
      around.getOwnRacer client command.characterOid scheduled.race = .ok (uid, racer) →
        Addable racer.starPointValue (racer.buffed command.gainedStarPoints)
  | .star around (.hurdleClearResult client command) => ∀ uid racer gameMode,
      around.getOwnRacer client command.characterOid scheduled.race = .ok (uid, racer) →
        registry.gameModeInfo scheduled.race.gameMode = some gameMode →
        Addable racer.starPointValue (racer.hurdlePoints gameMode command.hurdleClearType)
  | .star around (.startingRate client command) => ∀ uid racer,
      around.getOwnRacer client command.characterOid scheduled.race = .ok (uid, racer) →
        Addable racer.starPointValue command.boostGained
  | .room (.command around (.egg (.userRaceItemGet client command _))) => ∀ uid racer deck,
      Reaches around client command scheduled.race uid racer deck →
        around.roomGameMode = scheduled.race.gameMode ∧
          (scheduled.race.gameMode = speedMode → Shoeable deck.currentItem racer.starPointValue)
  | _ => True

/-! ## Arithmetic -/

theorem le_add_of_addable {value points : UInt32} (h : Addable value points) : value ≤ value + points := by
  rw [UInt32.le_iff_toNat_le, UInt32.toNat_add, Nat.mod_eq_of_lt h]
  exact Nat.le_add_right _ _

theorem sub_le_self {value points : UInt32} (h : points ≤ value) : value - points ≤ value := by
  rw [UInt32.le_iff_toNat_le, UInt32.toNat_sub_of_le _ _ h]
  exact Nat.sub_le _ _

/-- A capped sum that does not wrap around. -/
theorem le_capped {value points limit : UInt32} (hvalue : value ≤ limit) (h : Addable value points) :
    value ≤ min (value + points) limit :=
  Std.le_min_iff.2 ⟨le_add_of_addable h, hvalue⟩

theorem horseshoe_le {currentItem limit value : UInt32} (hvalue : value ≤ limit) :
    horseshoe currentItem limit value ≤ limit := by
  rw [horseshoe]
  split
  · exact Std.min_le_right
  split
  · exact Std.min_le_right
  · exact hvalue

theorem le_horseshoe {currentItem limit value : UInt32} (hvalue : value ≤ limit) (h : Shoeable currentItem value) :
    value ≤ horseshoe currentItem limit value := by
  rw [horseshoe]
  split
  · next hgold =>
      refine Std.le_min_iff.2 ⟨?_, hvalue⟩
      have hfits := h.1 hgold
      have hunit : (40000 : UInt32).toNat = 40000 := rfl
      have hone : (1 : UInt32).toNat = 1 := rfl
      rw [UInt32.le_iff_toNat_le, UInt32.toNat_mul, UInt32.toNat_add, UInt32.toNat_div, hunit, hone]
      omega
  split
  · next hsilver => exact le_capped hvalue (h.2 hsilver)
  · exact UInt32.le_refl _

/-! ## What leaves the gauges, and what lowers them -/

/-- The gauges are those of before, but for one. -/
structure Filled (uid : Uid) (value : UInt32) (before after : RaceInstance) : Prop where
  gameMode : after.gameMode = before.gameMode
  starPointsMax : after.starPointsMax = before.starPointsMax
  stars : ∀ other, after.stars other = if other = uid then some value else before.stars other

structure SameStars (before after : RaceInstance) : Prop where
  gameMode : after.gameMode = before.gameMode
  starPointsMax : after.starPointsMax = before.starPointsMax
  stars : ∀ uid, after.stars uid = before.stars uid

/-- No gauge is higher than before. -/
structure Spends (before after : RaceInstance) : Prop where
  gameMode : after.gameMode = before.gameMode
  starPointsMax : after.starPointsMax = before.starPointsMax
  stars : ∀ uid value, after.stars uid = some value → ∃ old, before.stars uid = some old ∧ value ≤ old

theorem stars_updateRacer (race : RaceInstance) (uid : Uid) (change : Racer → Racer) (other : Uid) :
    (race.updateRacer uid change).stars other =
      if other = uid then (race.racers[other]?).map fun racer => (change racer).starPointValue
      else race.stars other := by
  rw [stars, getElem?_updateRacer]
  split
  · exact Option.map_map _ _ _
  · rfl

namespace SameStars

instance : Std.Refl SameStars := ⟨fun _ => ⟨rfl, rfl, fun _ => rfl⟩⟩

instance : IsTrans RaceInstance SameStars :=
  ⟨fun _ _ _ h hnext => ⟨hnext.gameMode.trans h.gameMode, hnext.starPointsMax.trans h.starPointsMax,
    fun uid => (hnext.stars uid).trans (h.stars uid)⟩⟩

instance : Unsent SameStars := ⟨fun _ _ => ⟨rfl, rfl, fun _ => rfl⟩⟩

/-- The gauge of the racer is not touched. -/
theorem update {uid : Uid} {change : Racer → Racer}
    (h : ∀ racer, (change racer).starPointValue = racer.starPointValue) :
    Keeps SameStars (updateRacer uid change) := by
  intro race
  refine ⟨rfl, rfl, fun other => ?_⟩
  refine (stars_updateRacer race uid change other).trans ?_
  split
  · exact congrArg (Option.map · _) (funext h)
  · rfl

/-- Neither the racers nor the mode are touched. -/
theorem modify {change : RaceInstance → RaceInstance} (hracers : ∀ race, (change race).racers = race.racers)
    (hmode : ∀ race, (change race).gameMode = race.gameMode)
    (hmax : ∀ race, (change race).starPointsMax = race.starPointsMax) :
    Keeps SameStars (modify change : Handling PUnit) :=
  .modify fun race => ⟨hmode race, hmax race, fun uid => by rw [RaceInstance.stars, hracers, RaceInstance.stars]⟩

end SameStars

namespace Spends

instance : Std.Refl Spends := ⟨fun _ => ⟨rfl, rfl, fun _ value h => ⟨value, h, UInt32.le_refl _⟩⟩⟩

instance : IsTrans RaceInstance Spends := by
  refine ⟨fun _ _ _ h hnext => ⟨hnext.gameMode.trans h.gameMode, hnext.starPointsMax.trans h.starPointsMax,
    fun uid value hvalue => ?_⟩⟩
  obtain ⟨middle, hmiddle, hle⟩ := hnext.stars uid value hvalue
  obtain ⟨old, hold, hleOld⟩ := h.stars uid middle hmiddle
  exact ⟨old, hold, UInt32.le_trans hle hleOld⟩

theorem of_same {before after : RaceInstance} (h : SameStars before after) : Spends before after :=
  ⟨h.gameMode, h.starPointsMax, fun uid value hvalue => ⟨value, (h.stars uid).symm.trans hvalue, UInt32.le_refl _⟩⟩

instance : Frame Spends where
  sent race sent := of_same (Unsent.sent race sent)
  update uid change h race := by
    refine ⟨rfl, rfl, fun other value hvalue => ?_⟩
    rw [stars_updateRacer] at hvalue
    split at hvalue
    · obtain ⟨old, hold, rfl⟩ := Option.map_eq_some_iff.1 hvalue
      exact ⟨old.starPointValue, congrArg (Option.map Racer.starPointValue) hold, (h old).starPointValue⟩
    · exact ⟨value, hvalue, UInt32.le_refl _⟩
  map change h race := by
    refine ⟨rfl, rfl, fun uid value hvalue => ?_⟩
    obtain ⟨racer, hracer, rfl⟩ := Option.map_eq_some_iff.1 hvalue
    obtain ⟨old, hold, rfl⟩ := Option.map_eq_some_iff.1 (ExtTreeMap.getElem?_map.symm.trans hracer)
    exact ⟨old.starPointValue, congrArg (Option.map Racer.starPointValue) hold, (h uid old).starPointValue⟩
  others _ _ _ _ := ⟨rfl, rfl, fun _ value h => ⟨value, h, UInt32.le_refl _⟩⟩

instance : Uncounted Spends where
  count _ _ := ⟨rfl, rfl, fun _ value h => ⟨value, h, UInt32.le_refl _⟩⟩

end Spends

/-! ## One gauge is filled -/

section Filling

variable {registry : Registry} {around : Surroundings} {client : ClientId} {characterOid : UInt16}
  {race middle after : RaceInstance} {uid : Uid} {racer : Racer} {value : UInt32} {gameMode : GameModeInfo}

theorem getOwnRacer_racers (h : around.getOwnRacer client characterOid race = .ok (uid, racer)) :
    race.racers[uid]? = some racer := by
  rw [Surroundings.getOwnRacer] at h
  cases hracer : around.getRacer client race with
  | error failure =>
    rw [hracer] at h
    cases h
  | ok entry =>
    rw [hracer] at h
    dsimp only [bind, Except.bind] at h
    split at h
    · cases h
    · cases h
      exact getRacer_racers hracer

theorem gameModeInfo_of_ok {mode : UInt8} (h : registry.getCourseGameModeInfo mode = .ok gameMode) :
    registry.gameModeInfo mode = some gameMode := by
  rw [Registry.getCourseGameModeInfo] at h
  cases hmode : registry.gameModeInfo mode with
  | none =>
    rw [hmode] at h
    cases h
  | some found =>
    rw [hmode] at h
    cases h
    rfl

theorem Filled.same (h : Filled uid value race middle) (hsame : SameStars middle after) :
    Filled uid value race after :=
  ⟨hsame.gameMode.trans h.gameMode, hsame.starPointsMax.trans h.starPointsMax,
    fun other => (hsame.stars other).trans (h.stars other)⟩

/-- A racer with another gauge. -/
theorem filled_set (hracer : race.racers[uid]? = some racer) {change : Racer → Racer}
    (hvalue : (change racer).starPointValue = value) : Filled uid value race (race.updateRacer uid change) := by
  refine ⟨rfl, rfl, fun other => ?_⟩
  rw [stars_updateRacer]
  split
  · next hother =>
      rw [hother, hracer]
      exact congrArg some hvalue
  · rfl

/-- Where the racer has the value already, nothing is changed. -/
theorem Filled.unchanged (h : Filled uid racer.starPointValue race after) (hracer : race.racers[uid]? = some racer) :
    SameStars race after := by
  refine ⟨h.gameMode, h.starPointsMax, fun other => (h.stars other).trans ?_⟩
  split
  · next hother =>
      rw [hother, RaceInstance.stars, hracer]
      rfl
  · rfl

/-- A change of the gauge, and messages. -/
theorem filled_replaced (hracer : race.racers[uid]? = some racer) (now : Racer) :
    Filled uid now.starPointValue race (race.updateRacer uid fun _ => now) :=
  filled_set hracer rfl

theorem filled_update (hracer : race.racers[uid]? = some racer) {change : Racer → Racer}
    (hvalue : (change racer).starPointValue = value) {α : Type} {rest : PUnit → Handling α}
    (hrest : ∀ done, Keeps SameStars (rest done)) :
    Filled uid value race ((updateRacer uid change >>= rest).final race) := by
  rw [updateRacer, final_bind_ok (modify_apply _ _)]
  exact (filled_set hracer hvalue).same (hrest _ _)

/-- An award leaves the gauges, or gives the points to its racer up to the limit of the mode. -/
def Awarded (registry : Registry) (around : Surroundings) (client : ClientId) (characterOid : UInt16)
    (points : Racer → GameModeInfo → UInt32) (race after : RaceInstance) : Prop :=
  SameStars race after ∨ ∃ uid racer gameMode, around.getOwnRacer client characterOid race = .ok (uid, racer) ∧
    registry.gameModeInfo race.gameMode = some gameMode ∧
    Filled uid (min (racer.starPointValue + points racer gameMode) gameMode.starPointsMax) race after

/-- A lookup that throws awards nothing. -/
theorem Awarded.ask {characterOid : UInt16} {points : Racer → GameModeInfo → UInt32} {α β : Type}
    {lookup : RaceInstance → Except Failure α} {f : α → Handling β}
    (h : ∀ a, lookup race = .ok a →
      Awarded registry around client characterOid points race ((f a).final race)) :
    Awarded registry around client characterOid points race ((Effect.ask lookup >>= f).final race) :=
  final_ask_bind (fun _ _ => .inl (refl_of SameStars race)) h

theorem awarded_handleStarPointGet (command : StarPointGet) (race : RaceInstance) :
    Awarded registry around client command.characterOid (fun racer _ => racer.buffed command.gainedStarPoints) race
      ((handleStarPointGet registry around client command).final race) := by
  rw [handleStarPointGet]
  refine .ask ?_
  rintro ⟨uid, racer⟩ hown
  refine .ask fun gameMode hmode => ?_
  refine .inr ⟨uid, racer, gameMode, hown, gameModeInfo_of_ok hmode, ?_⟩
  refine filled_update (getOwnRacer_racers hown) ?_ fun _ => keeps_queueCommand _ _ _
  rfl

theorem awarded_handleStartingRate (command : StartingRate) (race : RaceInstance) :
    Awarded registry around client command.characterOid (fun _ _ => command.boostGained) race
      ((handleStartingRate registry around client command).final race) := by
  rw [handleStartingRate]
  split
  · exact .inl (refl_of SameStars race)
  refine .ask ?_
  rintro ⟨uid, racer⟩ hown
  refine .ask fun gameMode hmode => ?_
  refine .inr ⟨uid, racer, gameMode, hown, gameModeInfo_of_ok hmode, ?_⟩
  refine filled_update (getOwnRacer_racers hown) ?_ fun _ => keeps_queueCommand _ _ _
  rfl

/-- What a jump makes of the gauge: nothing, or the points of the hurdle are added. -/
theorem clearHurdle_cases {hurdleClearType : HurdleClearType} {jumpCombo : UInt32}
    (h : racer.clearHurdle gameMode hurdleClearType = some (jumpCombo, value)) :
    value = racer.starPointValue ∨
      value = min (racer.starPointValue + racer.hurdlePoints gameMode hurdleClearType) gameMode.starPointsMax := by
  cases hurdleClearType with
  | perfect =>
    cases h
    refine .inr ?_
    rw [Racer.hurdlePoints, UInt32.add_assoc]
  | good =>
    cases h
    exact .inr rfl
  | doubleJumpOrGlide =>
    cases h
    exact .inr rfl
  | collision =>
    cases h
    exact .inl rfl
  | unhandled which => cases h

theorem awarded_handleHurdleClearResult (command : HurdleClearResult) (race : RaceInstance) :
    Awarded registry around client command.characterOid
      (fun racer gameMode => racer.hurdlePoints gameMode command.hurdleClearType) race
      ((handleHurdleClearResult registry around client command).final race) := by
  rw [handleHurdleClearResult]
  refine .ask ?_
  rintro ⟨uid, racer⟩ hown
  dsimp only
  rw [final_bind_ok (get_apply _)]
  refine .ask fun gameMode hmode => ?_
  have hracer := getOwnRacer_racers hown
  cases hjump : racer.clearHurdle gameMode command.hurdleClearType with
  | none => exact .inl (refl_of SameStars race)
  | some jump =>
  obtain ⟨jumpCombo, value⟩ := jump
  dsimp only
  rcases clearHurdle_cases hjump with rfl | rfl
  · refine .inl (Filled.unchanged (filled_update hracer ?_ fun _ => ?_) hracer)
    · rfl
    · split
      · exact .bind (keeps_queueCommand _ _ _) fun _ => keeps_queueCommand _ _ _
      · exact keeps_queueCommand _ _ _
  · refine .inr ⟨uid, racer, gameMode, hown, gameModeInfo_of_ok hmode, filled_update hracer ?_ fun _ => ?_⟩
    · rfl
    · split
      · exact .bind (keeps_queueCommand _ _ _) fun _ => keeps_queueCommand _ _ _
      · exact keeps_queueCommand _ _ _

/-- A spur throws and leaves the gauges, or takes its cost from the gauge of its racer. -/
theorem spur_cases (command : RequestSpur) (race : RaceInstance) :
    (¬(handleRequestSpur registry around client command).Completes race ∧
        SameStars race ((handleRequestSpur registry around client command).final race)) ∨
      ∃ uid racer gameMode, around.getOwnRacer client command.characterOid race = .ok (uid, racer) ∧
        registry.gameModeInfo race.gameMode = some gameMode ∧
        gameMode.spurConsumeStarPoints ≤ racer.starPointValue ∧
        Filled uid (racer.starPointValue - gameMode.spurConsumeStarPoints) race
          ((handleRequestSpur registry around client command).final race) := by
  rw [handleRequestSpur]
  cases hown : around.getOwnRacer client command.characterOid race with
  | error failure =>
    refine .inl ⟨fun hcompletes => ?_, ?_⟩
    · obtain ⟨_, _, hask, -⟩ := completes_bind.1 hcompletes
      rw [ask_error hown] at hask
      cases hask
    · rw [final_bind_error (ask_error hown)]
      exact refl_of SameStars race
  | ok entry =>
  obtain ⟨uid, racer⟩ := entry
  rw [completes_bind_ok (ask_ok hown), final_bind_ok (ask_ok hown)]
  dsimp only
  cases hmode : registry.getCourseGameModeInfo race.gameMode with
  | error failure =>
    have hask : Effect.ask (fun race : RaceInstance => registry.getCourseGameModeInfo race.gameMode) race =
      .error failure race := ask_error hmode
    refine .inl ⟨fun hcompletes => ?_, ?_⟩
    · obtain ⟨_, _, hfound, -⟩ := completes_bind.1 hcompletes
      rw [hask] at hfound
      cases hfound
    · rw [final_bind_error hask]
      exact refl_of SameStars race
  | ok gameMode =>
  have hask : Effect.ask (fun race : RaceInstance => registry.getCourseGameModeInfo race.gameMode) race =
    .ok gameMode race := ask_ok hmode
  rw [completes_bind_ok hask, final_bind_ok hask]
  split
  · exact .inl ⟨id, refl_of SameStars race⟩
  · next hcost =>
      refine .inr ⟨uid, racer, gameMode, rfl, gameModeInfo_of_ok hmode, UInt32.not_lt.1 hcost, ?_⟩
      refine filled_update (getOwnRacer_racers hown) ?_ fun _ =>
        .bind (keeps_queueCommand _ _ _) fun _ => keeps_queueCommand _ _ _
      rfl

theorem spurSound (command : RequestSpur) (race : RaceInstance) : SpurSound registry around client command race := by
  rcases spur_cases command race with ⟨hthrows, hsame⟩ | ⟨uid, racer, gameMode, hown, hmode, hcost, hfilled⟩
  · exact .inr ⟨hthrows, hsame.stars⟩
  · exact .inl ⟨uid, racer, gameMode, hown, hmode, hcost, hfilled.stars⟩

end Filling

/-! ## Pickups -/

section Pickups

variable {registry : Registry} {around : Surroundings} {client : ClientId} {command : UserRaceItemGet}
  {lookups : PickupLookups} {race middle after : RaceInstance} {uid : Uid} {racer : Racer} {deck : ItemDeck}

theorem SameStars.filled {value : UInt32} (h : SameStars race middle) (hfilled : Filled uid value middle after) :
    Filled uid value race after := by
  refine ⟨hfilled.gameMode.trans h.gameMode, hfilled.starPointsMax.trans h.starPointsMax, fun other => ?_⟩
  rw [hfilled.stars other, h.stars other]

theorem sameStars_getEventItem {item : EventItem} :
    Keeps SameStars (getEventItem registry around uid item command lookups) := by
  refine .bind (keeps_ask _) fun egg => .bind .get fun _ =>
    .bind (fun race => ?_) fun itemUid => .bind ?_ fun _ =>
    .bind (keeps_broadcast _ _) fun _ => .bind (keeps_broadcast _ _) fun _ =>
    SameStars.update fun _ => rfl
  · rw [giveEgg, final_zoom]
    exact ⟨rfl, rfl, fun _ => rfl⟩
  · rw [recordGift]
    split
    · exact SameStars.modify (fun _ => rfl) (fun _ => rfl) fun _ => rfl
    · exact .pure _

theorem sameStars_coolDown (uid : Uid) (deckId : UInt16) (until_ : Instant) (race : RaceInstance) :
    SameStars race (coolDown uid deckId until_ race) := by
  refine ⟨rfl, rfl, fun other => ?_⟩
  rw [stars, coolDown, ExtTreeMap.getElem?_map, Option.map_map]
  rfl

theorem spends_getMagicDeck : Keeps Spends (getMagicDeck registry around client uid racer deck command lookups) :=
  .bind Frame.takeMagicItem fun _ =>
    .bind
      (.bind
        (.modify fun _ => Spends.of_same ⟨rfl, rfl, fun _ => rfl⟩) fun _ => .pure _)
      fun _ => .bind (keeps_broadcastExcept _ _ _) fun _ => .pure _

/-- What a pickup makes of the gauges: nothing, a horseshoe in a room of speed, or less in a room of magic. -/
def Picked (registry : Registry) (around : Surroundings) (client : ClientId) (command : UserRaceItemGet)
    (race after : RaceInstance) : Prop :=
  SameStars race after ∨ ∃ uid racer deck, Reaches around client command race uid racer deck ∧
    ((around.roomGameMode = speedMode ∧ ∃ gameMode, registry.gameModeInfo around.roomGameMode = some gameMode ∧
        Filled uid (horseshoe deck.currentItem gameMode.starPointsMax racer.starPointValue) race after) ∨
      around.roomGameMode = magicMode ∧ Spends race after)

theorem picked_getDeck (h : Reaches around client command race uid racer deck) :
    Picked registry around client command race
      ((getDeck registry around client uid racer deck command lookups).final race) := by
  have hcooled := sameStars_coolDown uid command.itemDeckId (around.now + deck.respawnTime) race
  rw [getDeck, final_bind_ok (modify_apply _ _)]
  refine @final_ask_bind _ _ _ _ (fun after => Picked _ _ _ _ race after) _ _ _
    (fun _ _ => .inl hcooled) fun players _ => ?_
  refine @final_ask_bind _ _ _ _ (fun after => Picked _ _ _ _ race after) _ _ _
    (fun _ _ => .inl hcooled) fun gameMode hmode => ?_
  rw [getDeckInMode]
  split
  · next hspeed =>
      refine .inr ⟨uid, racer, deck, h, .inl ⟨hspeed, gameMode, gameModeInfo_of_ok hmode, hcooled.filled ?_⟩⟩
      have hracer := getRacer_racers h.getRacer
      have hwaiting : ∃ waiting,
          (coolDown uid command.itemDeckId (around.now + deck.respawnTime) race).racers[uid]? = some waiting := by
        rw [coolDown, ExtTreeMap.getElem?_map, hracer]
        exact ⟨_, rfl⟩
      obtain ⟨waiting, hwaiting⟩ := hwaiting
      rw [getSpeedDeck, bind_assoc]
      refine filled_update hwaiting ?_ fun _ =>
        Keeps.bind (Keeps.bind (keeps_queueCommand _ _ _) fun _ => Keeps.pure _) fun _ =>
        keeps_broadcast _ _
      rfl
  split
  · next hmagic =>
      refine .inr ⟨uid, racer, deck, h, .inr ⟨hmagic, ?_⟩⟩
      exact trans_of Spends (Spends.of_same hcooled)
        (Keeps.bind spends_getMagicDeck (fun _ => keeps_broadcast _ _) _)
  · exact .inl (trans_of SameStars hcooled
      (Keeps.bind (Keeps.pure deck) (fun _ => keeps_broadcast _ _) _))

theorem picked_handleUserRaceItemGet (race : RaceInstance) : Picked registry around client command race
    ((handleUserRaceItemGet registry around client command lookups).final race) := by
  rw [handleUserRaceItemGet]
  refine @final_ask_bind _ _ _ _ (fun after => Picked _ _ _ _ race after) _ _ _
    (fun _ _ => .inl (refl_of SameStars race)) ?_
  rintro ⟨uid, racer⟩ hracer
  dsimp only
  cases hevent : findEventItem racer command.itemDeckId with
  | some item => exact .inl (sameStars_getEventItem race)
  | none =>
  dsimp only
  rw [final_bind_ok (get_apply _)]
  cases hdeck : race.itemDecks[command.itemDeckId]? with
  | none => exact .inl (refl_of SameStars race)
  | some deck =>
  dsimp only
  split
  · exact .inl (refl_of SameStars race)
  · next hready => exact picked_getDeck ⟨hracer, hevent, hdeck, hready⟩

end Pickups

/-! ## The limit of a race -/

/-- A race with racers has the limit of its mode, and the gauges are within it. -/
structure Metered (registry : Registry) (race : RaceInstance) : Prop where
  max : ∀ uid value gameMode, race.stars uid = some value → registry.gameModeInfo race.gameMode = some gameMode →
    race.starPointsMax = gameMode.starPointsMax
  fit : StarsFit registry race

section Limits

variable {registry : Registry} {around : Surroundings} {client : ClientId} {race after : RaceInstance} {uid : Uid}
  {racer : Racer} {value : UInt32}

theorem stars_of_racer (h : race.racers[uid]? = some racer) : race.stars uid = some racer.starPointValue :=
  congrArg (Option.map Racer.starPointValue) h

theorem Metered.limit (h : Metered registry race) (hracer : race.racers[uid]? = some racer) {gameMode : GameModeInfo}
    (hmode : registry.gameModeInfo race.gameMode = some gameMode) : race.starPointsMax = gameMode.starPointsMax :=
  h.max uid racer.starPointValue gameMode (stars_of_racer hracer) hmode

theorem Metered.spends (h : Metered registry race) (hspends : Spends race after) : Metered registry after := by
  refine ⟨fun uid value gameMode hvalue hmode => ?_, fun uid value hvalue => ?_⟩
  · obtain ⟨old, hold, -⟩ := hspends.stars uid value hvalue
    rw [hspends.gameMode] at hmode
    exact hspends.starPointsMax.trans (h.max uid old gameMode hold hmode)
  · obtain ⟨old, hold, hle⟩ := hspends.stars uid value hvalue
    obtain ⟨gameMode, hmode, hfits⟩ := h.fit uid old hold
    rw [hspends.gameMode]
    exact ⟨gameMode, hmode, UInt32.le_trans hle hfits⟩

/-- A gauge is filled up to the limit of the race at most. -/
theorem Metered.filled (h : Metered registry race) (hracer : race.racers[uid]? = some racer)
    (hfilled : Filled uid value race after) (hle : value ≤ race.starPointsMax) : Metered registry after := by
  refine ⟨fun other now gameMode _ hmode => ?_, fun other now hnow => ?_⟩
  · rw [hfilled.gameMode] at hmode
    exact hfilled.starPointsMax.trans (h.limit hracer hmode)
  · rw [hfilled.stars other] at hnow
    rw [hfilled.gameMode]
    split at hnow
    · cases hnow
      obtain ⟨gameMode, hmode, -⟩ := h.fit uid racer.starPointValue (stars_of_racer hracer)
      exact ⟨gameMode, hmode, h.limit hracer hmode ▸ hle⟩
    · exact h.fit other now hnow

theorem Metered.le_max (h : Metered registry race) (hracer : race.racers[uid]? = some racer) :
    racer.starPointValue ≤ race.starPointsMax := by
  obtain ⟨gameMode, hmode, hle⟩ := h.fit uid racer.starPointValue (stars_of_racer hracer)
  exact h.limit hracer hmode ▸ hle

theorem metered_awarded (h : Metered registry race) {characterOid : UInt16} {points : Racer → GameModeInfo → UInt32}
    (hawarded : Awarded registry around client characterOid points race after) : Metered registry after := by
  rcases hawarded with hsame | ⟨uid, racer, gameMode, hown, hmode, hfilled⟩
  · exact h.spends (Spends.of_same hsame)
  · have hracer := getOwnRacer_racers hown
    exact h.filled hracer hfilled (h.limit hracer hmode ▸ Std.min_le_right)

/-! ### Ticks -/

/-- A tick fills a gauge up to the limit, or leaves it. -/
theorem regenerate_le (registry : Registry) (now raceStart : Instant) {starPointsMax : UInt32}
    (hle : racer.starPointValue ≤ starPointsMax) :
    (regenerate registry now raceStart starPointsMax racer).starPointValue ≤ starPointsMax := by
  rw [regenerate]
  dsimp only
  split
  · exact hle
  dsimp only
  split
  · exact Std.min_le_left
  · exact hle

theorem metered_tickMagicGauge : Keeps (Carries (Metered registry)) (tickMagicGauge registry around) := by
  intro race h
  rw [tickMagicGauge, final_bind_ok (get_apply _)]
  split
  · exact h
  refine @final_ask_bind _ _ _ _ (fun after => Metered registry after) _ _ race (fun _ _ => h)
    fun players _ => ?_
  -- the limit is that of the race before the tick
  refine (@Keeps.forM _ _ _
    (Carries fun now => Metered registry now ∧ now.starPointsMax = race.starPointsMax) _ _ _ ?_ players race ⟨h, rfl⟩).1
  rintro ⟨uid, client⟩ now ⟨hnow, hmax⟩
  rw [final_bind_ok (get_apply _)]
  cases hracer : now.racers[uid]? with
  | none => exact ⟨hnow, hmax⟩
  | some racer =>
    dsimp only
    have hle := regenerate_le registry around.now race.raceStart (hmax ▸ hnow.le_max hracer)
    have hend : ∀ after, Filled uid
        (regenerate registry around.now race.raceStart race.starPointsMax racer).starPointValue now after →
          Metered registry after ∧ after.starPointsMax = race.starPointsMax :=
      fun after hfilled =>
        ⟨hnow.filled hracer hfilled (hmax.symm ▸ hle), hfilled.starPointsMax.trans hmax⟩
    have hset := filled_replaced hracer (regenerate registry around.now race.raceStart race.starPointsMax racer)
    rw [updateRacer, final_bind_ok (modify_apply _ _)]
    exact hend _ (hset.same (keeps_queueCommand _ _ _ _))

/-! ### The start of a race -/

/-- The mode of a race and its limit. -/
structure SameMode (before after : RaceInstance) : Prop where
  gameMode : after.gameMode = before.gameMode
  starPointsMax : after.starPointsMax = before.starPointsMax

instance : Std.Refl SameMode := ⟨fun _ => ⟨rfl, rfl⟩⟩

instance : IsTrans RaceInstance SameMode :=
  ⟨fun _ _ _ h hnext => ⟨hnext.gameMode.trans h.gameMode, hnext.starPointsMax.trans h.starPointsMax⟩⟩

theorem mode_prepareRace (lookups : StartLookups) (race : RaceInstance) :
    ((prepareRace lookups).final race).gameMode = lookups.gameMode ∧
      ((prepareRace lookups).final race).starPointsMax = lookups.starPointsMax := by
  rw [prepareRace, final_bind_ok (modify_apply _ _)]
  have hdecks : Keeps SameMode (lookups.decks.forM addItemDeck) := by
    refine .forM (fun deck => .bind .get fun race => ?_) _
    split
    · exact .throw _
    · exact .modify fun _ => ⟨rfl, rfl⟩
  have hrest : Keeps SameMode (lookups.decks.forM addItemDeck >>= fun _ =>
      if lookups.prepared then return () else throw (.thrown "Exception while preparing items")) := by
    refine .bind hdecks fun _ => ?_
    split
    · exact .pure _
    · exact .throw _
  exact ⟨(hrest _).gameMode, (hrest _).starPointsMax⟩

/-- The mode stays when the racers are added. -/
def SameRaceMode (before after : RaceTracker) : Prop := SameMode before.race after.race

instance : Std.Refl SameRaceMode := ⟨fun tracker => refl_of SameMode tracker.race⟩

instance : IsTrans RaceTracker SameRaceMode := ⟨fun _ _ _ h hnext => trans_of SameMode h hnext⟩

theorem mode_addRacer (uid : Uid) (team : TeamColor) : Keeps SameRaceMode (addRacer uid team) := by
  intro tracker
  rcases addRacer_apply uid team tracker with hthrown | ⟨-, hadded⟩
  · rw [final_error hthrown]
    exact refl_of SameRaceMode tracker
  · rw [final_ok hadded]
    exact ⟨rfl, rfl⟩

theorem mode_startRace (lookups : StartLookups) (tracker : RaceTracker) :
    (startRace lookups tracker).race.gameMode = lookups.gameMode ∧
      (startRace lookups tracker).race.starPointsMax = lookups.starPointsMax := by
  have hprepared := mode_prepareRace lookups tracker.race.clear
  rcases startRace_cases lookups tracker with hstart | ⟨-, hstart⟩
  · rw [hstart]
    exact hprepared
  · rw [hstart]
    have hadded := Keeps.forM (fun player : Uid × TeamColor => mode_addRacer player.1 player.2) lookups.players
      (tracker.preparedFor lookups)
    exact ⟨hadded.gameMode.trans hprepared.1, hadded.starPointsMax.trans hprepared.2⟩

/-- The gauges of a new race are empty. -/
theorem metered_startRace (lookups : StartLookups) (tracker : RaceTracker) :
    Metered registry (startRace (lookups.prepareGameMode registry) tracker).race := by
  have hmode := mode_startRace (lookups.prepareGameMode registry) tracker
  have hnew := @startRace_forall (fun racer => racer.starPointValue = 0) (fun _ _ => rfl)
    (lookups.prepareGameMode registry) tracker
  cases hfound : registry.gameModeInfo lookups.gameMode with
  | none =>
    have hlookups : lookups.prepareGameMode registry = { lookups with decks := [], prepared := false } := by
      rw [StartLookups.prepareGameMode, hfound]
    rw [hlookups] at hmode ⊢
    refine ⟨fun uid value gameMode _ hsome => ?_, fun uid value hvalue => ?_⟩
    · rw [hmode.1, hfound] at hsome
      cases hsome
    · rcases startRace_cases { lookups with decks := [], prepared := false } tracker with hstart | ⟨hprepared, -⟩
      · rw [hstart, stars] at hvalue
        have hnone : (tracker.preparedFor { lookups with decks := [], prepared := false }).race.racers = ∅ :=
          prepared_racers _ tracker.race
        rw [hnone, ExtTreeMap.getElem?_empty] at hvalue
        cases hvalue
      · cases hprepared
  | some gameMode =>
    have hlookups : lookups.prepareGameMode registry = { lookups with starPointsMax := gameMode.starPointsMax } := by
      rw [StartLookups.prepareGameMode, hfound]
    rw [hlookups] at hmode hnew ⊢
    refine ⟨fun uid value other _ hsome => ?_, fun uid value hvalue => ?_⟩
    · rw [hmode.1, hfound] at hsome
      cases hsome
      exact hmode.2
    · obtain ⟨racer, hracer, rfl⟩ := Option.map_eq_some_iff.1 hvalue
      rw [hmode.1, hnew uid racer hracer]
      exact ⟨gameMode, hfound, UInt32.zero_le⟩

end Limits

/-! ## Steps -/

section Steps

variable {registry : Registry} {around : Surroundings} {client : ClientId} {scheduled : ScheduledRace}

/-- No gauge of the room is higher than before. -/
def SpendsRoom (before after : ScheduledRace) : Prop := Spends before.race after.race

instance : Std.Refl SpendsRoom := ⟨fun scheduled => refl_of Spends scheduled.race⟩

instance : IsTrans ScheduledRace SpendsRoom := ⟨fun _ _ _ h hnext => trans_of Spends h hnext⟩

theorem race_onRace {α : Type} (x : Handling α) (scheduled : ScheduledRace) :
    ((onRace x).final scheduled).race = x.final scheduled.race := by
  rw [onRace, final_zoom]
  rfl

theorem spends_onRace {α : Type} {x : Handling α} (h : Keeps Spends x) : Keeps SpendsRoom (onRace x) := by
  intro scheduled
  rw [SpendsRoom, race_onRace]
  exact h scheduled.race

/-- What the race does not show. -/
theorem spends_record {change : ScheduledRace → ScheduledRace}
    (h : ∀ scheduled, (change scheduled).race = scheduled.race) :
    Keeps SpendsRoom (modify change : Scheduling PUnit) := by
  intro scheduled
  rw [SpendsRoom, final_modify, h]
  exact refl_of Spends scheduled.race

theorem spends_askRoom {α : Type} (lookup : ScheduledRace → Except Failure α) :
    Keeps SpendsRoom (Effect.ask lookup) :=
  .of_final fun scheduled => final_ask lookup scheduled

theorem spends_expireEffect (expiry : EffectExpiry) : Keeps Spends (expireEffect around expiry) := by
  refine .bind .get fun _ => ?_
  split
  · exact .pure _
  split
  · exact .pure _
  · exact .bind (Frame.updateRacer fun _ => Tame.same rfl rfl rfl) fun _ => keeps_broadcast _ _

theorem spends_takeJob (index : Nat) : Keeps SpendsRoom (takeJob around index) := by
  refine .bind .get fun _ => ?_
  split
  · exact .pure _
  next job _ =>
  refine .bind (spends_record fun _ => rfl) fun _ => ?_
  obtain ⟨race, task⟩ := job
  cases task with
  | effectExpiry expiry => exact spends_onRace (spends_expireEffect expiry)
  | itemStrip uid => exact spends_onRace Frame.stripHeldMagicItem
  | teamSpur team =>
    refine .bind .get fun _ => ?_
    split
    · exact .throw _
    · exact spends_record fun _ => rfl
  | gaugeUnlock team => exact spends_record fun scheduled => race_updateTeam _ _ _

theorem spends_handleTeamGauge (client : ClientId) : Keeps SpendsRoom (handleTeamGauge around client) := by
  refine .bind (spends_askRoom _) fun _ => .bind .get fun scheduled => ?_
  split
  · exact .pure _
  refine .bind (spends_askRoom _) ?_
  rintro ⟨uid, racer⟩
  dsimp only
  split
  · exact .throw _
  split
  · exact .pure _
  refine .bind (spends_record fun _ => race_fillGauge _ _) fun _ => ?_
  split
  · exact spends_record fun _ => rfl
  · exact .pure _

theorem sameStars_handleGameCreateClientItem {unk1 : UInt32} {lookups : CreateLookups} :
    Keeps SameStars (handleGameCreateClientItem registry around client unk1 lookups) := by
  rw [handleGameCreateClientItem]
  split
  · exact .throw _
  refine .bind (keeps_ask _) ?_
  rintro ⟨uid, racer⟩
  refine .bind (keeps_ask _) fun _ => ?_
  dsimp only
  split
  · exact .pure _
  split
  · exact .throw _
  refine .bind (keeps_ask _) fun _ => .bind .get fun _ => ?_
  split
  · exact .pure _
  · exact .bind .get fun _ => .bind (SameStars.update fun _ => rfl) fun _ =>
      SameStars.modify (fun _ => rfl) (fun _ => rfl) fun _ => rfl

/-- A pickup in the mode of the race. -/
theorem metered_picked {command : UserRaceItemGet} {race after : RaceInstance} (h : Metered registry race)
    (hpicked : Picked registry around client command race after)
    (hfits : ∀ uid racer deck, Reaches around client command race uid racer deck →
      around.roomGameMode = race.gameMode ∧
        (race.gameMode = speedMode → Shoeable deck.currentItem racer.starPointValue)) : Metered registry after := by
  rcases hpicked with hsame | ⟨uid, racer, deck, hreaches, ⟨hspeed, gameMode, hmode, hfilled⟩ | ⟨-, hspends⟩⟩
  · exact h.spends (Spends.of_same hsame)
  · obtain ⟨hroom, -⟩ := hfits uid racer deck hreaches
    have hracer := getRacer_racers hreaches.getRacer
    rw [hroom] at hmode
    have hmax := h.limit hracer hmode
    exact h.filled hracer hfilled (hmax ▸ horseshoe_le (hmax ▸ h.le_max hracer))
  · exact h.spends hspends

theorem metered_step (scheduled : ScheduledRace) (input : CourseInput) (h : Metered registry scheduled.race)
    (hfits : Unwrapped registry scheduled input) : Metered registry (courseStep registry scheduled input).race := by
  cases input with
  | room input =>
    cases input with
    | start lookups isTeamMode => exact metered_startRace lookups scheduled.tracker
    | command around command =>
      cases command with
      | requestMagicItem client characterOid roll =>
        exact h.spends (spends_onRace Frame.handleRequestMagicItem scheduled)
      | useMagicItem client command =>
        refine h.spends ?_
        have hrace := (@Scheduled.handleUseMagicItem_simulates registry around client command).final scheduled
        exact hrace.symm ▸ Frame.handleUseMagicItem scheduled.race
      | activateSkillEffect client command =>
        refine h.spends ?_
        have hrace := (@Scheduled.handleActivateSkillEffect_simulates registry around client command).final scheduled
        exact hrace.symm ▸ Frame.handleActivateSkillEffect scheduled.race
      | egg command =>
        cases command with
        | loadingComplete client lookups =>
          exact h.spends (spends_onRace Frame.handleLoadingComplete scheduled)
        | gameCreateClientItem client unk1 lookups =>
          exact h.spends (spends_onRace (fun race => Spends.of_same (sameStars_handleGameCreateClientItem race))
            scheduled)
        | userRaceItemGet client command lookups =>
          have hpicked := @picked_handleUserRaceItemGet registry around client command lookups scheduled.race
          rw [← race_onRace] at hpicked
          exact metered_picked h hpicked hfits
      | teamGauge client => exact h.spends (spends_handleTeamGauge client scheduled)
      | gaugeTick =>
        have htick := @metered_tickMagicGauge registry around scheduled.race h
        rw [← race_onRace] at htick
        exact htick
      | job index => exact h.spends (spends_takeJob index scheduled)
  | star around command =>
    show Metered registry ((onRace (command.handle registry around)).final scheduled).race
    rw [race_onRace]
    cases command with
    | starPointGet client command => exact metered_awarded h (awarded_handleStarPointGet command scheduled.race)
    | requestSpur client command =>
      rcases @spur_cases registry around client command scheduled.race with
        ⟨-, hsame⟩ | ⟨uid, racer, gameMode, hown, hmode, hcost, hfilled⟩
      · exact h.spends (Spends.of_same hsame)
      · have hracer := getOwnRacer_racers hown
        exact h.filled hracer hfilled (UInt32.le_trans (sub_le_self hcost) (h.le_max hracer))
    | hurdleClearResult client command =>
      exact metered_awarded h (awarded_handleHurdleClearResult command scheduled.race)
    | startingRate client command => exact metered_awarded h (awarded_handleStartingRate command scheduled.race)

end Steps

/-! ## Awards -/

section Awards

variable {registry : Registry} {around : Surroundings} {client : ClientId} {race after : RaceInstance} {uid : Uid}
  {racer : Racer} {value : UInt32}

theorem raises_of_same (h : SameStars race after) : Raises race after :=
  fun uid value hvalue => ⟨value, (h.stars uid).trans hvalue, UInt32.le_refl _⟩

theorem raises_of_filled (hracer : race.racers[uid]? = some racer) (hfilled : Filled uid value race after)
    (hle : racer.starPointValue ≤ value) : Raises race after := by
  intro other old hold
  rw [hfilled.stars other]
  split
  · next hother =>
      rw [hother, stars, hracer] at hold
      cases hold
      exact ⟨value, rfl, hle⟩
  · exact ⟨old, hold, UInt32.le_refl _⟩

theorem raises_of_awarded (h : Metered registry race) {characterOid : UInt16}
    {points : Racer → GameModeInfo → UInt32}
    (hawarded : Awarded registry around client characterOid points race after)
    (hfits : ∀ uid racer gameMode, around.getOwnRacer client characterOid race = .ok (uid, racer) →
      registry.gameModeInfo race.gameMode = some gameMode → Addable racer.starPointValue (points racer gameMode)) :
    Raises race after := by
  rcases hawarded with hsame | ⟨uid, racer, gameMode, hown, hmode, hfilled⟩
  · exact raises_of_same hsame
  · have hracer := getOwnRacer_racers hown
    have hle := h.limit hracer hmode ▸ h.le_max hracer
    exact raises_of_filled hracer hfilled (le_capped hle (hfits uid racer gameMode hown hmode))

/-- A pickup in the mode of the race, where that is not magic. -/
theorem raises_of_picked {command : UserRaceItemGet} (h : Metered registry race)
    (hpicked : Picked registry around client command race after)
    (hfits : ∀ uid racer deck, Reaches around client command race uid racer deck →
      around.roomGameMode = race.gameMode ∧
        (race.gameMode = speedMode → Shoeable deck.currentItem racer.starPointValue))
    (hawards : ¬(race.gameMode = magicMode ∧ around.roomGameMode = magicMode)) : Raises race after := by
  rcases hpicked with hsame | ⟨uid, racer, deck, hreaches, ⟨hspeed, gameMode, hmode, hfilled⟩ | ⟨hmagic, -⟩⟩
  · exact raises_of_same hsame
  · obtain ⟨hroom, hshoe⟩ := hfits uid racer deck hreaches
    have hracer := getRacer_racers hreaches.getRacer
    rw [hroom] at hmode hspeed
    have hle := h.limit hracer hmode ▸ h.le_max hracer
    exact raises_of_filled hracer hfilled (le_horseshoe hle (hshoe hspeed))
  · obtain ⟨hroom, -⟩ := hfits uid racer deck hreaches
    exact absurd ⟨hroom.symm.trans hmagic, hmagic⟩ hawards

theorem raises_step (scheduled : ScheduledRace) (input : CourseInput) (h : Metered registry scheduled.race)
    (hfits : Unwrapped registry scheduled input) (hawards : input.awards scheduled.race = true) :
    Raises scheduled.race (courseStep registry scheduled input).race := by
  cases input with
  | room input =>
    cases input with
    | start lookups isTeamMode => cases hawards
    | command around command =>
      cases command with
      | egg command =>
        cases command with
        | userRaceItemGet client command lookups =>
          have hpicked := @picked_handleUserRaceItemGet registry around client command lookups scheduled.race
          rw [← race_onRace] at hpicked
          refine raises_of_picked h hpicked hfits fun ⟨hrace, hroom⟩ => ?_
          rw [CourseInput.awards, hrace, hroom] at hawards
          cases hawards
        | _ => cases hawards
      | _ => cases hawards
  | star around command =>
    show Raises scheduled.race ((onRace (command.handle registry around)).final scheduled).race
    rw [race_onRace]
    cases command with
    | starPointGet client command =>
      exact raises_of_awarded h (awarded_handleStarPointGet command scheduled.race)
        fun uid racer _ hown _ => hfits uid racer hown
    | requestSpur client command => cases hawards
    | hurdleClearResult client command =>
      exact raises_of_awarded h (awarded_handleHurdleClearResult command scheduled.race) hfits
    | startingRate client command =>
      exact raises_of_awarded h (awarded_handleStartingRate command scheduled.race)
        fun uid racer _ hown _ => hfits uid racer hown

theorem starsSound_of_unwrapped (scheduled : ScheduledRace) (input : CourseInput) (h : Metered registry scheduled.race)
    (hfits : Unwrapped registry scheduled input) : StarsSound registry scheduled input where
  fit := (metered_step scheduled input h hfits).fit
  spur _ _ command _ := spurSound command scheduled.race
  award := raises_step scheduled input h hfits

/-- There is no gauge before the first race. -/
theorem metered_opened (race : RaceInstance) : Metered registry (ScheduledRace.opened race).race := by
  have hnone : ∀ uid, (ScheduledRace.opened race).race.stars uid = none :=
    fun _ => congrArg (Option.map Racer.starPointValue) ExtTreeMap.getElem?_empty
  refine ⟨fun uid value gameMode hvalue => ?_, fun uid value hvalue => ?_⟩
  · cases (hnone uid).symm.trans hvalue
  · cases (hnone uid).symm.trans hvalue

end Awards

/-! ## Runs -/

/-- As long as no award wraps around and every pickup of a deck finds the room in the mode of the race, the gauges
stay within the limit of the mode, a spur costs what it costs or throws, and no award lowers a gauge. -/
theorem stars_saturate (registry : Registry) (race : RaceInstance) (inputs : List CourseInput)
    (h : Guarded (courseStep registry) (Unwrapped registry) (ScheduledRace.opened race) inputs) :
    Guarded (courseStep registry) (StarsSound registry) (ScheduledRace.opened race) inputs :=
  @Guarded.imp _ _ _ _ _ (fun scheduled => Metered registry scheduled.race) metered_step starsSound_of_unwrapped _ _
    (metered_opened race) h

/-! ### A race of speed -/

/-- The modes as they are configured. -/
def speedCourse : Registry where
  gameModeInfo mode :=
    if mode = speedMode then
      some
        { starPointsMax := 120000
          goodJumpStarPoints := 12000
          perfectJumpStarPoints := 12000
          perfectJumpMaxBonusCombo := 5
          perfectJumpUnitStarPoints := 1000
          spurConsumeStarPoints := 40000 }
    else none

def speedStart : CourseInput := .room (.start { players := [(100, .solo)], gameMode := speedMode } false)

def speedRate : CourseInput := .star burning (.startingRate 5 { characterOid := 1, unk1 := 1, boostGained := 50000 })

def speedSpur : CourseInput :=
  .star burning (.requestSpur 5 { characterOid := 1, activeBoosters := 1, comboBreak := 0 })

theorem stars_saturate_speed : Guarded (courseStep speedCourse) (StarsSound speedCourse) (ScheduledRace.opened {})
    [speedStart, speedRate, speedSpur] := by
  refine stars_saturate speedCourse {} [speedStart, speedRate, speedSpur]
    ⟨trivial, fun uid racer hown => ?_, trivial, trivial⟩
  have hzero : racer.starPointValue = 0 :=
    @startRace_forall (fun racer => racer.starPointValue = 0) (fun _ _ => rfl) _ _ uid racer (getOwnRacer_racers hown)
  rw [Addable, hzero]
  decide

/-- A client that claims a little less than 2^32 points pays for it. -/
def speedClaim (points : UInt32) : CourseInput :=
  .star burning (.starPointGet 5 { characterOid := 1, gainedStarPoints := points })

theorem star_points_wrap : ¬Guarded (courseStep speedCourse) (StarsSound speedCourse) (ScheduledRace.opened {})
    [speedStart, speedRate, speedClaim 4294957296] := by
  rintro ⟨-, -, hsound, -⟩
  obtain ⟨now, hnow, hle⟩ := hsound.award rfl 100 50000 (by decide +kernel)
  have hwrapped : (run (courseStep speedCourse) (ScheduledRace.opened {})
    [speedStart, speedRate, speedClaim 4294957296]).race.stars 100 = some 40000 := by decide +kernel
  cases hwrapped.symm.trans hnow
  exact absurd hle (by decide)

end Alicia.Magic
