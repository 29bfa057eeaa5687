import Alicia.Quest.Commands
import Alicia.Transition.Run

/-!
# Quest rewards

The ledger beside the records says what a reward may still be paid for: a quest record that was
completed, and the carrots and the items of a daily quest group that was registered.  Payments are
seen from the outside, as changes of the goods of the character.

The handlers of the rewards look at none of this, so rewards are earned in the runs whose requests
ask only for what the ledger has.
-/

namespace Alicia.Quest

open Transition Data Registry Possession Function Storage List Option Bool Effect
open Chrono (TimePoint Seconds)
open DataDirector (characterStorage itemStorage questStorage dailyQuestGroupStorage)

variable (registry : QuestRegistry) (items : ItemRegistry)

/-- What rewards are paid for. -/
structure Ledger where
  /-- Quest records whose reward was paid. -/
  rewarded : List Uid := []
  /-- Registered daily quest groups whose carrots were not paid. -/
  carrotsOpen : List Uid := []
  /-- Registered daily quest groups whose items were not paid. -/
  itemsOpen : List Uid := []

structure World where
  data : DataDirector
  ledger : Ledger := {}

/-- The carrots and the items of a character. -/
def goods (data : DataDirector) (uid : Uid) : Option (Int32 × List Uid × List (Option Item)) :=
  (data.characters uid).map fun character =>
    (character.carrots, character.inventory,
      (character.inventory ++ character.characterEquipment).map data.items)

/-- The first completed quest record of a character for a quest whose reward was not paid. -/
def completedQuest (world : World) (caller : Uid) (questTid : UInt16) : Option Uid :=
  (world.data.characters caller).bind fun character =>
    character.quests.find? fun uid =>
      (world.data.quests uid).any (fun quest =>
        quest.questId = questTid.toUInt32 && quest.isCompleted ≠ .inProgress) &&
        uid ∉ world.ledger.rewarded

/-- The daily quest group of a character. -/
def groupUidOf (data : DataDirector) (caller : Uid) : Option Uid :=
  (data.characters caller).map Character.dailyQuestGroupUid

/-- Every quest of the group has reached its success value. -/
def achieved (group : DailyQuestGroup) : Bool :=
  group.quests.all fun entry =>
    entry.questId = 0 ||
      (registry.quests entry.questId.toUInt32).any fun quest => quest.successValue ≤ entry.progress

/-- The group of the character is achieved, and in the list of groups that are to be paid. -/
def groupEarned (unpaid : List Uid) (data : DataDirector) (caller : Uid) : Bool :=
  (groupUidOf data caller).any fun uid =>
    uid ∈ unpaid && (data.dailyQuestGroups uid).any (achieved registry)

/-- The records after an input. -/
def dataAfter (world : World) (input : QuestInput) : DataDirector :=
  (handleQuest registry items input).final world.data

/-- The input changes the goods of its character. -/
def pays (world : World) (input : QuestInput) : Bool :=
  goods (dataAfter registry items world input) input.1 ≠ goods world.data input.1

/-- The input registers a daily quest group. -/
def registersGroup (uid : Uid) (world : World) (input : QuestInput) : Bool :=
  match input.2 with
  | .registerDailyQuestGroup _ _ =>
    (handleQuest registry items input).returned world.data = some .ok &&
      groupUidOf (dataAfter registry items world input) input.1 = some uid
  | _ => false

/-- The input pays the reward of a quest record. -/
def paysQuest (uid : Uid) (world : World) (input : QuestInput) : Bool :=
  match input.2 with
  | .requestQuestReward questTid _ =>
    pays registry items world input && completedQuest world input.1 questTid = some uid
  | _ => false

/-- The input pays the carrots of a daily quest group. -/
def paysCarrots (uid : Uid) (world : World) (input : QuestInput) : Bool :=
  match input.2 with
  | .updateDailyQuest _ _ =>
    pays registry items world input &&
      groupUidOf (dataAfter registry items world input) input.1 = some uid
  | _ => false

/-- The input pays the items of a daily quest group. -/
def paysItems (uid : Uid) (world : World) (input : QuestInput) : Bool :=
  match input.2 with
  | .requestDailyQuestReward _ _ =>
    pays registry items world input &&
      groupUidOf (dataAfter registry items world input) input.1 = some uid
  | _ => false

/-- The open entries after an input: the registered group is added, and one entry that was paid is
removed. -/
def openAfter (paid : Uid → World → QuestInput → Bool) (unpaid : List Uid) (world : World)
    (input : QuestInput) : List Uid :=
  match groupUidOf (dataAfter registry items world input) input.1 with
  | none => unpaid
  | some uid =>
    (if registersGroup registry items uid world input then [uid] else []) ++
      (if paid uid world input then unpaid.erase uid else unpaid)

/-- The ledger after an input. -/
def ledgerAfter (world : World) (input : QuestInput) : Ledger where
  rewarded :=
    match input.2 with
    | .requestQuestReward questTid _ =>
      if pays registry items world input then
        (completedQuest world input.1 questTid).toList ++ world.ledger.rewarded
      else world.ledger.rewarded
    | _ => world.ledger.rewarded
  carrotsOpen := openAfter registry items (paysCarrots registry items) world.ledger.carrotsOpen world input
  itemsOpen := openAfter registry items (paysItems registry items) world.ledger.itemsOpen world input

def step (world : World) (input : QuestInput) : World where
  data := dataAfter registry items world input
  ledger := ledgerAfter registry items world input

/-- The ledger has what the input may be paid for. -/
def entitled (world : World) (input : QuestInput) : Bool :=
  match input.2 with
  | .requestQuestReward questTid _ => (completedQuest world input.1 questTid).isSome
  | .updateDailyQuest _ _ =>
    groupEarned registry world.ledger.carrotsOpen (dataAfter registry items world input) input.1
  | .requestDailyQuestReward _ _ =>
    groupEarned registry world.ledger.itemsOpen (dataAfter registry items world input) input.1
  | _ => false

/-- Only an entitled input pays, and only its own character. -/
structure Keeps (world : World) (input : QuestInput) : Prop where
  entitled : pays registry items world input = true → entitled registry items world input = true
  others : ∀ uid, uid ≠ input.1 →
    (dataAfter registry items world input).characters uid = world.data.characters uid

/-- The condition under which an input pays only what is earned: a reward is requested that is empty or
that the ledger has. -/
def Earned (world : World) : QuestInput → Prop
  | (caller, .requestQuestReward questTid lookups) =>
    (characterStorage.find lookups.character caller world.data).isSome →
      ∀ quest ∈ registry.quests questTid.toUInt32, ∀ reward ∈ rewardOf registry quest,
        reward.carrots ≠ 0 ∨ reward.items ≠ [] → (completedQuest world caller questTid).isSome
  | (caller, .updateDailyQuest command lookups) =>
    ∀ character ∈ characterStorage.find lookups.character caller world.data,
      if character.dailyQuestGroupUid = invalidUid then
        dailyQuestGroupStorage.fresh lookups.created world.data = none
      else
        ∀ group ∈ dailyQuestGroupStorage.find lookups.group character.dailyQuestGroupUid world.data,
          group.carrotsClaimed = false →
            character.dailyQuestGroupUid ∈ world.ledger.carrotsOpen ∧
              achieved registry (setProgress command.questId command.progress group) = true
  | (caller, .requestDailyQuestReward rewardPoints lookups) =>
    ∀ character ∈ characterStorage.find lookups.character caller world.data,
      ∀ group ∈ dailyQuestGroupStorage.find lookups.group character.dailyQuestGroupUid world.data,
        rewardPoints.toUInt32 ≤ group.rewardPoints →
          ∀ reward ∈ bestReward rewardPoints.toUInt32 registry.rewardPoints, reward.2 ≠ [] →
            character.dailyQuestGroupUid ∈ world.ledger.itemsOpen ∧ achieved registry group = true
  | _ => True

instance Earned.decidable (world : World) : ∀ input, Decidable (Earned registry world input)
  | (_, .requestQuestReward _ _) =>
    @instDecidableForall _ _ _ (@Option.decidableForallMem _ _
      (fun _ => @Option.decidableForallMem _ _ (fun _ => inferInstance) _) _)
  | (_, .updateDailyQuest _ _) =>
    @Option.decidableForallMem _ _ (fun _ => @instDecidableIte _ _ _
      inferInstance inferInstance (Option.decidableForallMem _)) _
  | (_, .requestDailyQuestReward _ _) =>
    @Option.decidableForallMem _ _ (fun _ => @Option.decidableForallMem _ _
      (fun _ => @instDecidableForall _ _ _ (Option.decidableForallMem _)) _) _
  | (_, .registerQuest _ _) => isTrue trivial
  | (_, .registerDailyQuestGroup _ _) => isTrue trivial
  | (_, .giveupQuest) => isTrue trivial
  | (_, .questEvent _ _ _ _) => isTrue trivial

variable {registry items}

/-! ## What the inputs change -/

/-- Other characters are the same. -/
def Others (caller : Uid) (data after : DataDirector) : Prop :=
  ∀ uid, uid ≠ caller → after.characters uid = data.characters uid

instance (caller : Uid) : Std.Refl (Others caller) := ⟨fun _ _ _ => rfl⟩

/-- Nobody's goods change, and no other character. -/
structure Unpaid (caller : Uid) (data after : DataDirector) : Prop where
  goods : goods after caller = goods data caller
  others : Others caller data after

instance (caller : Uid) : Std.Refl (Unpaid caller) := ⟨fun _ => ⟨rfl, fun _ _ => rfl⟩⟩

instance (caller : Uid) : IsTrans DataDirector (Unpaid caller) where
  trans _ _ _ first second :=
    ⟨second.goods.trans first.goods, fun uid huid => (second.others uid huid).trans (first.others uid huid)⟩

theorem others_write (caller : Uid) (character : Character) (data : DataDirector) :
    Others caller data (characterStorage.write caller character data) :=
  fun _ huid => update_of_ne huid _ _

/-- A change of the character that leaves its goods alone. -/
theorem unpaid_mutable (available : Bool) (caller : Uid) {change : Character → Character}
    (hcarrots : ∀ character, (change character).carrots = character.carrots)
    (hinventory : ∀ character, (change character).inventory = character.inventory)
    (hequipment : ∀ character,
      (change character).characterEquipment = character.characterEquipment) :
    Effect.Keeps (Unpaid caller) (characterStorage.mutable available caller change) := by
  refine keeps_mutable fun data character hfind => ⟨?_, others_write caller _ data⟩
  have hcharacter : data.characters caller = some character := (find_eq_some.1 hfind).2.2
  show ((update data.characters caller (some (change character))) caller).map _ = _
  rw [update_self, goods, hcharacter]
  dsimp only [map_some]
  rw [hcarrots, hinventory, hequipment]
  rfl

theorem unpaid_registerQuest (lookups : RegisterQuestLookups) (caller : Uid) (questId : UInt32) :
    Effect.Keeps (Unpaid caller) (handleRegisterQuest lookups caller questId) := by
  refine Effect.Keeps.bind ((keeps_immutable _ _).adaptExcept _) fun character => ?_
  refine Effect.Keeps.bind Effect.Keeps.get fun data => ?_
  split
  · exact Effect.Keeps.pure _
  · refine Effect.Keeps.bind ((keeps_create fun data uid _ =>
      ⟨rfl, fun _ _ => rfl⟩).adaptExcept _) fun created => ?_
    cases created with
    | none => exact Effect.Keeps.throw _
    | some uid =>
      refine Effect.Keeps.bind ((unpaid_mutable _ _ ?_ ?_ ?_).adaptExcept _) fun _ =>
        Effect.Keeps.pure _ <;> exact fun _ => rfl

theorem unpaid_linkGroup (caller uid : Uid) : Effect.Keeps (Unpaid caller) (linkGroup caller uid) := by
  refine (unpaid_mutable _ _ ?_ ?_ ?_).adaptExcept _ <;> exact fun _ => rfl

theorem unpaid_registerDailyQuestGroup (lookups : GroupLookups) (caller : Uid)
    (quests : List DailyQuest) :
    Effect.Keeps (Unpaid caller) (handleRegisterDailyQuestGroup registry lookups caller quests) := by
  refine Effect.Keeps.bind ((keeps_immutable _ _).adaptExcept _) fun character => ?_
  dsimp only
  split
  · refine Effect.Keeps.bind ((keeps_create fun data uid _ =>
      ⟨rfl, fun _ _ => rfl⟩).adaptExcept _) fun created => ?_
    cases created with
    | none => exact Effect.Keeps.throw _
    | some uid => exact Effect.Keeps.bind (unpaid_linkGroup caller uid) fun _ => Effect.Keeps.pure _
  · exact Effect.Keeps.bind ((keeps_mutable fun data group _ =>
      ⟨rfl, fun _ _ => rfl⟩).adaptExcept _) fun _ => Effect.Keeps.pure _

theorem unpaid_questEvent (lookups : GroupLookups) (caller : Uid) (event : QuestEvent)
    (gameMode : GameModeFlag) (value : UInt32) :
    Effect.Keeps (Unpaid caller) (onQuestEvent registry lookups caller event gameMode value) := by
  refine Effect.Keeps.bind Effect.Keeps.get fun data => ?_
  split
  · exact Effect.Keeps.pure _
  · refine Effect.Keeps.bind Effect.Keeps.get fun data => ?_
    split
    · exact Effect.Keeps.pure _
    · exact Effect.Keeps.bind (Effect.Keeps.modify fun data => ⟨rfl, fun _ _ => rfl⟩) fun _ =>
        Effect.Keeps.pure _

/-! ## Rewards -/

variable {world : World} {caller : Uid}

variable {input : QuestInput}

theorem Keeps.of_unpaid (h : Unpaid input.1 world.data (dataAfter registry items world input)) :
    Keeps registry items world input := by
  refine ⟨fun hpays => ?_, h.others⟩
  rw [pays, h.goods] at hpays
  simp at hpays

@[simp] theorem setProgress_carrotsClaimed (questId : UInt16) (progress : UInt32)
    (group : DailyQuestGroup) :
    (setProgress questId progress group).carrotsClaimed = group.carrotsClaimed := by
  rw [setProgress]
  split <;> rfl

variable {group : DailyQuestGroup} {data : DataDirector} {character : Character}

theorem updateGroup_final {command : DailyQuest} {groupUid : Uid} (hvalid : caller ≠ invalidUid)
    (hcharacter : data.characters caller = some character) :
    (updateGroup command caller groupUid group).final data =
      let updated := setProgress command.questId command.progress group
      if group.carrotsClaimed then dailyQuestGroupStorage.write groupUid updated data
      else characterStorage.write caller { character with carrots := character.carrots + 1000 }
        (dailyQuestGroupStorage.write groupUid { updated with carrotsClaimed := true } data) := by
  rw [updateGroup]
  dsimp only
  rw [setProgress_carrotsClaimed]
  cases group.carrotsClaimed with
  | true => rfl
  | false =>
    have hfind : characterStorage.find true caller (dailyQuestGroupStorage.write groupUid
        { setProgress command.questId command.progress group with carrotsClaimed := true } data) =
          some character := find_eq_some.2 ⟨hvalid, rfl, hcharacter⟩
    rw [Bool.not_false, if_pos rfl, if_neg Bool.false_ne_true,
      final_bind_ok (modify_apply _ _), final, adaptExcept_apply,
      mutable_apply, hfind]

variable {unpaid : List Uid}

/-- A group that is open and achieved has earned its reward after its carrots were paid. -/
theorem groupEarned_write {changed : Character}
    (hchanged : changed.dailyQuestGroupUid = character.dailyQuestGroupUid)
    (hopen : character.dailyQuestGroupUid ∈ unpaid) (hachieved : achieved registry group = true) :
    groupEarned registry unpaid (characterStorage.write caller changed
      (dailyQuestGroupStorage.write character.dailyQuestGroupUid group data)) caller = true := by
  have hgroup : groupUidOf (characterStorage.write caller changed
      (dailyQuestGroupStorage.write character.dailyQuestGroupUid group data)) caller =
        some changed.dailyQuestGroupUid := by
    show (update data.characters caller (some changed) caller).map _ = _
    rw [update_self]
    rfl
  have hrecord : (characterStorage.write caller changed (dailyQuestGroupStorage.write
      character.dailyQuestGroupUid group data)).dailyQuestGroups changed.dailyQuestGroupUid =
        some group := by
    rw [hchanged]
    exact update_self character.dailyQuestGroupUid (some group) data.dailyQuestGroups
  rw [groupEarned, hgroup, any_some, hrecord, hchanged]
  simp [hopen, hachieved]

/-- The progress of a group is updated.  Its carrots are paid the first time. -/
theorem keeps_updateDailyQuest (command : DailyQuest) (lookups : GroupLookups)
    (h : Earned registry world (caller, .updateDailyQuest command lookups)) :
    Keeps registry items world (caller, .updateDailyQuest command lookups) := by
  have hafter : dataAfter registry items world (caller, .updateDailyQuest command lookups) =
    (handleUpdateDailyQuest lookups caller command).final world.data := rfl
  rw [handleUpdateDailyQuest, Effect.final, Effect.bind_apply, Effect.adaptExcept_apply,
    immutable_apply] at hafter
  cases hfind : characterStorage.find lookups.character caller world.data with
  | none =>
    rw [hfind] at hafter
    exact .of_unpaid (hafter ▸ refl_of (Unpaid caller) world.data)
  | some character =>
    have hearned := h character hfind
    obtain ⟨hvalid, -, hcharacter⟩ := find_eq_some.1 hfind
    rw [hfind] at hafter
    dsimp only at hafter
    by_cases hgroup : character.dailyQuestGroupUid = invalidUid
    · rw [if_pos hgroup] at hafter hearned
      rw [Effect.bind_apply, Effect.adaptExcept_apply, create_apply, hearned] at hafter
      exact .of_unpaid (hafter ▸ refl_of (Unpaid caller) world.data)
    · rw [if_neg hgroup] at hafter hearned
      rw [Effect.bind_apply, Effect.get_apply] at hafter
      dsimp only at hafter
      cases hfound : dailyQuestGroupStorage.find lookups.group character.dailyQuestGroupUid
          world.data with
      | none =>
        rw [hfound] at hafter
        exact .of_unpaid (hafter ▸ refl_of (Unpaid caller) world.data)
      | some group =>
        rw [hfound] at hafter
        have hfinal : dataAfter registry items world (caller, .updateDailyQuest command lookups) =
            (updateGroup command caller character.dailyQuestGroupUid group).final world.data :=
          hafter.trans (Effect.final_bind_pure _ _ _)
        rw [updateGroup_final hvalid hcharacter] at hfinal
        cases hclaimed : group.carrotsClaimed with
        | true =>
          rw [hclaimed] at hfinal
          exact .of_unpaid (hfinal ▸ ⟨rfl, fun _ _ => rfl⟩)
        | false =>
          obtain ⟨hopen, hachieved⟩ := hearned group hfound hclaimed
          rw [hclaimed] at hfinal
          refine ⟨fun _ => ?_, ?_⟩
          · show groupEarned registry _ (dataAfter registry items world _) caller = true
            rw [hfinal]
            exact groupEarned_write rfl hopen hachieved
          · show Others caller _ (dataAfter registry items world _)
            rw [hfinal]
            exact others_write caller _ _

/-! ### Added items -/

/-- Only the carrots and the inventory of the character and the records of items change. -/
structure Additions (before after : Held Character) : Prop where
  value : after.value = { before.value with
    carrots := after.value.carrots
    inventory := after.value.inventory }
  data : after.data = { before.data with items := after.data.items }

instance : Std.Refl Additions := ⟨fun _ => ⟨rfl, rfl⟩⟩

instance : IsTrans (Held Character) Additions where
  trans first second third h h' :=
    ⟨h'.value.trans (by rw [h.value]), h'.data.trans (by rw [h.data])⟩

theorem additions_addItem (lookups : ItemLookups) (tid : Tid) (amount : Amount) :
    Effect.Keeps Additions (addItem lookups tid amount) := by
  intro held
  rw [Effect.final, addItem_apply]
  cases hadded : added lookups tid amount held with
  | none => exact refl_of Additions held
  | some result =>
    obtain ⟨uid, after⟩ := result
    obtain ⟨hvalue, hdata⟩ := added_frame hadded
    exact ⟨hvalue.trans (by rw [hvalue]), hdata⟩

theorem additions_addRewards (lookups : RewardLookups) (amount : QuestRewardItem → Amount) (n : Nat)
    (rewards : List QuestRewardItem) :
    Effect.Keeps Additions (addRewards lookups amount n rewards) := by
  induction rewards generalizing n with
  | nil => exact Effect.Keeps.pure _
  | cons item rest ih =>
    refine Effect.Keeps.bind (additions_addItem _ _ _) fun uid => ?_
    refine Effect.Keeps.bind Effect.Keeps.get fun held => ?_
    split
    · exact Effect.Keeps.throw _
    · exact ih (n + 1)

theorem additions_payReward (lookups : RewardLookups) (reward : QuestReward) :
    Effect.Keeps Additions (payReward items lookups reward) :=
  Effect.Keeps.bind (Effect.Keeps.modify fun _ => ⟨rfl, rfl⟩) fun _ =>
    additions_addRewards lookups _ 0 reward.items

variable {available : Bool} {unavailable : Failure}
  {consumer : Effect (Held Character) Failure PUnit}

theorem others_access (hconsumer : Effect.Keeps Additions consumer) :
    Effect.Keeps (Others caller) (characterStorage.access unavailable available caller consumer) := by
  refine keeps_access fun data character _ uid huid => ?_
  have hcharacters := congrArg DataDirector.characters (hconsumer ⟨character, data⟩).data
  exact (update_of_ne huid _ _).trans (congrFun hcharacters uid)

theorem access_final (data : DataDirector) :
    (characterStorage.access unavailable available caller consumer).final data =
      match characterStorage.find available caller data with
      | none => data
      | some character => characterStorage.write caller (consumer.final ⟨character, data⟩).value
          (consumer.final ⟨character, data⟩).data := by
  rw [final, Storage.access]
  cases characterStorage.find available caller data with
  | none => rfl
  | some character =>
    dsimp only
    rw [final]
    cases consumer ⟨character, data⟩ <;> rfl

/-- An access that does not change the character or the records changes nothing. -/
theorem access_unchanged (h : ∀ held, consumer.final held = held) :
    (characterStorage.access unavailable available caller consumer).final data = data := by
  rw [access_final]
  cases hfind : characterStorage.find available caller data with
  | none => rfl
  | some character =>
    dsimp only
    rw [h]
    exact write_self (find_eq_some.1 hfind).2.2

/-- A quest that has no reward, or an empty one, pays nothing. -/
theorem payReward_unchanged {lookups : RewardLookups} {reward : QuestReward}
    (hcarrots : reward.carrots = 0) (hitems : reward.items = []) (held : Held Character) :
    (payReward items lookups reward).final held = held := by
  obtain ⟨carrots, rewards⟩ := reward
  cases hcarrots
  cases hitems
  show ({ held with value := { held.value with carrots := held.value.carrots + 0 } } : Held Character) = held
  rw [Int32.add_zero]

theorem keeps_requestQuestReward (questTid : UInt16) (lookups : RewardLookups)
    (h : Earned registry world (caller, .requestQuestReward questTid lookups)) :
    Keeps registry items world (caller, .requestQuestReward questTid lookups) := by
  have hafter : dataAfter registry items world (caller, .requestQuestReward questTid lookups) =
    (handleRequestQuestReward registry items lookups caller questTid).final world.data := rfl
  rw [handleRequestQuestReward] at hafter
  cases hquest : registry.quests questTid.toUInt32 with
  | none =>
    rw [hquest] at hafter
    exact .of_unpaid (hafter ▸ refl_of (Unpaid caller) world.data)
  | some quest =>
    rw [hquest] at hafter
    have hafter := hafter.trans (Effect.final_bind_pure _ _ _)
    cases hreward : rewardOf registry quest with
    | none =>
      rw [hreward] at hafter
      rw [access_unchanged fun _ => rfl] at hafter
      exact .of_unpaid (hafter ▸ refl_of (Unpaid caller) world.data)
    | some reward =>
      rw [hreward] at hafter
      have hothers : Others caller world.data
          (dataAfter registry items world (caller, .requestQuestReward questTid lookups)) := by
        rw [hafter]
        exact others_access (additions_payReward lookups reward) world.data
      refine ⟨fun hpays => ?_, hothers⟩
      by_cases hempty : reward.carrots = 0 ∧ reward.items = []
      · -- Nothing is paid.
        rw [access_unchanged fun held => payReward_unchanged hempty.1 hempty.2 held] at hafter
        rw [pays, hafter] at hpays
        simp at hpays
      · cases hfind : characterStorage.find lookups.character caller world.data with
        | none =>
          rw [access_final, hfind] at hafter
          rw [pays, hafter] at hpays
          simp at hpays
        | some character =>
          refine h (by rw [hfind]; rfl) quest hquest reward hreward ?_
          by_cases hcarrots : reward.carrots = 0
          · exact .inr fun hitems => hempty ⟨hcarrots, hitems⟩
          · exact .inl hcarrots

/-- A group that is open and achieved has earned its reward after its items were added. -/
theorem groupEarned_access (hconsumer : Effect.Keeps Additions consumer)
    (hfind : characterStorage.find available caller data = some character)
    (hgroup : data.dailyQuestGroups character.dailyQuestGroupUid = some group)
    (hopen : character.dailyQuestGroupUid ∈ unpaid) (hachieved : achieved registry group = true) :
    groupEarned registry unpaid
      ((characterStorage.access unavailable available caller consumer).final data) caller = true := by
  rw [access_final, hfind]
  obtain ⟨hvalue, hdata⟩ := hconsumer ⟨character, data⟩
  have hchanged := congrArg Character.dailyQuestGroupUid hvalue
  have hgroups := congrArg DataDirector.dailyQuestGroups hdata
  have hsame : dailyQuestGroupStorage.write character.dailyQuestGroupUid group
      (consumer.final ⟨character, data⟩).data = (consumer.final ⟨character, data⟩).data :=
    write_self ((congrFun hgroups _).trans hgroup)
  show groupEarned registry unpaid (characterStorage.write caller _
    (consumer.final ⟨character, data⟩).data) caller = true
  rw [← hsame]
  exact groupEarned_write hchanged hopen hachieved

theorem keeps_requestDailyQuestReward (rewardPoints : UInt16) (lookups : RewardLookups)
    (h : Earned registry world (caller, .requestDailyQuestReward rewardPoints lookups)) :
    Keeps registry items world (caller, .requestDailyQuestReward rewardPoints lookups) := by
  have hafter : dataAfter registry items world (caller, .requestDailyQuestReward rewardPoints lookups) =
    (handleRequestDailyQuestReward registry lookups caller rewardPoints).final world.data := rfl
  rw [handleRequestDailyQuestReward, Effect.final_bind, Effect.adaptExcept_apply,
    immutable_apply] at hafter
  have hunpaid : dataAfter registry items world
      (caller, .requestDailyQuestReward rewardPoints lookups) = world.data →
        Keeps registry items world (caller, .requestDailyQuestReward rewardPoints lookups) :=
    fun hsame => .of_unpaid (hsame ▸ refl_of (Unpaid caller) world.data)
  cases hfind : characterStorage.find lookups.character caller world.data with
  | none =>
    rw [hfind] at hafter
    exact hunpaid hafter
  | some character =>
    rw [hfind] at hafter
    dsimp only at hafter
    by_cases hinvalid : character.dailyQuestGroupUid = invalidUid
    · rw [if_pos hinvalid] at hafter
      exact hunpaid hafter
    rw [if_neg hinvalid, Effect.final_bind, Effect.get_apply] at hafter
    dsimp only at hafter
    cases hgroup : dailyQuestGroupStorage.find lookups.group character.dailyQuestGroupUid
        world.data with
    | none =>
      rw [hgroup] at hafter
      exact hunpaid hafter
    | some group =>
      rw [hgroup] at hafter
      dsimp only at hafter
      by_cases hpoints : group.rewardPoints < rewardPoints.toUInt32
      · rw [if_pos hpoints] at hafter
        exact hunpaid hafter
      rw [if_neg hpoints] at hafter
      cases hbest : bestReward rewardPoints.toUInt32 registry.rewardPoints with
      | none =>
        rw [hbest] at hafter
        exact hunpaid hafter
      | some reward =>
        rw [hbest] at hafter
        have hafter := hafter.trans (Effect.final_bind_pure _ _ _)
        have hadds := additions_addRewards lookups (fun item => .count item.count) 0 reward.2
        by_cases hempty : reward.2 = []
        · rw [hempty, access_unchanged fun _ => rfl] at hafter
          exact hunpaid hafter
        · obtain ⟨hopen, hachieved⟩ := h character hfind group hgroup
            (UInt32.not_lt.1 hpoints) reward hbest hempty
          refine ⟨fun _ => ?_, ?_⟩
          · show groupEarned registry _ (dataAfter registry items world _) caller = true
            rw [hafter]
            have hcharacter := find_eq_some.1 hfind
            exact groupEarned_access hadds
              (find_eq_some.2 ⟨hcharacter.1, rfl, hcharacter.2.2⟩) (find_eq_some.1 hgroup).2.2
              hopen hachieved
          · rw [hafter]
            exact others_access hadds world.data

/-- An input for which the reward is earned, or that asks for none, pays nothing else. -/
theorem keeps_of_earned (world : World) (input : QuestInput) (h : Earned registry world input) :
    Keeps registry items world input := by
  obtain ⟨caller, command⟩ := input
  cases command with
  | registerQuest questId lookups =>
    exact .of_unpaid (unpaid_registerQuest lookups caller questId world.data)
  | registerDailyQuestGroup quests lookups =>
    exact .of_unpaid (unpaid_registerDailyQuestGroup lookups caller quests world.data)
  | updateDailyQuest quest lookups => exact keeps_updateDailyQuest quest lookups h
  | requestQuestReward questTid lookups => exact keeps_requestQuestReward questTid lookups h
  | requestDailyQuestReward rewardPoints lookups =>
    exact keeps_requestDailyQuestReward rewardPoints lookups h
  | giveupQuest => exact .of_unpaid (refl_of (Unpaid caller) world.data)
  | questEvent event gameMode value lookups =>
    exact .of_unpaid (unpaid_questEvent lookups caller event gameMode value world.data)

/-! ## The ledger -/

/-- Each entry of the ledger is from a registration, and is paid once. -/
theorem count_openAfter {paid : Uid → World → QuestInput → Bool}
    (hpaid : ∀ uid world input, paid uid world input = true →
      groupUidOf (dataAfter registry items world input) input.1 = some uid) {world : World}
    (uid : Uid) (hopen : paid uid world input = true → uid ∈ unpaid) :
    (openAfter registry items paid unpaid world input).count uid + (paid uid world input).toNat =
      unpaid.count uid + (registersGroup registry items uid world input).toNat := by
  have hregisters : registersGroup registry items uid world input = true →
      groupUidOf (dataAfter registry items world input) input.1 = some uid := by
    intro h
    rw [registersGroup] at h
    split at h
    · simp only [and_eq_true, decide_eq_true_eq] at h
      exact h.2
    · cases h
  rw [openAfter]
  cases hgroup : groupUidOf (dataAfter registry items world input) input.1 with
  | none =>
    have hnot : paid uid world input = false := by
      rw [← not_eq_true]
      intro h
      cases hgroup.symm.trans (hpaid uid world input h)
    have hnone : registersGroup registry items uid world input = false := by
      rw [← not_eq_true]
      intro h
      cases hgroup.symm.trans (hregisters h)
    rw [hnot, hnone]
  | some other =>
    dsimp only
    by_cases huid : other = uid
    · subst huid
      rw [count_append]
      cases hreg : registersGroup registry items other world input with
      | false =>
        cases hpay : paid other world input with
        | false => simp
        | true =>
          have hpos := count_pos_iff.2 (hopen hpay)
          simp only [false_eq_true, ite_false, ite_true, count_nil,
            count_erase_self, toNat_true, toNat_false]
          omega
      | true =>
        cases hpay : paid other world input with
        | false => simp [Nat.add_comm]
        | true =>
          have hpos := count_pos_iff.2 (hopen hpay)
          simp only [ite_true, count_singleton_self, count_erase_self,
            toNat_true]
          omega
    · have hnot : paid uid world input = false := by
        rw [← not_eq_true]
        intro h
        exact huid (some_inj.1 (hgroup.symm.trans (hpaid uid world input h)))
      have hnone : registersGroup registry items uid world input = false := by
        rw [← not_eq_true]
        intro h
        exact huid (some_inj.1 (hgroup.symm.trans (hregisters h)))
      have hcount : (if registersGroup registry items other world input then [other] else
          ([] : List Uid)).count uid = 0 := by
        split
        · exact count_singleton.trans (if_neg (by simp [huid]))
        · rfl
      have herase : (if paid other world input then unpaid.erase other else unpaid).count uid =
          unpaid.count uid := by
        split
        · exact count_erase_of_ne (Ne.symm huid) 
        · rfl
      rw [hnot, hnone, count_append, hcount, herase, Nat.zero_add]

theorem paysCarrots_group (uid : Uid) (world : World) (input : QuestInput)
    (h : paysCarrots registry items uid world input = true) :
    groupUidOf (dataAfter registry items world input) input.1 = some uid := by
  rw [paysCarrots] at h
  split at h
  · simp only [and_eq_true, decide_eq_true_eq] at h
    exact h.2
  · cases h

theorem paysItems_group (uid : Uid) (world : World) (input : QuestInput)
    (h : paysItems registry items uid world input = true) :
    groupUidOf (dataAfter registry items world input) input.1 = some uid := by
  rw [paysItems] at h
  split at h
  · simp only [and_eq_true, decide_eq_true_eq] at h
    exact h.2
  · cases h

theorem mem_of_groupEarned {caller uid : Uid} (h : groupEarned registry unpaid data caller = true)
    (hgroup : groupUidOf data caller = some uid) :
    uid ∈ unpaid := by
  rw [groupEarned, hgroup, any_some, and_eq_true, decide_eq_true_eq] at h
  exact h.1

/-- Carrots that an entitled input pays are open. -/
theorem Keeps.carrots_open {world : World} (hkeeps : Keeps registry items world input) (uid : Uid)
    (h : paysCarrots registry items uid world input = true) : uid ∈ world.ledger.carrotsOpen := by
  have hgroup := paysCarrots_group uid world input h
  have hentitled := hkeeps.entitled
  rw [paysCarrots] at h
  rw [Quest.entitled] at hentitled
  cases hcommand : input.2 with
  | updateDailyQuest quest lookups =>
    rw [hcommand] at h hentitled
    simp only [and_eq_true] at h
    exact mem_of_groupEarned (hentitled h.1) hgroup
  | _ =>
    rw [hcommand] at h
    cases h

/-- Items that an entitled input pays are open. -/
theorem Keeps.items_open {world : World} (hkeeps : Keeps registry items world input) (uid : Uid)
    (h : paysItems registry items uid world input = true) : uid ∈ world.ledger.itemsOpen := by
  have hgroup := paysItems_group uid world input h
  have hentitled := hkeeps.entitled
  rw [paysItems] at h
  rw [Quest.entitled] at hentitled
  cases hcommand : input.2 with
  | requestDailyQuestReward rewardPoints lookups =>
    rw [hcommand] at h hentitled
    simp only [and_eq_true] at h
    exact mem_of_groupEarned (hentitled h.1) hgroup
  | _ =>
    rw [hcommand] at h
    cases h

/-- The quest record was rewarded, as a number. -/
def rewardedOnce (uid : Uid) (world : World) : Nat := (decide (uid ∈ world.ledger.rewarded)).toNat

/-- A quest record that is paid was not rewarded before, and is afterwards. -/
theorem rewardedOnce_step (uid : Uid) (world : World) (input : QuestInput) :
    rewardedOnce uid (step registry items world input) =
      rewardedOnce uid world + (paysQuest registry items uid world input).toNat := by
  rw [rewardedOnce, rewardedOnce, step, ledgerAfter, paysQuest]
  dsimp only
  cases hcommand : input.2 with
  | requestQuestReward questTid lookups =>
    dsimp only
    cases hpays : pays registry items world input with
    | false => rfl
    | true =>
      obtain hquest | ⟨other, hquest⟩ :=
        eq_none_or_eq_some (completedQuest world input.1 questTid)
      · simp [hquest]
      · simp only [hquest]
        have hnew : other ∉ world.ledger.rewarded := by
          obtain ⟨character, -, hfind⟩ := bind_eq_some_iff.1 hquest
          have hother := List.find?_some hfind
          rw [and_eq_true, decide_eq_true_eq] at hother
          exact hother.2
        by_cases huid : other = uid
        · subst huid
          simp [hnew]
        · simp [huid, Ne.symm huid]
  | _ => rfl

/-! ## Runs -/

variable (registry items) in
/-- In a run, each quest record is rewarded at most once, and the carrots and items of a group are paid
at most once for each time it was registered, or that was open before. -/
structure PaidOnce (world : World) (inputs : List QuestInput) (uid : Uid) : Prop where
  quest : rewardedOnce uid world +
    occurrences (step registry items) (paysQuest registry items uid) world inputs ≤ 1
  carrots : occurrences (step registry items) (paysCarrots registry items uid) world inputs ≤
    world.ledger.carrotsOpen.count uid +
      occurrences (step registry items) (registersGroup registry items uid) world inputs
  items : occurrences (step registry items) (paysItems registry items uid) world inputs ≤
    world.ledger.itemsOpen.count uid +
      occurrences (step registry items) (registersGroup registry items uid) world inputs

/-- A run in which only entitled inputs pay pays everything at most once. -/
theorem paidOnce_of_keeps {world : World} {inputs : List QuestInput}
    (h : Guarded (step registry items) (Keeps registry items) world inputs) (uid : Uid) :
    PaidOnce registry items world inputs uid := by
  have hquest : rewardedOnce uid (run (step registry items) world inputs) +
      occurrences (step registry items) (fun _ _ => false) world inputs = rewardedOnce uid world +
        occurrences (step registry items) (paysQuest registry items uid) world inputs :=
    h.balance (rewardedOnce uid) fun world input _ => rewardedOnce_step uid world input
  have hcarrots : (run (step registry items) world inputs).ledger.carrotsOpen.count uid +
      occurrences (step registry items) (paysCarrots registry items uid) world inputs =
        world.ledger.carrotsOpen.count uid +
          occurrences (step registry items) (registersGroup registry items uid) world inputs :=
    h.balance (fun world => world.ledger.carrotsOpen.count uid) fun _ _ hkeeps =>
      count_openAfter paysCarrots_group uid (hkeeps.carrots_open uid)
  have hitems : (run (step registry items) world inputs).ledger.itemsOpen.count uid +
      occurrences (step registry items) (paysItems registry items uid) world inputs =
        world.ledger.itemsOpen.count uid +
          occurrences (step registry items) (registersGroup registry items uid) world inputs :=
    h.balance (fun world => world.ledger.itemsOpen.count uid) fun _ _ hkeeps =>
      count_openAfter paysItems_group uid (hkeeps.items_open uid)
  have hbound : rewardedOnce uid (run (step registry items) world inputs) ≤ 1 := toNat_le _
  have hnever := occurrences_never (step registry items) world inputs
  refine ⟨?_, ?_, ?_⟩ <;> omega

/-- In a run whose inputs ask only for rewards that are earned, rewards are paid when they are
earned, and each at most once. -/
theorem quest_rewards_once (world : World) (inputs : List QuestInput)
    (h : Guarded (step registry items) (Earned registry) world inputs) :
    Guarded (step registry items) (Keeps registry items) world inputs ∧
      ∀ uid, PaidOnce registry items world inputs uid := by
  have hkeeps : Guarded (step registry items) (Keeps registry items) world inputs :=
    Guarded.mono keeps_of_earned h
  exact ⟨hkeeps, fun uid => paidOnce_of_keeps hkeeps uid⟩

/-- A quest with carrots, a daily quest, and an item for its points. -/
def board : QuestRegistry where
  quests
    | 7 => some { rewardId := 1 }
    | 9 => some { gameModeFlag := .any, successValue := 2, function := .perfectJump, rewardPoint := 5 }
    | _ => none
  rewards rewardId := if rewardId = 1 then some { carrots := 500 } else none
  rewardPoints := [(5, [⟨100, 1⟩])]

/-- A character with a completed quest record, unless `status` is another one. -/
def diary (status : QuestStatus) : World where
  data := {
    characters := fun uid => if uid = 1 then some { uid := 1, quests := [3] } else none
    quests := fun uid => if uid = 3 then some { uid := 3, questId := 7, isCompleted := status } else none }

/-- The inputs that complete the daily quest and ask for all rewards. -/
def diaryInputs : List QuestInput :=
  [(1, .requestQuestReward 7 {}),
    (1, .registerDailyQuestGroup [{ questId := 9 }] { created := some 4 }),
    (1, .questEvent .perfectJump .any 0 {}),
    (1, .questEvent .perfectJump .any 0 {}),
    (1, .updateDailyQuest { questId := 9, progress := 2 } {}),
    (1, .requestDailyQuestReward 5 { item := fun _ => { created := some 8 } })]

theorem quest_rewards_once_diary :
    Guarded (step board fun _ => none) (Keeps board fun _ => none) (diary .completed) diaryInputs ∧
      ∀ uid, PaidOnce board (fun _ => none) (diary .completed) diaryInputs uid :=
  quest_rewards_once (diary .completed) diaryInputs (by decide +kernel)

/-- The reward of a quest record that is in progress is paid. -/
theorem unfinished_quest_paid :
    ¬(Guarded (step board fun _ => none) (Keeps board fun _ => none) (diary .inProgress)
        [(1, .requestQuestReward 7 {})] ∧
      ∀ uid, PaidOnce board (fun _ => none) (diary .inProgress) [(1, .requestQuestReward 7 {})] uid) := by
  rintro ⟨⟨hkeeps, -⟩, -⟩
  have hpays : pays board (fun _ => none) (diary .inProgress) (1, .requestQuestReward 7 {}) = true := by
    decide +kernel
  exact absurd (hkeeps.entitled hpays) (by decide +kernel)

end Alicia.Quest
