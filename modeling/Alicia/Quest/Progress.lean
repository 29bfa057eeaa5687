import Alicia.Quest.Commands
import Alicia.Transition.Run

/-!
# The progress of daily quests

A quest event advances every slot of a daily quest group that matches it and is not satisfied, and tells the client.
A run of events counts a slot up to its success value, and announces once that it is completed.
-/

namespace Alicia.Quest

open Transition Effect Data Registry Possession
open DataDirector (characterStorage dailyQuestGroupStorage)

/-- The underlying value of a `QuestRewardType`. -/
structure QuestRewardType where
  raw : UInt8
  deriving DecidableEq

namespace QuestRewardType
def none : QuestRewardType := ⟨0⟩
def carrots : QuestRewardType := ⟨1⟩
def exp : QuestRewardType := ⟨2⟩
end QuestRewardType

structure ObjectiveProgress where
  isCompleted : Bool := false
  progress : UInt32 := 0
  deriving DecidableEq

/-- `AcCmdRCUpdateDailyQuestNotify` -/
structure UpdateDailyQuestNotify where
  characterUid : Uid
  questId : UInt16
  objectiveProgress : ObjectiveProgress
  carrotsReward : UInt32
  rewardType : QuestRewardType
  unk2 : UInt32 := 0
  mountExp : UInt32
  deriving DecidableEq

/-- A quest event, and which records are available then. -/
structure EventInput where
  event : QuestEvent
  gameMode : GameModeFlag
  value : UInt32 := 0
  lookups : GroupLookups := {}

section Events

variable (registry : QuestRegistry) (caller : Uid)

/-- What the client is told about a slot that has advanced. -/
def notifyOf (group : DailyQuestGroup) (quest : QuestTemplate) (entry : DailyQuestEntry) : UpdateDailyQuestNotify :=
  let completed : Bool := entry.progress ≥ quest.successValue
  let rewardType : QuestRewardType := if completed then ⟨group.rewardType⟩ else .none
  { characterUid := caller
    questId := entry.questId
    objectiveProgress := { isCompleted := completed, progress := entry.progress }
    carrotsReward := if rewardType = .carrots then quest.rewardGameMoney else 0
    rewardType := rewardType
    mountExp := if rewardType = .exp then quest.rewardExp else 0 }

/-- One step of the loop over the slots. -/
def updateEntry (group : DailyQuestGroup) (input : EventInput) (entry : DailyQuestEntry) :
    DailyQuestEntry × Option UpdateDailyQuestNotify :=
  if entry.questId = 0 then (entry, none)
  else
    match registry.quests entry.questId.toUInt32 with
    | none => (entry, none)
    | some quest =>
      if entry.progress ≥ quest.successValue then (entry, none)
      else if !isModeMatch quest.gameModeFlag input.gameMode then (entry, none)
      else if !isEventMatch quest.function input.event quest.functionValue input.value then (entry, none)
      else
        let advanced := { entry with progress := min (entry.progress + 1) quest.successValue }
        (advanced, some (notifyOf caller group quest advanced))

/-- `OnQuestEvent`, with the notifications that it returns. -/
def updateQuests (input : EventInput) : Effect DataDirector Failure (List UpdateDailyQuestNotify) := do
  match characterStorage.find input.lookups.character caller (← get) with
  | none => return []
  | some character =>
  match dailyQuestGroupStorage.find input.lookups.group character.dailyQuestGroupUid (← get) with
  | none => return []
  | some group =>
    let updated := group.quests.map (updateEntry registry caller group input)
    modify (dailyQuestGroupStorage.write character.dailyQuestGroupUid
      { group with quests := updated.map Prod.fst })
    return updated.toList.filterMap Prod.snd

/-- The records after an event. -/
def eventStep (data : DataDirector) (input : EventInput) : DataDirector :=
  (updateQuests registry caller input).final data

/-- The daily quest group of a character. -/
def groupOf (data : DataDirector) : Option DailyQuestGroup :=
  (data.characters caller).bind fun character => data.dailyQuestGroups character.dailyQuestGroupUid

/-- A slot of the group. -/
def slotOf (data : DataDirector) (i : Fin 3) : Option DailyQuestEntry :=
  (groupOf caller data).map fun group => group.quests.get i

/-- The records of the character and of the group are available to an event. -/
def Reaches (data : DataDirector) (input : EventInput) : Prop :=
  ∃ character ∈ characterStorage.find input.lookups.character caller data,
    (dailyQuestGroupStorage.find input.lookups.group character.dailyQuestGroupUid data).isSome = true

/-- What an event tells about a slot. -/
def toldOf (data : DataDirector) (input : EventInput) (i : Fin 3) : Option UpdateDailyQuestNotify :=
  match characterStorage.find input.lookups.character caller data with
  | none => none
  | some character =>
    (dailyQuestGroupStorage.find input.lookups.group character.dailyQuestGroupUid data).bind fun group =>
      (updateEntry registry caller group input (group.quests.get i)).2

/-- What the events of a run tell about a slot. -/
def toldIn (i : Fin 3) : DataDirector → List EventInput → List UpdateDailyQuestNotify
  | _, [] => []
  | data, input :: rest =>
    (toldOf registry caller data input i).toList ++ toldIn i (eventStep registry caller data input) rest

end Events

/-! ## The purpose of the events -/

section Purpose

variable (registry : QuestRegistry)

/-- The quest of a slot is known and has not reached its success value. -/
def Unsatisfied (entry : DailyQuestEntry) : Prop :=
  entry.questId ≠ 0 ∧ ∃ quest ∈ registry.quests entry.questId.toUInt32, entry.progress < quest.successValue

/-- The mode and the function of the quest of a slot match an event. -/
def Matches (input : EventInput) (entry : DailyQuestEntry) : Prop :=
  ∃ quest ∈ registry.quests entry.questId.toUInt32, isModeMatch quest.gameModeFlag input.gameMode = true ∧
    isEventMatch quest.function input.event quest.functionValue input.value = true

variable (caller : Uid) (i : Fin 3)

/-- A slot advances by one exactly if an unsatisfied quest of it matches an event that reaches the group.  The
notifications are those of the slots, in their order. -/
structure Rises (data : DataDirector) (input : EventInput) : Prop where
  slot : ∀ entry ∈ slotOf caller data i, ∃ after ∈ slotOf caller (eventStep registry caller data input) i,
    (Reaches caller data input ∧ Matches registry input entry ∧ Unsatisfied registry entry →
      after.questId = entry.questId ∧ after.progress.toNat = entry.progress.toNat + 1) ∧
    (¬(Reaches caller data input ∧ Matches registry input entry ∧ Unsatisfied registry entry) → after = entry)
  told : (updateQuests registry caller input).returned data =
    some ((List.finRange 3).filterMap (toldOf registry caller data input))

/-- The notifications about a slot which say that it is completed. -/
def completions (data : DataDirector) (inputs : List EventInput) : Nat :=
  (toldIn registry caller i data inputs).countP fun notify => notify.objectiveProgress.isCompleted

/-- What a run makes of a slot.  It is announced once that a slot is completed, if it comes to that. -/
structure Counts (data : DataDirector) (inputs : List EventInput) (start finish : DailyQuestEntry) : Prop where
  quest : finish.questId = start.questId
  rising : start.progress ≤ finish.progress
  bounded : ∀ quest ∈ registry.quests start.questId.toUInt32,
    finish.progress.toNat ≤ max start.progress.toNat quest.successValue.toNat
  once : Unsatisfied registry start → ¬Unsatisfied registry finish → completions registry caller i data inputs = 1
  otherwise : ¬(Unsatisfied registry start ∧ ¬Unsatisfied registry finish) →
    completions registry caller i data inputs = 0

end Purpose

/-! ## One event -/

section Step

variable {registry : QuestRegistry} {caller : Uid} {group : DailyQuestGroup} {input : EventInput}
  {entry : DailyQuestEntry} {data : DataDirector} {i : Fin 3}

theorem toNat_succ_of_lt {progress bound : UInt32} (h : progress < bound) :
    (progress + 1).toNat = progress.toNat + 1 := by
  have hlt := UInt32.lt_iff_toNat_lt.1 h
  have hbound := bound.toNat_lt
  rw [UInt32.toNat_add]
  exact Nat.mod_eq_of_lt (by simp; omega)

/-- A slot advances, or nothing is made of the event. -/
theorem updateEntry_cases (registry : QuestRegistry) (caller : Uid) (group : DailyQuestGroup) (input : EventInput)
    (entry : DailyQuestEntry) :
    (∃ quest, registry.quests entry.questId.toUInt32 = some quest ∧ entry.progress < quest.successValue ∧
      (Matches registry input entry ∧ Unsatisfied registry entry) ∧
      updateEntry registry caller group input entry =
        ({ entry with progress := entry.progress + 1 },
          some (notifyOf caller group quest { entry with progress := entry.progress + 1 }))) ∨
    ¬(Matches registry input entry ∧ Unsatisfied registry entry) ∧
      updateEntry registry caller group input entry = (entry, none) := by
  unfold updateEntry
  by_cases hzero : entry.questId = 0
  · rw [if_pos hzero]
    exact .inr ⟨fun h => h.2.1 hzero, rfl⟩
  rw [if_neg hzero]
  cases hquest : registry.quests entry.questId.toUInt32 with
  | none =>
    refine .inr ⟨fun h => ?_, rfl⟩
    obtain ⟨-, -, quest, hmem, -⟩ := h
    simp [hquest] at hmem
  | some quest =>
    have hmatches : Matches registry input entry ↔ isModeMatch quest.gameModeFlag input.gameMode = true ∧
        isEventMatch quest.function input.event quest.functionValue input.value = true := by
      simp [Matches, hquest]
    have hunsatisfied : Unsatisfied registry entry ↔ entry.progress < quest.successValue := by
      simp [Unsatisfied, hquest, hzero]
    rw [hmatches, hunsatisfied]
    dsimp only
    by_cases hdone : entry.progress ≥ quest.successValue
    · rw [if_pos hdone]
      exact .inr ⟨fun h => UInt32.not_lt.2 hdone h.2, rfl⟩
    rw [if_neg hdone]
    have hlt : entry.progress < quest.successValue := UInt32.not_le.1 hdone
    cases hmode : isModeMatch quest.gameModeFlag input.gameMode with
    | false => exact .inr ⟨fun h => Bool.false_ne_true h.1.1, rfl⟩
    | true =>
      cases hevent : isEventMatch quest.function input.event quest.functionValue input.value with
      | false => exact .inr ⟨fun h => Bool.false_ne_true h.1.2, rfl⟩
      | true =>
        have hmin : min (entry.progress + 1) quest.successValue = entry.progress + 1 := by
          refine if_pos (UInt32.le_iff_toNat_le.2 ?_)
          rw [toNat_succ_of_lt hlt]
          exact UInt32.lt_iff_toNat_lt.1 hlt
        refine .inl ⟨quest, rfl, hlt, ⟨⟨rfl, rfl⟩, hlt⟩, ?_⟩
        simp [hmin]

theorem updateEntry_fst (registry : QuestRegistry) (caller : Uid) (group : DailyQuestGroup) (input : EventInput)
    (entry : DailyQuestEntry) : (updateEntry registry caller group input entry).1 =
      advanceEntry registry input.event input.gameMode input.value entry := by
  unfold updateEntry advanceEntry
  by_cases hzero : entry.questId = 0
  · simp [hzero]
  · cases hquest : registry.quests entry.questId.toUInt32 with
    | none => simp [hzero]
    | some quest =>
      simp only [if_neg hzero]
      split_ifs <;> rfl

/-- The group that an event reaches is updated. -/
theorem updateQuests_apply (registry : QuestRegistry) (caller : Uid) (data : DataDirector) (input : EventInput) :
    (¬Reaches caller data input ∧ updateQuests registry caller input data = .ok [] data ∧
      ∀ i, toldOf registry caller data input i = none) ∨
    ∃ character group, Reaches caller data input ∧ data.characters caller = some character ∧
      data.dailyQuestGroups character.dailyQuestGroupUid = some group ∧
      updateQuests registry caller input data =
        .ok ((group.quests.map (updateEntry registry caller group input)).toList.filterMap Prod.snd)
          (dailyQuestGroupStorage.write character.dailyQuestGroupUid
            { group with quests := (group.quests.map (updateEntry registry caller group input)).map Prod.fst } data) ∧
      ∀ i, toldOf registry caller data input i = (updateEntry registry caller group input (group.quests.get i)).2 := by
  unfold updateQuests Reaches toldOf
  rw [bind_apply, get_apply]
  dsimp only
  cases hcharacter : characterStorage.find input.lookups.character caller data with
  | none => exact .inl ⟨by simp, rfl, fun _ => rfl⟩
  | some character =>
    dsimp only
    rw [bind_apply, get_apply]
    dsimp only
    cases hgroup : dailyQuestGroupStorage.find input.lookups.group character.dailyQuestGroupUid data with
    | none => exact .inl ⟨by simp [hgroup], rfl, fun _ => rfl⟩
    | some group =>
      exact .inr ⟨character, group, ⟨character, rfl, by rw [hgroup]; rfl⟩,
        (Storage.find_eq_some.1 hcharacter).2.2, (Storage.find_eq_some.1 hgroup).2.2, rfl, fun _ => rfl⟩

theorem groupOf_write {character : Character} (hcharacter : data.characters caller = some character)
    (group : DailyQuestGroup) :
    groupOf caller (dailyQuestGroupStorage.write character.dailyQuestGroupUid group data) = some group := by
  have hkept : (dailyQuestGroupStorage.write character.dailyQuestGroupUid group data).characters caller =
      some character := hcharacter
  rw [groupOf, hkept]
  exact Function.update_self ..

theorem get_map {α β : Type} {n : Nat} (f : α → β) (entries : Vector α n) (i : Fin n) :
    (entries.map f).get i = f (entries.get i) := Vector.getElem_map f i.isLt

/-- What one event does to a slot, and tells about it. -/
theorem slot_cases (hslot : slotOf caller data i = some entry) (input : EventInput) :
    (∃ quest notify, registry.quests entry.questId.toUInt32 = some quest ∧ entry.progress < quest.successValue ∧
      (Reaches caller data input ∧ Matches registry input entry ∧ Unsatisfied registry entry) ∧
      slotOf caller (eventStep registry caller data input) i =
        some { entry with progress := entry.progress + 1 } ∧
      toldOf registry caller data input i = some notify ∧
      notify.objectiveProgress.isCompleted = decide (quest.successValue ≤ entry.progress + 1)) ∨
    ¬(Reaches caller data input ∧ Matches registry input entry ∧ Unsatisfied registry entry) ∧
      slotOf caller (eventStep registry caller data input) i = some entry ∧
      toldOf registry caller data input i = none := by
  rcases updateQuests_apply registry caller data input with ⟨hreaches, happly, htold⟩ |
    ⟨character, group, hreaches, hcharacter, hgroup, happly, htold⟩
  · refine .inr ⟨fun h => hreaches h.1, ?_, htold i⟩
    rw [eventStep, final_ok happly]
    exact hslot
  · have hentry : group.quests.get i = entry := by
      simpa [slotOf, groupOf, hcharacter, hgroup] using hslot
    have hafter : slotOf caller (eventStep registry caller data input) i =
        some (updateEntry registry caller group input entry).1 := by
      rw [eventStep, final_ok happly]
      simp [slotOf, groupOf_write hcharacter, ← hentry, get_map]
    rw [hafter, htold, hentry]
    rcases updateEntry_cases registry caller group input entry with
      ⟨quest, hquest, hlt, hadvances, hupdate⟩ | ⟨hstays, hupdate⟩
    · exact .inl ⟨quest, _, hquest, hlt, ⟨hreaches, hadvances⟩, by rw [hupdate], by rw [hupdate], rfl⟩
    · exact .inr ⟨fun h => hstays h.2, by rw [hupdate], by rw [hupdate]⟩

/-- Apart from the notifications, the event is the one of `onQuestEvent`. -/
theorem final_onQuestEvent (registry : QuestRegistry) (caller : Uid) (data : DataDirector) (input : EventInput) :
    (onQuestEvent registry input.lookups caller input.event input.gameMode input.value).final data =
      eventStep registry caller data input := by
  unfold onQuestEvent eventStep updateQuests
  rw [final_bind_ok (get_apply _), final_bind_ok (get_apply _)]
  cases characterStorage.find input.lookups.character caller data with
  | none => rfl
  | some character =>
    dsimp only
    rw [final_bind_ok (get_apply _), final_bind_ok (get_apply _)]
    cases dailyQuestGroupStorage.find input.lookups.group character.dailyQuestGroupUid data with
    | none => rfl
    | some group =>
      have hslots : (group.quests.map (updateEntry registry caller group input)).map Prod.fst =
          group.quests.map (advanceEntry registry input.event input.gameMode input.value) := by
        rw [Vector.map_map]
        exact congrArg (Vector.map · group.quests) (funext (updateEntry_fst registry caller group input))
      dsimp only
      rw [hslots]
      rfl

theorem rises (registry : QuestRegistry) (caller : Uid) (i : Fin 3) (data : DataDirector) (input : EventInput) :
    Rises registry caller i data input := by
  constructor
  · intro entry hslot
    rcases slot_cases hslot input with ⟨quest, notify, -, hlt, hadvances, hafter, -⟩ | ⟨hstays, hafter, -⟩
    · exact ⟨_, hafter, fun _ => ⟨rfl, toNat_succ_of_lt hlt⟩, fun h => absurd hadvances h⟩
    · exact ⟨_, hafter, fun h => absurd h hstays, fun _ => rfl⟩
  · rcases updateQuests_apply registry caller data input with ⟨-, happly, htold⟩ | ⟨_, group, -, -, -, happly, htold⟩
    · rw [returned_ok happly]
      exact congrArg some (List.filterMap_eq_nil_iff.2 fun j _ => htold j).symm
    · rw [returned_ok happly]
      have hslots : (group.quests.map (updateEntry registry caller group input)).toList =
          (List.finRange 3).map fun i => updateEntry registry caller group input (group.quests.get i) := by
        refine List.ext_getElem (by simp) fun n hn hn' => ?_
        simp only [Vector.getElem_toList, Vector.getElem_map, List.getElem_map, List.getElem_finRange]
        rfl
      rw [hslots, List.filterMap_map, funext htold]
      rfl

end Step

/-! ## Runs of events -/

section Runs

variable {registry : QuestRegistry} {caller : Uid} {i : Fin 3}

/-- A slot that has advanced is unsatisfied only if it was before. -/
theorem Unsatisfied.before {start finish : DailyQuestEntry} (h : Unsatisfied registry finish)
    (hquest : finish.questId = start.questId) (hle : start.progress ≤ finish.progress) :
    Unsatisfied registry start := by
  obtain ⟨hzero, quest, hmem, hlt⟩ := h
  rw [hquest] at hzero hmem
  exact ⟨hzero, quest, hmem, UInt32.lt_of_le_of_lt hle hlt⟩

theorem counts (inputs : List EventInput) (data : DataDirector) (start : DailyQuestEntry)
    (hslot : slotOf caller data i = some start) :
    ∃ finish ∈ slotOf caller (run (eventStep registry caller) data inputs) i,
      Counts registry caller i data inputs start finish := by
  induction inputs generalizing data start with
  | nil =>
    refine ⟨start, hslot, rfl, UInt32.le_refl _, fun quest _ => ?_, fun h hnot => absurd h hnot, fun _ => rfl⟩
    exact Nat.le_max_left _ _
  | cons input rest ih =>
    rcases slot_cases hslot input with
      ⟨quest, notify, hquest, hlt, hadvances, hmiddle, htold, hcompleted⟩ | ⟨-, hmiddle, htold⟩
    · have hnext := toNat_succ_of_lt hlt
      have hltNat := UInt32.lt_iff_toNat_lt.1 hlt
      obtain ⟨finish, hfinish, h⟩ := ih _ _ hmiddle
      have hquestId : finish.questId = start.questId := h.quest
      have hrising : (start.progress + 1).toNat ≤ finish.progress.toNat := UInt32.le_iff_toNat_le.1 h.rising
      have hbounded : finish.progress.toNat ≤ max (start.progress + 1).toNat quest.successValue.toNat :=
        h.bounded quest hquest
      have hcompletions : completions registry caller i data (input :: rest) =
          (if quest.successValue ≤ start.progress + 1 then 1 else 0) +
            completions registry caller i (eventStep registry caller data input) rest := by
        rw [completions, toldIn, htold, Option.toList_some, List.singleton_append, List.countP_cons, hcompleted,
          Nat.add_comm]
        simp [completions]
      have hunsatisfied : Unsatisfied registry { start with progress := start.progress + 1 } ↔
          ¬quest.successValue ≤ start.progress + 1 := by
        have hzero : start.questId ≠ 0 := hadvances.2.2.1
        simp [Unsatisfied, hquest, hzero]
      refine ⟨finish, hfinish, hquestId, UInt32.le_iff_toNat_le.2 (by omega), fun other hother => ?_, ?_, ?_⟩
      · cases hquest.symm.trans hother
        omega
      · intro _ hfinished
        rw [hcompletions]
        by_cases hdone : quest.successValue ≤ start.progress + 1
        · rw [if_pos hdone, h.otherwise fun hboth => hunsatisfied.1 hboth.1 hdone]
        · rw [if_neg hdone, h.once (hunsatisfied.2 hdone) hfinished]
      · intro hnot
        have hopen : Unsatisfied registry finish := by
          by_contra hfinished
          exact hnot ⟨hadvances.2.2, hfinished⟩
        have hmiddleOpen := hopen.before h.quest h.rising
        rw [hcompletions, if_neg (hunsatisfied.1 hmiddleOpen), h.otherwise fun hboth => hboth.2 hopen]
    · obtain ⟨finish, hfinish, h⟩ := ih _ _ hmiddle
      have hcompletions : completions registry caller i data (input :: rest) =
          completions registry caller i (eventStep registry caller data input) rest := by
        rw [completions, toldIn, htold, Option.toList_none, List.nil_append, completions]
      exact ⟨finish, hfinish, h.quest, h.rising, h.bounded, fun hs hf => hcompletions.trans (h.once hs hf),
        fun hnot => hcompletions.trans (h.otherwise hnot)⟩

/-- A run of quest events advances the slots of the group by the events that match, and announces once that a slot is
completed. -/
theorem quests_progress (registry : QuestRegistry) (caller : Uid) (i : Fin 3) (data : DataDirector)
    (inputs : List EventInput) (start : DailyQuestEntry) (hslot : slotOf caller data i = some start) :
    Guarded (eventStep registry caller) (Rises registry caller i) data inputs ∧
      ∃ finish ∈ slotOf caller (run (eventStep registry caller) data inputs) i,
        Counts registry caller i data inputs start finish :=
  ⟨Guarded.of_forall (rises registry caller i) data inputs, counts inputs data start hslot⟩

/-- Three perfect jumps are asked for. -/
def jumps : QuestRegistry where
  quests questId := if questId = 9 then some { gameModeFlag := .any, successValue := 3, function := .perfectJump } else none

/-- A character with a group whose first slot has some progress. -/
def jumper (progress : UInt32) : DataDirector where
  characters uid := if uid = 1 then some { uid := 1, dailyQuestGroupUid := 4 } else none
  dailyQuestGroups uid :=
    if uid = 4 then some { uid := 4, rewardType := 1, quests := #v[{ questId := 9, progress := progress }, {}, {}] }
    else none

def jump : EventInput := { event := .perfectJump, gameMode := .any }

theorem quests_progress_jumps :
    Guarded (eventStep jumps 1) (Rises jumps 1 0) (jumper 1) [jump, jump, jump] ∧
      ∃ finish ∈ slotOf 1 (run (eventStep jumps 1) (jumper 1) [jump, jump, jump]) 0,
        Counts jumps 1 0 (jumper 1) [jump, jump, jump] { questId := 9, progress := 1 } finish :=
  quests_progress jumps 1 0 (jumper 1) [jump, jump, jump] { questId := 9, progress := 1 } rfl

/-- A slot that starts above the success value stays there. -/
theorem progress_above : ¬∀ (registry : QuestRegistry) (caller : Uid) (i : Fin 3) (data : DataDirector)
    (inputs : List EventInput), ∀ finish ∈ slotOf caller (run (eventStep registry caller) data inputs) i,
      ∀ quest ∈ registry.quests finish.questId.toUInt32, finish.progress ≤ quest.successValue := by
  intro h
  have hslot : slotOf 1 (run (eventStep jumps 1) (jumper 5) [jump]) 0 = some { questId := 9, progress := 5 } := by
    decide +kernel
  exact absurd (h jumps 1 0 (jumper 5) [jump] _ hslot _ rfl) (by decide)

/-- The events as the code handles them leave the records that the slots make of them. -/
theorem run_onQuestEvent (registry : QuestRegistry) (caller : Uid) (data : DataDirector)
    (inputs : List EventInput) :
    run (fun data input => (onQuestEvent registry input.lookups caller input.event input.gameMode
      input.value).final data) data inputs = run (eventStep registry caller) data inputs := by
  induction inputs generalizing data with
  | nil => rfl
  | cons input rest ih => rw [run_cons, run_cons, ih, final_onQuestEvent]

end Runs

end Alicia.Quest
