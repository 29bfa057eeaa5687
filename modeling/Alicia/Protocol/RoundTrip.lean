import Alicia.Protocol.CommonStructures
import Alicia.Protocol.RaceMessages
import Alicia.Protocol.Stream

/-!
# Reading back the definitions

The options of a client with their `Write` and `Read`.  The settings write the options that their bitset
selects in one order and read them in another one.

Every structure and command of the common and the race definitions that can be written and read, as one
family.  Behind the texts there is a conversion that need not give them back, and one command is read in
another form than it is written.
-/

namespace Alicia.Protocol

open Transition Source

/-! ## Options -/

structure KeyboardOptions.Option where
  type : UInt8 := 0
  unused : UInt8 := 0
  primaryKey : UInt8 := 0
  secondaryKey : UInt8 := 0
  deriving DecidableEq

def KeyboardOptions.Option.write (option : KeyboardOptions.Option) : Written :=
  concat [put option.secondaryKey, put option.type, put option.unused, put option.primaryKey]

def KeyboardOptions.Option.read : Reader KeyboardOptions.Option := do
  return { secondaryKey := ← take, type := ← take, unused := ← take, primaryKey := ← take }

instance : Writable KeyboardOptions.Option := ⟨KeyboardOptions.Option.write⟩

instance : Readable KeyboardOptions.Option := ⟨KeyboardOptions.Option.read⟩

instance (option : KeyboardOptions.Option) : source.RoundTrips (put option) take option := by
  change source.RoundTrips option.write KeyboardOptions.Option.read option
  unfold KeyboardOptions.Option.write KeyboardOptions.Option.read
  infer_instance

structure KeyboardOptions where
  bindings : List KeyboardOptions.Option := []
  deriving DecidableEq

def KeyboardOptions.write (value : KeyboardOptions) : Written := writeList put value.bindings

def KeyboardOptions.read : Reader KeyboardOptions := do
  return { bindings := ← readList take }

instance : Writable KeyboardOptions := ⟨KeyboardOptions.write⟩

instance : Readable KeyboardOptions := ⟨KeyboardOptions.read⟩

theorem KeyboardOptions.roundTrips {value : KeyboardOptions} (h : value.bindings.length ≤ 255) :
    source.RoundTrips (put value) take value where
  decodes bytes hbytes :=
    ((@roundTrips_list KeyboardOptions.Option put take inferInstance value.bindings h).decodes bytes
      hbytes).bind_pure KeyboardOptions.mk

structure GamepadOptions.Option where
  type : UInt8 := 0
  unused : UInt8 := 0
  primaryButton : UInt8 := 0
  secondaryButton : UInt8 := 0
  deriving DecidableEq

def GamepadOptions.Option.write (option : GamepadOptions.Option) : Written :=
  concat [put option.secondaryButton, put option.type, put option.unused, put option.primaryButton]

def GamepadOptions.Option.read : Reader GamepadOptions.Option := do
  return { secondaryButton := ← take, type := ← take, unused := ← take, primaryButton := ← take }

instance : Writable GamepadOptions.Option := ⟨GamepadOptions.Option.write⟩

instance : Readable GamepadOptions.Option := ⟨GamepadOptions.Option.read⟩

instance (option : GamepadOptions.Option) : source.RoundTrips (put option) take option := by
  change source.RoundTrips option.write GamepadOptions.Option.read option
  unfold GamepadOptions.Option.write GamepadOptions.Option.read
  infer_instance

structure GamepadOptions where
  bindings : List GamepadOptions.Option := []
  deriving DecidableEq

def GamepadOptions.write (value : GamepadOptions) : Written := writeList put value.bindings

def GamepadOptions.read : Reader GamepadOptions := do
  return { bindings := ← readList take }

instance : Writable GamepadOptions := ⟨GamepadOptions.write⟩

instance : Readable GamepadOptions := ⟨GamepadOptions.read⟩

theorem GamepadOptions.roundTrips {value : GamepadOptions} (h : value.bindings.length ≤ 255) :
    source.RoundTrips (put value) take value where
  decodes bytes hbytes :=
    ((@roundTrips_list GamepadOptions.Option put take inferInstance value.bindings h).decodes bytes
      hbytes).bind_pure GamepadOptions.mk

section

variable [Locale]

/-- Eight texts. -/
structure MacroOptions where
  macros : { macros : List Text // macros.length = 8 } := ⟨List.replicate 8 [], rfl⟩
  deriving DecidableEq

def MacroOptions.write (value : MacroOptions) : Written := concat (value.macros.1.map put)

def MacroOptions.read : Reader MacroOptions := do
  return { macros := ← Source.many take 8 }

instance : Writable MacroOptions := ⟨MacroOptions.write⟩

instance : Readable MacroOptions := ⟨MacroOptions.read⟩

theorem MacroOptions.roundTrips {value : MacroOptions} (h : ∀ text ∈ value.macros.1, Survives text) :
    source.RoundTrips (put value) take value where
  decodes bytes hbytes :=
    ((RoundTrips.many_of_mem value.macros fun text htext =>
      roundTrips_text (h text htext)).decodes bytes hbytes).bind_pure MacroOptions.mk

/-! ## Settings -/

structure Settings where
  typeBitset : UInt32 := 0
  keyboardOptions : KeyboardOptions := {}
  macroOptions : MacroOptions := {}
  valueOption : UInt32 := 0
  gamepadOptions : GamepadOptions := {}
  age : UInt8 := 0
  hideAge : UInt8 := 0
  deriving DecidableEq

namespace Settings

/-- `Settings::Type`, the bits of the options. -/
inductive Kind
  | keyboard
  | macros
  | value
  | gamepad
  deriving DecidableEq

def Kind.bit : Kind → Nat
  | keyboard => 0
  | macros => 3
  | value => 4
  | gamepad => 5

/-- The bitset selects the options. -/
def test (typeBitset : UInt32) (kind : Kind) : Bool := typeBitset.toNat.testBit kind.bit

def writeKey (binding : KeyboardOptions.Option) : Written :=
  concat [put binding.type, put binding.unused, put binding.primaryKey, put binding.secondaryKey]

def readKey : Reader KeyboardOptions.Option := do
  return { type := ← take, unused := ← take, primaryKey := ← take, secondaryKey := ← take }

def writeButton (binding : GamepadOptions.Option) : Written :=
  concat [put binding.type, put binding.unused, put binding.primaryButton, put binding.secondaryButton]

def readButton : Reader GamepadOptions.Option := do
  return { type := ← take, unused := ← take, primaryButton := ← take, secondaryButton := ← take }

instance (binding : KeyboardOptions.Option) : source.RoundTrips (writeKey binding) readKey binding := by
  unfold writeKey readKey
  infer_instance

instance (binding : GamepadOptions.Option) :
    source.RoundTrips (writeButton binding) readButton binding := by
  unfold writeButton readButton
  infer_instance

def write (value : Settings) : Written :=
  let test := test value.typeBitset
  concat [put value.typeBitset,
    Source.written (test .keyboard) (writeList writeKey value.keyboardOptions.bindings),
    Source.written (test .macros) (concat (value.macroOptions.macros.1.map put)),
    Source.written (test .value) (put value.valueOption),
    Source.written (test .gamepad) (writeList writeButton value.gamepadOptions.bindings),
    put value.age, put value.hideAge]

/-- `Read` into settings, which keep the options that the bitset does not select. -/
def read (value : Settings) : Reader Settings := do
  let typeBitset : UInt32 ← take
  let test := test typeBitset
  let keyboard ← Source.optional (test .keyboard) (KeyboardOptions.mk <$> readList readKey)
    value.keyboardOptions
  let gamepad ← Source.optional (test .gamepad) (GamepadOptions.mk <$> readList readButton)
    value.gamepadOptions
  let macros ← Source.optional (test .macros) (MacroOptions.mk <$> Source.many take 8)
    value.macroOptions
  let valueOption ← Source.optional (test .value) take value.valueOption
  return { typeBitset := typeBitset, keyboardOptions := keyboard, macroOptions := macros,
           valueOption := valueOption, gamepadOptions := gamepad, age := ← take, hideAge := ← take }

/-- The settings with the options that are selected in the given ones. -/
def selected (value settings : Settings) : Settings :=
  let test := test settings.typeBitset
  { settings with
    keyboardOptions := if test .keyboard then settings.keyboardOptions else value.keyboardOptions
    macroOptions := if test .macros then settings.macroOptions else value.macroOptions
    valueOption := if test .value then settings.valueOption else value.valueOption
    gamepadOptions := if test .gamepad then settings.gamepadOptions else value.gamepadOptions }

/-- The selected lists and texts fit the protocol. -/
structure Fits (settings : Settings) : Prop where
  keyboard : test settings.typeBitset .keyboard = true →
    settings.keyboardOptions.bindings.length ≤ 255
  gamepad : test settings.typeBitset .gamepad = true → settings.gamepadOptions.bindings.length ≤ 255
  macros : test settings.typeBitset .macros = true →
    ∀ text ∈ settings.macroOptions.macros.1, Survives text

/-- The two orders agree: the options of a gamepad do not come with macros or with the value option. -/
def InOrder (settings : Settings) : Prop := test settings.typeBitset .gamepad = true →
  test settings.typeBitset .macros = false ∧ test settings.typeBitset .value = false

/-- Settings whose options keep the order are read back as far as the bitset selects them. -/
theorem roundTrips (value : Settings) {settings : Settings} (hfits : settings.Fits)
    (horder : settings.InOrder) :
    source.RoundTrips settings.write (read value) (value.selected settings) := by
  have hkeyboard := RoundTrips.optional value.keyboardOptions
    fun hselected : test settings.typeBitset .keyboard = true =>
      (@roundTrips_list _ writeKey readKey inferInstance _ (hfits.keyboard hselected)).map
        KeyboardOptions.mk
  have hgamepad := RoundTrips.optional value.gamepadOptions
    fun hselected : test settings.typeBitset .gamepad = true =>
      (@roundTrips_list _ writeButton readButton inferInstance _ (hfits.gamepad hselected)).map
        GamepadOptions.mk
  have hmacros := RoundTrips.optional value.macroOptions
    fun hselected : test settings.typeBitset .macros = true =>
      (RoundTrips.many_of_mem settings.macroOptions.macros fun text htext =>
        roundTrips_text (hfits.macros hselected text htext)).map MacroOptions.mk
  have hvalue := RoundTrips.optional value.valueOption
    fun _ : test settings.typeBitset .value = true =>
      (inferInstance : source.RoundTrips (put settings.valueOption) take settings.valueOption)
  unfold write read selected
  refine @RoundTrips.cons _ _ _ _ _ source _ settings.typeBitset _ _ _ _ inferInstance ?_
  refine @RoundTrips.cons _ _ _ _ _ source _ _ _ _ _ _ hkeyboard ?_
  dsimp only
  cases hselected : test settings.typeBitset .gamepad with
  | false =>
    -- The part of the gamepad is empty wherever it stands.
    simp only [written_false, optional_false, pure_bind, Bool.false_eq_true, if_false]
    refine @RoundTrips.cons _ _ _ _ _ source _ _ _ _ _ _ hmacros ?_
    refine @RoundTrips.cons _ _ _ _ _ source _ _ _ _ _ _ hvalue ?_
    rw [concat_nil_cons]
    infer_instance
  | true =>
    -- The parts that would come before the gamepad are empty.
    obtain ⟨hnoMacros, hnoValue⟩ := horder hselected
    rw [hselected] at hgamepad
    simp only [hnoMacros, hnoValue, written_false, optional_false, concat_nil_cons,
      pure_bind, Bool.false_eq_true, if_false]
    infer_instance

end Settings

end

/-- The structures and commands that have both a `Write` and a `Read`. -/
inductive Definition
  | item
  | storedItem
  | keyboardOption
  | keyboardOptions
  | macroOptions
  | gamepadOption
  | gamepadOptions
  | settings
  | characterParts
  | characterAppearance
  | character
  | horseParts
  | horseAppearance
  | horseStats
  | horseMastery
  | horse
  | guild
  | rent
  | pet
  | egg
  | petInfo
  | petBirthInfo
  | ranchHorse
  | ranchCharacter
  | quest
  | housing
  | league
  | skillSet
  | dailyQuest
  | shopOrder
  | packedVector3
  | objectiveProgress
  | vector3
  | breedingBonus
  | acCmdRCMobDead
  | acCmdCREnterRoomCancel
  | acCmdUserRaceActivateInteractiveEvent
  | acCmdUserRaceActivateEvent
  | acCmdUserRaceActivateEventNotify
  | acCmdUserRaceDeactivateEvent
  | acCmdUserRaceDeactivateEventNotify
  | acCmdGameRaceItemGet
  | acCmdCRChangeMagicTargetNotify
  | acCmdCRUseMagicItemNotify
  | acCmdRCTriggerActivate
  | acCmdCRActivateSkillEffect
  | acCmdRCAddSkillEffect
  | acCmdRCRemoveSkillEffect
  | acCmdCRTriggerizeAct
  deriving DecidableEq

/-- A `Write` and a `Read` into a value, of which the selected parts are replaced. -/
structure Codec where
  Value : Type
  write : Value → Written
  read : Value → Reader Value
  selected : Value → Value → Value
  /-- The lists have sizes of one byte, and the conversion gives the texts back. -/
  Fits : Value → Prop

/-- A definition that is read as a whole. -/
def Codec.whole (α : Type) [Writable α] [Readable α] (fits : α → Prop) : Codec where
  Value := α
  write := put
  read _ := take
  selected _ value := value
  Fits := fits

/-- A definition whose values all fit. -/
def Codec.plain (α : Type) [Writable α] [Readable α] : Codec := .whole α fun _ => True

theorem Codec.plain_roundTrips {α : Type} [Writable α] [Readable α]
    [h : ∀ a : α, source.RoundTrips (put a) take a] (destination value : (Codec.plain α).Value) :
    source.RoundTrips ((Codec.plain α).write value) ((Codec.plain α).read destination)
      ((Codec.plain α).selected destination value) := h value

section

variable [Locale]

/-- What a character of a ranch needs to be read back. -/
structure RanchCharacter.Fits (value : RanchCharacter) : Prop where
  name : Survives value.name
  introduction : Survives value.introduction
  mount : Survives value.mount.name
  equipment : value.characterEquipment.length ≤ 255
  guild : Survives value.guild.name
  pet : Survives value.pet.name

def codec : Definition → Codec
  | .item => .plain Item
  | .storedItem => .whole StoredItem fun item => Survives item.sender ∧ Survives item.message
  | .keyboardOption => .plain KeyboardOptions.Option
  | .keyboardOptions => .whole KeyboardOptions fun value => value.bindings.length ≤ 255
  | .macroOptions => .whole MacroOptions fun value => ∀ text ∈ value.macros.1, Survives text
  | .gamepadOption => .plain GamepadOptions.Option
  | .gamepadOptions => .whole GamepadOptions fun value => value.bindings.length ≤ 255
  | .settings =>
    { Value := Settings, write := Settings.write, read := Settings.read,
      selected := Settings.selected, Fits := fun value => value.Fits ∧ value.InOrder }
  | .characterParts => .plain Character.Parts
  | .characterAppearance => .plain Character.Appearance
  | .character => .plain Character
  | .horseParts => .plain Horse.Parts
  | .horseAppearance => .plain Horse.Appearance
  | .horseStats => .plain Horse.Stats
  | .horseMastery => .plain Horse.Mastery
  | .horse => .whole Horse fun horse => Survives horse.name
  | .guild => .whole Guild fun guild => Survives guild.name
  | .rent => .plain Rent
  | .pet => .whole Pet fun pet => Survives pet.name
  | .egg => .plain Egg
  | .petInfo => .whole PetInfo fun info => Survives info.pet.name
  | .petBirthInfo => .whole PetBirthInfo fun info => Survives info.petInfo.pet.name
  | .ranchHorse => .whole RanchHorse fun horse => Survives horse.horse.name
  | .ranchCharacter => .whole RanchCharacter RanchCharacter.Fits
  | .quest => .plain Quest
  | .housing => .plain Housing
  | .league => .plain League
  | .skillSet => .plain SkillSet
  | .dailyQuest => .plain DailyQuest
  | .shopOrder => .plain ShopOrder
  | .packedVector3 => .plain PackedVector3
  | .objectiveProgress => .plain ObjectiveProgress
  | .vector3 => .plain Vector3
  | .breedingBonus => .plain BreedingBonus
  | .acCmdRCMobDead => .plain AcCmdRCMobDead
  | .acCmdCREnterRoomCancel => .plain AcCmdCREnterRoomCancel
  | .acCmdUserRaceActivateInteractiveEvent =>
    { Value := AcCmdUserRaceActivateInteractiveEvent
      write := AcCmdUserRaceActivateInteractiveEvent.write
      read := AcCmdUserRaceActivateInteractiveEvent.read
      selected := fun _ value => value
      -- It is written with the racer that a client does not send.
      Fits := fun _ => False }
  | .acCmdUserRaceActivateEvent => .plain AcCmdUserRaceActivateEvent
  | .acCmdUserRaceActivateEventNotify => .plain AcCmdUserRaceActivateEventNotify
  | .acCmdUserRaceDeactivateEvent => .plain AcCmdUserRaceDeactivateEvent
  | .acCmdUserRaceDeactivateEventNotify => .plain AcCmdUserRaceDeactivateEventNotify
  | .acCmdGameRaceItemGet => .plain AcCmdGameRaceItemGet
  | .acCmdCRChangeMagicTargetNotify => .plain AcCmdCRChangeMagicTargetNotify
  | .acCmdCRUseMagicItemNotify =>
    { Value := AcCmdCRUseMagicItemNotify
      write := AcCmdCRUseMagicItemNotify.write
      read := AcCmdCRUseMagicItemNotify.read
      selected := AcCmdCRUseMagicItemNotify.selected
      Fits := fun value => value.magicItemId ≠ 0x10 ∧
        (AcCmdCRUseMagicItemNotify.writesTargets value.magicItemId = true →
          value.targetList.length ≤ 255) }
  | .acCmdRCTriggerActivate => .plain AcCmdRCTriggerActivate
  | .acCmdCRActivateSkillEffect => .plain AcCmdCRActivateSkillEffect
  | .acCmdRCAddSkillEffect =>
    { Value := AcCmdRCAddSkillEffect
      write := AcCmdRCAddSkillEffect.write
      read := AcCmdRCAddSkillEffect.read
      selected := AcCmdRCAddSkillEffect.selected
      Fits := fun _ => True }
  | .acCmdRCRemoveSkillEffect => .plain AcCmdRCRemoveSkillEffect
  | .acCmdCRTriggerizeAct => .plain AcCmdCRTriggerizeAct

/-- Whatever `Write` produces of a value that fits, `Read` gives the value back as far as its bitset or its
id selects it, and takes those bytes and no others. -/
theorem definitions_round_trip (definition : Definition) (destination value : (codec definition).Value)
    (hfits : (codec definition).Fits value) :
    source.RoundTrips ((codec definition).write value) ((codec definition).read destination)
      ((codec definition).selected destination value) := by
  cases definition with
  | storedItem => exact StoredItem.roundTrips hfits.1 hfits.2
  | keyboardOptions => exact KeyboardOptions.roundTrips hfits
  | macroOptions => exact MacroOptions.roundTrips hfits
  | gamepadOptions => exact GamepadOptions.roundTrips hfits
  | settings => exact Settings.roundTrips destination hfits.1 hfits.2
  | horse => exact Horse.roundTrips hfits
  | guild => exact Guild.roundTrips hfits
  | pet => exact Pet.roundTrips hfits
  | petInfo => exact PetInfo.roundTrips (Pet.roundTrips hfits)
  | petBirthInfo => exact PetBirthInfo.roundTrips (PetInfo.roundTrips (Pet.roundTrips hfits))
  | ranchHorse => exact RanchHorse.roundTrips (Horse.roundTrips hfits)
  | ranchCharacter =>
    exact RanchCharacter.roundTrips hfits.name hfits.introduction hfits.mount hfits.equipment
      hfits.guild hfits.pet
  | acCmdUserRaceActivateInteractiveEvent => exact hfits.elim
  | acCmdCRUseMagicItemNotify => exact AcCmdCRUseMagicItemNotify.roundTrips destination hfits.1 hfits.2
  | acCmdRCAddSkillEffect => exact AcCmdRCAddSkillEffect.roundTrips destination value
  | _ => exact Codec.plain_roundTrips destination value

end

/-- ASCII letters are the same in both encodings. -/
@[reducible] def ascii : Locale := ⟨some, some⟩

def bay : Pet := { petId := 7, name := [98, 97, 121] }

theorem definitions_round_trip_bay :
    source.RoundTrips (@Pet.write ascii bay) (@Pet.read ascii) bay :=
  @definitions_round_trip ascii .pet {} bay (by
    intro bytes hbytes
    cases hbytes
    rfl)

/-- The interactive event is written in fourteen bytes, of which twelve are read. -/
theorem interactive_event_drifts : ¬∀ destination value : AcCmdUserRaceActivateInteractiveEvent,
    source.RoundTrips value.write (AcCmdUserRaceActivateInteractiveEvent.read destination) value := by
  intro h
  have hread := (h {} { member1 := 1, characterOid := 2, member3 := 3 }).decodes
    [1, 0, 0, 0, 2, 0, 3, 0, 0, 0, 0, 0, 0, 0] rfl ⟨[1, 0, 0, 0, 2, 0, 3, 0, 0, 0, 0, 0, 0, 0], 0⟩ [] rfl
  have hstream := congrArg (fun result => match result with
    | .ok _ stream => stream.cursor
    | .error _ _ => 0) hread
  exact absurd hstream (by decide)

end Alicia.Protocol
