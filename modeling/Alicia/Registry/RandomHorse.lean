import Alicia.Registry.Appearance
import Alicia.Transition.Effect

/-!
# Random horses

`BuildRandomHorse` draws the parts of a horse from the tables of the horse registry.  The subscript
of a map creates an entry that is missing.
-/

namespace Alicia.Registry

open Std (ExtTreeMap)
open Data (Tid invalidTid)
open Draws Transition Effect List

/-! ## The tables -/

/-- `Coat` with its tid and the type of the faces that it may wear. -/
structure CoatEntry extends Coat where
  tid : Tid := invalidTid
  faceType : Int := 0
  deriving DecidableEq

structure Face where
  tid : Tid := invalidTid
  type : Int := 0
  deriving DecidableEq

/-- `Mane` and `Tail` with their tid. -/
structure HairEntry extends Hair where
  tid : Tid := invalidTid
  deriving DecidableEq

instance : Inhabited CoatEntry := ⟨{}⟩

instance : Inhabited HairEntry := ⟨{}⟩

/-- The tables that a random horse is built from. -/
structure HorseTables where
  coats : ExtTreeMap Tid CoatEntry := ∅
  possibleCoats : List Tid := []
  faces : ExtTreeMap Tid Face := ∅
  possibleFaces : List Tid := []
  facesByType : ExtTreeMap Int (List Tid) := ∅
  manes : ExtTreeMap Tid HairEntry := ∅
  possibleManes : List Tid := []
  tails : ExtTreeMap Tid HairEntry := ∅
  possibleTails : List Tid := []

/-- The nodes of the four tables, of which none is empty. -/
structure AppearanceConfig where
  coats : List CoatEntry
  faces : List Face
  manes : List HairEntry
  tails : List HairEntry
  coats_ne : coats ≠ []
  faces_ne : faces ≠ []
  manes_ne : manes ≠ []
  tails_ne : tails ≠ []

/-- `map[tid] = part` for each of the parts. -/
def readParts {V : Type} (tid : V → Tid) (parts : List V) : ExtTreeMap Tid V :=
  parts.foldl (fun map part => map.insert (tid part) part) ∅

/-- `_facesByType[type].emplace_back(tid)` for each of the faces. -/
def readFacesByType (faces : List Face) : ExtTreeMap Int (List Tid) :=
  faces.foldl (fun map face => map.insert face.type (map.getD face.type [] ++ [face.tid])) ∅

/-- `ReadConfig`, for the tables of the appearance. -/
def HorseTables.readConfig (config : AppearanceConfig) : HorseTables where
  coats := readParts CoatEntry.tid config.coats
  possibleCoats := config.coats.map CoatEntry.tid
  faces := readParts Face.tid config.faces
  possibleFaces := config.faces.map Face.tid
  facesByType := readFacesByType config.faces
  manes := readParts HairEntry.tid config.manes
  possibleManes := config.manes.map HairEntry.tid
  tails := readParts HairEntry.tid config.tails
  possibleTails := config.tails.map HairEntry.tid

/-! ## The draws -/

inductive TableFailure where
  /-- An index is outside of its table. -/
  | undefined
  deriving DecidableEq

/-- What the random engine yields. -/
structure HorseRolls where
  coat : Pick
  face : Pick
  mane : Pick
  tail : Pick
  scale : Pick

/-- The subscript of a map, which creates a missing entry. -/
def subscript {V : Type} [Inhabited V] (tid : Tid) : Effect (ExtTreeMap Tid V) TableFailure V :=
  fun map =>
    match map[tid]? with
    | some part => .ok part map
    | none => .ok default (map.insert tid default)

/-- The part of a tid that is drawn from a list. -/
def drawPart {V : Type} [Inhabited V] (pick : Pick) (tids : List Tid) :
    Effect (ExtTreeMap Tid V) TableFailure V := do
  let tid ← Effect.ofOption .undefined (pickUniform pick tids)
  subscript tid

namespace HorseTables

/-- `_facesByType.find(faceType)` -/
def facesOfType (tables : HorseTables) (faceType : Int) : List Tid :=
  tables.facesByType.getD faceType []

/-- `GetRandomFaceForCoat`.  A coat that is not found is taken for one of the face type 0. -/
def getRandomFaceForCoat (tables : HorseTables) (pick : Pick) (coatTid : Tid) : Tid :=
  let faceType := (tables.coats[coatTid]?.map CoatEntry.faceType).getD 0
  (pickUniform pick (tables.facesOfType faceType)).getD invalidTid

def figureScaleMin : Nat := 2

def figureScaleMax : Nat := 10

def setCoats (coats : ExtTreeMap Tid CoatEntry) (tables : HorseTables) : HorseTables :=
  { tables with coats := coats }

def setManes (manes : ExtTreeMap Tid HairEntry) (tables : HorseTables) : HorseTables :=
  { tables with manes := manes }

def setTails (tails : ExtTreeMap Tid HairEntry) (tables : HorseTables) : HorseTables :=
  { tables with tails := tails }

def drawCoat (rolls : HorseRolls) : Effect HorseTables TableFailure CoatEntry := do
  let possibleCoats := (← get).possibleCoats
  Effect.zoom coats setCoats (drawPart rolls.coat possibleCoats)

def drawMane (rolls : HorseRolls) : Effect HorseTables TableFailure HairEntry := do
  let possibleManes := (← get).possibleManes
  Effect.zoom manes setManes (drawPart rolls.mane possibleManes)

/-- The tid of the tail is drawn from the faces. -/
def drawTail (rolls : HorseRolls) : Effect HorseTables TableFailure HairEntry := do
  let possibleFaces := (← get).possibleFaces
  Effect.zoom tails setTails (drawPart rolls.tail possibleFaces)

/-- `BuildRandomHorse`. -/
def buildRandomHorse (rolls : HorseRolls) (parts : Data.Horse.Parts) :
    Effect HorseTables TableFailure (Data.Horse.Parts × Data.Horse.Appearance) := do
  let coat ← drawCoat rolls
  let faceTid := (← get).getRandomFaceForCoat rolls.face coat.tid
  let mane ← drawMane rolls
  let tail ← drawTail rolls
  let scale := UInt32.ofNat
    (figureScaleMin + rolls.scale.index (figureScaleMax - figureScaleMin + 1))
  return (
    { skinTid := coat.tid
      faceTid := if faceTid ≠ invalidTid then faceTid else parts.faceTid
      maneTid := mane.tid
      tailTid := tail.tid },
    { scale := scale
      legLength := scale
      legVolume := scale
      bodyLength := scale
      bodyVolume := scale })

end HorseTables

open HorseTables

/-! ## What is drawn -/

/-- The horse is built from the tables as they are: nothing is read outside of a table or created in
one, and each part is a possible one. -/
structure DrawnFromTables (rolls : HorseRolls) (parts : Data.Horse.Parts) (tables : HorseTables)
    (made : Data.Horse.Parts) : Prop where
  untouched : ∃ appearance, HorseTables.buildRandomHorse rolls parts tables =
    .ok (made, appearance) tables
  coat : made.skinTid ∈ tables.possibleCoats
  face : ∃ coat, tables.coats[made.skinTid]? = some coat ∧
    made.faceTid ∈ tables.facesOfType coat.faceType
  mane : made.maneTid ∈ tables.possibleManes
  tail : made.tailTid ∈ tables.possibleTails

/-- The tid that is drawn for the tail is that of a tail, and the coat that is drawn has a face that
is drawn for it.  A face of the tid 0 leaves the one that the horse has. -/
structure Matched (rolls : HorseRolls) (parts : Data.Horse.Parts) (tables : HorseTables) :
    Prop where
  tail : ∀ tid, pickUniform rolls.tail tables.possibleFaces = some tid →
    tid ∈ tables.possibleTails
  face : ∀ tid coat, pickUniform rolls.coat tables.possibleCoats = some tid →
    tables.coats[tid]? = some coat →
      ∃ face, pickUniform rolls.face (tables.facesOfType coat.faceType) = some face ∧
        (face = invalidTid → parts.faceTid ∈ tables.facesOfType coat.faceType)

/-! ## The tables as they are read -/

section Reading

variable {V : Type} {tid : V → Tid}

/-- Every part stands under its tid. -/
theorem tid_of_readParts {parts : List V} {key : Tid} {part : V}
    (h : (readParts tid parts)[key]? = some part) : tid part = key := by
  induction parts using List.reverseRecOn with
  | nil => simp [readParts] at h
  | append_singleton parts last ih =>
    rw [readParts, foldl_append, foldl_cons, foldl_nil,
      Collection.getElem?_insert_self_or_ne] at h
    split at h
    next hsame => exact (Option.some.inj h) ▸ hsame.symm
    next hother => exact ih h

/-- The parts are those of the list of their tids. -/
theorem isSome_readParts {parts : List V} {key : Tid} :
    ((readParts tid parts)[key]?).isSome = true ↔ key ∈ parts.map tid := by
  induction parts using List.reverseRecOn with
  | nil => simp [readParts]
  | append_singleton parts last ih =>
    rw [readParts, foldl_append, foldl_cons, foldl_nil,
      Collection.getElem?_insert_self_or_ne, map_append, mem_append, ← ih]
    by_cases hsame : key = tid last
    · simp [hsame]
    · simp [hsame, readParts]

variable [Inhabited V]

theorem drawPart_listed {pick : Pick} {tids : List Tid} {map : ExtTreeMap Tid V} {key : Tid}
    {part : V} (hpick : pickUniform pick tids = some key) (hpart : map[key]? = some part) :
    drawPart pick tids map = .ok part map := by
  rw [drawPart, hpick, ofOption_some, bind_ok (pure_apply key map), subscript,
    hpart]

/-- A tid that is not listed gets an entry without one. -/
theorem drawPart_missing {pick : Pick} {tids : List Tid} {map : ExtTreeMap Tid V} {key : Tid}
    (hpick : pickUniform pick tids = some key) (hpart : map[key]? = none) :
    drawPart pick tids map = .ok default (map.insert key default) := by
  rw [drawPart, hpick, ofOption_some, bind_ok (pure_apply key map), subscript,
    hpart]

/-- A draw from the tids of the parts that are read yields one of the parts. -/
theorem drawPart_possible (pick : Pick) {parts : List V} (hne : parts ≠ []) :
    ∃ part, pickUniform pick (parts.map tid) = some (tid part) ∧
      (readParts tid parts)[tid part]? = some part ∧
      drawPart pick (parts.map tid) (readParts tid parts) = .ok part (readParts tid parts) := by
  cases hpick : pickUniform pick (parts.map tid) with
  | none => exact absurd (map_eq_nil_iff.1 (pickUniform_eq_none_iff.1 hpick)) hne
  | some key =>
    have hmem := exists_pickUniform_some_iff.1 ⟨pick, hpick⟩
    obtain ⟨part, hpart⟩ := Option.isSome_iff_exists.1 (isSome_readParts.2 hmem)
    have htid := tid_of_readParts hpart
    subst htid
    exact ⟨part, rfl, hpart, drawPart_listed hpick hpart⟩

end Reading

/-! ## Random horses -/

section Building

variable (config : AppearanceConfig) (rolls : HorseRolls) (parts : Data.Horse.Parts)

/-- The parts of a horse that gets a coat, a mane and a tail. -/
def builtParts (coat : CoatEntry) (mane tail : HairEntry) : Data.Horse.Parts :=
  let faceTid := (HorseTables.readConfig config).getRandomFaceForCoat rolls.face coat.tid
  { skinTid := coat.tid
    faceTid := if faceTid ≠ invalidTid then faceTid else parts.faceTid
    maneTid := mane.tid
    tailTid := tail.tid }

/-- The coat and the mane are always possible ones.  The tail is what its draw makes of it. -/
theorem buildRandomHorse_eq : ∃ coat : CoatEntry, ∃ mane : HairEntry,
    pickUniform rolls.coat (readConfig config).possibleCoats = some coat.tid ∧
    (readConfig config).coats[coat.tid]? = some coat ∧
    mane.tid ∈ (readConfig config).possibleManes ∧
    ∀ tail tails, drawPart rolls.tail (readConfig config).possibleFaces
        (readConfig config).tails = .ok tail tails →
      ∃ appearance, buildRandomHorse rolls parts (readConfig config) =
        .ok (builtParts config rolls parts coat mane tail, appearance)
          ((readConfig config).setTails tails) := by
  obtain ⟨coat, hcoat, hlisted, hdrawn⟩ :=
    @drawPart_possible _ CoatEntry.tid _ rolls.coat config.coats config.coats_ne
  obtain ⟨mane, hmane, -, hpicked⟩ :=
    @drawPart_possible _ HairEntry.tid _ rolls.mane config.manes config.manes_ne
  refine ⟨coat, mane, hcoat, hlisted, exists_pickUniform_some_iff.1 ⟨rolls.mane, hmane⟩,
    fun tail tails htail => ?_⟩
  have hcoats : drawCoat rolls (readConfig config) =
      .ok coat (readConfig config) :=
    (bind_ok (get_apply _) _).trans (zoom_ok hdrawn)
  have hmanes : drawMane rolls (readConfig config) =
      .ok mane (readConfig config) :=
    (bind_ok (get_apply _) _).trans (zoom_ok hpicked)
  have htails : drawTail rolls (readConfig config) =
      .ok tail ((readConfig config).setTails tails) :=
    (bind_ok (get_apply _) _).trans (zoom_ok htail)
  rw [buildRandomHorse, bind_ok hcoats, bind_ok (get_apply _),
    bind_ok hmanes, bind_ok htails]
  exact ⟨_, rfl⟩

/-- The tail is drawn from the faces. -/
theorem exists_tailTid : ∃ tid,
    pickUniform rolls.tail (readConfig config).possibleFaces = some tid := by
  cases hpick : pickUniform rolls.tail (readConfig config).possibleFaces with
  | none => exact absurd (map_eq_nil_iff.1 (pickUniform_eq_none_iff.1 hpick)) config.faces_ne
  | some tid => exact ⟨tid, rfl⟩

variable {config rolls parts}

/-- A draw of a face, which the horse gets unless its tid is 0. -/
theorem face_mem_iff {coat : CoatEntry} (mane tail : HairEntry)
    (hcoat : (readConfig config).coats[coat.tid]? = some coat) :
    (builtParts config rolls parts coat mane tail).faceTid ∈
        (readConfig config).facesOfType coat.faceType ↔
      ∃ face, pickUniform rolls.face
          ((readConfig config).facesOfType coat.faceType) = some face ∧
        (face = invalidTid →
          parts.faceTid ∈ (readConfig config).facesOfType coat.faceType) := by
  have hface : (readConfig config).getRandomFaceForCoat rolls.face coat.tid =
      (pickUniform rolls.face
        ((readConfig config).facesOfType coat.faceType)).getD invalidTid := by
    rw [getRandomFaceForCoat, hcoat]
    rfl
  rw [builtParts, hface]
  dsimp only
  cases hpick : pickUniform rolls.face
      ((readConfig config).facesOfType coat.faceType) with
  | none =>
    rw [pickUniform_eq_none_iff.1 hpick]
    simp
  | some face =>
    have hmem := exists_pickUniform_some_iff.1 ⟨rolls.face, hpick⟩
    rw [Option.getD_some]
    by_cases hinvalid : face = invalidTid
    · simp [hinvalid]
    · simp [hinvalid, hmem]

/-- A random horse is drawn from the right tables exactly if the tid that is drawn for the tail is
that of a tail, and the coat that is drawn has a face. -/
theorem drawnFromTables_iff (config : AppearanceConfig) (rolls : HorseRolls)
    (parts : Data.Horse.Parts) :
    (∃ made, DrawnFromTables rolls parts (HorseTables.readConfig config) made) ↔
      Matched rolls parts (HorseTables.readConfig config) := by
  obtain ⟨coat, mane, hcoat, hlisted, hmane, hbuilt⟩ := buildRandomHorse_eq config rolls parts
  obtain ⟨tid, htid⟩ := exists_tailTid config rolls
  have hface := fun tail => @face_mem_iff config rolls parts coat mane tail hlisted
  cases hpart : (HorseTables.readConfig config).tails[tid]? with
  | none =>
    obtain ⟨appearance, happly⟩ := hbuilt _ _ (drawPart_missing htid hpart)
    have hunlisted : tid ∉ (HorseTables.readConfig config).possibleTails := fun hmem =>
      absurd hpart (Option.isSome_iff_ne_none.1 (isSome_readParts.2 hmem))
    refine iff_of_false ?_ fun hmatched => hunlisted (hmatched.tail tid htid)
    rintro ⟨made, ⟨other, hother⟩, -⟩
    -- The draw has created an entry of the tid.
    have hcreated := (final_ok happly).symm.trans (final_ok hother)
    have hentry := congrArg (fun tables => tables.tails[tid]?) hcreated
    simp [HorseTables.setTails, hpart] at hentry
  | some tail =>
    have htail := tid_of_readParts hpart
    obtain ⟨appearance, happly⟩ := hbuilt _ _ (drawPart_listed htid hpart)
    constructor
    · rintro ⟨made, ⟨other, hother⟩, -, ⟨found, hfound, hallowed⟩, -, hpossible⟩
      cases happly.symm.trans hother
      cases hlisted.symm.trans hfound
      refine ⟨fun drawn hdrawn => ?_, fun drawn picked hdrawn hpicked => ?_⟩
      · cases htid.symm.trans hdrawn
        exact htail ▸ hpossible
      · cases hcoat.symm.trans hdrawn
        cases hlisted.symm.trans hpicked
        exact (hface tail).1 hallowed
    · intro hmatched
      refine ⟨_, ⟨appearance, happly⟩, exists_pickUniform_some_iff.1 ⟨rolls.coat, hcoat⟩,
        ⟨coat, hlisted, (hface tail).2 (hmatched.face coat.tid coat hcoat hlisted)⟩, hmane, ?_⟩
      have hpossible := hmatched.tail tid htid
      rwa [← htail] at hpossible

/-- There is a face of the tid 9, and no tail. -/
def unevenConfig : AppearanceConfig where
  coats := [{ tid := 1 }]
  faces := [{ tid := 1 }, { tid := 9 }]
  manes := [{ tid := 3 }]
  tails := [{ tid := 1 }, { tid := 3 }]
  coats_ne := List.cons_ne_nil _ _
  faces_ne := List.cons_ne_nil _ _
  manes_ne := List.cons_ne_nil _ _
  tails_ne := List.cons_ne_nil _ _

/-- A horse gets the tail 0, and the tails an entry of the tid 9. -/
theorem tail_from_faces :
    ¬∃ made, DrawnFromTables ⟨.of 0, .of 0, .of 0, .of 1, .of 0⟩ {}
      (HorseTables.readConfig unevenConfig) made := by
  rintro ⟨made, ⟨appearance, happly⟩, -, -, -, htail⟩
  have htid : ((HorseTables.buildRandomHorse ⟨.of 0, .of 0, .of 0, .of 1, .of 0⟩ {}).returned
      (HorseTables.readConfig unevenConfig)).map (fun made => made.1.tailTid) = some 0 := by
    decide +kernel
  rw [Effect.returned, happly, Option.map_some] at htid
  rw [show made.tailTid = 0 from Option.some.inj htid] at htail
  exact absurd htail (by decide)

end Building

end Alicia.Registry
