import Alicia.Genetics.Coat
import Alicia.Transition.Run

/-!
# Lineages

The lineage of a horse is scored by the coats of its parents and grandparents, as far as their
records are available.  `RepairLineages` scores the horses of a character again and raises what was
stored too low.
-/

namespace Alicia.Genetics

open Data (Uid invalidUid Tid Horse Character)
open Transition Function

/-! ## Scores -/

/-- `CalculateLineage`. -/
def calculateLineage (horses : Horses) (foalSkinTid : Tid) (mareUid stallionUid : Uid) : UInt32 :=
  let ancestry := buildAncestry horses mareUid stallionUid
  let lineage : UInt32 := 1
  let lineage :=
    if readPart horses ancestry.mare .skin = foalSkinTid then lineage + 2 else lineage
  let lineage :=
    if readPart horses ancestry.stallion .skin = foalSkinTid then lineage + 2 else lineage
  let lineage := ancestry.grandparents.foldl (fun lineage gpUid =>
    if gpUid ≠ invalidUid ∧ readPart horses gpUid .skin = foalSkinTid then lineage + 1
    else lineage) lineage
  min lineage 9

/-- The horses of the storage.  A key that was asked for has an entry; `available` are those whose
record is there.  `bred` is the history: the lineages that horses were bred with. -/
structure Herd where
  horses : Uid → Option Horse := fun _ => none
  available : Uid → Bool := fun _ => false
  asked : Uid → Bool := fun _ => false
  bred : Uid → Option UInt32 := fun _ => none

namespace Herd

/-- The records that `GetHorse` gets. -/
def resident (herd : Herd) : Horses := fun uid =>
  if herd.available uid then herd.horses uid else none

/-- What `GetHorse` leaves: the first call for a key asks for its retrieval. -/
def touch (uids : List Uid) (herd : Herd) : Herd :=
  { herd with asked := fun uid => herd.asked uid || uids.contains uid }

def setLineage (horseUid : Uid) (lineage : UInt32) (herd : Herd) : Herd :=
  { herd with
    horses := update herd.horses horseUid
      ((herd.horses horseUid).map fun horse => { horse with lineage := lineage }) }

/-- The parents and grandparents that `IsAncestryResident` touches. -/
def ancestors (horses : Horses) (mareUid stallionUid : Uid) : List Uid :=
  (mareUid :: stallionUid :: (buildAncestry horses mareUid stallionUid).grandparents).filter
    fun horseUid => horseUid ≠ invalidUid

/-- `IsAncestryResident`. -/
def isAncestryResident (mareUid stallionUid : Uid) (herd : Herd) : Bool × Herd :=
  let touched := ancestors herd.resident mareUid stallionUid
  (touched.all fun horseUid => (herd.resident horseUid).isSome, herd.touch touched)

/-- `RecalculateLineage`. -/
def recalculateLineage (horseUid : Uid) (herd : Herd) : UInt32 × Herd :=
  let herd := herd.touch [horseUid]
  match herd.resident horseUid with
  | none => (0, herd)
  | some horse =>
    let (_, herd) := herd.isAncestryResident horse.ancestors.mother horse.ancestors.father
    (calculateLineage herd.resident horse.parts.skinTid horse.ancestors.mother
      horse.ancestors.father, herd)

/-- The body of the loop of `RepairLineages`. -/
def repairLineage (horseUid : Uid) (herd : Herd) : Bool × Herd :=
  match herd.resident horseUid with
  | none => (false, herd.touch [horseUid])
  | some horse =>
    let (recalculated, herd) := herd.recalculateLineage horseUid
    if recalculated ≤ horse.lineage then (false, herd)
    else (true, herd.setLineage horseUid recalculated)

/-- The loop of `RepairLineages`, with the number of repaired horses. -/
def repairHorses : List Uid → Herd → UInt32 × Herd
  | [], herd => (0, herd)
  | horseUid :: rest, herd =>
    let (repaired, herd) := herd.repairLineage horseUid
    let (repairedCount, herd) := repairHorses rest herd
    (if repaired then repairedCount + 1 else repairedCount, herd)

/-- The horses that belong to a character, its mount included. -/
def owned (character : Character) : List Uid := character.horses ++ [character.mountUid]

/-- `RepairLineages`, where `character` is the record of the owner if it is available. -/
def repairLineages (character : Option Character) (herd : Herd) : UInt32 × Herd :=
  match character with
  | none => (0, herd)
  | some character => herd.repairHorses (owned character)

/-- `CreateFoal` with its new record, for what concerns the lineage. -/
def createFoal (foalUid : Uid) (foal : Horse) (mareUid stallionUid : Uid) (herd : Herd) : Herd :=
  match herd.horses foalUid with
  | some _ => herd
  | none =>
    let lineage := calculateLineage herd.resident foal.parts.skinTid mareUid stallionUid
    let herd := herd.touch (foalUid :: ancestors herd.resident mareUid stallionUid)
    { herd with
      horses := update herd.horses foalUid (some { foal with
        ancestors := { mother := mareUid, father := stallionUid }
        lineage := lineage })
      available := update herd.available foalUid true
      bred := update herd.bred foalUid (some lineage) }

/-- Nothing else writes a lineage. -/
def change (horseUid : Uid) (change : Horse → Horse) (herd : Herd) : Herd :=
  { herd with
    horses := update herd.horses horseUid
      ((herd.horses horseUid).map fun horse => { change horse with lineage := horse.lineage }) }

def setAvailable (horseUid : Uid) (available : Bool) (herd : Herd) : Herd :=
  { herd with available := update herd.available horseUid available }

def delete (horseUid : Uid) (herd : Herd) : Herd :=
  { herd with
    horses := update herd.horses horseUid none
    available := update herd.available horseUid false
    bred := update herd.bred horseUid none }

end Herd

open Herd

/-- What happens to the horses: records may become available and unavailable in any order. -/
inductive HerdInput where
  | repairLineages (character : Option Character)
  | createFoal (foalUid : Uid) (foal : Horse) (mareUid stallionUid : Uid)
  | change (horseUid : Uid) (change : Horse → Horse)
  | setAvailable (horseUid : Uid) (available : Bool)
  | delete (horseUid : Uid)

def herdStep (herd : Herd) : HerdInput → Herd
  | .repairLineages character => (herd.repairLineages character).2
  | .createFoal foalUid foal mareUid stallionUid => herd.createFoal foalUid foal mareUid stallionUid
  | .change horseUid change => herd.change horseUid change
  | .setAvailable horseUid available => herd.setAvailable horseUid available
  | .delete horseUid => herd.delete horseUid

/-! ## What a repair does -/

/-- The score of a horse where all records are available. -/
def fullLineage (horses : Horses) (horse : Horse) : UInt32 :=
  calculateLineage horses horse.parts.skinTid horse.ancestors.mother horse.ancestors.father

/-- All records within two generations of the horse are available. -/
def FamilyAvailable (herd : Herd) (horseUid : Uid) (horse : Horse) : Prop :=
  ∀ uid ∈ horseUid :: Herd.ancestors herd.horses horse.ancestors.mother horse.ancestors.father,
    (herd.horses uid).isSome = true → herd.available uid = true

/-- A repair changes lineages alone, and raises them, to nine at most. -/
def Raises (herd after : Herd) : Prop :=
  ∀ uid horse, herd.horses uid = some horse → ∃ lineage,
    after.horses uid = some { horse with lineage := lineage } ∧ horse.lineage ≤ lineage ∧
      (lineage ≠ horse.lineage → lineage ≤ 9)

/-- An owned horse whose family is available has at least its full score, and at least the one it
was bred with. -/
def Scores (character : Option Character) (herd after : Herd) : Prop :=
  ∀ owner ∈ character, ∀ uid ∈ Herd.owned owner, ∀ horse, herd.horses uid = some horse →
    FamilyAvailable herd uid horse → ∃ repaired, after.horses uid = some repaired ∧
      fullLineage herd.horses horse ≤ repaired.lineage ∧
      ∀ bred, herd.bred uid = some bred → bred ≤ repaired.lineage

structure RepairSound (character : Option Character) (herd : Herd) : Prop where
  raises : Raises herd (herd.repairLineages character).2
  scores : Scores character herd (herd.repairLineages character).2
  settled : (herd.repairLineages character).2.repairLineages character =
    (0, (herd.repairLineages character).2)

/-! ## What a score depends on -/

/-- The records agree on the coat and the parents of a horse, if there is one of the uid. -/
def AgreeAt (first second : Horses) (uid : Uid) : Prop :=
  uid ≠ invalidUid → (first uid).map (fun horse => (horse.parts.skinTid, horse.ancestors)) =
    (second uid).map (fun horse => (horse.parts.skinTid, horse.ancestors))

section Congruence

variable {first second : Horses}

theorem readGrandparents_congr {uid : Uid} (h : AgreeAt first second uid) :
    readGrandparents first uid = readGrandparents second uid := by
  unfold readGrandparents
  split
  · rfl
  next hvalid =>
    have hagree := h hvalid
    cases hfirst : first uid <;> cases hsecond : second uid <;> simp_all

theorem readPart_congr {uid : Uid} (h : AgreeAt first second uid) :
    readPart first uid .skin = readPart second uid .skin := by
  unfold readPart
  split
  · rfl
  next hvalid =>
    have hagree := h hvalid
    cases hfirst : first uid <;> cases hsecond : second uid <;> simp_all

theorem grandparents_congr {mareUid stallionUid : Uid} (hmare : AgreeAt first second mareUid)
    (hstallion : AgreeAt first second stallionUid) :
    (buildAncestry first mareUid stallionUid).grandparents =
      (buildAncestry second mareUid stallionUid).grandparents := by
  simp only [buildAncestry, readGrandparents_congr hmare, readGrandparents_congr hstallion]

theorem calculateLineage_congr {mareUid stallionUid : Uid} (hmare : AgreeAt first second mareUid)
    (hstallion : AgreeAt first second stallionUid)
    (hgrandparents : ∀ uid ∈ (buildAncestry second mareUid stallionUid).grandparents,
      AgreeAt first second uid) (foalSkinTid : Tid) :
    calculateLineage first foalSkinTid mareUid stallionUid =
      calculateLineage second foalSkinTid mareUid stallionUid := by
  unfold calculateLineage
  dsimp only
  rw [grandparents_congr hmare hstallion]
  simp only [buildAncestry, readPart_congr hmare, readPart_congr hstallion]
  refine congrArg (min · 9) (List.foldl_ext _ _ _ fun lineage uid huid => ?_)
  rw [readPart_congr (hgrandparents uid huid)]

end Congruence

theorem calculateLineage_le (horses : Horses) (foalSkinTid : Tid) (mareUid stallionUid : Uid) :
    calculateLineage horses foalSkinTid mareUid stallionUid ≤ 9 := by
  have hmin (lineage : UInt32) : (if lineage ≤ 9 then lineage else 9) ≤ 9 := by
    split
    · assumption
    · exact UInt32.le_refl 9
  exact hmin _

/-! ## One horse -/

theorem Raises.refl (herd : Herd) : Raises herd herd :=
  fun _ horse h => ⟨horse.lineage, h, UInt32.le_refl _, fun hne => absurd rfl hne⟩

theorem Raises.trans {first second third : Herd} (h : Raises first second)
    (hnext : Raises second third) : Raises first third := by
  intro uid horse hhorse
  obtain ⟨lineage, hsecond, hle, hcap⟩ := h uid horse hhorse
  obtain ⟨higher, hthird, hle', hcap'⟩ := hnext uid _ hsecond
  refine ⟨higher, hthird, UInt32.le_trans hle hle', fun hne => ?_⟩
  by_cases hsame : higher = lineage
  · exact hsame ▸ hcap (hsame ▸ hne)
  · exact hcap' hsame

/-- A later state of the herd: the same pedigrees are available, no lineage is lower, and no entry
has gone. -/
structure Later (herd later : Herd) : Prop where
  available : later.available = herd.available
  raises : Raises herd later
  missing : ∀ uid, herd.horses uid = none → later.horses uid = none
  asked : ∀ uid, herd.asked uid = true → later.asked uid = true
  bred : later.bred = herd.bred

namespace Later

theorem refl (herd : Herd) : Later herd herd :=
  ⟨rfl, .refl herd, fun _ h => h, fun _ h => h, rfl⟩

theorem trans {first second third : Herd} (h : Later first second) (hnext : Later second third) :
    Later first third := by
  exact ⟨hnext.available.trans h.available, h.raises.trans hnext.raises,
    fun uid hnone => hnext.missing uid (h.missing uid hnone),
    fun uid hasked => hnext.asked uid (h.asked uid hasked), hnext.bred.trans h.bred⟩

variable {herd later : Herd}

theorem agreeAt (h : Later herd later) (uid : Uid) : AgreeAt later.horses herd.horses uid := by
  intro _
  cases hhorse : herd.horses uid with
  | none => rw [h.missing uid hhorse]
  | some horse =>
    obtain ⟨lineage, hlater, -, -⟩ := h.raises uid horse hhorse
    rw [hlater]
    rfl

theorem agreeAt_resident (h : Later herd later) (uid : Uid) :
    AgreeAt later.resident herd.resident uid := by
  intro hvalid
  unfold resident
  rw [h.available]
  cases herd.available uid with
  | true => exact h.agreeAt uid hvalid
  | false => rfl

theorem calculateLineage_eq (h : Later herd later) (foalSkinTid : Tid) (mareUid stallionUid : Uid) :
    calculateLineage later.resident foalSkinTid mareUid stallionUid =
      calculateLineage herd.resident foalSkinTid mareUid stallionUid :=
  calculateLineage_congr (h.agreeAt_resident _) (h.agreeAt_resident _)
    (fun uid _ => h.agreeAt_resident uid) foalSkinTid

theorem ancestors_eq (h : Later herd later) (mareUid stallionUid : Uid) :
    ancestors later.resident mareUid stallionUid =
      ancestors herd.resident mareUid stallionUid := by
  rw [ancestors, ancestors,
    grandparents_congr (h.agreeAt_resident mareUid) (h.agreeAt_resident stallionUid)]

theorem resident_none (h : Later herd later) {uid : Uid} (hnone : herd.resident uid = none) :
    later.resident uid = none := by
  unfold resident at hnone ⊢
  rw [h.available]
  cases havailable : herd.available uid with
  | true => exact h.missing uid (by simpa [havailable] using hnone)
  | false => rfl

theorem resident_some (h : Later herd later) {uid : Uid} {horse : Horse}
    (hsome : herd.resident uid = some horse) : ∃ lineage,
      later.resident uid = some { horse with lineage := lineage } ∧ horse.lineage ≤ lineage := by
  unfold resident at hsome ⊢
  rw [h.available]
  cases havailable : herd.available uid with
  | true =>
    obtain ⟨lineage, hlater, hle, -⟩ := h.raises uid horse (by simpa [havailable] using hsome)
    exact ⟨lineage, hlater, hle⟩
  | false => simp [havailable] at hsome

theorem touch (herd : Herd) (uids : List Uid) : Later herd (herd.touch uids) :=
  ⟨rfl, .refl herd, fun _ h => h, fun _ h => by simp [Herd.touch, h], rfl⟩

end Later

/-- Keys that were asked for need not be asked for again. -/
theorem touch_eq {herd : Herd} {uids : List Uid} (h : ∀ uid ∈ uids, herd.asked uid = true) :
    herd.touch uids = herd := by
  have hasked : (fun uid => herd.asked uid || uids.contains uid) = herd.asked := by
    funext uid
    cases hcontains : uids.contains uid with
    | true => rw [h uid (by simpa using hcontains), Bool.true_or]
    | false => rw [Bool.or_false]
  rw [touch, hasked]

theorem asked_touch {herd : Herd} {uids : List Uid} {uid : Uid} (h : uid ∈ uids) :
    (herd.touch uids).asked uid = true := by
  simp [touch, h]

/-- What the body of the loop does to a horse whose record is available. -/
theorem repairLineage_some {herd : Herd} {horseUid : Uid} {horse : Horse}
    (h : herd.resident horseUid = some horse) :
    herd.repairLineage horseUid =
      let touched := (herd.touch [horseUid]).touch
        (ancestors herd.resident horse.ancestors.mother horse.ancestors.father)
      let recalculated := fullLineage herd.resident horse
      if recalculated ≤ horse.lineage then (false, touched)
      else (true, touched.setLineage horseUid recalculated) := by
  have hsame : (herd.touch [horseUid]).resident horseUid = some horse := h
  unfold repairLineage
  simp only [h, recalculateLineage, hsame]
  rfl

theorem later_setLineage {herd : Herd} {horseUid : Uid} {horse : Horse} {lineage : UInt32}
    (h : herd.horses horseUid = some horse) (hle : horse.lineage ≤ lineage)
    (hcap : lineage ≤ 9) : Later herd (herd.setLineage horseUid lineage) := by
  refine ⟨rfl, fun uid found hfound => ?_, fun uid hnone => ?_, fun _ h => h, rfl⟩
  · by_cases hsame : uid = horseUid
    · subst hsame
      cases h.symm.trans hfound
      exact ⟨lineage, by simp [setLineage, h], hle, fun _ => hcap⟩
    · exact ⟨found.lineage, by simp [setLineage, update_of_ne hsame, hfound],
        UInt32.le_refl _, fun hne => absurd rfl hne⟩
  · by_cases hsame : uid = horseUid
    · subst hsame
      cases h.symm.trans hnone
    · simp [setLineage, update_of_ne hsame, hnone]

theorem horses_of_resident {herd : Herd} {uid : Uid} {horse : Horse}
    (h : herd.resident uid = some horse) : herd.horses uid = some horse := by
  unfold resident at h
  split at h
  · exact h
  · cases h

theorem later_repairLineage (horseUid : Uid) (herd : Herd) :
    Later herd (herd.repairLineage horseUid).2 := by
  cases hresident : herd.resident horseUid with
  | none =>
    rw [repairLineage, hresident]
    exact .touch herd _
  | some horse =>
    rw [repairLineage_some hresident]
    have htouched := (Later.touch herd [horseUid]).trans (.touch _
      (ancestors herd.resident horse.ancestors.mother horse.ancestors.father))
    dsimp only
    split
    · exact htouched
    next hlower =>
      refine htouched.trans (later_setLineage (horses_of_resident hresident) ?_
        (calculateLineage_le _ _ _ _))
      rw [UInt32.le_iff_toNat_le] at hlower ⊢
      omega

/-- A repaired horse has at least its score, and its family has been asked for. -/
theorem repairLineage_scores {horseUid : Uid} {herd : Herd} {horse : Horse}
    (h : herd.resident horseUid = some horse) :
    (∃ lineage, (herd.repairLineage horseUid).2.horses horseUid =
        some { horse with lineage := lineage } ∧
      fullLineage herd.resident horse ≤ lineage) ∧
    ∀ uid ∈ horseUid :: ancestors herd.resident horse.ancestors.mother
        horse.ancestors.father,
      (herd.repairLineage horseUid).2.asked uid = true := by
  have hasked : ∀ uid ∈ horseUid :: ancestors herd.resident horse.ancestors.mother
      horse.ancestors.father, ((herd.touch [horseUid]).touch (ancestors herd.resident
        horse.ancestors.mother horse.ancestors.father)).asked uid = true := by
    intro uid huid
    rcases List.mem_cons.1 huid with rfl | huid
    · simp [touch]
    · exact asked_touch huid
  have hhorse := horses_of_resident h
  rw [repairLineage_some h]
  dsimp only
  split
  next hle => exact ⟨⟨horse.lineage, hhorse, hle⟩, hasked⟩
  next hlower =>
    refine ⟨⟨fullLineage herd.resident horse, ?_, UInt32.le_refl _⟩, hasked⟩
    simp [setLineage, touch, hhorse]

/-- A horse that has been repaired needs no further repair. -/
theorem repairLineage_later {horseUid : Uid} {herd later : Herd}
    (h : Later (herd.repairLineage horseUid).2 later) :
    later.repairLineage horseUid = (false, later) := by
  have hlater := (later_repairLineage horseUid herd).trans h
  cases hresident : herd.resident horseUid with
  | none =>
    rw [repairLineage, hlater.resident_none hresident]
    rw [repairLineage, hresident] at h
    refine congrArg (Prod.mk false) (touch_eq fun uid huid => h.asked uid (asked_touch huid))
  | some horse =>
    obtain ⟨lineage, hlatest, -⟩ := hlater.resident_some hresident
    obtain ⟨⟨repaired, hrepaired, hscore⟩, hasked⟩ := repairLineage_scores hresident
    obtain ⟨higher, hhigher, hle, -⟩ := h.raises horseUid _ hrepaired
    cases (horses_of_resident hlatest).symm.trans hhigher
    have hfull : fullLineage later.resident { horse with lineage := lineage } =
        fullLineage herd.resident horse := hlater.calculateLineage_eq _ _ _
    rw [repairLineage_some hlatest]
    dsimp only
    rw [hfull, if_pos (UInt32.le_trans hscore hle), hlater.ancestors_eq,
      touch_eq fun uid huid => h.asked uid (hasked uid (by simp_all)),
      touch_eq fun uid huid => h.asked uid (hasked uid (List.mem_cons_of_mem _ huid))]

/-! ## All horses of a character -/

theorem later_repairHorses (horseUids : List Uid) (herd : Herd) :
    Later herd (herd.repairHorses horseUids).2 := by
  induction horseUids generalizing herd with
  | nil => exact .refl herd
  | cons horseUid rest ih => exact (later_repairLineage horseUid herd).trans (ih _)

theorem repairHorses_later (horseUids : List Uid) {herd later : Herd}
    (h : Later (herd.repairHorses horseUids).2 later) :
    later.repairHorses horseUids = (0, later) := by
  induction horseUids generalizing herd with
  | nil => rfl
  | cons horseUid rest ih =>
    have hrest := later_repairHorses rest (herd.repairLineage horseUid).2
    rw [repairHorses, repairLineage_later (hrest.trans h)]
    dsimp only
    rw [ih h]
    rfl

theorem repairHorses_scores {horseUids : List Uid} {uid : Uid} (huid : uid ∈ horseUids)
    {herd : Herd} {horse : Horse} (h : herd.resident uid = some horse) : ∃ lineage,
      (herd.repairHorses horseUids).2.horses uid = some { horse with lineage := lineage } ∧
        fullLineage herd.resident horse ≤ lineage := by
  induction horseUids generalizing herd horse with
  | nil => cases huid
  | cons horseUid rest ih =>
    rcases List.mem_cons.1 huid with rfl | hrest
    · obtain ⟨⟨lineage, hrepaired, hscore⟩, -⟩ := repairLineage_scores h
      obtain ⟨higher, hfinal, hle, -⟩ :=
        (later_repairHorses rest (herd.repairLineage uid).2).raises uid _ hrepaired
      exact ⟨higher, hfinal, UInt32.le_trans hscore hle⟩
    · have hlater := later_repairLineage horseUid herd
      obtain ⟨lineage, hresident, -⟩ := hlater.resident_some h
      obtain ⟨higher, hfinal, hscore⟩ := ih hrest hresident
      refine ⟨higher, hfinal, UInt32.le_trans (UInt32.le_of_eq ?_) hscore⟩
      exact (hlater.calculateLineage_eq _ _ _).symm

theorem later_repairLineages (character : Option Character) (herd : Herd) :
    Later herd (herd.repairLineages character).2 := by
  cases character with
  | none => exact .refl herd
  | some character => exact later_repairHorses _ herd

/-- With its family available, a horse is scored as if all records were. -/
theorem fullLineage_resident {herd : Herd} {uid : Uid} {horse : Horse}
    (h : FamilyAvailable herd uid horse) :
    fullLineage herd.resident horse = fullLineage herd.horses horse := by
  have hagree : ∀ kin ∈ horse.ancestors.mother :: horse.ancestors.father ::
      (buildAncestry herd.horses horse.ancestors.mother horse.ancestors.father).grandparents,
        AgreeAt herd.resident herd.horses kin := by
    intro kin hkin hvalid
    unfold resident
    cases hhorse : herd.horses kin with
    | none => simp
    | some found =>
      have hmem : kin ∈ ancestors herd.horses horse.ancestors.mother
          horse.ancestors.father := by
        rw [ancestors, List.mem_filter]
        exact ⟨hkin, by simpa using hvalid⟩
      rw [h kin (List.mem_cons_of_mem _ hmem) (by simp [hhorse])]
      rfl
  exact calculateLineage_congr (hagree _ (by simp)) (hagree _ (by simp))
    (fun kin hkin => hagree kin (by simp [hkin])) _

/-! ## Runs -/

/-- Every horse has at least the lineage that it was bred with. -/
def BredKept (herd : Herd) : Prop :=
  ∀ uid bred, herd.bred uid = some bred →
    ∃ horse, herd.horses uid = some horse ∧ bred ≤ horse.lineage

theorem BredKept.step {herd : Herd} (h : BredKept herd) (input : HerdInput) :
    BredKept (herdStep herd input) := by
  intro uid bred hbred
  cases input with
  | repairLineages character =>
    have hlater := later_repairLineages character herd
    obtain ⟨horse, hhorse, hle⟩ := h uid bred (hlater.bred ▸ hbred)
    obtain ⟨lineage, hafter, hraised, -⟩ := hlater.raises uid horse hhorse
    exact ⟨_, hafter, UInt32.le_trans hle hraised⟩
  | createFoal foalUid foal mareUid stallionUid =>
    simp only [herdStep, Herd.createFoal] at hbred ⊢
    split at hbred
    next => exact h uid bred hbred
    next hfresh =>
      by_cases hsame : uid = foalUid
      · subst hsame
        simp only [update_self, Option.some.injEq] at hbred ⊢
        exact ⟨_, rfl, UInt32.le_of_eq hbred.symm⟩
      · simp only [Herd.touch, update_of_ne hsame] at hbred ⊢
        exact h uid bred hbred
  | change horseUid change =>
    obtain ⟨horse, hhorse, hle⟩ := h uid bred hbred
    by_cases hsame : uid = horseUid
    · subst hsame
      exact ⟨{ change horse with lineage := horse.lineage },
        by simp [herdStep, Herd.change, hhorse], hle⟩
    · exact ⟨horse, by simp [herdStep, Herd.change, update_of_ne hsame, hhorse], hle⟩
  | setAvailable horseUid available => exact h uid bred hbred
  | delete horseUid =>
    simp only [herdStep, Herd.delete] at hbred ⊢
    by_cases hsame : uid = horseUid
    · subst hsame
      simp at hbred
    · simp only [update_of_ne hsame] at hbred ⊢
      exact h uid bred hbred

theorem BredKept.scores {herd : Herd} (h : BredKept herd) (character : Option Character) :
    Scores character herd (herd.repairLineages character).2 := by
  intro owner howner uid huid horse hhorse hfamily
  cases howner
  have havailable := hfamily uid List.mem_cons_self (by simp [hhorse])
  have hresident : herd.resident uid = some horse := by
    rw [resident, if_pos havailable, hhorse]
  obtain ⟨lineage, hafter, hscore⟩ := repairHorses_scores huid hresident
  refine ⟨_, hafter, (fullLineage_resident hfamily) ▸ hscore, fun bred hbred => ?_⟩
  obtain ⟨found, hfound, hle⟩ := h uid bred hbred
  cases hhorse.symm.trans hfound
  obtain ⟨higher, hlater, hraised, -⟩ :=
    (later_repairLineages (some owner) herd).raises uid horse hhorse
  cases hafter.symm.trans hlater
  exact UInt32.le_trans hle hraised

/-- From any records, and in any order of breeding, changes of the records and of their
availability, a repair of the lineages of a character only raises them. -/
theorem repair_sound (horses : Uid → Option Horse) (available : Uid → Bool)
    (inputs : List HerdInput) (character : Option Character) :
    RepairSound character
      (run herdStep { horses := horses, available := available } inputs) := by
  have hstart : BredKept { horses := horses, available := available } :=
    fun _ _ hbred => absurd hbred.symm (Option.some_ne_none _)
  have hkept : BredKept (run herdStep { horses := horses, available := available } inputs) :=
    run_invariant (fun _ input h => h.step input) hstart inputs
  refine ⟨(later_repairLineages character _).raises, hkept.scores character, ?_⟩
  cases character with
  | none => rfl
  | some character => exact repairHorses_later _ (.refl _)

end Alicia.Genetics
