import Alicia.Ranch.Recovery
import Alicia.Registry.Grades
import Alicia.Transition.Run

/-!
# Status points

A growth point raises one stat of a horse by one, and at the end of the range of its grade the grade too.  The client
sends the five stats as they shall be.  A command that raises nothing is taken for one that raises one stat.
-/

namespace Alicia.Ranch

open Transition Data Registry GradeTable
open DataDirector (characterStorage horseStorage)

structure StatusPointApply where
  horseUid : Uid
  stats : Horse.Stats

inductive StatusPointApplyReply where
  | ok
  | cancel
  deriving DecidableEq

inductive StatusPointFailure where
  | thrown (what : String)
  /-- A record was used that the code did not get. -/
  | undefined
  deriving DecidableEq

structure StatusPointLookups where
  character : Bool := true
  horse : Bool := true

/-- `currentStatSum`, which is computed without a sign. -/
def currentStatSum (stats : Horse.Stats) : Int32 :=
  (stats.agility + stats.ambition + stats.rush + stats.endurance + stats.courage).toInt32

/-- The access of `HandleStatusPointApply` to the horse: what is applied, if anything is. -/
def applyStatusPoint (nextGradeInfo : Option GradeInfo) (stats : Horse.Stats) (horse : Horse) : Option Horse :=
  let agilityDelta : Int := stats.agility.toNat - horse.stats.agility.toNat
  let ambitionDelta : Int := stats.ambition.toNat - horse.stats.ambition.toNat
  let rushDelta : Int := stats.rush.toNat - horse.stats.rush.toNat
  let enduranceDelta : Int := stats.endurance.toNat - horse.stats.endurance.toNat
  let courageDelta : Int := stats.courage.toNat - horse.stats.courage.toNat
  if horse.growthPoints = 0 then none
  else if agilityDelta < 0 ∨ ambitionDelta < 0 ∨ rushDelta < 0 ∨ enduranceDelta < 0 ∨ courageDelta < 0 then none
  else if 1 < agilityDelta + ambitionDelta + rushDelta + enduranceDelta + courageDelta then none
  else if nextGradeInfo.any fun info => info.minStatSum ≤ currentStatSum horse.stats then none
  else
    some { horse with
      stats := stats
      growthPoints := horse.growthPoints - 1
      grade :=
        if nextGradeInfo.any fun info => info.minStatSum ≤ currentStatSum horse.stats + 1 then horse.grade + 1
        else horse.grade }

def handleStatusPointApply (grades : GradeTable) (lookups : StatusPointLookups) (caller : Uid)
    (command : StatusPointApply) : Effect DataDirector StatusPointFailure StatusPointApplyReply := fun data =>
  match characterStorage.find lookups.character caller data with
  | none => .error (.thrown "Value of the record is unavailable") data
  | some character =>
    if !ownsHorse character command.horseUid then .ok .cancel data
    else
      match horseStorage.cached lookups.horse command.horseUid data with
      | none => .error .undefined data
      | some horse =>
        match applyStatusPoint (grades.getGradeInfo (horse.grade + 1)) command.stats horse with
        | none => .ok .cancel data
        | some applied => .ok .ok (horseStorage.write command.horseUid applied data)

structure StatusPointInput where
  lookups : StatusPointLookups := {}
  caller : Uid
  command : StatusPointApply

def statusPointStep (grades : GradeTable) (data : DataDirector) (input : StatusPointInput) : DataDirector :=
  (handleStatusPointApply grades input.lookups input.caller input.command).final data

/-! ## The purpose of the points -/

def totalStats (stats : Horse.Stats) : Nat :=
  stats.agility.toNat + stats.ambition.toNat + stats.rush.toNat + stats.endurance.toNat + stats.courage.toNat

inductive Stat where
  | agility | ambition | rush | endurance | courage
  deriving DecidableEq

def Stat.value (stats : Horse.Stats) : Stat → Nat
  | agility => stats.agility.toNat
  | ambition => stats.ambition.toNat
  | rush => stats.rush.toNat
  | endurance => stats.endurance.toNat
  | courage => stats.courage.toNat

/-- Exactly one stat rises, by exactly one. -/
def RaisesOne (stats stats' : Horse.Stats) : Prop :=
  ∃ stat : Stat, stat.value stats' = stat.value stats + 1 ∧ ∀ other ≠ stat, other.value stats' = other.value stats

/-- A growth point of the horse is spent on one stat; of the rest only the grade may rise. -/
structure Spends (horse horse' : Horse) : Prop where
  raises : RaisesOne horse.stats horse'.stats
  points : horse'.growthPoints.toNat + 1 = horse.growthPoints.toNat
  rest : ∃ grade, horse' = { horse with stats := horse'.stats, growthPoints := horse'.growthPoints, grade := grade }

/-- A command either spends one point of an owned horse or changes nothing. -/
def Applies (grades : GradeTable) (data : DataDirector) (input : StatusPointInput) : Prop :=
  if (handleStatusPointApply grades input.lookups input.caller input.command).returned data = some .ok then
    ∃ character ∈ characterStorage.find input.lookups.character input.caller data,
      ownsHorse character input.command.horseUid = true ∧
      ∃ horse horse', data.horses input.command.horseUid = some horse ∧ Spends horse horse' ∧
        statusPointStep grades data input = horseStorage.write input.command.horseUid horse' data
  else statusPointStep grades data input = data

/-- The grade is not above the one whose range contains the sum of the stats. -/
def NotAbove (grades : GradeTable) (horse : Horse) : Prop := horse.grade ≤ grades.gradeFor (totalStats horse.stats)

def GradeMatches (grades : GradeTable) (horse : Horse) : Prop := horse.grade = grades.gradeFor (totalStats horse.stats)

/-- What is kept of a horse over a run. -/
structure GrowsTo (grades : GradeTable) (horse horse' : Horse) : Prop where
  conserved : horse'.growthPoints.toNat + totalStats horse'.stats = horse.growthPoints.toNat + totalStats horse.stats
  notAbove : NotAbove grades horse → NotAbove grades horse'
  graded : GradeMatches grades horse → GradeMatches grades horse'

/-- Along a run each command spends a point or changes nothing, and every horse keeps its points and stats in sum, a
grade that is not above, and one that matches. -/
def StatusPointsApplied (grades : GradeTable) (data : DataDirector) (inputs : List StatusPointInput) : Prop :=
  Guarded (statusPointStep grades) (Applies grades) data inputs ∧
    ∀ uid horse, data.horses uid = some horse → ∃ horse',
      (run (statusPointStep grades) data inputs).horses uid = some horse' ∧ GrowsTo grades horse horse'

/-! ## The condition -/

/-- The next grade by number is a higher one, and no other one begins at the next sum. -/
structure GradeFollows (grades : GradeTable) (horse : Horse) : Prop where
  higher : ∀ info ∈ grades.grades, info.grade = horse.grade + 1 → horse.grade < info.grade
  only : ∀ info ∈ grades.grades, info.minStatSum.toInt = totalStats horse.stats + 1 → info.grade = horse.grade + 1

/-- A point may be spent on the horse: it has one, and the range of its grade goes on. -/
def Raisable (grades : GradeTable) (horse : Horse) : Prop :=
  horse.growthPoints ≠ 0 ∧
    ∀ info ∈ grades.getGradeInfo (horse.grade + 1), currentStatSum horse.stats < info.minStatSum

/-- The condition of a command: the record of an owned horse is available; while points may be spent on the horse, the
stats that are sent are not those that it has; and the next grade of a horse whose grade matches is the next number. -/
def PointSent (grades : GradeTable) (data : DataDirector) (input : StatusPointInput) : Prop :=
  ∀ character ∈ characterStorage.find input.lookups.character input.caller data,
    ownsHorse character input.command.horseUid = true →
      ∃ horse ∈ horseStorage.cached input.lookups.horse input.command.horseUid data,
        Raisable grades horse → input.command.stats ≠ horse.stats ∧ (GradeMatches grades horse → GradeFollows grades horse)

section Arithmetic

theorem toInt_currentStatSum_le (stats : Horse.Stats) : (currentStatSum stats).toInt ≤ totalStats stats := by
  have hsigned := toInt_toInt32 (stats.agility + stats.ambition + stats.rush + stats.endurance + stats.courage)
  rw [currentStatSum, totalStats]
  simp only [UInt32.toNat_add] at hsigned
  split at hsigned <;> omega

/-- A sum that fits is computed without loss. -/
theorem toInt_currentStatSum {stats : Horse.Stats} (h : totalStats stats < 2 ^ 31) :
    (currentStatSum stats).toInt = totalStats stats := by
  have hsigned := toInt_toInt32 (stats.agility + stats.ambition + stats.rush + stats.endurance + stats.courage)
  rw [currentStatSum]
  rw [totalStats] at h ⊢
  simp only [UInt32.toNat_add] at hsigned
  split at hsigned <;> omega

/-- Below a minimum the next sum is computed without loss. -/
theorem toInt_currentStatSum_next {stats : Horse.Stats} {minStatSum : Int32} (h : currentStatSum stats < minStatSum) :
    (currentStatSum stats + 1).toInt = (currentStatSum stats).toInt + 1 := by
  have hlt := Int32.lt_iff_toInt_lt.1 h
  have hmax := minStatSum.toInt_lt
  have hmin := (currentStatSum stats).le_toInt
  have hone : (1 : Int32).toInt = 1 := rfl
  rw [Int32.toInt_add, hone]
  exact Int.bmod_eq_of_le (by omega) (by omega)

end Arithmetic

section Horse

variable {grades : GradeTable} {stats : Horse.Stats} {horse horse' : Horse}

/-- What is applied: no stat falls, they rise by one in all or not at all, and the rest is told. -/
theorem applyStatusPoint_eq_some {next : Option GradeInfo} (h : applyStatusPoint next stats horse = some horse') :
    horse.growthPoints ≠ 0 ∧ (∀ info ∈ next, currentStatSum horse.stats < info.minStatSum) ∧
      (∀ stat : Stat, stat.value horse.stats ≤ stat.value stats) ∧ totalStats stats ≤ totalStats horse.stats + 1 ∧
      horse' = { horse with
        stats := stats
        growthPoints := horse.growthPoints - 1
        grade :=
          if next.any fun info => info.minStatSum ≤ currentStatSum horse.stats + 1 then horse.grade + 1
          else horse.grade } := by
  unfold applyStatusPoint at h
  dsimp only at h
  split at h
  · cases h
  · next hpoints =>
      split at h
      · cases h
      · next hfalls =>
          split at h
          · cases h
          · next htotal =>
              split at h
              · cases h
              · next hbound =>
                  refine ⟨hpoints, ?_, ?_, ?_, (Option.some_inj.1 h).symm⟩
                  · rintro info rfl
                    simpa [Int32.not_le] using hbound
                  · intro stat
                    cases stat <;> simp only [Stat.value] <;> omega
                  · simp only [totalStats]
                    omega

theorem eq_of_totalStats (hle : ∀ stat : Stat, stat.value horse.stats ≤ stat.value stats)
    (h : totalStats stats = totalStats horse.stats) : stats = horse.stats := by
  have hagility := hle .agility
  have hambition := hle .ambition
  have hrush := hle .rush
  have hendurance := hle .endurance
  have hcourage := hle .courage
  simp only [Stat.value, totalStats] at *
  obtain ⟨agility, courage, rush, endurance, ambition⟩ := stats
  cases hstats : horse.stats
  simp only [hstats, Horse.Stats.mk.injEq] at *
  refine ⟨?_, ?_, ?_, ?_, ?_⟩ <;> apply UInt32.toNat_inj.1 <;> omega

theorem raisesOne_of_totalStats (hle : ∀ stat : Stat, stat.value horse.stats ≤ stat.value stats)
    (h : totalStats stats = totalStats horse.stats + 1) : RaisesOne horse.stats stats := by
  have hagility := hle .agility
  have hambition := hle .ambition
  have hrush := hle .rush
  have hendurance := hle .endurance
  have hcourage := hle .courage
  simp only [Stat.value, totalStats] at *
  by_contra hnone
  have hsame (stat : Stat) : stat.value stats ≠ stat.value horse.stats + 1 := by
    intro hstat
    refine hnone ⟨stat, hstat, fun other hne => ?_⟩
    cases stat <;> cases other <;> simp only [Stat.value, ne_eq, not_true_eq_false] at * <;> omega
  have hagility' := hsame .agility
  have hambition' := hsame .ambition
  have hrush' := hsame .rush
  have hendurance' := hsame .endurance
  have hcourage' := hsame .courage
  simp only [Stat.value] at *
  omega

theorem totalStats_next (hle : ∀ stat : Stat, stat.value horse.stats ≤ stat.value stats)
    (hnext : totalStats stats ≤ totalStats horse.stats + 1) (hne : stats ≠ horse.stats) :
    totalStats stats = totalStats horse.stats + 1 := by
  have hdifferent := mt (eq_of_totalStats hle) hne
  have hagility := hle .agility
  have hambition := hle .ambition
  have hrush := hle .rush
  have hendurance := hle .endurance
  have hcourage := hle .courage
  simp only [Stat.value, totalStats] at *
  omega

/-- A horse of the right grade knows its sum, and stays below the next grade. -/
theorem below_next (hgraded : GradeMatches grades horse) (hfollows : GradeFollows grades horse) {info : GradeInfo}
    (hinfo : info ∈ grades.getGradeInfo (horse.grade + 1)) :
    (currentStatSum horse.stats).toInt = totalStats horse.stats ∧ (totalStats horse.stats : Int) < info.minStatSum.toInt := by
  obtain ⟨hmem, hnumber⟩ := mem_of_getGradeInfo hinfo
  have hhigher := hfollows.higher info hmem hnumber
  have hbelow : (totalStats horse.stats : Int) < info.minStatSum.toInt := by
    by_contra hnot
    have hle := le_gradeFor hmem (Int.not_lt.1 hnot)
    rw [← hgraded] at hle
    exact UInt32.not_le.2 hhigher hle
  have hmax := info.minStatSum.toInt_lt
  exact ⟨toInt_currentStatSum (by omega), hbelow⟩

section Applied

variable (h : applyStatusPoint (grades.getGradeInfo (horse.grade + 1)) stats horse = some horse')

include h

theorem raisable_of_apply : Raisable grades horse :=
  ⟨(applyStatusPoint_eq_some h).1, (applyStatusPoint_eq_some h).2.1⟩

theorem apply_points : horse'.growthPoints.toNat + 1 = horse.growthPoints.toNat := by
  obtain ⟨hpoints, -, -, -, rfl⟩ := applyStatusPoint_eq_some h
  have hpositive : horse.growthPoints.toNat ≠ 0 := fun hzero => hpoints (UInt32.toNat_inj.1 hzero)
  have hlt := horse.growthPoints.toNat_lt
  have hone : (1 : UInt32).toNat = 1 := rfl
  show (horse.growthPoints - 1).toNat + 1 = _
  rw [UInt32.toNat_sub, hone]
  omega

/-- The grade stays, or it becomes the next one by number, whose minimum the next sum reaches. -/
theorem apply_grade :
    (horse'.grade = horse.grade ∧ ∀ info ∈ grades.getGradeInfo (horse.grade + 1),
        ¬info.minStatSum ≤ currentStatSum horse.stats + 1) ∨
      ∃ info ∈ grades.getGradeInfo (horse.grade + 1),
        info.minStatSum ≤ currentStatSum horse.stats + 1 ∧ horse'.grade = info.grade := by
  obtain ⟨-, -, -, -, rfl⟩ := applyStatusPoint_eq_some h
  cases hinfo : grades.getGradeInfo (horse.grade + 1) with
  | none => exact .inl ⟨rfl, fun info hnone => absurd hnone (by simp)⟩
  | some info =>
    by_cases hreached : info.minStatSum ≤ currentStatSum horse.stats + 1
    · refine .inr ⟨info, rfl, hreached, ?_⟩
      simp [hreached, (mem_of_getGradeInfo hinfo).2]
    · refine .inl ⟨by simp [hreached], ?_⟩
      rintro other ⟨⟩
      exact hreached

variable (hne : stats ≠ horse.stats)

include hne

theorem apply_total : totalStats horse'.stats = totalStats horse.stats + 1 := by
  obtain ⟨-, -, hle, hnext, rfl⟩ := applyStatusPoint_eq_some h
  exact totalStats_next hle hnext hne

theorem spends_of_apply : Spends horse horse' where
  raises := by
    have htotal := apply_total h hne
    obtain ⟨-, -, hle, -, rfl⟩ := applyStatusPoint_eq_some h
    exact raisesOne_of_totalStats hle htotal
  points := apply_points h
  rest := by
    obtain ⟨-, -, -, -, rfl⟩ := applyStatusPoint_eq_some h
    exact ⟨_, rfl⟩

theorem apply_notAbove (habove : NotAbove grades horse) : NotAbove grades horse' := by
  rw [NotAbove, apply_total h hne]
  obtain ⟨hgrade, -⟩ | ⟨info, hinfo, hreached, hgrade⟩ := apply_grade h
  · rw [hgrade]
    exact UInt32.le_trans habove (gradeFor_mono (by omega))
  · have hle := Int32.le_iff_toInt_le.1 hreached
    rw [toInt_currentStatSum_next ((raisable_of_apply h).2 info hinfo)] at hle
    have hsum := toInt_currentStatSum_le horse.stats
    rw [hgrade]
    exact le_gradeFor (mem_of_getGradeInfo hinfo).1 (by omega)

theorem apply_graded (hgraded : GradeMatches grades horse) (hfollows : GradeFollows grades horse) :
    GradeMatches grades horse' := by
  have hone : 1 ≤ horse.grade := by
    rw [hgraded]
    exact one_le_gradeFor _
  -- a grade that the next sum reaches was reached before or is the next one
  have hreaches (info : GradeInfo) (hinfo : info ∈ grades.grades)
      (hle : info.minStatSum.toInt ≤ totalStats horse.stats + 1) :
      info.grade ≤ horse.grade ∨ info.grade = horse.grade + 1 ∧ info.minStatSum.toInt = totalStats horse.stats + 1 := by
    by_cases hbefore : info.minStatSum.toInt ≤ totalStats horse.stats
    · left
      rw [hgraded]
      exact le_gradeFor hinfo hbefore
    · right
      exact ⟨hfollows.only info hinfo (by omega), by omega⟩
  rw [GradeMatches, apply_total h hne]
  obtain ⟨hgrade, hunreached⟩ | ⟨info, hinfo, hreached, hgrade⟩ := apply_grade h
  · rw [hgrade]
    apply UInt32.le_antisymm
    · rw [hgraded]
      exact gradeFor_mono (by omega)
    · refine gradeFor_le_iff.2 ⟨hone, fun info hinfo hle => ?_⟩
      obtain hbefore | ⟨hnumber, hmin⟩ := hreaches info hinfo (by exact_mod_cast hle)
      · exact hbefore
      · have hnext := getGradeInfo_grade hinfo
        rw [hnumber] at hnext
        obtain ⟨hsum, -⟩ := below_next hgraded hfollows hnext
        refine absurd (Int32.le_iff_toInt_le.2 ?_) (hunreached info hnext)
        rw [toInt_currentStatSum_next ((raisable_of_apply h).2 info hnext)]
        omega
  · obtain ⟨hmem, hnumber⟩ := mem_of_getGradeInfo hinfo
    obtain ⟨hsum, hbelow⟩ := below_next hgraded hfollows hinfo
    have hle := Int32.le_iff_toInt_le.1 hreached
    rw [toInt_currentStatSum_next ((raisable_of_apply h).2 info hinfo)] at hle
    have hhigher := hfollows.higher info hmem hnumber
    rw [hgrade]
    apply UInt32.le_antisymm
    · exact le_gradeFor hmem (by push_cast; omega)
    · refine gradeFor_le_iff.2
        ⟨UInt32.le_trans hone (UInt32.le_of_lt hhigher), fun other hother hother' => ?_⟩
      obtain hbefore | ⟨hsame, -⟩ := hreaches other hother (by exact_mod_cast hother')
      · exact UInt32.le_trans hbefore (UInt32.le_of_lt hhigher)
      · rw [hsame, hnumber]
        exact UInt32.le_refl _

end Applied

end Horse

section Runs

variable {grades : GradeTable} {data : DataDirector} {input : StatusPointInput}

theorem GrowsTo.refl (grades : GradeTable) (horse : Horse) : GrowsTo grades horse horse := ⟨rfl, id, id⟩

theorem GrowsTo.trans {grades : GradeTable} {horse horse' horse'' : Horse} (first : GrowsTo grades horse horse')
    (second : GrowsTo grades horse' horse'') : GrowsTo grades horse horse'' :=
  ⟨second.conserved.trans first.conserved, second.notAbove ∘ first.notAbove, second.graded ∘ first.graded⟩

/-- What a command does: it changes nothing, or it applies something to an owned horse. -/
theorem handleStatusPointApply_cases (grades : GradeTable) (data : DataDirector) (input : StatusPointInput) :
    (statusPointStep grades data input = data ∧
        (handleStatusPointApply grades input.lookups input.caller input.command).returned data ≠ some .ok) ∨
      ∃ character ∈ characterStorage.find input.lookups.character input.caller data,
        ownsHorse character input.command.horseUid = true ∧
        ∃ horse ∈ horseStorage.cached input.lookups.horse input.command.horseUid data, ∃ horse',
          applyStatusPoint (grades.getGradeInfo (horse.grade + 1)) input.command.stats horse = some horse' ∧
          statusPointStep grades data input = horseStorage.write input.command.horseUid horse' data ∧
          (handleStatusPointApply grades input.lookups input.caller input.command).returned data = some .ok := by
  unfold statusPointStep Effect.final Effect.returned handleStatusPointApply
  cases hcharacter : characterStorage.find input.lookups.character input.caller data with
  | none => exact .inl ⟨rfl, by simp⟩
  | some character =>
    dsimp only
    cases howned : ownsHorse character input.command.horseUid with
    | false => exact .inl ⟨rfl, by simp⟩
    | true =>
      cases hhorse : horseStorage.cached input.lookups.horse input.command.horseUid data with
      | none => exact .inl ⟨rfl, by simp⟩
      | some horse =>
        cases happly : applyStatusPoint (grades.getGradeInfo (horse.grade + 1)) input.command.stats horse with
        | none => exact .inl ⟨by simp [happly], by simp [happly]⟩
        | some horse' =>
          exact .inr ⟨character, rfl, howned, horse, rfl, horse', happly, by simp [happly], by simp [happly]⟩

theorem applies_of_pointSent (hsent : PointSent grades data input) : Applies grades data input := by
  unfold Applies
  obtain ⟨hsame, hreply⟩ | ⟨character, hcharacter, howned, horse, hhorse, horse', happly, hafter, hreply⟩ :=
    handleStatusPointApply_cases grades data input
  · rw [if_neg hreply]
    exact hsame
  · rw [if_pos hreply]
    obtain ⟨other, hother, hfit⟩ := hsent character hcharacter howned
    cases hhorse.symm.trans hother
    exact ⟨character, hcharacter, howned, horse, horse', Storage.records_of_cached hhorse,
      spends_of_apply happly (hfit (raisable_of_apply happly)).1, hafter⟩

/-- One command keeps what is to be kept of every horse. -/
theorem grows_step (hsent : PointSent grades data input) {uid : Uid} {horse : Horse}
    (hhorse : data.horses uid = some horse) :
    ∃ horse', (statusPointStep grades data input).horses uid = some horse' ∧ GrowsTo grades horse horse' := by
  obtain ⟨hsame, -⟩ | ⟨character, hcharacter, howned, before, hbefore, after, happly, hafter, -⟩ :=
    handleStatusPointApply_cases grades data input
  · rw [hsame]
    exact ⟨horse, hhorse, .refl grades horse⟩
  · have hrecords : (statusPointStep grades data input).horses =
        Function.update data.horses input.command.horseUid (some after) := by
      rw [hafter]
      exact @Storage.records_write _ horseStorage _ _ _
    rw [hrecords]
    by_cases huid : uid = input.command.horseUid
    · subst huid
      cases hhorse.symm.trans (Storage.records_of_cached hbefore)
      obtain ⟨other, hother, hfit⟩ := hsent character hcharacter howned
      cases hbefore.symm.trans hother
      obtain ⟨hne, hfollows⟩ := hfit (raisable_of_apply happly)
      have hpoints := apply_points happly
      have htotal := apply_total happly hne
      exact ⟨after, Function.update_self .., by omega, apply_notAbove happly hne,
        fun hgraded => apply_graded happly hne hgraded (hfollows hgraded)⟩
    · rw [Function.update_of_ne huid]
      exact ⟨horse, hhorse, .refl grades horse⟩

theorem grows_run {inputs : List StatusPointInput} (hrun : Guarded (statusPointStep grades) (PointSent grades) data inputs)
    {uid : Uid} {horse : Horse} (hhorse : data.horses uid = some horse) :
    ∃ horse', (run (statusPointStep grades) data inputs).horses uid = some horse' ∧ GrowsTo grades horse horse' := by
  induction inputs generalizing data horse with
  | nil => exact ⟨horse, hhorse, .refl grades horse⟩
  | cons input rest ih =>
    obtain ⟨middle, hmiddle, hfirst⟩ := grows_step hrun.1 hhorse
    obtain ⟨last, hlast, hsecond⟩ := ih hrun.2 hmiddle
    exact ⟨last, hlast, hfirst.trans hsecond⟩

/-- Growth points are well spent along every run whose commands send a point. -/
theorem status_points_applied (grades : GradeTable) (data : DataDirector) (inputs : List StatusPointInput)
    (hrun : Guarded (statusPointStep grades) (PointSent grades) data inputs) : StatusPointsApplied grades data inputs :=
  ⟨hrun.mono fun _ _ => applies_of_pointSent, fun _ _ => grows_run hrun⟩

/-- The first two grades. -/
def firstGrades : GradeTable where
  grades := [{ grade := 1, minStatSum := 0 }, { grade := 2, minStatSum := 10 }]
  increasing := by decide

/-- A horse at the end of the first grade. -/
def novice : Horse :=
  { uid := 7, grade := 1, growthPoints := 3, stats := { agility := 2, courage := 2, rush := 2, endurance := 2, ambition := 1 } }

def noviceData : DataDirector where
  characters uid := if uid = 1 then some { uid := 1, mountUid := 7 } else none
  horses uid := if uid = 7 then some novice else none

theorem status_points_applied_novice : StatusPointsApplied firstGrades noviceData
    [{ caller := 1, command := ⟨7, { novice.stats with ambition := 2 }⟩ }] := by
  refine status_points_applied _ _ _ ⟨?_, trivial⟩
  rintro character ⟨⟩ -
  refine ⟨novice, rfl, fun _ => ⟨by decide, fun _ => ⟨by decide, by decide⟩⟩⟩

/-- The stats that the horse has cost a point and raise the grade. -/
theorem unchanged_stats_spend : ¬StatusPointsApplied firstGrades noviceData
    [{ caller := 1, command := ⟨7, novice.stats⟩ }] := by
  rintro ⟨-, hgrows⟩
  obtain ⟨horse', hhorse', hgrowsTo⟩ := hgrows 7 novice rfl
  have hspent : horse' = { novice with growthPoints := 2, grade := 2 } :=
    Option.some_inj.1 (hhorse'.symm.trans (by decide +kernel))
  have hconserved := hgrowsTo.conserved
  rw [hspent] at hconserved
  exact absurd hconserved (by decide)

end Runs

end Alicia.Ranch
