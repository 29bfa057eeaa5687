import Mathlib.Data.List.Nodup
import Mathlib.Data.UInt

/-!
# The horse registry: grades

The grade of a horse is the highest one whose minimum the sum of its stats reaches.
-/

namespace Alicia.Registry

/-- A grade; the value for breeding is in `BreedingRegistry`. -/
structure GradeInfo where
  grade : UInt32 := 0
  minStatSum : Int32 := 0
  deriving DecidableEq

/-- The grades in order.  A higher grade takes a higher sum. -/
structure GradeTable where
  grades : List GradeInfo
  increasing : grades.Pairwise fun lower higher =>
    lower.grade < higher.grade ∧ lower.minStatSum < higher.minStatSum

namespace GradeTable

variable (table : GradeTable)

def getGradeInfo (grade : UInt32) : Option GradeInfo := table.grades.find? fun info => info.grade = grade

def getGradeForStatSum (statSum : Int32) : UInt32 :=
  table.grades.foldl (fun result info => if info.minStatSum ≤ statSum ∧ result < info.grade then info.grade else result) 1

/-- The grade whose range contains a sum. -/
def gradeFor (statSum : Int) : UInt32 :=
  table.grades.foldl
    (fun result info => if info.minStatSum.toInt ≤ statSum ∧ result < info.grade then info.grade else result) 1

theorem getGradeForStatSum_eq (statSum : Int32) : table.getGradeForStatSum statSum = table.gradeFor statSum.toInt := by
  simp only [getGradeForStatSum, gradeFor, Int32.le_iff_toInt_le]

/-- The fold takes the highest grade that is reached. -/
theorem foldl_le_iff {grades : List GradeInfo} {statSum : Int} {result bound : UInt32} :
    grades.foldl
        (fun result info => if info.minStatSum.toInt ≤ statSum ∧ result < info.grade then info.grade else result)
        result ≤ bound ↔
      result ≤ bound ∧ ∀ info ∈ grades, info.minStatSum.toInt ≤ statSum → info.grade ≤ bound := by
  induction grades generalizing result with
  | nil => simp
  | cons info rest ih =>
    rw [List.foldl_cons, ih, List.forall_mem_cons]
    split
    · next h =>
        constructor
        · rintro ⟨hinfo, hrest⟩
          exact ⟨UInt32.le_trans (UInt32.le_of_lt h.2) hinfo, fun _ => hinfo, hrest⟩
        · rintro ⟨-, hinfo, hrest⟩
          exact ⟨hinfo h.1, hrest⟩
    · next h =>
        constructor
        · rintro ⟨hresult, hrest⟩
          refine ⟨hresult, fun hreached => ?_, hrest⟩
          exact UInt32.le_trans (UInt32.not_lt.1 fun hlt => h ⟨hreached, hlt⟩) hresult
        · rintro ⟨hresult, -, hrest⟩
          exact ⟨hresult, hrest⟩

variable {table}

theorem gradeFor_le_iff {statSum : Int} {bound : UInt32} : table.gradeFor statSum ≤ bound ↔
    1 ≤ bound ∧ ∀ info ∈ table.grades, info.minStatSum.toInt ≤ statSum → info.grade ≤ bound := foldl_le_iff

theorem one_le_gradeFor (statSum : Int) : 1 ≤ table.gradeFor statSum :=
  (gradeFor_le_iff.1 (UInt32.le_refl _)).1

theorem le_gradeFor {info : GradeInfo} (hinfo : info ∈ table.grades) {statSum : Int}
    (h : info.minStatSum.toInt ≤ statSum) : info.grade ≤ table.gradeFor statSum :=
  (gradeFor_le_iff.1 (UInt32.le_refl _)).2 info hinfo h

theorem gradeFor_mono {lower higher : Int} (h : lower ≤ higher) : table.gradeFor lower ≤ table.gradeFor higher :=
  gradeFor_le_iff.2 ⟨one_le_gradeFor higher, fun _ hinfo hreached => le_gradeFor hinfo (hreached.trans h)⟩

theorem mem_of_getGradeInfo {grade : UInt32} {info : GradeInfo} (h : table.getGradeInfo grade = some info) :
    info ∈ table.grades ∧ info.grade = grade :=
  ⟨List.mem_of_find?_eq_some h,
    of_decide_eq_true (@List.find?_some _ (fun info : GradeInfo => decide (info.grade = grade)) _ _ h)⟩

theorem nodup_grades : (table.grades.map GradeInfo.grade).Nodup :=
  List.pairwise_map.2 (table.increasing.imp fun h => UInt32.ne_of_lt h.1)

theorem getGradeInfo_grade {info : GradeInfo} (hinfo : info ∈ table.grades) :
    table.getGradeInfo info.grade = some info := by
  cases hfound : table.getGradeInfo info.grade with
  | none => exact absurd (decide_eq_true rfl) (List.find?_eq_none.1 hfound info hinfo)
  | some found =>
    obtain ⟨hmem, hgrade⟩ := mem_of_getGradeInfo hfound
    rw [List.inj_on_of_nodup_map table.nodup_grades hmem hinfo hgrade]

end GradeTable

end Alicia.Registry
