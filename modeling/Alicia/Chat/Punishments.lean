import Alicia.Chat.Moderation
import Mathlib.Data.List.Induction

/-!
# Outstanding punishments

`CheckOutstandingPunishments` folds the infractions of a user into a verdict.  The end of a punishment is computed on
the clock of 64 bits, also for a permanent one, and the last mute of the list determines the time that is reported.
-/

namespace Alicia.Chat

open Data List
open Chrono (TimePoint Seconds)

variable (now : TimePoint) (infractions : List Infraction)

/-- The time at which an infraction ends, without wrapping. -/
def endOf (infraction : Infraction) : Int :=
  infraction.createdAt.sinceEpoch.toInt + infraction.duration.toInt * 1000000000

/-- The clock can show the end. -/
def InRange (infraction : Infraction) : Prop :=
  -2 ^ 63 ≤ endOf infraction ∧ endOf infraction < 2 ^ 63

/-- A punishment of a kind that counts. -/
structure InForce (punishment : Punishment) (infraction : Infraction) : Prop where
  kind : infraction.punishment = punishment
  unexpired : Unexpired now infraction

/-- A punishment of a kind that the code counts. -/
def counted (punishment : Punishment) (infraction : Infraction) : Bool :=
  !isExpired now infraction && infraction.punishment = punishment

/-! ## The purpose of the check -/

/-- The time is the end of the mute that ends last.  For a permanent mute it is no time in the past. -/
structure Tells (time : TimePoint) : Prop where
  latest : ∀ infraction ∈ infractions, InForce now .mute infraction → infraction.duration ≠ permanent →
    endOf infraction ≤ time.sinceEpoch.toInt
  attained : (∀ infraction ∈ infractions, infraction.punishment = .mute → infraction.duration ≠ permanent) →
    ∃ infraction ∈ infractions, InForce now .mute infraction ∧ endOf infraction = time.sinceEpoch.toInt
  lasting : ∀ infraction ∈ infractions, infraction.punishment = .mute → infraction.duration = permanent →
    now.sinceEpoch.toInt ≤ time.sinceEpoch.toInt

structure Right (verdict : InfractionVerdict) : Prop where
  ban : verdict.preventServerJoining = true ↔ ∃ infraction ∈ infractions, InForce now .ban infraction
  mute : verdict.mutedUntil.isSome = true ↔ ∃ infraction ∈ infractions, InForce now .mute infraction
  time : ∀ time ∈ verdict.mutedUntil, Tells now infractions time

/-- The infractions of a user. -/
def World.outstanding (world : World) (userName : Text) : List Infraction :=
  (world.infractions userName).map UserInfraction.toInfraction

/-- The verdict on a user is right.  There is none if the user is not available. -/
def Judged (world : World) (userName : Text) : Prop :=
  match world.checkOutstandingPunishments userName with
  | .ok verdict => Right world.now (world.outstanding userName) verdict
  | .error (.thrown _) => True
  | .error _ => False

/-! ## The condition -/

/-- A punishment is rightly counted, or where there is none, one is wrongly passed over exactly if another is wrongly
counted. -/
def KindFits (punishment : Punishment) : Prop :=
  (∃ infraction ∈ infractions, InForce now punishment infraction ∧ isExpired now infraction = false) ∨
    ((∃ infraction ∈ infractions, InForce now punishment infraction ∧ isExpired now infraction = true) ↔
      ∃ infraction ∈ infractions, infraction.punishment = punishment ∧ ¬Unexpired now infraction ∧
        isExpired now infraction = false)

/-- The clock shows the end of the last mute as that of a mute in force which ends last. -/
def EndsLast (last : Infraction) : Prop :=
  ∃ infraction ∈ infractions, InForce now .mute infraction ∧ InRange infraction ∧
    expiresAt infraction = expiresAt last ∧
      ∀ other ∈ infractions, InForce now .mute other → endOf other ≤ endOf infraction

/-- With a permanent mute, the clock shows the end of the last mute as no time in the past, nor before the end of
another. -/
def Outlasts (last : Infraction) : Prop :=
  now.sinceEpoch.toInt ≤ (expiresAt last).sinceEpoch.toInt ∧
    ∀ other ∈ infractions, InForce now .mute other → other.duration ≠ permanent →
      endOf other ≤ (expiresAt last).sinceEpoch.toInt

/-- The condition on the last mute that the code counts. -/
def EndFits (last : Infraction) : Prop :=
  if ∃ infraction ∈ infractions, infraction.punishment = .mute ∧ infraction.duration = permanent then
    Outlasts now infractions last
  else EndsLast now infractions last

structure PunishmentsFit : Prop where
  ban : KindFits now infractions .ban
  mute : KindFits now infractions .mute
  time : ∀ last ∈ (infractions.filter (counted now .mute)).getLast?, EndFits now infractions last

variable {now infractions}

/-! ## Ends -/

theorem toInt_expiresAt {infraction : Infraction} (h : InRange infraction) :
    (expiresAt infraction).sinceEpoch.toInt = endOf infraction := by
  have hmul : (infraction.duration * 1000000000).toInt = (infraction.duration.toInt * 1000000000).bmod (2 ^ 64) :=
    Int64.toInt_mul _ _
  obtain ⟨hlow, hhigh⟩ := h
  rw [expiresAt, Int64.toInt_add, hmul, Int.add_bmod_bmod]
  exact Int.bmod_eq_of_le hlow hhigh

/-! ## The verdict -/

theorem counted_iff {punishment : Punishment} {infraction : Infraction} :
    counted now punishment infraction = true ↔
      isExpired now infraction = false ∧ infraction.punishment = punishment := by
  simp [counted]

/-- What the loop makes of the infractions: the last mute that it counts tells the time. -/
theorem foldl_add (infractions : List Infraction) :
    infractions.foldl (InfractionVerdict.add now) {} =
      { mutedUntil := (infractions.filter (counted now .mute)).getLast?.map expiresAt
        preventServerJoining := infractions.any (counted now .ban) } := by
  induction infractions using List.reverseRecOn with
  | nil => rfl
  | append_singleton infractions infraction ih =>
    simp only [foldl_append, ih, foldl_cons, foldl_nil, InfractionVerdict.add,
      filter_append, any_append, any_cons, any_nil, Bool.or_false]
    cases hexpired : isExpired now infraction with
    | true => simp [counted, hexpired]
    | false =>
      by_cases hmute : infraction.punishment = .mute
      · simp [counted, hexpired, hmute, Punishment.mute, Punishment.ban]
      · by_cases hban : infraction.punishment = .ban
        · simp [counted, hexpired, hban, Punishment.mute, Punishment.ban]
        · simp [counted, hexpired, hmute, hban]

theorem any_counted_iff {punishment : Punishment} :
    (infractions.any (counted now punishment) = true ↔ ∃ infraction ∈ infractions, InForce now punishment infraction) ↔
      KindFits now infractions punishment := by
  have hcounted : infractions.any (counted now punishment) = true ↔
      (∃ infraction ∈ infractions, InForce now punishment infraction ∧ isExpired now infraction = false) ∨
        ∃ infraction ∈ infractions, infraction.punishment = punishment ∧ ¬Unexpired now infraction ∧
          isExpired now infraction = false := by
    rw [any_eq_true]
    constructor
    · rintro ⟨infraction, hmem, h⟩
      obtain ⟨hexpired, hkind⟩ := counted_iff.1 h
      by_cases hunexpired : Unexpired now infraction
      · exact .inl ⟨infraction, hmem, ⟨hkind, hunexpired⟩, hexpired⟩
      · exact .inr ⟨infraction, hmem, hkind, hunexpired, hexpired⟩
    · rintro (⟨infraction, hmem, hforce, hexpired⟩ | ⟨infraction, hmem, hkind, -, hexpired⟩)
      · exact ⟨infraction, hmem, counted_iff.2 ⟨hexpired, hforce.kind⟩⟩
      · exact ⟨infraction, hmem, counted_iff.2 ⟨hexpired, hkind⟩⟩
  have hforce : (∃ infraction ∈ infractions, InForce now punishment infraction) ↔
      (∃ infraction ∈ infractions, InForce now punishment infraction ∧ isExpired now infraction = false) ∨
        ∃ infraction ∈ infractions, InForce now punishment infraction ∧ isExpired now infraction = true := by
    constructor
    · rintro ⟨infraction, hmem, h⟩
      cases hexpired : isExpired now infraction with
      | false => exact .inl ⟨infraction, hmem, h, hexpired⟩
      | true => exact .inr ⟨infraction, hmem, h, hexpired⟩
    · rintro (⟨infraction, hmem, h, -⟩ | ⟨infraction, hmem, h, -⟩)
      · exact ⟨infraction, hmem, h⟩
      · exact ⟨infraction, hmem, h⟩
  rw [hcounted, hforce, KindFits]
  by_cases hrightly : ∃ infraction ∈ infractions, InForce now punishment infraction ∧ isExpired now infraction = false
  · simp only [hrightly, true_or]
  · simp only [hrightly, false_or]
    exact Iff.comm

/-- The time is right exactly if the last mute fits. -/
theorem tells_iff {last : Infraction} : Tells now infractions (expiresAt last) ↔ EndFits now infractions last := by
  unfold EndFits
  by_cases hpermanent : ∃ infraction ∈ infractions, infraction.punishment = .mute ∧ infraction.duration = permanent
  · rw [if_pos hpermanent]
    obtain ⟨infraction, hmem, hmute, hduration⟩ := hpermanent
    constructor
    · exact fun h => ⟨h.lasting infraction hmem hmute hduration, h.latest⟩
    · exact fun h => ⟨h.2, fun hnone => absurd hduration (hnone infraction hmem hmute), fun _ _ _ _ => h.1⟩
  · rw [if_neg hpermanent]
    have hlimited (infraction : Infraction) (hmem : infraction ∈ infractions) (hmute : infraction.punishment = .mute) :
        infraction.duration ≠ permanent := fun h => hpermanent ⟨infraction, hmem, hmute, h⟩
    constructor
    · intro h
      obtain ⟨infraction, hmem, hforce, hend⟩ := h.attained hlimited
      have hrange : InRange infraction := by
        have hlow := (expiresAt last).sinceEpoch.le_toInt
        have hhigh := (expiresAt last).sinceEpoch.toInt_lt
        exact ⟨hend ▸ hlow, hend ▸ hhigh⟩
      refine ⟨infraction, hmem, hforce, hrange, ?_, fun other hother hin => ?_⟩
      · have hsame := Int64.toInt_inj.1 ((toInt_expiresAt hrange).trans hend)
        cases hfirst : expiresAt infraction
        cases hlast : expiresAt last
        rw [hfirst, hlast] at hsame
        exact congrArg TimePoint.mk hsame
      · rw [hend]
        exact h.latest other hother hin (hlimited other hother hin.kind)
    · rintro ⟨infraction, hmem, hforce, hrange, hsame, hlatest⟩
      have hend := toInt_expiresAt hrange
      rw [hsame] at hend
      refine ⟨fun other hother hin _ => ?_, fun _ => ⟨infraction, hmem, hforce, hend.symm⟩, ?_⟩
      · exact le_of_le_of_eq (hlatest other hother hin) hend.symm
      · intro other hother hmute hduration
        exact absurd hduration (hlimited other hother hmute)

theorem right_iff : Right now infractions (infractions.foldl (InfractionVerdict.add now) {}) ↔
    PunishmentsFit now infractions := by
  rw [foldl_add]
  have hmuted : ((infractions.filter (counted now .mute)).getLast?.map expiresAt).isSome = true ↔
      infractions.any (counted now .mute) = true := by
    rw [Option.isSome_map, List.getLast?_isSome, any_eq_true]
    simp
  have htime : (∀ time ∈ (infractions.filter (counted now .mute)).getLast?.map expiresAt, Tells now infractions time) ↔
      ∀ last ∈ (infractions.filter (counted now .mute)).getLast?, EndFits now infractions last := by
    simp only [← tells_iff]
    simp
  constructor
  · rintro ⟨hban, hmute, h⟩
    exact ⟨any_counted_iff.1 hban, any_counted_iff.1 (hmuted.symm.trans hmute), htime.1 h⟩
  · rintro ⟨hban, hmute, h⟩
    exact ⟨any_counted_iff.2 hban, hmuted.trans (any_counted_iff.2 hmute), htime.2 h⟩

/-- The verdict on a user is right exactly if the infractions are available and fit. -/
theorem judged_iff (world : World) (userName : Text) :
    Judged world userName ↔ (world.userAvailable userName = true →
      (∀ infraction ∈ world.infractions userName, infraction.available = true) ∧
        PunishmentsFit world.now (world.outstanding userName)) := by
  unfold Judged World.checkOutstandingPunishments
  cases huser : world.userAvailable userName with
  | false => simp
  | true =>
    by_cases hall : ∀ infraction ∈ world.infractions userName, infraction.available = true
    · rw [if_neg (show ¬(!true) = true by decide), if_pos (List.all_eq_true.2 hall)]
      dsimp only
      refine Iff.trans right_iff ?_
      exact ⟨fun h _ => ⟨hall, h⟩, fun h => (h rfl).2⟩
    · rw [if_neg (show ¬(!true) = true by decide), if_neg fun h => hall (List.all_eq_true.1 h)]
      exact ⟨False.elim, fun h => hall (h rfl).1⟩

/-- A permanent mute. -/
def permanentMute : Infraction := { punishment := .mute, duration := permanent }

/-- It is reported to have ended one second before it began. -/
theorem permanent_in_past : ¬Judged { infractions := fun _ => [{ permanentMute with }] } [] := by
  intro h
  have hright : Right .epoch [permanentMute] ([permanentMute].foldl (InfractionVerdict.add .epoch) {}) := h
  have htime := hright.time ⟨-1000000000⟩ (by decide)
  exact absurd (htime.lasting permanentMute (List.mem_singleton.2 rfl) rfl rfl) (by decide)

end Alicia.Chat
