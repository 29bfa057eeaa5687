import Alicia.Breeding.Ownership
import Mathlib.Data.List.Nodup

/-!
# The payout of a registration

A registration is meant to end only in a step that deletes its stallion record, makes the horse an adult
again and rewards the owner.  `UnregisterStallion` returns early when a record is not available, and goes on
when the reward cannot be created, but both of its callers erase the registration after it.
-/

namespace Alicia.Breeding

open Transition Data Registry Possession Function Storage List Option Prod
open DataDirector (characterStorage horseStorage stallionStorage rewardStorage)

/-! ## The purpose of the payout -/

/-- A registration is no longer there. -/
def Ends (before after : Market) (entry : Uid × Uid) : Prop :=
  entry ∈ before.registrations ∧ entry ∉ after.registrations

/-- The stallion has mated. -/
def Mated (data : DataDirector) (stallionUid : Uid) : Prop :=
  ∃ stallion, data.stallions stallionUid = some stallion ∧ 0 < stallion.timesMated

/-- A reward for the earnings of a stallion. -/
structure Rewards (stallion : Stallion) (reward : Data.Reward) : Prop where
  owner : reward.characterUid = stallion.ownerUid
  type : reward.type = .breeding
  carrots : reward.carrots = (earningsOf stallion).earnings

/-- A registration is paid out: its record is gone, the horse is an adult, and the owner has a new reward if
the stallion has mated. -/
structure PaidOut (before after : DataDirector) (entry : Uid × Uid) (claimUid : Uid) : Prop where
  reward : ∃ stallion, before.stallions entry.2 = some stallion ∧ (0 < stallion.timesMated →
    before.rewards claimUid = none ∧ ∃ reward, after.rewards claimUid = some reward ∧ Rewards stallion reward)
  deleted : after.stallions entry.2 = none
  adult : ∃ horse, after.horses entry.1 = some horse ∧ horse.type = .adult

/-- The registrations that end are paid out, each by a reward of its own, and no other reward is created.  A
record that is paid out is deleted, so it is not paid out again. -/
structure Settles (before after : Market) (claims : Uid × Uid → Uid) : Prop where
  paid : ∀ entry, Ends before after entry → PaidOut before.data after.data entry (claims entry)
  distinct : ∀ entry other, Ends before after entry → Ends before after other → Mated before.data entry.2 →
    Mated before.data other.2 → claims entry = claims other → entry = other
  only : ∀ claimUid, before.data.rewards claimUid = none → (after.data.rewards claimUid).isSome = true →
    ∃ entry, Ends before after entry ∧ Mated before.data entry.2 ∧ claims entry = claimUid

section Runs

variable (registry : BreedingRegistry) (items : ItemRegistry)

/-- What is expected of a step: the steps that end registrations pay them out, and no other step ends one. -/
def PaysOut (paddock : Paddock) (input : PaddockInput) : Prop :=
  let after := paddockStep registry items paddock input
  match input with
  | .unregister _ _ _ | .expireCollected _ =>
    ∃ claims, Settles paddock.ranch.toMarket after.ranch.toMarket claims
  | _ => ∀ entry ∈ paddock.registrations, entry ∈ after.registrations

/-! ## The condition -/

/-- The records of a registration are available when it is paid out, and the reward can be created. -/
def Payable (lookups : UnregisterLookups) (entry : Uid × Uid) (data : DataDirector) : Prop :=
  ∃ stallion horse, stallionStorage.cached lookups.stallionAgain entry.2 data = some stallion ∧
    horseStorage.cached lookups.horseAgain entry.1 data = some horse ∧
    (0 < stallion.timesMated → (rewardStorage.fresh lookups.reward data).isSome = true)

/-- The character may end the registration. -/
def MayUnregister (lookups : UnregisterLookups) (characterUid : Uid) (entry : Uid × Uid)
    (data : DataDirector) : Prop :=
  (∃ character, characterStorage.find lookups.character characterUid data = some character ∧
    entry.1 ∈ character.horses) ∧
  (stallionStorage.cached lookups.stallion entry.2 data).isSome = true ∧
  (horseStorage.cached lookups.horse entry.1 data).isSome = true

/-- An expired registration can be paid out, or it ended meanwhile and its record is gone. -/
def Expirable (lookups : Uid → UnregisterLookups) (market : Market) (entry : Uid × Uid) : Prop :=
  entry ∈ market.registrations ∧ Payable (lookups entry.1) entry market.data ∨
    (∀ other ∈ market.registrations, other.1 ≠ entry.1) ∧ market.data.stallions entry.2 = none

/-- The claim that is created for an expired registration. -/
def claimOf (lookups : Uid → UnregisterLookups) (entry : Uid × Uid) : Uid :=
  ((lookups entry.1).reward).getD invalidUid

/-- Different expired registrations get different claims. -/
def OwnClaims (lookups : Uid → UnregisterLookups) (data : DataDirector) (entries : List (Uid × Uid)) : Prop :=
  ∀ entry ∈ entries, ∀ other ∈ entries, entry ≠ other → Mated data entry.2 → Mated data other.2 →
    claimOf lookups entry ≠ claimOf lookups other

/-- The condition: a registration that ends can be paid out. -/
def Solvent (paddock : Paddock) : PaddockInput → Prop
  | .unregister characterUid horseUid lookups => ∀ stallionUid,
      paddock.ranch.stallionOf horseUid = some stallionUid →
        MayUnregister lookups characterUid (horseUid, stallionUid) paddock.data →
          Payable lookups (horseUid, stallionUid) paddock.data
  | .expireCollected lookups =>
    (∀ entry ∈ paddock.collected, Expirable lookups paddock.ranch.toMarket entry) ∧
      OwnClaims lookups paddock.data paddock.collected
  | _ => True

end Runs

/-! ## The end of one registration -/

/-- What is paid out stays so. -/
structure Later (before after : DataDirector) : Prop where
  stallions : ∀ uid, before.stallions uid = none → after.stallions uid = none
  adult : ∀ uid horse, before.horses uid = some horse → horse.type = .adult →
    ∃ same, after.horses uid = some same ∧ same.type = .adult
  rewards : ∀ uid reward, before.rewards uid = some reward → after.rewards uid = some reward

theorem Later.refl (data : DataDirector) : Later data data :=
  ⟨fun _ h => h, fun _ horse h hadult => ⟨horse, h, hadult⟩, fun _ _ h => h⟩

variable {uid : Uid} {entry : Uid × Uid}

theorem Later.trans {first second third : DataDirector} (h : Later first second) (hnext : Later second third) :
    Later first third := by
  refine ⟨fun uid hnone => hnext.stallions uid (h.stallions uid hnone), fun uid horse hhorse hadult => ?_,
    fun uid reward hreward => hnext.rewards uid reward (h.rewards uid reward hreward)⟩
  obtain ⟨middle, hmiddle, hstill⟩ := h.adult uid horse hhorse hadult
  exact hnext.adult uid middle hmiddle hstill

section One

variable {lookups : UnregisterLookups} {horseUid stallionUid : Uid} {data : DataDirector} {stallion : Stallion}
  {horse : Horse}

/-- The payment of the earnings. -/
def paidFor (lookups : UnregisterLookups) (stallion : Stallion) (data : DataDirector) : DataDirector :=
  if stallion.timesMated > 0 then
    (Reward.createReward lookups.reward lookups.now stallion.ownerUid .breeding
      (earningsOf stallion).earnings data).2
  else data

theorem paidFor_horses : (paidFor lookups stallion data).horses = data.horses := by
  rw [paidFor]
  split
  · rw [Reward.createReward]
    split <;> rfl
  · rfl

theorem paidFor_stallions : (paidFor lookups stallion data).stallions = data.stallions := by
  rw [paidFor]
  split
  · exact createReward_stallions _ _ _ _ _ _
  · rfl

theorem paidFor_rewards {reward : Data.Reward} (h : data.rewards uid = some reward) :
    (paidFor lookups stallion data).rewards uid = some reward := by
  rw [paidFor]
  split
  · rw [Reward.createReward]
    split
    · exact h
    · next claimUid hfresh =>
        have hnone : data.rewards claimUid = none := (fresh_eq_some.1 hfresh).2.2
        refine (update_of_ne ?_ _ _).trans h
        rintro rfl
        cases hnone.symm.trans h
  · exact h

theorem unregisterStallion_found (hstallion : stallionStorage.cached lookups.stallionAgain stallionUid data = some stallion)
    (hhorse : horseStorage.cached lookups.horseAgain horseUid data = some horse) :
    unregisterStallion lookups horseUid stallionUid data = stallionStorage.erase stallionUid
      (horseStorage.write horseUid { horse with type := .adult } (paidFor lookups stallion data)) := by
  rw [unregisterStallion, hstallion, hhorse]
  rfl

theorem later_unregisterStallion (lookups : UnregisterLookups) (horseUid stallionUid : Uid) (data : DataDirector) :
    Later data (unregisterStallion lookups horseUid stallionUid data) := by
  cases hstallion : stallionStorage.cached lookups.stallionAgain stallionUid data with
  | none =>
    rw [unregisterStallion, hstallion]
    exact .refl data
  | some stallion =>
    cases hhorse : horseStorage.cached lookups.horseAgain horseUid data with
    | none =>
      rw [unregisterStallion, hstallion, hhorse]
      exact .refl data
    | some horse =>
      rw [unregisterStallion_found hstallion hhorse]
      refine ⟨fun uid hnone => ?_, fun uid other hother hadult => ?_, fun uid reward hreward => ?_⟩
      · show update (paidFor lookups stallion data).stallions stallionUid none uid = none
        rw [paidFor_stallions]
        by_cases huid : uid = stallionUid
        · rw [huid, update_self]
        · rw [update_of_ne huid, hnone]
      · show ∃ same, update (paidFor lookups stallion data).horses horseUid _ uid = some same ∧ _
        rw [paidFor_horses]
        by_cases huid : uid = horseUid
        · rw [huid, update_self]
          exact ⟨_, rfl, rfl⟩
        · rw [update_of_ne huid]
          exact ⟨other, hother, hadult⟩
      · exact paidFor_rewards hreward

/-- What the end of a registration that is paid out changes. -/
structure Expired (entry : Uid × Uid) (claimUid : Uid) (before after : Market) : Prop where
  registrations : ∀ other, other ∈ after.registrations ↔ other ∈ before.registrations ∧ other.1 ≠ entry.1
  stallions : ∀ uid, uid ≠ entry.2 → after.data.stallions uid = before.data.stallions uid
  horses : ∀ uid, uid ≠ entry.1 → after.data.horses uid = before.data.horses uid
  rewards : ∀ uid, after.data.rewards uid ≠ before.data.rewards uid →
    uid = claimUid ∧ Mated before.data entry.2
  paid : PaidOut before.data after.data entry claimUid
  later : Later before.data after.data

theorem expired_of_payable {market : Market} (h : Payable lookups entry market.data) :
    Expired entry (lookups.reward.getD invalidUid) market (expire (fun _ => lookups) market entry) := by
  obtain ⟨stallion, horse, hstallion, hhorse, hreward⟩ := h
  have hrecord : market.data.stallions entry.2 = some stallion := by
    rw [cached] at hstallion
    split at hstallion
    · exact hstallion
    · cases hstallion
  have hafter := unregisterStallion_found hstallion hhorse
  have hstallions : (expire (fun _ => lookups) market entry).data.stallions =
      update market.data.stallions entry.2 none := by
    show (unregisterStallion lookups entry.1 entry.2 market.data).stallions = _
    rw [hafter]
    show update (paidFor lookups stallion market.data).stallions entry.2 none = _
    rw [paidFor_stallions]
  have hhorses : (expire (fun _ => lookups) market entry).data.horses =
      update market.data.horses entry.1 (some { horse with type := .adult }) := by
    show (unregisterStallion lookups entry.1 entry.2 market.data).horses = _
    rw [hafter]
    show update (paidFor lookups stallion market.data).horses entry.1 _ = _
    rw [paidFor_horses]
  have hrewards : (expire (fun _ => lookups) market entry).data.rewards =
      (paidFor lookups stallion market.data).rewards := by
    show (unregisterStallion lookups entry.1 entry.2 market.data).rewards = _
    rw [hafter]
    rfl
  refine ⟨fun other => mem_registrations_erase, fun uid huid => ?_, fun uid huid => ?_, fun uid huid => ?_, ?_,
    later_unregisterStallion lookups entry.1 entry.2 market.data⟩
  · rw [hstallions, update_of_ne huid]
  · rw [hhorses, update_of_ne huid]
  · rw [hrewards, paidFor] at huid
    split at huid
    · next hmated =>
        obtain ⟨claimUid, hclaim⟩ := isSome_iff_exists.1 (hreward hmated)
        rw [Reward.createReward, hclaim] at huid
        have hsame : lookups.reward = some claimUid := (fresh_eq_some.1 hclaim).1
        refine ⟨?_, stallion, hrecord, hmated⟩
        rw [hsame]
        by_contra hother
        exact huid (update_of_ne hother _ _)
    · exact absurd rfl huid
  · refine ⟨⟨stallion, hrecord, fun hmated => ?_⟩, ?_, ?_⟩
    · obtain ⟨claimUid, hclaim⟩ := isSome_iff_exists.1 (hreward hmated)
      obtain ⟨hsame, -, hnone⟩ := fresh_eq_some.1 hclaim
      rw [hsame, hrewards, paidFor, if_pos hmated, Reward.createReward, hclaim]
      exact ⟨hnone, _, update_self .., rfl, rfl, rfl⟩
    · rw [hstallions, update_self]
    · rw [hhorses]
      exact ⟨_, update_self .., rfl⟩

/-- A registration that ended meanwhile, and whose record is gone, changes nothing. -/
theorem expire_ended {market : Market} (lookups : Uid → UnregisterLookups)
    (hkeys : ∀ other ∈ market.registrations, other.1 ≠ entry.1)
    (hnone : market.data.stallions entry.2 = none) :
    expire lookups market entry = market := by
  have hcached : stallionStorage.cached (lookups entry.1).stallionAgain entry.2 market.data = none := by
    rw [cached]
    split
    · exact hnone
    · rfl
  have hdata : unregisterStallion (lookups entry.1) entry.1 entry.2 market.data = market.data := by
    rw [unregisterStallion, hcached]
  have hfilter : market.registrations.filter (fun other => other.1 ≠ entry.1) = market.registrations := by
    refine filter_eq_self.2 fun other hother => ?_
    exact decide_eq_true (hkeys other hother)
  rw [expire, hdata, Market.erase]
  dsimp only
  rw [hfilter]

end One

/-! ## The end of the expired registrations -/

section Fold

variable {lookups : Uid → UnregisterLookups} {market : Market}

theorem later_expire (entries : List (Uid × Uid)) (market : Market) :
    Later market.data (entries.foldl (expire lookups) market).data := by
  induction entries generalizing market with
  | nil => exact .refl _
  | cons entry rest ih =>
    exact Later.trans (later_unregisterStallion (lookups entry.1) entry.1 entry.2 market.data)
      (ih (expire lookups market entry))

theorem registrations_expire {entries : List (Uid × Uid)} {other : Uid × Uid}
    (h : other ∈ (entries.foldl (expire lookups) market).registrations) : other ∈ market.registrations := by
  induction entries generalizing market with
  | nil => exact h
  | cons entry rest ih => exact (mem_registrations_erase.1 (ih h)).1

/-- Another expired registration is as it was. -/
theorem Expired.expirable {other : Uid × Uid} {after : Market}
    (h : Expired entry (claimOf lookups entry) market after) (hhorse : other.1 ≠ entry.1)
    (hstallion : other.2 ≠ entry.2)
    (hclaim : Mated market.data entry.2 → Mated market.data other.2 → claimOf lookups entry ≠ claimOf lookups other)
    (hother : Expirable lookups market other) : Expirable lookups after other := by
  rcases hother with ⟨hmem, stallion, horse, hrecord, hhorseRecord, hreward⟩ | ⟨hkeys, hnone⟩
  · refine .inl ⟨(h.registrations other).2 ⟨hmem, hhorse⟩, stallion, horse, ?_, ?_, fun hmated => ?_⟩
    · rw [cached] at hrecord ⊢
      exact (congrArg (fun record => if (lookups other.1).stallionAgain = true then record else none)
        (h.stallions other.2 hstallion)).trans hrecord
    · rw [cached] at hhorseRecord ⊢
      exact (congrArg (fun record => if (lookups other.1).horseAgain = true then record else none)
        (h.horses other.1 hhorse)).trans hhorseRecord
    · obtain ⟨claimUid, hfresh⟩ := isSome_iff_exists.1 (hreward hmated)
      obtain ⟨hlookup, hvalid, hnone⟩ := fresh_eq_some.1 hfresh
      have hmatedOther : Mated market.data other.2 := by
        rw [cached] at hrecord
        split at hrecord
        · exact ⟨stallion, hrecord, hmated⟩
        · cases hrecord
      have hsame : after.data.rewards claimUid = market.data.rewards claimUid := by
        by_contra hchanged
        obtain ⟨hclaimUid, hmatedEntry⟩ := h.rewards claimUid hchanged
        refine hclaim hmatedEntry hmatedOther ?_
        rw [← hclaimUid, claimOf, hlookup]
        rfl
      exact isSome_iff_exists.2 ⟨claimUid, fresh_eq_some.2 ⟨hlookup, hvalid, hsame.trans hnone⟩⟩
  · exact .inr ⟨fun entry' hentry' => hkeys entry' ((h.registrations entry').1 hentry').1,
      h.later.stallions other.2 hnone⟩

theorem mated_iff {before after : DataDirector} (h : after.stallions uid = before.stallions uid) :
    Mated after uid ↔ Mated before uid := by
  rw [Mated, Mated, h]

/-- One registration is paid out, and then others are. -/
theorem Settles.cons {entry : Uid × Uid} {middle after : Market} {claims : Uid × Uid → Uid}
    (hkeys : (market.registrations.map fst).Nodup) (hentry : entry ∈ market.registrations)
    (hstallions : ∀ other, Ends middle after other → other.2 ≠ entry.2)
    (h : Expired entry (claims entry) market middle) (hrest : Settles middle after claims)
    (hlater : Later middle.data after.data)
    (hsub : ∀ other ∈ after.registrations, other ∈ middle.registrations) : Settles market after claims := by
  have hcases : ∀ other, Ends market after other → other = entry ∨ Ends middle after other := by
    rintro other ⟨hmem, hnot⟩
    by_cases hsame : other.1 = entry.1
    · exact .inl (inj_on_of_nodup_map hkeys hmem hentry hsame)
    · exact .inr ⟨(h.registrations other).2 ⟨hmem, hsame⟩, hnot⟩
  have hends : Ends market after entry :=
    ⟨hentry, fun hmem => ((h.registrations entry).1 (hsub entry hmem)).2 rfl⟩
  have hwider : ∀ other, Ends middle after other → Ends market after other := fun other hother =>
    ⟨((h.registrations other).1 hother.1).1, hother.2⟩
  have hclaimed : Mated market.data entry.2 → (middle.data.rewards (claims entry)).isSome = true := by
    rintro ⟨stallion, hrecord, hmated⟩
    obtain ⟨other, hother, hreward⟩ := h.paid.reward
    cases hrecord.symm.trans hother
    obtain ⟨-, reward, hreward, -⟩ := hreward hmated
    exact hreward ▸ rfl
  have hfree : ∀ other, Ends middle after other → Mated middle.data other.2 →
      middle.data.rewards (claims other) = none := by
    rintro other hother ⟨stallion, hrecord, hmated⟩
    obtain ⟨found, hfound, hreward⟩ := (hrest.paid other hother).reward
    cases hrecord.symm.trans hfound
    exact (hreward hmated).1
  refine ⟨fun other hother => ?_, fun first second hfirst hsecond hfirstMated hsecondMated hclaim => ?_,
    fun claimUid hnone hsome => ?_⟩
  · rcases hcases other hother with rfl | hother
    · obtain ⟨horse, hhorse, hadult⟩ := h.paid.adult
      obtain ⟨stallion, hrecord, hreward⟩ := h.paid.reward
      refine ⟨⟨stallion, hrecord, fun hmated => ?_⟩, hlater.stallions _ h.paid.deleted,
        hlater.adult _ horse hhorse hadult⟩
      obtain ⟨hnone, reward, hnew, hrewards⟩ := hreward hmated
      exact ⟨hnone, reward, hlater.rewards _ _ hnew, hrewards⟩
    · obtain ⟨⟨stallion, hrecord, hreward⟩, hdeleted, hadult⟩ := hrest.paid other hother
      refine ⟨⟨stallion, (h.stallions _ (hstallions other hother)).symm.trans hrecord, fun hmated => ?_⟩,
        hdeleted, hadult⟩
      obtain ⟨hnone, hnew⟩ := hreward hmated
      refine ⟨?_, hnew⟩
      cases hbefore : market.data.rewards (claims other) with
      | none => rfl
      | some reward => cases (h.later.rewards _ reward hbefore).symm.trans hnone
  · have hmated : ∀ {other}, Ends middle after other → Mated market.data other.2 → Mated middle.data other.2 :=
      fun hother => (mated_iff (h.stallions _ (hstallions _ hother))).2
    rcases hcases first hfirst with rfl | hfirst
    · rcases hcases second hsecond with rfl | hsecond
      · rfl
      · have hclaimed := hclaimed hfirstMated
        rw [hclaim, hfree second hsecond (hmated hsecond hsecondMated)] at hclaimed
        cases hclaimed
    · rcases hcases second hsecond with rfl | hsecond
      · have hclaimed := hclaimed hsecondMated
        rw [← hclaim, hfree first hfirst (hmated hfirst hfirstMated)] at hclaimed
        cases hclaimed
      · exact hrest.distinct first second hfirst hsecond (hmated hfirst hfirstMated) (hmated hsecond hsecondMated)
          hclaim
  · by_cases hchanged : middle.data.rewards claimUid = market.data.rewards claimUid
    · obtain ⟨other, hother, hmated, hclaim⟩ := hrest.only claimUid (hchanged.trans hnone) hsome
      exact ⟨other, hwider other hother, (mated_iff (h.stallions _ (hstallions other hother))).1 hmated, hclaim⟩
    · obtain ⟨hclaim, hmated⟩ := h.rewards claimUid hchanged
      exact ⟨entry, hends, hmated, hclaim.symm⟩

theorem Settles.refl (market : Market) (claims : Uid × Uid → Uid) : Settles market market claims := by
  refine ⟨fun _ hends => absurd hends.1 hends.2, fun _ _ hends => absurd hends.1 hends.2, ?_⟩
  intro claimUid hnone hsome
  rw [hnone] at hsome
  cases hsome

/-- Expired registrations are paid out one after the other. -/
theorem settles_expire {entries : List (Uid × Uid)} (hkeys : (market.registrations.map fst).Nodup)
    (hhorses : (entries.map fst).Nodup) (hstallions : (entries.map snd).Nodup)
    (hexpirable : ∀ entry ∈ entries, Expirable lookups market entry)
    (hclaims : OwnClaims lookups market.data entries) :
    Settles market (entries.foldl (expire lookups) market) (claimOf lookups) ∧
      ∀ entry, Ends market (entries.foldl (expire lookups) market) entry → entry ∈ entries := by
  induction entries generalizing market with
  | nil => exact ⟨.refl market _, fun entry hends => absurd hends.1 hends.2⟩
  | cons entry rest ih =>
    rw [map_cons, nodup_cons] at hhorses hstallions
    have hhorse : ∀ other ∈ rest, other.1 ≠ entry.1 := fun other hother heq =>
      hhorses.1 (heq ▸ mem_map_of_mem hother)
    have hstallion : ∀ other ∈ rest, other.2 ≠ entry.2 := fun other hother heq =>
      hstallions.1 (heq ▸ mem_map_of_mem hother)
    rw [foldl_cons]
    rcases hexpirable entry mem_cons_self with ⟨hmem, hpayable⟩ | ⟨hended, hnone⟩
    · have hexpired : Expired entry (claimOf lookups entry) market (expire lookups market entry) :=
        expired_of_payable hpayable
      have hsublist : (expire lookups market entry).registrations.Sublist market.registrations :=
        filter_sublist
      have hclaim : ∀ other ∈ rest, Mated market.data entry.2 → Mated market.data other.2 →
          claimOf lookups entry ≠ claimOf lookups other := fun other hother =>
        hclaims entry mem_cons_self other (mem_cons_of_mem _ hother)
          fun heq => hhorse other hother (congrArg fst heq.symm)
      have hmated : ∀ other ∈ rest, Mated (expire lookups market entry).data other.2 → Mated market.data other.2 :=
        fun other hother => (mated_iff (hexpired.stallions _ (hstallion other hother))).1
      obtain ⟨hrest, hinner⟩ := ih (hkeys.sublist (hsublist.map _)) hhorses.2 hstallions.2
        (fun other hother => hexpired.expirable (hhorse other hother) (hstallion other hother)
          (hclaim other hother) (hexpirable other (mem_cons_of_mem _ hother)))
        fun first hfirst second hsecond hne hfirstMated hsecondMated =>
          hclaims first (mem_cons_of_mem _ hfirst) second (mem_cons_of_mem _ hsecond) hne
            (hmated first hfirst hfirstMated) (hmated second hsecond hsecondMated)
      refine ⟨Settles.cons hkeys hmem (fun other hother => hstallion other (hinner other hother)) hexpired hrest
        (later_expire rest _) fun other hother => registrations_expire hother, ?_⟩
      rintro other ⟨hother, hnot⟩
      by_cases hsame : other.1 = entry.1
      · exact mem_cons.2 (.inl (inj_on_of_nodup_map hkeys hother hmem hsame))
      · exact mem_cons_of_mem _ (hinner other ⟨(hexpired.registrations other).2 ⟨hother, hsame⟩, hnot⟩)
    · rw [expire_ended lookups hended hnone]
      obtain ⟨hrest, hinner⟩ := ih hkeys hhorses.2 hstallions.2
        (fun other hother => hexpirable other (mem_cons_of_mem _ hother))
        fun first hfirst second hsecond => hclaims first (mem_cons_of_mem _ hfirst) second
          (mem_cons_of_mem _ hsecond)
      exact ⟨hrest, fun other hother => mem_cons_of_mem _ (hinner other hother)⟩

end Fold

/-! ## Registrations and the uids of their records -/

/-- The registrations have records of their own, and so have those that are being created. -/
structure Booked (paddock : Paddock) : Prop where
  keys : (paddock.registrations.map Prod.fst).Nodup
  stallions : (paddock.registrations.map Prod.snd).Nodup
  collectedKeys : (paddock.collected.map Prod.fst).Nodup
  collectedStallions : (paddock.collected.map Prod.snd).Nodup
  created : ∀ call ∈ paddock.calls, ∀ uid, call.phase = .created uid →
    (∀ entry ∈ paddock.registrations, entry.2 ≠ uid) ∧ uid ∈ paddock.allocated
  distinct : ∀ (i j : Nat) (first second : Registration) (uid : Uid), paddock.calls[i]? = some first →
    paddock.calls[j]? = some second → first.phase = .created uid → second.phase = .created uid → i = j
  allocated : ∀ entry ∈ paddock.registrations, entry.2 ∈ paddock.allocated

variable {ranch : Ranch}

theorem booked_opened (hkeys : (ranch.registrations.map fst).Nodup)
    (hstallions : (ranch.registrations.map snd).Nodup) : Booked (Paddock.opened ranch) where
  keys := hkeys
  stallions := hstallions
  collectedKeys := nodup_nil
  collectedStallions := nodup_nil
  created _ hcall := nomatch hcall
  distinct _ _ _ _ _ hfirst := nomatch hfirst
  allocated _ hentry := mem_map_of_mem hentry

section Booking

variable {paddock : Paddock}

/-- Registrations may end. -/
theorem Booked.of_sublist (h : Booked paddock) {collected : List (Uid × Uid)}
    (hsub : ranch.registrations.Sublist paddock.registrations)
    (hkeys : (collected.map fst).Nodup) (hstallions : (collected.map snd).Nodup) :
    Booked { paddock with ranch := ranch, collected := collected } where
  keys := h.keys.sublist (hsub.map _)
  stallions := h.stallions.sublist (hsub.map _)
  collectedKeys := hkeys
  collectedStallions := hstallions
  created call hcall uid hphase :=
    ⟨fun entry hentry => (h.created call hcall uid hphase).1 entry (hsub.subset hentry),
      (h.created call hcall uid hphase).2⟩
  distinct := h.distinct
  allocated entry hentry := h.allocated entry (hsub.subset hentry)

theorem Booked.same (h : Booked paddock) (hsame : ranch.registrations = paddock.registrations) :
    Booked { paddock with ranch := ranch } :=
  h.of_sublist (hsame ▸ List.Sublist.refl _) h.collectedKeys h.collectedStallions

/-- What the next step of a registration does to the registered horses. -/
theorem advance_cases (lookups : RegisterLookups) (call : Registration) (market : Market) :
    (call.advance lookups market).2.registrations = market.registrations ∧
        (allocatedBy (call.advance lookups market).1 = [] ∨ ∃ uid,
          (call.advance lookups market).1.phase = .created uid ∧ lookups.stallion = some uid) ∨
      ∃ uid, call.phase = .created uid ∧ allocatedBy (call.advance lookups market).1 = [] ∧
        (call.advance lookups market).2 = market.emplace call.horseUid uid := by
  rw [Registration.advance]
  cases hphase : call.phase with
  | called =>
    dsimp only
    split
    · exact .inl ⟨rfl, .inl rfl⟩
    · exact .inl ⟨rfl, .inl rfl⟩
  | checked =>
    dsimp only
    split
    · exact .inl ⟨rfl, .inl rfl⟩
    · exact .inl ⟨rfl, .inl rfl⟩
  | validated =>
    dsimp only
    split
    · exact .inl ⟨rfl, .inl rfl⟩
    · exact .inl ⟨rfl, .inl rfl⟩
  | paid =>
    dsimp only
    split
    · exact .inl ⟨rfl, .inl rfl⟩
    · exact .inl ⟨rfl, .inl rfl⟩
  | typed =>
    dsimp only
    split
    · exact .inl ⟨rfl, .inl rfl⟩
    · next uid hfresh => exact .inl ⟨rfl, .inr ⟨uid, rfl, (fresh_eq_some.1 hfresh).1⟩⟩
  | created uid => exact .inr ⟨uid, rfl, rfl, rfl⟩
  | returned registered => exact .inl ⟨rfl, .inl rfl⟩
  | terminated => exact .inl ⟨rfl, .inl rfl⟩

theorem allocatedBy_created {call : Registration} (h : call.phase = .created uid) :
    allocatedBy call = [uid] := by
  rw [allocatedBy, h]

theorem mem_emplace {market : Market} {horseUid stallionUid : Uid}
    (h : entry ∈ (market.emplace horseUid stallionUid).registrations) :
    entry ∈ market.registrations ∨ entry = (horseUid, stallionUid) := by
  rw [Market.emplace] at h
  split at h
  · exact .inl h
  · exact (mem_append.1 h).imp_right mem_singleton.1

theorem subset_emplace {market : Market} {horseUid stallionUid : Uid}
    (h : entry ∈ market.registrations) :
    entry ∈ (market.emplace horseUid stallionUid).registrations := by
  rw [Market.emplace]
  split
  · exact h
  · exact mem_append_left _ h

theorem nodup_emplace {market : Market} {horseUid stallionUid : Uid}
    (hkeys : (market.registrations.map fst).Nodup) (hstallions : (market.registrations.map snd).Nodup)
    (hnew : ∀ entry ∈ market.registrations, entry.2 ≠ stallionUid) :
    ((market.emplace horseUid stallionUid).registrations.map fst).Nodup ∧
      ((market.emplace horseUid stallionUid).registrations.map snd).Nodup := by
  rw [Market.emplace]
  split
  · exact ⟨hkeys, hstallions⟩
  · next hfree =>
      have hfree : market.registrations.lookup horseUid = none := not_isSome_iff_eq_none.1 hfree
      rw [map_append, map_append]
      refine ⟨List.Nodup.append hkeys (nodup_singleton _) ?_,
        List.Nodup.append hstallions (nodup_singleton _) ?_⟩
      · intro uid huid hsame
        obtain ⟨entry, hentry, rfl⟩ := mem_map.1 huid
        exact absurd (mem_singleton.1 hsame).symm
          (bne_iff_ne.1 (lookup_eq_none_iff.1 hfree entry hentry))
      · intro uid huid hsame
        obtain ⟨entry, hentry, rfl⟩ := mem_map.1 huid
        exact hnew entry hentry (mem_singleton.1 hsame)

section Advance

variable {index : Nat} {call next : Registration}

/-- A call that moves on, and creates nothing. -/
theorem Booked.move (h : Booked paddock) (index : Nat) (hquiet : ∀ uid, next.phase ≠ .created uid) :
    Booked { paddock with calls := paddock.calls.set index next } := by
  refine ⟨h.keys, h.stallions, h.collectedKeys, h.collectedStallions, ?_, ?_, h.allocated⟩
  · intro other hother created hcreated
    rcases mem_or_eq_of_mem_set hother with hother | rfl
    · exact h.created other hother created hcreated
    · exact absurd hcreated (hquiet created)
  · intro i j first second created hfirst hsecond hfirstPhase hsecondPhase
    rcases getElem?_set_cases hfirst with ⟨-, rfl⟩ | ⟨-, hfirst⟩
    · exact absurd hfirstPhase (hquiet created)
    rcases getElem?_set_cases hsecond with ⟨-, rfl⟩ | ⟨-, hsecond⟩
    · exact absurd hsecondPhase (hquiet created)
    exact h.distinct i j first second created hfirst hsecond hfirstPhase hsecondPhase

/-- A call that creates a record with a new uid. -/
theorem Booked.create (h : Booked paddock) (index : Nat) (hphase : next.phase = .created uid)
    (hfresh : uid ∉ paddock.allocated) :
    Booked { paddock with calls := paddock.calls.set index next, allocated := uid :: paddock.allocated } := by
  refine ⟨h.keys, h.stallions, h.collectedKeys, h.collectedStallions, ?_, ?_, ?_⟩
  · intro other hother created hcreated
    rcases mem_or_eq_of_mem_set hother with hother | rfl
    · obtain ⟨hnew, hallocated⟩ := h.created other hother created hcreated
      exact ⟨hnew, mem_cons_of_mem _ hallocated⟩
    · cases hphase.symm.trans hcreated
      exact ⟨fun entry hentry heq => hfresh (heq ▸ h.allocated entry hentry), mem_cons_self⟩
  · intro i j first second created hfirst hsecond hfirstPhase hsecondPhase
    have hother : ∀ other, other ∈ paddock.calls → other.phase ≠ .created uid := fun other hother hcreated =>
      hfresh (h.created other hother uid hcreated).2
    rcases getElem?_set_cases hfirst with ⟨hi, hnext⟩ | ⟨-, hfirst⟩
    · rw [hnext, hphase] at hfirstPhase
      cases hfirstPhase
      rcases getElem?_set_cases hsecond with ⟨hj, -⟩ | ⟨-, hsecond⟩
      · exact hi.trans hj.symm
      · exact absurd hsecondPhase (hother second (mem_of_getElem? hsecond))
    · rcases getElem?_set_cases hsecond with ⟨-, hnext⟩ | ⟨-, hsecond⟩
      · rw [hnext, hphase] at hsecondPhase
        cases hsecondPhase
        exact absurd hfirstPhase (hother first (mem_of_getElem? hfirst))
      · exact h.distinct i j first second created hfirst hsecond hfirstPhase hsecondPhase
  · exact fun entry hentry => mem_cons_of_mem _ (h.allocated entry hentry)

/-- A call that enters its record. -/
theorem Booked.insert (h : Booked paddock) (hcall : paddock.calls[index]? = some call) {uid : Uid}
    (hphase : call.phase = .created uid) (hquiet : ∀ uid, next.phase ≠ .created uid) :
    Booked { paddock.withMarket (paddock.ranch.toMarket.emplace call.horseUid uid) with
      calls := paddock.calls.set index next } := by
  obtain ⟨hnew, hallocated⟩ := h.created call (mem_of_getElem? hcall) uid hphase
  obtain ⟨hkeys, hstallions⟩ := @nodup_emplace _ call.horseUid _ h.keys h.stallions hnew
  have hcalls := h.move index hquiet
  refine ⟨hkeys, hstallions, h.collectedKeys, h.collectedStallions, ?_, hcalls.distinct, ?_⟩
  · intro other hother created hcreated
    obtain ⟨hothers, hmem⟩ := hcalls.created other hother created hcreated
    refine ⟨fun entry hentry heq => ?_, hmem⟩
    rcases mem_emplace hentry with hentry | rfl
    · exact hothers entry hentry heq
    · cases heq
      obtain ⟨i, hi⟩ := mem_iff_getElem?.1 hother
      rcases getElem?_set_cases hi with ⟨-, rfl⟩ | ⟨hindex, hi⟩
      · exact hquiet uid hcreated
      · exact hindex (h.distinct i index other call uid hi hcall hcreated hphase)
  · intro entry hentry
    rcases mem_emplace hentry with hentry | rfl
    · exact h.allocated entry hentry
    · exact hallocated

theorem booked_advance (h : Booked paddock) (index : Nat) (lookups : RegisterLookups) :
    Booked (paddock.advance index lookups) := by
  rw [Paddock.advance]
  cases hcall : paddock.calls[index]? with
  | none => exact h
  | some call =>
    dsimp only
    have hcases := advance_cases (lookups.without paddock.allocated) call paddock.ranch.toMarket
    generalize call.advance (lookups.without paddock.allocated) paddock.ranch.toMarket = outcome at hcases ⊢
    obtain ⟨next, market⟩ := outcome
    have hquiet : allocatedBy next = [] → ∀ uid, next.phase ≠ .created uid := by
      intro hnone uid hphase
      cases (allocatedBy_created hphase).symm.trans hnone
    rcases hcases with ⟨hsame, hnone | ⟨uid, hphase, huid⟩⟩ | ⟨uid, hphase, hnone, hmarket⟩
    · dsimp only at hnone ⊢
      rw [hnone]
      exact (h.move index (hquiet hnone)).same hsame
    · dsimp only at hphase ⊢
      have hfresh : uid ∉ paddock.allocated := of_decide_eq_true (filter_eq_some_iff.1 huid).2
      rw [allocatedBy_created hphase]
      exact (h.create index hphase hfresh).same hsame
    · dsimp only at hnone hmarket ⊢
      rw [hnone, hmarket]
      exact h.insert hcall hphase (hquiet hnone)

end Advance

theorem booked_register (h : Booked paddock) (characterUid horseUid : Uid) (breedingFee : Int32) :
    Booked { paddock with calls := paddock.calls ++ [⟨characterUid, horseUid, breedingFee, .called, []⟩] } := by
  have hold : ∀ (i : Nat) (call : Registration) (uid : Uid),
      (paddock.calls ++ [⟨characterUid, horseUid, breedingFee, .called, []⟩])[i]? = some call →
        call.phase = .created uid → paddock.calls[i]? = some call := by
    intro i call uid hcall hphase
    rw [List.getElem?_append] at hcall
    split at hcall
    · exact hcall
    · cases mem_singleton.1 (mem_of_getElem? hcall)
      cases hphase
  refine ⟨h.keys, h.stallions, h.collectedKeys, h.collectedStallions, ?_, ?_, h.allocated⟩
  · intro call hcall uid hphase
    rcases mem_append.1 hcall with hcall | hcall
    · exact h.created call hcall uid hphase
    · cases mem_singleton.1 hcall
      cases hphase
  · intro i j first second uid hfirst hsecond hfirstPhase hsecondPhase
    exact h.distinct i j first second uid (hold i first uid hfirst hfirstPhase)
      (hold j second uid hsecond hsecondPhase) hfirstPhase hsecondPhase

theorem unregister_cases (lookups : UnregisterLookups) (characterUid horseUid : Uid) (market : Market) :
    (handleUnregisterStallion lookups characterUid horseUid market).2 = market ∨
      ∃ stallionUid, market.stallionOf horseUid = some stallionUid ∧
        MayUnregister lookups characterUid (horseUid, stallionUid) market.data ∧
          (handleUnregisterStallion lookups characterUid horseUid market).2 =
            expire (fun _ => lookups) market (horseUid, stallionUid) := by
  rw [handleUnregisterStallion]
  split
  · exact .inl rfl
  next stallionUid hregistered =>
  split
  next character stallion horse hcharacter hstallion hhorse =>
    split
    · next hmem =>
        exact .inr ⟨stallionUid, hregistered, ⟨⟨character, hcharacter, hmem⟩,
          isSome_iff_exists.2 ⟨stallion, hstallion⟩, isSome_iff_exists.2 ⟨horse, hhorse⟩⟩, rfl⟩
    · exact .inl rfl
  · exact .inl rfl

theorem sublist_expire (lookups : Uid → UnregisterLookups) (entries : List (Uid × Uid)) (market : Market) :
    (entries.foldl (expire lookups) market).registrations.Sublist market.registrations := by
  induction entries generalizing market with
  | nil => exact List.Sublist.refl _
  | cons entry rest ih => exact List.Sublist.trans (ih (expire lookups market entry)) filter_sublist

theorem sublist_unregister (lookups : UnregisterLookups) (characterUid horseUid : Uid) (market : Market) :
    (handleUnregisterStallion lookups characterUid horseUid market).2.registrations.Sublist
      market.registrations := by
  rcases unregister_cases lookups characterUid horseUid market with hsame | ⟨stallionUid, -, -, hsame⟩
  · rw [hsame]
  · rw [hsame]
    exact filter_sublist

end Booking

/-! ## Runs -/

section Runs

variable {registry : BreedingRegistry} {items : ItemRegistry} {paddock : Paddock} {input : PaddockInput}

theorem booked_step (h : Booked paddock) : Booked (paddockStep registry items paddock input) := by
  cases input with
  | register characterUid horseUid breedingFee => exact booked_register h characterUid horseUid breedingFee
  | advance index lookups => exact booked_advance h index lookups
  | unregister characterUid horseUid lookups =>
    exact h.of_sublist (sublist_unregister lookups characterUid horseUid paddock.ranch.toMarket)
      h.collectedKeys h.collectedStallions
  | collectExpired available now =>
    have hsub : (expired available now paddock.ranch.toMarket).Sublist paddock.registrations :=
      filter_sublist
    exact h.of_sublist (List.Sublist.refl _) (h.keys.sublist (hsub.map _)) (h.stallions.sublist (hsub.map _))
  | expireCollected lookups =>
    exact h.of_sublist (sublist_expire lookups paddock.collected paddock.ranch.toMarket) nodup_nil
      nodup_nil
  | tryBreeding client command lookups => exact h.same (calm_tryBreeding lookups client command paddock.ranch).1
  | equipment input => exact h.same rfl
  | returnToNature characterUid horseUid available => exact h.same rfl
  | abandon characterUid foalUid lookups => exact h.same rfl

theorem subset_advance (paddock : Paddock) (index : Nat) (lookups : RegisterLookups) :
    ∀ entry ∈ paddock.registrations, entry ∈ (paddock.advance index lookups).registrations := by
  rw [Paddock.advance]
  cases paddock.calls[index]? with
  | none => exact fun _ => id
  | some call =>
    rcases advance_cases (lookups.without paddock.allocated) call paddock.ranch.toMarket with
      ⟨hsame, -⟩ | ⟨uid, -, -, hmarket⟩
    · intro entry hentry
      show entry ∈ (call.advance (lookups.without paddock.allocated) paddock.ranch.toMarket).2.registrations
      rw [hsame]
      exact hentry
    · intro entry hentry
      show entry ∈ (call.advance (lookups.without paddock.allocated) paddock.ranch.toMarket).2.registrations
      rw [hmarket]
      exact subset_emplace hentry

theorem paysOut_unregister (h : Booked paddock) {characterUid horseUid : Uid} {lookups : UnregisterLookups}
    (hsolvent : Solvent paddock (.unregister characterUid horseUid lookups)) :
    PaysOut registry items paddock (.unregister characterUid horseUid lookups) := by
  show ∃ claims, Settles paddock.ranch.toMarket
    (handleUnregisterStallion lookups characterUid horseUid paddock.ranch.toMarket).2 claims
  refine ⟨claimOf fun _ => lookups, ?_⟩
  rcases unregister_cases lookups characterUid horseUid paddock.ranch.toMarket with
    hsame | ⟨stallionUid, hregistered, hmay, hafter⟩
  · rw [hsame]
    exact .refl _ _
  · rw [hafter]
    have hmem : (horseUid, stallionUid) ∈ paddock.ranch.toMarket.registrations := by
      obtain ⟨_, _, hentries, -⟩ := lookup_eq_some_iff.1 hregistered
      rw [hentries]
      exact mem_append_right _ mem_cons_self
    have hpayable := hsolvent stallionUid hregistered hmay
    refine (@settles_expire (fun _ => lookups) paddock.ranch.toMarket [(horseUid, stallionUid)] h.keys
      (nodup_singleton _) (nodup_singleton _) (fun entry hentry => ?_) ?_).1
    · cases mem_singleton.1 hentry
      exact .inl ⟨hmem, hpayable⟩
    · intro entry hentry other hother hne
      exact absurd ((mem_singleton.1 hentry).trans (mem_singleton.1 hother).symm) hne

theorem paysOut_of_solvent (h : Booked paddock) (hsolvent : Solvent paddock input) :
    PaysOut registry items paddock input := by
  cases input with
  | unregister characterUid horseUid lookups => exact paysOut_unregister h hsolvent
  | expireCollected lookups =>
    obtain ⟨hexpirable, hclaims⟩ := hsolvent
    exact ⟨claimOf lookups, (settles_expire h.keys h.collectedKeys h.collectedStallions hexpirable hclaims).1⟩
  | advance index lookups => exact subset_advance paddock index lookups
  | tryBreeding client command lookups =>
    intro entry hentry
    show entry ∈ ((handleTryBreeding registry lookups client command).final paddock.ranch).registrations
    rw [(calm_tryBreeding lookups client command paddock.ranch).1]
    exact hentry
  | register characterUid horseUid breedingFee => exact fun _ => id
  | collectExpired available now => exact fun _ => id
  | equipment input => exact fun _ => id
  | returnToNature characterUid horseUid available => exact fun _ => id
  | abandon characterUid foalUid lookups => exact fun _ => id

/-- The record has a registration no more, and gets none. -/
structure Gone (uid : Uid) (paddock : Paddock) : Prop where
  allocated : uid ∈ paddock.allocated
  registrations : ∀ entry ∈ paddock.registrations, entry.2 ≠ uid
  created : ∀ call ∈ paddock.calls, call.phase ≠ .created uid

theorem Gone.of_subset (h : Gone uid paddock) {collected : List (Uid × Uid)}
    (hsub : ∀ entry ∈ ranch.registrations, entry ∈ paddock.registrations) :
    Gone uid { paddock with ranch := ranch, collected := collected } :=
  ⟨h.allocated, fun entry hentry => h.registrations entry (hsub entry hentry), h.created⟩

theorem gone_advance (h : Gone uid paddock) (index : Nat) (lookups : RegisterLookups) :
    Gone uid (paddock.advance index lookups) := by
  rw [Paddock.advance]
  cases hcall : paddock.calls[index]? with
  | none => exact h
  | some call =>
    refine ⟨mem_append_right _ h.allocated, ?_, ?_⟩
    · rcases advance_cases (lookups.without paddock.allocated) call paddock.ranch.toMarket with
        ⟨hsame, -⟩ | ⟨created, hphase, -, hmarket⟩
      · show ∀ entry ∈ (call.advance _ paddock.ranch.toMarket).2.registrations, _
        rw [hsame]
        exact h.registrations
      · show ∀ entry ∈ (call.advance _ paddock.ranch.toMarket).2.registrations, _
        rw [hmarket]
        intro entry hentry heq
        rcases mem_emplace hentry with hentry | rfl
        · exact h.registrations entry hentry heq
        · exact h.created call (mem_of_getElem? hcall) (heq ▸ hphase)
    · intro other hother hcreated
      rcases mem_or_eq_of_mem_set hother with hother | rfl
      · exact h.created other hother hcreated
      · rcases advance_cases (lookups.without paddock.allocated) call paddock.ranch.toMarket with
          ⟨-, hnone | ⟨created, hphase, hfresh⟩⟩ | ⟨created, -, hnone, -⟩
        · cases (allocatedBy_created hcreated).symm.trans hnone
        · cases hphase.symm.trans hcreated
          exact of_decide_eq_true (filter_eq_some_iff.1 hfresh).2 h.allocated
        · cases (allocatedBy_created hcreated).symm.trans hnone

theorem gone_step (h : Gone uid paddock) : Gone uid (paddockStep registry items paddock input) := by
  cases input with
  | register characterUid horseUid breedingFee =>
    refine ⟨h.allocated, h.registrations, fun call hcall hphase => ?_⟩
    rcases mem_append.1 hcall with hcall | hcall
    · exact h.created call hcall hphase
    · cases mem_singleton.1 hcall
      cases hphase
  | advance index lookups => exact gone_advance h index lookups
  | unregister characterUid horseUid lookups =>
    exact h.of_subset fun _ hentry =>
      (sublist_unregister lookups characterUid horseUid paddock.ranch.toMarket).subset hentry
  | collectExpired available now => exact h.of_subset fun _ => id
  | expireCollected lookups =>
    exact h.of_subset fun _ hentry =>
      (sublist_expire lookups paddock.collected paddock.ranch.toMarket).subset hentry
  | tryBreeding client command lookups =>
    refine h.of_subset fun entry hentry => ?_
    rw [(calm_tryBreeding lookups client command paddock.ranch).1] at hentry
    exact hentry
  | equipment input => exact h.of_subset fun _ => id
  | returnToNature characterUid horseUid available => exact h.of_subset fun _ => id
  | abandon characterUid foalUid lookups => exact h.of_subset fun _ => id

/-- A registration that ends takes its record with it. -/
theorem gone_of_ends (h : Booked paddock)
    (hends : Ends paddock.ranch.toMarket (paddockStep registry items paddock input).ranch.toMarket entry)
    :
    Gone entry.2 (paddockStep registry items paddock input) := by
  obtain ⟨hmem, hnot⟩ := hends
  have hmem : entry ∈ paddock.registrations := hmem
  have hfree : ∀ call ∈ paddock.calls, call.phase ≠ .created entry.2 := fun call hcall hphase =>
    (h.created call hcall entry.2 hphase).1 entry hmem rfl
  have hgone : ∀ {ranch : Ranch} {collected : List (Uid × Uid)}, entry ∉ ranch.registrations →
      ranch.registrations.Sublist paddock.registrations →
        Gone entry.2 { paddock with ranch := ranch, collected := collected } := by
    intro ranch collected hnot hsub
    refine ⟨h.allocated entry hmem, fun other hother heq => hnot ?_, hfree⟩
    rw [← inj_on_of_nodup_map h.stallions (hsub.subset hother) hmem heq]
    exact hother
  cases input with
  | unregister characterUid horseUid lookups =>
    exact hgone hnot (sublist_unregister lookups characterUid horseUid paddock.ranch.toMarket)
  | expireCollected lookups =>
    exact hgone hnot (sublist_expire lookups paddock.collected paddock.ranch.toMarket)
  | advance index lookups => exact absurd (subset_advance paddock index lookups entry hmem) hnot
  | tryBreeding client command lookups =>
    refine absurd ?_ hnot
    show entry ∈ ((handleTryBreeding registry lookups client command).final paddock.ranch).registrations
    rw [(calm_tryBreeding lookups client command paddock.ranch).1]
    exact hmem
  | register characterUid horseUid breedingFee => exact absurd hmem hnot
  | collectExpired available now => exact absurd hmem hnot
  | equipment input => exact absurd hmem hnot
  | returnToNature characterUid horseUid available => exact absurd hmem hnot
  | abandon characterUid foalUid lookups => exact absurd hmem hnot

variable (registry items) in
/-- A record whose registration ended has no registration again, so it is not paid out again. -/
def EndsOnce (paddock : Paddock) (inputs : List PaddockInput) : Prop :=
  ∀ first input middle last, inputs = first ++ input :: (middle ++ last) → ∀ entry,
    Ends (run (paddockStep registry items) paddock first).ranch.toMarket
      (run (paddockStep registry items) paddock (first ++ [input])).ranch.toMarket entry →
      ∀ other ∈ (run (paddockStep registry items) paddock (first ++ input :: middle)).registrations,
        other.2 ≠ entry.2

theorem endsOnce (h : Booked paddock) (inputs : List PaddockInput) : EndsOnce registry items paddock inputs := by
  rintro first input middle last - entry hends
  have hbooked : Booked (run (paddockStep registry items) paddock first) :=
    run_invariant (fun _ _ => booked_step) h first
  rw [run_append] at hends
  rw [run_append]
  exact (run_invariant (fun _ _ => gone_step) (gone_of_ends hbooked hends) middle).registrations

/-- A ranch with a registered stallion that has mated twice. -/
def earner : Ranch where
  data := {
    characters := fun uid => if uid = 1 then some { uid := 1, horses := [10], mountUid := 11 } else none
    horses := fun uid => if uid = 10 then some { uid := 10, grade := 4, type := .stallion } else none
    stallions := fun uid => if uid = 100 then
      some { uid := 100, horseUid := 10, ownerUid := 1, breedingCharge := 4000, timesMated := 2 } else none }
  registrations := [(10, 100)]

end Runs

end Alicia.Breeding
