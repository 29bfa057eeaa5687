import Alicia.Collection.Filing
import Alicia.Collection.Maps
import Alicia.Messenger.Contacts

/-!
# Friendship

The groups of a character file its friends.  Between commands, two characters file each other or
neither does, nobody is its own friend, and a friend is filed under one group, which is stored under
its own uid.  `Sound` says which commands keep it so.
-/

namespace Alicia.Messenger

open Transition Effect Data Function Storage Collection
open Chrono (TimePoint)
open Character (Group)
open Collection (Filing Mutual getElem?_insert_self_or_ne mem_erase_iff mem_insert_iff)
open DataDirector (characterStorage)
open Std (ExtTreeMap ExtTreeSet)

/-! ## The groups as a filing -/

/-- Which characters are in which groups. -/
def members (groups : ExtTreeMap Uid Group) : Filing Uid Uid := fun key uid =>
  ∃ group, groups[key]? = some group ∧ uid ∈ group.members

/-- Every group is stored under its own uid. -/
def Keyed (groups : ExtTreeMap Uid Group) : Prop :=
  ∀ (key : Uid) (group : Group), groups[key]? = some group → group.uid = key

theorem mem_insertMany_iff {set : ExtTreeSet Uid} {uids : List Uid} {other : Uid} :
    other ∈ set.insertMany uids ↔ other ∈ set ∨ other ∈ uids := by
  rw [ExtTreeSet.mem_insertMany_list, List.contains_iff_mem]

variable {groups : ExtTreeMap Uid Group} {uid : Uid}

theorem members_insert {key k : Uid} {group : Group} :
    members (groups.insert key group) k uid ↔
      if k = key then uid ∈ group.members else members groups k uid := by
  unfold members
  rw [getElem?_insert_self_or_ne]
  by_cases h : k = key
  · rw [if_pos h, if_pos h]
    simp
  · rw [if_neg h, if_neg h]

theorem Keyed.insert {groups : ExtTreeMap Uid Group} {key : Uid} {group : Group}
    (hkeyed : Keyed groups) (hgroup : group.uid = key) : Keyed (groups.insert key group) := by
  intro k g hg
  rw [getElem?_insert_self_or_ne] at hg
  by_cases h : k = key
  · rw [if_pos h] at hg
    cases hg
    exact hgroup.trans h.symm
  · rw [if_neg h] at hg
    exact hkeyed k g hg

theorem Keyed.erase {key : Uid} (hkeyed : Keyed groups) :
    Keyed (groups.erase key) := by
  intro k g hg
  rw [ExtTreeMap.getElem?_erase] at hg
  split at hg
  · cases hg
  · exact hkeyed k g hg

/-! ## What the consumers make of the groups -/

theorem mem_friendsGroup {now : TimePoint} :
    uid ∈ (friendsGroup now groups).members ↔ members groups friendsCategoryUid uid := by
  unfold friendsGroup members
  cases groups[friendsCategoryUid]? with
  | none => simp
  | some group => simp

theorem members_acceptFriendRequest (uid : Uid) (now : TimePoint) (character : Character) :
    members (acceptFriendRequest uid now character).contacts.groups =
      (members character.contacts.groups).add friendsCategoryUid uid := by
  funext key other
  refine propext (members_insert.trans ?_)
  by_cases h : key = friendsCategoryUid
  · subst h
    rw [if_pos rfl, mem_insert_iff, mem_friendsGroup]
    exact or_congr_right (and_iff_right rfl).symm
  · rw [if_neg h]
    exact ⟨.inl, fun hor => hor.resolve_right fun hadded => h hadded.1⟩

variable {character : Character}

theorem Keyed.acceptFriendRequest (uid : Uid) (now : TimePoint)
    (hkeyed : Keyed character.contacts.groups) :
    Keyed (acceptFriendRequest uid now character).contacts.groups := by
  refine hkeyed.insert ?_
  show (friendsGroup now character.contacts.groups).uid = friendsCategoryUid
  unfold friendsGroup
  cases hgroup : character.contacts.groups[friendsCategoryUid]? with
  | none => rfl
  | some group => exact hkeyed friendsCategoryUid group hgroup

theorem members_deleteFriend (uid : Uid) (character : Character) :
    members (deleteFriend uid character).contacts.groups =
      (members character.contacts.groups).drop uid := by
  funext key other
  apply propext
  show (∃ group : Group, (character.contacts.groups.map _)[key]? = some group ∧
    other ∈ group.members) ↔ _
  simp only [ExtTreeMap.getElem?_map, Option.map_eq_some_iff]
  constructor
  · rintro ⟨-, ⟨group, hgroup, rfl⟩, hother⟩
    rw [mem_erase_iff] at hother
    exact ⟨⟨group, hgroup, hother.1⟩, hother.2⟩
  · rintro ⟨⟨group, hgroup, hother⟩, hne⟩
    exact ⟨_, ⟨group, hgroup, rfl⟩, mem_erase_iff.2 ⟨hother, hne⟩⟩

theorem Keyed.deleteFriend (uid : Uid) (hkeyed : Keyed character.contacts.groups) :
    Keyed (deleteFriend uid character).contacts.groups := by
  intro key group hgroup
  change (character.contacts.groups.map _)[key]? = some group at hgroup
  rw [ExtTreeMap.getElem?_map, Option.map_eq_some_iff] at hgroup
  obtain ⟨before, hbefore, rfl⟩ := hgroup
  exact hkeyed key before hbefore

/-- The groups of a character are arranged in another way: it has the same friends. -/
structure Rearranged (before after : ExtTreeMap Uid Group) : Prop where
  has : ∀ uid, (members after).Has uid ↔ (members before).Has uid
  single : (members before).Single → (members after).Single
  keyed : Keyed before → Keyed after

theorem Rearranged.of_members {before after : ExtTreeMap Uid Group}
    (hmembers : members after = members before) (hkeyed : Keyed before → Keyed after) :
    Rearranged before after := by
  constructor
  · intro uid
    rw [hmembers]
  · intro hsingle
    rwa [hmembers]
  · exact hkeyed

theorem Rearranged.refl (groups : ExtTreeMap Uid Group) : Rearranged groups groups :=
  .of_members rfl id

variable {source : Uid × Group}

theorem groupOf_eq_some (h : groupOf uid groups = some source) :
    groups[source.1]? = some source.2 ∧ uid ∈ source.2.members := by
  have hdecided := List.find?_some h
  have hentry := List.mem_of_find?_eq_some h
  exact ⟨ExtTreeMap.mem_toList_iff_getElem?_eq_some.1 hentry, of_decide_eq_true hdecided⟩

variable {groupUid : Uid}

/-- A friend that is not in the target group yet is moved into it. -/
theorem members_moveFriend {target : Group} (hsource : groupOf uid groups = some source)
    (htarget : groups[groupUid]? = some target) (hout : uid ∉ target.members) :
    members (moveFriend uid groupUid source groups) =
      (members groups).move source.1 groupUid uid := by
  obtain ⟨hgroup, hin⟩ := groupOf_eq_some hsource
  have hne : groupUid ≠ source.1 := by
    rintro rfl
    rw [htarget] at hgroup
    cases hgroup
    exact hout hin
  have herased : (groups.insert source.1
      { source.2 with members := source.2.members.erase uid })[groupUid]? = some target := by
    rw [getElem?_insert_self_or_ne, if_neg hne, htarget]
  funext key other
  unfold moveFriend
  dsimp only
  rw [herased]
  refine propext (members_insert.trans ?_)
  by_cases hkey : key = groupUid
  · subst hkey
    rw [if_pos rfl, mem_insert_iff]
    have hmembers : other ∈ target.members ↔ members groups key other := by
      simp [members, htarget]
    rw [hmembers]
    refine or_congr ?_ (and_iff_right rfl).symm
    exact ⟨fun h => ⟨h, fun hboth => hne hboth.1⟩, And.left⟩
  rw [if_neg hkey, members_insert]
  have hmoved : ¬(key = groupUid ∧ other = uid) := fun h => hkey h.1
  show _ ↔ _ ∨ _
  rw [or_iff_left hmoved]
  by_cases hfrom : key = source.1
  · subst hfrom
    rw [if_pos rfl, mem_erase_iff]
    have hmembers : other ∈ source.2.members ↔ members groups source.1 other := by
      simp [members, hgroup]
    rw [hmembers]
    simp
  · rw [if_neg hfrom]
    exact ⟨fun h => ⟨h, fun hboth => hfrom hboth.1⟩, And.left⟩

theorem Keyed.moveFriend (hkeyed : Keyed groups) (hsource : groupOf uid groups = some source) :
    Keyed (moveFriend uid groupUid source groups) := by
  have herased := @Keyed.insert groups source.1
    { source.2 with members := source.2.members.erase uid } hkeyed
    (hkeyed source.1 source.2 (groupOf_eq_some hsource).1)
  unfold Messenger.moveFriend
  dsimp only
  split
  · exact herased
  · next target htarget => exact herased.insert (herased groupUid target htarget)

theorem buddyMove_rearranged (uid groupUid : Uid) (character : Character) :
    Rearranged character.contacts.groups
      (buddyMove uid groupUid character).2.contacts.groups := by
  unfold buddyMove
  dsimp only
  split
  · exact .refl _
  next target htarget =>
  by_cases hin : uid ∈ target.members
  · rw [if_pos hin]
    exact .refl _
  rw [if_neg hin]
  split
  · exact .refl _
  next source hsource =>
  have hmembers := members_moveFriend hsource htarget hin
  have hfiled : members character.contacts.groups source.1 uid :=
    ⟨source.2, groupOf_eq_some hsource⟩
  constructor
  · intro other
    show (members (moveFriend uid groupUid source character.contacts.groups)).Has other ↔ _
    rw [hmembers]
    exact Filing.has_move hfiled
  · intro hsingle
    show (members (moveFriend uid groupUid source character.contacts.groups)).Single
    rw [hmembers]
    exact hsingle.move hfiled
  · intro hkeyed
    exact hkeyed.moveFriend hsource

theorem groupAdd_rearranged (groupName : Text) (now : TimePoint) (character : Character) :
    Rearranged character.contacts.groups (groupAdd groupName now character).2.contacts.groups := by
  unfold groupAdd
  dsimp only
  split
  · exact .refl _
  next next hnext =>
  by_cases hrefused : next = 0 ∨ next ∈ character.contacts.groups
  · rw [if_pos hrefused]
    exact .refl _
  rw [if_neg hrefused]
  have hfresh : character.contacts.groups[next]? = none :=
    getElem?_neg _ _ fun hmem => hrefused (.inr hmem)
  refine .of_members ?_ fun hkeyed => hkeyed.insert rfl
  funext key uid
  refine propext (members_insert.trans ?_)
  by_cases hkey : key = next
  · subst hkey
    rw [if_pos rfl]
    simp [members, hfresh]
  · rw [if_neg hkey]

theorem groupRename_rearranged (groupUid : Uid) (groupName : Text) (character : Character) :
    Rearranged character.contacts.groups
      (groupRename groupUid groupName character).2.contacts.groups := by
  unfold groupRename
  dsimp only
  split
  · exact .refl _
  next group hgroup =>
  split
  · exact .refl _
  refine .of_members ?_ fun hkeyed => hkeyed.insert (hkeyed groupUid group hgroup)
  funext key uid
  refine propext (members_insert.trans ?_)
  by_cases hkey : key = groupUid
  · subst hkey
    rw [if_pos rfl]
    simp [members, hgroup]
  · rw [if_neg hkey]

theorem members_erase {key k : Uid} :
    members (groups.erase key) k uid ↔ k ≠ key ∧ members groups k uid := by
  unfold members
  rw [ExtTreeMap.getElem?_erase]
  by_cases h : key = k
  · subst h
    rw [if_pos Std.ReflCmp.compare_self]
    simp
  · rw [if_neg fun heq => h (Std.LawfulEqCmp.eq_of_compare heq)]
    exact (and_iff_right (Ne.symm h)).symm

/-- What is left of the groups when one of them is deleted. -/
theorem members_groupDelete {group friends : Group}
    (hgroup : character.contacts.groups[groupUid]? = some group)
    (hfriends : character.contacts.groups[friendsCategoryUid]? = some friends) :
    members (groupDelete groupUid character).2.contacts.groups =
      (members character.contacts.groups).dissolve groupUid friendsCategoryUid := by
  unfold groupDelete
  dsimp only
  rw [hgroup, hfriends]
  funext key uid
  refine propext (members_erase.trans (and_congr_right fun hkey => members_insert.trans ?_))
  have hin : uid ∈ group.members ↔ members character.contacts.groups groupUid uid := by
    simp [members, hgroup]
  by_cases hdefault : key = friendsCategoryUid
  · subst hdefault
    rw [if_pos rfl, mem_insertMany_iff, ExtTreeSet.mem_toList, hin]
    have hmembers : uid ∈ friends.members ↔
        members character.contacts.groups friendsCategoryUid uid := by
      simp [members, hfriends]
    rw [hmembers]
    exact or_congr_right (and_iff_right rfl).symm
  · rw [if_neg hdefault]
    exact (or_iff_left fun h => hdefault h.1).symm

theorem groupDelete_rearranged (hkept : groupUid = friendsCategoryUid →
      ∀ uid, ¬members character.contacts.groups friendsCategoryUid uid) :
    Rearranged character.contacts.groups
      (groupDelete groupUid character).2.contacts.groups := by
  cases hgroup : character.contacts.groups[groupUid]? with
  | none =>
    simp only [groupDelete, hgroup]
    exact .refl _
  | some group =>
  cases hfriends : character.contacts.groups[friendsCategoryUid]? with
  | none =>
    simp only [groupDelete, hgroup, hfriends]
    exact .refl _
  | some friends =>
  have hmembers := members_groupDelete hgroup hfriends
  have hkeys : Keyed character.contacts.groups →
      Keyed (groupDelete groupUid character).2.contacts.groups := by
    intro hkeyed
    simp only [groupDelete, hgroup, hfriends]
    refine Keyed.erase (hkeyed.insert ?_)
    exact hkeyed friendsCategoryUid friends hfriends
  constructor
  · intro uid
    rw [hmembers]
    by_cases hdefault : groupUid = friendsCategoryUid
    · subst hdefault
      constructor
      · rintro ⟨key, -, hfiled | ⟨-, hfiled⟩⟩
        · exact ⟨key, hfiled⟩
        · exact ⟨friendsCategoryUid, hfiled⟩
      · rintro ⟨key, hfiled⟩
        refine ⟨key, ?_, .inl hfiled⟩
        rintro rfl
        exact hkept rfl uid hfiled
    · exact Filing.has_dissolve (Ne.symm hdefault)
  · intro hsingle
    rw [hmembers]
    exact hsingle.dissolve
  · exact hkeys

/-! ## The groups of all characters -/

/-- The groups of a character.  A character without a record has none. -/
def groupsOf (data : DataDirector) (uid : Uid) : ExtTreeMap Uid Group :=
  match data.characters uid with
  | some character => character.contacts.groups
  | none => ∅

/-- Which characters are in which groups of a character. -/
def book (data : DataDirector) (uid : Uid) : Filing Uid Uid := members (groupsOf data uid)

/-- `b` is in some group of `a`. -/
def Friends (data : DataDirector) (a b : Uid) : Prop := (book data a).Has b

/-- Two characters are friends of each other or neither of the other, nobody is its own friend, each
friend is in one group, and a group is stored under its own uid. -/
structure Consistent (data : DataDirector) : Prop where
  reciprocal : Mutual (book data)
  keyed : ∀ uid, Keyed (groupsOf data uid)

variable {available : Bool} {data : DataDirector}

theorem groupsOf_of_find (hfind : characterStorage.find available uid data = some character) :
    groupsOf data uid = character.contacts.groups := by
  have hrecord : data.characters uid = some character := (find_eq_some.1 hfind).2.2
  unfold groupsOf
  rw [hrecord]

theorem groupsOf_write (data : DataDirector) (uid : Uid) (character : Character) :
    groupsOf (characterStorage.write uid character data) =
      update (groupsOf data) uid character.contacts.groups := by
  have hrecords : (characterStorage.write uid character data).characters =
      update data.characters uid (some character) := by
    exact @records_write _ characterStorage uid character data
  funext other
  unfold groupsOf
  rw [hrecords]
  by_cases h : other = uid
  · subst h
    rw [update_self, update_self]
  · rw [update_of_ne h, update_of_ne h]

theorem book_write (data : DataDirector) (uid : Uid) (character : Character) :
    book (characterStorage.write uid character data) =
      update (book data) uid (members character.contacts.groups) := by
  funext other
  unfold book
  rw [groupsOf_write]
  by_cases h : other = uid
  · subst h
    rw [update_self, update_self]
  · rw [update_of_ne h, update_of_ne h]

theorem keyed_write (hkeyed : ∀ uid, Keyed (groupsOf data uid))
    (hcharacter : Keyed character.contacts.groups) (other : Uid) :
    Keyed (groupsOf (characterStorage.write uid character data) other) := by
  rw [groupsOf_write]
  by_cases h : other = uid
  · subst h
    rwa [update_self]
  · rw [update_of_ne h]
    exact hkeyed other

/-- The friends stay the same, and so does the consistency of the contacts. -/
structure Arranged (before after : DataDirector) : Prop where
  friends : ∀ a b, Friends after a b ↔ Friends before a b
  consistent : Consistent before → Consistent after

theorem Arranged.refl (data : DataDirector) : Arranged data data := ⟨fun _ _ => Iff.rfl, id⟩

theorem Arranged.trans {first second third : DataDirector} (h : Arranged first second)
    (h' : Arranged second third) : Arranged first third where
  friends a b := (h'.friends a b).trans (h.friends a b)
  consistent hfirst := h'.consistent (h.consistent hfirst)

instance : Std.Refl Arranged := ⟨Arranged.refl⟩

instance : IsTrans DataDirector Arranged := ⟨fun _ _ _ => Arranged.trans⟩

theorem Arranged.write {available : Bool} {data : DataDirector} {uid : Uid}
    {before after : Character} (hfind : characterStorage.find available uid data = some before)
    (hgroups : Rearranged before.contacts.groups after.contacts.groups) :
    Arranged data (characterStorage.write uid after data) := by
  have hbook : book data uid = members before.contacts.groups := by
    rw [book, groupsOf_of_find hfind]
  constructor
  · intro a b
    unfold Friends
    rw [book_write]
    by_cases ha : a = uid
    · subst ha
      rw [update_self, hbook]
      exact hgroups.has b
    · rw [update_of_ne ha]
  · rintro ⟨hmutual, hkeyed⟩
    have hsingle := hmutual.single uid
    have hkeys := hkeyed uid
    rw [hbook] at hsingle
    rw [groupsOf_of_find hfind] at hkeys
    constructor
    · rw [book_write]
      apply hmutual.update
      · intro v
        rw [hbook]
        exact hgroups.has v
      · exact hgroups.single hsingle
    · exact keyed_write hkeyed (hgroups.keyed hkeys)

/-- Before anybody has a group the contacts are consistent. -/
theorem consistent_of_new
    (h : ∀ uid character, data.characters uid = some character → character.contacts.groups = ∅) :
    Consistent data := by
  have hgroups : ∀ uid, groupsOf data uid = ∅ := by
    intro uid
    unfold groupsOf
    cases hcharacter : data.characters uid with
    | none => rfl
    | some character => exact h uid character hcharacter
  have hempty : ∀ uid key other, ¬book data uid key other := by
    rintro uid key other ⟨group, hgroup, -⟩
    rw [hgroups uid] at hgroup
    cases hgroup
  constructor
  · constructor
    · rintro a b ⟨key, hkey⟩
      exact absurd hkey (hempty a key b)
    · rintro a ⟨key, hkey⟩
      exact hempty a key a hkey
    · intro a item first second hfirst
      exact absurd hfirst (hempty a first item)
  · intro uid
    rw [hgroups uid]
    intro key group hgroup
    cases hgroup

/-! ## What the commands do -/

variable {invoker : Uid}

/-- A command whose handler only changes the invoker's record. -/
theorem Arranged.mutableGet {α : Type} {consumer : Character → α × Character}
    {reply : α → Handler Reply} (hreply : ∀ a data, (reply a).final data = data)
    (hgroups : ∀ character, characterStorage.find available invoker data = some character →
      Rearranged character.contacts.groups (consumer character).2.contacts.groups) :
    Arranged data
      ((characterStorage.mutableGet available invoker consumer >>= reply).final data) := by
  rw [final_mutableGet_reply available invoker consumer hreply]
  cases hfind : characterStorage.find available invoker data with
  | none => exact .refl data
  | some character => exact .write hfind (hgroups character hfind)

theorem step_buddyMove (data : DataDirector) (invoker uid groupUid : Uid) (available : Bool) :
    Arranged data (step data (invoker, .buddyMove uid groupUid available)) := by
  apply Arranged.mutableGet
  · intro error data
    cases error <;> rfl
  · intro character _
    exact buddyMove_rearranged uid groupUid character

theorem step_groupAdd (data : DataDirector) (invoker : Uid) (groupName : Text) (now : TimePoint)
    (available : Bool) : Arranged data (step data (invoker, .groupAdd groupName now available)) := by
  apply Arranged.mutableGet
  · intro groupUid data
    cases groupUid <;> rfl
  · intro character _
    exact groupAdd_rearranged groupName now character

theorem step_groupRename (data : DataDirector) (invoker groupUid : Uid) (groupName : Text)
    (available : Bool) :
    Arranged data (step data (invoker, .groupRename groupUid groupName available)) := by
  apply Arranged.mutableGet
  · intro error data
    cases error <;> rfl
  · intro character _
    exact groupRename_rearranged groupUid groupName character

theorem step_groupDelete (hkept : groupUid = friendsCategoryUid →
      ∀ character, characterStorage.find available invoker data = some character →
        ∀ uid, ¬members character.contacts.groups friendsCategoryUid uid) :
    Arranged data (step data (invoker, .groupDelete groupUid available)) := by
  apply Arranged.mutableGet
  · intro error data
    cases error <;> rfl
  · intro character hfind
    exact groupDelete_rearranged fun hdefault => hkept hdefault character hfind

theorem step_buddyAdd (data : DataDirector) (invoker : Uid) (characterName : Text)
    (lookups : BuddyAddLookups) :
    Arranged data (step data (invoker, .buddyAdd characterName lookups)) := by
  have hkeeps : Keeps Arranged (handleChatterBuddyAdd invoker characterName lookups) := by
    unfold handleChatterBuddyAdd
    apply Keeps.bind
    · cases lookups.target with
      | none => exact .throw _
      | some targetCharacterUid => exact .pure _
    intro targetCharacterUid
    split
    · exact .pure _
    refine Keeps.bind (keeps_immutable _ _) fun character => ?_
    split
    · exact .pure _
    refine Keeps.bind (keeps_immutable _ _) fun target => ?_
    split
    · exact .pure _
    apply Keeps.bind
    · apply keeps_mutable
      intro data character hfind
      exact .write hfind (.refl _)
    · intro _
      exact .pure _
  exact hkeeps data

/-- What is left of a record's groups by a consumer that does the same to every filing. -/
theorem mutable_spec {consumer : Character → Character} {change : Filing Uid Uid → Filing Uid Uid}
    (hmembers : members (consumer character).contacts.groups =
      change (members character.contacts.groups))
    (hkeys : Keyed character.contacts.groups → Keyed (consumer character).contacts.groups)
    (hfind : characterStorage.find available uid data = some character) :
    book (characterStorage.write uid (consumer character) data) =
        update (book data) uid (change (book data uid)) ∧
      ((∀ uid, Keyed (groupsOf data uid)) →
        ∀ other, Keyed (groupsOf (characterStorage.write uid (consumer character) data) other)) := by
  have hgroups := groupsOf_of_find hfind
  constructor
  · rw [book_write, hmembers]
    show _ = update (book data) uid (change (members (groupsOf data uid)))
    rw [hgroups]
  · intro hkeyed
    have hcharacter := hkeyed uid
    rw [hgroups] at hcharacter
    exact keyed_write hkeyed (hkeys hcharacter)

theorem mutable_ok (consumer : Character → Character)
    (hfind : characterStorage.find available uid data = some character) :
    characterStorage.mutable available uid consumer data =
      .ok ⟨⟩ (characterStorage.write uid (consumer character) data) := by
  rw [mutable_apply, hfind]

/-- The two characters of an accepted request become friends. -/
theorem step_accept {data : DataDirector} {invoker requestingUid : Uid}
    {lookups : BuddyAddReplyLookups} {now : TimePoint} {requesting responding : Character}
    (hrequesting : characterStorage.find lookups.requesting requestingUid data = some requesting)
    (hresponding : characterStorage.find lookups.responding invoker data = some responding) :
    book (step data (invoker, .buddyAddReply ⟨requestingUid, true⟩ lookups now)) =
        join friendsCategoryUid requestingUid invoker (book data) ∧
      ((∀ uid, Keyed (groupsOf data uid)) → ∀ other, Keyed
        (groupsOf (step data (invoker, .buddyAddReply ⟨requestingUid, true⟩ lookups now)) other)) := by
  obtain ⟨hvalid, -, hrecord⟩ := find_eq_some.1 hrequesting
  obtain ⟨hinvoker, -, hresponds⟩ := find_eq_some.1 hresponding
  have hfirst : characterStorage.find true requestingUid data = some requesting :=
    find_eq_some.2 ⟨hvalid, rfl, hrecord⟩
  have hsome : (characterStorage.find true invoker (characterStorage.write requestingUid
      (acceptFriendRequest invoker now requesting) data)).isSome = true := by
    rw [find_write_isSome (Option.isSome_of_eq_some hrecord),
      find_eq_some.2 ⟨hinvoker, rfl, hresponds⟩]
    rfl
  obtain ⟨accepting, hsecond⟩ := Option.isSome_iff_exists.1 hsome
  have hstep : step data (invoker, .buddyAddReply ⟨requestingUid, true⟩ lookups now) =
      characterStorage.write invoker (acceptFriendRequest requestingUid now accepting)
        (characterStorage.write requestingUid (acceptFriendRequest invoker now requesting) data) := by
    show (handleChatterBuddyAddReply invoker ⟨requestingUid, true⟩ lookups now).final data = _
    rw [handleChatterBuddyAddReply, final_bind_ok (get_apply data)]
    dsimp only
    rw [hrequesting]
    dsimp only
    rw [final_bind, immutable_apply, hresponding]
    dsimp only
    rw [if_pos rfl, final_bind_ok (mutable_ok _ hfirst),
      final_bind_ok (mutable_ok _ hsecond)]
    rfl
  obtain ⟨hbook, hkeys⟩ := mutable_spec (members_acceptFriendRequest invoker now requesting)
    (Keyed.acceptFriendRequest invoker now) hfirst
  obtain ⟨hbooks, hkeyed⟩ := mutable_spec (members_acceptFriendRequest requestingUid now accepting)
    (Keyed.acceptFriendRequest requestingUid now) hsecond
  rw [hstep]
  refine ⟨?_, fun h => hkeyed (hkeys h)⟩
  rw [hbooks, hbook]
  rfl

/-- A request that is rejected, or whose characters are not both available, makes no friends. -/
theorem step_notAccept {data : DataDirector} {invoker : Uid} {command : BuddyAddReply}
    {lookups : BuddyAddReplyLookups} (now : TimePoint)
    (h : command.requestAccepted = false ∨
      characterStorage.find lookups.requesting command.requestingCharacterUid data = none ∨
      characterStorage.find lookups.responding invoker data = none) :
    Arranged data (step data (invoker, .buddyAddReply command lookups now)) := by
  show Arranged data ((handleChatterBuddyAddReply invoker command lookups now).final data)
  rw [handleChatterBuddyAddReply, final_bind_ok (get_apply data)]
  cases hrequesting : characterStorage.find lookups.requesting command.requestingCharacterUid data with
  | none => exact .refl data
  | some requesting =>
  dsimp only
  rw [final_bind, immutable_apply]
  cases hresponding : characterStorage.find lookups.responding invoker data with
  | none => exact .refl data
  | some responding =>
  dsimp only
  have hrejected : command.requestAccepted = false := by
    obtain h | h | h := h
    · exact h
    · rw [hrequesting] at h
      cases h
    · rw [hresponding] at h
      cases h
  rw [if_neg (ne_true_of_eq_false hrejected)]
  obtain ⟨hinvoker, -, hrecord⟩ := find_eq_some.1 hresponding
  have hfind : characterStorage.find true invoker data = some responding :=
    find_eq_some.2 ⟨hinvoker, rfl, hrecord⟩
  rw [final_bind_ok (mutable_ok _ hfind)]
  exact .write hfind (.refl _)

/-- The two characters of a deletion are no longer friends, unless the invoker's record is not
available. -/
theorem step_buddyDelete {data : DataDirector} {invoker uid : Uid}
    {targetAvailable invokerAvailable : Bool} {target : Character}
    (htarget : characterStorage.find targetAvailable uid data = some target) :
    book (step data (invoker, .buddyDelete uid targetAvailable invokerAvailable)) =
        (if (characterStorage.find invokerAvailable invoker data).isSome then
          part uid invoker (book data)
        else update (book data) uid ((book data uid).drop invoker)) ∧
      ((∀ uid, Keyed (groupsOf data uid)) → ∀ other, Keyed
        (groupsOf (step data (invoker, .buddyDelete uid targetAvailable invokerAvailable))
          other)) := by
  obtain ⟨hvalid, -, hrecord⟩ := find_eq_some.1 htarget
  have hfirst : characterStorage.find true uid data = some target :=
    find_eq_some.2 ⟨hvalid, rfl, hrecord⟩
  obtain ⟨hbook, hkeys⟩ := mutable_spec (members_deleteFriend invoker target)
    (Keyed.deleteFriend invoker) hfirst
  have hisSome := @find_write_isSome _ characterStorage invokerAvailable uid invoker
    (deleteFriend invoker target) data (Option.isSome_of_eq_some hrecord)
  rw [← hisSome]
  show book ((handleChatterBuddyDelete invoker uid targetAvailable invokerAvailable).final data) = _ ∧
    (_ → ∀ other, Keyed (groupsOf
      ((handleChatterBuddyDelete invoker uid targetAvailable invokerAvailable).final data) other))
  rw [handleChatterBuddyDelete, final_bind_ok (get_apply data), htarget,
    if_neg (by simp), final_bind_ok (mutable_ok _ hfirst), final_bind,
    mutable_apply]
  cases hsecond : characterStorage.find invokerAvailable invoker
      (characterStorage.write uid (deleteFriend invoker target) data) with
  | none =>
    rw [if_neg (by simp)]
    exact ⟨hbook, hkeys⟩
  | some character =>
    obtain ⟨hbooks, hkeyed⟩ := mutable_spec (members_deleteFriend uid character)
      (Keyed.deleteFriend uid) hsecond
    rw [if_pos (by simp)]
    refine ⟨?_, fun h => hkeyed (hkeys h)⟩
    show book (characterStorage.write invoker (deleteFriend uid character)
      (characterStorage.write uid (deleteFriend invoker target) data)) = _
    rw [hbooks, hbook]
    rfl

theorem step_buddyDelete_unavailable {targetAvailable : Bool} (invokerAvailable : Bool)
    (htarget : characterStorage.find targetAvailable uid data = none) :
    step data (invoker, .buddyDelete uid targetAvailable invokerAvailable) = data := by
  show (handleChatterBuddyDelete invoker uid targetAvailable invokerAvailable).final data = data
  rw [handleChatterBuddyDelete, final_bind_ok (get_apply data), htarget]
  rfl

/-! ## What is expected of a command -/

/-- The command is an acceptance of a request that is pending. -/
def Accepts (data : DataDirector) (input : Uid × Command) (requesting responding : Uid) : Prop :=
  ∃ lookups now character, input = (responding, .buddyAddReply ⟨requesting, true⟩ lookups now) ∧
    data.characters responding = some character ∧ requesting ∈ character.contacts.pending

/-- The command concerns the groups of a character but not its friends. -/
def Command.Arranges : Command → Prop
  | .buddyMove .. | .groupAdd .. | .groupRename .. | .groupDelete .. => True
  | .buddyAdd .. | .buddyAddReply .. | .buddyDelete .. => False

/-- What a command should do: the contacts are consistent afterwards, new friends come from the
acceptance of a pending request, a command about groups leaves the friends as they are, and nothing
undefined happens. -/
structure Proper (data : DataDirector) (input : Uid × Command) : Prop where
  consistent : Consistent (step data input)
  accepted : ∀ a b, Friends (step data input) a b →
    Friends data a b ∨ Accepts data input a b ∨ Accepts data input b a
  arranged : input.2.Arranges → ∀ a b, Friends (step data input) a b ↔ Friends data a b
  defined : (handle input.1 input.2).returned data ≠ some .undefined

/-- The invoker may accept the request: it is from another character, which asked for it or is a
friend already, and neither of them has the other one in a group besides the default one. -/
structure Acceptable (data : DataDirector) (invoker requestingUid : Uid) : Prop where
  other : requestingUid ≠ invoker
  asked : Friends data requestingUid invoker ∨
    ∃ character, data.characters invoker = some character ∧
      requestingUid ∈ character.contacts.pending
  requesting : ∀ key, book data requestingUid key invoker → key = friendsCategoryUid
  responding : ∀ key, book data invoker key requestingUid → key = friendsCategoryUid

/-- The commands that do what is expected of them. -/
def Sound (data : DataDirector) : Uid × Command → Prop
  | (invoker, .buddyAddReply command lookups _) =>
    command.requestAccepted = true →
      (characterStorage.find lookups.requesting command.requestingCharacterUid data).isSome →
      (characterStorage.find lookups.responding invoker data).isSome →
      Acceptable data invoker command.requestingCharacterUid
  | (invoker, .buddyDelete uid targetAvailable invokerAvailable) =>
    (characterStorage.find targetAvailable uid data).isSome → Friends data uid invoker →
      (characterStorage.find invokerAvailable invoker data).isSome
  | (invoker, .groupAdd _ _ available) =>
    ∀ character, characterStorage.find available invoker data = some character →
      character.contacts.groups ≠ ∅
  | (invoker, .groupDelete groupUid available) =>
    groupUid = friendsCategoryUid →
      ∀ character, characterStorage.find available invoker data = some character →
        ∀ uid, ¬members character.contacts.groups friendsCategoryUid uid
  | (_, .buddyAdd ..) | (_, .buddyMove ..) | (_, .groupRename ..) => True

/-- A command that leaves the friends as they are is as expected. -/
theorem Arranged.proper {input : Uid × Command} (h : Arranged data (step data input))
    (hconsistent : Consistent data)
    (hdefined : (handle input.1 input.2).returned data ≠ some .undefined) : Proper data input where
  consistent := h.consistent hconsistent
  accepted a b hfriends := .inl ((h.friends a b).1 hfriends)
  arranged _ := h.friends
  defined := hdefined

/-! ## The sound commands are those that are as expected -/

/-- Only a new group can be undefined. -/
theorem handle_defined (invoker : Uid) {command : Command}
    (h : ∀ groupName now available, command ≠ .groupAdd groupName now available) :
    Returns (· ≠ .undefined) (handle invoker command) := by
  cases command with
  | buddyAdd characterName lookups =>
    refine .bind _ fun targetCharacterUid => ?_
    split
    · exact .pure (by simp)
    refine .bind _ fun character => ?_
    split
    · exact .pure (by simp)
    refine .bind _ fun target => ?_
    split
    · exact .pure (by simp)
    · exact .bind _ fun _ => .pure (by simp)
  | buddyAddReply command lookups now =>
    refine .bind _ fun data => ?_
    split
    · exact .pure (by simp)
    refine .bind _ fun responding => ?_
    split
    · exact .bind _ fun _ => .bind _ fun _ => .pure (by simp)
    · exact .bind _ fun _ => .pure (by simp)
  | buddyDelete characterUid targetAvailable invokerAvailable =>
    refine .bind _ fun data => ?_
    split
    · exact .pure (by simp)
    · exact .bind _ fun _ => .bind _ fun _ => .pure (by simp)
  | buddyMove characterUid groupUid available =>
    refine .bind _ fun error => ?_
    cases error <;> exact .pure (by simp)
  | groupAdd groupName now available => exact absurd rfl (h groupName now available)
  | groupRename groupUid groupName available =>
    refine .bind _ fun error => ?_
    cases error <;> exact .pure (by simp)
  | groupDelete groupUid available =>
    refine .bind _ fun error => ?_
    cases error <;> exact .pure (by simp)

theorem returned_defined (data : DataDirector) (invoker : Uid) {command : Command}
    (h : ∀ groupName now available, command ≠ .groupAdd groupName now available) :
    (handle invoker command).returned data ≠ some .undefined :=
  fun hreturned => handle_defined invoker h data .undefined hreturned rfl

theorem groupAdd_eq_none {groupName : Text} {now : TimePoint} {character : Character} :
    (groupAdd groupName now character).1 = none ↔ character.contacts.groups = ∅ := by
  rw [← ExtTreeMap.maxKey?_eq_none_iff, groupAdd, nextGroupUid]
  cases character.contacts.groups.maxKey? with
  | none => simp
  | some key =>
    dsimp only [Option.map_some]
    split <;> simp

/-- A new group is undefined where the invoker has no groups. -/
theorem groupAdd_defined {data : DataDirector} {invoker : Uid} {groupName : Text} {now : TimePoint}
    {available : Bool} :
    (handle invoker (.groupAdd groupName now available)).returned data ≠ some .undefined ↔
      ∀ character, characterStorage.find available invoker data = some character →
        character.contacts.groups ≠ ∅ := by
  show (handleChatterGroupAdd invoker groupName now available).returned data ≠ some .undefined ↔ _
  rw [handleChatterGroupAdd, Effect.returned, bind_apply, mutableGet_apply]
  cases characterStorage.find available invoker data with
  | none => simp
  | some character =>
    dsimp only
    simp only [Option.some.injEq, forall_eq', ne_eq, ← @groupAdd_eq_none groupName now character]
    cases (groupAdd groupName now character).1 with
    | none => simp
    | some groupUid => simp

theorem proper_of_accept {requestingUid : Uid} {lookups : BuddyAddReplyLookups} {now : TimePoint}
    {requesting responding : Character} (hconsistent : Consistent data)
    (hrequesting : characterStorage.find lookups.requesting requestingUid data = some requesting)
    (hresponding : characterStorage.find lookups.responding invoker data = some responding) :
    Proper data (invoker, .buddyAddReply ⟨requestingUid, true⟩ lookups now) ↔
      Acceptable data invoker requestingUid := by
  obtain ⟨hbook, hkeys⟩ := @step_accept data invoker requestingUid lookups now requesting
    responding hrequesting hresponding
  constructor
  · rintro ⟨⟨hmutual, -⟩, haccepted, -, -⟩
    rw [hbook] at hmutual
    obtain ⟨hne, hasks, hanswers⟩ := hmutual.of_join
    refine ⟨hne, ?_, hasks, hanswers⟩
    have hfriends : Friends (step data
        (invoker, .buddyAddReply ⟨requestingUid, true⟩ lookups now)) requestingUid invoker := by
      unfold Friends
      rw [hbook, has_join]
      exact .inr (.inl ⟨rfl, rfl⟩)
    obtain hbefore | ⟨_, _, character, heq, hcharacter, hpending⟩ |
      ⟨_, _, character, heq, hcharacter, hpending⟩ := haccepted _ _ hfriends
    · exact .inl hbefore
    · exact .inr ⟨character, hcharacter, hpending⟩
    · cases heq
      exact absurd rfl hne
  · rintro ⟨hne, hasked, hasks, hanswers⟩
    constructor
    · constructor
      · rw [hbook]
        exact hconsistent.reciprocal.join hne hasks hanswers
      · exact hkeys hconsistent.keyed
    · intro a b hfriends
      unfold Friends at hfriends
      rw [hbook, has_join] at hfriends
      have hboth : Friends data requestingUid invoker ∨
          Accepts data (invoker, .buddyAddReply ⟨requestingUid, true⟩ lookups now)
            requestingUid invoker := by
        obtain hbefore | ⟨character, hcharacter, hpending⟩ := hasked
        · exact .inl hbefore
        · exact .inr ⟨lookups, now, character, rfl, hcharacter, hpending⟩
      obtain hbefore | ⟨rfl, rfl⟩ | ⟨rfl, rfl⟩ := hfriends
      · exact .inl hbefore
      · exact hboth.imp_right .inl
      · exact hboth.imp (hconsistent.reciprocal.symm _ _) .inr
    · intro harranges
      exact harranges.elim
    · exact returned_defined data invoker (by simp)

theorem proper_of_buddyDelete {targetAvailable invokerAvailable : Bool} {target : Character}
    (hconsistent : Consistent data)
    (htarget : characterStorage.find targetAvailable uid data = some target) :
    Proper data (invoker, .buddyDelete uid targetAvailable invokerAvailable) ↔
      (Friends data uid invoker →
        (characterStorage.find invokerAvailable invoker data).isSome) := by
  obtain ⟨hbook, hkeys⟩ := @step_buddyDelete data invoker uid targetAvailable invokerAvailable
    target htarget
  cases hinvoker : (characterStorage.find invokerAvailable invoker data).isSome with
  | true =>
    rw [if_pos hinvoker] at hbook
    refine iff_of_true ⟨⟨?_, hkeys hconsistent.keyed⟩, ?_, ?_, ?_⟩ fun _ => rfl
    · rw [hbook]
      exact hconsistent.reciprocal.part
    · intro a b hfriends
      unfold Friends at hfriends
      rw [hbook, has_part] at hfriends
      exact .inl hfriends.1
    · intro harranges
      exact harranges.elim
    · exact returned_defined data invoker (by simp)
  | false =>
    rw [if_neg (by simp [hinvoker])] at hbook
    constructor
    · rintro ⟨⟨hmutual, -⟩, -, -, -⟩ hfriends
      rw [hbook] at hmutual
      exact absurd hfriends (hconsistent.reciprocal.of_drop hmutual)
    · intro himp
      have hnot : ¬(book data uid).Has invoker := by
        intro hfriends
        cases himp hfriends
      have hsame : ∀ v, ((book data uid).drop invoker).Has v ↔ (book data uid).Has v := by
        intro v
        rw [Filing.has_drop]
        refine and_iff_left_of_imp ?_
        rintro hv rfl
        exact hnot hv
      refine ⟨⟨?_, hkeys hconsistent.keyed⟩, ?_, ?_, ?_⟩
      · rw [hbook]
        exact hconsistent.reciprocal.update hsame (hconsistent.reciprocal.single uid).drop
      · intro a b hfriends
        unfold Friends at hfriends
        rw [hbook, has_update_drop] at hfriends
        exact .inl hfriends.1
      · intro harranges
        exact harranges.elim
      · exact returned_defined data invoker (by simp)

/-- A deletion of the default group keeps its members only if there are none. -/
theorem empty_of_groupDelete (hconsistent : Consistent data)
    (hproper : Proper data (invoker, .groupDelete friendsCategoryUid available))
    (hfind : characterStorage.find available invoker data = some character) (uid : Uid) :
    ¬members character.contacts.groups friendsCategoryUid uid := by
  intro hmember
  have hbefore : book data invoker = members character.contacts.groups := by
    rw [book, groupsOf_of_find hfind]
  have hgroup := hmember
  obtain ⟨friends, hfriends, -⟩ := hgroup
  have hstep : step data (invoker, .groupDelete friendsCategoryUid available) =
      characterStorage.write invoker (groupDelete friendsCategoryUid character).2 data := by
    show ((characterStorage.mutableGet available invoker _) >>= _ : Handler Reply).final data = _
    rw [final_mutableGet_reply available invoker _ ?_, hfind]
    intro error data
    cases error <;> rfl
  have hkept : Friends (step data (invoker, .groupDelete friendsCategoryUid available))
      invoker uid := by
    rw [hproper.arranged trivial, Friends, hbefore]
    exact ⟨_, hmember⟩
  rw [Friends, hstep, book_write, update_self, members_groupDelete hfriends hfriends]
    at hkept
  have hsingle := hconsistent.reciprocal.single invoker
  rw [hbefore] at hsingle
  obtain ⟨key, hkey, hfiled | ⟨rfl, -⟩⟩ := hkept
  · exact hkey (hsingle uid key friendsCategoryUid hfiled hmember)
  · exact hkey rfl

theorem proper_iff_sound (hconsistent : Consistent data) (input : Uid × Command) :
    Sound data input ↔ Proper data input := by
  obtain ⟨invoker, command⟩ := input
  cases command with
  | buddyAdd characterName lookups =>
    refine iff_of_true trivial ((step_buddyAdd data invoker characterName lookups).proper
      hconsistent (returned_defined data invoker (by simp)))
  | buddyAddReply command lookups now =>
    obtain ⟨requestingUid, accepted⟩ := command
    have hidle (h : accepted = false ∨
        characterStorage.find lookups.requesting requestingUid data = none ∨
        characterStorage.find lookups.responding invoker data = none) :=
      (@step_notAccept data invoker ⟨requestingUid, accepted⟩ lookups now h).proper hconsistent
        (returned_defined data invoker (by simp))
    cases accepted with
    | false => exact iff_of_true (fun h => by cases h) (hidle (.inl rfl))
    | true =>
    cases hrequesting : characterStorage.find lookups.requesting requestingUid data with
    | none =>
      refine iff_of_true ?_ (hidle (.inr (.inl hrequesting)))
      intro _ hsome
      rw [hrequesting] at hsome
      cases hsome
    | some requesting =>
    cases hresponding : characterStorage.find lookups.responding invoker data with
    | none =>
      refine iff_of_true ?_ (hidle (.inr (.inr hresponding)))
      intro _ _ hsome
      rw [hresponding] at hsome
      cases hsome
    | some responding =>
      rw [proper_of_accept hconsistent hrequesting hresponding]
      constructor
      · intro hsound
        exact hsound rfl (Option.isSome_of_eq_some hrequesting)
          (Option.isSome_of_eq_some hresponding)
      · intro hacceptable _ _ _
        exact hacceptable
  | buddyDelete uid targetAvailable invokerAvailable =>
    cases htarget : characterStorage.find targetAvailable uid data with
    | none =>
      refine iff_of_true ?_ (Arranged.proper ?_ hconsistent
        (returned_defined data invoker (by simp)))
      · intro hsome
        rw [htarget] at hsome
        cases hsome
      · rw [step_buddyDelete_unavailable invokerAvailable htarget]
        exact .refl data
    | some target =>
      rw [proper_of_buddyDelete hconsistent htarget]
      constructor
      · intro hsound
        exact hsound (Option.isSome_of_eq_some htarget)
      · intro himp _
        exact himp
  | buddyMove uid groupUid available =>
    exact iff_of_true trivial ((step_buddyMove data invoker uid groupUid available).proper
      hconsistent (returned_defined data invoker (by simp)))
  | groupAdd groupName now available =>
    show (∀ character, characterStorage.find available invoker data = some character →
      character.contacts.groups ≠ ∅) ↔ _
    rw [← @groupAdd_defined data invoker groupName now available]
    constructor
    · intro hdefined
      exact (step_groupAdd data invoker groupName now available).proper hconsistent hdefined
    · intro hproper
      exact hproper.defined
  | groupRename groupUid groupName available =>
    exact iff_of_true trivial ((step_groupRename data invoker groupUid groupName available).proper
      hconsistent (returned_defined data invoker (by simp)))
  | groupDelete groupUid available =>
    constructor
    · intro hsound
      exact (step_groupDelete hsound).proper hconsistent
        (returned_defined data invoker (by simp))
    · rintro hproper rfl character hfind
      exact empty_of_groupDelete hconsistent hproper hfind

/-- Two characters of different names, who have no contacts. -/
def strangers : DataDirector :=
  { characters := fun uid =>
      if uid = 1 ∨ uid = 2 then some { uid := uid, name := [uid.toUInt8] } else none }

theorem consistent_strangers : Consistent strangers := by
  refine consistent_of_new fun uid character h => ?_
  unfold strangers at h
  dsimp only at h
  split at h
  · cases h
    rfl
  · cases h

/-- A run keeps the contacts consistent, makes friends by accepted requests only and loses none by
arranging groups, exactly if all its commands are sound. -/
theorem contacts_consistent {data : DataDirector} (hconsistent : Consistent data)
    (inputs : List (Uid × Command)) :
    Guarded step Sound data inputs ↔ Guarded step Proper data inputs := by
  have hpreserved : ∀ data input, Consistent data → Sound data input →
      Consistent (step data input) := by
    intro data input hdata hsound
    exact ((proper_iff_sound hdata input).1 hsound).consistent
  exact guarded_congr hpreserved (fun data input hdata => proper_iff_sound hdata input) hconsistent

theorem contacts_consistent_request : Guarded step Proper strangers
    [(1, .buddyAdd [2] { target := some 2 }), (2, .buddyAddReply ⟨1, true⟩ {} .epoch)] := by
  refine (contacts_consistent consistent_strangers _).1 ⟨trivial, ?_, trivial⟩
  intro _ _ _
  refine ⟨by decide, .inr ⟨_, rfl, by decide⟩, ?_, ?_⟩
  · rintro key ⟨group, hgroup, -⟩
    cases hgroup
  · rintro key ⟨group, hgroup, -⟩
    cases hgroup

/-- The second character accepts a request that the first one never made. -/
theorem contacts_unsolicited :
    ¬∀ data inputs, Consistent data → Guarded step Proper data inputs := by
  intro hall
  have hproper := (hall strangers [(2, .buddyAddReply ⟨1, true⟩ {} .epoch)] consistent_strangers).1
  have hsound := (proper_iff_sound consistent_strangers _).2 hproper
  obtain ⟨-, hfriends | ⟨character, hcharacter, hpending⟩, -, -⟩ := hsound rfl rfl rfl
  · obtain ⟨key, group, hgroup, -⟩ := hfriends
    cases hgroup
  · cases hcharacter
    exact absurd hpending (by decide)

end Alicia.Messenger
