import Alicia.Guild.Commands
import Alicia.Transition.Run

/-!
# Guild membership

A character names its guild exactly if the guild lists it as a member.  The handlers write both
sides, and each of them has steps that leave the sides apart: `Orderly` says which steps do not.
-/

namespace Alicia.Guild

open Transition Effect Data Function Storage List Option
open DataDirector (characterStorage guildStorage)

/-! ## What the handlers write -/

/-- The founder and the uid of the guild that a creation founds. -/
def creation (caller : Uid) (verdicts : Verdicts) (available : Bool) (allocated : Option Uid)
    (data : DataDirector) : Option (Character × Uid) :=
  if verdicts.prevent then none
  else
    (characterStorage.find available caller data).bind fun character =>
      if character.carrots < guildCost || !verdicts.nameUnique then none
      else (guildStorage.fresh allocated data).map fun uid => (character, uid)

/-- The records once a guild is founded. -/
def founded (caller : Uid) (command : CreateGuild) (character : Character) (uid : Uid)
    (data : DataDirector) : DataDirector :=
  characterStorage.write caller (payFounding uid character)
    (guildStorage.write uid (newGuild caller command { uid := uid }) data)

variable {data : DataDirector} {character : Character}

theorem creation_eq_some {caller : Uid} {verdicts : Verdicts} {available : Bool}
    {allocated : Option Uid} {uid : Uid}
    (h : creation caller verdicts available allocated data = some (character, uid)) :
    characterStorage.find available caller data = some character ∧
      guildStorage.fresh allocated data = some uid := by
  unfold creation at h
  by_cases hprevent : verdicts.prevent = true
  · rw [if_pos hprevent] at h
    cases h
  rw [if_neg hprevent, bind_eq_some_iff] at h
  obtain ⟨found, hfound, h⟩ := h
  by_cases hdenied : (decide (found.carrots < guildCost) || !verdicts.nameUnique) = true
  · rw [if_pos hdenied] at h
    cases h
  rw [if_neg hdenied, map_eq_some_iff] at h
  obtain ⟨fresh, hfresh, heq⟩ := h
  cases heq
  exact ⟨hfound, hfresh⟩

theorem createGuild_final (caller : Uid) (command : CreateGuild) (verdicts : Verdicts)
    (available : Bool) (allocated : Option Uid) (online : Bool) (world : World) :
    (handleCreateGuild caller command verdicts available allocated online).final world =
      match creation caller verdicts available allocated world.data with
      | none => world
      | some (character, uid) =>
        { world with data := founded caller command character uid world.data } := by
  unfold handleCreateGuild creation onData
  by_cases hprevent : verdicts.prevent = true
  · rw [if_pos hprevent, if_pos hprevent]
    rfl
  rw [if_neg hprevent, if_neg hprevent, final_immutable_bind fun _ => rfl]
  cases hfind : characterStorage.find available caller world.data with
  | none => rfl
  | some character =>
    rw [bind_some]
    dsimp only
    by_cases hdenied : (decide (character.carrots < guildCost) || !verdicts.nameUnique) = true
    · rw [if_pos hdenied, if_pos hdenied]
      rfl
    rw [if_neg hdenied, if_neg hdenied, final_create_bind fun _ => rfl]
    cases hfresh : guildStorage.fresh allocated world.data with
    | none => rfl
    | some uid =>
      obtain ⟨-, hvalid, -⟩ := fresh_eq_some.1 hfresh
      obtain ⟨hcaller, -, hcharacter⟩ := find_eq_some.1 hfind
      have hagain : characterStorage.find true caller (guildStorage.write uid
          (newGuild caller command { uid := uid }) world.data) = some character :=
        find_eq_some.2 ⟨hcaller, rfl, hcharacter⟩
      dsimp only
      rw [final_mutable_bind fun _ => rfl, find_write hvalid]
      dsimp only
      rw [final_mutable_bind fun _ => rfl, write_write, hagain]
      cases online <;> rfl

/-- The guild that a character withdraws from, with its uid. -/
def withdrawal (caller : Uid) (command : WithdrawGuildMember) (lookups : WithdrawLookups)
    (data : DataDirector) : Option (Character × Data.Guild) :=
  if command.isWrong caller then none
  else
    (characterStorage.find lookups.character (command.target caller) data).bind fun character =>
      (guildStorage.find lookups.guild character.guildUid data).bind fun guild =>
        if (withdraw command.option (command.target caller) guild).1.isSome then none
        else some (character, guild)

/-- The records once a character has withdrawn. -/
def withdrawn (caller : Uid) (command : WithdrawGuildMember) (lookups : WithdrawLookups)
    (character : Character) (guild : Data.Guild) (data : DataDirector) : DataDirector :=
  let characterUid := command.target caller
  let expelled := guildStorage.write character.guildUid (expel characterUid guild) data
  if lookups.characterAgain then
    let left := characterStorage.write characterUid (setGuild invalidUid character) expelled
    if command.option = .disband then guildStorage.erase character.guildUid left else left
  else expelled

variable {guild : Data.Guild}

theorem withdrawal_eq_some {caller : Uid} {command : WithdrawGuildMember}
    {lookups : WithdrawLookups}
    (h : withdrawal caller command lookups data = some (character, guild)) :
    command.isWrong caller = false ∧ data.characters (command.target caller) = some character ∧
      character.guildUid ≠ invalidUid ∧ data.guilds character.guildUid = some guild ∧
      (command.option = .disband → disbandError (command.target caller) guild = none) := by
  unfold withdrawal at h
  by_cases hwrong : command.isWrong caller = true
  · rw [if_pos hwrong] at h
    cases h
  rw [if_neg hwrong, bind_eq_some_iff] at h
  obtain ⟨found, hfound, h⟩ := h
  obtain ⟨left, hleft, h⟩ := bind_eq_some_iff.1 h
  by_cases herror : (withdraw command.option (command.target caller) left).1.isSome = true
  · rw [if_pos herror] at h
    cases h
  rw [if_neg herror] at h
  cases h
  obtain ⟨-, -, hcharacter⟩ := find_eq_some.1 hfound
  obtain ⟨hvalid, -, hguild⟩ := find_eq_some.1 hleft
  refine ⟨Bool.eq_false_iff.2 hwrong, hcharacter, hvalid, hguild, fun hdisband => ?_⟩
  unfold withdraw at herror
  rw [if_pos hdisband] at herror
  cases hcheck : disbandError (command.target caller) guild with
  | none => rfl
  | some error =>
    rw [hcheck] at herror
    exact absurd rfl herror

theorem withdrawGuild_final (caller : Uid) (command : WithdrawGuildMember)
    (lookups : WithdrawLookups) (world : World) :
    (handleWithdrawGuild caller command lookups).final world =
      match withdrawal caller command lookups world.data with
      | none => world
      | some (character, guild) =>
        { world with data := withdrawn caller command lookups character guild world.data } := by
  unfold handleWithdrawGuild withdrawal onData
  by_cases hwrong : command.isWrong caller = true
  · rw [if_pos hwrong, if_pos hwrong]
    rfl
  rw [if_neg hwrong, if_neg hwrong]
  dsimp only
  rw [final_immutable_bind fun _ => rfl]
  cases hfind : characterStorage.find lookups.character (command.target caller) world.data with
  | none => rfl
  | some character =>
    rw [bind_some]
    dsimp only
    rw [final_mutableGet_bind fun _ => rfl]
    cases hguild : guildStorage.find lookups.guild character.guildUid world.data with
    | none => rfl
    | some guild =>
      obtain ⟨hcharacterUid, -, hcharacter⟩ := find_eq_some.1 hfind
      have hagain : ∀ available, characterStorage.find available (command.target caller)
          (guildStorage.write character.guildUid (expel (command.target caller) guild)
            world.data) = if available then some character else none := by
        intro available
        cases available with
        | false => exact if_neg fun h => Bool.false_ne_true h.2
        | true => exact find_eq_some.2 ⟨hcharacterUid, rfl, hcharacter⟩
      rw [bind_some]
      dsimp only
      unfold withdraw withdrawn
      generalize (if command.option = .disband then disbandError (command.target caller) guild
        else none) = error
      cases error with
      | some error =>
        dsimp only
        rw [write_self (find_eq_some.1 hguild).2.2]
        rfl
      | none =>
        dsimp only
        rw [final_mutable_bind fun _ => rfl, hagain]
        cases lookups.characterAgain with
        | false => rfl
        | true =>
          dsimp only
          by_cases hdisband : command.option = .disband
          · simp only [hdisband, if_true]
            rfl
          · simp only [hdisband, if_false, if_true]
            rfl

/-- The guild whose roles a command changes, with its uid and its new value. -/
def regrading (caller : Uid) (command : UpdateGuildMemberGrade)
    (characterAvailable guildAvailable : Bool) (data : DataDirector) :
    Option (Uid × Data.Guild) :=
  (characterStorage.find characterAvailable caller data).bind fun character =>
    (guildStorage.find guildAvailable character.guildUid data).map fun guild =>
      (character.guildUid, (updateGrade caller command guild).2)

theorem updateGuildMemberGrade_final (caller : Uid) (command : UpdateGuildMemberGrade)
    (characterAvailable guildAvailable : Bool) (world : World) :
    (handleUpdateGuildMemberGrade caller command characterAvailable guildAvailable).final world =
      match regrading caller command characterAvailable guildAvailable world.data with
      | none => world
      | some (uid, guild) => { world with data := guildStorage.write uid guild world.data } := by
  unfold handleUpdateGuildMemberGrade regrading onData
  rw [final_immutable_bind fun _ => rfl]
  cases hfind : characterStorage.find characterAvailable caller world.data with
  | none => rfl
  | some character =>
    rw [bind_some]
    dsimp only
    by_cases hinvalid : character.guildUid = invalidUid
    · have hnone : guildStorage.find guildAvailable character.guildUid world.data = none :=
        if_neg fun h => h.1 hinvalid
      rw [if_pos hinvalid, hnone]
      rfl
    rw [if_neg hinvalid, final_bind, get_apply]
    dsimp only
    cases hguild : guildStorage.find guildAvailable character.guildUid world.data with
    | none => rfl
    | some guild =>
      have htrue : guildStorage.find true character.guildUid world.data = some guild :=
        find_eq_some.2 ⟨hinvalid, rfl, (find_eq_some.1 hguild).2.2⟩
      rw [if_neg (by simp), final_mutableGet_bind fun _ => rfl, htrue]
      dsimp only
      cases (updateGrade caller command guild).1 with
      | none => rfl
      | some status => rfl

theorem findInvitee_final (name : Text) (invitee : Uid × Uid) (users : List (Uid × Bool))
    (data : DataDirector) : (findInvitee name invitee users).final data = data := by
  induction users generalizing invitee with
  | nil => rfl
  | cons user rest ih =>
    rw [findInvitee, final_bind, immutable_apply]
    cases characterStorage.find user.2 user.1 data with
    | none => rfl
    | some character =>
      dsimp only
      generalize (if character.name = name then (character.uid, character.guildUid)
        else invitee) = found
      by_cases hfound : found.1 ≠ invalidUid
      · rw [if_pos hfound]
        rfl
      · rw [if_neg hfound]
        exact ih found

/-- An invitation changes no record. -/
theorem inviteToGuild_final (caller : Uid) (characterName : Text) (inviterAvailable : Bool)
    (users : List (Uid × Bool)) (world : World) :
    ((handleInviteToGuild caller characterName inviterAvailable users).final world).data =
      world.data := by
  unfold handleInviteToGuild onData
  rw [final_immutable_bind fun _ => rfl]
  cases characterStorage.find inviterAvailable caller world.data with
  | none => rfl
  | some inviter =>
    have hkept := findInvitee_final characterName (invalidUid, invalidUid) users world.data
    rw [Effect.final] at hkept
    dsimp only
    rw [final_zoom_bind]
    cases hsearch : findInvitee characterName (invalidUid, invalidUid) users world.data with
    | error e data =>
      rw [hsearch] at hkept
      exact hkept
    | ok invitee data =>
      rw [hsearch] at hkept
      dsimp only at hkept ⊢
      cases inviteError caller inviter.guildUid invitee.1 invitee.2 with
      | some error => exact hkept
      | none => exact hkept

/-- The character who accepts an invitation that there is. -/
def acceptance (caller : Uid) (command : InviteGuildJoinOK) (characterAvailable : Bool)
    (world : World) : Option Character :=
  if caller ∈ world.invites command.guildUid then
    characterStorage.find characterAvailable caller world.data
  else none

/-- The records once an invitation is accepted. -/
def accepted (caller : Uid) (command : InviteGuildJoinOK) (guildAvailable : Bool)
    (character : Character) (data : DataDirector) : DataDirector :=
  let named := characterStorage.write caller (setGuild command.guildUid character) data
  match guildStorage.find guildAvailable command.guildUid data with
  | none => named
  | some guild => guildStorage.write command.guildUid (join command.characterUid guild).2 named

theorem acceptInviteToGuild_final (caller : Uid) (command : InviteGuildJoinOK)
    (characterAvailable guildAvailable : Bool) (world : World) :
    ((handleAcceptInviteToGuild caller command characterAvailable guildAvailable).final
      world).data =
      match acceptance caller command characterAvailable world with
      | none => world.data
      | some character => accepted caller command guildAvailable character world.data := by
  unfold handleAcceptInviteToGuild acceptance accepted onData
  rw [final_bind, get_apply]
  dsimp only
  by_cases hinvited : caller ∈ world.invites command.guildUid
  · rw [if_neg (not_not.2 hinvited), if_pos hinvited, final_bind, modify_apply]
    dsimp only
    rw [final_mutable_bind fun _ => rfl]
    dsimp only
    cases hfind : characterStorage.find characterAvailable caller world.data with
    | none => rfl
    | some character =>
      dsimp only
      rw [final_mutableGet_bind fun _ => rfl]
      dsimp only
      have hguild : guildStorage.find guildAvailable command.guildUid
          (characterStorage.write caller (setGuild command.guildUid character) world.data) =
          guildStorage.find guildAvailable command.guildUid world.data := rfl
      rw [hguild]
      cases guildStorage.find guildAvailable command.guildUid world.data with
      | none => rfl
      | some guild => rfl
  · rw [if_pos hinvited, if_neg hinvited]
    rfl

/-! ## Consistent records -/

/-- The guild has no member twice, its owner is a member and no officer, and its officers are a few
distinct members. -/
structure WellFormed (guild : Data.Guild) : Prop where
  members : guild.members.Nodup
  owner : guild.owner ∈ guild.members
  ownerRole : guild.owner ∉ guild.officers
  officers : guild.officers.Nodup
  officersJoined : ∀ uid ∈ guild.officers, uid ∈ guild.members
  officersFew : guild.officers.length ≤ maxOfficers

/-- The character's record names the guild. -/
def BelongsTo (data : DataDirector) (characterUid guildUid : Uid) : Prop :=
  ∃ character, data.characters characterUid = some character ∧ character.guildUid = guildUid

/-- The guild's record lists the character. -/
def Lists (data : DataDirector) (guildUid characterUid : Uid) : Prop :=
  ∃ guild, data.guilds guildUid = some guild ∧ characterUid ∈ guild.members

/-- The two sides agree, and every guild is well formed. -/
structure Consistent (data : DataDirector) : Prop where
  agree : ∀ characterUid guildUid, guildUid ≠ invalidUid →
    (BelongsTo data characterUid guildUid ↔ Lists data guildUid characterUid)
  wellFormed : ∀ guildUid guild, data.guilds guildUid = some guild → WellFormed guild
  valid : data.guilds invalidUid = none

/-- The character may change who belongs to the guild. -/
def ManagedBy (guild : Data.Guild) (caller : Uid) : Prop :=
  guild.owner = caller ∨ caller ∈ guild.officers

instance (guild : Data.Guild) (caller : Uid) : Decidable (ManagedBy guild caller) :=
  instDecidableOr

/-- A guild that the caller does not manage keeps its roles, and its members apart from the
caller. -/
def Authorised (caller : Uid) (before after : Table Data.Guild) : Prop :=
  ∀ guildUid guild, before guildUid = some guild → ¬ManagedBy guild caller →
    ∃ guild', after guildUid = some guild' ∧ guild'.owner = guild.owner ∧
      guild'.officers = guild.officers ∧ ∀ uid ∈ guild.members, uid ≠ caller → uid ∈ guild'.members

variable {characterUid : Uid}

theorem BelongsTo.unique {first second : Uid} (hfirst : BelongsTo data characterUid first)
    (hsecond : BelongsTo data characterUid second) :
    first = second := by
  obtain ⟨character, hcharacter, rfl⟩ := hfirst
  obtain ⟨same, hsame, rfl⟩ := hsecond
  rw [hcharacter] at hsame
  cases hsame
  rfl

/-- Nobody is in two guilds. -/
theorem Consistent.lists_unique (h : Consistent data) {first second : Uid}
    (hfirst : Lists data first characterUid) (hsecond : Lists data second characterUid) :
    first = second := by
  have hvalid : ∀ guildUid, Lists data guildUid characterUid → guildUid ≠ invalidUid := by
    rintro _ ⟨guild, hguild, -⟩ rfl
    rw [h.valid] at hguild
    cases hguild
  exact ((h.agree _ _ (hvalid _ hfirst)).2 hfirst).unique ((h.agree _ _ (hvalid _ hsecond)).2 hsecond)

theorem Authorised.refl (caller : Uid) (guilds : Table Data.Guild) :
    Authorised caller guilds guilds :=
  fun _ guild hguild _ => ⟨guild, hguild, rfl, rfl, fun _ hmem _ => hmem⟩

/-- A change of one guild is authorised if the caller manages it, or keeps what it must. -/
theorem authorised_update {caller guildUid : Uid} {after : Option Data.Guild}
    {before : Table Data.Guild} (hguild : before guildUid = some guild)
    (h : ¬ManagedBy guild caller → ∃ guild', after = some guild' ∧ guild'.owner = guild.owner ∧
      guild'.officers = guild.officers ∧
        ∀ uid ∈ guild.members, uid ≠ caller → uid ∈ guild'.members) :
    Authorised caller before (update before guildUid after) := by
  intro other otherGuild hother hmanaged
  by_cases hsame : other = guildUid
  · subst hsame
    rw [hguild] at hother
    cases hother
    rw [update_self]
    exact h hmanaged
  · rw [update_of_ne hsame]
    exact Authorised.refl caller before other otherGuild hother hmanaged

/-- A change of one character and one guild only has to keep the two sides of that character, and
the other members of that guild. -/
theorem Consistent.change {before after : DataDirector} (h : Consistent before)
    (characterUid guildUid : Uid)
    (hcharacters : ∀ uid, uid ≠ characterUid → after.characters uid = before.characters uid)
    (hguilds : ∀ uid, uid ≠ guildUid → after.guilds uid = before.guilds uid)
    (hothers : ∀ uid, uid ≠ characterUid → (Lists after guildUid uid ↔ Lists before guildUid uid))
    (hsides : ∀ uid, uid ≠ invalidUid →
      (BelongsTo after characterUid uid ↔ Lists after uid characterUid))
    (hwellFormed : ∀ guild, after.guilds guildUid = some guild → WellFormed guild)
    (hvalid : guildUid ≠ invalidUid) : Consistent after := by
  refine ⟨fun other guild hguild => ?_, fun other guild hguild => ?_, ?_⟩
  · by_cases hsame : other = characterUid
    · subst hsame
      exact hsides guild hguild
    · have hleft : BelongsTo after other guild ↔ BelongsTo before other guild := by
        unfold BelongsTo
        rw [hcharacters other hsame]
      rw [hleft, h.agree other guild hguild]
      by_cases hguildSame : guild = guildUid
      · subst hguildSame
        exact (hothers other hsame).symm
      · unfold Lists
        rw [hguilds guild hguildSame]
  · by_cases hsame : other = guildUid
    · subst hsame
      exact hwellFormed guild hguild
    · rw [hguilds other hsame] at hguild
      exact h.wellFormed other guild hguild
  · rw [hguilds invalidUid hvalid.symm]
    exact h.valid

/-! ## The condition -/

/-- The condition under which a step keeps the records consistent and changes only what its caller
may change: a founder or a new member has no guild, a withdrawal can finish, is not the owner's
unless the guild is disbanded, and is the caller's own or a manager's decision, and owners do not
make themselves officers. -/
def Orderly (world : World) : Uid × Command → Prop
  | (caller, .createGuild _ verdicts available allocated _) =>
    ∀ founding ∈ creation caller verdicts available allocated world.data,
      founding.1.guildUid = invalidUid
  | (caller, .withdrawGuild command lookups) =>
    ∀ leaving ∈ withdrawal caller command lookups world.data,
      lookups.characterAgain = true ∧
        (command.option = .kicked → ManagedBy leaving.2 caller) ∧
        (command.option ≠ .disband → leaving.2.owner ≠ command.target caller)
  | (caller, .updateGuildMemberGrade command characterAvailable guildAvailable) =>
    ∀ character ∈ characterStorage.find characterAvailable caller world.data,
      ∀ guild ∈ guildStorage.find guildAvailable character.guildUid world.data,
        (updateGrade caller command guild).1 = none → command.guildRole = .officer →
          command.characterUid ≠ caller
  | (_, .inviteToGuild _ _ _) => True
  | (caller, .acceptInviteToGuild command characterAvailable guildAvailable) =>
    ∀ character ∈ acceptance caller command characterAvailable world,
      character.guildUid = command.guildUid ∧
          (∀ guild ∈ guildStorage.find guildAvailable command.guildUid world.data,
            command.characterUid ∈ guild.members) ∨
        character.guildUid = invalidUid ∧ command.characterUid = caller ∧
          (guildStorage.find guildAvailable command.guildUid world.data).isSome = true
  | (_, .declineInviteToGuild) => True

instance (world : World) : ∀ input, Decidable (Orderly world input)
  | (_, .createGuild _ _ _ _ _) => Option.decidableForallMem _
  | (_, .withdrawGuild _ _) => Option.decidableForallMem _
  | (_, .updateGuildMemberGrade _ _ _) =>
    @Option.decidableForallMem _ _ (fun _ => Option.decidableForallMem _) _
  | (_, .inviteToGuild _ _ _) => isTrue trivial
  | (_, .acceptInviteToGuild _ _ _) =>
    @Option.decidableForallMem _ _ (fun _ =>
      @instDecidableOr _ _ (@instDecidableAnd _ _ _ (Option.decidableForallMem _)) _) _
  | (_, .declineInviteToGuild) => isTrue trivial

/-- The step leaves consistent records and was authorised. -/
def Keeps (world : World) (input : Uid × Command) : Prop :=
  Consistent (step world input).data ∧
    Authorised input.1 world.data.guilds (step world input).data.guilds

/-! ## Steps -/

/-- What founding a guild does to the two sides. -/
theorem founded_keeps_iff (h : Consistent data) {caller uid : Uid} {command : CreateGuild}
    (hcharacter : data.characters caller = some character) (hvalid : uid ≠ invalidUid)
    (hnone : data.guilds uid = none) :
    Consistent (founded caller command character uid data) ∧
        Authorised caller data.guilds (founded caller command character uid data).guilds ↔
      character.guildUid = invalidUid := by
  have hcharacters : (founded caller command character uid data).characters =
      update data.characters caller (some (payFounding uid character)) := rfl
  have hguilds : (founded caller command character uid data).guilds =
      update data.guilds uid (some (newGuild caller command { uid := uid })) := rfl
  have hbelongs : ∀ guildUid, BelongsTo (founded caller command character uid data) caller guildUid ↔
      guildUid = uid := by
    intro guildUid
    unfold BelongsTo
    rw [hcharacters, update_self]
    constructor
    · rintro ⟨_, hsome, hsame⟩
      cases hsome
      exact hsame.symm
    · rintro rfl
      exact ⟨_, rfl, rfl⟩
  have hlists : ∀ guildUid characterUid,
      Lists (founded caller command character uid data) guildUid characterUid ↔
        if guildUid = uid then characterUid = caller else Lists data guildUid characterUid := by
    intro guildUid characterUid
    unfold Lists
    rw [hguilds]
    by_cases hsame : guildUid = uid
    · subst hsame
      rw [update_self, if_pos rfl]
      simp [newGuild]
    · rw [update_of_ne hsame, if_neg hsame]
  have hfresh : ∀ characterUid, ¬Lists data uid characterUid := by
    rintro characterUid ⟨guild, hguild, -⟩
    rw [hnone] at hguild
    cases hguild
  constructor
  · rintro ⟨hafter, -⟩
    by_contra hmember
    have hbefore : Lists data character.guildUid caller :=
      (h.agree caller _ hmember).1 ⟨character, hcharacter, rfl⟩
    have hne : character.guildUid ≠ uid := fun heq => hfresh caller (heq ▸ hbefore)
    have hstill := (hlists character.guildUid caller).2 (by rwa [if_neg hne])
    exact hne ((hbelongs _).1 ((hafter.agree caller _ hmember).2 hstill))
  · intro hfree
    refine ⟨h.change caller uid ?_ ?_ ?_ ?_ ?_ hvalid, ?_⟩
    · intro other hother
      rw [hcharacters, update_of_ne hother]
    · intro other hother
      rw [hguilds, update_of_ne hother]
    · intro other hother
      rw [hlists, if_pos rfl]
      exact ⟨fun hcaller => absurd hcaller hother, fun hlisted => absurd hlisted (hfresh other)⟩
    · intro guildUid hguildUid
      rw [hbelongs, hlists]
      by_cases hsame : guildUid = uid
      · rw [if_pos hsame]
        exact ⟨fun _ => rfl, fun _ => hsame⟩
      · rw [if_neg hsame]
        refine ⟨fun heq => absurd heq hsame, fun hlisted => ?_⟩
        obtain ⟨same, hcaller, hnamed⟩ := (h.agree caller guildUid hguildUid).2 hlisted
        rw [hcharacter] at hcaller
        cases hcaller
        exact absurd (hnamed.symm.trans hfree) hguildUid
    · intro guild hguild
      rw [hguilds, update_self] at hguild
      cases hguild
      exact ⟨by simp [newGuild], by simp [newGuild], by simp [newGuild], by simp [newGuild],
        by simp [newGuild], by simp [newGuild]⟩
    · intro guildUid guild hguild _
      have hne : guildUid ≠ uid := by
        rintro rfl
        rw [hnone] at hguild
        cases hguild
      refine ⟨guild, ?_, rfl, rfl, fun _ hmem _ => hmem⟩
      rw [hguilds, update_of_ne hne]
      exact hguild

theorem disbandError_eq_none (h : disbandError characterUid guild = none) :
    guild.owner = characterUid ∧ guild.members = [characterUid] := by
  unfold disbandError at h
  by_cases howner : guild.owner ≠ characterUid
  · rw [if_pos howner] at h
    cases h
  rw [if_neg howner] at h
  by_cases halone : (decide (guild.members ≠ [characterUid]) ||
      decide (guild.officers.length > 0)) = true
  · rw [if_pos halone] at h
    cases h
  · rw [Bool.or_eq_true, not_or, decide_eq_true_iff, not_not] at halone
    exact ⟨not_not.1 howner, halone.1⟩

theorem expel_wellFormed (h : WellFormed guild) (howner : guild.owner ≠ characterUid) :
    WellFormed (expel characterUid guild) where
  members := h.members.erase _
  owner := (mem_erase_of_ne howner).2 h.owner
  ownerRole := fun hmem => h.ownerRole (mem_of_mem_erase hmem)
  officers := h.officers.erase _
  officersJoined := by
    intro uid hmem
    obtain ⟨hne, hofficer⟩ := h.officers.mem_erase_iff.1 hmem
    exact (mem_erase_of_ne hne).2 (h.officersJoined uid hofficer)
  officersFew := (length_erase_le).trans h.officersFew

/-- What a withdrawal does to the two sides. -/
theorem withdrawn_keeps_iff (h : Consistent data) {caller : Uid} {command : WithdrawGuildMember}
    {lookups : WithdrawLookups} (hwrong : command.isWrong caller = false)
    (hcharacter : data.characters (command.target caller) = some character)
    (hvalid : character.guildUid ≠ invalidUid)
    (hguild : data.guilds character.guildUid = some guild) (hdisband : command.option = .disband →
      disbandError (command.target caller) guild = none) :
    Consistent (withdrawn caller command lookups character guild data) ∧
        Authorised caller data.guilds (withdrawn caller command lookups character guild data).guilds ↔
      lookups.characterAgain = true ∧ (command.option = .kicked → ManagedBy guild caller) ∧
        (command.option ≠ .disband → guild.owner ≠ command.target caller) := by
  have hwell := h.wellFormed _ _ hguild
  have hmember : command.target caller ∈ guild.members := by
    obtain ⟨same, hsame, hmem⟩ := (h.agree _ _ hvalid).1 ⟨character, hcharacter, rfl⟩
    rw [hguild] at hsame
    cases hsame
    exact hmem
  have hexpelled : command.target caller ∉ (expel (command.target caller) guild).members :=
    hwell.members.not_mem_erase
  cases hagain : lookups.characterAgain with
  | false =>
    -- The guild lost the member, but the member's record still names the guild.
    refine ⟨fun hkeeps => ?_, fun hfalse => absurd hfalse.1 Bool.false_ne_true⟩
    obtain ⟨hafter, -⟩ := hkeeps
    have hdata : withdrawn caller command lookups character guild data =
        guildStorage.write character.guildUid (expel (command.target caller) guild) data := by
      unfold withdrawn
      rw [hagain]
      rfl
    rw [hdata] at hafter
    obtain ⟨same, hsame, hmem⟩ := (hafter.agree _ _ hvalid).1 ⟨character, hcharacter, rfl⟩
    have hwritten : (guildStorage.write character.guildUid
        (expel (command.target caller) guild) data).guilds character.guildUid =
        some (expel (command.target caller) guild) := update_self _ _ _
    rw [hwritten] at hsame
    cases hsame
    exact absurd hmem hexpelled
  | true =>
    have hcharacters : (withdrawn caller command lookups character guild data).characters =
        update data.characters (command.target caller)
          (some (setGuild invalidUid character)) := by
      unfold withdrawn
      rw [hagain]
      by_cases hoption : command.option = .disband
      · simp only [if_true, hoption]
        rfl
      · simp only [if_true, hoption, if_false]
        rfl
    have hguilds : (withdrawn caller command lookups character guild data).guilds =
        update data.guilds character.guildUid
          (if command.option = .disband then none
            else some (expel (command.target caller) guild)) := by
      unfold withdrawn
      rw [hagain]
      by_cases hoption : command.option = .disband
      · simp only [if_true, hoption]
        exact update_idem _ _ _
      · simp only [if_true, hoption, if_false]
        rfl
    constructor
    · rintro ⟨hafter, hauthorised⟩
      refine ⟨rfl, fun hkicked => ?_, fun hstays howner => ?_⟩
      · by_contra hmanaged
        have hother : command.target caller ≠ caller := by
          unfold WithdrawGuildMember.target
          rw [if_pos hkicked]
          intro hsame
          unfold WithdrawGuildMember.isWrong at hwrong
          simp [hkicked, hsame] at hwrong
        have hstays : command.option ≠ .disband := by
          rw [hkicked]
          decide
        obtain ⟨after, hsome, -, -, hkept⟩ := hauthorised _ _ hguild hmanaged
        rw [hguilds, update_self, if_neg hstays] at hsome
        cases hsome
        exact hexpelled (hkept _ hmember hother)
      · have hsome : (withdrawn caller command lookups character guild data).guilds
            character.guildUid = some (expel (command.target caller) guild) := by
          rw [hguilds, update_self, if_neg hstays]
        have hstill := (hafter.wellFormed _ _ hsome).owner
        exact hexpelled (howner ▸ hstill)
    · rintro ⟨-, hkicked, hstays⟩
      refine ⟨h.change (command.target caller) character.guildUid ?_ ?_ ?_ ?_ ?_ hvalid, ?_⟩
      · intro other hother
        rw [hcharacters, update_of_ne hother]
      · intro other hother
        rw [hguilds, update_of_ne hother]
      · intro other hother
        unfold Lists
        rw [hguilds, update_self, hguild]
        by_cases hoption : command.option = .disband
        · have halone := (disbandError_eq_none (hdisband hoption)).2
          simp [hoption, halone, hother]
        · simp [hoption, expel, mem_erase_of_ne hother]
      · intro uid huid
        have hnot : ¬BelongsTo (withdrawn caller command lookups character guild data)
            (command.target caller) uid := by
          rintro ⟨same, hsame, hnamed⟩
          rw [hcharacters, update_self] at hsame
          cases hsame
          exact huid hnamed.symm
        refine ⟨fun hbelongs => absurd hbelongs hnot, ?_⟩
        rintro ⟨same, hsame, hmem⟩
        rw [hguilds] at hsame
        by_cases hguildUid : uid = character.guildUid
        · subst hguildUid
          rw [update_self] at hsame
          by_cases hoption : command.option = .disband
          · rw [if_pos hoption] at hsame
            cases hsame
          · rw [if_neg hoption] at hsame
            cases hsame
            exact absurd hmem hexpelled
        · rw [update_of_ne hguildUid] at hsame
          exact absurd (h.lists_unique ⟨same, hsame, hmem⟩ ⟨guild, hguild, hmember⟩) hguildUid
      · intro after hafter
        rw [hguilds, update_self] at hafter
        by_cases hoption : command.option = .disband
        · rw [if_pos hoption] at hafter
          cases hafter
        · rw [if_neg hoption] at hafter
          cases hafter
          exact expel_wellFormed hwell (hstays hoption)
      · rw [hguilds]
        refine authorised_update hguild fun hmanaged => ?_
        have hleaves : command.option ≠ .kicked := fun hoption => hmanaged (hkicked hoption)
        have htarget : command.target caller = caller := if_neg hleaves
        have hoption : command.option ≠ .disband := fun hoption =>
          hmanaged (.inl ((disbandError_eq_none (hdisband hoption)).1.trans htarget))
        rw [if_neg hoption, htarget]
        refine ⟨_, rfl, rfl, erase_of_not_mem fun hofficer => hmanaged (.inr hofficer), ?_⟩
        intro uid hmem hne
        exact (mem_erase_of_ne hne).2 hmem

theorem updateGrade_members (caller : Uid) (command : UpdateGuildMemberGrade) (guild : Data.Guild) :
    (updateGrade caller command guild).2.members = guild.members := by
  unfold updateGrade
  repeat' split
  all_goals rfl

/-- New roles are well formed unless an owner becomes an officer. -/
theorem updateGrade_wellFormed_iff (h : WellFormed guild) (caller : Uid)
    (command : UpdateGuildMemberGrade) :
    WellFormed (updateGrade caller command guild).2 ↔
      ((updateGrade caller command guild).1 = none → command.guildRole = .officer →
        command.characterUid ≠ caller) := by
  unfold updateGrade
  by_cases howner : guild.owner ≠ caller
  · simp [howner, h]
  by_cases hmember : command.characterUid ∉ guild.members
  · simp [howner, hmember, h]
  by_cases hfull : command.guildRole = .officer ∧ guild.officers.length ≥ maxOfficers
  · simp [howner, hmember, hfull, h]
  by_cases hagain : command.guildRole = .officer ∧ command.characterUid ∈ guild.officers
  · simp [howner, hmember, hagain, h]
  rw [if_neg howner, if_neg hmember, if_neg hfull, if_neg hagain]
  have hjoined : command.characterUid ∈ guild.members := not_not.1 hmember
  by_cases hroleOwner : command.guildRole = .owner
  · rw [if_pos hroleOwner]
    refine ⟨fun _ _ hrole => ?_, fun _ => ?_⟩
    · rw [hroleOwner] at hrole
      exact absurd hrole (by decide)
    · have hless := h.officers.erase command.characterUid
      refine ⟨h.members, hjoined, fun hmem => ?_, hless.erase _, fun uid hmem => ?_, ?_⟩
      · exact h.officers.not_mem_erase (mem_of_mem_erase hmem)
      · exact h.officersJoined uid (mem_of_mem_erase (mem_of_mem_erase hmem))
      · exact (length_erase_le.trans length_erase_le).trans h.officersFew
  rw [if_neg hroleOwner]
  by_cases hroleMember : command.guildRole = .member
  · rw [if_pos hroleMember]
    refine ⟨fun _ _ hrole => ?_, fun _ => ?_⟩
    · rw [hroleMember] at hrole
      exact absurd hrole (by decide)
    · exact ⟨h.members, h.owner, fun hmem => h.ownerRole (mem_of_mem_erase hmem),
        h.officers.erase _, fun uid hmem => h.officersJoined uid (mem_of_mem_erase hmem),
        length_erase_le.trans h.officersFew⟩
  rw [if_neg hroleMember]
  by_cases hroleOfficer : command.guildRole = .officer
  · rw [if_pos hroleOfficer]
    have hnew : command.characterUid ∉ guild.officers := fun hmem => hagain ⟨hroleOfficer, hmem⟩
    have hroom : guild.officers.length < maxOfficers :=
      Nat.lt_of_not_le fun hlength => hfull ⟨hroleOfficer, hlength⟩
    constructor
    · intro hafter _ _ hself
      refine hafter.ownerRole (mem_append_right _ ?_)
      rw [hself, mem_singleton]
      exact not_not.1 howner
    · intro hother
      have hne := hother rfl hroleOfficer
      refine ⟨h.members, h.owner, fun hmem => ?_, ?_, fun uid hmem => ?_, ?_⟩
      · obtain hmem | hmem := mem_append.1 hmem
        · exact h.ownerRole hmem
        · exact hne ((mem_singleton.1 hmem).symm.trans (not_not.1 howner))
      · refine nodup_append.2 ⟨h.officers, by simp, fun uid hmem other hother => ?_⟩
        rw [mem_singleton.1 hother]
        exact fun hsame => hnew (hsame ▸ hmem)
      · obtain hmem | hmem := mem_append.1 hmem
        · exact h.officersJoined uid hmem
        · exact (mem_singleton.1 hmem) ▸ hjoined
      · rw [length_append, length_singleton]
        exact hroom
  · rw [if_neg hroleOfficer]
    exact ⟨fun _ _ hrole => absurd hrole hroleOfficer, fun _ => h⟩

/-- Only the owner changes roles. -/
theorem updateGrade_of_not_owner {caller : Uid} (command : UpdateGuildMemberGrade)
    (h : guild.owner ≠ caller) :
    (updateGrade caller command guild).2 = guild := by
  unfold updateGrade
  rw [if_pos h]

/-- What new roles do to the two sides. -/
theorem regraded_keeps_iff (h : Consistent data) (caller : Uid) (command : UpdateGuildMemberGrade)
    {uid : Uid} (hvalid : uid ≠ invalidUid) (hguild : data.guilds uid = some guild) :
    Consistent (guildStorage.write uid (updateGrade caller command guild).2 data) ∧
        Authorised caller data.guilds
          (guildStorage.write uid (updateGrade caller command guild).2 data).guilds ↔
      ((updateGrade caller command guild).1 = none → command.guildRole = .officer →
        command.characterUid ≠ caller) := by
  have hguilds : (guildStorage.write uid (updateGrade caller command guild).2 data).guilds =
      update data.guilds uid (some (updateGrade caller command guild).2) := rfl
  have hlists : ∀ guildUid characterUid,
      Lists (guildStorage.write uid (updateGrade caller command guild).2 data) guildUid characterUid ↔
        Lists data guildUid characterUid := by
    intro guildUid characterUid
    unfold Lists
    rw [hguilds]
    by_cases hsame : guildUid = uid
    · subst hsame
      rw [update_self, hguild]
      simp [updateGrade_members]
    · rw [update_of_ne hsame]
  rw [← updateGrade_wellFormed_iff (h.wellFormed _ _ hguild)]
  constructor
  · rintro ⟨hafter, -⟩
    exact hafter.wellFormed uid _ (update_self _ _ _)
  · intro hwell
    refine ⟨h.change caller uid (fun _ _ => rfl) ?_ (fun other _ => hlists uid other) ?_ ?_ hvalid, ?_⟩
    · intro other hother
      rw [hguilds, update_of_ne hother]
    · intro guildUid hguildUid
      rw [hlists]
      exact h.agree caller guildUid hguildUid
    · intro after hafter
      rw [hguilds, update_self] at hafter
      cases hafter
      exact hwell
    · rw [hguilds]
      refine authorised_update hguild fun hmanaged => ⟨guild, ?_, rfl, rfl, fun _ hmem _ => hmem⟩
      rw [updateGrade_of_not_owner command fun howner => hmanaged (.inl howner)]

theorem acceptance_eq_some {caller : Uid} {command : InviteGuildJoinOK} {available : Bool}
    {world : World} (h : acceptance caller command available world = some character) :
    world.data.characters caller = some character := by
  unfold acceptance at h
  by_cases hinvited : caller ∈ world.invites command.guildUid
  · rw [if_pos hinvited] at h
    exact (find_eq_some.1 h).2.2
  · rw [if_neg hinvited] at h
    cases h

/-- A well-formed guild refuses its members only. -/
theorem join_eq (h : WellFormed guild) (characterUid : Uid) :
    (join characterUid guild).2 =
      if characterUid ∈ guild.members then guild
      else { guild with members := guild.members ++ [characterUid] } := by
  have hiff : (characterUid ∈ guild.members ∨ characterUid ∈ guild.officers ∨
      guild.owner = characterUid) ↔ characterUid ∈ guild.members := by
    refine ⟨fun hany => ?_, Or.inl⟩
    obtain hmem | hofficer | rfl := hany
    · exact hmem
    · exact h.officersJoined _ hofficer
    · exact h.owner
  unfold join
  by_cases hmem : characterUid ∈ guild.members
  · rw [if_pos (hiff.2 hmem), if_pos hmem]
  · rw [if_neg fun hany => hmem (hiff.1 hany), if_neg hmem]

theorem join_wellFormed (h : WellFormed guild) (characterUid : Uid) :
    WellFormed (join characterUid guild).2 := by
  rw [join_eq h]
  by_cases hmem : characterUid ∈ guild.members
  · rw [if_pos hmem]
    exact h
  · rw [if_neg hmem]
    refine ⟨nodup_append.2 ⟨h.members, by simp, fun uid huid other hother => ?_⟩,
      mem_append_left _ h.owner, h.ownerRole, h.officers,
      fun uid hofficer => mem_append_left _ (h.officersJoined uid hofficer), h.officersFew⟩
    rw [mem_singleton.1 hother]
    exact fun hsame => hmem (hsame ▸ huid)

theorem mem_join (h : WellFormed guild) (characterUid uid : Uid) :
    uid ∈ (join characterUid guild).2.members ↔ uid ∈ guild.members ∨ uid = characterUid := by
  rw [join_eq h]
  by_cases hmem : characterUid ∈ guild.members
  · rw [if_pos hmem]
    refine ⟨Or.inl, fun hany => hany.elim id fun hsame => hsame ▸ hmem⟩
  · rw [if_neg hmem]
    simp

theorem join_roles (characterUid : Uid) (guild : Data.Guild) :
    (join characterUid guild).2.owner = guild.owner ∧
      (join characterUid guild).2.officers = guild.officers := by
  unfold join
  split
  · exact ⟨rfl, rfl⟩
  · exact ⟨rfl, rfl⟩

/-- What accepting an invitation does to the two sides. -/
theorem accepted_keeps_iff (h : Consistent data) {caller : Uid} {command : InviteGuildJoinOK}
    {guildAvailable : Bool} (hcharacter : data.characters caller = some character) :
    Consistent (accepted caller command guildAvailable character data) ∧
        Authorised caller data.guilds (accepted caller command guildAvailable character data).guilds ↔
      character.guildUid = command.guildUid ∧
          (∀ guild ∈ guildStorage.find guildAvailable command.guildUid data,
            command.characterUid ∈ guild.members) ∨
        character.guildUid = invalidUid ∧ command.characterUid = caller ∧
          (guildStorage.find guildAvailable command.guildUid data).isSome = true := by
  have hcharacters : (accepted caller command guildAvailable character data).characters =
      update data.characters caller (some (setGuild command.guildUid character)) := by
    unfold accepted
    cases guildStorage.find guildAvailable command.guildUid data <;> rfl
  have hbelongs : ∀ guildUid, BelongsTo (accepted caller command guildAvailable character data)
      caller guildUid ↔ guildUid = command.guildUid := by
    intro guildUid
    unfold BelongsTo
    rw [hcharacters, update_self]
    constructor
    · rintro ⟨_, hsome, hsame⟩
      cases hsome
      exact hsame.symm
    · rintro rfl
      exact ⟨_, rfl, rfl⟩
  have hlistsOther : ∀ guildUid, guildUid ≠ command.guildUid → ∀ characterUid,
      (Lists (accepted caller command guildAvailable character data) guildUid characterUid ↔
        Lists data guildUid characterUid) := by
    intro guildUid hne characterUid
    unfold Lists accepted
    cases guildStorage.find guildAvailable command.guildUid data with
    | none => rfl
    | some guild =>
      show (∃ after, update data.guilds command.guildUid _ guildUid = some after ∧ _) ↔ _
      rw [update_of_ne hne]
  have hnamed : ∀ guildUid, guildUid ≠ invalidUid → (Lists data guildUid caller ↔
      character.guildUid = guildUid) := by
    intro guildUid hguildUid
    rw [← h.agree caller guildUid hguildUid]
    refine ⟨?_, fun hsame => ⟨character, hcharacter, hsame⟩⟩
    rintro ⟨same, hsame, hguild⟩
    rw [hcharacter] at hsame
    cases hsame
    exact hguild
  -- Whoever keeps the sides together names the guild already, or none.
  have hfree : Consistent (accepted caller command guildAvailable character data) →
      character.guildUid ≠ command.guildUid → character.guildUid = invalidUid := by
    intro hafter hne
    by_contra hvalid
    have hlisted := (hlistsOther _ hne caller).2 ((hnamed _ hvalid).2 rfl)
    exact hne ((hbelongs _).1 ((hafter.agree caller _ hvalid).2 hlisted))
  cases hfind : guildStorage.find guildAvailable command.guildUid data with
  | none =>
    have hdata : accepted caller command guildAvailable character data =
        characterStorage.write caller (setGuild command.guildUid character) data := by
      unfold accepted
      rw [hfind]
    constructor
    · rintro ⟨hafter, -⟩
      refine .inl ⟨?_, fun _ hnone => by cases hnone⟩
      by_contra hne
      have hnothing := hfree hafter hne
      have hvalid : command.guildUid ≠ invalidUid := fun hzero => hne (hnothing.trans hzero.symm)
      have hlisted := (hafter.agree caller _ hvalid).1 ((hbelongs _).2 rfl)
      rw [hdata] at hlisted
      exact hne ((hnamed _ hvalid).1 hlisted)
    · rintro (⟨hsame, -⟩ | ⟨-, -, hfalse⟩)
      · rw [hdata, ← hsame, write_self hcharacter]
        exact ⟨h, Authorised.refl _ _⟩
      · cases hfalse
  | some guild =>
    obtain ⟨hvalid, -, hguild⟩ := find_eq_some.1 hfind
    have hwell := h.wellFormed _ _ hguild
    have hdata : accepted caller command guildAvailable character data =
        guildStorage.write command.guildUid (join command.characterUid guild).2
          (characterStorage.write caller (setGuild command.guildUid character) data) := by
      unfold accepted
      rw [hfind]
    have hguilds : (accepted caller command guildAvailable character data).guilds =
        update data.guilds command.guildUid (some (join command.characterUid guild).2) := by
      rw [hdata]
      rfl
    have hlists : ∀ uid, Lists (accepted caller command guildAvailable character data)
        command.guildUid uid ↔ uid ∈ guild.members ∨ uid = command.characterUid := by
      intro uid
      unfold Lists
      rw [hguilds, update_self, ← mem_join hwell]
      simp
    have hmember : ∀ uid, Lists data command.guildUid uid ↔ uid ∈ guild.members := by
      intro uid
      refine ⟨?_, fun hmem => ⟨guild, hguild, hmem⟩⟩
      rintro ⟨same, hsame, hmem⟩
      rw [show data.guilds command.guildUid = some guild from hguild] at hsame
      cases hsame
      exact hmem
    constructor
    · rintro ⟨hafter, -⟩
      by_cases hsame : character.guildUid = command.guildUid
      · refine .inl ⟨hsame, fun found hfound => ?_⟩
        cases hfound
        by_contra hnew
        have hjoined := (hafter.agree _ _ hvalid).2 ((hlists _).2 (.inr rfl))
        by_cases hcaller : command.characterUid = caller
        · exact hnew (hcaller ▸ (hmember caller).1 ((hnamed _ hvalid).2 hsame))
        · have hbefore : BelongsTo data command.characterUid command.guildUid := by
            unfold BelongsTo at hjoined ⊢
            rwa [hcharacters, update_of_ne hcaller] at hjoined
          exact hnew ((hmember _).1 ((h.agree _ _ hvalid).1 hbefore))
      · have hnothing := hfree hafter hsame
        refine .inr ⟨hnothing, ?_, rfl⟩
        obtain hmem | hself :=
          (hlists caller).1 ((hafter.agree caller _ hvalid).1 ((hbelongs _).2 rfl))
        · exact absurd ((hnamed _ hvalid).1 ((hmember caller).2 hmem)) hsame
        · exact hself.symm
    · rintro (⟨hsame, hmem⟩ | ⟨hnothing, hself, -⟩)
      · have hjoin : (join command.characterUid guild).2 = guild := by
          rw [join_eq hwell, if_pos (hmem guild rfl)]
        have hwritten : characterStorage.write caller (setGuild command.guildUid character) data =
            data := by
          rw [← hsame]
          exact write_self hcharacter
        rw [hdata, hjoin, hwritten, write_self hguild]
        exact ⟨h, Authorised.refl _ _⟩
      · refine ⟨h.change caller command.guildUid ?_ ?_ ?_ ?_ ?_ hvalid, ?_⟩
        · intro other hother
          rw [hcharacters, update_of_ne hother]
        · intro other hother
          rw [hguilds, update_of_ne hother]
        · intro other hother
          rw [hlists, hmember, hself]
          exact ⟨fun hany => hany.resolve_right hother, Or.inl⟩
        · intro uid huid
          rw [hbelongs]
          by_cases hsame : uid = command.guildUid
          · rw [hsame, hlists]
            exact ⟨fun _ => .inr hself.symm, fun _ => rfl⟩
          · rw [hlistsOther uid hsame, hnamed uid huid, hnothing]
            exact ⟨fun heq => absurd heq hsame, fun hzero => absurd hzero.symm huid⟩
        · intro after hafter
          rw [hguilds, update_self] at hafter
          cases hafter
          exact join_wellFormed hwell _
        · rw [hguilds]
          refine authorised_update hguild fun _ => ⟨_, rfl, (join_roles _ _).1, (join_roles _ _).2, ?_⟩
          exact fun uid hmem _ => (mem_join hwell _ _).2 (.inl hmem)

section Steps

variable {world : World} (h : Consistent world.data) (caller : Uid)

include h

theorem keeps_of_data_eq {input : Uid × Command} (hsame : (step world input).data = world.data) :
    Keeps world input := by
  unfold Keeps
  rw [hsame]
  exact ⟨h, Authorised.refl _ _⟩

theorem createGuild_keeps_iff (command : CreateGuild) (verdicts : Verdicts) (available : Bool)
    (allocated : Option Uid) (online : Bool) :
    Keeps world (caller, .createGuild command verdicts available allocated online) ↔
      Orderly world (caller, .createGuild command verdicts available allocated online) := by
  have hfinal := createGuild_final caller command verdicts available allocated online world
  unfold Keeps Orderly step handle
  cases hcreation : creation caller verdicts available allocated world.data with
  | none =>
    rw [hcreation] at hfinal
    rw [hfinal]
    simp [hcreation, h, Authorised.refl]
  | some founding =>
    obtain ⟨character, uid⟩ := founding
    obtain ⟨hfind, hfresh⟩ := creation_eq_some hcreation
    obtain ⟨-, hvalid, hnone⟩ := fresh_eq_some.1 hfresh
    rw [hcreation] at hfinal
    rw [hfinal]
    refine (founded_keeps_iff h (find_eq_some.1 hfind).2.2 hvalid hnone).trans ?_
    simp [hcreation]

theorem withdrawGuild_keeps_iff (command : WithdrawGuildMember) (lookups : WithdrawLookups) :
    Keeps world (caller, .withdrawGuild command lookups) ↔
      Orderly world (caller, .withdrawGuild command lookups) := by
  have hfinal := withdrawGuild_final caller command lookups world
  unfold Keeps Orderly step handle
  cases hwithdrawal : withdrawal caller command lookups world.data with
  | none =>
    rw [hwithdrawal] at hfinal
    rw [hfinal]
    simp [hwithdrawal, h, Authorised.refl]
  | some leaving =>
    obtain ⟨character, guild⟩ := leaving
    obtain ⟨hwrong, hcharacter, hvalid, hguild, hdisband⟩ := withdrawal_eq_some hwithdrawal
    rw [hwithdrawal] at hfinal
    rw [hfinal]
    refine (withdrawn_keeps_iff h hwrong hcharacter hvalid hguild hdisband).trans ?_
    simp [hwithdrawal]

theorem updateGuildMemberGrade_keeps_iff (command : UpdateGuildMemberGrade)
    (characterAvailable guildAvailable : Bool) :
    Keeps world (caller, .updateGuildMemberGrade command characterAvailable guildAvailable) ↔
      Orderly world
        (caller, .updateGuildMemberGrade command characterAvailable guildAvailable) := by
  have hfinal := updateGuildMemberGrade_final caller command characterAvailable guildAvailable world
  unfold regrading at hfinal
  unfold Keeps Orderly step handle
  cases hfind : characterStorage.find characterAvailable caller world.data with
  | none =>
    rw [hfind] at hfinal
    rw [hfinal]
    simp [hfind, h, Authorised.refl]
  | some character =>
    rw [hfind, bind_some] at hfinal
    cases hguild : guildStorage.find guildAvailable character.guildUid world.data with
    | none =>
      rw [hguild] at hfinal
      rw [hfinal]
      simp [hfind, hguild, h, Authorised.refl]
    | some guild =>
      obtain ⟨hvalid, -, hrecord⟩ := find_eq_some.1 hguild
      rw [hguild] at hfinal
      rw [hfinal]
      refine (regraded_keeps_iff h caller command hvalid hrecord).trans ?_
      simp [hfind, hguild]

theorem acceptInviteToGuild_keeps_iff (command : InviteGuildJoinOK)
    (characterAvailable guildAvailable : Bool) :
    Keeps world (caller, .acceptInviteToGuild command characterAvailable guildAvailable) ↔
      Orderly world
        (caller, .acceptInviteToGuild command characterAvailable guildAvailable) := by
  have hfinal := acceptInviteToGuild_final caller command characterAvailable guildAvailable world
  unfold Keeps Orderly step handle
  rw [hfinal]
  cases hacceptance : acceptance caller command characterAvailable world with
  | none => simp [hacceptance, h, Authorised.refl]
  | some character =>
    refine (accepted_keeps_iff h (acceptance_eq_some hacceptance)).trans ?_
    simp [hacceptance]

/-- A step keeps the records consistent and is authorised exactly if it is orderly. -/
theorem keeps_iff (input : Uid × Command) : Keeps world input ↔ Orderly world input := by
  obtain ⟨caller, command⟩ := input
  cases command with
  | createGuild command verdicts available allocated online =>
    exact createGuild_keeps_iff h caller command verdicts available allocated online
  | withdrawGuild command lookups => exact withdrawGuild_keeps_iff h caller command lookups
  | updateGuildMemberGrade command characterAvailable guildAvailable =>
    exact updateGuildMemberGrade_keeps_iff h caller command characterAvailable guildAvailable
  | inviteToGuild characterName inviterAvailable users =>
    exact ⟨fun _ => trivial, fun _ => keeps_of_data_eq h
      (inviteToGuild_final caller characterName inviterAvailable users world)⟩
  | acceptInviteToGuild command characterAvailable guildAvailable =>
    exact acceptInviteToGuild_keeps_iff h caller command characterAvailable guildAvailable
  | declineInviteToGuild => exact ⟨fun _ => trivial, fun _ => keeps_of_data_eq h rfl⟩

end Steps

/-! ## Runs -/

/-- Records without guilds are consistent if no character names one. -/
theorem consistent_of_no_guilds (hguilds : ∀ uid, data.guilds uid = none)
    (hcharacters : ∀ uid character, data.characters uid = some character →
      character.guildUid = invalidUid) : Consistent data := by
  refine ⟨fun characterUid guildUid hvalid => ?_, fun uid guild hguild => ?_, hguilds _⟩
  · constructor
    · rintro ⟨character, hcharacter, rfl⟩
      exact absurd (hcharacters _ _ hcharacter) hvalid
    · rintro ⟨guild, hguild, -⟩
      rw [hguilds] at hguild
      cases hguild
  · rw [hguilds] at hguild
    cases hguild

/-- Two characters without a guild, who can pay for one. -/
def newcomers : World where
  data := {
    characters := fun uid =>
      if uid = 1 ∨ uid = 2 then some { uid := uid, name := [uid.toUInt8], carrots := 5000 } else none }

theorem newcomers_consistent : Consistent newcomers.data := by
  refine consistent_of_no_guilds (fun _ => rfl) fun uid character hcharacter => ?_
  have hsome : (if uid = 1 ∨ uid = 2 then
      some ({ uid := uid, name := [uid.toUInt8], carrots := 5000 } : Character) else none) =
      some character := hcharacter
  split at hsome
  · cases hsome
    rfl
  · cases hsome

end Alicia.Guild
