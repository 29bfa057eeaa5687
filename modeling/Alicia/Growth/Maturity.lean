import Alicia.Collection.Maps
import Alicia.Growth.Foals
import Alicia.Room
import Alicia.Transition.Run

/-!
# Foals growing up

The foals of a character are checked when the character logs in and enters the own ranch, and then
from time to time against the map of due times that the context of the client holds.  A horse whose
record was not available on the entry has no due time in the map, and the due time of a horse whose
record is not available at a check is dropped.
-/

namespace Alicia.Growth

open Data (Uid invalidUid Horse)
open Chrono (TimePoint)
open Collection Std Transition List Stables

/-! ## Clients on the ranches -/

structure RanchContext where
  isAuthenticated : Bool := false
  characterUid : Uid := invalidUid
  maturingFoals : MaturingFoals := []

namespace RanchContext

/-- The horses whose due time has come, if a check looks at the client. -/
def due (now : Int) (context : RanchContext) : List Uid :=
  if context.isAuthenticated then
    (context.maturingFoals.filter fun foal => ¬now < foal.2).map (·.1)
  else []

/-- The entries that a check leaves: all due ones are erased. -/
def sweep (now : Int) (context : RanchContext) : RanchContext :=
  if context.isAuthenticated then
    { context with maturingFoals := context.maturingFoals.filter fun foal => now < foal.2 }
  else context

/-- The client is on a ranch with the character. -/
def OnRanch (context : RanchContext) : Prop :=
  context.isAuthenticated = true ∧ context.characterUid ≠ invalidUid

instance (context : RanchContext) : Decidable context.OnRanch := inferInstanceAs (Decidable (_ ∧ _))

end RanchContext

structure RanchWorld where
  stables : Stables := {}
  clients : ExtTreeMap ClientId RanchContext := ∅

inductive RanchInput where
  | connect (client : ClientId)
  | disconnect (client : ClientId)
  /-- `authorized` is the result of `AuthorizeCode`, `refused` that the ranch is locked or full, and
  `found` that `GetUserByCharacterUid` finds the user. -/
  | enterRanch (client : ClientId) (characterUid rancherUid : Uid)
      (authorized refused found : Bool) (now : Int)
  | login (characterUid : Uid) (now : Int)
  | maturityCheck (now : Int)
  /-- `born` is the clock as `CreateFoal` reads it, and `now` as the handler does afterwards. -/
  | birth (client : ClientId) (foalUid : Uid) (foal : Horse) (born : TimePoint) (now : Int)
  | instantGrowUp (client : ClientId) (horseUid : Uid)
  | registerStallion (horseUid : Uid)
  | unregisterStallion (horseUid : Uid)
  | setAvailable (horseUid : Uid) (available : Bool)
  | setPresent (characterUid : Uid) (present : Bool)

namespace RanchWorld

/-- The context of the client once it is authorized, if `HandleEnterRanch` lets it enter. -/
def admitted (world : RanchWorld) (client : ClientId) (characterUid rancherUid : Uid)
    (authorized refused : Bool) : Option RanchContext :=
  match world.clients[client]? with
  | none => none
  | some context =>
    if world.stables.present rancherUid ∧ (context.isAuthenticated || authorized) ∧ ¬refused then
      some { context with isAuthenticated := true, characterUid := characterUid }
    else none

/-- `HandleEnterRanch`. -/
def enterRanch (client : ClientId) (characterUid rancherUid : Uid)
    (authorized refused found : Bool) (now : Int) (world : RanchWorld) : RanchWorld :=
  match world.clients[client]? with
  | none => world
  | some context =>
    if ¬world.stables.present rancherUid then world
    else
      let context := { context with
        isAuthenticated := context.isAuthenticated || authorized }
      if ¬context.isAuthenticated ∨ refused then
        { world with clients := world.clients.insert client context }
      else
        let context := { context with characterUid := characterUid }
        if found ∧ characterUid = rancherUid then
          -- `RefreshMaturingFoals` replaces the map of the context.
          let (stables, foals) := world.stables.promoteMaturedFoals characterUid now
          { stables := stables
            clients := world.clients.insert client { context with maturingFoals := foals } }
        else { world with clients := world.clients.insert client context }

/-- The horses that a check looks at, in the order of the clients. -/
def dueUids (now : Int) (world : RanchWorld) : List Uid :=
  world.clients.toList.flatMap fun entry => entry.2.due now

/-- `RunFoalMaturityCheck`.  An entry is erased whether or not the horse could be read, so that what
is erased does not depend on the records. -/
def runFoalMaturityCheck (now : Int) (world : RanchWorld) : RanchWorld :=
  { stables := (world.dueUids now).foldl Stables.growUp world.stables
    clients := world.clients.map fun _ context => context.sweep now }

/-- The end of `HandleTryBreeding` after a success. -/
def birth (client : ClientId) (foalUid : Uid) (foal : Horse) (born : TimePoint) (now : Int)
    (world : RanchWorld) : RanchWorld :=
  match world.clients[client]? with
  | none => world
  | some context =>
    if context.isAuthenticated ∧ world.stables.present context.characterUid ∧
        (world.stables.horses foalUid).isNone then
      { stables := world.stables.addFoal context.characterUid foalUid foal born
        clients := world.clients.insert client { context with
          maturingFoals := context.maturingFoals.emplace foalUid (now + foalGrowUpDuration) } }
    else world

/-- The branch of `HandleUseItem` for the item that matures a foal. -/
def instantGrowUp (client : ClientId) (horseUid : Uid) (world : RanchWorld) : RanchWorld :=
  match world.clients[client]? with
  | none => world
  | some context =>
    if context.isAuthenticated ∧ (world.stables.getHorse horseUid).isSome then
      { stables := world.stables.growUp horseUid
        clients := world.clients.insert client { context with
          maturingFoals := context.maturingFoals.filter fun foal => foal.1 ≠ horseUid } }
    else world

end RanchWorld

def ranchStep (world : RanchWorld) : RanchInput → RanchWorld
  | .connect client => { world with clients := world.clients.insert client {} }
  | .disconnect client => { world with clients := world.clients.erase client }
  | .enterRanch client characterUid rancherUid authorized refused found now =>
    world.enterRanch client characterUid rancherUid authorized refused found now
  | .login characterUid now =>
    { world with stables := (world.stables.promoteMaturedFoals characterUid now).1 }
  | .maturityCheck now => world.runFoalMaturityCheck now
  | .birth client foalUid foal born now => world.birth client foalUid foal born now
  | .instantGrowUp client horseUid => world.instantGrowUp client horseUid
  | .registerStallion horseUid =>
    { world with stables := world.stables.retype horseUid .stallion }
  | .unregisterStallion horseUid =>
    { world with stables := world.stables.retype horseUid .adult }
  | .setAvailable horseUid available =>
    { world with stables := { world.stables with
        available := Function.update world.stables.available horseUid available } }
  | .setPresent characterUid present =>
    { world with stables := { world.stables with
        present := Function.update world.stables.present characterUid present } }

/-- The ranch server with any records, before a client has connected. -/
def RanchWorld.opened (stables : Stables) : RanchWorld := { stables := stables }

/-! ## Growing up on time -/

/-- The clock reading of the checks that go by the time. -/
def RanchInput.clock : RanchInput → Option Int
  | .enterRanch _ _ _ _ _ _ now => some now
  | .login _ now => some now
  | .maturityCheck now => some now
  | _ => none

/-- What a step owes to the foals. -/
structure GrowsOnTime (world : RanchWorld) (input : RanchInput) : Prop where
  timed : ∀ now, input.clock = some now →
    GrownFoals now world.stables (ranchStep world input).stables
  checked : ∀ now, input = .maturityCheck now → ∀ (client : ClientId) (context : RanchContext),
    world.clients[client]? = some context → context.OnRanch →
      Promoted context.characterUid now world.stables (ranchStep world input).stables
  entered : ∀ client characterUid authorized refused now,
    input = .enterRanch client characterUid characterUid authorized refused true now →
      (world.admitted client characterUid characterUid authorized refused).isSome →
        Promoted characterUid now world.stables (ranchStep world input).stables

/-- The input turns the foal into an adult. -/
def growsUp (horseUid : Uid) (world : RanchWorld) (input : RanchInput) : Bool :=
  world.stables.typeOf horseUid = some .foal ∧
    (ranchStep world input).stables.typeOf horseUid = some .adult

/-- Foals grow up once, and on time. -/
structure FoalsGrowUp (start : RanchWorld) (inputs : List RanchInput) : Prop where
  onTime : Guarded ranchStep GrowsOnTime start inputs
  once : ∀ horseUid, occurrences ranchStep (growsUp horseUid) start inputs ≤ 1

/-- The input does not reach what the checks miss.  An entry of the own ranch finds the records of
all foals available, another entry finds their due times in the context; a check finds the record
of every foal that is due, and no foal between its time and its due time; a foal is born under a
new uid, with no other client of the character on a ranch. -/
def FoalSafe (world : RanchWorld) : RanchInput → Prop
  | .enterRanch client characterUid rancherUid authorized refused found _ =>
    ∀ context, world.admitted client characterUid rancherUid authorized refused = some context →
      ∀ uid ∈ world.stables.listed characterUid, world.stables.typeOf uid = some .foal →
        if found ∧ characterUid = rancherUid then world.stables.available uid = true
        else ∃ due, (uid, due) ∈ context.maturingFoals
  | .maturityCheck now =>
    ∀ (client : ClientId) (context : RanchContext), world.clients[client]? = some context →
      context.isAuthenticated = true → ∀ uid due, (uid, due) ∈ context.maturingFoals →
        ∀ horse, world.stables.horses uid = some horse → horse.type = .foal →
          (growUpTime horse ≤ now → due ≤ now) ∧
            (due ≤ now → world.stables.available uid = true)
  | .birth client foalUid _ born now =>
    born.sinceEpoch.toInt ≤ now ∧ (∀ characterUid, foalUid ∉ world.stables.listed characterUid) ∧
      ∀ (context : RanchContext), world.clients[client]? = some context →
        ∀ (other : ClientId) (present : RanchContext), world.clients[other]? = some present →
          present.OnRanch → present.characterUid = context.characterUid → other = client
  | _ => True

/-! ## The maps and the records agree -/

/-- Each foal of the character has a due time. -/
def Covers (stables : Stables) (characterUid : Uid) (foals : MaturingFoals) : Prop :=
  ∀ uid ∈ stables.listed characterUid, stables.typeOf uid = some .foal →
    ∃ due, (uid, due) ∈ foals

variable {stables : Stables} {characterUid : Uid}

theorem Covers.aged {after : Stables} {foals : MaturingFoals}
    (h : Covers stables characterUid foals) (haged : Aged stables after) :
    Covers after characterUid foals := by
  intro uid hmem hfoal
  exact h uid (haged.listed ▸ hmem) (haged.foal hfoal)

/-- A client with a character is authenticated, its context has a due time for each foal of the
character, and all due times are those of horses or later. -/
structure RanchContext.Tracked (stables : Stables) (context : RanchContext) : Prop where
  authenticated : context.characterUid ≠ invalidUid → context.isAuthenticated = true
  covers : context.OnRanch → Covers stables context.characterUid context.maturingFoals
  timely : Timely stables context.maturingFoals

theorem RanchContext.Tracked.aged {after : Stables} {context : RanchContext}
    (h : context.Tracked stables) (haged : Aged stables after) : context.Tracked after :=
  ⟨h.authenticated, fun honRanch => (h.covers honRanch).aged haged, h.timely.aged haged⟩

def Tracked (world : RanchWorld) : Prop :=
  ∀ (client : ClientId) (context : RanchContext), world.clients[client]? = some context →
    context.Tracked world.stables

theorem tracked_opened (stables : Stables) : Tracked (.opened stables) := by
  intro client context hclient
  simp [RanchWorld.opened] at hclient

theorem Tracked.aged {world : RanchWorld} (h : Tracked world) {after : Stables}
    (haged : Aged world.stables after) : Tracked { world with stables := after } :=
  fun client context hclient => (h client context hclient).aged haged

theorem Tracked.insert {world : RanchWorld} (h : Tracked world) {after : Stables}
    (haged : Aged world.stables after) (client : ClientId) {context : RanchContext}
    (hcontext : context.Tracked after) :
    Tracked { stables := after, clients := world.clients.insert client context } := by
  intro other found hfound
  rw [getElem?_insert_self_or_ne] at hfound
  split at hfound
  · cases hfound
    exact hcontext
  · exact (h other found hfound).aged haged

/-! ## One step -/

section Step

variable {world : RanchWorld} {client : ClientId} {now : Int}

/-- What an entry comes to: a refused client at most becomes authenticated, and an admitted one
gets a new map if it is on the own ranch and the user is found. -/
theorem enterRanch_eq (world : RanchWorld) (client : ClientId) (characterUid rancherUid : Uid)
    (authorized refused found : Bool) (now : Int) :
    (world.admitted client characterUid rancherUid authorized refused = none ∧
      (world.enterRanch client characterUid rancherUid authorized refused found now = world ∨
        ∃ context, world.clients[client]? = some context ∧
          world.enterRanch client characterUid rancherUid authorized refused found now =
            { world with clients := world.clients.insert client { context with
              isAuthenticated := context.isAuthenticated || authorized } })) ∨
    ∃ context, world.admitted client characterUid rancherUid authorized refused = some context ∧
      context.isAuthenticated = true ∧ context.characterUid = characterUid ∧
      world.stables.present rancherUid = true ∧
      (∃ earlier, world.clients[client]? = some earlier ∧
        context.maturingFoals = earlier.maturingFoals) ∧
      world.enterRanch client characterUid rancherUid authorized refused found now =
        if found ∧ characterUid = rancherUid then
          { stables := (world.stables.promoteMaturedFoals characterUid now).1
            clients := world.clients.insert client { context with
              maturingFoals := (world.stables.promoteMaturedFoals characterUid now).2 } }
        else { world with clients := world.clients.insert client context } := by
  unfold RanchWorld.admitted RanchWorld.enterRanch
  cases hclient : world.clients[client]? with
  | none => exact .inl ⟨rfl, .inl rfl⟩
  | some context =>
    by_cases hpresent : world.stables.present rancherUid = true
    · by_cases hallowed : (context.isAuthenticated || authorized) = true ∧ ¬refused
      · refine .inr ⟨_, if_pos ⟨hpresent, hallowed⟩, rfl, rfl, hpresent, ⟨context, rfl, rfl⟩, ?_⟩
        simp [hpresent, hallowed]
      · refine .inl ⟨if_neg fun h => hallowed h.2, .inr ⟨context, rfl, ?_⟩⟩
        have hrefused : ¬(context.isAuthenticated || authorized) = true ∨ refused := by
          rcases not_and_or.1 hallowed with h | h
          · exact .inl h
          · exact .inr (not_not.1 h)
        simp only [hpresent, not_true_eq_false, if_false, if_pos hrefused]
    · exact .inl ⟨if_neg fun h => hpresent h.1, .inl (by simp [hpresent])⟩

theorem tracked_enterRanch (h : Tracked world) {rancherUid : Uid} {authorized refused found : Bool}
    (hsafe : FoalSafe world
      (.enterRanch client characterUid rancherUid authorized refused found now)) :
    Tracked (world.enterRanch client characterUid rancherUid authorized refused found now) := by
  rcases enterRanch_eq world client characterUid rancherUid authorized refused found now with
    ⟨-, hsame | ⟨context, hclient, heq⟩⟩ |
      ⟨context, hadmitted, hauthenticated, rfl, hpresent, ⟨earlier, hclient, hfoals⟩, heq⟩
  · rwa [hsame]
  · -- Only a client without a character is authenticated for the first time.
    have hcontext := h client context hclient
    rw [heq]
    refine h.insert (.refl _) client ⟨fun hvalid => ?_, fun honRanch => ?_, hcontext.timely⟩
    · simp [hcontext.authenticated hvalid]
    · exact hcontext.covers ⟨hcontext.authenticated honRanch.2, honRanch.2⟩
  · rw [heq]
    split
    next hown =>
      have hgrown := grown_promoteMaturedFoals context.characterUid now world.stables
      have hmatured : world.stables.promoteMaturedFoals context.characterUid now =
          (world.stables.listed context.characterUid).foldl (promoteHorse now)
            (world.stables, []) := if_pos (hown.2 ▸ hpresent)
      refine h.insert hgrown.aged client
        ⟨fun _ => hauthenticated, fun _ uid hmem hfoal => ?_, ?_⟩
      · dsimp only at hmem hfoal ⊢
        rw [hgrown.listed] at hmem
        have havailable := hsafe context hadmitted uid hmem (hgrown.aged.foal hfoal)
        rw [if_pos hown] at havailable
        rw [hmatured] at hfoal ⊢
        exact promote_covers hmem havailable hfoal
      · dsimp only
        rw [hmatured]
        exact timely_promote _ fun uid due hmem => absurd hmem not_mem_nil
    next hother =>
      refine h.insert (.refl _) client ⟨fun _ => hauthenticated, fun _ uid hmem hfoal => ?_, ?_⟩
      · have hdue := hsafe context hadmitted uid hmem hfoal
        rwa [if_neg hother] at hdue
      · rw [hfoals]
        exact (h client earlier hclient).timely

theorem mem_dueUids {uid : Uid} : uid ∈ world.dueUids now ↔
    ∃ (client : ClientId) (context : RanchContext) (due : Int),
      world.clients[client]? = some context ∧ context.isAuthenticated = true ∧
        (uid, due) ∈ context.maturingFoals ∧ due ≤ now := by
  simp only [RanchWorld.dueUids, mem_flatMap, Prod.exists,
    ExtTreeMap.mem_toList_iff_getElem?_eq_some]
  constructor
  · rintro ⟨client, context, hclient, hmem⟩
    unfold RanchContext.due at hmem
    split at hmem
    next hauthenticated =>
      obtain ⟨⟨found, due⟩, hfilter, rfl⟩ := mem_map.1 hmem
      obtain ⟨hentry, hdue⟩ := mem_filter.1 hfilter
      exact ⟨client, context, due, hclient, hauthenticated, hentry, by simpa using hdue⟩
    · cases hmem
  · rintro ⟨client, context, due, hclient, hauthenticated, hentry, hdue⟩
    refine ⟨client, context, hclient, ?_⟩
    rw [RanchContext.due, if_pos hauthenticated]
    exact mem_map_of_mem (mem_filter.2 ⟨hentry, by simpa using hdue⟩)

/-- In a tracked world, a check promotes the horses that it looks at. -/
theorem dueUids_promote (h : Tracked world) (foals : MaturingFoals) :
    (world.dueUids now).foldl (promoteHorse now) (world.stables, foals) =
      ((world.dueUids now).foldl growUp world.stables, foals) := by
  refine growUps_eq foals fun uid hmem horse hhorse => ?_
  obtain ⟨client, context, due, hclient, -, hentry, hdue⟩ := mem_dueUids.1 hmem
  obtain ⟨found, hfound, hle⟩ := (h client context hclient).timely uid due hentry
  cases hhorse.symm.trans hfound
  exact Int.le_trans hle hdue

theorem grown_runFoalMaturityCheck (h : Tracked world) :
    GrownFoals now world.stables (world.runFoalMaturityCheck now).stables := by
  have hgrown : GrownFoals now world.stables _ :=
    grown_promote (world.dueUids now) (world.stables, [])
  rwa [dueUids_promote h] at hgrown

theorem runFoalMaturityCheck_promotes (h : Tracked world) {uid : Uid}
    (hmem : uid ∈ world.dueUids now) {horse : Horse}
    (hget : world.stables.getHorse uid = some horse) (hfoal : horse.type = .foal)
    (hnow : growUpTime horse ≤ now) :
    (world.runFoalMaturityCheck now).stables.getHorse uid = some { horse with type := .adult } := by
  have hpromoted : ((world.dueUids now).foldl (promoteHorse now)
      (world.stables, [])).1.getHorse uid = _ := promote_promotes hmem hget hfoal hnow
  rwa [dueUids_promote h] at hpromoted

theorem tracked_runFoalMaturityCheck (h : Tracked world)
    (hsafe : FoalSafe world (.maturityCheck now)) : Tracked (world.runFoalMaturityCheck now) := by
  have hgrown : GrownFoals now world.stables _ := grown_runFoalMaturityCheck h
  intro client swept hswept
  obtain ⟨context, hclient, rfl⟩ : ∃ context, world.clients[client]? = some context ∧
      context.sweep now = swept := by
    simpa [RanchWorld.runFoalMaturityCheck, ExtTreeMap.getElem?_map] using hswept
  have hcontext := (h client context hclient).aged hgrown.aged
  unfold RanchContext.sweep
  split
  next hauthenticated =>
    refine ⟨fun _ => hauthenticated, fun honRanch uid hmem hfoal => ?_, fun uid due hmem => ?_⟩
    · obtain ⟨due, hentry⟩ := hcontext.covers honRanch uid hmem hfoal
      refine ⟨due, mem_filter.2 ⟨hentry, decide_eq_true (Int.not_le.1 fun hdue => ?_)⟩⟩
      -- A foal that was due has grown up, for its record was available.
      obtain ⟨horse, hhorse, htype⟩ := exists_of_typeOf (hgrown.aged.foal hfoal)
      obtain ⟨found, hfound, hle⟩ := (h client context hclient).timely uid due hentry
      cases hhorse.symm.trans hfound
      have havailable :=
        (hsafe client context hclient hauthenticated uid due hentry horse hhorse htype).2 hdue
      have hget : world.stables.getHorse uid = some horse := by
        rw [getHorse, if_pos havailable, hhorse]
      have hadult := typeOf_of_getHorse (runFoalMaturityCheck_promotes h
        (mem_dueUids.2 ⟨client, context, due, hclient, hauthenticated, hentry, hdue⟩) hget htype
        (Int.le_trans hle hdue))
      cases hadult.symm.trans hfoal
    · exact hcontext.timely uid due (mem_filter.1 hmem).1
  · exact hcontext

/-- A foal of before the birth is none of a new uid. -/
theorem Covers.addFoal {foals : MaturingFoals} (h : Covers stables characterUid foals)
    {foalUid : Uid} (hunlisted : foalUid ∉ stables.listed characterUid) (owner : Uid) (foal : Horse)
    (born : TimePoint) {uid : Uid} (hmem : uid ∈ stables.listed characterUid)
    (hfoal : (stables.addFoal owner foalUid foal born).typeOf uid = some .foal) :
    ∃ due, (uid, due) ∈ foals := by
  have hne : uid ≠ foalUid := by
    rintro rfl
    exact hunlisted hmem
  rw [typeOf, horses_addFoal, if_neg hne] at hfoal
  exact h uid hmem hfoal

theorem tracked_birth (h : Tracked world) {foalUid : Uid} {foal : Horse} {born : TimePoint}
    (hsafe : FoalSafe world (.birth client foalUid foal born now)) :
    Tracked (world.birth client foalUid foal born now) := by
  obtain ⟨hborn, hunlisted, halone⟩ := hsafe
  unfold RanchWorld.birth
  split
  · exact h
  next context hclient =>
    split
    next hbirth =>
      have hnew : world.stables.horses foalUid = none := Option.isNone_iff_eq_none.1 hbirth.2.2
      have hcontext := h client context hclient
      intro other found hfound
      rw [getElem?_insert_self_or_ne] at hfound
      split at hfound
      next hsame =>
        cases hfound
        refine ⟨fun _ => hbirth.1, fun honRanch uid hmem hfoal => ?_, fun uid due hmem => ?_⟩
        · simp only [addFoal, Function.update_self, mem_append,
            mem_singleton] at hmem
          rcases hmem with hmem | rfl
          · obtain ⟨due, hentry⟩ := (hcontext.covers honRanch).addFoal (hunlisted _)
              context.characterUid foal born hmem hfoal
            exact ⟨due, mem_emplace hentry⟩
          · exact exists_mem_emplace _ _ _
        · rcases eq_or_mem_of_mem_emplace hmem with hold | heq
          · exact hcontext.timely.addFoal hnew context.characterUid foal born uid due hold
          · cases heq
            refine ⟨_, by rw [horses_addFoal, if_pos rfl], ?_⟩
            exact Int.add_le_add_right hborn foalGrowUpDuration
      next hother =>
        have hfoundTracked := h other found hfound
        refine ⟨hfoundTracked.authenticated, fun honRanch uid hmem hfoal => ?_,
          hfoundTracked.timely.addFoal hnew _ foal born⟩
        have hcharacter : found.characterUid ≠ context.characterUid := fun hsame =>
          hother (halone context hclient other found hfound honRanch hsame)
        have hlisted : (world.stables.addFoal context.characterUid foalUid foal born).listed
            found.characterUid = world.stables.listed found.characterUid := by
          simp [addFoal, hcharacter]
        rw [hlisted] at hmem
        exact (hfoundTracked.covers honRanch).addFoal (hunlisted _) context.characterUid foal born
          hmem hfoal
    · exact h

theorem tracked_instantGrowUp (h : Tracked world) (horseUid : Uid) :
    Tracked (world.instantGrowUp client horseUid) := by
  unfold RanchWorld.instantGrowUp
  split
  · exact h
  next context hclient =>
    split
    next hread =>
      obtain ⟨horse, hget⟩ := Option.isSome_iff_exists.1 hread.2
      have haged := aged_growUp world.stables horseUid
      have hcontext := (h client context hclient).aged haged
      refine h.insert haged client ⟨fun _ => hread.1, fun honRanch uid hmem hfoal => ?_,
        fun uid due hmem => hcontext.timely uid due (mem_filter.1 hmem).1⟩
      obtain ⟨due, hentry⟩ := hcontext.covers honRanch uid hmem hfoal
      refine ⟨due, mem_filter.2 ⟨hentry, decide_eq_true ?_⟩⟩
      rintro rfl
      exact typeOf_growUp hget hfoal
    · exact h

theorem tracked_ranchStep (h : Tracked world) {input : RanchInput} (hsafe : FoalSafe world input) :
    Tracked (ranchStep world input) := by
  cases input with
  | connect client =>
    refine h.insert (.refl _) client ⟨fun hvalid => absurd rfl hvalid, fun honRanch => ?_, ?_⟩
    · exact absurd rfl honRanch.2
    · exact fun uid due hmem => absurd hmem not_mem_nil
  | disconnect client =>
    intro other context hother
    simp only [ranchStep, getElem?_erase_self_or_ne] at hother
    split at hother
    · cases hother
    · exact h other context hother
  | enterRanch client characterUid rancherUid authorized refused found now =>
    exact tracked_enterRanch h hsafe
  | login characterUid now =>
    exact h.aged (grown_promoteMaturedFoals characterUid now world.stables).aged
  | maturityCheck now => exact tracked_runFoalMaturityCheck h hsafe
  | birth client foalUid foal born now => exact tracked_birth h hsafe
  | instantGrowUp client horseUid => exact tracked_instantGrowUp h horseUid
  | registerStallion horseUid => exact h.aged (aged_retype world.stables horseUid .stallion nofun)
  | unregisterStallion horseUid => exact h.aged (aged_retype world.stables horseUid .adult nofun)
  | setAvailable horseUid available => exact h.aged ⟨fun _ => .inl rfl, rfl⟩
  | setPresent characterUid present => exact h.aged ⟨fun _ => .inl rfl, rfl⟩

theorem grown_enterRanch (world : RanchWorld) (client : ClientId) (characterUid rancherUid : Uid)
    (authorized refused found : Bool) (now : Int) : GrownFoals now world.stables
      (world.enterRanch client characterUid rancherUid authorized refused found now).stables := by
  rcases enterRanch_eq world client characterUid rancherUid authorized refused found now with
    ⟨-, hsame | ⟨context, -, heq⟩⟩ | ⟨context, -, -, -, -, -, heq⟩
  · rw [hsame]
    exact .refl _
  · rw [heq]
    exact .refl _
  · rw [heq]
    split
    · exact grown_promoteMaturedFoals characterUid now world.stables
    · exact .refl _

/-- An entry of the own ranch promotes, whatever the map of the context held. -/
theorem promoted_enterRanch {authorized refused : Bool}
    (hadmitted : (world.admitted client characterUid characterUid authorized refused).isSome) :
    Promoted characterUid now world.stables
      (world.enterRanch client characterUid characterUid authorized refused true now).stables := by
  rcases enterRanch_eq world client characterUid characterUid authorized refused true now with
    ⟨hnone, -⟩ | ⟨context, -, -, -, hpresent, -, heq⟩
  · simp [hnone] at hadmitted
  · intro uid hmem horse hget hfoal hnow
    rw [heq, if_pos ⟨rfl, rfl⟩]
    dsimp only
    rw [promoteMaturedFoals, if_pos hpresent]
    exact promote_promotes hmem hget hfoal hnow

theorem promoted_runFoalMaturityCheck (h : Tracked world)
    (hsafe : FoalSafe world (.maturityCheck now)) {context : RanchContext}
    (hclient : world.clients[client]? = some context) (honRanch : context.OnRanch) :
    Promoted context.characterUid now world.stables
      (world.runFoalMaturityCheck now).stables := by
  intro uid hmem horse hget hfoal hnow
  obtain ⟨due, hentry⟩ := (h client context hclient).covers honRanch uid hmem
    (hfoal ▸ typeOf_of_getHorse hget)
  have hdue := (hsafe client context hclient honRanch.1 uid due hentry horse
    (horses_of_getHorse hget).2 hfoal).1 hnow
  exact runFoalMaturityCheck_promotes h
    (mem_dueUids.2 ⟨client, context, due, hclient, honRanch.1, hentry, hdue⟩) hget hfoal hnow

theorem growsOnTime (h : Tracked world) {input : RanchInput} (hsafe : FoalSafe world input) :
    GrowsOnTime world input := by
  refine ⟨fun now hclock => ?_, ?_, ?_⟩
  · cases input with
    | enterRanch client characterUid rancherUid authorized refused found clock =>
      cases hclock
      exact grown_enterRanch world client characterUid rancherUid authorized refused found now
    | login characterUid clock =>
      cases hclock
      exact grown_promoteMaturedFoals characterUid now world.stables
    | maturityCheck clock =>
      cases hclock
      exact grown_runFoalMaturityCheck h
    | _ => cases hclock
  · rintro now rfl client context hclient honRanch
    exact promoted_runFoalMaturityCheck h hsafe hclient honRanch
  · rintro client characterUid authorized refused now rfl hadmitted
    exact promoted_enterRanch hadmitted

end Step

/-! ## Growing up once -/

/-- A horse keeps everything but its type, and is a foal only if it was one. -/
theorem horses_ranchStep {world : RanchWorld} {uid : Uid} {horse : Horse}
    (h : world.stables.horses uid = some horse) (input : RanchInput) : ∃ type,
      (ranchStep world input).stables.horses uid = some { horse with type := type } ∧
        (horse.type ≠ .foal → type ≠ .foal) := by
  have hsame := (Aged.refl world.stables).horse h
  cases input with
  | connect client => exact hsame
  | disconnect client => exact hsame
  | enterRanch client characterUid rancherUid authorized refused found now =>
    exact (grown_enterRanch world client characterUid rancherUid authorized refused found
      now).aged.horse h
  | login characterUid now =>
    exact (grown_promoteMaturedFoals characterUid now world.stables).aged.horse h
  | maturityCheck now => exact (aged_growUps (world.dueUids now) world.stables).horse h
  | birth client foalUid foal born now =>
    simp only [ranchStep, RanchWorld.birth]
    split
    · exact hsame
    · split
      next hbirth =>
        have hne : uid ≠ foalUid := by
          rintro rfl
          simp [h] at hbirth
        exact ⟨horse.type, by rw [horses_addFoal, if_neg hne, h], id⟩
      · exact hsame
  | instantGrowUp client horseUid =>
    simp only [ranchStep, RanchWorld.instantGrowUp]
    split
    · exact hsame
    · split
      · exact (aged_growUp world.stables horseUid).horse h
      · exact hsame
  | registerStallion horseUid =>
    exact (aged_retype world.stables horseUid .stallion nofun).horse h
  | unregisterStallion horseUid =>
    exact (aged_retype world.stables horseUid .adult nofun).horse h
  | setAvailable horseUid available => exact hsame
  | setPresent characterUid present => exact hsame

/-- One where there is a horse that is no foal, and zero where there is none or a foal. -/
def raised (horseUid : Uid) (world : RanchWorld) : Nat :=
  match world.stables.typeOf horseUid with
  | none => 0
  | some type => if type = .foal then 0 else 1

theorem raised_le (horseUid : Uid) (world : RanchWorld) : raised horseUid world ≤ 1 := by
  unfold raised
  split
  · decide
  · split <;> decide

theorem raised_of_typeOf {horseUid : Uid} {world : RanchWorld} {type : Horse.Kind}
    (h : world.stables.typeOf horseUid = some type) :
    raised horseUid world = if type = .foal then 0 else 1 := by
  simp only [raised, h]

theorem raised_ranchStep (horseUid : Uid) (world : RanchWorld) (input : RanchInput) :
    raised horseUid world + (growsUp horseUid world input).toNat ≤
      raised horseUid (ranchStep world input) := by
  cases hgrows : growsUp horseUid world input with
  | true =>
    obtain ⟨hfoal, hadult⟩ := of_decide_eq_true hgrows
    rw [raised_of_typeOf hfoal, raised_of_typeOf hadult]
    decide
  | false =>
    cases htype : world.stables.typeOf horseUid with
    | none => simp [raised, htype]
    | some type =>
      by_cases hfoal : type = .foal
      · simp [raised_of_typeOf htype, hfoal]
      · obtain ⟨horse, hhorse, rfl⟩ := exists_of_typeOf htype
        obtain ⟨type, hafter, hnext⟩ := horses_ranchStep hhorse input
        have hlater : (ranchStep world input).stables.typeOf horseUid = some type := by
          rw [typeOf, hafter]
          rfl
        rw [raised_of_typeOf hlater, if_neg (hnext hfoal)]
        exact raised_le horseUid world

theorem growsUp_once (horseUid : Uid) (start : RanchWorld) (inputs : List RanchInput) :
    occurrences ranchStep (growsUp horseUid) start inputs ≤ 1 := by
  have halways : Guarded ranchStep (fun _ _ => True) start inputs :=
    .of_forall (fun _ _ => trivial) start inputs
  have hraises : ∀ world input, True → True → raised horseUid world +
      (growsUp horseUid world input).toNat ≤ raised horseUid (ranchStep world input) :=
    fun world input _ _ => raised_ranchStep horseUid world input
  have hbound := halways.occurrences_le (raised horseUid) (fun _ _ _ _ => trivial) hraises trivial
  have hle := raised_le horseUid (run ranchStep start inputs)
  omega

/-! ## All foals -/

/-- In every run that does not reach what the checks miss, foals grow up once and on time. -/
theorem foals_grow_up (stables : Stables) (inputs : List RanchInput)
    (hsafe : Guarded ranchStep FoalSafe (.opened stables) inputs) :
    FoalsGrowUp (.opened stables) inputs :=
  ⟨Guarded.imp (fun _ _ h hsafe => tracked_ranchStep h hsafe)
    (fun _ _ h hsafe => growsOnTime h hsafe) (tracked_opened stables) hsafe,
    fun horseUid => growsUp_once horseUid _ inputs⟩

/-- A character with one foal, which was born at the epoch. -/
def oneFoal : Stables where
  horses := Function.update (fun _ => none) 10 (some { uid := 10, type := .foal })
  available := fun _ => true
  listed := Function.update (fun _ => []) 1 [10]
  present := fun _ => true

theorem foals_grow_up_oneFoal : FoalsGrowUp (.opened oneFoal)
    [.connect 1, .enterRanch 1 1 1 true false true 0, .maturityCheck foalGrowUpDuration] := by
  refine foals_grow_up oneFoal _ ⟨trivial, ?_, ?_, trivial⟩
  · intro context _ uid _ _
    rw [if_pos ⟨rfl, rfl⟩]
    rfl
  · intro client context hclient hauthenticated uid due hentry horse hhorse hfoal
    have hclients : (run ranchStep (.opened oneFoal)
        [.connect 1, .enterRanch 1 1 1 true false true 0]).clients =
          ((∅ : ExtTreeMap ClientId RanchContext).insert 1 {}).insert 1
            { isAuthenticated := true, characterUid := 1
              maturingFoals := [(10, foalGrowUpDuration)] } := rfl
    change (run ranchStep (.opened oneFoal)
      [.connect 1, .enterRanch 1 1 1 true false true 0]).clients[client]? = some context at hclient
    rw [hclients, getElem?_insert_self_or_ne, getElem?_insert_self_or_ne] at hclient
    split at hclient
    · cases hclient
      cases List.mem_singleton.1 hentry
      exact ⟨fun _ => Int.le_refl _, fun _ => rfl⟩
    · simp at hclient

/-- The record of the foal is not available at the check at which it is due, and the next check
does not look at it. -/
theorem foal_missed : ¬FoalsGrowUp (.opened oneFoal)
    [.connect 1, .enterRanch 1 1 1 true false true 0, .setAvailable 10 false,
      .maturityCheck foalGrowUpDuration, .setAvailable 10 true,
      .maturityCheck (foalGrowUpDuration + 60000000000)] := by
  rintro ⟨⟨-, -, -, -, -, hcheck, -⟩, -⟩
  have hpromoted := hcheck.checked _ rfl 1
    { isAuthenticated := true, characterUid := 1, maturingFoals := [] } rfl ⟨rfl, by decide⟩ 10
    (List.mem_singleton.2 rfl) { uid := 10, type := .foal } rfl rfl (by decide)
  have htype := typeOf_of_getHorse hpromoted
  exact absurd htype (by decide +kernel)

end Alicia.Growth
