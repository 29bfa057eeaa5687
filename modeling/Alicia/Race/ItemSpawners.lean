import Alicia.Magic.Tracker
import Alicia.Transition.Run

/-!
# The item spawners

A tick tells each racer about the items that have come near, and forgets those that are no longer
near.  A racer that picked up a deck does not see it until it has respawned.  The client is told of
an item again only after the item was forgotten or picked up.
-/

namespace Alicia.Race.ItemSpawners

open Transition Data Magic List

/-- What a racer sees of the items.  The last two fields are the history: the items of which its
client was told, and those that were taken out of its sight again. -/
structure View where
  trackedDecks : List UInt16 := []
  deckCooldown : UInt16 → Option Instant := fun _ => none
  spawned : List UInt16 := []
  forgotten : List UInt16 := []

def View.untrack (oid : UInt16) (view : View) : View :=
  if oid ∈ view.trackedDecks then
    { view with
      trackedDecks := view.trackedDecks.filter (· ≠ oid)
      forgotten := oid :: view.forgotten }
  else view

def processItemSpawn (firstPass : Bool) (near : UInt16 → Bool) (view : View) (oid : UInt16) :
    View :=
  if oid ∈ view.trackedDecks then
    if near oid then view else view.untrack oid
  else if !near oid && !firstPass then view
  else { view with trackedDecks := oid :: view.trackedDecks, spawned := oid :: view.spawned }

def View.cooling (view : View) (now : Instant) (oid : UInt16) : Bool :=
  (view.deckCooldown oid).any fun until_ => now < until_

/-- An item deck is left alone while it respawns for the racer. -/
def processDeck (firstPass : Bool) (near : UInt16 → Bool) (now : UInt16 → Instant) (view : View)
    (oid : UInt16) : View :=
  if view.cooling (now oid) oid then view else processItemSpawn firstPass near view oid

def View.coolDown (oid : UInt16) (until_ : Option Instant) (view : View) : View :=
  { view with deckCooldown := Function.update view.deckCooldown oid until_ }

structure Spawners where
  views : Uid → View := fun _ => {}
  firstPassItemSpawn : Bool := true

/-- A tick of a race, or the pickup of an item.  The players, the items and what is near whom are
those of the moment, and the clock is read for each racer and deck. -/
inductive SpawnerInput where
  | tick (now : Uid → UInt16 → Instant) (racers : List Uid) (decks : List UInt16)
      (eventItems : Uid → List UInt16) (near : Uid → UInt16 → Bool)
  | getEventItem (uid : Uid) (oid : UInt16)
  /-- `completes` tells whether the room and its game mode are found. -/
  | getDeck (uid : Uid) (oid : UInt16) (now : Instant) (respawnTime : Nat) (completes : Bool)

def spawnerStep (spawners : Spawners) : SpawnerInput → Spawners
  | .tick now racers decks eventItems near =>
    { views := fun uid =>
        if uid ∈ racers then
          (eventItems uid).foldl (processItemSpawn spawners.firstPassItemSpawn (near uid))
            (decks.foldl (processDeck spawners.firstPassItemSpawn (near uid) (now uid))
              (spawners.views uid))
        else spawners.views uid
      firstPassItemSpawn := false }
  | .getEventItem uid oid =>
    { spawners with views := Function.update spawners.views uid ((spawners.views uid).untrack oid) }
  | .getDeck uid oid now respawnTime completes =>
    if (spawners.views uid).cooling now oid then
      { spawners with
        views := Function.update spawners.views uid ((spawners.views uid).untrack oid) }
    else
      { spawners with
        views := fun other =>
          let view := (spawners.views other).coolDown oid
            (if other = uid then some (now + respawnTime) else none)
          if completes then view.untrack oid else view }

/-- An item is in sight exactly if its client was told of it once more often than it was taken out
of its sight. -/
def View.Settled (view : View) : Prop :=
  ∀ oid, view.spawned.count oid =
    view.forgotten.count oid + if oid ∈ view.trackedDecks then 1 else 0

/-- The client is told of nothing that respawns for its racer. -/
def View.Waits (before after : View) (now : Instant) (oid : UInt16) : Prop :=
  before.cooling now oid = true → after.spawned.count oid = before.spawned.count oid

def Spawners.Settled (spawners : Spawners) : Prop := ∀ uid, (spawners.views uid).Settled

theorem View.Settled.untrack {view : View} (h : view.Settled) (oid : UInt16) :
    (view.untrack oid).Settled := by
  intro other
  have hother := h other
  rw [View.untrack]
  split
  · next hmem =>
      by_cases hsame : other = oid
      · subst hsame
        simp [hother, hmem]
      · simp [hother, hsame, count_cons_of_ne (Ne.symm hsame)]
  · exact hother

theorem View.Settled.processItemSpawn {view : View} (h : view.Settled) (firstPass : Bool)
    (near : UInt16 → Bool) (oid : UInt16) : (processItemSpawn firstPass near view oid).Settled := by
  rw [ItemSpawners.processItemSpawn]
  split
  · split
    · exact h
    · exact h.untrack oid
  split
  · exact h
  · next hmem _ =>
      intro other
      have hother := h other
      by_cases hsame : other = oid
      · subst hsame
        simp [hother, hmem]
      · simp [hother, hsame, count_cons_of_ne (Ne.symm hsame)]

theorem settled_step (spawners : Spawners) (input : SpawnerInput) (h : spawners.Settled) :
    (spawnerStep spawners input).Settled := by
  intro uid
  have huntracked (oid : UInt16) (other : Uid) :
      (Function.update spawners.views other ((spawners.views other).untrack oid) uid).Settled := by
    rw [Function.update_apply]
    split
    · exact (h other).untrack oid
    · exact h uid
  cases input with
  | tick now racers decks eventItems near =>
    dsimp only [spawnerStep]
    split
    · refine foldlRecOn (motive := View.Settled) _ _ (foldlRecOn _ _ (h uid) ?_)
        fun view hview oid _ => hview.processItemSpawn _ _ oid
      intro view hview oid _
      rw [processDeck]
      split
      · exact hview
      · exact hview.processItemSpawn _ _ oid
    · exact h uid
  | getEventItem other oid => exact huntracked oid other
  | getDeck other oid now respawnTime completes =>
    dsimp only [spawnerStep]
    split
    · exact huntracked oid other
    have hcooled (until_ : Option Instant) : ((spawners.views uid).coolDown oid until_).Settled :=
      h uid
    cases completes with
    | false => exact hcooled _
    | true => exact (hcooled _).untrack oid

/-- The racer sees as much of the item as before, and waits for the same decks. -/
def View.Same (oid : UInt16) (before after : View) : Prop :=
  after.spawned.count oid = before.spawned.count oid ∧ after.deckCooldown = before.deckCooldown

theorem same_processItemSpawn {firstPass : Bool} {near : UInt16 → Bool} {before view : View}
    {oid other : UInt16} (hne : other ≠ oid) (h : before.Same oid view) :
    before.Same oid (processItemSpawn firstPass near view other) := by
  rw [processItemSpawn, View.untrack]
  split
  · split
    · exact h
    · exact h
  split
  · exact h
  · exact ⟨(count_cons_of_ne hne).trans h.1, h.2⟩

/-- In every run, a client is told of an item again only after the item was taken out of its sight,
and never of a deck that respawns for its racer. -/
theorem spawners_settled (inputs : List SpawnerInput) (uid : Uid) :
    ((run spawnerStep {} inputs).views uid).Settled ∧
      ∀ now racers decks eventItems near, ∀ oid ∉ eventItems uid,
        View.Waits ((run spawnerStep {} inputs).views uid)
          ((spawnerStep (run spawnerStep {} inputs)
            (.tick now racers decks eventItems near)).views uid) (now uid oid) oid := by
  have hsettled : (run spawnerStep {} inputs).Settled :=
    run_invariant settled_step (fun _ _ => rfl) inputs
  refine ⟨hsettled uid, fun now racers decks eventItems near oid hitem hcooling => ?_⟩
  generalize run spawnerStep {} inputs = spawners at hcooling
  dsimp only [spawnerStep]
  split
  swap
  · rfl
  have hdecks := foldlRecOn (motive := (spawners.views uid).Same oid) decks
    (processDeck spawners.firstPassItemSpawn (near uid) (now uid)) ⟨rfl, rfl⟩
    fun view hview other _ => by
      rw [processDeck]
      split
      · exact hview
      · next hready =>
          refine same_processItemSpawn ?_ hview
          rintro rfl
          rw [View.cooling, hview.2] at hready
          exact hready hcooling
  exact (foldlRecOn (motive := (spawners.views uid).Same oid) _ _ hdecks
    fun view hview other hother => same_processItemSpawn (fun heq => hitem (heq ▸ hother)) hview).1

end Alicia.Race.ItemSpawners
