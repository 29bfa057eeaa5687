import Alicia.Magic.Commands

/-!
# Messages and changes

A message changes only what was sent.  Where the room exists, all messages to its players are sent, as far as they
are served.
-/

namespace Alicia.Magic

open Std (ExtTreeMap)
open Transition Effect Data RaceInstance

/-! ## Messages -/

/-- The relation does not depend on what was sent. -/
class Unsent (R : RaceInstance → RaceInstance → Prop) : Prop where
  sent : ∀ race sent, R race { race with sent := sent }

section Messages

variable {R : RaceInstance → RaceInstance → Prop} [Std.Refl R]

theorem keeps_ask {α : Type} (lookup : RaceInstance → Except Failure α) : Keeps R (Effect.ask lookup) :=
  .of_final fun race => final_ask lookup race

variable [Unsent R]

theorem keeps_queueCommand (around : Surroundings) (client : ClientId) (message : Message) :
    Keeps R (queueCommand around client message) := by
  intro race
  rw [queueCommand]
  cases around.isServed client with
  | true =>
    rw [if_pos rfl]
    exact Unsent.sent race _
  | false =>
    rw [if_neg Bool.false_ne_true]
    exact refl_of R race

variable [IsTrans RaceInstance R]

theorem keeps_broadcast (around : Surroundings) (message : Message) :
    Keeps R (broadcast around message) :=
  .bind (keeps_ask _) fun _ => .forM (fun _ => keeps_queueCommand _ _ _) _

theorem keeps_broadcastExcept (around : Surroundings) (message : Message) (skipCharacterUid : Uid) :
    Keeps R (broadcastExcept around message skipCharacterUid) :=
  .bind (keeps_ask _) fun _ => .forM (fun _ => keeps_queueCommand _ _ _) _

end Messages

/-- The room exists. -/
def Surroundings.Reachable (around : Surroundings) : Prop := ∃ players, around.players = some players

/-- The race with more messages sent. -/
def RaceInstance.say (messages : List (ClientId × Message)) (race : RaceInstance) : RaceInstance :=
  { race with sent := race.sent ++ messages }

/-- The messages that the players are sent: to those who are served. -/
def Surroundings.messages (around : Surroundings) (players : List (Uid × ClientId)) (message : Message) :
    List (ClientId × Message) :=
  (players.filter fun player => around.isServed player.2).map fun player => (player.2, message)

section Sending

variable {around : Surroundings} {client : ClientId} {message : Message} {race : RaceInstance}

theorem say_nil : race.say [] = race := by
  rw [say, List.append_nil]

theorem queueCommand_apply (around : Surroundings) (client : ClientId) (message : Message) (race : RaceInstance) :
    queueCommand around client message race =
      .ok ⟨⟩ (race.say (if around.isServed client then [(client, message)] else [])) := by
  rw [queueCommand]
  cases around.isServed client with
  | true => rfl
  | false =>
    rw [if_neg Bool.false_ne_true, if_neg Bool.false_ne_true, say_nil]
    rfl

theorem forM_queueCommand (players : List (Uid × ClientId)) (race : RaceInstance) :
    players.forM (fun player => queueCommand around player.2 message) race =
      .ok ⟨⟩ (race.say (around.messages players message)) := by
  induction players generalizing race with
  | nil => exact congrArg (EStateM.Result.ok PUnit.unit) say_nil.symm
  | cons player players ih =>
    have hcons : (player :: players).forM (fun player => queueCommand around player.2 message) =
        queueCommand around player.2 message >>= fun _ =>
          players.forM fun player => queueCommand around player.2 message := rfl
    rw [hcons, bind_ok (queueCommand_apply _ _ _ _), ih, say, say,
      Surroundings.messages, Surroundings.messages, List.filter_cons, List.append_assoc]
    cases around.isServed player.2 with
    | true => rfl
    | false => rfl

theorem broadcast_reachable {players : List (Uid × ClientId)} (hplayers : around.players = some players) :
    broadcast around message race = .ok ⟨⟩ (race.say (around.messages players message)) := by
  have hask : Effect.ask (fun _ => around.getPlayers) race = .ok players race :=
    ask_ok (by rw [Surroundings.getPlayers, hplayers])
  exact (bind_ok hask _).trans (forM_queueCommand players race)

/-- A broadcast comes to its end only where the room exists. -/
theorem reachable_of_completes (h : (broadcast around message).Completes race) : around.Reachable := by
  obtain ⟨players, next, hask, -⟩ := completes_bind.1 h
  cases hplayers : around.players with
  | none =>
    rw [ask_error (by rw [Surroundings.getPlayers, hplayers])] at hask
    cases hask
  | some others => exact ⟨others, hplayers⟩

theorem completes_drainGauge (uid : Uid) (oid : UInt16) (race : RaceInstance) :
    (drainGauge around uid oid).Completes race := by
  refine (completes_bind_ok (modify_apply _ _)).2 ?_
  cases hclient : around.findClientIdByCharacterUid uid with
  | none => exact trivial
  | some client => exact completes_iff.2 ⟨_, _, queueCommand_apply _ _ _ _⟩

end Sending

end Alicia.Magic
