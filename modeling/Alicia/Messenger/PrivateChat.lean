import Alicia.Messenger.Sessions

/-!
# The private chat

A client talks to whoever has entered the mirrored conversation.  Nobody else receives anything that
it sends.
-/

namespace Alicia.Messenger.PrivateChat

open Transition Data List

structure ConversationContext where
  characterUid : Uid := invalidUid
  targetCharacterUid : Uid := invalidUid

inductive Notify where
  | enterRoomAckOk
  | chatTrs (characterUid : Uid) (message : Text)
  | enterBuddyTrs (unk0 : Uid) (unk1 : Text)
  | leaveBuddyTrs (unk0 : Uid)
  | endChatTrs

/-- The last two fields are the history: what the command of a client sent to whom, and the
conversations that the clients have entered. -/
structure PrivateChatDirector where
  conversations : ClientId → Option ConversationContext := fun _ => none
  sent : List (ClientId × ClientId × Notify) := []
  entered : List (ClientId × ConversationContext) := []

namespace PrivateChatDirector

variable (director : PrivateChatDirector) (context : ConversationContext) (clientId : ClientId)

/-- The first conversation that mirrors the given one, in the order of the iteration. -/
def getTargetClientIdByContext (order : List ClientId) : Option ClientId :=
  if context.characterUid = invalidUid ∨ context.targetCharacterUid = invalidUid then none
  else
    order.find? fun targetClientId =>
      (director.conversations targetClientId).any fun target =>
        target.characterUid = context.targetCharacterUid ∧
          target.targetCharacterUid = context.characterUid

def queueCommand (receiver : ClientId) (notify : Notify) : PrivateChatDirector :=
  { director with sent := (clientId, receiver, notify) :: director.sent }

def setConversation (conversation : Option ConversationContext) : PrivateChatDirector :=
  { director with conversations := Function.update director.conversations clientId conversation }

def enter (clientId : ClientId) (context : ConversationContext) : PrivateChatDirector :=
  { director with entered := (clientId, context) :: director.entered }

def notifyTarget (order : List ClientId) (notify : Notify) : PrivateChatDirector :=
  (director.getTargetClientIdByContext context order).elim director fun target =>
    director.queueCommand clientId target notify

end PrivateChatDirector

/-- What the director handles.  `order` is the order of the map of conversations, and `names` are
the names of the characters whose records are available. -/
inductive Input where
  | clientConnected (clientId : ClientId)
  | clientDisconnected (clientId : ClientId) (order : List ClientId)
  | enterRoom (clientId : ClientId) (code characterUid : Uid) (characterName : Text)
      (names : Uid → Option Text)
  | chat (clientId : ClientId) (message : Text) (order : List ClientId)
  | inputState (clientId : ClientId) (state : UInt8) (order : List ClientId)
      (names : Uid → Option Text)

/-- A handler that does not find the conversation of its client ends with an exception. -/
def step (director : PrivateChatDirector) : Input → PrivateChatDirector
  | .clientConnected clientId =>
    director.setConversation clientId (some ((director.conversations clientId).getD {}))
  | .clientDisconnected clientId order =>
    let ended := director.queueCommand clientId clientId .endChatTrs
    (director.conversations clientId).elim ended fun context =>
      (ended.notifyTarget context clientId order .endChatTrs).setConversation clientId none
  | .enterRoom clientId code characterUid characterName names =>
    if (director.conversations clientId).isSome ∧ (names code).isSome ∧
        names characterUid = some characterName then
      ((director.enter clientId ⟨characterUid, code⟩).setConversation clientId
        (some ⟨characterUid, code⟩)).queueCommand clientId clientId .enterRoomAckOk
    else director
  | .chat clientId message order =>
    (director.conversations clientId).elim director fun context =>
      (director.queueCommand clientId clientId (.chatTrs context.characterUid message)).notifyTarget
        context clientId order (.chatTrs context.characterUid message)
  | .inputState clientId state order names =>
    (director.conversations clientId).elim director fun context =>
      if state = 1 then
        (names context.characterUid).elim director fun name =>
          director.notifyTarget context clientId order (.enterBuddyTrs context.characterUid name)
      else if state = 3 then
        director.notifyTarget context clientId order (.leaveBuddyTrs context.characterUid)
      else director

/-- The command names no other character as its sender. -/
def Notify.IsFrom (uid : Uid) : Notify → Prop
  | .enterRoomAckOk | .endChatTrs => True
  | .chatTrs sender _ | .enterBuddyTrs sender _ | .leaveBuddyTrs sender => sender = uid

/-- What went to another client was sent by the character with whom that client had entered a
conversation, and who had entered it too. -/
structure PrivateChatDirector.Private (director : PrivateChatDirector) : Prop where
  entered : ∀ clientId context, director.conversations clientId = some context →
    context = {} ∨ (clientId, context) ∈ director.entered
  sent : ∀ sender receiver notify, (sender, receiver, notify) ∈ director.sent → sender = receiver ∨
    ∃ own other, (sender, ⟨own, other⟩) ∈ director.entered ∧
      (receiver, ⟨other, own⟩) ∈ director.entered ∧ notify.IsFrom own

namespace PrivateChatDirector

variable {director : PrivateChatDirector} {clientId : ClientId} {context : ConversationContext}

theorem mirrors {order : List ClientId} {target : ClientId}
    (hfound : director.getTargetClientIdByContext context order = some target) :
    context.characterUid ≠ invalidUid ∧ context.targetCharacterUid ≠ invalidUid ∧
      director.conversations target =
        some ⟨context.targetCharacterUid, context.characterUid⟩ := by
  rw [getTargetClientIdByContext] at hfound
  split at hfound
  · cases hfound
  next hvalid =>
  have hmirrors := find?_some hfound
  rw [Option.any_eq_true] at hmirrors
  obtain ⟨mirrored, htarget, hmirrors⟩ := hmirrors
  obtain ⟨hcharacter, hback⟩ := of_decide_eq_true hmirrors
  rw [htarget, ← hcharacter, ← hback]
  rw [not_or, ← hcharacter, ← hback] at hvalid
  exact ⟨hvalid.1, hvalid.2, rfl⟩

namespace Private

theorem queueCommand (h : director.Private) (notify : Notify) :
    (director.queueCommand clientId clientId notify).Private where
  entered := h.entered
  sent := by
    intro sender receiver other hmem
    obtain heq | hmem := mem_cons.1 hmem
    · cases heq
      exact .inl rfl
    · exact h.sent sender receiver other hmem

theorem notifyTarget (h : director.Private)
    (hcontext : director.conversations clientId = some context) (order : List ClientId)
    (notify : Notify) (hfrom : notify.IsFrom context.characterUid) :
    (director.notifyTarget context clientId order notify).Private := by
  rw [PrivateChatDirector.notifyTarget]
  cases hfound : director.getTargetClientIdByContext context order with
  | none => exact h
  | some target =>
      refine ⟨h.entered, fun sender receiver other hmem => ?_⟩
      obtain heq | hmem := mem_cons.1 hmem
      swap
      · exact h.sent sender receiver other hmem
      cases heq
      obtain ⟨hown, hother, htarget⟩ := mirrors hfound
      have hsender := (h.entered _ _ hcontext).resolve_left fun heq => hown (by rw [heq])
      have hreceiver := (h.entered _ _ htarget).resolve_left fun heq =>
        hother (congrArg ConversationContext.characterUid heq)
      exact .inr ⟨_, _, hsender, hreceiver, hfrom⟩

theorem setConversation (h : director.Private) {conversation : Option ConversationContext}
    (hentered : ∀ context, conversation = some context →
      context = {} ∨ (clientId, context) ∈ director.entered) :
    (director.setConversation clientId conversation).Private where
  entered := by
    intro other context hcontext
    simp only [PrivateChatDirector.setConversation, Function.update_apply] at hcontext
    split at hcontext
    · next heq =>
        subst heq
        exact hentered context hcontext
    · exact h.entered other context hcontext
  sent := h.sent

theorem enter (h : director.Private) (clientId : ClientId) (context : ConversationContext) :
    (director.enter clientId context).Private where
  entered := fun other found hfound =>
    (h.entered other found hfound).imp_right (mem_cons_of_mem _)
  sent := fun sender receiver notify hmem =>
    (h.sent sender receiver notify hmem).imp_right fun ⟨own, other, hown, hother, hfrom⟩ =>
      ⟨own, other, mem_cons_of_mem _ hown, mem_cons_of_mem _ hother, hfrom⟩

end Private

end PrivateChatDirector

theorem private_step (director : PrivateChatDirector) (input : Input) (h : director.Private) :
    (step director input).Private := by
  cases input with
  | clientConnected clientId =>
      refine h.setConversation fun context hcontext => ?_
      cases hfound : director.conversations clientId with
      | none =>
          rw [hfound] at hcontext
          exact .inl (Option.some.inj hcontext).symm
      | some found =>
          rw [hfound] at hcontext
          cases hcontext
          exact h.entered clientId found hfound
  | clientDisconnected clientId order =>
      have hended : (director.queueCommand clientId clientId .endChatTrs).Private := h.queueCommand _
      dsimp only [step]
      cases hfound : director.conversations clientId with
      | none => exact hended
      | some context =>
          exact (hended.notifyTarget hfound order .endChatTrs trivial).setConversation nofun
  | enterRoom clientId code characterUid characterName names =>
      dsimp only [step]
      split
      · exact ((h.enter clientId ⟨characterUid, code⟩).setConversation fun context hcontext =>
          .inr (Option.some.inj hcontext ▸ mem_cons_self)).queueCommand _
      · exact h
  | chat clientId message order =>
      dsimp only [step]
      cases hfound : director.conversations clientId with
      | none => exact h
      | some context => exact (h.queueCommand _).notifyTarget hfound order _ rfl
  | inputState clientId state order names =>
      dsimp only [step]
      cases hfound : director.conversations clientId with
      | none => exact h
      | some context =>
          dsimp only [Option.elim]
          split
          · cases names context.characterUid with
            | none => exact h
            | some name => exact h.notifyTarget hfound order _ rfl
          split
          · exact h.notifyTarget hfound order _ rfl
          · exact h

/-- A chat goes to a client with the mirrored conversation, if one is connected. -/
def PrivateChatDirector.Delivers (director : PrivateChatDirector) : Prop :=
  ∀ clientId partner own other order message, own ≠ invalidUid → other ≠ invalidUid →
    director.conversations clientId = some ⟨own, other⟩ →
    director.conversations partner = some ⟨other, own⟩ → partner ∈ order →
    ∃ receiver, director.conversations receiver = some ⟨other, own⟩ ∧
      (clientId, receiver, .chatTrs own message) ∈
        (step director (.chat clientId message order)).sent

theorem PrivateChatDirector.delivers (director : PrivateChatDirector) : director.Delivers := by
  intro clientId partner own other order message hown hother hconversation hpartner hmem
  have hfound : (director.getTargetClientIdByContext ⟨own, other⟩ order).isSome = true := by
    rw [getTargetClientIdByContext, if_neg (by simp [hown, hother]), find?_isSome]
    exact ⟨partner, hmem, by simp [hpartner]⟩
  obtain ⟨receiver, hreceiver⟩ := Option.isSome_iff_exists.1 hfound
  refine ⟨receiver, (mirrors hreceiver).2.2, ?_⟩
  have htarget : (director.queueCommand clientId clientId
      (.chatTrs own message)).getTargetClientIdByContext ⟨own, other⟩ order = some receiver :=
    hreceiver
  simp only [step, hconversation, Option.elim, notifyTarget, htarget]
  exact mem_cons_self

/-- In every run, nothing that a client sends goes to a client with whose character it does not
talk, and what it says to a partner that is connected is delivered. -/
theorem private_run (inputs : List Input) :
    (run step {} inputs).Private ∧ (run step {} inputs).Delivers :=
  ⟨run_invariant private_step ⟨by simp, by simp⟩ inputs,
    PrivateChatDirector.delivers _⟩

end Alicia.Messenger.PrivateChat
