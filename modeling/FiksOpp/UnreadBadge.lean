/-
The unread badge of the chat list, over every history of openings, messages,
clears and deletions.

The badge of a user for a peer counts documents in the peer's own copy of the
chat.  The history variable `unseen` counts what the badge stands for: the
messages the peer sent since the user last opened the chat.
-/

import FiksOpp.Foundations.EventRun
import FiksOpp.SendMessages

namespace FiksOpp.Chat

open DocumentStore EventRun

/-- `unseen (user, peer)` counts what `peer` sent since `user` last opened the chat. -/
structure World where
  backend : Backend
  screens : Path → Option ChatScreen
  unseen : Path → Nat

inductive ChatEvent where
  | openChat (me peer : Uid)
  | closeChat (me peer : Uid)
  | lifecycle (me peer : Uid) (status : Int)
  | presence (me peer : Uid)
  | typeText (me peer : Uid) (text : String)
  | send (me peer : Uid) (isLoading isFile : Bool) (attachmentFiles : List String) (now : Int)
  | clear (me peer : Uid)
  | delete (me : Uid) (chatItemData : ChatMessageModel)
  deriving DecidableEq, Repr

namespace World

def initial (contacts : Contacts) : World :=
  { backend := { messages := Store.empty, contacts := contacts }
    screens := fun _ => none
    unseen := fun _ => 0 }

def badge (world : World) (user peer : Uid) : Nat :=
  getUnReadCount user world.backend.messages user peer

/-- `init` marks the chat read and goes online only for a peer in the contacts. -/
def openChat (world : World) (me peer : Uid) : World :=
  let backend := world.backend
  if isReceiverInContacts backend.contacts me peer then
    { backend :=
        { messages := setUnReadStatusToTrue me backend.messages me peer
          contacts := setOnlineCount backend.contacts me peer 1 }
      screens := Function.update world.screens (me, peer) (some { listening := true })
      unseen := Function.update world.unseen (me, peer) 0 }
  else
    { backend := backend
      screens := Function.update world.screens (me, peer) (some {})
      unseen := Function.update world.unseen (me, peer) 0 }

/-- The online flag of `me` is a field of the contact document the peer keeps. -/
def setStatus (world : World) (me peer : Uid) (status : Int) : World :=
  { world with
    backend :=
      { world.backend with contacts := setOnlineCount world.backend.contacts me peer status } }

def closeChat (world : World) (me peer : Uid) : World :=
  match world.screens (me, peer) with
  | none => world
  | some _ =>
      { world.setStatus me peer 0 with
        screens := Function.update world.screens (me, peer) none }

def lifecycle (world : World) (me peer : Uid) (status : Int) : World :=
  match world.screens (me, peer) with
  | none => world
  | some _ => world.setStatus me peer status

/-- A snapshot of the contact document reaches the screen that listens to it. -/
def presence (world : World) (me peer : Uid) : World :=
  match world.screens (me, peer) with
  | none => world
  | some screen =>
      if screen.listening then
        { world with
          screens := Function.update world.screens (me, peer)
            (some { screen with
              isReceiverOnline := isReceiverOnline world.backend.contacts peer me }) }
      else world

def typeText (world : World) (me peer : Uid) (text : String) : World :=
  match world.screens (me, peer) with
  | none => world
  | some screen =>
      { world with
        screens := Function.update world.screens (me, peer)
          (some { screen with messageCont := text }) }

def send (world : World) (me peer : Uid) (isLoading isFile : Bool)
    (attachmentFiles : List String) (now : Int) : World :=
  match world.screens (me, peer) with
  | none => world
  | some screen =>
      let result := sendMessages (fun _ => false) isLoading isFile attachmentFiles now me peer
        screen world.backend
      { backend := result.backend
        screens := Function.update world.screens (me, peer) (some result.screen)
        unseen :=
          if result.ending = .completed then
            Function.update world.unseen (peer, me) (world.unseen (peer, me) + 1)
          else world.unseen }

def clear (world : World) (me peer : Uid) : World :=
  match world.screens (me, peer) with
  | none => world
  | some _ =>
      { world with
        backend :=
          { world.backend with messages := clearAllMessages world.backend.messages me peer } }

/-- Only a message of one's own is offered for deletion. -/
def delete (world : World) (me : Uid) (chatItemData : ChatMessageModel) : World :=
  match chatItemData.uid with
  | none => world
  | some documentId =>
      if chatItemData.senderId = me then
        { world with
          backend :=
            { world.backend with
              messages := deleteSingleMessage world.backend.messages me chatItemData.receiverId
                documentId } }
      else world

def next (world : World) : ChatEvent → World
  | .openChat me peer => world.openChat me peer
  | .closeChat me peer => world.closeChat me peer
  | .lifecycle me peer status => world.lifecycle me peer status
  | .presence me peer => world.presence me peer
  | .typeText me peer text => world.typeText me peer text
  | .send me peer isLoading isFile attachmentFiles now =>
      world.send me peer isLoading isFile attachmentFiles now
  | .clear me peer => world.clear me peer
  | .delete me chatItemData => world.delete me chatItemData

def machine : Machine World ChatEvent Empty :=
  { next := next
    outputs := fun _ _ => [] }

/-- Every badge between two different users shows what it stands for. -/
def Faithful (world : World) : Prop :=
  ∀ user peer, user ≠ peer → world.badge user peer = world.unseen (user, peer)

/-- The steps after which the badges are still right: a chat is marked read when it
is opened, a message starts out unread, and no document that a badge of the
other side counts is removed. -/
def KeepsBadges (world : World) : ChatEvent → Prop
  | .openChat me peer =>
      me ≠ peer → isReceiverInContacts world.backend.contacts me peer = false →
        world.badge me peer = 0
  | .send me peer isLoading isFile attachmentFiles _ =>
      me ≠ peer → ∀ screen, world.screens (me, peer) = some screen →
        refusesToSend isLoading isFile attachmentFiles screen.messageCont = false →
          screen.isReceiverOnline ≠ 1
  | .clear me peer =>
      me ≠ peer → (world.screens (me, peer)).isSome = true → world.badge peer me = 0
  | .delete me chatItemData =>
      me ≠ chatItemData.receiverId → chatItemData.senderId = me →
        ∀ document ∈ world.backend.messages.documents (me, chatItemData.receiverId),
          chatItemData.uid = some document.id →
            isUnreadFor chatItemData.receiverId document.data = false
  | _ => True

/-! ### One step -/

theorem badge_eq (world : World) (user peer : Uid) :
    world.badge user peer = world.backend.messages.count (peer, user) (isUnreadFor user) :=
  getUnReadCount_eq ..

theorem faithful_iff_of_only {before after : World} (user peer : Uid) (faithful : Faithful before)
    (others : ∀ user' peer', user' ≠ peer' → (user', peer') ≠ (user, peer) →
      after.badge user' peer' = before.badge user' peer' ∧
        after.unseen (user', peer') = before.unseen (user', peer')) :
    Faithful after ↔ (user ≠ peer → after.badge user peer = after.unseen (user, peer)) := by
  constructor
  · intro faithfulAfter different
    exact faithfulAfter user peer different
  · intro checked user' peer' different
    by_cases same : (user', peer') = (user, peer)
    · cases same
      exact checked different
    · obtain ⟨sameBadge, sameUnseen⟩ := others user' peer' different same
      rw [sameBadge, sameUnseen]
      exact faithful user' peer' different

theorem faithful_congr {before after : World}
    (sameMessages : after.backend.messages = before.backend.messages)
    (sameUnseen : after.unseen = before.unseen) : Faithful after ↔ Faithful before := by
  unfold Faithful badge
  rw [sameMessages, sameUnseen]

theorem swap_ne {user peer user' peer' : Uid} (other : (user', peer') ≠ (user, peer)) :
    (peer', user') ≠ (peer, user) := by
  intro same
  exact other (Prod.ext (congrArg Prod.snd same) (congrArg Prod.fst same))

theorem faithful_openChat_iff {world : World} (faithful : Faithful world) (me peer : Uid) :
    Faithful (world.openChat me peer) ↔ KeepsBadges world (.openChat me peer) := by
  change _ ↔ (me ≠ peer → isReceiverInContacts world.backend.contacts me peer = false →
    world.badge me peer = 0)
  unfold openChat
  dsimp only
  cases known : isReceiverInContacts world.backend.contacts me peer with
  | true =>
      rw [if_pos rfl, faithful_iff_of_only me peer faithful]
      · refine iff_of_true ?_ (fun _ unknown => absurd unknown Bool.true_eq_false.mp)
        intro _
        rw [badge_eq]
        dsimp only
        rw [Function.update_self]
        unfold setUnReadStatusToTrue
        dsimp only
        rw [if_pos rfl]
        apply Store.count_modify_eq_zero
        · intro document counted
          exact ((Bool.and_eq_true _ _).mp counted).1
        · intro _
          rfl
      · intro user' peer' _ other
        refine ⟨?_, Function.update_of_ne other ..⟩
        rw [badge_eq, badge_eq]
        unfold setUnReadStatusToTrue
        dsimp only
        rw [if_pos rfl]
        exact Store.count_congr (Store.documents_modify_of_ne (swap_ne other) ..) _
  | false =>
      rw [if_neg Bool.false_ne_true, faithful_iff_of_only me peer faithful]
      · dsimp only
        rw [Function.update_self]
        constructor
        · intro right different _
          exact right different
        · intro right different
          exact right different rfl
      · intro user' peer' _ other
        exact ⟨rfl, Function.update_of_ne other ..⟩

theorem sendMessages_completed {isLoading isFile : Bool} {attachmentFiles : List String}
    {now : Int} {me peer : Uid} {screen : ChatScreen} {backend : Backend}
    (accepted : refusesToSend isLoading isFile attachmentFiles screen.messageCont = false) :
    (sendMessages (fun _ => false) isLoading isFile attachmentFiles now me peer screen
        backend).ending = .completed ∧
      (sendMessages (fun _ => false) isLoading isFile attachmentFiles now me peer screen
          backend).backend.messages =
        (addMessage (fun _ => false) backend.messages
          (messageData me peer isFile attachmentFiles now screen)).1 := by
  have added : ∀ data, (addMessage (fun _ => false) backend.messages data).2 = true := by
    intro data
    unfold addMessage
    dsimp only
    split
    · rfl
    · rfl
  unfold sendMessages
  dsimp only
  rw [if_neg (Bool.eq_false_iff.mp accepted), if_neg Bool.false_ne_true, if_pos (added _)]
  exact ⟨rfl, rfl⟩

/-- A delivered message is counted in the sender's own copy of the chat, for the
receiver, and nowhere else that a badge looks. -/
theorem count_addMessage {messages : Messages} {data : ChatMessageModel} {user peer : Uid}
    (different : user ≠ peer) :
    (addMessage (fun _ => false) messages data).1.count (peer, user) (isUnreadFor user) =
      messages.count (peer, user) (isUnreadFor user) +
        if (user, peer) = (data.receiverId, data.senderId) ∧ data.isMessageRead = false then 1
        else 0 := by
  by_cases self : data.senderId = data.receiverId
  · have elsewhere : (peer, user) ≠ (data.senderId, data.receiverId) := by
      intro same
      have fromSender : peer = data.senderId := congrArg Prod.fst same
      have toReceiver : user = data.receiverId := congrArg Prod.snd same
      exact different (toReceiver.trans (self.symm.trans fromSender.symm))
    have notAddressed : ¬ ((user, peer) = (data.receiverId, data.senderId) ∧
        data.isMessageRead = false) :=
      fun both => elsewhere (Prod.ext (congrArg Prod.snd both.1) (congrArg Prod.fst both.1))
    rw [if_neg notAddressed]
    unfold addMessage
    dsimp only
    rw [if_pos self, if_neg Bool.false_ne_true, if_neg Bool.false_ne_true, count_updateUid]
    exact Store.count_congr (Store.documents_add_of_ne elsewhere ..) _
  · rw [addMessage_of_all_succeed self rfl rfl rfl rfl]
    unfold withBothUids withSenderUid withBothDocs
    rw [count_updateUid, count_updateUid]
    by_cases inReceivers : (peer, user) = receiverCollection data
    · -- the receiver's own copy is addressed to the receiver, not to the sender
      have uncounted : isUnreadFor user data = false := by
        have differs : data.receiverId ≠ user := by
          intro same
          apply self
          rw [same]
          exact (congrArg Prod.snd inReceivers).symm
        unfold isUnreadFor
        rw [beq_false_of_ne differs, Bool.and_false]
      have notAddressed : ¬ ((user, peer) = (data.receiverId, data.senderId) ∧
          data.isMessageRead = false) := by
        intro both
        have addressed : user = data.receiverId := congrArg Prod.fst both.1
        have sent : user = data.senderId := congrArg Prod.snd inReceivers
        exact self (sent.symm.trans addressed)
      rw [if_neg notAddressed, inReceivers, Store.count_add, uncounted,
        if_neg Bool.false_ne_true, ← inReceivers]
      apply Store.count_congr
      rw [inReceivers]
      exact Store.documents_add_of_ne (collections_ne self) ..
    · rw [Store.count_congr (Store.documents_add_of_ne inReceivers ..)]
      by_cases inSenders : (peer, user) = senderCollection data
      · have addressed : user = data.receiverId := congrArg Prod.snd inSenders
        have sent : peer = data.senderId := congrArg Prod.fst inSenders
        rw [inSenders, Store.count_add, addressed, sent]
        unfold isUnreadFor
        rw [beq_self_eq_true, Bool.and_true]
        cases data.isMessageRead with
        | true => rw [if_neg (by decide), if_neg (fun both => Bool.true_eq_false.mp both.2)]
        | false => rw [if_pos (by decide), if_pos ⟨rfl, rfl⟩]
      · have notAddressed : ¬ ((user, peer) = (data.receiverId, data.senderId) ∧
            data.isMessageRead = false) :=
          fun both => inSenders (Prod.ext (congrArg Prod.snd both.1) (congrArg Prod.fst both.1))
        rw [if_neg notAddressed]
        exact Store.count_congr (Store.documents_add_of_ne inSenders ..) _

theorem faithful_send_iff {world : World} (faithful : Faithful world) (me peer : Uid)
    (isLoading isFile : Bool) (attachmentFiles : List String) (now : Int) :
    Faithful (world.send me peer isLoading isFile attachmentFiles now) ↔
      KeepsBadges world (.send me peer isLoading isFile attachmentFiles now) := by
  change _ ↔ (me ≠ peer → ∀ screen, world.screens (me, peer) = some screen →
    refusesToSend isLoading isFile attachmentFiles screen.messageCont = false →
      screen.isReceiverOnline ≠ 1)
  unfold send
  cases shown : world.screens (me, peer) with
  | none =>
      refine iff_of_true faithful ?_
      intro _ screen impossible
      cases impossible
  | some screen =>
      dsimp only
      cases accepted : refusesToSend isLoading isFile attachmentFiles screen.messageCont with
      | true =>
          rw [sendMessages_of_refuses accepted]
          refine iff_of_true ((faithful_congr rfl rfl).mpr faithful) ?_
          intro _ screen' same
          cases same
          rw [accepted]
          intro impossible
          cases impossible
      | false =>
          obtain ⟨completed, left⟩ := @sendMessages_completed isLoading isFile attachmentFiles
            now me peer screen world.backend accepted
          rw [completed, if_pos rfl, faithful_iff_of_only peer me faithful]
          · rw [badge_eq]
            dsimp only
            rw [Function.update_self]
            rw [left]
            constructor
            · intro right different screen' same _ online
              cases same
              have counts := right different.symm
              rw [count_addMessage different.symm, ← badge_eq, faithful peer me different.symm,
                if_neg] at counts
              · omega
              · intro both
                have read : (screen.isReceiverOnline == 1) = false := both.2
                rw [online] at read
                cases read
            · intro right different
              have offline := right different.symm screen rfl accepted
              rw [count_addMessage different, ← badge_eq, faithful peer me different, if_pos]
              refine ⟨rfl, ?_⟩
              exact beq_false_of_ne offline
          · intro user' peer' different' other
            refine ⟨?_, Function.update_of_ne other ..⟩
            rw [badge_eq, badge_eq]
            change Store.count (sendMessages _ _ _ _ _ _ _ _ _).backend.messages _ _ = _
            rw [left, count_addMessage different', if_neg, Nat.add_zero]
            exact fun both => other both.1

theorem faithful_clear_iff {world : World} (faithful : Faithful world) (me peer : Uid) :
    Faithful (world.clear me peer) ↔ KeepsBadges world (.clear me peer) := by
  change _ ↔ (me ≠ peer → (world.screens (me, peer)).isSome = true → world.badge peer me = 0)
  unfold clear
  cases shown : world.screens (me, peer) with
  | none =>
      refine iff_of_true faithful ?_
      intro _ impossible
      cases impossible
  | some screen =>
      dsimp only
      rw [faithful_iff_of_only peer me faithful]
      · rw [badge_eq]
        unfold clearAllMessages
        rw [Store.count_discard_all]
        constructor
        · intro right different _
          rw [faithful peer me different.symm]
          exact (right different.symm).symm
        · intro right different
          rw [← faithful peer me different]
          exact (right different.symm rfl).symm
      · intro user' peer' _ other
        refine ⟨?_, rfl⟩
        rw [badge_eq, badge_eq]
        exact Store.count_congr (Store.documents_discard_of_ne (swap_ne other) ..) _

theorem faithful_delete_iff {world : World} (faithful : Faithful world) (me : Uid)
    (chatItemData : ChatMessageModel) :
    Faithful (world.delete me chatItemData) ↔ KeepsBadges world (.delete me chatItemData) := by
  change _ ↔ (me ≠ chatItemData.receiverId → chatItemData.senderId = me →
    ∀ document ∈ world.backend.messages.documents (me, chatItemData.receiverId),
      chatItemData.uid = some document.id →
        isUnreadFor chatItemData.receiverId document.data = false)
  unfold delete
  cases written : chatItemData.uid with
  | none =>
      refine iff_of_true faithful ?_
      intro _ _ document _ impossible
      cases impossible
  | some documentId =>
      dsimp only
      by_cases own : chatItemData.senderId = me
      · rw [if_pos own,
          faithful_iff_of_only chatItemData.receiverId me faithful]
        · have removed := @Store.count_discard_eq_iff _ _ _ world.backend.messages
            (me, chatItemData.receiverId) (fun document => document.id == documentId)
            (isUnreadFor chatItemData.receiverId)
          rw [badge_eq]
          unfold deleteSingleMessage
          constructor
          · intro right different _ document member named
            have kept := right different.symm
            rw [← faithful _ _ different.symm, badge_eq] at kept
            apply removed.mp kept document member
            rw [beq_iff_eq]
            exact (Option.some.inj named).symm
          · intro right different
            rw [← faithful _ _ different, badge_eq]
            apply removed.mpr
            intro document member named
            apply right different.symm own document member
            rw [beq_iff_eq] at named
            rw [named]
        · intro user' peer' _ other
          refine ⟨?_, rfl⟩
          rw [badge_eq, badge_eq]
          exact Store.count_congr (Store.documents_discard_of_ne (swap_ne other) ..) _
      · rw [if_neg own]
        refine iff_of_true faithful ?_
        intro _ impossible
        exact absurd impossible own

/-- From a state with right badges, a step leads to one exactly when it meets the
condition. -/
theorem faithful_next_iff (world : World) (event : ChatEvent) (faithful : Faithful world) :
    Faithful (world.next event) ↔ KeepsBadges world event := by
  cases event with
  | openChat me peer => exact faithful_openChat_iff faithful me peer
  | send me peer isLoading isFile attachmentFiles now =>
      exact faithful_send_iff faithful me peer isLoading isFile attachmentFiles now
  | clear me peer => exact faithful_clear_iff faithful me peer
  | delete me chatItemData => exact faithful_delete_iff faithful me chatItemData
  | closeChat me peer =>
      refine iff_of_true ?_ trivial
      change Faithful (world.closeChat me peer)
      unfold closeChat
      split
      · exact faithful
      · exact (faithful_congr rfl rfl).mpr faithful
  | lifecycle me peer status =>
      refine iff_of_true ?_ trivial
      change Faithful (world.lifecycle me peer status)
      unfold lifecycle
      split
      · exact faithful
      · exact (faithful_congr rfl rfl).mpr faithful
  | presence me peer =>
      refine iff_of_true ?_ trivial
      change Faithful (world.presence me peer)
      unfold presence
      split
      · exact faithful
      · split
        · exact (faithful_congr rfl rfl).mpr faithful
        · exact faithful
  | typeText me peer text =>
      refine iff_of_true ?_ trivial
      change Faithful (world.typeText me peer text)
      unfold typeText
      split
      · exact faithful
      · exact (faithful_congr rfl rfl).mpr faithful

theorem faithful_initial (contacts : Contacts) : Faithful (initial contacts) := by
  intro user peer _
  rw [badge_eq]
  rfl

def otherSide : ChatEvent → Option Path
  | .openChat me peer => some (peer, me)
  | .clear me peer => some (peer, me)
  | .delete me chatItemData => some (chatItemData.receiverId, me)
  | _ => none

theorem unseen_next_otherSide (world : World) {event : ChatEvent} {user me : Uid}
    (side : otherSide event = some (user, me)) (different : user ≠ me) :
    (world.next event).unseen (user, me) = world.unseen (user, me) := by
  cases event with
  | openChat me' peer =>
      obtain ⟨rfl, rfl⟩ : peer = user ∧ me' = me :=
        ⟨congrArg Prod.fst (Option.some.inj side), congrArg Prod.snd (Option.some.inj side)⟩
      have elsewhere : (peer, me') ≠ (me', peer) := fun same => different (congrArg Prod.fst same)
      change (world.openChat me' peer).unseen _ = _
      unfold openChat
      dsimp only
      split
      · exact Function.update_of_ne elsewhere ..
      · exact Function.update_of_ne elsewhere ..
  | clear me' peer =>
      change (world.clear me' peer).unseen _ = _
      unfold clear
      split
      · rfl
      · rfl
  | delete me' chatItemData =>
      change (world.delete me' chatItemData).unseen _ = _
      unfold delete
      split
      · rfl
      · split
        · rfl
        · rfl
  | _ => cases side

def LeavesOtherSide (world : World) (event : ChatEvent) : Prop :=
  ∀ user me, otherSide event = some (user, me) → user ≠ me →
    (world.next event).badge user me = world.badge user me

theorem leavesOtherSide_of_keepsBadges {world : World} {event : ChatEvent}
    (faithful : Faithful world) (keeps : KeepsBadges world event) :
    LeavesOtherSide world event := by
  intro user me side different
  have after := (faithful_next_iff world event faithful).mpr keeps
  rw [after user me different, unseen_next_otherSide world side different,
    faithful user me different]

end World

/-! ### Every history -/

open World

/-- Over every history, the badges are right in every state reached exactly when
each step meets the condition, and then no opening, clear or deletion touches
the badge of the other side. -/
theorem unReadCount_run_iff (contacts : Contacts) (events : List ChatEvent) :
    (machine.Every (fun world event => Faithful (machine.next world event)) (initial contacts)
        events ↔
      machine.Every KeepsBadges (initial contacts) events) ∧
      (machine.Every KeepsBadges (initial contacts) events →
        machine.Every LeavesOtherSide (initial contacts) events) := by
  constructor
  · exact machine.every_next_iff Faithful faithful_next_iff (faithful_initial contacts)
  · intro meets
    apply machine.every_of_invariant Faithful _ (faithful_initial contacts) meets
    intro world event faithful keeps
    exact ⟨(faithful_next_iff world event faithful).mpr keeps,
      leavesOtherSide_of_keepsBadges faithful keeps⟩

def sendAndAnswer : List ChatEvent :=
  [.openChat "kari" "ola", .typeText "kari" "ola" "hei",
    .send "kari" "ola" false false [] 7, .closeChat "kari" "ola",
    .openChat "ola" "kari", .typeText "ola" "kari" "hallo",
    .send "ola" "kari" false false [] 8, .openChat "kari" "ola"]

theorem unReadCount_run_iff_example :
    machine.Every LeavesOtherSide (initial fun _ => none) sendAndAnswer := by
  apply (unReadCount_run_iff (fun _ => none) sendAndAnswer).2
  refine ⟨?_, trivial, ?_, trivial, ?_, trivial, ?_, ?_, trivial⟩
  · intro _ _
    rfl
  · intro _ screen found _
    have offline := congrArg (Option.map ChatScreen.isReceiverOnline) found
    change some 0 = some screen.isReceiverOnline at offline
    rw [← Option.some.inj offline]
    decide
  · intro _ unknown
    revert unknown
    decide +kernel
  · intro _ screen found _
    have offline := congrArg (Option.map ChatScreen.isReceiverOnline) found
    change some 0 = some screen.isReceiverOnline at offline
    rw [← Option.some.inj offline]
    decide
  · intro _ unknown
    revert unknown
    decide +kernel

def sendThenClear : List ChatEvent :=
  [.openChat "kari" "ola", .typeText "kari" "ola" "hei",
    .send "kari" "ola" false false [] 7, .clear "kari" "ola"]

theorem unReadCount_after_peer_clears :
    ¬ ∀ (contacts : Contacts) (events : List ChatEvent),
      machine.Every (fun world event => Faithful (machine.next world event)) (initial contacts)
        events := by
  intro claimed
  have right := claimed (fun _ => none) sendThenClear
  have counts := right.2.2.2.1 "ola" "kari" (by decide)
  revert counts
  decide +kernel

end FiksOpp.Chat
