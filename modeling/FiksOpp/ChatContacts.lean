/-
The contact documents under every interleaving of chat openings, closings and
sends.

Each function is followed call by call: between two calls of one function any
other may run.  What a function does after its next call depends only on
whether a document was there, so a running function is a task that names its
next call.
-/

import FiksOpp.ChatServices
import FiksOpp.Foundations.EventRun

namespace FiksOpp.Chat

open EventRun

/-- A running function, by the call it makes next. -/
inductive ContactTask where
  | initLookup (me peer : Uid)
  | setUnReadStatusToTrue (me peer : Uid)
  | setOnlineCountUpdate (senderId receiverId : Uid) (status : Int)
  | setOnlineCountSet (senderId receiverId : Uid) (status : Int)
  | sendLookup (me peer : Uid)
  | addReceiverGet (me peer : Uid) (currentTime : Int)
  | addReceiverSet (me peer : Uid) (currentTime : Int)
  | addSenderGet (me peer : Uid) (currentTime : Int)
  | addSenderSet (me peer : Uid) (currentTime : Int)
  | addMessage (me peer : Uid)
  | saveGet (senderId receiverId : Uid)
  | saveUpdate (senderId receiverId : Uid)
  | saveSet (senderId receiverId : Uid)
  deriving DecidableEq, Repr

def newContact (contactId : Uid) (currentTime : Int) : ContactModel :=
  { uid := some contactId, addedOn := some currentTime }

namespace ContactTask

/-- The call returns: what it does to the documents, and the calls it leads to. -/
def succeed (contacts : Contacts) (now : Int) : ContactTask → Contacts × List ContactTask
  | .initLookup me peer =>
      if isReceiverInContacts contacts me peer then (contacts, [.setUnReadStatusToTrue me peer])
      else (contacts, [])
  | .setUnReadStatusToTrue me peer => (contacts, [.setOnlineCountUpdate peer me 1])
  | .setOnlineCountUpdate senderId receiverId status =>
      match contacts (senderId, receiverId) with
      | some contact =>
          (Function.update contacts (senderId, receiverId)
            (some { contact with isOnline := some status }), [])
      | none => (contacts, [.setOnlineCountSet senderId receiverId status])
  | .setOnlineCountSet senderId receiverId status =>
      match contacts (senderId, receiverId) with
      | some contact =>
          (Function.update contacts (senderId, receiverId)
            (some { contact with isOnline := some status }), [])
      | none =>
          (Function.update contacts (senderId, receiverId)
            (some { isOnline := some status }), [])
  | .sendLookup me peer =>
      if isReceiverInContacts contacts me peer then (contacts, [.addMessage me peer])
      else (contacts, [.addReceiverGet me peer now])
  | .addReceiverGet me peer currentTime =>
      match contacts (me, peer) with
      | some _ => (contacts, [.addSenderGet me peer currentTime])
      | none => (contacts, [.addReceiverSet me peer currentTime])
  | .addReceiverSet me peer currentTime =>
      (Function.update contacts (me, peer) (some (newContact peer currentTime)),
        [.addSenderGet me peer currentTime])
  | .addSenderGet me peer currentTime =>
      match contacts (peer, me) with
      | some _ => (contacts, [.addMessage me peer])
      | none => (contacts, [.addSenderSet me peer currentTime])
  | .addSenderSet me peer currentTime =>
      (Function.update contacts (peer, me) (some (newContact me currentTime)),
        [.addMessage me peer])
  -- both saves are started and neither is awaited
  | .addMessage me peer => (contacts, [.saveGet me peer, .saveGet peer me])
  | .saveGet senderId receiverId =>
      match contacts (senderId, receiverId) with
      | some _ => (contacts, [.saveUpdate senderId receiverId])
      | none => (contacts, [.saveSet senderId receiverId])
  | .saveUpdate senderId receiverId =>
      match contacts (senderId, receiverId) with
      | some contact =>
          (Function.update contacts (senderId, receiverId)
            (some { contact with lastMessageTime := some now }), [])
      | none => (contacts, [])
  | .saveSet senderId receiverId =>
      let merged : ContactModel := (contacts (senderId, receiverId)).getD {}
      (Function.update contacts (senderId, receiverId)
        (some { merged with
          uid := some receiverId
          lastMessageTime := some now
          addedOn := some now }), [])

/-- The call throws: an error in `addToContacts` is caught and the message is sent
all the same, marking the chat read is given up, anything else ends there. -/
def fail : ContactTask → List ContactTask
  | .addReceiverGet me peer _ => [.addMessage me peer]
  | .addReceiverSet me peer _ => [.addMessage me peer]
  | .addSenderGet me peer _ => [.addMessage me peer]
  | .addSenderSet me peer _ => [.addMessage me peer]
  | .setUnReadStatusToTrue me peer => [.setOnlineCountUpdate peer me 1]
  | _ => []

end ContactTask

structure ContactState where
  contacts : Contacts
  tasks : List ContactTask

inductive ContactEvent where
  | openChat (me peer : Uid)
  | closeChat (me peer : Uid)
  | lifecycle (me peer : Uid) (status : Int)
  | sendMessages (me peer : Uid)
  /-- The call of the task at this position is answered. -/
  | answer (index : Nat) (succeeds : Bool) (now : Int)
  deriving DecidableEq, Repr

namespace ContactState

def start (state : ContactState) (task : ContactTask) : ContactState :=
  { state with tasks := state.tasks ++ [task] }

def answer (state : ContactState) (index : Nat) (succeeds : Bool) (now : Int) : ContactState :=
  match state.tasks[index]? with
  | none => state
  | some task =>
      let others := state.tasks.eraseIdx index
      if succeeds then
        let result := task.succeed state.contacts now
        { contacts := result.1, tasks := others ++ result.2 }
      else { state with tasks := others ++ task.fail }

def next (state : ContactState) : ContactEvent → ContactState
  | .openChat me peer => state.start (.initLookup me peer)
  | .closeChat me peer => state.start (.setOnlineCountUpdate peer me 0)
  | .lifecycle me peer status => state.start (.setOnlineCountUpdate peer me status)
  | .sendMessages me peer => state.start (.sendLookup me peer)
  | .answer index succeeds now => state.answer index succeeds now

def machine : Machine ContactState ContactEvent Empty :=
  { next := next
    outputs := fun _ _ => [] }

end ContactState

/-- Answer every call of the first task before any other runs. -/
def settle (now : Int) : Nat → Contacts → List ContactTask → Contacts
  | 0, contacts, _ => contacts
  | _ + 1, contacts, [] => contacts
  | fuel + 1, contacts, task :: rest =>
      let result := task.succeed contacts now
      settle now fuel result.1 (result.2 ++ rest)

theorem settle_single (now : Int) (fuel : Nat) (contacts : Contacts) (task : ContactTask) :
    settle now (fuel + 1) contacts [task] =
      settle now fuel (task.succeed contacts now).1 (task.succeed contacts now).2 := by
  change settle now fuel (task.succeed contacts now).1 ((task.succeed contacts now).2 ++ []) = _
  rw [List.append_nil]

theorem settle_last (now : Int) (contacts : Contacts) (task : ContactTask) :
    settle now 1 contacts [task] = (task.succeed contacts now).1 := rfl

/-- Undisturbed, the two calls of `setOnlineCount` do what the function does at once. -/
theorem settle_setOnlineCount (now : Int) (contacts : Contacts) (senderId receiverId : Uid)
    (status : Int) :
    settle now 2 contacts [.setOnlineCountUpdate senderId receiverId status] =
      setOnlineCount contacts receiverId senderId status := by
  rw [settle_single]
  unfold setOnlineCount getContactsDocument
  cases found : contacts (senderId, receiverId) with
  | some contact =>
      unfold ContactTask.succeed
      dsimp only
      rw [found]
      rfl
  | none =>
      have missing : (ContactTask.setOnlineCountUpdate senderId receiverId status).succeed
          contacts now = (contacts, [.setOnlineCountSet senderId receiverId status]) := by
        unfold ContactTask.succeed
        dsimp only
        rw [found]
      rw [missing, settle_last]
      unfold ContactTask.succeed
      dsimp only
      rw [found]

theorem settle_saveToContacts (now : Int) (contacts : Contacts) (senderId receiverId : Uid) :
    settle now 2 contacts [.saveGet senderId receiverId] =
      saveToContacts contacts senderId receiverId now := by
  rw [settle_single]
  unfold saveToContacts
  cases found : contacts (senderId, receiverId) with
  | some contact =>
      have present : (ContactTask.saveGet senderId receiverId).succeed contacts now =
          (contacts, [.saveUpdate senderId receiverId]) := by
        unfold ContactTask.succeed
        dsimp only
        rw [found]
      rw [present, settle_last]
      unfold ContactTask.succeed
      dsimp only
      rw [found]
  | none =>
      have missing : (ContactTask.saveGet senderId receiverId).succeed contacts now =
          (contacts, [.saveSet senderId receiverId]) := by
        unfold ContactTask.succeed
        dsimp only
        rw [found]
      rw [missing, settle_last]
      unfold ContactTask.succeed
      dsimp only
      rw [found]
      rfl

/-! ### Listed contacts -/

/-- `fetchChatListQuery` orders by `lastMessageTime`, so it lists the documents that
carry the field. -/
def isListed (contact : ContactModel) : Bool :=
  contact.lastMessageTime.isSome

/-- Every document the chat list shows names the user it is about. -/
def Resolvable (contacts : Contacts) : Prop :=
  ∀ userId contactId contact, contacts (userId, contactId) = some contact →
    isListed contact = true → contact.uid = some contactId

theorem resolvable_update_iff {contacts : Contacts} (resolvable : Resolvable contacts)
    (userId contactId : Uid) (contact : ContactModel) :
    Resolvable (Function.update contacts (userId, contactId) (some contact)) ↔
      (isListed contact = true → contact.uid = some contactId) := by
  constructor
  · intro after listed
    exact after userId contactId contact (Function.update_self ..) listed
  · intro named userId' contactId' contact' found listed
    by_cases same : (userId', contactId') = (userId, contactId)
    · rw [same, Function.update_self] at found
      cases found
      have sameId : contactId' = contactId := congrArg Prod.snd same
      rw [sameId]
      exact named listed
    · rw [Function.update_of_ne same] at found
      exact resolvable userId' contactId' contact' found listed

/-- The one write that can spoil the list stamps a document that was there. -/
def StampsNamed (state : ContactState) : ContactEvent → Prop
  | .answer index succeeds _ =>
      succeeds = true → ∀ senderId receiverId contact,
        state.tasks[index]? = some (.saveUpdate senderId receiverId) →
          state.contacts (senderId, receiverId) = some contact →
            contact.uid = some receiverId
  | _ => True

namespace ContactTask

theorem resolvable_setOnline {contacts : Contacts} (resolvable : Resolvable contacts)
    {senderId receiverId : Uid} {contact : ContactModel}
    (found : contacts (senderId, receiverId) = some contact) (status : Int) :
    Resolvable (Function.update contacts (senderId, receiverId)
      (some { contact with isOnline := some status })) := by
  apply (resolvable_update_iff resolvable ..).mpr
  intro listed
  exact resolvable senderId receiverId contact found listed

/-- Every call but the stamping of an existing document keeps the list resolvable. -/
theorem resolvable_succeed {contacts : Contacts} (resolvable : Resolvable contacts) (now : Int)
    {task : ContactTask}
    (noStamp : ∀ senderId receiverId, task ≠ .saveUpdate senderId receiverId) :
    Resolvable (task.succeed contacts now).1 := by
  cases task with
  | initLookup me peer =>
      unfold succeed
      dsimp only
      split
      · exact resolvable
      · exact resolvable
  | setUnReadStatusToTrue me peer => exact resolvable
  | setOnlineCountUpdate senderId receiverId status =>
      unfold succeed
      dsimp only
      split
      · rename_i contact found
        exact resolvable_setOnline resolvable found status
      · exact resolvable
  | setOnlineCountSet senderId receiverId status =>
      unfold succeed
      dsimp only
      split
      · rename_i contact found
        exact resolvable_setOnline resolvable found status
      · apply (resolvable_update_iff resolvable ..).mpr
        intro impossible
        cases impossible
  | sendLookup me peer =>
      unfold succeed
      dsimp only
      split
      · exact resolvable
      · exact resolvable
  | addReceiverGet me peer currentTime =>
      unfold succeed
      dsimp only
      split
      · exact resolvable
      · exact resolvable
  | addReceiverSet me peer currentTime =>
      apply (resolvable_update_iff resolvable ..).mpr
      intro _
      rfl
  | addSenderGet me peer currentTime =>
      unfold succeed
      dsimp only
      split
      · exact resolvable
      · exact resolvable
  | addSenderSet me peer currentTime =>
      apply (resolvable_update_iff resolvable ..).mpr
      intro _
      rfl
  | addMessage me peer => exact resolvable
  | saveGet senderId receiverId =>
      unfold succeed
      dsimp only
      split
      · exact resolvable
      · exact resolvable
  | saveUpdate senderId receiverId => exact absurd rfl (noStamp senderId receiverId)
  | saveSet senderId receiverId =>
      apply (resolvable_update_iff resolvable ..).mpr
      intro _
      rfl

theorem resolvable_saveUpdate_iff {contacts : Contacts} (resolvable : Resolvable contacts)
    (now : Int) (senderId receiverId : Uid) :
    Resolvable ((ContactTask.saveUpdate senderId receiverId).succeed contacts now).1 ↔
      ∀ contact, contacts (senderId, receiverId) = some contact →
        contact.uid = some receiverId := by
  unfold succeed
  dsimp only
  cases found : contacts (senderId, receiverId) with
  | none =>
      refine iff_of_true resolvable ?_
      intro contact impossible
      cases impossible
  | some contact =>
      dsimp only
      rw [resolvable_update_iff resolvable]
      constructor
      · intro named contact' same
        cases same
        exact named rfl
      · intro named _
        exact named contact rfl

end ContactTask

theorem resolvable_next_iff (state : ContactState) (event : ContactEvent)
    (resolvable : Resolvable state.contacts) :
    Resolvable (state.next event).contacts ↔ StampsNamed state event := by
  cases event with
  | answer index succeeds now =>
      change Resolvable (state.answer index succeeds now).contacts ↔
        (succeeds = true → ∀ senderId receiverId contact,
          state.tasks[index]? = some (.saveUpdate senderId receiverId) →
            state.contacts (senderId, receiverId) = some contact → contact.uid = some receiverId)
      unfold ContactState.answer
      cases running : state.tasks[index]? with
      | none =>
          refine iff_of_true resolvable ?_
          intro _ _ _ _ impossible
          cases impossible
      | some task =>
          cases succeeds with
          | false =>
              refine iff_of_true resolvable ?_
              intro impossible
              cases impossible
          | true =>
              by_cases stamp : ∃ senderId receiverId, task = .saveUpdate senderId receiverId
              · obtain ⟨senderId, receiverId, rfl⟩ := stamp
                refine (ContactTask.resolvable_saveUpdate_iff resolvable now senderId
                  receiverId).trans ?_
                constructor
                · intro named _ senderId' receiverId' contact same found
                  cases same
                  exact named contact found
                · intro named contact found
                  exact named rfl senderId receiverId contact rfl found
              · have noStamp : ∀ senderId receiverId, task ≠ .saveUpdate senderId receiverId :=
                  fun senderId receiverId same => stamp ⟨senderId, receiverId, same⟩
                refine iff_of_true (ContactTask.resolvable_succeed resolvable now noStamp) ?_
                intro _ senderId receiverId _ same
                exact absurd (Option.some.inj same) (noStamp senderId receiverId)
  | openChat me peer => exact iff_of_true resolvable trivial
  | closeChat me peer => exact iff_of_true resolvable trivial
  | lifecycle me peer status => exact iff_of_true resolvable trivial
  | sendMessages me peer => exact iff_of_true resolvable trivial

def noContacts : ContactState :=
  { contacts := fun _ => none, tasks := [] }

theorem resolvable_noContacts : Resolvable noContacts.contacts := by
  intro userId contactId contact found
  cases found

/-- Over every interleaving, each listed document names its user in every state
reached exactly when no send stamps a document without the name. -/
theorem contacts_run_iff (events : List ContactEvent) :
    ContactState.machine.Every
        (fun state event => Resolvable (ContactState.machine.next state event).contacts)
        noContacts events ↔
      ContactState.machine.Every StampsNamed noContacts events :=
  ContactState.machine.every_next_iff (fun state => Resolvable state.contacts)
    resolvable_next_iff resolvable_noContacts

def closeThenWrite : List ContactEvent :=
  [.openChat "ola" "kari", .answer 0 true 1, .closeChat "ola" "kari", .answer 0 true 2,
    .answer 0 true 3, .sendMessages "kari" "ola", .answer 0 true 4, .answer 0 true 5,
    .answer 0 true 6, .answer 1 true 7]

theorem contacts_after_close_without_contact :
    ¬ ∀ events : List ContactEvent,
      ContactState.machine.Every
        (fun state event => Resolvable (ContactState.machine.next state event).contacts)
        noContacts events := by
  intro claimed
  have all := claimed closeThenWrite
  have last := all.2.2.2.2.2.2.2.2.2.1 "kari" "ola"
    { isOnline := some 0, lastMessageTime := some 7 } (by decide +kernel) rfl
  cases last

end FiksOpp.Chat
