/-
`ChatServices` and the contact part of `UserService` on the document database.

A message between two users is kept twice: the collection `messages/{a}/{b}`
is a's copy of the chat with b.  A contact document `users/{a}/contact/{b}` is
written field by field, and a field that was never written is `none`.
-/

import FiksOpp.Constants
import FiksOpp.Foundations.DocumentStore

namespace FiksOpp.Chat

open DocumentStore

abbrev Uid := String

inductive MessageType where
  | text
  | files
  deriving DecidableEq, Repr

/-- The identifier field is written after the document exists. -/
structure ChatMessageModel where
  uid : Option Nat := none
  senderId : Uid
  receiverId : Uid
  message : String
  isMessageRead : Bool
  createdAt : Int
  messageType : MessageType
  attachmentfiles : List String
  deriving DecidableEq, Repr

structure ContactModel where
  uid : Option Uid := none
  addedOn : Option Int := none
  lastMessageTime : Option Int := none
  isOnline : Option Int := none
  deriving DecidableEq, Repr

/-- The owner of a collection or contact document, and the user it is about. -/
abbrev Path := Uid × Uid

abbrev Messages := Store Path ChatMessageModel

abbrev Contacts := Path → Option ContactModel

def isUnreadFor (receiverId : Uid) (message : ChatMessageModel) : Bool :=
  !message.isMessageRead && message.receiverId == receiverId

def getUnReadCount (uid : Uid) (messages : Messages) (senderId receiverId : Uid) : Nat :=
  if senderId = uid then messages.count (receiverId, senderId) (isUnreadFor senderId)
  else messages.count (senderId, receiverId) (isUnreadFor senderId)

def setUnReadStatusToTrue (uid : Uid) (messages : Messages) (senderId receiverId : Uid) :
    Messages :=
  let path := if senderId = uid then (receiverId, senderId) else (senderId, receiverId)
  messages.modify path (fun document => !document.data.isMessageRead)
    (fun message => { message with isMessageRead := true })

def deleteSingleMessage (messages : Messages) (senderId receiverId : Uid) (documentId : Nat) :
    Messages :=
  messages.discard (senderId, receiverId) (fun document => document.id == documentId)

def clearAllMessages (messages : Messages) (senderId receiverId : Uid) : Messages :=
  messages.discard (senderId, receiverId) (fun _ => true)

def updateUid (messages : Messages) (path : Path) (documentId : Nat) : Messages :=
  messages.modify path (fun document => document.id == documentId)
    (fun message => { message with uid := some documentId })

inductive RemoteCall where
  | isReceiverInContacts
  | getReceiverContact
  | setReceiverContact
  | getSenderContact
  | setSenderContact
  | addSenderDoc
  | addReceiverDoc
  | updateSenderDoc
  | updateReceiverDoc
  | saveReceiverToSender
  | saveSenderToReceiver
  deriving DecidableEq, Repr

/-- The second component says whether the call returned; a call that fails stops
the sequence and undoes nothing. -/
def addMessage (fails : RemoteCall → Bool) (messages : Messages) (data : ChatMessageModel) :
    Messages × Bool :=
  let senderCollection : Path := (data.senderId, data.receiverId)
  let receiverCollection : Path := (data.receiverId, data.senderId)
  let senderDoc := messages.next
  let receiverDoc := messages.next + 1
  if data.senderId = data.receiverId then
    if fails .addSenderDoc then (messages, false)
    else if fails .updateSenderDoc then (messages.add senderCollection data, false)
    else (updateUid (messages.add senderCollection data) senderCollection senderDoc, true)
  else if fails .addSenderDoc then (messages, false)
  else if fails .addReceiverDoc then (messages.add senderCollection data, false)
  else
    let added := (messages.add senderCollection data).add receiverCollection data
    if fails .updateSenderDoc then (added, false)
    else if fails .updateReceiverDoc then (updateUid added senderCollection senderDoc, false)
    else (updateUid (updateUid added senderCollection senderDoc) receiverCollection receiverDoc,
      true)

def getContactsDocument (userId contactId : Uid) : Path :=
  (userId, contactId)

def isReceiverInContacts (contacts : Contacts) (senderUserId receiverUserId : Uid) : Bool :=
  (contacts (senderUserId, receiverUserId)).isSome

def addToContactsDocument (contacts : Contacts) (userId contactId : Uid) (currentTime : Int) :
    Contacts :=
  match contacts (getContactsDocument userId contactId) with
  | some _ => contacts
  | none =>
      Function.update contacts (getContactsDocument userId contactId)
        (some { uid := some contactId, addedOn := some currentTime })

/-- Both documents are read and written one after the other; a failure stops there. -/
def addToContacts (fails : RemoteCall → Bool) (contacts : Contacts) (senderId receiverId : Uid)
    (currentTime : Int) : Contacts × Bool :=
  if fails .getReceiverContact then (contacts, false)
  else if (contacts (senderId, receiverId)).isNone && fails .setReceiverContact then
    (contacts, false)
  else
    let added := addToContactsDocument contacts senderId receiverId currentTime
    if fails .getSenderContact then (added, false)
    else if (added (receiverId, senderId)).isNone && fails .setSenderContact then (added, false)
    else (addToContactsDocument added receiverId senderId currentTime, true)

def setOnlineCount (contacts : Contacts) (receiverId senderId : Uid) (status : Int) : Contacts :=
  match contacts (getContactsDocument senderId receiverId) with
  | some contact =>
      Function.update contacts (getContactsDocument senderId receiverId)
        (some { contact with isOnline := some status })
  -- a missing document is created with this one field
  | none =>
      Function.update contacts (getContactsDocument senderId receiverId)
        (some { isOnline := some status })

def isReceiverOnline (contacts : Contacts) (receiverUserId senderId : Uid) : Int :=
  match contacts (senderId, receiverUserId) with
  | some contact => contact.isOnline.getD 0
  | none => 0

def saveToContacts (contacts : Contacts) (senderId receiverId : Uid) (now : Int) : Contacts :=
  match contacts (senderId, receiverId) with
  | some contact =>
      Function.update contacts (senderId, receiverId)
        (some { contact with lastMessageTime := some now })
  | none =>
      Function.update contacts (senderId, receiverId)
        (some { uid := some receiverId, addedOn := some now, lastMessageTime := some now })

/-! ### What the message operations leave alone -/

theorem documents_updateUid_of_ne {path path' : Path} (other : path' ≠ path) (messages : Messages)
    (documentId : Nat) :
    (updateUid messages path documentId).documents path' = messages.documents path' :=
  Store.documents_modify_of_ne other ..

theorem documents_updateUid_add (messages : Messages) (path : Path) (data : ChatMessageModel) :
    (updateUid (messages.add path data) path messages.next).documents path =
      messages.documents path ++
        [{ id := messages.next, data := { data with uid := some messages.next } }] := by
  unfold updateUid
  rw [Store.documents_modify, Store.documents_add, List.map_append,
    Store.map_id_of_issued (Nat.le_refl messages.next), List.map_singleton, beq_self_eq_true,
    if_pos rfl]

/-- The identifier of a document was never written, so updating it does not change
who the message is for or whether it was read. -/
theorem count_updateUid (messages : Messages) (path path' : Path) (documentId : Nat)
    (receiverId : Uid) :
    (updateUid messages path documentId).count path' (isUnreadFor receiverId) =
      messages.count path' (isUnreadFor receiverId) := by
  by_cases same : path' = path
  · subst same
    unfold updateUid Store.count
    rw [Store.documents_modify, List.countP_map]
    apply List.countP_congr
    intro document _
    change isUnreadFor receiverId (Document.data (if _ then _ else _)) = true ↔ _
    split <;> rfl
  · exact Store.count_congr (documents_updateUid_of_ne same messages documentId) _

theorem getUnReadCount_eq (messages : Messages) (uid peer : Uid) :
    getUnReadCount uid messages uid peer = messages.count (peer, uid) (isUnreadFor uid) := by
  unfold getUnReadCount
  rw [if_pos rfl]

end FiksOpp.Chat
