/-
`sendMessages` of the chat screen: the typed text is taken out of its field, the
contact documents are looked up and written, and two message documents are
added and then given their identifiers.  Any remote call may fail.
-/

import FiksOpp.ChatServices

namespace FiksOpp.Chat

open DocumentStore

structure ChatScreen where
  messageCont : String := ""
  isReceiverOnline : Int := 0
  /-- `_streamSubscription` is set. -/
  listening : Bool := false
  deriving DecidableEq, Repr

structure Backend where
  messages : Messages
  contacts : Contacts

inductive Ending where
  | aborted
  | completed
  | failedToSendMessage
  | threw
  deriving DecidableEq, Repr

structure SendResult where
  screen : ChatScreen
  backend : Backend
  ending : Ending

/-- The early returns: a running load, no text, or a file message without files. -/
def refusesToSend (isLoading isFile : Bool) (attachmentFiles : List String) (text : String) :
    Bool :=
  isLoading || ((trim text).isEmpty && !isFile) || (isFile && attachmentFiles.isEmpty)

def messageData (uid receiver : Uid) (isFile : Bool) (attachmentFiles : List String) (now : Int)
    (screen : ChatScreen) : ChatMessageModel :=
  { receiverId := receiver
    senderId := uid
    message := screen.messageCont
    isMessageRead := screen.isReceiverOnline == 1
    createdAt := now
    messageType := if isFile then .files else .text
    attachmentfiles := attachmentFiles }

/-- The two `saveToContacts` calls are not awaited and their errors are only logged. -/
def saveBothContacts (fails : RemoteCall → Bool) (contacts : Contacts) (uid receiver : Uid)
    (now : Int) : Contacts :=
  let saved := if fails .saveReceiverToSender then contacts
    else saveToContacts contacts uid receiver now
  if fails .saveSenderToReceiver then saved else saveToContacts saved receiver uid now

def sendMessages (fails : RemoteCall → Bool) (isLoading isFile : Bool)
    (attachmentFiles : List String) (now : Int) (uid receiver : Uid) (screen : ChatScreen)
    (backend : Backend) : SendResult :=
  if refusesToSend isLoading isFile attachmentFiles screen.messageCont then
    { screen := screen, backend := backend, ending := .aborted }
  else
    let data := messageData uid receiver isFile attachmentFiles now screen
    let cleared := { screen with messageCont := "" }
    -- this read is awaited outside the `try`
    if fails .isReceiverInContacts then
      { screen := cleared, backend := backend, ending := .threw }
    else
      let known := isReceiverInContacts backend.contacts uid receiver
      let added := if known then (backend.contacts, false)
        else addToContacts fails backend.contacts uid receiver now
      let listening := screen.listening || added.2
      let outcome := addMessage fails backend.messages data
      if outcome.2 then
        { screen := { cleared with isReceiverOnline := 0, listening := listening }
          backend :=
            { messages := outcome.1
              contacts := saveBothContacts fails added.1 uid receiver now }
          ending := .completed }
      else
        { screen := { cleared with listening := listening }
          backend := { messages := outcome.1, contacts := added.1 }
          ending := .failedToSendMessage }

/-- The collection gained the message, carrying the identifier of its document. -/
def HoldsCopy (before after : Messages) (path : Path) (data : ChatMessageModel) : Prop :=
  ∃ id, after.documents path =
    before.documents path ++ [{ id := id, data := { data with uid := some id } }]

def senderCollection (data : ChatMessageModel) : Path := (data.senderId, data.receiverId)

def receiverCollection (data : ChatMessageModel) : Path := (data.receiverId, data.senderId)

def BothCopies (before after : Messages) (data : ChatMessageModel) : Prop :=
  HoldsCopy before after (senderCollection data) data ∧
    HoldsCopy before after (receiverCollection data) data

def NoCopy (before after : Messages) (data : ChatMessageModel) : Prop :=
  after.documents (senderCollection data) = before.documents (senderCollection data) ∧
    after.documents (receiverCollection data) = before.documents (receiverCollection data)

def AllOrNothing (before : ChatScreen) (backend : Backend) (data : ChatMessageModel)
    (result : SendResult) : Prop :=
  BothCopies backend.messages result.backend.messages data ∨
    NoCopy backend.messages result.backend.messages data ∧
      result.screen.messageCont = before.messageCont

theorem collections_ne {data : ChatMessageModel} (different : data.senderId ≠ data.receiverId) :
    receiverCollection data ≠ senderCollection data := by
  intro same
  exact different (congrArg Prod.snd same)

theorem not_holdsCopy_of_eq {before after : Messages} {path : Path} {data : ChatMessageModel}
    (unchanged : after.documents path = before.documents path) :
    ¬ HoldsCopy before after path data := by
  rintro ⟨id, gained⟩
  rw [unchanged] at gained
  have lengths := congrArg List.length gained
  rw [List.length_append, List.length_singleton] at lengths
  omega

theorem not_holdsCopy_of_added {before after : Messages} {path : Path} {id : Nat}
    {data : ChatMessageModel} (unwritten : data.uid = none)
    (gained : after.documents path = before.documents path ++ [{ id := id, data := data }]) :
    ¬ HoldsCopy before after path data := by
  rintro ⟨id', copied⟩
  rw [gained] at copied
  have last := (List.cons.inj (List.append_cancel_left copied)).1
  have sameUid := congrArg (fun document => document.data.uid) last
  change data.uid = some id' at sameUid
  rw [unwritten] at sameUid
  cases sameUid

/-! ### What `addMessage` leaves behind -/

section AddMessage

variable {fails : RemoteCall → Bool} {messages : Messages} {data : ChatMessageModel}

theorem addMessage_of_addSenderDoc_fails (different : data.senderId ≠ data.receiverId)
    (failed : fails .addSenderDoc = true) : addMessage fails messages data = (messages, false) := by
  unfold addMessage
  dsimp only
  rw [if_neg different, if_pos failed]

theorem addMessage_of_addReceiverDoc_fails (different : data.senderId ≠ data.receiverId)
    (first : fails .addSenderDoc = false) (failed : fails .addReceiverDoc = true) :
    addMessage fails messages data = (messages.add (senderCollection data) data, false) := by
  unfold addMessage
  dsimp only
  rw [if_neg different, if_neg (Bool.eq_false_iff.mp first), if_pos failed]
  rfl

def withBothDocs (messages : Messages) (data : ChatMessageModel) : Messages :=
  (messages.add (senderCollection data) data).add (receiverCollection data) data

theorem addMessage_of_updateSenderDoc_fails (different : data.senderId ≠ data.receiverId)
    (first : fails .addSenderDoc = false) (second : fails .addReceiverDoc = false)
    (failed : fails .updateSenderDoc = true) :
    addMessage fails messages data = (withBothDocs messages data, false) := by
  unfold addMessage
  dsimp only
  rw [if_neg different, if_neg (Bool.eq_false_iff.mp first), if_neg (Bool.eq_false_iff.mp second),
    if_pos failed]
  rfl

def withSenderUid (messages : Messages) (data : ChatMessageModel) : Messages :=
  updateUid (withBothDocs messages data) (senderCollection data) messages.next

theorem addMessage_of_updateReceiverDoc_fails (different : data.senderId ≠ data.receiverId)
    (first : fails .addSenderDoc = false) (second : fails .addReceiverDoc = false)
    (third : fails .updateSenderDoc = false) (failed : fails .updateReceiverDoc = true) :
    addMessage fails messages data = (withSenderUid messages data, false) := by
  unfold addMessage
  dsimp only
  rw [if_neg different, if_neg (Bool.eq_false_iff.mp first), if_neg (Bool.eq_false_iff.mp second),
    if_neg (Bool.eq_false_iff.mp third), if_pos failed]
  rfl

def withBothUids (messages : Messages) (data : ChatMessageModel) : Messages :=
  updateUid (withSenderUid messages data) (receiverCollection data) (messages.next + 1)

theorem addMessage_of_all_succeed (different : data.senderId ≠ data.receiverId)
    (first : fails .addSenderDoc = false) (second : fails .addReceiverDoc = false)
    (third : fails .updateSenderDoc = false) (fourth : fails .updateReceiverDoc = false) :
    addMessage fails messages data = (withBothUids messages data, true) := by
  unfold addMessage
  dsimp only
  rw [if_neg different, if_neg (Bool.eq_false_iff.mp first), if_neg (Bool.eq_false_iff.mp second),
    if_neg (Bool.eq_false_iff.mp third), if_neg (Bool.eq_false_iff.mp fourth)]
  rfl

theorem documents_withBothDocs_sender (different : data.senderId ≠ data.receiverId) :
    (withBothDocs messages data).documents (senderCollection data) =
      messages.documents (senderCollection data) ++ [{ id := messages.next, data := data }] := by
  unfold withBothDocs
  rw [Store.documents_add_of_ne (collections_ne different).symm, Store.documents_add]

theorem documents_withBothDocs_receiver (different : data.senderId ≠ data.receiverId) :
    (withBothDocs messages data).documents (receiverCollection data) =
      messages.documents (receiverCollection data) ++
        [{ id := messages.next + 1, data := data }] := by
  unfold withBothDocs
  rw [Store.documents_add, Store.documents_add_of_ne (collections_ne different), Store.next_add]

theorem documents_withSenderUid_receiver (different : data.senderId ≠ data.receiverId) :
    (withSenderUid messages data).documents (receiverCollection data) =
      messages.documents (receiverCollection data) ++
        [{ id := messages.next + 1, data := data }] := by
  unfold withSenderUid
  rw [documents_updateUid_of_ne (collections_ne different),
    documents_withBothDocs_receiver different]

theorem documents_withBothUids_sender (different : data.senderId ≠ data.receiverId) :
    (withBothUids messages data).documents (senderCollection data) =
      messages.documents (senderCollection data) ++
        [{ id := messages.next, data := { data with uid := some messages.next } }] := by
  have copied := documents_updateUid_add messages (senderCollection data) data
  unfold withBothUids withSenderUid
  rw [documents_updateUid_of_ne (collections_ne different).symm, ← copied]
  unfold updateUid
  rw [Store.documents_modify, Store.documents_modify,
    documents_withBothDocs_sender different, Store.documents_add]

theorem documents_withBothUids_receiver (different : data.senderId ≠ data.receiverId) :
    (withBothUids messages data).documents (receiverCollection data) =
      messages.documents (receiverCollection data) ++
        [{ id := messages.next + 1, data := { data with uid := some (messages.next + 1) } }] := by
  have copied := documents_updateUid_add (messages.add (senderCollection data) data)
    (receiverCollection data) data
  rw [Store.documents_add_of_ne (collections_ne different), Store.next_add] at copied
  rw [← copied]
  unfold withBothUids updateUid
  rw [Store.documents_modify, Store.documents_modify,
    documents_withSenderUid_receiver different, Store.documents_add,
    Store.documents_add_of_ne (collections_ne different), Store.next_add]

/-- Both copies are complete exactly when all four writes succeeded. -/
theorem bothCopies_addMessage_iff (different : data.senderId ≠ data.receiverId)
    (unwritten : data.uid = none) :
    BothCopies messages (addMessage fails messages data).1 data ↔
      fails .addSenderDoc = false ∧ fails .addReceiverDoc = false ∧
        fails .updateSenderDoc = false ∧ fails .updateReceiverDoc = false := by
  cases first : fails .addSenderDoc with
  | true =>
      rw [addMessage_of_addSenderDoc_fails different first]
      refine iff_of_false ?_ (fun all => Bool.true_eq_false.mp all.1)
      intro both
      exact not_holdsCopy_of_eq rfl both.1
  | false =>
      cases second : fails .addReceiverDoc with
      | true =>
          rw [addMessage_of_addReceiverDoc_fails different first second]
          refine iff_of_false ?_ (fun all => Bool.true_eq_false.mp all.2.1)
          intro both
          exact not_holdsCopy_of_eq
            (Store.documents_add_of_ne (collections_ne different) ..) both.2
      | false =>
          cases third : fails .updateSenderDoc with
          | true =>
              rw [addMessage_of_updateSenderDoc_fails different first second third]
              refine iff_of_false ?_ (fun all => Bool.true_eq_false.mp all.2.2.1)
              intro both
              exact not_holdsCopy_of_added unwritten
                (documents_withBothDocs_receiver different) both.2
          | false =>
              cases fourth : fails .updateReceiverDoc with
              | true =>
                  rw [addMessage_of_updateReceiverDoc_fails different first second third fourth]
                  refine iff_of_false ?_ (fun all => Bool.true_eq_false.mp all.2.2.2)
                  intro both
                  exact not_holdsCopy_of_added unwritten
                    (documents_withSenderUid_receiver different) both.2
              | false =>
                  rw [addMessage_of_all_succeed different first second third fourth]
                  refine iff_of_true ?_ ⟨rfl, rfl, rfl, rfl⟩
                  exact ⟨⟨_, documents_withBothUids_sender different⟩,
                    ⟨_, documents_withBothUids_receiver different⟩⟩

theorem length_updateUid (messages : Messages) (path path' : Path) (documentId : Nat) :
    ((updateUid messages path documentId).documents path').length =
      (messages.documents path').length := by
  by_cases same : path' = path
  · subst same
    unfold updateUid
    rw [Store.documents_modify, List.length_map]
  · rw [documents_updateUid_of_ne same]

theorem length_addMessage_sender (different : data.senderId ≠ data.receiverId)
    (first : fails .addSenderDoc = false) :
    ((addMessage fails messages data).1.documents (senderCollection data)).length =
      (messages.documents (senderCollection data)).length + 1 := by
  have bothDocs : ((withBothDocs messages data).documents (senderCollection data)).length =
      (messages.documents (senderCollection data)).length + 1 := by
    rw [documents_withBothDocs_sender different, List.length_append, List.length_singleton]
  cases second : fails .addReceiverDoc with
  | true =>
      rw [addMessage_of_addReceiverDoc_fails different first second, Store.documents_add,
        List.length_append, List.length_singleton]
  | false =>
      cases third : fails .updateSenderDoc with
      | true =>
          rw [addMessage_of_updateSenderDoc_fails different first second third]
          exact bothDocs
      | false =>
          cases fourth : fails .updateReceiverDoc with
          | true =>
              rw [addMessage_of_updateReceiverDoc_fails different first second third fourth]
              exact (length_updateUid ..).trans bothDocs
          | false =>
              rw [addMessage_of_all_succeed different first second third fourth]
              exact (length_updateUid ..).trans ((length_updateUid ..).trans bothDocs)

theorem noCopy_addMessage_iff (different : data.senderId ≠ data.receiverId) :
    NoCopy messages (addMessage fails messages data).1 data ↔ fails .addSenderDoc = true := by
  cases first : fails .addSenderDoc with
  | true =>
      rw [addMessage_of_addSenderDoc_fails different first]
      exact iff_of_true ⟨rfl, rfl⟩ rfl
  | false =>
      refine iff_of_false ?_ Bool.false_ne_true
      intro unchanged
      have gained := @length_addMessage_sender fails messages data different first
      rw [unchanged.1] at gained
      omega

end AddMessage

/-- The calls without which no complete pair of copies comes about. -/
def neededCalls : List RemoteCall :=
  [.isReceiverInContacts, .addSenderDoc, .addReceiverDoc, .updateSenderDoc, .updateReceiverDoc]

section Send

variable {fails : RemoteCall → Bool} {isLoading isFile : Bool} {attachmentFiles : List String}
  {now : Int} {uid receiver : Uid} {screen : ChatScreen} {backend : Backend}

theorem sendMessages_of_refuses
    (refused : refusesToSend isLoading isFile attachmentFiles screen.messageCont = true) :
    sendMessages fails isLoading isFile attachmentFiles now uid receiver screen backend =
      { screen := screen, backend := backend, ending := .aborted } := by
  unfold sendMessages
  rw [if_pos refused]

theorem sendMessages_of_lookup_fails
    (accepted : refusesToSend isLoading isFile attachmentFiles screen.messageCont = false)
    (failed : fails .isReceiverInContacts = true) :
    sendMessages fails isLoading isFile attachmentFiles now uid receiver screen backend =
      { screen := { screen with messageCont := "" }, backend := backend, ending := .threw } := by
  unfold sendMessages
  dsimp only
  rw [if_neg (Bool.eq_false_iff.mp accepted), if_pos failed]

theorem sendMessages_of_lookup_succeeds
    (accepted : refusesToSend isLoading isFile attachmentFiles screen.messageCont = false)
    (found : fails .isReceiverInContacts = false) :
    (sendMessages fails isLoading isFile attachmentFiles now uid receiver screen
        backend).screen.messageCont = "" ∧
      (sendMessages fails isLoading isFile attachmentFiles now uid receiver screen
          backend).backend.messages =
        (addMessage fails backend.messages
          (messageData uid receiver isFile attachmentFiles now screen)).1 := by
  unfold sendMessages
  dsimp only
  rw [if_neg (Bool.eq_false_iff.mp accepted), if_neg (Bool.eq_false_iff.mp found)]
  split
  · exact ⟨rfl, rfl⟩
  · exact ⟨rfl, rfl⟩

end Send

/-- A send between two users leaves both copies or nothing behind exactly when it
refuses to start, when every needed call succeeds, or when the first failure comes
before the first document and there was no text to lose. -/
theorem sendMessages_allOrNothing_iff (fails : RemoteCall → Bool) (isLoading isFile : Bool)
    (attachmentFiles : List String) (now : Int) {uid receiver : Uid} (different : uid ≠ receiver)
    (screen : ChatScreen) (backend : Backend) :
    AllOrNothing screen backend (messageData uid receiver isFile attachmentFiles now screen)
        (sendMessages fails isLoading isFile attachmentFiles now uid receiver screen backend) ↔
      refusesToSend isLoading isFile attachmentFiles screen.messageCont = true ∨
        (∀ call ∈ neededCalls, fails call = false) ∨
        screen.messageCont = "" ∧
          (fails .isReceiverInContacts = true ∨ fails .addSenderDoc = true) := by
  have needed : (∀ call ∈ neededCalls, fails call = false) ↔
      fails .isReceiverInContacts = false ∧ fails .addSenderDoc = false ∧
        fails .addReceiverDoc = false ∧ fails .updateSenderDoc = false ∧
        fails .updateReceiverDoc = false := by
    unfold neededCalls
    simp only [List.forall_mem_cons, List.not_mem_nil, false_imp_iff, implies_true, and_true]
  rw [needed]
  unfold AllOrNothing
  cases accepted : refusesToSend isLoading isFile attachmentFiles screen.messageCont with
  | true =>
      rw [sendMessages_of_refuses accepted]
      exact iff_of_true (Or.inr ⟨⟨rfl, rfl⟩, rfl⟩) (Or.inl rfl)
  | false =>
      cases found : fails .isReceiverInContacts with
      | true =>
          rw [sendMessages_of_lookup_fails accepted found]
          constructor
          · rintro (both | ⟨_, kept⟩)
            · exact absurd both.1 (not_holdsCopy_of_eq rfl)
            · exact Or.inr (Or.inr ⟨kept.symm, Or.inl rfl⟩)
          · rintro (refused | all | ⟨empty, _⟩)
            · exact absurd refused Bool.false_ne_true
            · exact absurd all.1 Bool.true_eq_false.mp
            · exact Or.inr ⟨⟨rfl, rfl⟩, empty.symm⟩
      | false =>
          obtain ⟨cleared, left⟩ := @sendMessages_of_lookup_succeeds fails isLoading isFile
            attachmentFiles now uid receiver screen backend accepted found
          rw [cleared, left, bothCopies_addMessage_iff different rfl,
            noCopy_addMessage_iff different]
          constructor
          · rintro (all | ⟨failed, kept⟩)
            · exact Or.inr (Or.inl ⟨rfl, all⟩)
            · exact Or.inr (Or.inr ⟨kept.symm, Or.inr failed⟩)
          · rintro (refused | all | ⟨empty, failed⟩)
            · exact absurd refused Bool.false_ne_true
            · exact Or.inl all.2
            · rcases failed with lookup | first
              · exact absurd lookup Bool.false_ne_true
              · exact Or.inr ⟨first, empty.symm⟩

def receiverCopyFails (call : RemoteCall) : Bool :=
  call == .addReceiverDoc

def noMessages : Backend :=
  { messages := Store.empty, contacts := fun _ => none }

theorem sendMessages_allOrNothing_iff_example :
    "ola" ≠ "kari" ∧
      (AllOrNothing { messageCont := "hei" } noMessages
          (messageData "ola" "kari" false [] 7 { messageCont := "hei" })
          (sendMessages (fun _ => false) false false [] 7 "ola" "kari" { messageCont := "hei" }
            noMessages) ↔
        refusesToSend false false [] "hei" = true ∨
          (∀ call ∈ neededCalls, false = false) ∨ "hei" = "" ∧ (false = true ∨ false = true)) :=
  ⟨by decide, sendMessages_allOrNothing_iff (fun _ => false) false false [] 7 (by decide)
    { messageCont := "hei" } noMessages⟩

/-- The sender's copy stays, without its identifier, and the text is gone. -/
theorem sendMessages_receiver_copy_fails :
    ¬ ∀ (fails : RemoteCall → Bool) (isLoading isFile : Bool) (attachmentFiles : List String)
        (now : Int) (uid receiver : Uid) (screen : ChatScreen) (backend : Backend),
      uid ≠ receiver →
        AllOrNothing screen backend (messageData uid receiver isFile attachmentFiles now screen)
          (sendMessages fails isLoading isFile attachmentFiles now uid receiver screen
            backend) := by
  intro claimed
  have found := claimed receiverCopyFails false false [] 7 "ola" "kari" { messageCont := "hei" }
    noMessages (by decide)
  rcases found with both | ⟨nothing, _⟩
  · exact not_holdsCopy_of_eq rfl both.2
  · have lengths := congrArg List.length nothing.1
    revert lengths
    decide +kernel

end FiksOpp.Chat
