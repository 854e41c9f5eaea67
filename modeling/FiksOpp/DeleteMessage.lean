/-
`deleteMessage` of a chat item: the user's own document is deleted, then the
files the message carried are deleted from the storage that every copy of the
message, and every message with a file of the same name, points into.
-/

import FiksOpp.ChatServices

namespace FiksOpp.Chat

open DocumentStore

abbrev Storage := String → Option String

/-- What the code relies on: how a text is cut to the last part of its path, and
which object a download link names. -/
structure StorageService where
  basename : String → String
  getDownloadURL : (object token : String) → String
  objectOf : String → String
  objectOf_getDownloadURL : ∀ object token, objectOf (getDownloadURL object token) = object

structure ChatBackend where
  messages : Messages
  storage : Storage

def chatFiles : String := "chat_files"

def removeFirst (pattern : List Char) : List Char → List Char
  | [] => []
  | head :: tail =>
      if pattern.isPrefixOf (head :: tail) then (head :: tail).drop pattern.length
      else head :: removeFirst pattern tail

namespace StorageService

def getFileName (service : StorageService) (path : String) : String :=
  service.basename path

def getChatFileName (service : StorageService) (path : String) : String :=
  String.ofList (removeFirst (chatFiles ++ "%2F").toList (service.basename path).toList)

def uploadedObject (service : StorageService) (path : String) : String :=
  chatFiles ++ "/" ++ service.getFileName path

def deletedObject (service : StorageService) (path : String) : String :=
  chatFiles ++ "/" ++ service.getChatFileName path

end StorageService

structure PickedFile where
  path : String
  content : String
  /-- The token the storage puts into the link of this upload. -/
  token : String
  uploads : Bool

/-- A file that cannot be uploaded is left out. -/
def uploadFiles (service : StorageService) : Storage → List PickedFile → Storage × List String
  | storage, [] => (storage, [])
  | storage, file :: rest =>
      if file.uploads then
        let object := service.uploadedObject file.path
        let result := uploadFiles service (Function.update storage object (some file.content)) rest
        (result.1, service.getDownloadURL object file.token :: result.2)
      else uploadFiles service storage rest

/-- An error of one deletion is logged and the next file is tried. -/
def deleteFiles (service : StorageService) (fails : String → Bool) : Storage → List String → Storage
  | storage, [] => storage
  | storage, path :: rest =>
      if fails path then deleteFiles service fails storage rest
      else deleteFiles service fails (Function.update storage (service.deletedObject path) none) rest

/-- `confirmed` is the answer to the dialog; the other two say which calls fail. -/
def deleteMessage (service : StorageService) (confirmed documentFails : Bool)
    (fileFails : String → Bool) (uid : Uid) (chatItemData : ChatMessageModel)
    (backend : ChatBackend) : ChatBackend :=
  if confirmed then
    match chatItemData.uid with
    -- an empty identifier addresses no document, and the call throws
    | none => backend
    | some documentId =>
        if documentFails then backend
        else
          { messages :=
              deleteSingleMessage backend.messages uid chatItemData.receiverId documentId
            storage :=
              deleteFiles service fileFails backend.storage chatItemData.attachmentfiles }
  else backend

def resolve (service : StorageService) (storage : Storage) (url : String) : Option String :=
  storage (service.objectOf url)

theorem objectOf_uploadFiles (service : StorageService) (storage : Storage)
    (files : List PickedFile) :
    ∀ url ∈ (uploadFiles service storage files).2,
      ∃ file ∈ files, service.objectOf url = service.uploadedObject file.path := by
  induction files generalizing storage with
  | nil =>
      intro url member
      exact absurd member List.not_mem_nil
  | cons file rest ih =>
      intro url member
      unfold uploadFiles at member
      split at member
      · rcases List.mem_cons.mp member with now | later
        · refine ⟨file, List.mem_cons_self, ?_⟩
          rw [now]
          exact service.objectOf_getDownloadURL ..
        · obtain ⟨other, inRest, named⟩ := ih _ url later
          exact ⟨other, List.mem_cons_of_mem file inRest, named⟩
      · obtain ⟨other, inRest, named⟩ := ih _ url member
        exact ⟨other, List.mem_cons_of_mem file inRest, named⟩

def Removes (service : StorageService) (fails : String → Bool) (urls : List String)
    (object : String) : Prop :=
  ∃ url ∈ urls, fails url = false ∧ service.deletedObject url = object

theorem deleteFiles_of_removes (service : StorageService) (fails : String → Bool)
    (storage : Storage) {urls : List String} {object : String}
    (removes : Removes service fails urls object) :
    deleteFiles service fails storage urls object = none := by
  -- once the object is gone, nothing brings it back
  have stays : ∀ (rest : List String) (storage : Storage), storage object = none →
      deleteFiles service fails storage rest object = none := by
    intro rest
    induction rest with
    | nil =>
        intro storage gone
        exact gone
    | cons url rest ih =>
        intro storage gone
        unfold deleteFiles
        split
        · exact ih storage gone
        · apply ih
          by_cases same : object = service.deletedObject url
          · rw [same]
            exact Function.update_self ..
          · rw [Function.update_of_ne same]
            exact gone
  induction urls generalizing storage with
  | nil =>
      obtain ⟨url, impossible, _⟩ := removes
      exact absurd impossible List.not_mem_nil
  | cons url rest ih =>
      obtain ⟨removed, member, succeeds, named⟩ := removes
      unfold deleteFiles
      rcases List.mem_cons.mp member with now | later
      · rw [now] at succeeds named
        rw [if_neg (Bool.eq_false_iff.mp succeeds)]
        apply stays
        rw [← named]
        exact Function.update_self ..
      · have inRest : Removes service fails rest object := ⟨removed, later, succeeds, named⟩
        split
        · exact ih storage inRest
        · exact ih _ inRest

theorem deleteFiles_of_not_removes (service : StorageService) (fails : String → Bool)
    (storage : Storage) {urls : List String} {object : String}
    (kept : ¬ Removes service fails urls object) :
    deleteFiles service fails storage urls object = storage object := by
  induction urls generalizing storage with
  | nil => rfl
  | cons url rest ih =>
      have keptByRest : ¬ Removes service fails rest object := by
        rintro ⟨other, member, facts⟩
        exact kept ⟨other, List.mem_cons_of_mem url member, facts⟩
      unfold deleteFiles
      cases failed : fails url with
      | true =>
          rw [if_pos rfl]
          exact ih storage keptByRest
      | false =>
          rw [if_neg Bool.false_ne_true, ih _ keptByRest]
          apply Function.update_of_ne
          intro same
          exact kept ⟨url, List.mem_cons_self, failed, same.symm⟩

/-- Deleting files leaves a link as it was exactly when its object is not among
them or was not there. -/
theorem resolve_deleteFiles_iff (service : StorageService) (fails : String → Bool)
    (storage : Storage) (urls : List String) (link : String) :
    resolve service (deleteFiles service fails storage urls) link =
        resolve service storage link ↔
      (Removes service fails urls (service.objectOf link) →
        storage (service.objectOf link) = none) := by
  unfold resolve
  constructor
  · intro same removes
    rw [← same]
    exact deleteFiles_of_removes service fails storage removes
  · intro unaffected
    by_cases removes : Removes service fails urls (service.objectOf link)
    · rw [deleteFiles_of_removes service fails storage removes, unaffected removes]
    · exact deleteFiles_of_not_removes service fails storage removes

/-! ### Delete for me -/

/-- Only the collection of `uid` about `peer` changes, and every link in a message
that remains resolves as before. -/
def DeleteForMe (service : StorageService) (uid peer : Uid) (before after : ChatBackend) : Prop :=
  (∀ path, path ≠ (uid, peer) →
      after.messages.documents path = before.messages.documents path) ∧
    ∀ path, ∀ document ∈ after.messages.documents path,
      ∀ url ∈ document.data.attachmentfiles,
        resolve service after.storage url = resolve service before.storage url

def IsDeleted (uid : Uid) (chatItemData : ChatMessageModel) (path : Path)
    (document : Document ChatMessageModel) : Prop :=
  path = (uid, chatItemData.receiverId) ∧ chatItemData.uid = some document.id

/-- No file the deletion removes is the file of a link in a message that remains. -/
def FilesUnshared (service : StorageService) (fileFails : String → Bool) (uid : Uid)
    (chatItemData : ChatMessageModel) (backend : ChatBackend) : Prop :=
  ∀ path, ∀ document ∈ backend.messages.documents path,
    ¬ IsDeleted uid chatItemData path document →
      ∀ url ∈ document.data.attachmentfiles,
        Removes service fileFails chatItemData.attachmentfiles (service.objectOf url) →
          backend.storage (service.objectOf url) = none

theorem deleteForMe_refl (service : StorageService) (uid peer : Uid) (backend : ChatBackend) :
    DeleteForMe service uid peer backend backend :=
  ⟨fun _ _ => rfl, fun _ _ _ _ _ => rfl⟩

theorem mem_deleteSingleMessage_iff {messages : Messages} {uid : Uid}
    {chatItemData : ChatMessageModel} {documentId : Nat}
    (written : chatItemData.uid = some documentId) {path : Path}
    {document : Document ChatMessageModel} :
    document ∈ (deleteSingleMessage messages uid chatItemData.receiverId documentId).documents
        path ↔
      document ∈ messages.documents path ∧ ¬ IsDeleted uid chatItemData path document := by
  unfold deleteSingleMessage IsDeleted
  by_cases same : path = (uid, chatItemData.receiverId)
  · rw [same, Store.documents_discard, List.mem_filter, written]
    have named : (!document.id == documentId) = true ↔ ¬ some documentId = some document.id := by
      rw [Bool.not_eq_true', beq_eq_false_iff_ne]
      constructor
      · intro differs equal
        exact differs (Option.some.inj equal).symm
      · intro differs equal
        exact differs (congrArg some equal.symm)
    rw [named]
    constructor
    · rintro ⟨member, differs⟩
      exact ⟨member, fun deleted => differs deleted.2⟩
    · rintro ⟨member, other⟩
      exact ⟨member, fun equal => other ⟨rfl, equal⟩⟩
  · rw [Store.documents_discard_of_ne same]
    constructor
    · intro member
      exact ⟨member, fun deleted => same deleted.1⟩
    · intro both
      exact both.1

/-- Deleting a message is delete-for-me exactly when nothing is deleted at all or no
removed file is still linked from a remaining message. -/
theorem deleteMessage_deleteForMe_iff (service : StorageService) (confirmed documentFails : Bool)
    (fileFails : String → Bool) (uid : Uid) (chatItemData : ChatMessageModel)
    (backend : ChatBackend) :
    DeleteForMe service uid chatItemData.receiverId backend
        (deleteMessage service confirmed documentFails fileFails uid chatItemData backend) ↔
      confirmed = false ∨ documentFails = true ∨ chatItemData.uid = none ∨
        FilesUnshared service fileFails uid chatItemData backend := by
  unfold deleteMessage
  cases confirmed with
  | false => exact iff_of_true (deleteForMe_refl ..) (Or.inl rfl)
  | true =>
      rw [if_pos rfl]
      cases written : chatItemData.uid with
      | none => exact iff_of_true (deleteForMe_refl ..) (Or.inr (Or.inr (Or.inl rfl)))
      | some documentId =>
          dsimp only
          cases documentFails with
          | true => exact iff_of_true (deleteForMe_refl ..) (Or.inr (Or.inl rfl))
          | false =>
              rw [if_neg Bool.false_ne_true]
              constructor
              · intro deleted
                refine Or.inr (Or.inr (Or.inr ?_))
                intro path document member remains url attached removes
                have kept := deleted.2 path document
                  ((mem_deleteSingleMessage_iff written).mpr ⟨member, remains⟩) url attached
                exact (resolve_deleteFiles_iff ..).mp kept removes
              · rintro (impossible | impossible | impossible | unshared)
                · cases impossible
                · cases impossible
                · cases impossible
                · constructor
                  · intro path other
                    exact Store.documents_discard_of_ne other ..
                  · intro path document member url attached
                    obtain ⟨present, remains⟩ := (mem_deleteSingleMessage_iff written).mp member
                    apply (resolve_deleteFiles_iff ..).mpr
                    exact unshared path document present remains url attached

/-- A message that was delivered with a stored file is never deleted for its sender
alone: the peer's copy links the same file. -/
theorem not_filesUnshared_of_delivered {service : StorageService} {fileFails : String → Bool}
    {uid : Uid} {chatItemData : ChatMessageModel} {backend : ChatBackend}
    (different : uid ≠ chatItemData.receiverId) {copy : Document ChatMessageModel}
    (delivered : copy ∈ backend.messages.documents (chatItemData.receiverId, uid))
    {url : String} (inCopy : url ∈ copy.data.attachmentfiles)
    (attached : url ∈ chatItemData.attachmentfiles) (succeeds : fileFails url = false)
    (plainName : service.deletedObject url = service.objectOf url)
    (stored : backend.storage (service.objectOf url) ≠ none) :
    ¬ FilesUnshared service fileFails uid chatItemData backend := by
  intro unshared
  apply stored
  apply unshared (chatItemData.receiverId, uid) copy delivered _ url inCopy
  · exact ⟨url, attached, succeeds, plainName⟩
  · intro deleted
    exact different (congrArg Prod.snd deleted.1)

def plainService : StorageService :=
  { basename := fun path => String.ofList (path.toList.reverse.takeWhile (· != '/')).reverse
    getDownloadURL := fun object _ => object
    objectOf := fun url => url
    objectOf_getDownloadURL := fun _ _ => rfl }

def picture : ChatMessageModel :=
  { uid := some 0, senderId := "ola", receiverId := "kari", message := "", isMessageRead := false,
    createdAt := 7, messageType := .files, attachmentfiles := ["chat_files/cat.png"] }

def pictureSent : ChatBackend :=
  { messages := (addMessage (fun _ => false) Store.empty { picture with uid := none }).1
    storage := Function.update (fun _ => none) "chat_files/cat.png" (some "cat") }

theorem deleteMessage_breaks_peer_copy :
    ¬ ∀ (service : StorageService) (confirmed documentFails : Bool) (fileFails : String → Bool)
        (uid : Uid) (chatItemData : ChatMessageModel) (backend : ChatBackend),
      chatItemData.senderId = uid →
        DeleteForMe service uid chatItemData.receiverId backend
          (deleteMessage service confirmed documentFails fileFails uid chatItemData backend) := by
  intro claimed
  have deleted := claimed plainService true false (fun _ => false) "ola" picture pictureSent rfl
  have resolves := deleted.2 ("kari", "ola") { id := 1, data := { picture with uid := some 1 } }
    (by decide +kernel) "chat_files/cat.png" (by decide)
  revert resolves
  decide +kernel

end FiksOpp.Chat
