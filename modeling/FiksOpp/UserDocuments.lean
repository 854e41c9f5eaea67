/-
The user documents of the chat: `verifyFirebaseUser` after a login, the profile picture, and
the deletion of an account.

Every call to the remote services is a task of its own, so between two calls of one function
anything else may run, on the same device or on another.  The fields that go into a document
are read from the app store when the sign-in has been answered, not when it was asked for.
-/

import FiksOpp.Foundations.EventRun
import Mathlib.Data.List.Basic
import Mathlib.Logic.Function.Basic

namespace FiksOpp.UserDocuments

open EventRun

abbrev Uid := ℕ

/-- `UserData` as far as `toFirebaseJson` writes it here. -/
structure UserData where
  uid : Uid
  id : ℤ
  email : String
  firstName : String
  lastName : String
  profileImage : String
  updatedAt : ℕ
  createdAt : Option ℕ
  deriving DecidableEq, Repr

/-- The fields of the app store on one device, and the user signed in with Firebase there. -/
structure Device where
  userId : ℤ := 0
  userEmail : String := ""
  userFirstName : String := ""
  userLastName : String := ""
  userProfileImage : String := ""
  uid : Option Uid := none
  currentUser : Option Uid := none
  deriving DecidableEq, Repr

/-- A running function, by the call it makes next. -/
inductive Task where
  | signInWithEmailAndPassword (device : ℕ) (email : String)
  | createUserWithEmailAndPassword (device : ℕ) (email : String)
  | isUserExistWithUid (device : ℕ) (userData : UserData)
  | addDocumentWithCustomId (device : ℕ) (userData : UserData)
  | updateDocument (device : ℕ) (userData : UserData)
  | updateProfileImage (uid : Uid) (profileImage : String)
  | removeDocument (device : ℕ) (uid : Uid)
  | deleteUser (uid : Uid)
  deriving DecidableEq, Repr

structure State where
  accounts : List (String × Uid)
  /-- The e-mail each account was created for, kept when the account is deleted. -/
  created : Uid → Option String
  nextUid : Uid
  documents : List (Uid × UserData)
  devices : ℕ → Device
  tasks : List Task

inductive Event where
  | saveUserData (device : ℕ) (session : Device)
  | clearPreferences (device : ℕ) (isRemembered : Bool)
  | verifyFirebaseUser (device : ℕ)
  | updateProfile (device : ℕ) (profileImage : String)
  | deleteAccountCompletely (device : ℕ)
  /-- The call of the task at this position is answered. -/
  | answer (index : ℕ) (succeeds : Bool) (now : ℕ)
  deriving DecidableEq, Repr

def setDocument (uid : Uid) (userData : UserData) (documents : List (Uid × UserData)) :
    List (Uid × UserData) :=
  documents.filter (fun document => document.1 ≠ uid) ++ [(uid, userData)]

/-- `update` changes a document that is there and fails on one that is not. -/
def changeDocument (uid : Uid) (change : UserData → UserData)
    (documents : List (Uid × UserData)) : List (Uid × UserData) :=
  documents.map fun document =>
    if document.1 = uid then (document.1, change document.2) else document

def deleteDocument (uid : Uid) (documents : List (Uid × UserData)) : List (Uid × UserData) :=
  documents.filter fun document => document.1 ≠ uid

/-- A field that `toFirebaseJson` leaves out stays as it is. -/
def UserData.merge (old new : UserData) : UserData :=
  { new with createdAt := new.createdAt.or old.createdAt }

namespace Device

def userData (device : Device) (uid : Uid) (now : ℕ) : UserData where
  uid := uid
  id := device.userId
  email := device.userEmail
  firstName := device.userFirstName
  lastName := device.userLastName
  profileImage := device.userProfileImage
  updatedAt := now
  createdAt := none

def clear (device : Device) (isRemembered : Bool) : Device :=
  { userEmail := if isRemembered then device.userEmail else "" }

end Device

namespace State

def setDevice (state : State) (index : ℕ) (device : Device) : State :=
  { state with devices := Function.update state.devices index device }

def start (state : State) (task : Task) : State :=
  { state with tasks := state.tasks ++ [task] }

/-- What `verifyFirebaseUser` does with a credential. -/
def signedIn (state : State) (index : ℕ) (uid : Uid) (now : ℕ) : State :=
  let device := state.devices index
  (state.setDevice index { device with currentUser := some uid }).start
    (.isUserExistWithUid index (device.userData uid now))

def createAccount (state : State) (email : String) : State :=
  { state with
    accounts := state.accounts ++ [(email, state.nextUid)]
    created := Function.update state.created state.nextUid (some email)
    nextUid := state.nextUid + 1 }

def succeed (state : State) (now : ℕ) : Task → State
  | .signInWithEmailAndPassword index email =>
      match state.accounts.lookup email with
      | some uid => state.signedIn index uid now
      | none => state.start (.createUserWithEmailAndPassword index (state.devices index).userEmail)
  | .createUserWithEmailAndPassword index email =>
      match state.accounts.lookup email with
      | some _ => state
      | none => (state.createAccount email).signedIn index state.nextUid now
  | .isUserExistWithUid index userData =>
      if state.documents.any (fun document => document.2.uid = userData.uid) then
        state.start (.updateDocument index userData)
      else
        state.start (.addDocumentWithCustomId index { userData with createdAt := some now })
  | .addDocumentWithCustomId index userData =>
      { state with documents := setDocument userData.uid userData state.documents }.setDevice
        index { state.devices index with uid := some userData.uid }
  | .updateDocument index userData =>
      if state.documents.any (fun document => document.1 = userData.uid) then
        { state with
          documents := changeDocument userData.uid (fun old => old.merge userData)
            state.documents }.setDevice
          index { state.devices index with uid := some userData.uid }
      else state
  | .updateProfileImage uid profileImage =>
      { state with
        documents := changeDocument uid
          (fun old => { old with profileImage := profileImage, updatedAt := now })
          state.documents }
  | .removeDocument index uid =>
      let removed := { state with documents := deleteDocument uid state.documents }
      match (state.devices index).currentUser with
      | some currentUser => removed.start (.deleteUser currentUser)
      | none => removed
  | .deleteUser uid =>
      { state with accounts := state.accounts.filter fun account => account.2 ≠ uid }

def answer (state : State) (index : ℕ) (succeeds : Bool) (now : ℕ) : State :=
  match state.tasks[index]? with
  | none => state
  | some task =>
      let others := { state with tasks := state.tasks.eraseIdx index }
      if succeeds then others.succeed now task else others

def next (state : State) : Event → State
  | .saveUserData index session =>
      state.setDevice index { session with currentUser := (state.devices index).currentUser }
  | .clearPreferences index isRemembered =>
      state.setDevice index ((state.devices index).clear isRemembered)
  | .verifyFirebaseUser index =>
      state.start (.signInWithEmailAndPassword index (state.devices index).userEmail)
  | .updateProfile index profileImage =>
      match (state.devices index).currentUser with
      | some uid => state.start (.updateProfileImage uid profileImage)
      | none => state
  | .deleteAccountCompletely index =>
      match (state.devices index).uid with
      | some uid => state.start (.removeDocument index uid)
      | none => state
  | .answer index succeeds now => state.answer index succeeds now

def machine : Machine State Event Empty where
  next := next
  outputs _ _ := []

end State

/-! ### Documents and their owners -/

def Task.writes : Task → Option UserData
  | .isUserExistWithUid _ userData => some userData
  | .addDocumentWithCustomId _ userData => some userData
  | .updateDocument _ userData => some userData
  | _ => none

/-- The data carries the e-mail its account was created for. -/
def Owned (created : Uid → Option String) (userData : UserData) : Prop :=
  created userData.uid = some userData.email

structure NamesOwner (state : State) : Prop where
  documents : ∀ document ∈ state.documents, Owned state.created document.2
  tasks : ∀ task ∈ state.tasks, ∀ userData, task.writes = some userData →
    Owned state.created userData

structure Sound (state : State) : Prop where
  keys : ∀ document ∈ state.documents, document.2.uid = document.1
  accounts : ∀ account ∈ state.accounts, state.created account.2 = some account.1
  unused : ∀ uid, state.nextUid ≤ uid → state.created uid = none

/-- The session that asked for the sign-in is the one that is there when it succeeds. -/
def Task.SameSession (state : State) : Task → Prop
  | .signInWithEmailAndPassword index email =>
      (state.accounts.lookup email).isSome → (state.devices index).userEmail = email
  | .createUserWithEmailAndPassword index email =>
      state.accounts.lookup email = none → (state.devices index).userEmail = email
  | _ => True

def SameSession (state : State) : Event → Prop
  | .answer index true _ => ∀ task, state.tasks[index]? = some task → task.SameSession state
  | _ => True

theorem mem_setDocument {uid : Uid} {userData : UserData} {documents : List (Uid × UserData)}
    {document : Uid × UserData} (member : document ∈ setDocument uid userData documents) :
    document ∈ documents ∨ document = (uid, userData) := by
  rcases List.mem_append.mp member with old | new
  · exact .inl (List.mem_of_mem_filter old)
  · exact .inr (List.mem_singleton.mp new)

theorem mem_changeDocument {uid : Uid} {change : UserData → UserData}
    {documents : List (Uid × UserData)} {document : Uid × UserData}
    (member : document ∈ changeDocument uid change documents) :
    document ∈ documents ∨ ∃ old, (uid, old) ∈ documents ∧ document = (uid, change old) := by
  obtain ⟨before, present, after⟩ := List.mem_map.mp member
  by_cases same : before.1 = uid
  · rw [if_pos same] at after
    obtain ⟨key, old⟩ := before
    subst same
    exact .inr ⟨old, present, after.symm⟩
  · rw [if_neg same] at after
    rw [← after]
    exact .inl present

section Steps

variable {state : State}

theorem sound_start (sound : Sound state) (task : Task) : Sound (state.start task) :=
  ⟨sound.keys, sound.accounts, sound.unused⟩

theorem sound_signedIn (sound : Sound state) (index : ℕ) (uid : Uid) (now : ℕ) :
    Sound (state.signedIn index uid now) :=
  ⟨sound.keys, sound.accounts, sound.unused⟩

theorem created_ne_next (sound : Sound state) {uid : Uid} {email : String}
    (created : state.created uid = some email) : uid ≠ state.nextUid := by
  intro same
  rw [sound.unused uid (Nat.le_of_eq same.symm)] at created
  cases created

theorem created_createAccount (sound : Sound state) (email : String) {uid : Uid}
    {owner : String} (created : state.created uid = some owner) :
    (state.createAccount email).created uid = some owner := by
  change Function.update state.created state.nextUid (some email) uid = some owner
  rw [Function.update_of_ne (created_ne_next sound created)]
  exact created

theorem sound_createAccount (sound : Sound state) (email : String) :
    Sound (state.createAccount email) where
  keys := sound.keys
  accounts := by
    intro account member
    rcases List.mem_append.mp member with old | new
    · exact created_createAccount sound email (sound.accounts account old)
    · rw [List.mem_singleton.mp new]
      exact Function.update_self ..
  unused := by
    intro uid late
    change state.nextUid + 1 ≤ uid at late
    change Function.update state.created state.nextUid (some email) uid = none
    rw [Function.update_of_ne (Nat.ne_of_gt late)]
    exact sound.unused uid (Nat.le_of_succ_le late)

theorem sound_documents (sound : Sound state) {documents : List (Uid × UserData)}
    (keys : ∀ document ∈ documents, document.2.uid = document.1) :
    Sound { state with documents := documents } :=
  ⟨keys, sound.accounts, sound.unused⟩

theorem sound_setDevice (sound : Sound state) (index : ℕ) (device : Device) :
    Sound (state.setDevice index device) :=
  ⟨sound.keys, sound.accounts, sound.unused⟩

theorem keys_changeDocument {documents : List (Uid × UserData)} {uid : Uid}
    {change : UserData → UserData}
    (keys : ∀ document ∈ documents, document.2.uid = document.1)
    (kept : ∀ old, old.uid = uid → (change old).uid = uid) :
    ∀ document ∈ changeDocument uid change documents, document.2.uid = document.1 := by
  intro document member
  rcases mem_changeDocument member with old | ⟨old, present, rfl⟩
  · exact keys document old
  · exact kept old (keys _ present)

theorem sound_succeed (sound : Sound state) (now : ℕ) (task : Task) :
    Sound (state.succeed now task) := by
  cases task with
  | signInWithEmailAndPassword index email =>
      unfold State.succeed
      dsimp only
      split
      · exact sound_signedIn sound index _ now
      · exact sound_start sound _
  | createUserWithEmailAndPassword index email =>
      unfold State.succeed
      dsimp only
      split
      · exact sound
      · exact sound_signedIn (sound_createAccount sound email) index _ now
  | isUserExistWithUid index userData =>
      unfold State.succeed
      dsimp only
      split
      · exact sound_start sound _
      · exact sound_start sound _
  | addDocumentWithCustomId index userData =>
      apply sound_setDevice
      apply sound_documents sound
      intro document member
      rcases mem_setDocument member with old | rfl
      · exact sound.keys document old
      · rfl
  | updateDocument index userData =>
      unfold State.succeed
      dsimp only
      split
      · apply sound_setDevice
        exact sound_documents sound (keys_changeDocument sound.keys fun _ _ => rfl)
      · exact sound
  | updateProfileImage uid profileImage =>
      exact sound_documents sound (keys_changeDocument sound.keys fun _ same => same)
  | removeDocument index uid =>
      have removed : Sound { state with documents := deleteDocument uid state.documents } :=
        sound_documents sound fun document member =>
          sound.keys document (List.mem_of_mem_filter member)
      unfold State.succeed
      dsimp only
      split
      · exact sound_start removed _
      · exact removed
  | deleteUser uid =>
      exact ⟨sound.keys, fun account member =>
        sound.accounts account (List.mem_of_mem_filter member), sound.unused⟩

theorem sound_next (state : State) (event : Event) (sound : Sound state) :
    Sound (state.next event) := by
  cases event with
  | saveUserData index session => exact sound_setDevice sound index _
  | clearPreferences index isRemembered => exact sound_setDevice sound index _
  | verifyFirebaseUser index => exact sound_start sound _
  | updateProfile index profileImage =>
      unfold State.next
      dsimp only
      split
      · exact sound_start sound _
      · exact sound
  | deleteAccountCompletely index =>
      unfold State.next
      dsimp only
      split
      · exact sound_start sound _
      · exact sound
  | answer index succeeds now =>
      change Sound (state.answer index succeeds now)
      unfold State.answer
      split
      · exact sound
      · have others : Sound { state with tasks := state.tasks.eraseIdx index } :=
          ⟨sound.keys, sound.accounts, sound.unused⟩
        cases succeeds with
        | true => exact sound_succeed others now _
        | false => exact others

/-! ### When the documents name their owners -/

theorem namesOwner_start_iff (names : NamesOwner state) (task : Task) :
    NamesOwner (state.start task) ↔
      ∀ userData, task.writes = some userData → Owned state.created userData := by
  constructor
  · intro after
    exact after.tasks task (List.mem_append_right _ (List.mem_singleton.mpr rfl))
  · intro owned
    refine ⟨names.documents, fun other member => ?_⟩
    rcases List.mem_append.mp member with old | new
    · exact names.tasks other old
    · rw [List.mem_singleton.mp new]
      exact owned

theorem namesOwner_start (names : NamesOwner state) {task : Task} (nothing : task.writes = none) :
    NamesOwner (state.start task) := by
  apply (namesOwner_start_iff names task).mpr
  intro userData writes
  rw [nothing] at writes
  cases writes

theorem namesOwner_setDevice (names : NamesOwner state) (index : ℕ) (device : Device) :
    NamesOwner (state.setDevice index device) :=
  ⟨names.documents, names.tasks⟩

theorem namesOwner_signedIn_iff (names : NamesOwner state) (index : ℕ) (uid : Uid) (now : ℕ) :
    NamesOwner (state.signedIn index uid now) ↔
      state.created uid = some (state.devices index).userEmail := by
  refine (namesOwner_start_iff (namesOwner_setDevice names index _) _).trans ?_
  constructor
  · intro owned
    exact owned _ rfl
  · intro created userData writes
    cases writes
    exact created

theorem namesOwner_createAccount (sound : Sound state) (names : NamesOwner state)
    (email : String) : NamesOwner (state.createAccount email) :=
  ⟨fun document member => created_createAccount sound email (names.documents document member),
    fun task member userData writes =>
      created_createAccount sound email (names.tasks task member userData writes)⟩

theorem namesOwner_documents (names : NamesOwner state) {documents : List (Uid × UserData)}
    (owned : ∀ document ∈ documents, Owned state.created document.2) :
    NamesOwner { state with documents := documents } :=
  ⟨owned, names.tasks⟩

/-- What a task has built it writes as it is. -/
theorem namesOwner_succeed_iff (sound : Sound state) (names : NamesOwner state) (now : ℕ)
    {task : Task} (owned : ∀ userData, task.writes = some userData →
      Owned state.created userData) :
    NamesOwner (state.succeed now task) ↔ task.SameSession state := by
  cases task with
  | signInWithEmailAndPassword index email =>
      unfold State.succeed Task.SameSession
      dsimp only
      cases found : state.accounts.lookup email with
      | none =>
          exact iff_of_true (namesOwner_start names rfl) (fun impossible => nomatch impossible)
      | some uid =>
          have account : (email, uid) ∈ state.accounts := by
            obtain ⟨before, after, whole, -⟩ := List.lookup_eq_some_iff.mp found
            rw [whole]
            exact List.mem_append_right before List.mem_cons_self
          have created : state.created uid = some email := sound.accounts _ account
          refine (namesOwner_signedIn_iff names index uid now).trans ?_
          rw [created, Option.some_inj]
          exact ⟨fun same _ => same.symm, fun same => (same rfl).symm⟩
  | createUserWithEmailAndPassword index email =>
      unfold State.succeed Task.SameSession
      dsimp only
      cases found : state.accounts.lookup email with
      | some uid => exact iff_of_true names (fun impossible => nomatch impossible)
      | none =>
          refine (namesOwner_signedIn_iff (namesOwner_createAccount sound names email)
            index state.nextUid now).trans ?_
          have created : (state.createAccount email).created state.nextUid = some email :=
            Function.update_self ..
          rw [created, Option.some_inj]
          exact ⟨fun same _ => same.symm, fun same => (same rfl).symm⟩
  | isUserExistWithUid index userData =>
      refine iff_of_true ?_ trivial
      unfold State.succeed
      dsimp only
      split
      · apply (namesOwner_start_iff names _).mpr
        intro written writes
        cases writes
        exact owned _ rfl
      · apply (namesOwner_start_iff names _).mpr
        intro written writes
        cases writes
        exact owned userData rfl
  | addDocumentWithCustomId index userData =>
      refine iff_of_true ?_ trivial
      apply namesOwner_setDevice
      apply namesOwner_documents names
      intro document member
      rcases mem_setDocument member with old | rfl
      · exact names.documents document old
      · exact owned userData rfl
  | updateDocument index userData =>
      refine iff_of_true ?_ trivial
      unfold State.succeed
      dsimp only
      split
      · apply namesOwner_setDevice
        apply namesOwner_documents names
        intro document member
        rcases mem_changeDocument member with old | ⟨old, present, rfl⟩
        · exact names.documents document old
        · exact owned userData rfl
      · exact names
  | updateProfileImage uid profileImage =>
      refine iff_of_true ?_ trivial
      apply namesOwner_documents names
      intro document member
      rcases mem_changeDocument member with old | ⟨old, present, rfl⟩
      · exact names.documents document old
      · have named : Owned state.created old := names.documents _ present
        exact named
  | removeDocument index uid =>
      refine iff_of_true ?_ trivial
      have removed : NamesOwner { state with documents := deleteDocument uid state.documents } :=
        namesOwner_documents names fun document member =>
          names.documents document (List.mem_of_mem_filter member)
      unfold State.succeed
      dsimp only
      split
      · exact namesOwner_start removed rfl
      · exact removed
  | deleteUser uid => exact iff_of_true ⟨names.documents, names.tasks⟩ trivial

theorem namesOwner_next_iff (state : State) (event : Event) (sound : Sound state)
    (names : NamesOwner state) : NamesOwner (state.next event) ↔ SameSession state event := by
  cases event with
  | saveUserData index session => exact iff_of_true (namesOwner_setDevice names _ _) trivial
  | clearPreferences index isRemembered =>
      exact iff_of_true (namesOwner_setDevice names _ _) trivial
  | verifyFirebaseUser index => exact iff_of_true (namesOwner_start names rfl) trivial
  | updateProfile index profileImage =>
      refine iff_of_true ?_ trivial
      unfold State.next
      dsimp only
      split
      · exact namesOwner_start names rfl
      · exact names
  | deleteAccountCompletely index =>
      refine iff_of_true ?_ trivial
      unfold State.next
      dsimp only
      split
      · exact namesOwner_start names rfl
      · exact names
  | answer index succeeds now =>
      change NamesOwner (state.answer index succeeds now) ↔ _
      unfold State.answer
      have fewer : NamesOwner { state with tasks := state.tasks.eraseIdx index } :=
        ⟨names.documents, fun task member => names.tasks task (List.mem_of_mem_eraseIdx member)⟩
      cases found : state.tasks[index]? with
      | none =>
          refine iff_of_true names ?_
          cases succeeds with
          | true => exact fun task running => nomatch found.symm.trans running
          | false => trivial
      | some task =>
          cases succeeds with
          | false => exact iff_of_true fewer trivial
          | true =>
              have others : Sound { state with tasks := state.tasks.eraseIdx index } :=
                ⟨sound.keys, sound.accounts, sound.unused⟩
              refine (namesOwner_succeed_iff others fewer now
                (names.tasks task (List.mem_of_getElem? found))).trans ?_
              constructor
              · intro same other running
                cases found.symm.trans running
                exact same
              · intro same
                exact same task found

end Steps

def noUsers : State where
  accounts := []
  created := fun _ => none
  nextUid := 0
  documents := []
  devices := fun _ => {}
  tasks := []

theorem sound_noUsers : Sound noUsers where
  keys := List.forall_mem_nil _
  accounts := List.forall_mem_nil _
  unused := fun _ _ => rfl

theorem namesOwner_noUsers : NamesOwner noUsers :=
  ⟨List.forall_mem_nil _, List.forall_mem_nil _⟩

/-- In every state of every interleaving a document lies under the uid it carries.  Every
document carries the e-mail its account was created for, in every state of the run, exactly
when each sign-in that succeeds finds the session that asked for it. -/
theorem documents_name_owners_iff (events : List Event) :
    (∀ document ∈ (State.machine.run noUsers events).documents,
        document.2.uid = document.1) ∧
      (State.machine.Every (fun state event => NamesOwner (state.next event)) noUsers events ↔
        State.machine.Every SameSession noUsers events) := by
  constructor
  · have sound := State.machine.invariant_run_of_kept Sound sound_next sound_noUsers
      events
    exact sound.keys
  · exact State.machine.every_next_iff_of_sound Sound NamesOwner sound_next namesOwner_next_iff
      sound_noUsers namesOwner_noUsers

/-- Logging out while the sign-in is on its way leaves the document without a name. -/
example :
    ((State.machine.run noUsers
      [.saveUserData 0 { userId := 7, userEmail := "ola@fiks.no" }, .verifyFirebaseUser 0,
        .answer 0 true 1, .answer 0 true 2, .answer 0 true 3, .answer 0 true 4,
        .verifyFirebaseUser 0, .clearPreferences 0 false, .answer 0 true 5, .answer 0 true 6,
        .answer 0 true 7]).documents.map fun document => (document.2.id, document.2.email)) =
      [(0, "")] := by
  decide

end FiksOpp.UserDocuments
