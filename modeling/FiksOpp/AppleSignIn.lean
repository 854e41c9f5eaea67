/-
Signing in with Apple.

Apple tells the e-mail and the names of an account only when it authorizes the app for the
first time, so `appleSignIn` keeps them in the preferences and reads its request back from
there.
-/

import FiksOpp.Foundations.EventRun

namespace FiksOpp.AppleSignIn

open EventRun

/-- The preferences under the `APPLE_` keys; a missing one reads as ''. -/
structure ApplePreferences where
  email : String := ""
  givenName : String := ""
  familyName : String := ""
  uid : String := ""
  deriving DecidableEq, Repr

structure PersonName where
  givenName : Option String
  familyName : Option String
  deriving DecidableEq, Repr

structure AppleIdCredential where
  email : Option String
  fullName : Option PersonName
  deriving DecidableEq, Repr

structure FirebaseUser where
  email : Option String
  uid : String
  deriving DecidableEq, Repr

/-- What Apple answers, and Firebase after it: no user where a token is missing or
`signInWithCredential` throws. -/
inductive Authorization where
  | notAvailable
  | error (localizedDescription : String)
  | cancelled
  | authorized (credential : AppleIdCredential) (user : Option FirebaseUser)
  deriving DecidableEq, Repr

structure AppleRequest where
  email : String
  firstName : String
  lastName : String
  username : String
  socialImage : String := ""
  accessToken : String := "12345678"
  loginType : String := "apple"
  userType : String := "user"
  deriving DecidableEq, Repr

inductive Failure where
  | lblAppleSignInNotAvailable
  | lblSignInFailed (localizedDescription : String)
  | lblUserCancelled
  | firebase
  /-- `fullName!` of nothing, or `setValue` of a missing name. -/
  | missingName
  deriving DecidableEq, Repr

section SignIn

-- What a preference reads as after `setValue` of nothing, unless that throws.
variable (setNull : Option String)

def setMissing (value : Option String) : Option String :=
  match value with
  | some text => some text
  | none => setNull

/-- The names that are written before one of the calls throws. -/
def givenNameOf (fullName : Option PersonName) : Option String :=
  fullName.bind fun name => setMissing setNull name.givenName

def familyNameOf (fullName : Option PersonName) : Option String :=
  fullName.bind fun name =>
    (setMissing setNull name.givenName).bind fun _ => setMissing setNull name.familyName

def firstAuthorization (credential : AppleIdCredential) : Bool :=
  credential.email.getD "" ≠ ""

def keep (preferences : ApplePreferences) (credential : AppleIdCredential)
    (user : FirebaseUser) : ApplePreferences × Bool :=
  if firstAuthorization credential then
    let preferences := { preferences with email := credential.email.getD "" }
    match givenNameOf setNull credential.fullName with
    | none => (preferences, false)
    | some given =>
        let preferences := { preferences with givenName := given }
        match familyNameOf setNull credential.fullName with
        | none => (preferences, false)
        | some family => ({ preferences with familyName := family, uid := user.uid }, true)
  else ({ preferences with email := user.email.getD "", uid := user.uid }, true)

def requestOf (preferences : ApplePreferences) : AppleRequest where
  email := preferences.email
  firstName := preferences.givenName
  lastName := preferences.familyName
  username := preferences.email

def appleSignIn (preferences : ApplePreferences) :
    Authorization → ApplePreferences × Except Failure AppleRequest
  | .notAvailable => (preferences, .error .lblAppleSignInNotAvailable)
  | .error description => (preferences, .error (.lblSignInFailed description))
  | .cancelled => (preferences, .error .lblUserCancelled)
  | .authorized _ none => (preferences, .error .firebase)
  | .authorized credential (some user) =>
      let (kept, returned) := keep setNull preferences credential user
      (kept, if returned then .ok (requestOf kept) else .error .missingName)

inductive DeviceEvent where
  | signIn (authorization : Authorization)
  /-- A logout; `clearPreferences` removes none of the keys. -/
  | clearPreferences
  deriving DecidableEq, Repr

def device : Machine ApplePreferences DeviceEvent (Except Failure AppleRequest) where
  next preferences
    | .signIn authorization => (appleSignIn setNull preferences authorization).1
    | .clearPreferences => preferences
  outputs preferences
    | .signIn authorization => [(appleSignIn setNull preferences authorization).2]
    | .clearPreferences => []

def answer (history : List DeviceEvent) (authorization : Authorization) :
    Except Failure AppleRequest :=
  (appleSignIn setNull ((device setNull).run {} history) authorization).2

/-- The credential of an authorization that comes with an e-mail. -/
def suppliedName : DeviceEvent → Option (Option PersonName)
  | .signIn (.authorized credential (some _)) =>
      if firstAuthorization credential then some credential.fullName else none
  | _ => none

def suppliedGivenName (event : DeviceEvent) : Option String :=
  (suppliedName event).bind fun fullName => givenNameOf setNull fullName

def suppliedFamilyName (event : DeviceEvent) : Option String :=
  (suppliedName event).bind fun fullName => familyNameOf setNull fullName

def namesLeft (history : List DeviceEvent) : String × String :=
  (((history.filterMap (suppliedGivenName setNull)).getLast?).getD "",
    ((history.filterMap (suppliedFamilyName setNull)).getLast?).getD "")

/-- The request takes its names from the preferences: Apple has told no e-mail. -/
def ReadsKeptNames : Authorization → Prop
  | .authorized credential (some _) => firstAuthorization credential = false
  | _ => False

/-! ### One sign-in -/

variable {setNull}

theorem suppliedNames_later {credential : AppleIdCredential}
    (later : firstAuthorization credential = false) (user : FirebaseUser) :
    suppliedGivenName setNull (.signIn (.authorized credential (some user))) = none ∧
      suppliedFamilyName setNull (.signIn (.authorized credential (some user))) = none := by
  simp [suppliedGivenName, suppliedFamilyName, suppliedName, later]

theorem suppliedNames_first {credential : AppleIdCredential}
    (first : firstAuthorization credential = true) (user : FirebaseUser) :
    suppliedGivenName setNull (.signIn (.authorized credential (some user))) =
        givenNameOf setNull credential.fullName ∧
      suppliedFamilyName setNull (.signIn (.authorized credential (some user))) =
        familyNameOf setNull credential.fullName := by
  simp [suppliedGivenName, suppliedFamilyName, suppliedName, first]

theorem familyNameOf_eq_none {fullName : Option PersonName}
    (given : givenNameOf setNull fullName = none) : familyNameOf setNull fullName = none := by
  cases fullName with
  | none => rfl
  | some name =>
      unfold givenNameOf at given
      unfold familyNameOf
      rw [Option.bind_some] at given ⊢
      rw [given, Option.bind_none]

theorem names_keep (preferences : ApplePreferences) (credential : AppleIdCredential)
    (user : FirebaseUser) :
    (keep setNull preferences credential user).1.givenName =
        (suppliedGivenName setNull (.signIn (.authorized credential (some user)))).getD
          preferences.givenName ∧
      (keep setNull preferences credential user).1.familyName =
        (suppliedFamilyName setNull (.signIn (.authorized credential (some user)))).getD
          preferences.familyName := by
  cases first : firstAuthorization credential with
  | false =>
      rw [(suppliedNames_later first user).1, (suppliedNames_later first user).2]
      simp [keep, first]
  | true =>
      rw [(suppliedNames_first first user).1, (suppliedNames_first first user).2]
      cases given : givenNameOf setNull credential.fullName with
      | none =>
          rw [familyNameOf_eq_none given]
          simp [keep, first, given]
      | some given' =>
          cases family : familyNameOf setNull credential.fullName with
          | none => simp [keep, first, given, family]
          | some family' => simp [keep, first, given, family]

theorem names_next (preferences : ApplePreferences) (event : DeviceEvent) :
    ((device setNull).next preferences event).givenName =
        (suppliedGivenName setNull event).getD preferences.givenName ∧
      ((device setNull).next preferences event).familyName =
        (suppliedFamilyName setNull event).getD preferences.familyName := by
  cases event with
  | clearPreferences => exact ⟨rfl, rfl⟩
  | signIn authorization =>
      cases authorization with
      | notAvailable => exact ⟨rfl, rfl⟩
      | error description => exact ⟨rfl, rfl⟩
      | cancelled => exact ⟨rfl, rfl⟩
      | authorized credential user =>
          cases user with
          | none => exact ⟨rfl, rfl⟩
          | some user => exact names_keep preferences credential user

theorem email_appleSignIn {preferences : ApplePreferences} {credential : AppleIdCredential}
    {user : FirebaseUser} {request : AppleRequest}
    (answered : (appleSignIn setNull preferences (.authorized credential (some user))).2 =
      .ok request) :
    request.email =
      if firstAuthorization credential then credential.email.getD "" else user.email.getD "" := by
  unfold appleSignIn keep at answered
  cases first : firstAuthorization credential with
  | false =>
      simp only [first, Bool.false_eq_true, if_false, if_true] at answered
      cases answered
      rfl
  | true =>
      simp only [first, if_true] at answered
      cases given : givenNameOf setNull credential.fullName with
      | none => simp [given] at answered
      | some given' =>
          cases family : familyNameOf setNull credential.fullName with
          | none => simp [given, family] at answered
          | some family' =>
              simp only [given, family, if_true] at answered
              cases answered
              rfl

theorem answer_firstAuthorization {credential : AppleIdCredential}
    (first : firstAuthorization credential = true) (left right : ApplePreferences)
    (user : FirebaseUser) :
    (appleSignIn setNull left (.authorized credential (some user))).2 =
      (appleSignIn setNull right (.authorized credential (some user))).2 := by
  unfold appleSignIn keep
  simp only [first, if_true]
  cases givenNameOf setNull credential.fullName with
  | none => rfl
  | some given =>
      cases familyNameOf setNull credential.fullName with
      | none => rfl
      | some family => rfl

theorem answer_laterAuthorization {credential : AppleIdCredential}
    (later : firstAuthorization credential = false) (preferences : ApplePreferences)
    (user : FirebaseUser) :
    (appleSignIn setNull preferences (.authorized credential (some user))).2 =
      .ok
        { email := user.email.getD ""
          firstName := preferences.givenName
          lastName := preferences.familyName
          username := user.email.getD "" } := by
  unfold appleSignIn keep
  simp only [later, Bool.false_eq_true, if_false, if_true]
  rfl

theorem answer_eq_iff (left right : ApplePreferences) (authorization : Authorization) :
    (appleSignIn setNull left authorization).2 =
        (appleSignIn setNull right authorization).2 ↔
      ¬ ReadsKeptNames authorization ∨
        (left.givenName, left.familyName) = (right.givenName, right.familyName) := by
  cases authorization with
  | notAvailable => exact iff_of_true rfl (Or.inl id)
  | error description => exact iff_of_true rfl (Or.inl id)
  | cancelled => exact iff_of_true rfl (Or.inl id)
  | authorized credential user =>
      cases user with
      | none => exact iff_of_true rfl (Or.inl id)
      | some user =>
          cases first : firstAuthorization credential with
          | true =>
              refine iff_of_true (answer_firstAuthorization first left right user) (Or.inl ?_)
              intro later
              exact absurd (first.symm.trans later) (by decide)
          | false =>
              rw [answer_laterAuthorization first, answer_laterAuthorization first]
              have reads : ReadsKeptNames (.authorized credential (some user)) := first
              simp [reads]

theorem names_run (history : List DeviceEvent) :
    (((device setNull).run {} history).givenName,
      ((device setNull).run {} history).familyName) = namesLeft setNull history := by
  unfold namesLeft
  rw [Machine.view_run ApplePreferences.givenName (suppliedGivenName setNull)
      (fun preferences event => (names_next preferences event).1) {} history,
    Machine.view_run ApplePreferences.familyName (suppliedFamilyName setNull)
      (fun preferences event => (names_next preferences event).2) {} history]

end SignIn

/-- Two histories of a device give a sign-in the same answer exactly when Apple has told
its e-mail now, or it gives no request, or the two have left the same names. -/
theorem appleSignIn_iff (setNull : Option String) (history history' : List DeviceEvent)
    (authorization : Authorization) :
    answer setNull history authorization = answer setNull history' authorization ↔
      ¬ ReadsKeptNames authorization ∨
        namesLeft setNull history = namesLeft setNull history' := by
  unfold answer
  rw [answer_eq_iff, names_run, names_run]

/-- Somebody who has used the app before signs in after a first authorization of another
account, and gets that account's names. -/
theorem names_of_earlier_account :
    ¬ ∀ (setNull : Option String) (history history' : List DeviceEvent)
        (authorization : Authorization),
      answer setNull history authorization = answer setNull history' authorization := by
  intro always
  have same := always none
    [.signIn (.authorized
      { email := some "ola@example.no", fullName := some ⟨some "Ola", some "Nordmann"⟩ }
      (some { email := some "ola@example.no", uid := "ola" }))]
    [.signIn (.authorized
      { email := some "per@example.no", fullName := some ⟨some "Per", some "Hansen"⟩ }
      (some { email := some "per@example.no", uid := "per" }))]
    (.authorized { email := none, fullName := none }
      (some { email := some "kari@example.no", uid := "kari" }))
  have names := congrArg (fun answered => answered.toOption.map AppleRequest.firstName) same
  exact absurd names (by decide)

end FiksOpp.AppleSignIn
