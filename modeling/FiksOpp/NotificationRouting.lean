/-
Where a notification leads: `handleNotificationClick` for a tapped push message and
`NotificationScreen.onTap` for a row of the in-app list.

A payload is a JSON object.  The push reads the objects embedded in the message,
or the message itself for a bid; the in-app row decodes the same payload into
`NotificationInnerData`.
-/

import Mathlib.Algebra.GroupWithZero.Nat
import Mathlib.Data.Int.Notation
import Mathlib.Data.List.Infix

namespace FiksOpp.Notifications

/-- A decoded value.  Of doubles and lists only the text is ever looked at; a map
keeps its own text beside the entries. -/
inductive Json where
  | null
  | bool (value : Bool)
  | int (value : ℤ)
  | str (text : String)
  | other (text : String)
  | map (text : String) (entries : List (String × Json))

abbrev Payload := List (String × Json)

structure DartRuntime where
  trim : String → String
  toLowerCase : String → String
  tryParse : String → Option ℤ
  /-- Nothing where the decoder throws. -/
  jsonDecode : String → Option Json

namespace Json

def text? : Json → Option String
  | .null => none
  | .bool value => some (if value then "true" else "false")
  | .int value => some (toString value)
  | .str text => some text
  | .other text => some text
  | .map text _ => some text

def isNull : Json → Bool
  | .null => true
  | _ => false

def orElse (value other : Json) : Json :=
  if value.isNull then other else value

def isText (value : Json) (text : String) : Bool :=
  match value with
  | .str own => own == text
  | _ => false

end Json

/-- `_asInt`.  The texts of null, booleans, doubles, lists and maps are not integers,
so `int.tryParse` of such a text gives what the type test gives. -/
def asInt (dart : DartRuntime) : Json → Option ℤ
  | .int value => some value
  | .str text => dart.tryParse text
  | _ => none

namespace Payload

def get (payload : Payload) (key : String) : Json :=
  (payload.lookup key).getD .null

def containsKey (payload : Payload) (key : String) : Bool :=
  (payload.lookup key).isSome

def addAll (payload other : Payload) : Payload :=
  other.reverse ++ payload

end Payload

def hasText (text needle : String) : Bool :=
  text.toList.tails.any fun rest => needle.toList.isPrefixOf rest

def startsWithBrace (text : String) : Bool :=
  text.toList.head? == some '\x7b'

/-- `String.length` counts UTF-16 units. -/
def utf16Length (text : String) : Nat :=
  (text.toList.map fun char => if char.toNat < 65536 then 1 else 2).sum

inductive Destination where
  /-- `LIVESTREAM_FIREBASE` with 3: the dashboard changes its tab. -/
  | dashboardTab
  | myPostDetailScreen (postRequestId : ℤ)
  | bookingDetailScreen (bookingId : ℤ)
  | serviceDetailScreen (serviceId : ℤ)
  | userWalletBalanceScreen
  | chatListScreen
  | userChatScreen (userId : ℤ)
  deriving DecidableEq, Repr

inductive UserLookup where
  | found
  | missing
  | failed
  deriving DecidableEq, Repr

structure Phone where
  userId : ℤ
  getUserByIdNull : ℤ → UserLookup
  /-- Whether `getPostJobDetail` comes back with a detail. -/
  postRequestDetail : ℤ → Bool
  onlinePaymentStatus : Bool

/-- The sender unless that is the user, else the receiver. -/
def chatTarget (phone : Phone) (senderId receiverId : Option ℤ) : Option ℤ :=
  match senderId with
  | some sender => if sender ≠ phone.userId then some sender else receiverId
  | none => receiverId

def openChat (phone : Phone) (senderId receiverId : Option ℤ) : Option Destination :=
  match chatTarget phone senderId receiverId with
  | none => some .chatListScreen
  | some target =>
      if target ≤ 0 then some .chatListScreen
      else
        match phone.getUserByIdNull target with
        | .found => some (.userChatScreen target)
        | .missing => some .chatListScreen
        | .failed => none

section Push

variable (dart : DartRuntime) (phone : Phone)

def absorbJsonString (out : Payload) (raw : Option String) : Payload :=
  match raw with
  | none => out
  | some text =>
      if startsWithBrace (dart.trim text) then
        match dart.jsonDecode (dart.trim text) with
        | some (.map _ entries) => out.addAll entries
        | _ => out
      else out

def absorbEntry (merged : Payload) (entry : String × Json) : Payload :=
  match entry.2.text? with
  | none => merged
  | some text =>
      if utf16Length text < 3 then merged
      else if startsWithBrace text && entry.1 != "additional_data" then
        absorbJsonString dart merged (some text)
      else merged

def fcmMergedDataMap (data : Payload) : Payload :=
  let named := ["additional_data", "payload", "notification_data", "custom_data"].foldl
    (fun merged key => absorbJsonString dart merged (data.get key).text?) []
  data.foldl (absorbEntry dart) named

def postJobIdFromFlatBidData (data : Payload) : Option ℤ :=
  let nType := (data.get "notification-type").text?.or (data.get "notification_type").text?
  if nType = some "provider_send_bid" then
    asInt dart
      (((data.get "job_id").orElse (data.get "job_request_id")).orElse
        (data.get "post_request_id"))
  else none

def lowerText (value : Json) : Option String :=
  value.text?.map dart.toLowerCase

def isChatPush (additionalData : Payload) : Bool :=
  lowerText dart ((additionalData.get "notification-type").orElse
      (additionalData.get "notification_type")) == some "chat_message" ||
    lowerText dart (additionalData.get "check_booking_type") == some "chat" ||
    lowerText dart (additionalData.get "activity_type") == some "chat_message" ||
    ((lowerText dart (additionalData.get "type")).map (hasText · "chat")).getD false

def openChatFromPayload (additionalData : Payload) : Option Destination :=
  openChat phone (asInt dart (additionalData.get "sender_id"))
    (asInt dart (additionalData.get "receiver_id"))

def postJobIdForBid (additionalData : Payload) : Option ℤ :=
  if (additionalData.get "notification-type").text? = some "provider_send_bid" ∨
      (additionalData.get "notification_type").text? = some "provider_send_bid" then
    asInt dart
      ((((additionalData.get "job_id").orElse (additionalData.get "job_request_id")).orElse
        (additionalData.get "post_request_id")).orElse (additionalData.get "id"))
  else none

def pushBookingId (additionalData : Payload) : Option ℤ :=
  (asInt dart (additionalData.get "booking_id")).or (asInt dart (additionalData.get "id"))

/-- The `if` of the post, the booking and the wallet. -/
def pushedScreen (additionalData : Payload) : Option Destination :=
  match postJobIdForBid dart additionalData with
  | some postJobId => some (.myPostDetailScreen postJobId)
  | none =>
      if !(additionalData.get "booking_id").isNull || !(additionalData.get "id").isNull then
        if (additionalData.get "check_booking_type").isText "booking" then
          (pushBookingId dart additionalData).map .bookingDetailScreen
        else if (additionalData.get "type").isText "update_wallet" then
          some .userWalletBalanceScreen
        else none
      else none

/-- Asked for after every other screen. -/
def pushedService (additionalData : Payload) : Option Destination :=
  (asInt dart (additionalData.get "service_id")).map .serviceDetailScreen

def handleNotificationClick (data : Payload) : List Destination :=
  if data.containsKey "is_chat" then [.dashboardTab]
  else
    match postJobIdFromFlatBidData dart data with
    | some flatBidPostId => [.myPostDetailScreen flatBidPostId]
    | none =>
        let additionalData := fcmMergedDataMap dart data
        if additionalData.isEmpty then []
        else if isChatPush dart additionalData then
          (openChatFromPayload dart phone additionalData).toList
        else
          (pushedScreen dart additionalData).toList ++ (pushedService dart additionalData).toList

end Push

structure NotificationInnerData where
  id : Option ℤ
  type : Option String
  activityType : Option String
  notificationType : Option String
  checkBookingType : Option String
  jobId : Option ℤ
  bookingId : Option ℤ
  postRequestId : Option ℤ
  senderId : Option ℤ
  receiverId : Option ℤ
  deriving DecidableEq, Repr

section InApp

variable (dart : DartRuntime) (phone : Phone)

/-- `json['booking']?[key]`, which throws when the value is neither null nor a map. -/
def bookingMember (json : Payload) (key : String) : Option Json :=
  match json.get "booking" with
  | .null => some .null
  | .map _ entries => some (Payload.get entries key)
  | _ => none

/-- The last operand of `??` is evaluated only when it is needed. -/
def orElseLast (value : Json) (last : Option Json) : Option Json :=
  if value.isNull then last else some value

def bidDataMember (json : Payload) (key : String) : Json :=
  match json.get "bid_data" with
  | .map _ entries => Payload.get entries key
  | _ => .null

def bookingIdOf (json : Payload) : Option Json :=
  orElseLast (json.get "booking_id") (bookingMember json "id")

def postRequestIdOf (json : Payload) : Option Json :=
  orElseLast
    ((((json.get "post_request_id").orElse (json.get "job_request_id")).orElse
      (json.get "job_id")).orElse (bidDataMember json "post_request_id"))
    (bookingMember json "post_request_id")

/-- `NotificationInnerData.fromJson`; nothing when it throws, and then the list is
not shown. -/
def fromJson (json : Payload) : Option NotificationInnerData :=
  match bookingIdOf json, postRequestIdOf json with
  | some bookingId, some postRequestId =>
      some
        { id := asInt dart (json.get "id")
          type := (json.get "type").text?
          activityType := (json.get "activity_type").text?
          notificationType :=
            ((json.get "notification-type").orElse (json.get "notification_type")).text?
          checkBookingType := (json.get "check_booking_type").text?
          jobId := asInt dart ((json.get "job_id").orElse (json.get "job_request_id"))
          bookingId := asInt dart bookingId
          postRequestId := asInt dart postRequestId
          senderId := asInt dart (json.get "sender_id")
          receiverId := asInt dart (json.get "receiver_id") }
  | _, _ => none

def hasType (inner : NotificationInnerData) (expected : String) : Bool :=
  hasText (dart.toLowerCase (inner.notificationType.getD "")) (dart.toLowerCase expected) ||
    hasText (dart.toLowerCase (inner.type.getD "")) (dart.toLowerCase expected) ||
    hasText (dart.toLowerCase (inner.activityType.getD "")) (dart.toLowerCase expected)

def isChatNotification (inner : NotificationInnerData) : Bool :=
  hasText (dart.toLowerCase (inner.notificationType.getD "")) "chat_message" ||
    hasText (dart.toLowerCase (inner.type.getD "")) "chat" ||
    hasText (dart.toLowerCase (inner.activityType.getD "")) "chat_message" ||
    dart.toLowerCase (inner.checkBookingType.getD "") == "chat"

def resolveBookingId (inner : NotificationInnerData) : ℤ :=
  (inner.bookingId.or inner.id).getD 0

def resolvePostRequestId (inner : NotificationInnerData) : ℤ :=
  ((inner.postRequestId.or inner.jobId).or inner.id).getD 0

def openPostRequest (postRequestId : ℤ) : Option Destination :=
  if postRequestId ≤ 0 then none
  else if phone.postRequestDetail postRequestId then some (.myPostDetailScreen postRequestId)
  else none

def openChatFromNotification (inner : NotificationInnerData) : Option Destination :=
  openChat phone inner.senderId inner.receiverId

/-- `_hasType(inner, BOOKING) || _hasType(inner, PAYMENT_MESSAGE_STATUS)`. -/
def isBookingNotification (inner : NotificationInnerData) : Bool :=
  hasType dart inner "booking" || hasType dart inner "payment_message_status"

def onTap (inner : NotificationInnerData) : Option Destination :=
  if hasType dart inner "wallet" then
    if phone.onlinePaymentStatus then some .userWalletBalanceScreen else none
  else if isChatNotification dart inner then openChatFromNotification phone inner
  else if isBookingNotification dart inner then
    if 0 < resolveBookingId inner then some (.bookingDetailScreen (resolveBookingId inner))
    else none
  else if hasType dart inner "provider_send_bid" then
    openPostRequest phone (resolvePostRequestId inner)
  else if 0 < resolvePostRequestId inner then openPostRequest phone (resolvePostRequestId inner)
  else if 0 < resolveBookingId inner then some (.bookingDetailScreen (resolveBookingId inner))
  else none

def notificationTap (json : Payload) : Option Destination :=
  (fromJson dart json).bind (onTap dart phone)

end InApp

/-! ### The same notification on both sides -/

section Routing

variable (dart : DartRuntime) (phone : Phone)

/-- The payload of a message: what is embedded in it, or the message itself when
nothing is. -/
def payloadOf (data : Payload) : Payload :=
  if (fcmMergedDataMap dart data).isEmpty then data else fcmMergedDataMap dart data

def SameDestination (data : Payload) : Prop :=
  handleNotificationClick dart phone data =
      (notificationTap dart phone (payloadOf dart data)).toList ∧
    (handleNotificationClick dart phone data).length ≤ 1

/-- What a row must say for its tap to lead there, or nowhere. -/
def Lands (inner : NotificationInnerData) : Option Destination → Prop
  | some (.myPostDetailScreen postRequestId) =>
      hasType dart inner "wallet" = false ∧ isChatNotification dart inner = false ∧
        isBookingNotification dart inner = false ∧
          resolvePostRequestId inner = postRequestId ∧ 0 < postRequestId ∧
            phone.postRequestDetail postRequestId = true
  | some (.bookingDetailScreen bookingId) =>
      hasType dart inner "wallet" = false ∧ isChatNotification dart inner = false ∧
        resolveBookingId inner = bookingId ∧ 0 < bookingId ∧
          (isBookingNotification dart inner = true ∨
            hasType dart inner "provider_send_bid" = false ∧ resolvePostRequestId inner ≤ 0)
  | some .userWalletBalanceScreen =>
      hasType dart inner "wallet" = true ∧ phone.onlinePaymentStatus = true
  | some .chatListScreen =>
      hasType dart inner "wallet" = false ∧ isChatNotification dart inner = true ∧
        openChat phone inner.senderId inner.receiverId = some .chatListScreen
  | some (.userChatScreen userId) =>
      hasType dart inner "wallet" = false ∧ isChatNotification dart inner = true ∧
        openChat phone inner.senderId inner.receiverId = some (.userChatScreen userId)
  | some (.serviceDetailScreen _) => False
  | some .dashboardTab => False
  | none =>
      if hasType dart inner "wallet" then phone.onlinePaymentStatus = false
      else if isChatNotification dart inner then
        openChat phone inner.senderId inner.receiverId = none
      else if isBookingNotification dart inner then resolveBookingId inner ≤ 0
      else if 0 < resolvePostRequestId inner then
        phone.postRequestDetail (resolvePostRequestId inner) = false
      else hasType dart inner "provider_send_bid" = true ∨ resolveBookingId inner ≤ 0

def RowLands (json : Payload) (destination : Option Destination) : Prop :=
  match fromJson dart json with
  | none => destination = none
  | some inner => Lands dart phone inner destination

structure IsFlatBid (data : Payload) (postRequestId : ℤ) : Prop where
  type :
    (data.get "notification-type").text?.or (data.get "notification_type").text? =
      some "provider_send_bid"
  job :
    asInt dart
        (((data.get "job_id").orElse (data.get "job_request_id")).orElse
          (data.get "post_request_id")) =
      some postRequestId

structure IsBid (payload : Payload) (postRequestId : ℤ) : Prop where
  type :
    (payload.get "notification-type").text? = some "provider_send_bid" ∨
      (payload.get "notification_type").text? = some "provider_send_bid"
  job :
    asInt dart
        ((((payload.get "job_id").orElse (payload.get "job_request_id")).orElse
          (payload.get "post_request_id")).orElse (payload.get "id")) =
      some postRequestId

structure IsBooking (payload : Payload) (bookingId : ℤ) : Prop where
  type : (payload.get "check_booking_type").isText "booking" = true
  id : (asInt dart (payload.get "booking_id")).or (asInt dart (payload.get "id")) = some bookingId

structure IsWallet (payload : Payload) : Prop where
  id : (payload.get "booking_id").isNull = false ∨ (payload.get "id").isNull = false
  notBooking : (payload.get "check_booking_type").isText "booking" = false
  type : (payload.get "type").isText "update_wallet" = true

def LookupFails (senderId receiverId : Option ℤ) : Prop :=
  ∃ target, chatTarget phone senderId receiverId = some target ∧ 0 < target ∧
    phone.getUserByIdNull target = .failed

structure PostRow (inner : NotificationInnerData) (postRequestId : ℤ) : Prop where
  notWallet : hasType dart inner "wallet" = false
  notChat : isChatNotification dart inner = false
  notBooking : isBookingNotification dart inner = false
  id : resolvePostRequestId inner = postRequestId
  positive : 0 < postRequestId
  found : phone.postRequestDetail postRequestId = true

structure BookingRow (inner : NotificationInnerData) (bookingId : ℤ) : Prop where
  notWallet : hasType dart inner "wallet" = false
  notChat : isChatNotification dart inner = false
  id : resolveBookingId inner = bookingId
  positive : 0 < bookingId
  booking : isBookingNotification dart inner = true ∨
    hasType dart inner "provider_send_bid" = false ∧ resolvePostRequestId inner ≤ 0

/-- A row that cannot be decoded, or that lacks what its kind opens. -/
def IdleRow (json : Payload) : Prop :=
  ∀ inner, fromJson dart json = some inner →
    if hasType dart inner "wallet" then phone.onlinePaymentStatus = false
    else if isChatNotification dart inner then LookupFails phone inner.senderId inner.receiverId
    else if isBookingNotification dart inner then resolveBookingId inner ≤ 0
    else if 0 < resolvePostRequestId inner then
      phone.postRequestDetail (resolvePostRequestId inner) = false
    else hasType dart inner "provider_send_bid" = true ∨ resolveBookingId inner ≤ 0

/-- Nothing is looked at before the payload's own kind, and no service after it. -/
structure Plain (data : Payload) : Prop where
  notTab : data.containsKey "is_chat" = false
  notFlatBid : ∀ postRequestId, ¬ IsFlatBid dart data postRequestId
  notChat : isChatPush dart (fcmMergedDataMap dart data) = false
  notService : asInt dart ((fcmMergedDataMap dart data).get "service_id") = none

/-- The messages whose entries both taps understand alike, kind by kind. -/
inductive RoutesAlike (data : Payload) : Prop
  | flatBid (postRequestId : ℤ) (inner : NotificationInnerData)
      (notTab : data.containsKey "is_chat" = false) (bid : IsFlatBid dart data postRequestId)
      (decoded : fromJson dart (payloadOf dart data) = some inner)
      (row : PostRow dart phone inner postRequestId)
  | chat (inner : NotificationInnerData) (notTab : data.containsKey "is_chat" = false)
      (notFlatBid : ∀ postRequestId, ¬ IsFlatBid dart data postRequestId)
      (chat : isChatPush dart (fcmMergedDataMap dart data) = true)
      (decoded : fromJson dart (payloadOf dart data) = some inner)
      (notWallet : hasType dart inner "wallet" = false)
  | lostChat (notTab : data.containsKey "is_chat" = false)
      (notFlatBid : ∀ postRequestId, ¬ IsFlatBid dart data postRequestId)
      (chat : isChatPush dart (fcmMergedDataMap dart data) = true)
      (fails : LookupFails phone (asInt dart ((payloadOf dart data).get "sender_id"))
        (asInt dart ((payloadOf dart data).get "receiver_id")))
      (row : ∀ inner, fromJson dart (payloadOf dart data) = some inner →
        hasType dart inner "wallet" = true ∧ phone.onlinePaymentStatus = false)
  | bid (postRequestId : ℤ) (inner : NotificationInnerData) (plain : Plain dart data)
      (bid : IsBid dart (fcmMergedDataMap dart data) postRequestId)
      (decoded : fromJson dart (payloadOf dart data) = some inner)
      (row : PostRow dart phone inner postRequestId)
  | booking (bookingId : ℤ) (inner : NotificationInnerData) (plain : Plain dart data)
      (notBid : ∀ postRequestId, ¬ IsBid dart (fcmMergedDataMap dart data) postRequestId)
      (booking : IsBooking dart (fcmMergedDataMap dart data) bookingId)
      (decoded : fromJson dart (payloadOf dart data) = some inner)
      (row : BookingRow dart inner bookingId)
  | wallet (inner : NotificationInnerData) (plain : Plain dart data)
      (notBid : ∀ postRequestId, ¬ IsBid dart (fcmMergedDataMap dart data) postRequestId)
      (wallet : IsWallet (fcmMergedDataMap dart data))
      (decoded : fromJson dart (payloadOf dart data) = some inner)
      (row : hasType dart inner "wallet" = true) (payments : phone.onlinePaymentStatus = true)
  | idle (plain : Plain dart data)
      (notBid : ∀ postRequestId, ¬ IsBid dart (fcmMergedDataMap dart data) postRequestId)
      (notBooking : ∀ bookingId, ¬ IsBooking dart (fcmMergedDataMap dart data) bookingId)
      (notWallet : ¬ IsWallet (fcmMergedDataMap dart data))
      (row : IdleRow dart phone (payloadOf dart data))

theorem postJobIdFromFlatBidData_eq_some_iff (data : Payload) (postRequestId : ℤ) :
    postJobIdFromFlatBidData dart data = some postRequestId ↔
      IsFlatBid dart data postRequestId := by
  unfold postJobIdFromFlatBidData
  dsimp only
  split
  · rename_i type
    exact ⟨fun job => ⟨type, job⟩, fun bid => bid.job⟩
  · rename_i other
    exact iff_of_false nofun (fun bid => other bid.type)

theorem postJobIdFromFlatBidData_eq_none_iff (data : Payload) :
    postJobIdFromFlatBidData dart data = none ↔
      ∀ postRequestId, ¬ IsFlatBid dart data postRequestId := by
  rw [Option.eq_none_iff_forall_ne_some]
  exact forall_congr' fun postRequestId =>
    not_congr (postJobIdFromFlatBidData_eq_some_iff dart data postRequestId)

theorem postJobIdForBid_eq_some_iff (payload : Payload) (postRequestId : ℤ) :
    postJobIdForBid dart payload = some postRequestId ↔ IsBid dart payload postRequestId := by
  unfold postJobIdForBid
  split
  · rename_i type
    exact ⟨fun job => ⟨type, job⟩, fun bid => bid.job⟩
  · rename_i other
    exact iff_of_false nofun (fun bid => other bid.type)

theorem postJobIdForBid_eq_none_iff (payload : Payload) :
    postJobIdForBid dart payload = none ↔
      ∀ postRequestId, ¬ IsBid dart payload postRequestId := by
  rw [Option.eq_none_iff_forall_ne_some]
  exact forall_congr' fun postRequestId =>
    not_congr (postJobIdForBid_eq_some_iff dart payload postRequestId)

/-! ### One row -/

theorem openPostRequest_eq_some_iff (postRequestId : ℤ) (destination : Destination) :
    openPostRequest phone postRequestId = some destination ↔
      destination = .myPostDetailScreen postRequestId ∧ 0 < postRequestId ∧
        phone.postRequestDetail postRequestId = true := by
  unfold openPostRequest
  split
  · grind
  · grind

theorem openPostRequest_eq_none_iff (postRequestId : ℤ) :
    openPostRequest phone postRequestId = none ↔
      postRequestId ≤ 0 ∨ phone.postRequestDetail postRequestId = false := by
  unfold openPostRequest
  split
  · grind
  · grind

theorem openChat_cases (senderId receiverId : Option ℤ) :
    openChat phone senderId receiverId = some .chatListScreen ∨
      openChat phone senderId receiverId = none ∨
        ∃ userId, openChat phone senderId receiverId = some (.userChatScreen userId) := by
  unfold openChat
  cases chatTarget phone senderId receiverId with
  | none => exact Or.inl rfl
  | some target =>
      dsimp only
      by_cases invalid : target ≤ 0
      · rw [if_pos invalid]
        exact Or.inl rfl
      · rw [if_neg invalid]
        cases phone.getUserByIdNull target with
        | found => exact Or.inr (Or.inr ⟨target, rfl⟩)
        | missing => exact Or.inl rfl
        | failed => exact Or.inr (Or.inl rfl)

theorem openChat_eq_none_iff (senderId receiverId : Option ℤ) :
    openChat phone senderId receiverId = none ↔ LookupFails phone senderId receiverId := by
  unfold openChat LookupFails
  cases chatTarget phone senderId receiverId with
  | none => exact iff_of_false nofun (fun fails => nomatch fails.choose_spec.1)
  | some target =>
      dsimp only
      by_cases invalid : target ≤ 0
      · rw [if_pos invalid]
        refine iff_of_false nofun ?_
        rintro ⟨_, same, positive, _⟩
        cases same
        omega
      · rw [if_neg invalid]
        cases answer : phone.getUserByIdNull target with
        | failed => exact iff_of_true rfl ⟨target, rfl, Int.not_le.mp invalid, answer⟩
        | found =>
            refine iff_of_false nofun ?_
            rintro ⟨_, same, _, failed⟩
            cases same
            rw [answer] at failed
            cases failed
        | missing =>
            refine iff_of_false nofun ?_
            rintro ⟨_, same, _, failed⟩
            cases same
            rw [answer] at failed
            cases failed

theorem onTap_eq_iff (inner : NotificationInnerData) (destination : Option Destination) :
    onTap dart phone inner = destination ↔ Lands dart phone inner destination := by
  unfold onTap Lands
  cases wallet : hasType dart inner "wallet" with
  | true => grind
  | false =>
      cases chat : isChatNotification dart inner with
      | true =>
          have possible := openChat_cases phone inner.senderId inner.receiverId
          unfold openChatFromNotification
          grind
      | false =>
          cases booking : isBookingNotification dart inner with
          | true => grind
          | false =>
              have post := openPostRequest_eq_some_iff phone (resolvePostRequestId inner)
              have noPost := openPostRequest_eq_none_iff phone (resolvePostRequestId inner)
              grind

theorem notificationTap_eq_iff (json : Payload) (destination : Option Destination) :
    notificationTap dart phone json = destination ↔ RowLands dart phone json destination := by
  unfold notificationTap RowLands
  cases fromJson dart json with
  | none => exact eq_comm
  | some inner => exact onTap_eq_iff dart phone inner destination

/-- A tap that opens something leads where the message's fields say. -/
theorem lands_of_notificationTap {json : Payload} {destination : Destination}
    (opens : notificationTap dart phone json = some destination) :
    ∃ inner, Lands dart phone inner (some destination) := by
  have lands := (notificationTap_eq_iff dart phone json _).mp opens
  unfold RowLands at lands
  cases decoded : fromJson dart json with
  | none =>
      rw [decoded] at lands
      cases lands
  | some inner =>
      rw [decoded] at lands
      exact ⟨inner, lands⟩

theorem notificationTap_ne_service (json : Payload) (serviceId : ℤ) :
    notificationTap dart phone json ≠ some (.serviceDetailScreen serviceId) := by
  intro opens
  obtain ⟨_, lands⟩ := lands_of_notificationTap dart phone opens
  exact lands

theorem notificationTap_ne_dashboardTab (json : Payload) :
    notificationTap dart phone json ≠ some .dashboardTab := by
  intro opens
  obtain ⟨_, lands⟩ := lands_of_notificationTap dart phone opens
  exact lands

theorem toList_eq_toList_iff (left right : Option Destination) :
    left.toList = right.toList ↔ left = right := by
  constructor
  · intro same
    have heads := congrArg List.head? same
    rwa [Option.head?_toList, Option.head?_toList] at heads
  · intro same
    rw [same]

theorem same_toList_iff (json : Payload) (destination : Option Destination) :
    (destination.toList = (notificationTap dart phone json).toList ∧
        destination.toList.length ≤ 1) ↔
      RowLands dart phone json destination := by
  have short : destination.toList.length ≤ 1 := by
    cases destination with
    | none => exact Nat.zero_le 1
    | some screen => exact Nat.le_refl 1
  rw [toList_eq_toList_iff, and_iff_left short, eq_comm]
  exact notificationTap_eq_iff dart phone json destination

theorem same_append_service_iff (json : Payload) (screen : Option Destination)
    (serviceId : Option ℤ) :
    (screen.toList ++ (serviceId.map Destination.serviceDetailScreen).toList =
          (notificationTap dart phone json).toList ∧
        (screen.toList ++ (serviceId.map Destination.serviceDetailScreen).toList).length ≤ 1) ↔
      serviceId = none ∧ RowLands dart phone json screen := by
  cases serviceId with
  | none =>
      rw [Option.map_none, Option.toList_none, List.append_nil]
      rw [same_toList_iff, eq_self, true_and]
  | some id =>
      refine iff_of_false ?_ ?_
      · intro same
        obtain ⟨same, short⟩ := same
        cases screen with
        | none =>
            apply notificationTap_ne_service dart phone json id
            exact ((toList_eq_toList_iff (some (.serviceDetailScreen id)) _).mp same).symm
        | some first =>
            have two : ¬ 2 ≤ 1 := by omega
            exact two short
      · intro impossible
        cases impossible.1

theorem isNull_of_asInt {value : Json} {id : ℤ} (found : asInt dart value = some id) :
    value.isNull = false := by
  cases value with
  | null => cases found
  | _ => rfl

theorem notNull_of_pushBookingId {payload : Payload} {bookingId : ℤ}
    (found : pushBookingId dart payload = some bookingId) :
    (!(payload.get "booking_id").isNull || !(payload.get "id").isNull) = true := by
  rcases Option.or_eq_some_iff.mp found with own | ⟨_, other⟩
  · rw [isNull_of_asInt dart own]
    rfl
  · rw [isNull_of_asInt dart other, Bool.not_false, Bool.or_true]

theorem pushedScreen_cases (payload : Payload) :
    (∃ postRequestId, IsBid dart payload postRequestId ∧
        pushedScreen dart payload = some (.myPostDetailScreen postRequestId)) ∨
      (∀ postRequestId, ¬ IsBid dart payload postRequestId) ∧
        ((∃ bookingId, IsBooking dart payload bookingId ∧
            pushedScreen dart payload = some (.bookingDetailScreen bookingId)) ∨
          (IsWallet payload ∧ pushedScreen dart payload = some .userWalletBalanceScreen) ∨
          ((∀ bookingId, ¬ IsBooking dart payload bookingId) ∧ ¬ IsWallet payload ∧
            pushedScreen dart payload = none)) := by
  unfold pushedScreen
  cases job : postJobIdForBid dart payload with
  | some postRequestId =>
      exact Or.inl ⟨postRequestId, (postJobIdForBid_eq_some_iff dart payload _).mp job, rfl⟩
  | none =>
      refine Or.inr ⟨(postJobIdForBid_eq_none_iff dart payload).mp job, ?_⟩
      dsimp only
      cases booking : (payload.get "check_booking_type").isText "booking" with
      | true =>
          have notWallet : ¬ IsWallet payload := fun wallet => by
            have other := wallet.notBooking
            rw [booking] at other
            cases other
          cases id : pushBookingId dart payload with
          | none =>
              refine Or.inr (Or.inr ⟨fun bookingId asked => ?_, notWallet, ?_⟩)
              · rw [pushBookingId, asked.id] at id
                cases id
              · rw [if_pos rfl, Option.map_none, ite_self]
          | some bookingId =>
              refine Or.inl ⟨bookingId, ⟨booking, id⟩, ?_⟩
              rw [if_pos (notNull_of_pushBookingId dart id), if_pos rfl, Option.map_some]
      | false =>
          have notBooking : ∀ bookingId, ¬ IsBooking dart payload bookingId :=
            fun bookingId asked => by
              have type := asked.type
              rw [booking] at type
              cases type
          rw [if_neg Bool.false_ne_true]
          cases wallet : (payload.get "type").isText "update_wallet" with
          | true =>
              cases present : !(payload.get "booking_id").isNull || !(payload.get "id").isNull with
              | true =>
                  have id : (payload.get "booking_id").isNull = false ∨
                      (payload.get "id").isNull = false := by
                    rwa [Bool.or_eq_true, Bool.not_eq_true', Bool.not_eq_true'] at present
                  exact Or.inr (Or.inl ⟨⟨id, booking, wallet⟩, rfl⟩)
              | false =>
                  refine Or.inr (Or.inr ⟨notBooking, fun asked => ?_, rfl⟩)
                  have id := asked.id
                  rw [Bool.or_eq_false_iff, Bool.not_eq_false', Bool.not_eq_false'] at present
                  rw [present.1, present.2] at id
                  rcases id with own | other
                  · cases own
                  · cases other
          | false =>
              refine Or.inr (Or.inr ⟨notBooking, fun asked => ?_, ?_⟩)
              · have type := asked.type
                rw [wallet] at type
                cases type
              · rw [if_neg Bool.false_ne_true, ite_self]

theorem IsBid.pushedScreen_eq {payload : Payload} {postRequestId : ℤ}
    (bid : IsBid dart payload postRequestId) :
    pushedScreen dart payload = some (.myPostDetailScreen postRequestId) := by
  unfold pushedScreen
  rw [(postJobIdForBid_eq_some_iff dart payload postRequestId).mpr bid]

theorem IsBooking.pushedScreen_eq {payload : Payload} {bookingId : ℤ}
    (booking : IsBooking dart payload bookingId)
    (notBid : ∀ postRequestId, ¬ IsBid dart payload postRequestId) :
    pushedScreen dart payload = some (.bookingDetailScreen bookingId) := by
  rcases pushedScreen_cases dart payload with ⟨postRequestId, bid, _⟩ |
    ⟨_, ⟨other, asked, screen⟩ | ⟨wallet, _⟩ | ⟨notBooking, _⟩⟩
  · exact absurd bid (notBid postRequestId)
  · rw [screen, Option.some.inj (asked.id.symm.trans booking.id)]
  · exact absurd (booking.type.symm.trans wallet.notBooking) nofun
  · exact absurd booking (notBooking bookingId)

theorem IsWallet.pushedScreen_eq {payload : Payload} (wallet : IsWallet payload)
    (notBid : ∀ postRequestId, ¬ IsBid dart payload postRequestId) :
    pushedScreen dart payload = some .userWalletBalanceScreen := by
  rcases pushedScreen_cases dart payload with ⟨postRequestId, bid, _⟩ |
    ⟨_, ⟨_, booking, _⟩ | ⟨_, screen⟩ | ⟨_, notWallet, _⟩⟩
  · exact absurd bid (notBid postRequestId)
  · exact absurd (booking.type.symm.trans wallet.notBooking) nofun
  · exact screen
  · exact absurd wallet notWallet

theorem pushedScreen_eq_none {payload : Payload}
    (notBid : ∀ postRequestId, ¬ IsBid dart payload postRequestId)
    (notBooking : ∀ bookingId, ¬ IsBooking dart payload bookingId)
    (notWallet : ¬ IsWallet payload) :
    pushedScreen dart payload = none := by
  rcases pushedScreen_cases dart payload with ⟨postRequestId, bid, _⟩ |
    ⟨_, ⟨bookingId, booking, _⟩ | ⟨wallet, _⟩ | ⟨_, _, screen⟩⟩
  · exact absurd bid (notBid postRequestId)
  · exact absurd booking (notBooking bookingId)
  · exact absurd wallet notWallet
  · exact screen

theorem isChatPush_nil : isChatPush dart [] = false := rfl

theorem pushedScreen_nil : pushedScreen dart [] = none := rfl

theorem asInt_get_nil (key : String) : asInt dart (Payload.get [] key) = none := rfl

/-- The row leads where the push asks for a screen. -/
def LandsThere (data : Payload) : Prop :=
  data.containsKey "is_chat" = false ∧
    match postJobIdFromFlatBidData dart data with
    | some flatBidPostId =>
        RowLands dart phone (payloadOf dart data) (some (.myPostDetailScreen flatBidPostId))
    | none =>
        if isChatPush dart (fcmMergedDataMap dart data) then
          RowLands dart phone (payloadOf dart data)
            (openChatFromPayload dart phone (payloadOf dart data))
        else
          asInt dart ((fcmMergedDataMap dart data).get "service_id") = none ∧
            RowLands dart phone (payloadOf dart data)
              (pushedScreen dart (fcmMergedDataMap dart data))

theorem sameDestination_iff_landsThere (data : Payload) :
    SameDestination dart phone data ↔ LandsThere dart phone data := by
  unfold SameDestination LandsThere handleNotificationClick
  cases chatTab : data.containsKey "is_chat" with
  | true =>
      rw [if_pos rfl]
      refine iff_of_false ?_ ?_
      · intro same
        apply notificationTap_ne_dashboardTab dart phone (payloadOf dart data)
        exact ((toList_eq_toList_iff (some .dashboardTab) _).mp same.1).symm
      · intro impossible
        cases impossible.1
  | false =>
      rw [if_neg Bool.false_ne_true, eq_self, true_and]
      cases postJobIdFromFlatBidData dart data with
      | some flatBidPostId =>
          exact same_toList_iff dart phone (payloadOf dart data)
            (some (.myPostDetailScreen flatBidPostId))
      | none =>
          dsimp only
          unfold payloadOf
          cases empty : (fcmMergedDataMap dart data).isEmpty with
          | true =>
              rw [List.isEmpty_iff.mp empty, isChatPush_nil, pushedScreen_nil]
              simp only [if_true, Bool.false_eq_true, if_false]
              rw [and_iff_right (asInt_get_nil dart "service_id")]
              exact same_toList_iff dart phone data none
          | false =>
              simp only [Bool.false_eq_true, if_false]
              cases isChatPush dart (fcmMergedDataMap dart data) with
              | true =>
                  rw [if_pos rfl, if_pos rfl]
                  exact same_toList_iff dart phone _ _
              | false =>
                  rw [if_neg Bool.false_ne_true, if_neg Bool.false_ne_true]
                  exact same_append_service_iff dart phone _ _ _

/-! ### The row, kind by kind -/

theorem rowLands_some_iff (json : Payload) (destination : Destination) :
    RowLands dart phone json (some destination) ↔
      ∃ inner, fromJson dart json = some inner ∧
        Lands dart phone inner (some destination) := by
  unfold RowLands
  cases fromJson dart json with
  | none =>
      exact iff_of_false (Option.some_ne_none destination)
        (fun decoded => nomatch decoded.choose_spec.1)
  | some inner =>
      constructor
      · intro lands
        exact ⟨inner, rfl, lands⟩
      · rintro ⟨_, same, lands⟩
        cases same
        exact lands

theorem rowLands_post_iff (json : Payload) (postRequestId : ℤ) :
    RowLands dart phone json (some (.myPostDetailScreen postRequestId)) ↔
      ∃ inner, fromJson dart json = some inner ∧ PostRow dart phone inner postRequestId := by
  rw [rowLands_some_iff]
  refine exists_congr fun inner => and_congr_right fun _ => ?_
  constructor
  · rintro ⟨notWallet, notChat, notBooking, id, positive, found⟩
    exact ⟨notWallet, notChat, notBooking, id, positive, found⟩
  · rintro ⟨notWallet, notChat, notBooking, id, positive, found⟩
    exact ⟨notWallet, notChat, notBooking, id, positive, found⟩

theorem rowLands_booking_iff (json : Payload) (bookingId : ℤ) :
    RowLands dart phone json (some (.bookingDetailScreen bookingId)) ↔
      ∃ inner, fromJson dart json = some inner ∧ BookingRow dart inner bookingId := by
  rw [rowLands_some_iff]
  refine exists_congr fun inner => and_congr_right fun _ => ?_
  constructor
  · rintro ⟨notWallet, notChat, id, positive, booking⟩
    exact ⟨notWallet, notChat, id, positive, booking⟩
  · rintro ⟨notWallet, notChat, id, positive, booking⟩
    exact ⟨notWallet, notChat, id, positive, booking⟩

theorem rowLands_none_iff (json : Payload) :
    RowLands dart phone json none ↔ IdleRow dart phone json := by
  unfold RowLands IdleRow Lands
  cases fromJson dart json with
  | none => exact iff_of_true rfl (fun _ decoded => nomatch decoded)
  | some inner =>
      simp only [Option.some.injEq, forall_eq', openChat_eq_none_iff]

theorem fromJson_eq_some {json : Payload} {inner : NotificationInnerData}
    (decoded : fromJson dart json = some inner) :
    inner.type = (json.get "type").text? ∧
      inner.activityType = (json.get "activity_type").text? ∧
      inner.notificationType =
        ((json.get "notification-type").orElse (json.get "notification_type")).text? ∧
      inner.checkBookingType = (json.get "check_booking_type").text? ∧
      inner.senderId = asInt dart (json.get "sender_id") ∧
      inner.receiverId = asInt dart (json.get "receiver_id") := by
  unfold fromJson at decoded
  split at decoded
  · cases decoded
    exact ⟨rfl, rfl, rfl, rfl, rfl, rfl⟩
  · cases decoded

theorem hasText_self (text : String) : hasText text text = true := by
  apply List.any_eq_true.mpr
  exact ⟨text.toList, (List.mem_tails _ _).mpr (List.suffix_refl _),
    List.isPrefixOf_iff_prefix.mpr (List.prefix_refl _)⟩

theorem lowerText_getD {value : Json} {text : String}
    (lower : (lowerText dart value == some text) = true) :
    dart.toLowerCase (value.text?.getD "") = text := by
  unfold lowerText at lower
  cases own : value.text? with
  | none =>
      rw [own] at lower
      cases lower
  | some written =>
      rw [own] at lower
      exact Option.some.inj (eq_of_beq lower)

theorem isChatNotification_of_isChatPush {payload : Payload} {inner : NotificationInnerData}
    (chat : isChatPush dart payload = true) (decoded : fromJson dart payload = some inner) :
    isChatNotification dart inner = true := by
  obtain ⟨type, activityType, notificationType, checkBookingType, _⟩ :=
    fromJson_eq_some dart decoded
  unfold isChatNotification
  rw [type, activityType, notificationType, checkBookingType]
  simp only [isChatPush, Bool.or_eq_true] at chat ⊢
  rcases chat with ((notified | booked) | active) | typed
  · rw [lowerText_getD dart notified]
    exact Or.inl (Or.inl (Or.inl (hasText_self _)))
  · rw [lowerText_getD dart booked]
    exact Or.inr rfl
  · rw [lowerText_getD dart active]
    exact Or.inl (Or.inr (hasText_self _))
  · refine Or.inl (Or.inl (Or.inr ?_))
    unfold lowerText at typed
    cases own : (payload.get "type").text? with
    | none =>
        rw [own] at typed
        cases typed
    | some text =>
        rw [own] at typed
        exact typed

theorem payloadOf_of_chat {data : Payload}
    (chat : isChatPush dart (fcmMergedDataMap dart data) = true) :
    payloadOf dart data = fcmMergedDataMap dart data := by
  unfold payloadOf
  apply if_neg
  intro empty
  rw [List.isEmpty_iff.mp empty, isChatPush_nil] at chat
  cases chat

/-- Both taps look up the same party, so a row that says no wallet leads where the push
leads. -/
theorem rowLands_chat_iff {json : Payload} (chat : isChatPush dart json = true) :
    RowLands dart phone json (openChatFromPayload dart phone json) ↔
      (∃ inner, fromJson dart json = some inner ∧ hasType dart inner "wallet" = false) ∨
      (LookupFails phone (asInt dart (json.get "sender_id"))
          (asInt dart (json.get "receiver_id")) ∧
        ∀ inner, fromJson dart json = some inner →
          hasType dart inner "wallet" = true ∧ phone.onlinePaymentStatus = false) := by
  rw [← notificationTap_eq_iff, ← openChat_eq_none_iff]
  unfold notificationTap openChatFromPayload
  cases decoded : fromJson dart json with
  | none =>
      constructor
      · intro nowhere
        exact Or.inr ⟨nowhere.symm, fun _ decodedRow => nomatch decodedRow⟩
      · rintro (⟨_, impossible, _⟩ | ⟨fails, _⟩)
        · cases impossible
        · exact fails.symm
  | some inner =>
      obtain ⟨_, _, _, _, senderId, receiverId⟩ := fromJson_eq_some dart decoded
      have chatRow := isChatNotification_of_isChatPush dart chat decoded
      rw [Option.bind_some, onTap, openChatFromNotification, chatRow, senderId, receiverId]
      cases wallet : hasType dart inner "wallet" with
      | false =>
          rw [if_neg Bool.false_ne_true, if_pos rfl]
          exact iff_of_true rfl (Or.inl ⟨inner, rfl, wallet⟩)
      | true =>
          rw [if_pos rfl]
          constructor
          · intro same
            cases payments : phone.onlinePaymentStatus with
            | true =>
                -- a chat never opens the wallet
                rw [payments, if_pos rfl] at same
                rcases openChat_cases phone (asInt dart (json.get "sender_id"))
                  (asInt dart (json.get "receiver_id")) with list | nowhere | ⟨_, opened⟩
                · rw [list] at same
                  cases same
                · rw [nowhere] at same
                  cases same
                · rw [opened] at same
                  cases same
            | false =>
                rw [payments, if_neg Bool.false_ne_true] at same
                refine Or.inr ⟨same.symm, ?_⟩
                intro row decodedRow
                cases decodedRow
                exact ⟨wallet, rfl⟩
          · rintro (⟨row, decodedRow, notWallet⟩ | ⟨fails, row⟩)
            · cases decodedRow
              rw [wallet] at notWallet
              cases notWallet
            · rw [(row inner rfl).2, if_neg Bool.false_ne_true]
              exact fails.symm

theorem Plain.landsThere {data : Payload} (plain : Plain dart data) {screen : Option Destination}
    (pushed : pushedScreen dart (fcmMergedDataMap dart data) = screen)
    (row : RowLands dart phone (payloadOf dart data) screen) :
    LandsThere dart phone data := by
  refine ⟨plain.notTab, ?_⟩
  rw [(postJobIdFromFlatBidData_eq_none_iff dart data).mpr plain.notFlatBid]
  dsimp only
  rw [plain.notChat, if_neg Bool.false_ne_true, pushed]
  exact ⟨plain.notService, row⟩

theorem Plain.routesAlike {data : Payload} (plain : Plain dart data)
    (lands : RowLands dart phone (payloadOf dart data)
      (pushedScreen dart (fcmMergedDataMap dart data))) :
    RoutesAlike dart phone data := by
  rcases pushedScreen_cases dart (fcmMergedDataMap dart data) with
    ⟨postRequestId, bid, screen⟩ | ⟨notBid, kinds⟩
  · rw [screen] at lands
    obtain ⟨inner, decoded, row⟩ := (rowLands_post_iff dart phone _ _).mp lands
    exact .bid postRequestId inner plain bid decoded row
  · rcases kinds with ⟨bookingId, booking, screen⟩ | ⟨wallet, screen⟩ |
      ⟨notBooking, notWallet, screen⟩
    · rw [screen] at lands
      obtain ⟨inner, decoded, row⟩ := (rowLands_booking_iff dart phone _ _).mp lands
      exact .booking bookingId inner plain notBid booking decoded row
    · rw [screen] at lands
      obtain ⟨inner, decoded, row, payments⟩ := (rowLands_some_iff dart phone _ _).mp lands
      exact .wallet inner plain notBid wallet decoded row payments
    · rw [screen] at lands
      exact .idle plain notBid notBooking notWallet ((rowLands_none_iff dart phone _).mp lands)

/-- Both taps lead to one and the same place exactly for these messages. -/
theorem sameDestination_iff (data : Payload) :
    SameDestination dart phone data ↔ RoutesAlike dart phone data := by
  rw [sameDestination_iff_landsThere]
  constructor
  · rintro ⟨notTab, lands⟩
    cases flat : postJobIdFromFlatBidData dart data with
    | some flatBidPostId =>
        rw [flat] at lands
        obtain ⟨inner, decoded, row⟩ := (rowLands_post_iff dart phone _ _).mp lands
        exact .flatBid flatBidPostId inner notTab
          ((postJobIdFromFlatBidData_eq_some_iff dart data _).mp flat) decoded row
    | none =>
        rw [flat] at lands
        have notFlatBid := (postJobIdFromFlatBidData_eq_none_iff dart data).mp flat
        cases chat : isChatPush dart (fcmMergedDataMap dart data) with
        | true =>
            rw [chat, if_pos rfl] at lands
            have same := payloadOf_of_chat dart chat
            rcases (rowLands_chat_iff dart phone (same.symm ▸ chat)).mp lands with
              ⟨inner, decoded, notWallet⟩ | ⟨fails, row⟩
            · exact .chat inner notTab notFlatBid chat decoded notWallet
            · exact .lostChat notTab notFlatBid chat fails row
        | false =>
            rw [chat, if_neg Bool.false_ne_true] at lands
            obtain ⟨notService, lands⟩ := lands
            exact Plain.routesAlike dart phone ⟨notTab, notFlatBid, chat, notService⟩ lands
  · intro alike
    cases alike with
    | flatBid postRequestId inner notTab bid decoded row =>
        refine ⟨notTab, ?_⟩
        rw [(postJobIdFromFlatBidData_eq_some_iff dart data _).mpr bid]
        exact (rowLands_post_iff dart phone _ _).mpr ⟨inner, decoded, row⟩
    | chat inner notTab notFlatBid chat decoded notWallet =>
        refine ⟨notTab, ?_⟩
        rw [(postJobIdFromFlatBidData_eq_none_iff dart data).mpr notFlatBid]
        dsimp only
        rw [chat, if_pos rfl]
        have same := payloadOf_of_chat dart chat
        exact (rowLands_chat_iff dart phone (same.symm ▸ chat)).mpr
          (Or.inl ⟨inner, decoded, notWallet⟩)
    | lostChat notTab notFlatBid chat fails row =>
        refine ⟨notTab, ?_⟩
        rw [(postJobIdFromFlatBidData_eq_none_iff dart data).mpr notFlatBid]
        dsimp only
        rw [chat, if_pos rfl]
        have same := payloadOf_of_chat dart chat
        exact (rowLands_chat_iff dart phone (same.symm ▸ chat)).mpr (Or.inr ⟨fails, row⟩)
    | bid postRequestId inner plain bid decoded row =>
        refine plain.landsThere dart phone (bid.pushedScreen_eq dart) ?_
        exact (rowLands_post_iff dart phone _ _).mpr ⟨inner, decoded, row⟩
    | booking bookingId inner plain notBid booking decoded row =>
        refine plain.landsThere dart phone (booking.pushedScreen_eq dart notBid) ?_
        exact (rowLands_booking_iff dart phone _ _).mpr ⟨inner, decoded, row⟩
    | wallet inner plain notBid wallet decoded row payments =>
        refine plain.landsThere dart phone (wallet.pushedScreen_eq dart notBid) ?_
        exact (rowLands_some_iff dart phone _ _).mpr ⟨inner, decoded, row, payments⟩
    | idle plain notBid notBooking notWallet row =>
        refine plain.landsThere dart phone
          (pushedScreen_eq_none dart notBid notBooking notWallet) ?_
        exact (rowLands_none_iff dart phone _).mpr row

end Routing

def bookingWithService : Payload :=
  [("type", .str "add_booking"), ("check_booking_type", .str "booking"),
    ("booking_id", .str "12"), ("service_id", .str "3")]

def bookingWithServiceText : String :=
  "\x7b\"type\":\"add_booking\",\"check_booking_type\":\"booking\"," ++
    "\"booking_id\":\"12\",\"service_id\":\"3\"\x7d"

def bookingRuntime : DartRuntime :=
  { trim := id
    toLowerCase := id
    tryParse := fun text => [("12", 12), ("3", 3)].lookup text
    jsonDecode := fun text =>
      if text = bookingWithServiceText then
        some (.map
          "\x7btype: add_booking, check_booking_type: booking, booking_id: 12, service_id: 3\x7d"
          bookingWithService)
      else none }

def bookingPhone : Phone :=
  { userId := 1
    getUserByIdNull := fun _ => .found
    postRequestDetail := fun _ => true
    onlinePaymentStatus := true }

theorem booking_with_service_opens_two_screens :
    ¬ ∀ (dart : DartRuntime) (phone : Phone) (data : Payload),
      SameDestination dart phone data := by
  intro claimed
  have short := (claimed bookingRuntime bookingPhone
    [("additional_data", .str bookingWithServiceText)]).2
  revert short
  decide +kernel

end FiksOpp.Notifications
