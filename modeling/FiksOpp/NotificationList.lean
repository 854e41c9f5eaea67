/-
The rows of `NotificationScreen`.

`_dedupeNotifications` joins seven fields of a notification into one text and shows the first
notification of each text.  The texts are joined as they come, with a bar between them.
-/

import FiksOpp.Constants
import FiksOpp.Foundations.FirstOfKey
import FiksOpp.Foundations.JoinedFields
import FiksOpp.NotificationRouting
import Mathlib

namespace FiksOpp.Notifications

open FirstOfKey
open JoinedFields

/-- With the message, which the screen shows. -/
structure ListedInnerData extends NotificationInnerData where
  message : Option String
  deriving DecidableEq, Repr

structure NotificationData where
  id : Option String
  createdAt : Option String
  data : Option ListedInnerData
  deriving DecidableEq, Repr

/-- What two notifications have in common when one is shown for both. -/
structure Said where
  id : String
  createdAt : String
  notificationType : String
  activityType : String
  message : String
  bookingId : ℤ
  postRequestId : ℤ
  deriving DecidableEq, Repr

def NotificationData.said (notification : NotificationData) : Said :=
  { id := validateText notification.id
    createdAt := validateText notification.createdAt
    notificationType := validateText (notification.data.bind fun d => d.notificationType)
    activityType := validateText (notification.data.bind fun d => d.activityType)
    message := validateText (notification.data.bind fun d => d.message)
    bookingId := (notification.data.bind fun d => d.bookingId).getD 0
    postRequestId := (notification.data.bind fun d => d.postRequestId).getD 0 }

def Said.fields (said : Said) : List String :=
  [said.id, said.createdAt, said.notificationType, said.activityType, said.message,
    toString said.bookingId, toString said.postRequestId]

def NotificationData.key (notification : NotificationData) : String :=
  "|".intercalate notification.said.fields

def dedupeNotifications (input : List NotificationData) : List NotificationData :=
  firstOfKey NotificationData.key [] input

/-- The message may hold bars. -/
def NotificationData.Unbarred (notification : NotificationData) : Prop :=
  ∀ text ∈ [notification.said.id, notification.said.createdAt,
    notification.said.notificationType, notification.said.activityType], '|' ∉ text.toList

theorem unbarred_toString (number : ℤ) : '|' ∉ (toString number).toList := by
  cases number with
  | ofNat value =>
      change '|' ∉ (Nat.repr value).toList
      rw [Nat.toList_repr]
      intro digit
      exact absurd (Nat.isDigit_of_mem_toDigits (by decide) (by decide) digit) (by decide)
  | negSucc value =>
      change '|' ∉ ("-" ++ Nat.repr (value + 1)).toList
      rw [String.toList_append, Nat.toList_repr]
      intro inside
      rcases List.mem_append.mp inside with sign | digit
      · exact absurd (List.mem_singleton.mp sign) (by decide)
      · exact absurd (Nat.isDigit_of_mem_toDigits (by decide) (by decide) digit) (by decide)

theorem key_of_said {left right : NotificationData} (same : left.said = right.said) :
    left.key = right.key := by
  unfold NotificationData.key
  rw [same]

def Said.front (said : Said) : List (List Char) :=
  [said.id.toList, said.createdAt.toList, said.notificationType.toList, said.activityType.toList]

def Said.back (said : Said) : List (List Char) :=
  [(toString said.bookingId).toList, (toString said.postRequestId).toList]

theorem key_toList (notification : NotificationData) :
    notification.key.toList = ['|'].intercalate
      (notification.said.front ++ notification.said.message.toList :: notification.said.back) := by
  unfold NotificationData.key
  rw [String.toList_intercalate]
  rfl

theorem unbarred_fields {notification : NotificationData} (plain : notification.Unbarred) :
    ∀ field ∈ notification.said.front ++ notification.said.back, '|' ∉ field := by
  intro field member
  rcases List.mem_append.mp member with text | number
  · obtain ⟨own, place, rfl⟩ :=
      List.mem_map.mp (show field ∈ List.map String.toList [_, _, _, _] from text)
    exact plain own place
  · rcases List.mem_pair.mp number with rfl | rfl
    · exact unbarred_toString _
    · exact unbarred_toString _

theorem Said.ext_fields {left right : Said} (front : left.front = right.front)
    (message : left.message.toList = right.message.toList) (back : left.back = right.back) :
    left = right := by
  cases left
  cases right
  injection front with id front
  injection front with createdAt front
  injection front with notificationType front
  injection front with activityType _
  injection back with bookingId back
  injection back with postRequestId _
  rw [Said.mk.injEq]
  exact ⟨String.toList_injective id, String.toList_injective createdAt,
    String.toList_injective notificationType, String.toList_injective activityType,
    String.toList_injective message, Int.repr_injective (String.toList_injective bookingId),
    Int.repr_injective (String.toList_injective postRequestId)⟩

/-- The four texts before the message are read from the front, the numbers from the back. -/
theorem said_of_key {left right : NotificationData} (plain : left.Unbarred)
    (plain' : right.Unbarred) (same : left.key = right.key) : left.said = right.said := by
  have joined := congrArg String.toList same
  rw [key_toList, key_toList] at joined
  have fronts : left.said.front.length = right.said.front.length := rfl
  have backs : left.said.back.length = right.said.back.length := rfl
  obtain ⟨front, message, back⟩ :=
    intercalate_inj fronts backs (unbarred_fields plain) (unbarred_fields plain') joined
  exact Said.ext_fields front message back

/-- For every list of notifications: a row is the first that says what it says, no two rows say
the same, and all that is said is said by a row exactly when no two notifications that say
different things have the same key; and no two have, where the bar is in none of their ids,
times and types, whatever their messages. -/
theorem rows_say_everything_iff (input : List NotificationData) :
    (∀ row ∈ dedupeNotifications input, ∃ before after, input = before ++ row :: after ∧
      ∀ earlier ∈ before, earlier.said ≠ row.said) ∧
    (dedupeNotifications input).Pairwise (fun left right => left.said ≠ right.said) ∧
    ((∀ notification ∈ input, ∃ row ∈ dedupeNotifications input, row.said = notification.said) ↔
      ∀ left ∈ input, ∀ right ∈ input, left.key = right.key → left.said = right.said) ∧
    ((∀ notification ∈ input, notification.Unbarred) →
      ∀ left ∈ input, ∀ right ∈ input, left.key = right.key → left.said = right.said) := by
  refine ⟨?_, ?_, ?_, ?_⟩
  · intro row member
    obtain ⟨-, before, after, split, others⟩ := first_of_mem member
    exact ⟨before, after, split,
      fun earlier place same => others earlier place (key_of_said same)⟩
  · exact (pairwise_firstOfKey [] input).imp fun different same => different (key_of_said same)
  · exact says_everything_iff NotificationData.said (fun _ _ => key_of_said) input
  · exact fun plain left inLeft right inRight =>
      said_of_key (plain left inLeft) (plain right inRight)

end FiksOpp.Notifications
