/-
The data of a push message, merged from the JSON texts among its values.

Four keys are read in a fixed order.  After them every entry whose text looks like an
object is read once more, in the order of the message.
-/

import FiksOpp.Foundations.Overlays
import FiksOpp.NotificationRouting

namespace FiksOpp.Notifications

open Overlays

/-- The data of a message: no key twice. -/
structure DataMap where
  entries : Payload
  distinct : (entries.map Prod.fst).Nodup

def namedKeys : List String :=
  ["additional_data", "payload", "notification_data", "custom_data"]

section Merge

variable (dart : DartRuntime)

def decodedObject (raw : Option String) : Option Payload :=
  match raw with
  | none => none
  | some text =>
      if startsWithBrace (dart.trim text) then
        match dart.jsonDecode (dart.trim text) with
        | some (.map _ entries) => some entries
        | _ => none
      else none

def held (key : String) (raw : Option String) : Option Json :=
  (decodedObject dart raw).bind fun entries => entries.reverse.lookup key

def rescanned (entry : String × Json) : Option String :=
  match entry.2.text? with
  | none => none
  | some text =>
      if utf16Length text < 3 then none
      else if startsWithBrace text && entry.1 != "additional_data" then some text
      else none

/-- What the second reading of an entry brings for a key. -/
def rescannedValue (key : String) (entry : String × Json) : Option Json :=
  held dart key (rescanned entry)

/-- The value by the declared order: additional_data below payload below
notification_data below custom_data. -/
def precedence (data : Payload) (key : String) : Option Json :=
  (held dart key (data.get "custom_data").text?).or
    ((held dart key (data.get "notification_data").text?).or
      ((held dart key (data.get "payload").text?).or
        (held dart key (data.get "additional_data").text?)))

/-- No entry beside the four brings a value for the key. -/
def OnlyNamed (data : Payload) (key : String) : Prop :=
  ∀ entry ∈ data, entry.1 ∉ namedKeys → rescannedValue dart key entry = none

/-- The merged map is the same for every order of the entries and follows the declared
order. -/
structure OrderFree (data : DataMap) : Prop where
  same : ∀ other : DataMap, other.entries.Perm data.entries → ∀ key,
    (fcmMergedDataMap dart other.entries).lookup key =
      (fcmMergedDataMap dart data.entries).lookup key
  ranked : ∀ key, OnlyNamed dart data.entries key →
    (fcmMergedDataMap dart data.entries).lookup key = precedence dart data.entries key

/-- Texts that are read once more never differ on a key; and what they have for one that
only the four hold is what the highest of the four has. -/
structure Consistent (data : DataMap) : Prop where
  agree : ∀ key, Agree (rescannedValue dart key) data.entries
  highest : ∀ key, OnlyNamed dart data.entries key →
    ∀ entry ∈ data.entries, ∀ value, rescannedValue dart key entry = some value →
      precedence dart data.entries key = some value

/-! ### The two readings -/

theorem lookup_absorbJsonString (key : String) (out : Payload) (raw : Option String) :
    (absorbJsonString dart out raw).lookup key = (held dart key raw).or (out.lookup key) := by
  unfold absorbJsonString held decodedObject
  cases raw with
  | none => rfl
  | some text =>
      dsimp only
      by_cases brace : startsWithBrace (dart.trim text) = true
      · rw [if_pos brace, if_pos brace]
        cases dart.jsonDecode (dart.trim text) with
        | none => rfl
        | some decoded =>
            cases decoded with
            | map own entries => exact List.lookup_append
            | null => rfl
            | bool value => rfl
            | int value => rfl
            | str value => rfl
            | other value => rfl
      · rw [if_neg brace, if_neg brace]
        rfl

theorem absorbEntry_eq (merged : Payload) (entry : String × Json) :
    absorbEntry dart merged entry = absorbJsonString dart merged (rescanned entry) := by
  unfold absorbEntry rescanned
  cases entry.2.text? with
  | none => rfl
  | some text =>
      dsimp only
      split
      · rfl
      · split
        · rfl
        · rfl

theorem lookup_fcmMergedDataMap (data : Payload) (key : String) :
    (fcmMergedDataMap dart data).lookup key =
      overlay (rescannedValue dart key) (precedence dart data key) data := by
  unfold fcmMergedDataMap
  dsimp only
  have first := @view_foldl String Json Payload (fun out => out.lookup key)
    (fun merged name => absorbJsonString dart merged (data.get name).text?)
    (fun name => held dart key (data.get name).text?)
    (fun out name => lookup_absorbJsonString dart key out _) [] namedKeys
  have second := @view_foldl (String × Json) Json Payload (fun out => out.lookup key)
    (absorbEntry dart) (rescannedValue dart key)
    (fun out entry => by
      rw [absorbEntry_eq]
      exact lookup_absorbJsonString dart key out _)
  rw [second]
  congr 1
  refine first.trans ?_
  simp [overlay, namedKeys, precedence]

theorem get_perm {data other : DataMap} (order : other.entries.Perm data.entries)
    (key : String) : other.entries.get key = data.entries.get key := by
  unfold Payload.get
  rw [lookup_perm data.distinct order]

theorem precedence_perm {data other : DataMap} (order : other.entries.Perm data.entries)
    (key : String) :
    precedence dart other.entries key = precedence dart data.entries key := by
  unfold precedence
  simp only [get_perm order]

def DataMap.reordered (data : DataMap) {entries : Payload}
    (order : entries.Perm data.entries) : DataMap where
  entries := entries
  distinct := (order.map Prod.fst).nodup_iff.mpr data.distinct

theorem same_iff_agree (data : DataMap) (key : String) :
    (∀ other : DataMap, other.entries.Perm data.entries →
        (fcmMergedDataMap dart other.entries).lookup key =
          (fcmMergedDataMap dart data.entries).lookup key) ↔
      Agree (rescannedValue dart key) data.entries := by
  rw [← overlay_perm_iff (rescannedValue dart key) (precedence dart data.entries key)]
  constructor
  · intro same entries order
    have reordered := same (data.reordered order) order
    rw [lookup_fcmMergedDataMap, lookup_fcmMergedDataMap, precedence_perm dart order]
      at reordered
    exact reordered
  · intro same other order
    rw [lookup_fcmMergedDataMap, lookup_fcmMergedDataMap, precedence_perm dart order]
    exact same _ order

/-- The value by the declared order shows exactly where no second reading hides it. -/
theorem ranked_iff {data : DataMap} {key : String}
    (agree : Agree (rescannedValue dart key) data.entries) :
    (fcmMergedDataMap dart data.entries).lookup key = precedence dart data.entries key ↔
      ∀ entry ∈ data.entries, ∀ value, rescannedValue dart key entry = some value →
        precedence dart data.entries key = some value := by
  rw [lookup_fcmMergedDataMap]
  constructor
  · intro shown entry member value holds
    rw [← shown]
    apply overlay_of_agree
    · intro other present value' holds'
      exact agree other present entry member value' value holds' holds
    · exact Or.inr ⟨entry, member, holds⟩
  · intro highest
    rcases @overlay_isSome_cases _ _ (rescannedValue dart key) data.entries with
      hidden | ⟨entry, member, value, holds⟩
    · exact overlay_of_hidden hidden _
    · rw [highest entry member value holds]
      apply overlay_of_agree
      · intro other present value' holds'
        exact agree other present entry member value' value holds' holds
      · exact Or.inl rfl

end Merge

/-- The order of a message's entries does not matter and the declared order holds exactly
where the texts that are read once more agree with one another, and, on what only the four
hold, with the highest of the four. -/
theorem fcmMergedDataMap_orderFree_iff (dart : DartRuntime) (data : DataMap) :
    OrderFree dart data ↔ Consistent dart data := by
  constructor
  · rintro ⟨same, ranked⟩
    have agree := fun key => (same_iff_agree dart data key).mp fun other order =>
      same other order key
    exact ⟨agree, fun key named => (ranked_iff dart (agree key)).mp (ranked key named)⟩
  · rintro ⟨agree, highest⟩
    exact ⟨fun other order key => (same_iff_agree dart data key).mpr (agree key) other order,
      fun key named => (ranked_iff dart (agree key)).mpr (highest key named)⟩

def walletText : String := "\x7b\"type\":\"wallet\"\x7d"

def offerText : String := "\x7b\"type\":\"offer\"\x7d"

def twoTypesRuntime : DartRuntime :=
  { trim := id
    toLowerCase := id
    tryParse := fun _ => none
    jsonDecode := fun text =>
      if text = walletText then some (.map "\x7btype: wallet\x7d" [("type", .str "wallet")])
      else if text = offerText then some (.map "\x7btype: offer\x7d" [("type", .str "offer")])
      else none }

def payloadLast : DataMap where
  entries := [("custom_data", .str walletText), ("payload", .str offerText)]
  distinct := by simp

/-- `payload` comes after `custom_data` in the message, and its type hides the other. -/
theorem payload_hides_custom_data :
    ¬ ∀ (dart : DartRuntime) (data : DataMap), OrderFree dart data := by
  intro always
  have consistent := (always twoTypesRuntime payloadLast).same
    (payloadLast.reordered (List.Perm.swap _ _ _)) (List.Perm.swap _ _ _) "type"
  have texts := congrArg (fun value => value.bind Json.text?) consistent
  exact absurd texts (by decide)

end FiksOpp.Notifications
