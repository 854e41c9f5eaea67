/-
The title and the text under which a push message is shown.

`fcmResolveDisplayText` looks at the notification block, at the data of the message and at
the merged map, and falls back from one to the next; each fallback here is a step on the
pair of texts.
-/

import FiksOpp.FcmPayloads

namespace FiksOpp.Notifications

structure RemoteNotification where
  title : Option String := none
  body : Option String := none
  deriving DecidableEq, Repr

structure RemoteMessage where
  notification : RemoteNotification := {}
  data : DataMap

structure FcmDisplayText where
  title : String
  body : String
  deriving DecidableEq, Repr

def FcmDisplayText.hasContent (text : FcmDisplayText) : Bool :=
  text.title ≠ "" || text.body ≠ ""

def dataTitleKeys : List String :=
  ["title", "gcm.notification.title", "notification_title", "subject"]

def mergedTitleKeys : List String :=
  ["title", "notification_title", "subject", "heading", "alert_title"]

def dataBodyKeys : List String :=
  ["body", "message", "text", "alert", "content", "description", "gcm.notification.body"]

def mergedBodyKeys : List String :=
  ["body", "message", "text", "description", "content", "detail", "msg", "alert"]

def hintKeys : List String :=
  ["notification-type", "notification_type", "activity", "type"]

def notificationTypeKeys : List String :=
  ["notification-type", "notification_type"]

section Resolve

variable (dart : DartRuntime)

-- The text content of the parsed body; nothing where there is none or the parser throws.
variable (htmlText : String → Option String)

def stripHtmlToPlain (text : String) : String :=
  if text = "" then text
  else
    match htmlText text with
    | none => text
    | some plain => if dart.trim plain = "" then text else dart.trim plain

/-- `^[a-z0-9_]+$`. -/
def isMachineId (text : String) : Bool :=
  text ≠ "" && text.toList.all fun char => char.isLower || char.isDigit || char == '_'

def looksLikeUserFacingTitle (text : String) : Bool :=
  let text := dart.trim text
  if text = "" then false
  else if text.toList.contains ' ' then true
  else if isMachineId text then false
  else 6 ≤ utf16Length text

def nonBlank (text : Option String) : Option String :=
  (text.map dart.trim).filter fun trimmed => trimmed ≠ ""

/-- The entries of a Dart map: a key stays where it was first set. -/
def mapEntries (map : Payload) : Payload :=
  (map.reverse.map Prod.fst).eraseDups.map fun key => (key, map.get key)

/-- Later entries hide earlier ones of the same name. -/
def byLower (map : Payload) : Payload :=
  (mapEntries map).foldl
    (fun byLower entry => (dart.toLowerCase entry.1, entry.2) :: byLower) []

def lookupCi (map : Payload) (keys : List String) : Option String :=
  keys.findSome? fun key => nonBlank dart ((byLower dart map).get (dart.toLowerCase key)).text?

def stringFromData (data : Payload) (keys : List String) : Option String :=
  keys.findSome? fun key => nonBlank dart (data.get key).text?

def spaced (text : String) : String :=
  String.ofList (text.toList.map fun char => if char = '_' then ' ' else char)

def typeOf (data merged : Payload) : Option String :=
  (lookupCi dart merged ["type"]).or ((data.get "type").text?.map dart.trim)

def withType (data merged : Payload) (text : FcmDisplayText) : FcmDisplayText :=
  match typeOf dart data merged with
  | none => text
  | some type =>
      if type ≠ "" ∧ looksLikeUserFacingTitle dart type ∧
          (text.title = "" ∨ text.title = "FiksOpp") then
        { text with title := type }
      else text

def withHint (merged : Payload) (text : FcmDisplayText) : FcmDisplayText :=
  if text.title = "" ∧ text.body = "" then
    match lookupCi dart merged hintKeys with
    | none => text
    | some hint => { title := "FiksOpp", body := spaced hint }
  else text

def withFlatType (data : Payload) (text : FcmDisplayText) : FcmDisplayText :=
  if text.body = "" then
    match nonBlank dart (data.get "type").text? with
    | none => text
    | some flatType => { text with body := flatType }
  else text

def withDefaultTitle (text : FcmDisplayText) : FcmDisplayText :=
  if text.title = "" ∧ text.body ≠ "" then { text with title := "FiksOpp" } else text

/-- The job or booking a notification type is shown with. -/
def jobSuffix (merged : Payload) : String :=
  match (((merged.get "job_id").orElse (merged.get "job_request_id")).orElse
      (merged.get "id")).text? with
  | none => ""
  | some jid => " · #" ++ jid

def withNotificationType (merged : Payload) (text : FcmDisplayText) : FcmDisplayText :=
  if text.title = "" ∧ text.body = "" then
    match lookupCi dart merged notificationTypeKeys with
    | none => text
    | some nt =>
        { title := "FiksOpp"
          body := stripHtmlToPlain dart htmlText (spaced nt ++ jobSuffix merged) }
  else text

def withPlainBody (text : FcmDisplayText) : FcmDisplayText :=
  { text with body := stripHtmlToPlain dart htmlText text.body }

def namedTexts (message : RemoteMessage) (merged : Payload) : FcmDisplayText where
  title :=
    ((nonBlank dart message.notification.title).or
      ((stringFromData dart message.data.entries dataTitleKeys).or
        (lookupCi dart merged mergedTitleKeys))).getD ""
  body :=
    ((nonBlank dart message.notification.body).or
      ((stringFromData dart message.data.entries dataBodyKeys).or
        (lookupCi dart merged mergedBodyKeys))).getD ""

def resolved (message : RemoteMessage) : FcmDisplayText :=
  let data := message.data.entries
  let merged := fcmMergedDataMap dart data
  withNotificationType dart htmlText merged
    (withDefaultTitle
      (withFlatType dart data
        (withHint dart merged (withType dart data merged (namedTexts dart message merged)))))

def fcmResolveDisplayText (message : RemoteMessage) : FcmDisplayText :=
  withPlainBody dart htmlText (resolved dart htmlText message)

/-- The last entry of a map with this name, ignoring case. -/
def LastNamed (map : Payload) (key : String) (entry : String × Json) : Prop :=
  ∃ before after, mapEntries map = before ++ entry :: after ∧
    dart.toLowerCase entry.1 = dart.toLowerCase key ∧
      ∀ later ∈ after, dart.toLowerCase later.1 ≠ dart.toLowerCase key

/-- The message has a text in a place where the app looks for one. -/
def HasText (message : RemoteMessage) : Prop :=
  nonBlank dart message.notification.title ≠ none ∨
    nonBlank dart message.notification.body ≠ none ∨
    (∃ key ∈ dataTitleKeys ++ dataBodyKeys ++ ["type"],
      nonBlank dart (message.data.entries.get key).text? ≠ none) ∨
    ∃ key ∈ mergedTitleKeys ++ mergedBodyKeys ++ ["type"] ++ notificationTypeKeys,
      ∃ entry, LastNamed dart (fcmMergedDataMap dart message.data.entries) key entry ∧
        nonBlank dart entry.2.text? ≠ none

/-- The title of the notification is shown, but for the name of the app, which a type that
reads as a title replaces; so is its body, as plain text; a body never stands alone; and a
message with a text is shown with one. -/
structure ShowsText (message : RemoteMessage) (shown : FcmDisplayText) : Prop where
  title : ∀ title, nonBlank dart message.notification.title = some title →
    shown.title = title ∨
      (title = "FiksOpp" ∧ shown.title ≠ "" ∧ looksLikeUserFacingTitle dart shown.title = true)
  body : ∀ body, nonBlank dart message.notification.body = some body →
    shown.body = stripHtmlToPlain dart htmlText body
  titled : shown.body ≠ "" → shown.title ≠ ""
  content : HasText dart message → shown.hasContent = true

/-! ### Lookups -/

variable {dart} {htmlText}

theorem nonBlank_ne {text : Option String} {trimmed : String}
    (found : nonBlank dart text = some trimmed) : trimmed ≠ "" := by
  unfold nonBlank at found
  have kept := (Option.filter_eq_some_iff.mp found).2
  exact of_decide_eq_true kept

theorem getD_ne {found : Option String} (nonempty : ∀ text, found = some text → text ≠ "")
    (some_ : found ≠ none) : found.getD "" ≠ "" := by
  obtain ⟨text, same⟩ := Option.ne_none_iff_exists'.mp some_
  rw [same]
  exact nonempty text same

theorem findSome_ne_none {α : Type*} {keys : List String} {found : String → Option α}
    {key : String} (member : key ∈ keys) (some_ : found key ≠ none) :
    keys.findSome? found ≠ none := by
  intro none_
  exact some_ (List.findSome?_eq_none_iff.mp none_ key member)

theorem stringFromData_ne_none {data : Payload} {keys : List String} {key : String}
    (member : key ∈ keys) (text : nonBlank dart (data.get key).text? ≠ none) :
    stringFromData dart data keys ≠ none :=
  findSome_ne_none member text

theorem byLower_eq (map : Payload) :
    byLower dart map =
      (mapEntries map).reverse.map fun entry => (dart.toLowerCase entry.1, entry.2) := by
  have general : ∀ (entries kept : Payload),
      entries.foldl (fun byLower entry => (dart.toLowerCase entry.1, entry.2) :: byLower) kept =
        (entries.reverse.map fun entry => (dart.toLowerCase entry.1, entry.2)) ++ kept := by
    intro entries
    induction entries with
    | nil => intro kept; rfl
    | cons entry rest ih =>
        intro kept
        rw [List.foldl_cons, ih, List.reverse_cons, List.map_append, List.append_assoc]
        rfl
  unfold byLower
  rw [general, List.append_nil]

theorem get_byLower {map : Payload} {key : String} {entry : String × Json}
    (last : LastNamed dart map key entry) :
    (byLower dart map).get (dart.toLowerCase key) = entry.2 := by
  obtain ⟨before, after, split, same, others⟩ := last
  have hidden : (after.reverse.map fun entry => (dart.toLowerCase entry.1, entry.2)).lookup
      (dart.toLowerCase key) = none := by
    rw [List.lookup_eq_none_iff]
    intro lowered member
    obtain ⟨later, present, rfl⟩ := List.mem_map.mp member
    have differs := others later (List.mem_reverse.mp present)
    simpa using fun equal => differs equal.symm
  unfold Payload.get
  rw [byLower_eq, split, List.reverse_append, List.reverse_cons, List.map_append,
    List.map_append, List.lookup_append, List.lookup_append, hidden, Option.none_or]
  simp [same]

theorem lookupCi_ne_none {map : Payload} {keys : List String} {key : String}
    {entry : String × Json} (member : key ∈ keys) (last : LastNamed dart map key entry)
    (text : nonBlank dart entry.2.text? ≠ none) : lookupCi dart map keys ≠ none := by
  apply findSome_ne_none member
  rw [get_byLower last]
  exact text

theorem findSome_nonBlank_ne {keys : List String} {value : String → Option String}
    {text : String}
    (found : keys.findSome? (fun key => nonBlank dart (value key)) = some text) : text ≠ "" := by
  obtain ⟨key, _, shown⟩ := List.exists_of_findSome?_eq_some found
  exact nonBlank_ne shown

theorem stringFromData_ne {data : Payload} {keys : List String} {text : String}
    (found : stringFromData dart data keys = some text) : text ≠ "" :=
  findSome_nonBlank_ne found

theorem lookupCi_ne {map : Payload} {keys : List String} {text : String}
    (found : lookupCi dart map keys = some text) : text ≠ "" :=
  findSome_nonBlank_ne found

theorem spaced_ne {text : String} (some_ : text ≠ "") : spaced text ≠ "" := by
  intro none_
  apply some_
  have list := congrArg String.toList none_
  unfold spaced at list
  rw [String.toList_ofList] at list
  exact String.toList_eq_nil_iff.mp (List.map_eq_nil_iff.mp list)

theorem stripHtmlToPlain_ne {text : String} (some_ : text ≠ "") :
    stripHtmlToPlain dart htmlText text ≠ "" := by
  unfold stripHtmlToPlain
  rw [if_neg some_]
  cases htmlText text with
  | none => exact some_
  | some plain =>
      dsimp only
      by_cases blank : dart.trim plain = ""
      · rw [if_pos blank]
        exact some_
      · rw [if_neg blank]
        exact blank

theorem stripHtmlToPlain_empty : stripHtmlToPlain dart htmlText "" = "" :=
  if_pos rfl

structure Keeps (text shown : FcmDisplayText) : Prop where
  title : text.title ≠ "" → shown.title = text.title
  body : text.body ≠ "" → shown.body = text.body

theorem Keeps.refl (text : FcmDisplayText) : Keeps text text :=
  ⟨fun _ => rfl, fun _ => rfl⟩

theorem Keeps.trans {text between shown : FcmDisplayText} (first : Keeps text between)
    (second : Keeps between shown) : Keeps text shown := by
  constructor
  · intro some_
    have same := first.title some_
    rw [← same]
    exact second.title (same ▸ some_)
  · intro some_
    have same := first.body some_
    rw [← same]
    exact second.body (same ▸ some_)

theorem Keeps.of_blank {text shown : FcmDisplayText} (title : text.title = "")
    (body : text.body = "") : Keeps text shown :=
  ⟨fun some_ => absurd title some_, fun some_ => absurd body some_⟩

def FcmDisplayText.NotEmpty (text : FcmDisplayText) : Prop :=
  text.title ≠ "" ∨ text.body ≠ ""

theorem Keeps.notEmpty {text shown : FcmDisplayText} (keeps : Keeps text shown)
    (some_ : text.NotEmpty) : shown.NotEmpty := by
  rcases some_ with title | body
  · left
    rw [keeps.title title]
    exact title
  · right
    rw [keeps.body body]
    exact body

theorem withType_spec (data merged : Payload) (text : FcmDisplayText) :
    (withType dart data merged text).body = text.body ∧
      ((withType dart data merged text).title = text.title ∨
        ((text.title = "" ∨ text.title = "FiksOpp") ∧
          (withType dart data merged text).title ≠ "" ∧
            looksLikeUserFacingTitle dart (withType dart data merged text).title = true)) := by
  unfold withType
  cases typeOf dart data merged with
  | none => exact ⟨rfl, Or.inl rfl⟩
  | some type =>
      dsimp only
      by_cases replaces : type ≠ "" ∧ looksLikeUserFacingTitle dart type = true ∧
          (text.title = "" ∨ text.title = "FiksOpp")
      · rw [if_pos replaces]
        obtain ⟨some_, reads, old⟩ := replaces
        exact ⟨rfl, Or.inr ⟨old, some_, reads⟩⟩
      · rw [if_neg replaces]
        exact ⟨rfl, Or.inl rfl⟩

theorem notEmpty_withType {text : FcmDisplayText} (some_ : text.NotEmpty)
    (data merged : Payload) : (withType dart data merged text).NotEmpty := by
  obtain ⟨body, title⟩ := withType_spec data merged text
  rcases some_ with old | old
  · left
    rcases title with same | ⟨_, new, _⟩
    · rw [same]
      exact old
    · exact new
  · right
    rw [body]
    exact old

theorem keeps_withHint (merged : Payload) (text : FcmDisplayText) :
    Keeps text (withHint dart merged text) := by
  unfold withHint
  by_cases blank : text.title = "" ∧ text.body = ""
  · exact .of_blank blank.1 blank.2
  · rw [if_neg blank]
    exact .refl text

theorem notEmpty_withHint {merged : Payload} (hint : lookupCi dart merged hintKeys ≠ none)
    (text : FcmDisplayText) : (withHint dart merged text).NotEmpty := by
  unfold withHint
  by_cases blank : text.title = "" ∧ text.body = ""
  · rw [if_pos blank]
    obtain ⟨found, same⟩ := Option.ne_none_iff_exists'.mp hint
    rw [same]
    exact Or.inr (spaced_ne (lookupCi_ne same))
  · rw [if_neg blank]
    exact not_and_or.mp blank

theorem keeps_withFlatType (data : Payload) (text : FcmDisplayText) :
    Keeps text (withFlatType dart data text) := by
  unfold withFlatType
  by_cases blank : text.body = ""
  · rw [if_pos blank]
    refine ⟨fun _ => ?_, fun some_ => absurd blank some_⟩
    cases nonBlank dart (data.get "type").text? with
    | none => rfl
    | some flatType => rfl
  · rw [if_neg blank]
    exact .refl text

theorem notEmpty_withFlatType {data : Payload}
    (type : nonBlank dart (data.get "type").text? ≠ none) (text : FcmDisplayText) :
    (withFlatType dart data text).NotEmpty := by
  right
  unfold withFlatType
  by_cases blank : text.body = ""
  · rw [if_pos blank]
    obtain ⟨flatType, same⟩ := Option.ne_none_iff_exists'.mp type
    rw [same]
    exact nonBlank_ne same
  · rw [if_neg blank]
    exact blank

theorem keeps_withDefaultTitle (text : FcmDisplayText) :
    Keeps text (withDefaultTitle text) := by
  unfold withDefaultTitle
  by_cases missing : text.title = "" ∧ text.body ≠ ""
  · rw [if_pos missing]
    exact ⟨fun some_ => absurd missing.1 some_, fun _ => rfl⟩
  · rw [if_neg missing]
    exact .refl text

theorem titled_withDefaultTitle (text : FcmDisplayText)
    (body : (withDefaultTitle text).body ≠ "") : (withDefaultTitle text).title ≠ "" := by
  unfold withDefaultTitle at body ⊢
  by_cases missing : text.title = "" ∧ text.body ≠ ""
  · rw [if_pos missing]
    exact of_decide_eq_true rfl
  · rw [if_neg missing] at body ⊢
    exact fun title => missing ⟨title, body⟩

theorem keeps_withNotificationType (merged : Payload) (text : FcmDisplayText) :
    Keeps text (withNotificationType dart htmlText merged text) := by
  unfold withNotificationType
  by_cases blank : text.title = "" ∧ text.body = ""
  · exact .of_blank blank.1 blank.2
  · rw [if_neg blank]
    exact .refl text

theorem titled_withNotificationType {text : FcmDisplayText}
    (titled : text.body ≠ "" → text.title ≠ "") (merged : Payload)
    (body : (withNotificationType dart htmlText merged text).body ≠ "") :
    (withNotificationType dart htmlText merged text).title ≠ "" := by
  unfold withNotificationType at body ⊢
  by_cases blank : text.title = "" ∧ text.body = ""
  · rw [if_pos blank] at body ⊢
    cases found : lookupCi dart merged notificationTypeKeys with
    | none =>
        rw [found] at body
        exact absurd blank.2 body
    | some nt => exact of_decide_eq_true rfl
  · rw [if_neg blank] at body ⊢
    exact titled body

theorem notEmpty_withPlainBody {text : FcmDisplayText} (some_ : text.NotEmpty) :
    (withPlainBody dart htmlText text).NotEmpty := by
  rcases some_ with title | body
  · exact Or.inl title
  · exact Or.inr (stripHtmlToPlain_ne body)

theorem body_withPlainBody_ne {text : FcmDisplayText}
    (body : (withPlainBody dart htmlText text).body ≠ "") : text.body ≠ "" := by
  intro blank
  apply body
  change stripHtmlToPlain dart htmlText text.body = ""
  rw [blank, stripHtmlToPlain_empty]

/-! ### The whole -/

theorem title_withPlainBody (text : FcmDisplayText) :
    (withPlainBody dart htmlText text).title = text.title := rfl

theorem body_withPlainBody (text : FcmDisplayText) :
    (withPlainBody dart htmlText text).body = stripHtmlToPlain dart htmlText text.body := rfl

theorem title_of_keeps {named typed shown : FcmDisplayText} {title : String}
    (given : named.title = title) (some_ : title ≠ "")
    (type : typed.title = named.title ∨
      ((named.title = "" ∨ named.title = "FiksOpp") ∧ typed.title ≠ "" ∧
        looksLikeUserFacingTitle dart typed.title = true))
    (keeps : Keeps typed shown) :
    shown.title = title ∨
      (title = "FiksOpp" ∧ shown.title ≠ "" ∧
        looksLikeUserFacingTitle dart shown.title = true) := by
  subst given
  rcases type with same | ⟨replaced, new, reads⟩
  · left
    rw [← same] at some_ ⊢
    exact keeps.title some_
  · right
    rw [keeps.title new]
    exact ⟨replaced.resolve_left some_, new, reads⟩

theorem keeps_resolved (message : RemoteMessage) :
    Keeps
      (withType dart message.data.entries (fcmMergedDataMap dart message.data.entries)
        (namedTexts dart message (fcmMergedDataMap dart message.data.entries)))
      (resolved dart htmlText message) :=
  (keeps_withHint _ _).trans ((keeps_withFlatType _ _).trans
    ((keeps_withDefaultTitle _).trans (keeps_withNotificationType _ _)))

theorem firstText_ne {text : Option String} {data merged : Payload} {keys keys' : List String}
    (some_ : nonBlank dart text ≠ none ∨ stringFromData dart data keys ≠ none ∨
      lookupCi dart merged keys' ≠ none) :
    ((nonBlank dart text).or
      ((stringFromData dart data keys).or (lookupCi dart merged keys'))).getD "" ≠ "" := by
  apply getD_ne
  · intro found same
    rcases Option.or_eq_some_iff.mp same with first | ⟨_, rest⟩
    · exact nonBlank_ne first
    · rcases Option.or_eq_some_iff.mp rest with second | ⟨_, third⟩
      · exact stringFromData_ne second
      · exact lookupCi_ne third
  · intro none_
    obtain ⟨first, rest⟩ := Option.or_eq_none_iff.mp none_
    obtain ⟨second, third⟩ := Option.or_eq_none_iff.mp rest
    rcases some_ with here | here | here
    · exact here first
    · exact here second
    · exact here third

theorem notEmpty_resolved_of_named {message : RemoteMessage}
    (some_ : (namedTexts dart message
      (fcmMergedDataMap dart message.data.entries)).NotEmpty) :
    (resolved dart htmlText message).NotEmpty :=
  (keeps_resolved message).notEmpty (notEmpty_withType some_ _ _)

theorem notEmpty_resolved_of_hint {message : RemoteMessage}
    (hint : lookupCi dart (fcmMergedDataMap dart message.data.entries) hintKeys ≠ none) :
    (resolved dart htmlText message).NotEmpty :=
  ((keeps_withFlatType _ _).trans ((keeps_withDefaultTitle _).trans
    (keeps_withNotificationType _ _))).notEmpty (notEmpty_withHint hint _)

theorem notEmpty_resolved_of_type {message : RemoteMessage}
    (type : nonBlank dart (message.data.entries.get "type").text? ≠ none) :
    (resolved dart htmlText message).NotEmpty :=
  ((keeps_withDefaultTitle _).trans (keeps_withNotificationType _ _)).notEmpty
    (notEmpty_withFlatType type _)

theorem notEmpty_resolved {message : RemoteMessage} (hasText : HasText dart message) :
    (resolved dart htmlText message).NotEmpty := by
  rcases hasText with title | body | ⟨key, member, text⟩ | ⟨key, member, entry, last, text⟩
  · exact notEmpty_resolved_of_named (Or.inl (firstText_ne (Or.inl title)))
  · exact notEmpty_resolved_of_named (Or.inr (firstText_ne (Or.inl body)))
  · rw [List.mem_append, List.mem_append, List.mem_singleton] at member
    rcases member with (title | body) | type
    · exact notEmpty_resolved_of_named
        (Or.inl (firstText_ne (Or.inr (Or.inl (stringFromData_ne_none title text)))))
    · exact notEmpty_resolved_of_named
        (Or.inr (firstText_ne (Or.inr (Or.inl (stringFromData_ne_none body text)))))
    · subst type
      exact notEmpty_resolved_of_type text
  · rw [List.mem_append, List.mem_append, List.mem_append, List.mem_singleton] at member
    rcases member with ((title | body) | type) | notificationType
    · exact notEmpty_resolved_of_named
        (Or.inl (firstText_ne (Or.inr (Or.inr (lookupCi_ne_none title last text)))))
    · exact notEmpty_resolved_of_named
        (Or.inr (firstText_ne (Or.inr (Or.inr (lookupCi_ne_none body last text)))))
    · subst type
      exact notEmpty_resolved_of_hint (lookupCi_ne_none (by decide) last text)
    · have hinted : key ∈ hintKeys :=
        List.mem_append_left ["activity", "type"] notificationType
      exact notEmpty_resolved_of_hint (lookupCi_ne_none hinted last text)

end Resolve

/-- Every message is shown with the texts it has. -/
theorem fcmResolveDisplayText_showsText (dart : DartRuntime)
    (htmlText : String → Option String) (message : RemoteMessage) :
    ShowsText dart htmlText message (fcmResolveDisplayText dart htmlText message) := by
  unfold fcmResolveDisplayText
  have keeps := @keeps_resolved dart htmlText message
  obtain ⟨typeBody, typeTitle⟩ := @withType_spec dart message.data.entries
    (fcmMergedDataMap dart message.data.entries)
    (namedTexts dart message (fcmMergedDataMap dart message.data.entries))
  constructor
  · intro title given
    rw [title_withPlainBody]
    refine title_of_keeps ?_ (nonBlank_ne given) typeTitle keeps
    unfold namedTexts
    rw [given]
    rfl
  · intro body given
    have named : (namedTexts dart message
        (fcmMergedDataMap dart message.data.entries)).body = body := by
      unfold namedTexts
      rw [given]
      rfl
    rw [named] at typeBody
    have some_ := nonBlank_ne given
    rw [← typeBody] at some_
    rw [body_withPlainBody, keeps.body some_, typeBody]
  · intro body
    rw [title_withPlainBody]
    have unstripped := body_withPlainBody_ne body
    exact titled_withNotificationType (titled_withDefaultTitle _) _ unstripped
  · intro hasText
    have some_ := @notEmpty_withPlainBody dart htmlText _
      (@notEmpty_resolved dart htmlText _ hasText)
    unfold FcmDisplayText.hasContent
    rw [Bool.or_eq_true, decide_eq_true_eq, decide_eq_true_eq]
    exact some_

def bidMessage : RemoteMessage where
  notification := { title := some "FiksOpp", body := some "You have a bid" }
  data := { entries := [("type", .str "New Bid Received")], distinct := by simp }

/-- The type of the message is shown in place of the app's name. -/
theorem app_name_is_replaced :
    ¬ ∀ (dart : DartRuntime) (htmlText : String → Option String) (message : RemoteMessage)
        (title : String),
      nonBlank dart message.notification.title = some title →
        (fcmResolveDisplayText dart htmlText message).title = title := by
  intro always
  have same := always twoTypesRuntime (fun text => some text) bidMessage "FiksOpp" (by decide)
  exact absurd same (by decide)

end FiksOpp.Notifications
