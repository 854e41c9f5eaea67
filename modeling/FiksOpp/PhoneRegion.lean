/-
The region check of the sign-up screen.

Without a saved country the check looks for place names in the saved address.  The names are
searched as parts of the text, in the order of a table, and the first one found decides for
its country.
-/

import FiksOpp.BookingDates
import FiksOpp.Constants

namespace FiksOpp.PhoneRegion

open BookingDates

structure CountryListResponse where
  id : Option ℤ
  code : Option String
  deriving DecidableEq, Repr

structure SelectedCountry where
  countryCode : String
  name : String
  deriving DecidableEq, Repr

def hints : List (String × String) :=
  [("karachi", "PK"), ("lahore", "PK"), ("islamabad", "PK"), ("pakistan", "PK"),
    ("norway", "NO"), ("norge", "NO"), ("united states", "US"), ("usa", "US"),
    ("united kingdom", "GB"), ("uk", "GB")]

section Check

variable (toLowerCase toUpperCase : String → String)

def inferIsoFromAddress (addr : String) : Option String :=
  let a := (toLowerCase addr).toList
  (hints.find? fun e => containsText a e.1.toList).map Prod.snd

/-- The code that the country list has for the saved country. -/
def locationCode (cid : ℤ) (countries : List CountryListResponse) : Option String :=
  ((countries.find? fun c => c.id = some cid).bind CountryListResponse.code).map trim

/-- `false` goes with the toast `MSG_PHONE_REGION_MISMATCH_LOCATION`.  The list is nothing
where its request fails. -/
def validatePhoneRegionWithLocation (countryId : ℤ)
    (getCountryList : Option (List CountryListResponse)) (currentAddress : String)
    (selectedCountry : SelectedCountry) : Bool :=
  let phoneIso := toUpperCase selectedCountry.countryCode
  if 0 < countryId then
    match getCountryList.bind (locationCode countryId) with
    | none => true
    | some locCode => locCode = "" || toUpperCase locCode = phoneIso
  else
    let addr := trim (toLowerCase currentAddress)
    if addr = "" then true
    else
      match inferIsoFromAddress toLowerCase addr with
      | none => true
      | some inferred => inferred = phoneIso

/-- The text that is searched; there is nothing to search in a blank address. -/
def searchedText (currentAddress : String) : List Char :=
  let addr := trim (toLowerCase currentAddress)
  if addr = "" then [] else (toLowerCase addr).toList

variable (wordChar : Char → Bool)

/-- The words stand in the text with no part of a word next to them. -/
def WholeWords (text words : List Char) : Prop :=
  words ≠ [] ∧ ∃ before after, text = before ++ words ++ after ∧
    (∀ char ∈ before.getLast?, wordChar char = false) ∧
      (∀ char ∈ after.head?, wordChar char = false)

def NamesForeignPlace (currentAddress : String) (selectedCountry : SelectedCountry) : Prop :=
  ∃ hint ∈ hints, hint.2 ≠ toUpperCase selectedCountry.countryCode ∧
    WholeWords wordChar (searchedText toLowerCase currentAddress) hint.1.toList

/-- The selected country is named, or a place of it that has a hint. -/
def NamesSelected (currentAddress : String) (selectedCountry : SelectedCountry) : Prop :=
  WholeWords wordChar (searchedText toLowerCase currentAddress)
      (toLowerCase selectedCountry.name).toList ∨
    ∃ hint ∈ hints, hint.2 = toUpperCase selectedCountry.countryCode ∧
      WholeWords wordChar (searchedText toLowerCase currentAddress) hint.1.toList

structure ChecksNames (countryId : ℤ) (getCountryList : Option (List CountryListResponse))
    (currentAddress : String) (selectedCountry : SelectedCountry) : Prop where
  rejects : validatePhoneRegionWithLocation toLowerCase toUpperCase countryId
      getCountryList currentAddress selectedCountry = false →
    NamesForeignPlace toLowerCase toUpperCase wordChar currentAddress selectedCountry
  accepts :
    NamesSelected toLowerCase toUpperCase wordChar currentAddress selectedCountry →
      validatePhoneRegionWithLocation toLowerCase toUpperCase countryId
        getCountryList currentAddress selectedCountry = true

/-- Each foreign hint that is a part of the text comes in the table after one of the selected
country that is too. -/
def OwnHintFirst (text : List Char) (phoneIso : String) : Prop :=
  ∀ before hint after, hints = before ++ hint :: after →
    containsText text hint.1.toList = true → hint.2 ≠ phoneIso →
      ∃ own ∈ before, own.2 = phoneIso ∧ containsText text own.1.toList = true

/-- Either the table leads to the selected country or to none, or the address names a foreign
place and not the selected country. -/
def NamesDecide (currentAddress : String) (selectedCountry : SelectedCountry) : Prop :=
  OwnHintFirst (searchedText toLowerCase currentAddress)
      (toUpperCase selectedCountry.countryCode) ∨
    NamesForeignPlace toLowerCase toUpperCase wordChar currentAddress selectedCountry ∧
      ¬ NamesSelected toLowerCase toUpperCase wordChar currentAddress selectedCountry

/-! ### The first hint -/

def firstHinted (table : List (String × String)) (text : List Char) : Option String :=
  (table.find? fun e => containsText text e.1.toList).map Prod.snd

theorem firstHinted_foreign_iff (table : List (String × String)) (text : List Char)
    (phoneIso : String) :
    (∀ inferred, firstHinted table text = some inferred → inferred = phoneIso) ↔
      ∀ before hint after, table = before ++ hint :: after →
        containsText text hint.1.toList = true → hint.2 ≠ phoneIso →
          ∃ own ∈ before, own.2 = phoneIso ∧ containsText text own.1.toList = true := by
  unfold firstHinted
  constructor
  · intro same before hint after table_eq occurs foreign
    cases early : before.find? fun e => containsText text e.1.toList with
    | none =>
        have found : (table.find? fun e => containsText text e.1.toList) = some hint := by
          rw [table_eq, List.find?_append, early, Option.none_or, List.find?_cons, occurs]
        exact absurd (same hint.2 (by rw [found]; rfl)) foreign
    | some own =>
        have found : (table.find? fun e => containsText text e.1.toList) = some own := by
          rw [table_eq, List.find?_append, early, Option.some_or]
        have present : containsText text own.1.toList = true := by
          simpa using List.find?_some early
        exact ⟨own, List.mem_of_find?_eq_some early, same own.2 (by rw [found]; rfl), present⟩
  · intro ownFirst inferred result
    obtain ⟨hint, found, rfl⟩ := Option.map_eq_some_iff.mp result
    obtain ⟨occurs, before, after, table_eq, early⟩ := List.find?_eq_some_iff_append.mp found
    by_contra foreign
    obtain ⟨own, member, _, present⟩ := ownFirst before hint after table_eq occurs foreign
    have absent := early own member
    rw [present] at absent
    exact absurd absent (by decide)

theorem containsText_nil {find : List Char} (present : find ≠ []) :
    containsText [] find = false := by
  unfold containsText
  rw [List.isEmpty_eq_false_iff]
  exact present

theorem hints_nonempty : ∀ hint ∈ hints, hint.1.toList ≠ [] := by
  decide

theorem firstHinted_nil : firstHinted hints [] = none := by
  unfold firstHinted
  rw [Option.map_eq_none_iff, List.find?_eq_none]
  intro hint member
  rw [containsText_nil (hints_nonempty hint member)]
  exact Bool.false_ne_true

/-- Without a saved country the table decides on the searched text. -/
theorem validate_iff (countryId : ℤ) (getCountryList : Option (List CountryListResponse))
    (currentAddress : String) (selectedCountry : SelectedCountry) (unsaved : countryId ≤ 0) :
    validatePhoneRegionWithLocation toLowerCase toUpperCase countryId getCountryList
        currentAddress selectedCountry = true ↔
      ∀ inferred, firstHinted hints (searchedText toLowerCase currentAddress) =
        some inferred → inferred = toUpperCase selectedCountry.countryCode := by
  unfold validatePhoneRegionWithLocation searchedText
  dsimp only
  rw [if_neg (by omega)]
  by_cases blank : trim (toLowerCase currentAddress) = ""
  · rw [if_pos blank, if_pos blank, firstHinted_nil]
    simp
  · rw [if_neg blank, if_neg blank]
    change _ ↔ ∀ inferred, inferIsoFromAddress toLowerCase (trim (toLowerCase currentAddress)) =
      some inferred → inferred = toUpperCase selectedCountry.countryCode
    cases inferIsoFromAddress toLowerCase (trim (toLowerCase currentAddress)) with
    | none => simp
    | some inferred => simp

theorem regionCheck_iff (countryId : ℤ) (getCountryList : Option (List CountryListResponse))
    (currentAddress : String) (selectedCountry : SelectedCountry) (unsaved : countryId ≤ 0) :
    ChecksNames toLowerCase toUpperCase wordChar countryId getCountryList currentAddress
        selectedCountry ↔
      NamesDecide toLowerCase toUpperCase wordChar currentAddress selectedCountry := by
  have table := (validate_iff toLowerCase toUpperCase countryId getCountryList
    currentAddress selectedCountry unsaved).trans (firstHinted_foreign_iff hints _ _)
  constructor
  · intro checks
    cases accepted : validatePhoneRegionWithLocation toLowerCase toUpperCase countryId
        getCountryList currentAddress selectedCountry with
    | true => exact Or.inl (table.mp accepted)
    | false =>
        refine Or.inr ⟨checks.rejects accepted, fun named => ?_⟩
        rw [checks.accepts named] at accepted
        exact absurd accepted (by decide)
  · rintro (ownFirst | ⟨foreign, unnamed⟩)
    · have accepted := table.mpr ownFirst
      refine ⟨fun rejected => ?_, fun _ => accepted⟩
      rw [accepted] at rejected
      exact absurd rejected (by decide)
    · exact ⟨fun _ => foreign, fun named => absurd named unnamed⟩

end Check

def lowerAscii (text : String) : String :=
  String.ofList (text.toList.map Char.toLower)

def upperAscii (text : String) : String :=
  String.ofList (text.toList.map Char.toUpper)

def norway : SelectedCountry :=
  { countryCode := "NO", name := "Norway" }

def switzerland : SelectedCountry :=
  { countryCode := "CH", name := "Switzerland" }

/-- "Lausanne" has the letters of "usa". -/
def lausanne : String :=
  "Lausanne, Switzerland"

theorem regionCheck_in_oslo :
    ChecksNames lowerAscii upperAscii Char.isAlphanum 0 none "Oslo, Norway" norway := by
  refine (regionCheck_iff lowerAscii upperAscii Char.isAlphanum 0 none "Oslo, Norway" norway
    (le_refl 0)).mpr (Or.inl ?_)
  exact (firstHinted_foreign_iff hints _ _).mp (by decide)

theorem lausanne_is_taken_for_america :
    validatePhoneRegionWithLocation lowerAscii upperAscii 0 none lausanne switzerland = false ∧
      NamesSelected lowerAscii upperAscii Char.isAlphanum lausanne switzerland ∧
        ¬ ChecksNames lowerAscii upperAscii Char.isAlphanum 0 none lausanne switzerland := by
  have rejected :
      validatePhoneRegionWithLocation lowerAscii upperAscii 0 none lausanne switzerland =
        false := by decide
  have named : NamesSelected lowerAscii upperAscii Char.isAlphanum lausanne switzerland := by
    have boundary : ∀ char ∈ "lausanne, ".toList.getLast?, char.isAlphanum = false := by
      intro char last
      cases last
      decide
    refine Or.inl ⟨by decide, "lausanne, ".toList, [], by decide, boundary, ?_⟩
    intro char first
    cases first
  refine ⟨rejected, named, fun checks => ?_⟩
  rw [checks.accepts named] at rejected
  exact absurd rejected (by decide)

end FiksOpp.PhoneRegion
