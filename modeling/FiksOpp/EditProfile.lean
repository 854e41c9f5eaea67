/-
The profile form, `EditProfileScreen`.

The contact number is kept as one text, the calling code and the number with a dash
between; the form takes it apart when it opens and puts it together when it is saved.

Country, state and city are three lists, each loaded for a choice in the one before.  An
answer selects the entry whose id is in the preferences, whatever has been chosen by then,
while the ids to be saved are written by the choices alone.
-/

import FiksOpp.Constants
import FiksOpp.Foundations.EventRun
import FiksOpp.Foundations.Trimming

namespace FiksOpp.EditProfile

open EventRun

abbrev Text := List Char

def isDash (char : Char) : Bool :=
  char = '-'

def trimmed (text : Text) : Text :=
  (trim (String.ofList text)).toList

def mobileText (contactNumber : Text) : Text :=
  (contactNumber.splitOnP isDash).getLastD []

/-- The code of `selectedCountryCode`; the app was written for India. -/
def phoneCode (contactNumber : Text) : Text :=
  let first := (contactNumber.splitOnP isDash).headD []
  if first.isEmpty then ['9', '1'] else first

def buildMobileNumber (phoneCode mobile : Text) : Text :=
  if mobile.isEmpty then [] else phoneCode ++ '-' :: trimmed mobile

def savedNumber (contactNumber : Text) : Text :=
  buildMobileNumber (phoneCode contactNumber) (mobileText contactNumber)

/-- A calling code and a number, neither of them empty, with the only dash between. -/
def WellFormed (text : Text) : Prop :=
  ∃ code number, code ≠ [] ∧ number ≠ [] ∧ '-' ∉ code ∧ '-' ∉ number ∧
    trimmed number = number ∧ text = code ++ '-' :: number

theorem trimmed_eq (text : Text) : trimmed text = Trimming.trimmedBy isWhitespace text := by
  unfold trimmed trim Trimming.trimmedBy List.rdropWhile
  rw [String.toList_ofList, String.toList_ofList]

theorem trimmed_trimmed (text : Text) : trimmed (trimmed text) = trimmed text := by
  rw [trimmed_eq, trimmed_eq]
  exact Trimming.trimmedBy_trimmedBy isWhitespace text

theorem mem_of_mem_trimmed {char : Char} {text : Text} (member : char ∈ trimmed text) :
    char ∈ text := by
  rw [trimmed_eq] at member
  exact Trimming.mem_of_mem_trimmedBy isWhitespace member

theorem parts_of_noDash {text : Text} (none_ : '-' ∉ text) :
    text.splitOnP isDash = [text] := by
  apply List.splitOnP_eq_singleton
  intro char member
  apply decide_eq_false
  intro dash
  rw [dash] at member
  exact none_ member

theorem parts_pair {code number : Text} (codeNone : '-' ∉ code) (numberNone : '-' ∉ number) :
    (code ++ '-' :: number).splitOnP isDash = [code, number] := by
  rw [List.splitOnP_append_cons _ _ rfl, parts_of_noDash codeNone, parts_of_noDash numberNone]
  rfl

theorem noDash_of_mem_parts {text part : Text} (member : part ∈ text.splitOnP isDash) :
    '-' ∉ part := by
  induction text generalizing part with
  | nil =>
      rw [List.splitOnP_nil, List.mem_singleton] at member
      rw [member]
      exact List.not_mem_nil
  | cons char rest ih =>
      rw [List.splitOnP_cons_eq_if_modifyHead] at member
      cases dash : isDash char with
      | true =>
          rw [if_pos dash] at member
          rcases List.mem_cons.mp member with empty | later
          · rw [empty]
            exact List.not_mem_nil
          · exact ih later
      | false =>
          rw [if_neg (by rw [dash]; exact Bool.false_ne_true)] at member
          cases parts : rest.splitOnP isDash with
          | nil => exact absurd parts (List.splitOnP_ne_nil isDash rest)
          | cons first others =>
              rw [parts, List.modifyHead_cons] at member
              have inRest : ∀ piece ∈ first :: others, '-' ∉ piece := by
                intro piece among
                rw [← parts] at among
                exact ih among
              rcases List.mem_cons.mp member with grown | later
              · rw [grown, List.mem_cons]
                rintro (isChar | inFirst)
                · rw [← isChar] at dash
                  exact absurd dash (by decide)
                · exact inRest first List.mem_cons_self inFirst
              · exact inRest part (List.mem_cons_of_mem first later)

theorem noDash_mobileText (text : Text) : '-' ∉ mobileText text := by
  apply @noDash_of_mem_parts text
  unfold mobileText
  rw [List.getLastD_eq_getLast?, List.getLast?_eq_some_getLast (List.splitOnP_ne_nil isDash text),
    Option.getD_some]
  exact List.getLast_mem _

theorem noDash_phoneCode (text : Text) : '-' ∉ phoneCode text := by
  have first : '-' ∉ (text.splitOnP isDash).headD [] := by
    apply @noDash_of_mem_parts text
    cases parts : text.splitOnP isDash with
    | nil => exact absurd parts (List.splitOnP_ne_nil isDash text)
    | cons first others => exact List.mem_cons_self
  unfold phoneCode
  dsimp only
  split
  · decide
  · exact first

theorem phoneCode_ne_nil (text : Text) : phoneCode text ≠ [] := by
  unfold phoneCode
  dsimp only
  split
  · exact List.cons_ne_nil _ _
  · rename_i kept
    rwa [List.isEmpty_iff] at kept

theorem savedNumber_of_empty {text : Text} (empty : mobileText text = []) :
    savedNumber text = [] := by
  rw [savedNumber, buildMobileNumber, empty]
  rfl

theorem savedNumber_of_nonempty {text : Text} (some_ : mobileText text ≠ []) :
    savedNumber text = phoneCode text ++ '-' :: trimmed (mobileText text) := by
  rw [savedNumber, buildMobileNumber, if_neg (by rwa [List.isEmpty_iff])]

theorem noDash_trimmed_mobileText (text : Text) : '-' ∉ trimmed (mobileText text) :=
  fun member => noDash_mobileText text (mem_of_mem_trimmed member)

theorem phoneCode_pair {code number : Text} (codeNone : '-' ∉ code) (numberNone : '-' ∉ number)
    (some_ : code ≠ []) : phoneCode (code ++ '-' :: number) = code := by
  unfold phoneCode
  rw [parts_pair codeNone numberNone]
  exact if_neg (by rwa [List.headD_cons, List.isEmpty_iff])

theorem mobileText_pair {code number : Text} (codeNone : '-' ∉ code)
    (numberNone : '-' ∉ number) : mobileText (code ++ '-' :: number) = number := by
  unfold mobileText
  rw [parts_pair codeNone numberNone]
  rfl

theorem savedNumber_pair {code number : Text} (codeNone : '-' ∉ code) (numberNone : '-' ∉ number)
    (codeSome : code ≠ []) (numberSome : number ≠ []) :
    savedNumber (code ++ '-' :: number) = code ++ '-' :: trimmed number := by
  have mobile := mobileText_pair codeNone numberNone
  rw [savedNumber_of_nonempty (by rwa [mobile]), mobile,
    phoneCode_pair codeNone numberNone codeSome]

theorem savedNumber_cases (text : Text) :
    savedNumber text = [] ∨ WellFormed (savedNumber text) ∨
      (mobileText text ≠ [] ∧ trimmed (mobileText text) = []) := by
  by_cases empty : mobileText text = []
  · exact .inl (savedNumber_of_empty empty)
  · by_cases blank : trimmed (mobileText text) = []
    · exact .inr (.inr ⟨empty, blank⟩)
    · exact .inr (.inl ⟨phoneCode text, trimmed (mobileText text), phoneCode_ne_nil text, blank,
        noDash_phoneCode text, noDash_trimmed_mobileText text, trimmed_trimmed _,
        savedNumber_of_nonempty empty⟩)

theorem savedNumber_of_wellFormed {text : Text} (formed : WellFormed text) :
    savedNumber text = text := by
  obtain ⟨code, number, codeSome, numberSome, codeNone, numberNone, kept, whole⟩ := formed
  rw [whole, savedNumber_pair codeNone numberNone codeSome numberSome, kept]

theorem savedNumber_nil : savedNumber [] = [] :=
  savedNumber_of_empty rfl

/-- Saving the form untouched keeps a number that is empty or well formed and changes every
other; what one saving has made the next ones keep, unless the number was only blanks, when
the second saving erases the calling code as well. -/
theorem savedNumber_settles (text : Text) :
    (savedNumber text = text ↔ text = [] ∨ WellFormed text) ∧
      (savedNumber (savedNumber text) = savedNumber text ↔
        mobileText text = [] ∨ trimmed (mobileText text) ≠ []) ∧
      savedNumber (savedNumber (savedNumber text)) = savedNumber (savedNumber text) := by
  have blankTail : mobileText text ≠ [] → trimmed (mobileText text) = [] →
      savedNumber (savedNumber text) = [] := by
    intro some_ blank
    apply savedNumber_of_empty
    rw [savedNumber_of_nonempty some_, blank]
    exact mobileText_pair (noDash_phoneCode text) List.not_mem_nil
  refine ⟨⟨?_, ?_⟩, ⟨?_, ?_⟩, ?_⟩
  · intro same
    rcases savedNumber_cases text with empty | formed | ⟨some_, blank⟩
    · exact .inl (same.symm.trans empty)
    · exact .inr (same ▸ formed)
    · have gone := blankTail some_ blank
      rw [same, same] at gone
      exact .inl gone
  · rintro (empty | formed)
    · rw [empty]
      exact savedNumber_nil
    · exact savedNumber_of_wellFormed formed
  · intro same
    by_cases empty : mobileText text = []
    · exact .inl empty
    · right
      intro blank
      rw [blankTail empty blank, savedNumber_of_nonempty empty] at same
      exact absurd same.symm (List.append_ne_nil_of_right_ne_nil _ (List.cons_ne_nil _ _))
  · rintro (empty | dark)
    · rw [savedNumber_of_empty empty]
      exact savedNumber_nil
    · rcases savedNumber_cases text with empty | formed | ⟨_, blank⟩
      · rw [empty]
        exact savedNumber_nil
      · exact savedNumber_of_wellFormed formed
      · exact absurd blank dark
  · rcases savedNumber_cases text with empty | formed | ⟨some_, blank⟩
    · rw [empty, savedNumber_nil, savedNumber_nil]
    · rw [savedNumber_of_wellFormed formed, savedNumber_of_wellFormed formed]
    · rw [blankTail some_ blank]
      exact savedNumber_nil

/-- A number saved without a calling code comes back with itself as the code. -/
example : savedNumber "98".toList = "98-98".toList := by decide

/-! ### The address -/

structure Entry where
  id : Option ℤ
  deriving DecidableEq, Repr

structure Ids where
  countryId : ℤ
  stateId : ℤ
  cityId : ℤ
  deriving DecidableEq, Repr

structure Screen where
  ids : Ids
  selectedCountry : Option Entry
  selectedState : Option Entry
  selectedCity : Option Entry
  countryList : List Entry
  stateList : List Entry
  cityList : List Entry
  countriesAsked : Bool
  statesAsked : List ℤ
  citiesAsked : List ℤ
  deriving DecidableEq, Repr

/-- An answer is a list or, when the request failed, nothing. -/
inductive Event where
  | countries (answer : Option (List Entry))
  | states (index : ℕ) (answer : Option (List Entry))
  | cities (index : ℕ) (answer : Option (List Entry))
  | pickCountry (index : ℕ)
  /-- A menu left open offers what was listed when it was opened, so a state or a city may
  be picked that the current list does not hold. -/
  | pickState (entry : Entry)
  | pickCity (entry : Entry)
  deriving DecidableEq, Repr

inductive Choice where
  | country (id : ℤ)
  | state (id : ℤ)
  | city (id : ℤ)
  deriving DecidableEq, Repr

/-- The form as `init` leaves it; the app store and the preferences hold the same ids. -/
def init (stored : Ids) : Screen where
  ids := stored
  selectedCountry := none
  selectedState := none
  selectedCity := none
  countryList := []
  stateList := []
  cityList := []
  countriesAsked := true
  statesAsked := []
  citiesAsked := []

def selectStored (stored : ℤ) (value : List Entry) (selected : Option Entry) : Option Entry :=
  match value.find? (fun element => element.id = some stored) with
  | some element => some element
  | none => selected

def getCountry (stored : Ids) (screen : Screen) (answer : Option (List Entry)) : Screen :=
  match screen.countriesAsked, answer with
  | false, _ => screen
  | true, none => { screen with countriesAsked := false }
  | true, some value =>
      { screen with
        countriesAsked := false
        countryList := value
        selectedCountry := selectStored stored.countryId value screen.selectedCountry
        statesAsked := screen.statesAsked ++ [stored.countryId] }

def getStates (stored : Ids) (screen : Screen) (index : ℕ) (answer : Option (List Entry)) :
    Screen :=
  match screen.statesAsked[index]?, answer with
  | none, _ => screen
  | some _, none => { screen with statesAsked := screen.statesAsked.eraseIdx index }
  | some _, some value =>
      { screen with
        statesAsked := screen.statesAsked.eraseIdx index
        stateList := value
        selectedState := selectStored stored.stateId value screen.selectedState
        citiesAsked :=
          if stored.stateId ≠ 0 then screen.citiesAsked ++ [stored.stateId]
          else screen.citiesAsked }

def getCity (stored : Ids) (screen : Screen) (index : ℕ) (answer : Option (List Entry)) :
    Screen :=
  match screen.citiesAsked[index]?, answer with
  | none, _ => screen
  | some _, none => { screen with citiesAsked := screen.citiesAsked.eraseIdx index }
  | some _, some value =>
      { screen with
        citiesAsked := screen.citiesAsked.eraseIdx index
        cityList := value
        selectedCity := selectStored stored.cityId value screen.selectedCity }

/-- The id of a picked entry is checked first for a country, last for a state or a city. -/
def next (stored : Ids) (screen : Screen) : Event → Screen
  | .countries answer => getCountry stored screen answer
  | .states index answer => getStates stored screen index answer
  | .cities index answer => getCity stored screen index answer
  | .pickCountry index =>
      match screen.countryList[index]? with
      | some { id := some id } =>
          { screen with
            ids := { screen.ids with countryId := id }
            selectedCountry := some { id := some id }
            selectedState := none
            selectedCity := none
            statesAsked := screen.statesAsked ++ [id] }
      | _ => screen
  | .pickState { id := none } =>
      { screen with selectedCity := none, selectedState := some { id := none } }
  | .pickState { id := some id } =>
      { screen with
        selectedCity := none
        selectedState := some { id := some id }
        ids := { screen.ids with stateId := id }
        citiesAsked := screen.citiesAsked ++ [id] }
  | .pickCity { id := none } => { screen with selectedCity := some { id := none } }
  | .pickCity { id := some id } =>
      { screen with
        selectedCity := some { id := some id }
        ids := { screen.ids with cityId := id } }

def chosen (screen : Screen) : Event → List Choice
  | .pickCountry index =>
      match screen.countryList[index]? with
      | some { id := some id } => [.country id]
      | _ => []
  | .pickState { id := some id } => [.state id]
  | .pickCity { id := some id } => [.city id]
  | _ => []

def form (stored : Ids) : Machine Screen Event Choice where
  next := next stored
  outputs := chosen

def Ids.choose (ids : Ids) : Choice → Ids
  | .country id => { ids with countryId := id }
  | .state id => { ids with stateId := id }
  | .city id => { ids with cityId := id }

/-! ### What is shown and what is saved -/

/-- A selection in view is the one whose id `update` sends. -/
def Saves (selected : Option Entry) (id : ℤ) : Prop :=
  ∀ entry, selected = some entry → entry.id = some id

structure ShownIsSaved (screen : Screen) : Prop where
  country : Saves screen.selectedCountry screen.ids.countryId
  state : Saves screen.selectedState screen.ids.stateId
  city : Saves screen.selectedCity screen.ids.cityId

def Lists (value : List Entry) (id : ℤ) : Prop :=
  ∃ element ∈ value, element.id = some id

/-- No answer brings back a stored state or city that is no longer chosen, and what is
picked has an id. -/
def Current (stored : Ids) (screen : Screen) : Event → Prop
  | .states index (some value) =>
      index < screen.statesAsked.length → Lists value stored.stateId →
        screen.ids.stateId = stored.stateId
  | .cities index (some value) =>
      index < screen.citiesAsked.length → Lists value stored.cityId →
        screen.ids.cityId = stored.cityId
  | .pickState entry => entry.id ≠ none
  | .pickCity entry => entry.id ≠ none
  | _ => True

theorem saves_none (id : ℤ) : Saves none id := by
  intro entry selected
  cases selected

theorem saves_some (entry : Entry) (id : ℤ) : Saves (some entry) id ↔ entry.id = some id := by
  constructor
  · intro saves
    exact saves entry rfl
  · intro same other selected
    cases selected
    exact same

theorem saves_selectStored (stored id : ℤ) (value : List Entry) {selected : Option Entry}
    (saves : Saves selected id) :
    Saves (selectStored stored value selected) id ↔ (Lists value stored → id = stored) := by
  unfold selectStored
  cases found : value.find? (fun element => element.id = some stored) with
  | none =>
      rw [List.find?_eq_none] at found
      constructor
      · rintro - ⟨element, member, same⟩
        exact absurd (decide_eq_true same) (found element member)
      · intro _
        exact saves
  | some element =>
      have same : element.id = some stored :=
        by simpa using List.find?_some found
      have listed : Lists value stored := ⟨element, List.mem_of_find?_eq_some found, same⟩
      rw [saves_some, same]
      constructor
      · intro stored_ _
        exact (Option.some.inj stored_).symm
      · intro kept
        rw [kept listed]

/-- Until the countries are listed no country has been chosen. -/
def Unchosen (stored : Ids) (screen : Screen) : Prop :=
  screen.countriesAsked = true →
    screen.ids.countryId = stored.countryId ∧ screen.countryList = []

theorem unchosen_next (stored : Ids) (screen : Screen) (event : Event)
    (unchosen : Unchosen stored screen) : Unchosen stored (next stored screen event) := by
  cases event with
  | countries answer =>
      change Unchosen stored (getCountry stored screen answer)
      unfold getCountry
      split
      · exact unchosen
      · intro asked
        cases asked
      · intro asked
        cases asked
  | states index answer =>
      change Unchosen stored (getStates stored screen index answer)
      unfold getStates
      split <;> exact unchosen
  | cities index answer =>
      change Unchosen stored (getCity stored screen index answer)
      unfold getCity
      split <;> exact unchosen
  | pickCountry index =>
      unfold next
      dsimp only
      split
      · rename_i id picked
        intro asked
        obtain ⟨-, none_⟩ := unchosen asked
        rw [none_] at picked
        cases picked
      · exact unchosen
  | pickState entry =>
      rcases entry with ⟨_ | id⟩
      · exact unchosen
      · exact unchosen
  | pickCity entry =>
      rcases entry with ⟨_ | id⟩
      · exact unchosen
      · exact unchosen

theorem shownIsSaved_getCountry {stored : Ids} {screen : Screen}
    (unchosen : Unchosen stored screen) (shown : ShownIsSaved screen)
    (answer : Option (List Entry)) : ShownIsSaved (getCountry stored screen answer) := by
  unfold getCountry
  split
  · exact shown
  · exact ⟨shown.country, shown.state, shown.city⟩
  · rename_i asked
    have kept := (unchosen asked).1
    refine ⟨?_, shown.state, shown.city⟩
    exact (saves_selectStored _ _ _ shown.country).mpr (fun _ => kept)

theorem shownIsSaved_getStates_iff {stored : Ids} {screen : Screen}
    (shown : ShownIsSaved screen) (index : ℕ) (answer : Option (List Entry)) :
    ShownIsSaved (getStates stored screen index answer) ↔
      Current stored screen (.states index answer) := by
  cases answer with
  | none =>
      refine ⟨fun _ => trivial, fun _ => ?_⟩
      unfold getStates
      cases screen.statesAsked[index]? with
      | none => exact shown
      | some _ => exact ⟨shown.country, shown.state, shown.city⟩
  | some value =>
      unfold getStates
      cases waiting : screen.statesAsked[index]? with
      | none =>
          have late : ¬ index < screen.statesAsked.length := by
            rw [List.getElem?_eq_none_iff] at waiting
            omega
          exact ⟨fun _ asked => absurd asked late, fun _ => shown⟩
      | some _ =>
          obtain ⟨asked, -⟩ := List.getElem?_eq_some_iff.mp waiting
          have state := saves_selectStored stored.stateId screen.ids.stateId value shown.state
          constructor
          · intro after _
            exact state.mp after.state
          · intro current
            exact ⟨shown.country, state.mpr (current asked), shown.city⟩

theorem shownIsSaved_getCity_iff {stored : Ids} {screen : Screen}
    (shown : ShownIsSaved screen) (index : ℕ) (answer : Option (List Entry)) :
    ShownIsSaved (getCity stored screen index answer) ↔
      Current stored screen (.cities index answer) := by
  cases answer with
  | none =>
      refine ⟨fun _ => trivial, fun _ => ?_⟩
      unfold getCity
      cases screen.citiesAsked[index]? with
      | none => exact shown
      | some _ => exact ⟨shown.country, shown.state, shown.city⟩
  | some value =>
      unfold getCity
      cases waiting : screen.citiesAsked[index]? with
      | none =>
          have late : ¬ index < screen.citiesAsked.length := by
            rw [List.getElem?_eq_none_iff] at waiting
            omega
          exact ⟨fun _ asked => absurd asked late, fun _ => shown⟩
      | some _ =>
          obtain ⟨asked, -⟩ := List.getElem?_eq_some_iff.mp waiting
          have city := saves_selectStored stored.cityId screen.ids.cityId value shown.city
          constructor
          · intro after _
            exact city.mp after.city
          · intro current
            exact ⟨shown.country, shown.state, city.mpr (current asked)⟩

theorem shownIsSaved_next_iff (stored : Ids) (screen : Screen) (event : Event)
    (unchosen : Unchosen stored screen) (shown : ShownIsSaved screen) :
    ShownIsSaved (next stored screen event) ↔ Current stored screen event := by
  cases event with
  | countries answer =>
      exact ⟨fun _ => trivial, fun _ => shownIsSaved_getCountry unchosen shown answer⟩
  | states index answer => exact shownIsSaved_getStates_iff shown index answer
  | cities index answer => exact shownIsSaved_getCity_iff shown index answer
  | pickCountry index =>
      refine ⟨fun _ => trivial, fun _ => ?_⟩
      unfold next
      dsimp only
      split
      · exact ⟨(saves_some _ _).mpr rfl, saves_none _, saves_none _⟩
      · exact shown
  | pickState entry =>
      rcases entry with ⟨_ | id⟩
      · constructor
        · intro after
          exact nomatch (saves_some _ _).mp after.state
        · intro some_
          exact absurd rfl some_
      · refine ⟨fun _ => Option.some_ne_none id, fun _ => ?_⟩
        exact ⟨shown.country, (saves_some _ _).mpr rfl, saves_none _⟩
  | pickCity entry =>
      rcases entry with ⟨_ | id⟩
      · constructor
        · intro after
          exact nomatch (saves_some _ _).mp after.city
        · intro some_
          exact absurd rfl some_
      · refine ⟨fun _ => Option.some_ne_none id, fun _ => ?_⟩
        exact ⟨shown.country, shown.state, (saves_some _ _).mpr rfl⟩

theorem ids_next (stored : Ids) (screen : Screen) (event : Event) :
    (next stored screen event).ids = (chosen screen event).foldl Ids.choose screen.ids := by
  cases event with
  | countries answer =>
      change (getCountry stored screen answer).ids = screen.ids
      unfold getCountry
      split <;> rfl
  | states index answer =>
      change (getStates stored screen index answer).ids = screen.ids
      unfold getStates
      split <;> rfl
  | cities index answer =>
      change (getCity stored screen index answer).ids = screen.ids
      unfold getCity
      split <;> rfl
  | pickCountry index =>
      unfold next chosen
      dsimp only
      split <;> rfl
  | pickState entry =>
      rcases entry with ⟨_ | id⟩
      · rfl
      · rfl
  | pickCity entry =>
      rcases entry with ⟨_ | id⟩
      · rfl
      · rfl

/-- Whatever the answers are and whenever they come, what is saved is made of the choices
alone, each level's last one or else the stored id.  The form shows no other selection in any
state of a run exactly when no answer lists the stored state or city after another has been
chosen, and no state or city without an id is picked. -/
theorem saves_choices_and_shows_them_iff (stored : Ids) (events : List Event) :
    ((form stored).run (init stored) events).ids =
        ((form stored).trace (init stored) events).foldl Ids.choose stored ∧
      ((form stored).Every (fun screen event => ShownIsSaved (next stored screen event))
          (init stored) events ↔
        (form stored).Every (Current stored) (init stored) events) := by
  constructor
  · exact @Machine.view_run_eq_foldl _ _ _ (form stored) _ Screen.ids Ids.choose
      (ids_next stored) (init stored) events
  · exact @Machine.every_next_iff_of_sound _ _ _ (form stored) (Unchosen stored)
      ShownIsSaved _ (unchosen_next stored) (shownIsSaved_next_iff stored) _ _
      (fun _ => ⟨rfl, rfl⟩) ⟨saves_none _, saves_none _, saves_none _⟩

/-- Back at the stored state the stored city is shown and the one picked in between saved. -/
example :
    let screen := (form ⟨1, 2, 3⟩).run (init ⟨1, 2, 3⟩)
      [.countries (some [⟨some 1⟩]), .states 0 (some [⟨some 2⟩, ⟨some 5⟩]),
        .pickState ⟨some 5⟩, .cities 1 (some [⟨some 9⟩]), .pickCity ⟨some 9⟩,
        .pickState ⟨some 2⟩, .cities 1 (some [⟨some 3⟩])]
    screen.selectedCity = some ⟨some 3⟩ ∧ screen.ids = ⟨1, 2, 9⟩ := by
  decide

end FiksOpp.EditProfile
