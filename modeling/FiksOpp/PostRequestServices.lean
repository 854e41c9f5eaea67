/-
The services chosen for a post-job request in `CreatePostRequestScreen`.

The chosen services are kept as objects.  The button of a row compares ids, its Remove looks
for the object of the row, and every load of the list brings new objects; a deletion loads
the list again and leaves the choice as it is.
-/

import FiksOpp.Foundations.EventRun
import Mathlib.Data.List.Nodup

namespace FiksOpp.PostRequest

open EventRun

/-- An object of the screen; `ref` is its identity, which `==` compares. -/
structure ServiceData where
  ref : ℕ
  id : Option ℤ
  categoryId : Option ℤ
  deriving DecidableEq, Repr

def ServiceData.sentId (service : ServiceData) : ℤ :=
  service.id.getD 0

structure ServiceJson where
  id : Option ℤ
  categoryId : Option ℤ
  deriving DecidableEq, Repr

/-- `selectedCategory` is the id of the category that filters the rows; `deleted` are the ids
of the deletions that have succeeded. -/
structure Screen where
  myServiceList : List ServiceData := []
  selectedServiceList : List ServiceData := []
  selectedCategory : Option (Option ℤ) := none
  nextRef : ℕ := 0
  deleted : List ℤ := []
  deriving DecidableEq, Repr

inductive ScreenEvent where
  /-- The Add or Remove button of a row. -/
  | pressed (row : ℕ)
  | filtered (category : Option ℤ)
  /-- The list is loaded when the screen opens and after a service was created, edited or
  deleted; an answer may come without `user_services`. -/
  | loaded (userServices : Option (List ServiceJson))
  | deletionSucceeded (id : ℤ)
  /-- A load or a deletion that fails is a toast. -/
  | requestFailed
  deriving DecidableEq, Repr

namespace Screen

/-- The category -1 stands for all. -/
def filteredServices (screen : Screen) : List ServiceData :=
  match screen.selectedCategory with
  | none => screen.myServiceList
  | some category =>
      if category = some (-1) then screen.myServiceList
      else screen.myServiceList.filter fun service => service.categoryId = category

def showsRemove (screen : Screen) (data : ServiceData) : Bool :=
  screen.selectedServiceList.any fun e => e.id = data.id

def pressed (screen : Screen) (row : ℕ) : Screen :=
  match screen.filteredServices[row]? with
  | none => screen
  | some data =>
      if screen.showsRemove data then
        { screen with selectedServiceList := screen.selectedServiceList.erase data }
      else { screen with selectedServiceList := screen.selectedServiceList ++ [data] }

def freshServices (nextRef : ℕ) : List ServiceJson → List ServiceData
  | [] => []
  | json :: rest =>
      { ref := nextRef, id := json.id, categoryId := json.categoryId } ::
        freshServices (nextRef + 1) rest

def loaded (screen : Screen) : Option (List ServiceJson) → Screen
  | none => screen
  | some userServices =>
      { screen with
        myServiceList := freshServices screen.nextRef userServices
        nextRef := screen.nextRef + userServices.length }

def next (screen : Screen) : ScreenEvent → Screen
  | .pressed row => screen.pressed row
  | .filtered category => { screen with selectedCategory := some category }
  | .loaded userServices => screen.loaded userServices
  | .deletionSucceeded id => { screen with deleted := id :: screen.deleted }
  | .requestFailed => screen

/-- The `service_id` entry of the request that `createPostJobClick` would send. -/
def serviceIds (screen : Screen) : List ℤ :=
  screen.selectedServiceList.map ServiceData.sentId

end Screen

def postMachine : Machine Screen ScreenEvent Empty :=
  { next := Screen.next
    outputs := fun _ _ => [] }

namespace Screen

/-- The ids whose row shows that it is selected, in whichever category the row is. -/
def shownIds (screen : Screen) : List ℤ :=
  (screen.myServiceList.filter screen.showsRemove).map ServiceData.sentId

structure CarriesShown (screen : Screen) : Prop where
  nodup : screen.serviceIds.Nodup
  exact_ids : ∀ id, id ∈ screen.serviceIds ↔ id ∈ screen.shownIds
  undeleted : ∀ id ∈ screen.deleted, id ∉ screen.serviceIds

def RemoveRemoves (screen : Screen) : ScreenEvent → Prop
  | .pressed row =>
      ∀ data, screen.filteredServices[row]? = some data → screen.showsRemove data = true →
        data.sentId ∉ (screen.pressed row).serviceIds
  | _ => True

/-- Remove is pressed on an object that is itself selected, Add on a service that is not
deleted and whose id is not yet selected, 0 for a missing one; a load brings every service
that is selected, and none of these is deleted. -/
def InStep (screen : Screen) : ScreenEvent → Prop
  | .pressed row =>
      ∀ data, screen.filteredServices[row]? = some data →
        if screen.showsRemove data then data ∈ screen.selectedServiceList
        else data.sentId ∉ screen.deleted ∧ data.sentId ∉ screen.serviceIds
  | .loaded (some userServices) =>
      ∀ service ∈ screen.selectedServiceList, service.id ∈ userServices.map ServiceJson.id
  | .deletionSucceeded id => id ∉ screen.serviceIds
  | _ => True

theorem mem_of_row {screen : Screen} {row : ℕ} {data : ServiceData}
    (found : screen.filteredServices[row]? = some data) : data ∈ screen.myServiceList := by
  have member := List.mem_of_getElem? found
  unfold filteredServices at member
  split at member
  · exact member
  · split at member
    · exact member
    · exact List.mem_of_mem_filter member

theorem showsRemove_iff (screen : Screen) (data : ServiceData) :
    screen.showsRemove data = true ↔ ∃ e ∈ screen.selectedServiceList, e.id = data.id := by
  unfold showsRemove
  simp only [List.any_eq_true, decide_eq_true_eq]

theorem mem_shownIds_iff (screen : Screen) (id : ℤ) :
    id ∈ screen.shownIds ↔
      ∃ data ∈ screen.myServiceList, screen.showsRemove data = true ∧ data.sentId = id := by
  unfold shownIds
  simp only [List.mem_map, List.mem_filter, and_assoc]

theorem mem_serviceIds_of_mem_shownIds {screen : Screen} {id : ℤ}
    (shown : id ∈ screen.shownIds) : id ∈ screen.serviceIds := by
  obtain ⟨data, _, shows, rfl⟩ := (mem_shownIds_iff screen id).mp shown
  obtain ⟨e, selected, same⟩ := (showsRemove_iff screen data).mp shows
  apply List.mem_map.mpr
  refine ⟨e, selected, ?_⟩
  unfold ServiceData.sentId
  rw [same]

/-- With distinct ids, all selected ids are shown exactly when the list has a row for each
selected service. -/
theorem shown_iff_listed {screen : Screen} (nodup : screen.serviceIds.Nodup) :
    (∀ id, id ∈ screen.serviceIds ↔ id ∈ screen.shownIds) ↔
      ∀ service ∈ screen.selectedServiceList,
        ∃ data ∈ screen.myServiceList, data.id = service.id := by
  constructor
  · intro shown service selected
    obtain ⟨data, listed, shows, sent⟩ := (mem_shownIds_iff screen service.sentId).mp
      ((shown service.sentId).mp (List.mem_map_of_mem selected))
    obtain ⟨e, chosen, same⟩ := (showsRemove_iff screen data).mp shows
    have sameSent : e.sentId = service.sentId := by
      rw [← sent]
      unfold ServiceData.sentId
      rw [same]
    have equal : e = service := List.inj_on_of_nodup_map nodup chosen selected sameSent
    exact ⟨data, listed, equal ▸ same.symm⟩
  · intro listed id
    refine ⟨fun carried => ?_, mem_serviceIds_of_mem_shownIds⟩
    obtain ⟨service, selected, rfl⟩ := List.mem_map.mp carried
    obtain ⟨data, member, same⟩ := listed service selected
    refine (mem_shownIds_iff screen _).mpr ⟨data, member, ?_, ?_⟩
    · exact (showsRemove_iff screen data).mpr ⟨service, selected, same.symm⟩
    · unfold ServiceData.sentId
      rw [same]

theorem mem_freshServices_id {nextRef : ℕ} {userServices : List ServiceJson} {id : Option ℤ} :
    (∃ data ∈ freshServices nextRef userServices, data.id = id) ↔
      id ∈ userServices.map ServiceJson.id := by
  induction userServices generalizing nextRef with
  | nil => simp [freshServices]
  | cons json rest ih =>
      simp only [freshServices, List.mem_cons, exists_eq_or_imp, List.map_cons, ih]
      constructor
      · rintro (same | later)
        · exact Or.inl same.symm
        · exact Or.inr later
      · rintro (same | later)
        · exact Or.inl same.symm
        · exact Or.inr later

/-- The three facts as they are kept: distinct ids, a row for each selected service, and
nothing deleted. -/
structure Listed (screen : Screen) : Prop where
  nodup : screen.serviceIds.Nodup
  rows : ∀ service ∈ screen.selectedServiceList,
    ∃ data ∈ screen.myServiceList, data.id = service.id
  undeleted : ∀ id ∈ screen.deleted, id ∉ screen.serviceIds

theorem carriesShown_iff (screen : Screen) : screen.CarriesShown ↔ screen.Listed := by
  constructor
  · intro carries
    exact ⟨carries.nodup, (shown_iff_listed carries.nodup).mp carries.exact_ids,
      carries.undeleted⟩
  · intro listed
    exact ⟨listed.nodup, (shown_iff_listed listed.nodup).mpr listed.rows, listed.undeleted⟩

/-! ### Steps -/

theorem pressed_of_none {screen : Screen} {row : ℕ}
    (none : screen.filteredServices[row]? = none) : screen.pressed row = screen := by
  unfold pressed
  rw [none]

theorem pressed_remove {screen : Screen} {row : ℕ} {data : ServiceData}
    (found : screen.filteredServices[row]? = some data)
    (shows : screen.showsRemove data = true) :
    screen.pressed row =
      { screen with selectedServiceList := screen.selectedServiceList.erase data } := by
  unfold pressed
  rw [found]
  exact if_pos shows

theorem pressed_add {screen : Screen} {row : ℕ} {data : ServiceData}
    (found : screen.filteredServices[row]? = some data)
    (shows : ¬ screen.showsRemove data = true) :
    screen.pressed row =
      { screen with selectedServiceList := screen.selectedServiceList ++ [data] } := by
  unfold pressed
  rw [found]
  exact if_neg shows

theorem Listed.erase {screen : Screen} (listed : screen.Listed) (data : ServiceData) :
    Listed { screen with selectedServiceList := screen.selectedServiceList.erase data } where
  nodup := (List.erase_sublist.map ServiceData.sentId).nodup listed.nodup
  rows := fun service member => listed.rows service (List.mem_of_mem_erase member)
  undeleted := by
    intro id gone carried
    exact listed.undeleted id gone
      ((List.erase_sublist.map ServiceData.sentId).subset carried)

theorem erase_removes_iff {screen : Screen} (nodup : screen.serviceIds.Nodup)
    {data : ServiceData} (shows : screen.showsRemove data = true) :
    data.sentId ∉ (screen.selectedServiceList.erase data).map ServiceData.sentId ↔
      data ∈ screen.selectedServiceList := by
  constructor
  · intro removed
    by_contra other
    obtain ⟨e, selected, same⟩ := (showsRemove_iff screen data).mp shows
    apply removed
    rw [List.erase_of_not_mem other]
    refine List.mem_map.mpr ⟨e, selected, ?_⟩
    unfold ServiceData.sentId
    rw [same]
  · intro selected left
    obtain ⟨e, remaining, same⟩ := List.mem_map.mp left
    have equal : e = data :=
      List.inj_on_of_nodup_map nodup (List.mem_of_mem_erase remaining) selected same
    rw [equal] at remaining
    exact nodup.of_map.not_mem_erase remaining

theorem listed_add_iff {screen : Screen} (listed : screen.Listed) {data : ServiceData}
    (member : data ∈ screen.myServiceList) :
    Listed { screen with selectedServiceList := screen.selectedServiceList ++ [data] } ↔
      data.sentId ∉ screen.deleted ∧ data.sentId ∉ screen.serviceIds := by
  have ids : serviceIds
      { screen with selectedServiceList := screen.selectedServiceList ++ [data] } =
        screen.serviceIds ++ [data.sentId] := by
    unfold serviceIds
    rw [List.map_append]
    rfl
  constructor
  · intro after
    have distinct := after.nodup
    rw [ids, List.nodup_append] at distinct
    constructor
    · intro gone
      apply after.undeleted data.sentId gone
      rw [ids]
      exact List.mem_append_right _ (List.mem_singleton.mpr rfl)
    · intro carried
      exact distinct.2.2 data.sentId carried data.sentId (List.mem_singleton.mpr rfl) rfl
  · rintro ⟨undeleted, absent⟩
    refine ⟨?_, ?_, ?_⟩
    · rw [ids, List.nodup_append]
      refine ⟨listed.nodup, List.nodup_singleton _, ?_⟩
      intro id carried other single same
      rw [List.mem_singleton.mp single] at same
      exact absent (same ▸ carried)
    · intro service selected
      rcases List.mem_append.mp selected with old | new
      · exact listed.rows service old
      · exact ⟨data, member, congrArg ServiceData.id (List.mem_singleton.mp new).symm⟩
    · intro id gone carried
      rw [ids] at carried
      rcases List.mem_append.mp carried with old | new
      · exact listed.undeleted id gone old
      · exact undeleted (List.mem_singleton.mp new ▸ gone)

theorem listed_loaded_iff {screen : Screen} (listed : screen.Listed)
    (userServices : List ServiceJson) :
    (screen.loaded (some userServices)).Listed ↔
      ∀ service ∈ screen.selectedServiceList, service.id ∈ userServices.map ServiceJson.id := by
  constructor
  · intro after service selected
    exact mem_freshServices_id.mp (after.rows service selected)
  · intro all
    exact ⟨listed.nodup, fun service selected => mem_freshServices_id.mpr (all service selected),
      listed.undeleted⟩

theorem listed_deleted_iff {screen : Screen} (listed : screen.Listed) (id : ℤ) :
    Listed { screen with deleted := id :: screen.deleted } ↔ id ∉ screen.serviceIds := by
  constructor
  · intro after
    exact after.undeleted id List.mem_cons_self
  · intro absent
    refine ⟨listed.nodup, listed.rows, fun other gone => ?_⟩
    rcases List.mem_cons.mp gone with same | old
    · exact same ▸ absent
    · exact listed.undeleted other old

theorem pressed_iff {screen : Screen} (listed : screen.Listed) (row : ℕ) :
    ((screen.pressed row).Listed ∧ screen.RemoveRemoves (.pressed row)) ↔
      screen.InStep (.pressed row) := by
  cases found : screen.filteredServices[row]? with
  | none =>
      have absent : ∀ data, screen.filteredServices[row]? ≠ some data := by
        intro data
        rw [found]
        exact Option.some_ne_none data ∘ Eq.symm
      refine iff_of_true ⟨?_, fun data other => absurd other (absent data)⟩
        fun data other => absurd other (absent data)
      rw [pressed_of_none found]
      exact listed
  | some data =>
      have only : ∀ other, screen.filteredServices[row]? = some other → other = data := by
        intro other same
        exact Option.some.inj (same.symm.trans found)
      by_cases shows : screen.showsRemove data = true
      · have removes := erase_removes_iff listed.nodup shows
        rw [pressed_remove found shows]
        constructor
        · rintro ⟨_, removed⟩ other same
          rw [only other same, if_pos shows]
          have gone := removed data found shows
          rw [pressed_remove found shows] at gone
          exact removes.mp gone
        · intro inStep
          have selected := inStep data found
          rw [if_pos shows] at selected
          refine ⟨listed.erase data, fun other same _ => ?_⟩
          rw [only other same, pressed_remove found shows]
          exact removes.mpr selected
      · rw [pressed_add found shows, listed_add_iff listed (mem_of_row found)]
        constructor
        · rintro ⟨fresh, _⟩ other same
          rw [only other same, if_neg shows]
          exact fresh
        · intro inStep
          have fresh := inStep data found
          rw [if_neg shows] at fresh
          refine ⟨fresh, fun other same removing => ?_⟩
          rw [only other same] at removing
          exact absurd removing shows

theorem next_iff (screen : Screen) (event : ScreenEvent) (listed : screen.Listed) :
    ((screen.next event).Listed ∧ screen.RemoveRemoves event) ↔ screen.InStep event := by
  cases event with
  | pressed row => exact pressed_iff listed row
  | filtered category =>
      exact iff_of_true ⟨⟨listed.nodup, listed.rows, listed.undeleted⟩, trivial⟩ trivial
  | loaded userServices =>
      cases userServices with
      | none => exact iff_of_true ⟨listed, trivial⟩ trivial
      | some userServices =>
          exact (and_iff_left trivial).trans (listed_loaded_iff listed userServices)
  | deletionSucceeded id => exact (and_iff_left trivial).trans (listed_deleted_iff listed id)
  | requestFailed => exact iff_of_true ⟨listed, trivial⟩ trivial

structure Identified (screen : Screen) : Prop where
  below : ∀ service ∈ screen.myServiceList ++ screen.selectedServiceList,
    service.ref < screen.nextRef
  same : ∀ service ∈ screen.myServiceList ++ screen.selectedServiceList,
    ∀ other ∈ screen.myServiceList ++ screen.selectedServiceList,
      service.ref = other.ref → service = other

theorem ref_of_mem_fresh {nextRef : ℕ} {userServices : List ServiceJson} {service : ServiceData}
    (member : service ∈ freshServices nextRef userServices) :
    nextRef ≤ service.ref ∧ service.ref < nextRef + userServices.length := by
  induction userServices generalizing nextRef with
  | nil => exact absurd member List.not_mem_nil
  | cons json rest ih =>
      rw [List.length_cons]
      rcases List.mem_cons.mp member with head | tail
      · rw [head]
        exact ⟨Nat.le_refl _, by dsimp only; omega⟩
      · have bounds := ih tail
        omega

theorem eq_of_fresh_ref {nextRef : ℕ} {userServices : List ServiceJson}
    {service other : ServiceData} (member : service ∈ freshServices nextRef userServices)
    (member' : other ∈ freshServices nextRef userServices) (same : service.ref = other.ref) :
    service = other := by
  induction userServices generalizing nextRef with
  | nil => exact absurd member List.not_mem_nil
  | cons json rest ih =>
      rcases List.mem_cons.mp member with head | tail
      · rcases List.mem_cons.mp member' with head' | tail'
        · exact head.trans head'.symm
        · have bounds := ref_of_mem_fresh tail'
          rw [head] at same
          dsimp only at same
          omega
      · rcases List.mem_cons.mp member' with head' | tail'
        · have bounds := ref_of_mem_fresh tail
          rw [head'] at same
          dsimp only at same
          omega
        · exact ih tail tail'

theorem Identified.of_subset {screen after : Screen} (identified : screen.Identified)
    (nextRef : after.nextRef = screen.nextRef)
    (subset : after.myServiceList ++ after.selectedServiceList ⊆
      screen.myServiceList ++ screen.selectedServiceList) : after.Identified where
  below := fun service member => nextRef ▸ identified.below service (subset member)
  same := fun service member other member' =>
    identified.same service (subset member) other (subset member')

theorem identified_pressed {screen : Screen} (identified : screen.Identified) (row : ℕ) :
    (screen.pressed row).Identified := by
  unfold pressed
  split
  · exact identified
  · rename_i data found
    split
    · exact identified.of_subset rfl
        (List.append_subset.mpr ⟨List.subset_append_left _ _,
          List.Subset.trans List.erase_subset (List.subset_append_right _ _)⟩)
    · refine identified.of_subset rfl
        (List.append_subset.mpr ⟨List.subset_append_left _ _,
          List.append_subset.mpr ⟨List.subset_append_right _ _, ?_⟩⟩)
      intro service single
      rw [List.mem_singleton.mp single]
      exact List.mem_append_left _ (mem_of_row found)

theorem identified_loaded {screen : Screen} (identified : screen.Identified)
    (userServices : List ServiceJson) : (screen.loaded (some userServices)).Identified := by
  have old : ∀ service ∈ screen.selectedServiceList, service.ref < screen.nextRef :=
    fun service member => identified.below service (List.mem_append_right _ member)
  constructor
  · intro service member
    change service.ref < screen.nextRef + userServices.length
    rcases List.mem_append.mp member with listed | selected
    · exact (ref_of_mem_fresh listed).2
    · have bound := old service selected
      omega
  · intro service member other member' same
    rcases List.mem_append.mp member with listed | selected
    · rcases List.mem_append.mp member' with listed' | selected'
      · exact eq_of_fresh_ref listed listed' same
      · have bound := old other selected'
        have fresh := (ref_of_mem_fresh listed).1
        omega
    · rcases List.mem_append.mp member' with listed' | selected'
      · have bound := old service selected
        have fresh := (ref_of_mem_fresh listed').1
        omega
      · exact identified.same service (List.mem_append_right _ selected) other
          (List.mem_append_right _ selected') same

theorem identified_next (screen : Screen) (event : ScreenEvent)
    (identified : screen.Identified) : (screen.next event).Identified := by
  cases event with
  | pressed row => exact identified_pressed identified row
  | filtered category => exact identified.of_subset rfl (List.Subset.refl _)
  | loaded userServices =>
      cases userServices with
      | none => exact identified
      | some userServices => exact identified_loaded identified userServices
  | deletionSucceeded id => exact identified.of_subset rfl (List.Subset.refl _)
  | requestFailed => exact identified

end Screen

/-- The objects of the screen are told apart by their references, so that an object equal to
the row's is the row's own. -/
theorem identified_run {screen : Screen} (identified : screen.Identified)
    (events : List ScreenEvent) : (postMachine.run screen events).Identified :=
  postMachine.invariant_run_of_kept Screen.Identified Screen.identified_next identified events

/-- Over every run of taps, loads and deletions: the request carries the ids shown as
selected and no deleted one, and Remove removes, as long as each step is in step with the
loads. -/
theorem postRequestServices_iff (events : List ScreenEvent) :
    postMachine.Every
        (fun screen event => (screen.next event).CarriesShown ∧ screen.RemoveRemoves event)
        {} events ↔
      postMachine.Every Screen.InStep {} events := by
  have start : Screen.Listed {} :=
    ⟨List.nodup_nil, fun _ member => absurd member List.not_mem_nil,
      fun _ member => absurd member List.not_mem_nil⟩
  refine Machine.every_iff_of_step Screen.Listed ?_ start
  intro screen event listed
  rw [Screen.carriesShown_iff]
  exact ⟨Screen.next_iff screen event listed, fun after => after.1⟩

def addedAndReloaded : List ScreenEvent :=
  [.loaded (some [⟨some 1, none⟩]), .pressed 0, .loaded (some [⟨some 1, none⟩])]

/-- Remove leaves the service in the request, and so does its deletion. -/
theorem removed_and_deleted_still_sent :
    (postMachine.run {} (addedAndReloaded ++ [.pressed 0])).serviceIds = [1] ∧
      (postMachine.run {} (addedAndReloaded ++ [.deletionSucceeded 1])).serviceIds = [1] ∧
      ¬ postMachine.Every
        (fun screen event => (screen.next event).CarriesShown ∧ screen.RemoveRemoves event)
        {} (addedAndReloaded ++ [.deletionSucceeded 1]) := by
  refine ⟨rfl, rfl, fun every => ?_⟩
  have carries := every.2.2.2.1.1
  exact carries.undeleted 1 (by decide) (by decide)

end FiksOpp.PostRequest
