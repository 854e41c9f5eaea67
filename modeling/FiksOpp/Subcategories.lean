/-
Categories and subcategories of `CreateServiceScreen`.

A choice of a category empties the list of subcategories and asks for that category's.  An
answer fills the list without a look at the category that is selected by then, and a failure
leaves what is there.
-/

import FiksOpp.Foundations.EventRun
import Mathlib.Data.List.Basic

namespace FiksOpp.CreateService

open EventRun

/-- A category of the list, which is fixed once it has been loaded. -/
structure CategoryData where
  id : Option ℤ
  deriving DecidableEq, Repr

def CategoryData.catId (category : CategoryData) : ℤ :=
  category.id.getD 0

/-- A subcategory, with the category whose answer brought it. -/
structure SubcategoryData where
  id : Option ℤ
  ofCategory : ℤ
  deriving DecidableEq, Repr

/-- `inFlight` are the categories of the requests that have no answer yet. -/
structure CategoryForm where
  isUpdate : Bool := false
  selectedCategory : Option CategoryData := none
  selectedSubCategory : Option SubcategoryData := none
  subCategoryList : List SubcategoryData := []
  inFlight : List ℤ := []
  deriving DecidableEq, Repr

inductive CategoryEvent where
  | chooseCategory (category : CategoryData)
  | chooseSubcategory (index : ℕ)
  /-- An answer to one of the requests, with the ids of its entries, if it has a list. -/
  | answered (request : ℕ) (categoryList : Option (List (Option ℤ)))
  | failed (request : ℕ)
  deriving DecidableEq, Repr

/-- One entry for each id, the first; entries without one all stay. -/
def dedupeCategoriesById (seen : List ℤ) : List SubcategoryData → List SubcategoryData
  | [] => []
  | entry :: rest =>
      match entry.id with
      | none => entry :: dedupeCategoriesById seen rest
      | some id =>
          if id ∈ seen then dedupeCategoriesById seen rest
          else entry :: dedupeCategoriesById (id :: seen) rest

/-- A selected entry gives way to the one of the list with its id; without an id it
stays. -/
def alignSelectedSubcategoryWithList (selected : Option SubcategoryData)
    (list : List SubcategoryData) : Option SubcategoryData :=
  match selected with
  | none => none
  | some entry =>
      if entry.id = none then some entry
      else list.find? fun candidate => candidate.id = entry.id

def entriesOf (catId : ℤ) (categoryList : Option (List (Option ℤ))) : List SubcategoryData :=
  (categoryList.getD []).map fun id => { id := id, ofCategory := catId }

namespace CategoryForm

/-- The rest of `getSubCategoryData`, once its request has been answered. -/
def received (form : CategoryForm) (catId : ℤ) (categoryList : Option (List (Option ℤ))) :
    CategoryForm :=
  let entries := entriesOf catId categoryList
  let list := dedupeCategoriesById [] entries
  let selected := if entries = [] then none else form.selectedSubCategory
  { form with
    subCategoryList := list
    selectedSubCategory := alignSelectedSubcategoryWithList selected list }

/-- The handler of the field is missing in an update. -/
def chooseCategory (form : CategoryForm) (category : CategoryData) : CategoryForm :=
  if form.isUpdate then form
  else
    { form with
      selectedCategory := some category
      selectedSubCategory := none
      subCategoryList := []
      inFlight := form.inFlight ++ [category.catId] }

def chooseSubcategory (form : CategoryForm) (index : ℕ) : CategoryForm :=
  match form.subCategoryList[index]? with
  | none => form
  | some entry => { form with selectedSubCategory := some entry }

def landed (form : CategoryForm) (request : ℕ) : CategoryForm :=
  { form with inFlight := form.inFlight.eraseIdx request }

def answered (form : CategoryForm) (request : ℕ) (categoryList : Option (List (Option ℤ))) :
    CategoryForm :=
  match form.inFlight[request]? with
  | none => form
  | some catId => (form.landed request).received catId categoryList

def failed (form : CategoryForm) (request : ℕ) : CategoryForm :=
  match form.inFlight[request]? with
  | none => form
  | some _ => form.landed request

def next (form : CategoryForm) : CategoryEvent → CategoryForm
  | .chooseCategory category => form.chooseCategory category
  | .chooseSubcategory index => form.chooseSubcategory index
  | .answered request categoryList => form.answered request categoryList
  | .failed request => form.failed request

end CategoryForm

def categoryMachine : Machine CategoryForm CategoryEvent Empty :=
  { next := CategoryForm.next
    outputs := fun _ _ => [] }

/-- The form with its list of categories loaded; only an update starts with a category. -/
def openedForm (serviceCategory : Option CategoryData) (isUpdate : Bool) : CategoryForm :=
  { isUpdate := isUpdate
    selectedCategory := if isUpdate then serviceCategory else none }

namespace CategoryForm

def Owns (form : CategoryForm) (catId : ℤ) : Prop :=
  form.selectedCategory.map CategoryData.catId = some catId

instance (form : CategoryForm) (catId : ℤ) : Decidable (form.Owns catId) :=
  inferInstanceAs (Decidable (_ = _))

def Belongs (form : CategoryForm) : Prop :=
  (∀ entry ∈ form.subCategoryList, form.Owns entry.ofCategory) ∧
    ∀ entry ∈ form.selectedSubCategory, form.Owns entry.ofCategory

def Consistent (form : CategoryForm) : Prop :=
  form.inFlight = [] → form.Belongs

def Last (form : CategoryForm) (request : ℕ) (catId : ℤ) : Prop :=
  form.inFlight[request]? = some catId ∧ form.inFlight.eraseIdx request = []

/-- An answer with entries that leaves nothing in flight is one for the selected category,
and finds no entry of another one selected that has no id; a failure that leaves nothing in
flight finds nothing of another category. -/
def LandsInPlace (form : CategoryForm) : CategoryEvent → Prop
  | .chooseCategory _ => True
  | .chooseSubcategory _ => True
  | .answered request categoryList =>
      ∀ catId, form.Last request catId → categoryList.getD [] ≠ [] →
        form.Owns catId ∧
          ∀ entry ∈ form.selectedSubCategory, entry.id = none → form.Owns entry.ofCategory
  | .failed request => ∀ catId, form.Last request catId → form.Belongs

end CategoryForm

theorem mem_of_mem_dedupe {seen : List ℤ} {entries : List SubcategoryData}
    {entry : SubcategoryData} (member : entry ∈ dedupeCategoriesById seen entries) :
    entry ∈ entries := by
  induction entries generalizing seen with
  | nil => exact member
  | cons head rest ih =>
      unfold dedupeCategoriesById at member
      cases headId : head.id with
      | none =>
          rw [headId] at member
          rcases List.mem_cons.mp member with same | later
          · exact same ▸ List.mem_cons_self
          · exact List.mem_cons_of_mem _ (ih later)
      | some id =>
          rw [headId] at member
          dsimp only at member
          split at member
          · exact List.mem_cons_of_mem _ (ih member)
          · rcases List.mem_cons.mp member with same | later
            · exact same ▸ List.mem_cons_self
            · exact List.mem_cons_of_mem _ (ih later)

theorem dedupe_ne_nil {entries : List SubcategoryData} (present : entries ≠ []) :
    dedupeCategoriesById [] entries ≠ [] := by
  cases entries with
  | nil => exact absurd rfl present
  | cons head rest =>
      unfold dedupeCategoriesById
      cases head.id with
      | none => exact List.cons_ne_nil _ _
      | some id =>
          dsimp only
          rw [if_neg List.not_mem_nil]
          exact List.cons_ne_nil _ _

theorem entriesOf_eq_nil_iff (catId : ℤ) (categoryList : Option (List (Option ℤ))) :
    entriesOf catId categoryList = [] ↔ categoryList.getD [] = [] :=
  List.map_eq_nil_iff

theorem ofCategory_of_mem {catId : ℤ} {categoryList : Option (List (Option ℤ))}
    {entry : SubcategoryData} (member : entry ∈ entriesOf catId categoryList) :
    entry.ofCategory = catId := by
  obtain ⟨id, _, rfl⟩ := List.mem_map.mp member
  rfl

theorem align_cases {selected : Option SubcategoryData} {list : List SubcategoryData}
    {entry : SubcategoryData}
    (aligned : alignSelectedSubcategoryWithList selected list = some entry) :
    entry ∈ list ∨ selected = some entry ∧ entry.id = none := by
  unfold alignSelectedSubcategoryWithList at aligned
  cases selected with
  | none => cases aligned
  | some chosen =>
      by_cases idless : chosen.id = none
      · dsimp only at aligned
        rw [if_pos idless] at aligned
        cases aligned
        exact Or.inr ⟨rfl, idless⟩
      · dsimp only at aligned
        rw [if_neg idless] at aligned
        exact Or.inl (List.mem_of_find?_eq_some aligned)

theorem align_of_idless {entry : SubcategoryData} (idless : entry.id = none)
    (list : List SubcategoryData) :
    alignSelectedSubcategoryWithList (some entry) list = some entry := by
  unfold alignSelectedSubcategoryWithList
  exact if_pos idless

/-! ### Steps -/

namespace CategoryForm

theorem received_empty (form : CategoryForm) (catId : ℤ)
    {categoryList : Option (List (Option ℤ))} (empty : categoryList.getD [] = []) :
    (form.received catId categoryList).Belongs := by
  have none : entriesOf catId categoryList = [] := (entriesOf_eq_nil_iff _ _).mpr empty
  unfold received
  rw [none]
  constructor
  · intro entry member
    exact absurd member List.not_mem_nil
  · intro entry member
    cases member

/-- An answer with entries leaves what belongs to the selected category exactly when the
answered category is selected, and no entry without an id stays that is of another one. -/
theorem received_belongs_iff (form : CategoryForm) (catId : ℤ)
    {categoryList : Option (List (Option ℤ))} (present : categoryList.getD [] ≠ []) :
    (form.received catId categoryList).Belongs ↔
      form.Owns catId ∧
        ∀ entry ∈ form.selectedSubCategory, entry.id = none → form.Owns entry.ofCategory := by
  have some : entriesOf catId categoryList ≠ [] :=
    fun none => present ((entriesOf_eq_nil_iff _ _).mp none)
  have ofAnswer : ∀ entry ∈ dedupeCategoriesById [] (entriesOf catId categoryList),
      entry.ofCategory = catId :=
    fun entry member => ofCategory_of_mem (mem_of_mem_dedupe member)
  unfold received
  simp only [if_neg some]
  constructor
  · rintro ⟨offered, selected⟩
    obtain ⟨head, rest, list⟩ := List.exists_cons_of_ne_nil (dedupe_ne_nil some)
    have first : head ∈ dedupeCategoriesById [] (entriesOf catId categoryList) := by
      rw [list]
      exact List.mem_cons_self
    refine ⟨ofAnswer head first ▸ offered head first, fun entry chosen idless => ?_⟩
    apply selected entry
    change form.selectedSubCategory = _ at chosen
    rw [chosen]
    exact align_of_idless idless _
  · rintro ⟨owns, idless⟩
    constructor
    · intro entry member
      rw [ofAnswer entry member]
      exact owns
    · intro entry aligned
      rcases align_cases aligned with member | ⟨chosen, without⟩
      · rw [ofAnswer entry member]
        exact owns
      · exact idless entry chosen without

theorem landed_belongs_iff (form : CategoryForm) (request : ℕ) :
    (form.landed request).Belongs ↔ form.Belongs := Iff.rfl

theorem chooseCategory_consistent {form : CategoryForm} (consistent : form.Consistent)
    (category : CategoryData) : (form.chooseCategory category).Consistent := by
  unfold chooseCategory
  split
  · exact consistent
  · intro quiet
    exact absurd quiet (List.append_ne_nil_of_right_ne_nil _ (List.cons_ne_nil _ _))

theorem chooseSubcategory_consistent {form : CategoryForm} (consistent : form.Consistent)
    (index : ℕ) : (form.chooseSubcategory index).Consistent := by
  unfold chooseSubcategory
  split
  · exact consistent
  · rename_i entry found
    intro quiet
    obtain ⟨offered, _⟩ := consistent quiet
    refine ⟨offered, fun chosen same => ?_⟩
    cases same
    exact offered entry (List.mem_of_getElem? found)

theorem not_last_of_none {form : CategoryForm} {request : ℕ}
    (none : form.inFlight[request]? = none) (catId : ℤ) : ¬ form.Last request catId := by
  intro last
  have found := last.1
  rw [none] at found
  cases found

theorem answered_consistent_iff {form : CategoryForm} (consistent : form.Consistent)
    (request : ℕ) (categoryList : Option (List (Option ℤ))) :
    (form.answered request categoryList).Consistent ↔
      form.LandsInPlace (.answered request categoryList) := by
  unfold answered LandsInPlace
  cases found : form.inFlight[request]? with
  | none =>
      exact iff_of_true consistent fun catId last =>
        absurd last (not_last_of_none found catId)
  | some catId =>
      have quiet : ((form.landed request).received catId categoryList).Consistent ↔
          (form.inFlight.eraseIdx request = [] →
            (form.received catId categoryList).Belongs) := Iff.rfl
      dsimp only
      rw [quiet]
      by_cases empty : categoryList.getD [] = []
      · constructor
        · intro _ _ _ present
          exact absurd empty present
        · intro _ _
          exact received_empty form catId empty
      · rw [received_belongs_iff form catId empty]
        constructor
        · rintro belongs other ⟨same, alone⟩ _
          rw [found] at same
          cases same
          exact belongs alone
        · intro inPlace alone
          exact inPlace catId ⟨found, alone⟩ empty

theorem failed_consistent_iff {form : CategoryForm} (consistent : form.Consistent)
    (request : ℕ) :
    (form.failed request).Consistent ↔ form.LandsInPlace (.failed request) := by
  unfold failed LandsInPlace
  cases found : form.inFlight[request]? with
  | none =>
      exact iff_of_true consistent fun catId last =>
        absurd last (not_last_of_none found catId)
  | some catId =>
      constructor
      · intro belongs other last
        exact (landed_belongs_iff form request).mp (belongs last.2)
      · intro inPlace alone
        exact inPlace catId ⟨found, alone⟩

theorem next_consistent_iff (form : CategoryForm) (event : CategoryEvent)
    (consistent : form.Consistent) :
    (form.next event).Consistent ↔ form.LandsInPlace event := by
  cases event with
  | chooseCategory category =>
      exact iff_of_true (chooseCategory_consistent consistent category) trivial
  | chooseSubcategory index =>
      exact iff_of_true (chooseSubcategory_consistent consistent index) trivial
  | answered request categoryList =>
      exact answered_consistent_iff consistent request categoryList
  | failed request => exact failed_consistent_iff consistent request

end CategoryForm

theorem openedForm_belongs (serviceCategory : Option CategoryData) (isUpdate : Bool) :
    (openedForm serviceCategory isUpdate).Belongs := by
  constructor
  · intro entry member
    exact absurd member List.not_mem_nil
  · intro entry member
    cases member

/-- In whatever order the answers come, what is offered with nothing in flight is of the
selected category as long as the answers that leave nothing in flight find it so. -/
theorem subcategories_iff (serviceCategory : Option CategoryData) (isUpdate : Bool)
    (events : List CategoryEvent) :
    categoryMachine.Every (fun form event => (form.next event).Consistent)
        (openedForm serviceCategory isUpdate) events ↔
      categoryMachine.Every CategoryForm.LandsInPlace
        (openedForm serviceCategory isUpdate) events :=
  Machine.every_next_iff CategoryForm.Consistent CategoryForm.next_consistent_iff
    fun _ => openedForm_belongs serviceCategory isUpdate

def lateAnswer : List CategoryEvent :=
  [.chooseCategory ⟨some 1⟩, .chooseCategory ⟨some 2⟩, .answered 1 (some [some 20]),
    .answered 0 (some [some 10])]

theorem late_answer_offers_other_category :
    (categoryMachine.run (openedForm none false) lateAnswer).inFlight = [] ∧
      ¬ categoryMachine.Every (fun form event => (form.next event).Consistent)
        (openedForm none false) lateAnswer := by
  refine ⟨rfl, fun consistent => ?_⟩
  have belongs := consistent.2.2.2.1 rfl
  have owns := belongs.1 ⟨some 10, 1⟩ (by decide)
  exact absurd owns (by decide)

def Waits (form : CategoryForm) : CategoryEvent → Prop
  | .chooseCategory _ => form.inFlight = []
  | _ => True

/-- The only request is one for the selected category, and nothing is offered meanwhile. -/
structure OneRequest (form : CategoryForm) : Prop where
  consistent : form.Consistent
  pending : ∀ catId ∈ form.inFlight, form.inFlight = [catId] ∧ form.Owns catId ∧
    form.subCategoryList = [] ∧ form.selectedSubCategory = none

theorem OneRequest.eraseIdx_eq_nil {form : CategoryForm} (one : OneRequest form) {request : ℕ}
    {catId : ℤ} (found : form.inFlight[request]? = some catId) :
    form.inFlight.eraseIdx request = [] := by
  obtain ⟨alone, _⟩ := one.pending catId (List.mem_of_getElem? found)
  rw [alone] at found ⊢
  cases request with
  | zero => rfl
  | succ later => cases found

theorem OneRequest.not_mem_landed {form : CategoryForm} (one : OneRequest form) {request : ℕ}
    {catId : ℤ} (found : form.inFlight[request]? = some catId) (other : ℤ) :
    other ∉ (form.landed request).inFlight := by
  intro member
  change other ∈ form.inFlight.eraseIdx request at member
  rw [one.eraseIdx_eq_nil found] at member
  exact absurd member List.not_mem_nil

theorem oneRequest_next (form : CategoryForm) (event : CategoryEvent) (one : OneRequest form)
    (waits : Waits form event) : OneRequest (form.next event) := by
  cases event with
  | chooseCategory category =>
      refine ⟨CategoryForm.chooseCategory_consistent one.consistent category, ?_⟩
      change ∀ catId ∈ (form.chooseCategory category).inFlight, _
      change form.inFlight = [] at waits
      simp only [CategoryForm.next, CategoryForm.chooseCategory]
      split
      · rw [waits]
        intro catId member
        exact absurd member List.not_mem_nil
      · intro catId member
        rw [waits] at member ⊢
        rw [List.mem_singleton.mp member]
        exact ⟨rfl, rfl, rfl, rfl⟩
  | chooseSubcategory index =>
      refine ⟨CategoryForm.chooseSubcategory_consistent one.consistent index, ?_⟩
      simp only [CategoryForm.next, CategoryForm.chooseSubcategory]
      split
      · exact one.pending
      · rename_i entry found
        intro catId member
        obtain ⟨_, _, empty, _⟩ := one.pending catId member
        rw [empty] at found
        cases found
  | answered request categoryList =>
      refine ⟨(CategoryForm.answered_consistent_iff one.consistent request categoryList).mpr
        ?_, ?_⟩
      · intro catId last _
        obtain ⟨_, owns, _, unselected⟩ :=
          one.pending catId (List.mem_of_getElem? last.1)
        refine ⟨owns, fun entry chosen => ?_⟩
        rw [unselected] at chosen
        cases chosen
      · simp only [CategoryForm.next, CategoryForm.answered]
        cases found : form.inFlight[request]? with
        | none => exact one.pending
        | some catId =>
            exact fun other member => absurd member (one.not_mem_landed found other)
  | failed request =>
      refine ⟨(CategoryForm.failed_consistent_iff one.consistent request).mpr ?_, ?_⟩
      · intro catId last
        obtain ⟨_, _, empty, unselected⟩ :=
          one.pending catId (List.mem_of_getElem? last.1)
        constructor
        · intro entry member
          rw [empty] at member
          exact absurd member List.not_mem_nil
        · intro entry chosen
          rw [unselected] at chosen
          cases chosen
      · simp only [CategoryForm.next, CategoryForm.failed]
        cases found : form.inFlight[request]? with
        | none => exact one.pending
        | some catId =>
            exact fun other member => absurd member (one.not_mem_landed found other)

/-- Where every choice waits for the answer to the one before, the subcategories are those of
the selected category whenever nothing is in flight. -/
theorem consistent_of_waits {serviceCategory : Option CategoryData} {isUpdate : Bool}
    {events : List CategoryEvent}
    (waits : categoryMachine.Every Waits (openedForm serviceCategory isUpdate) events) :
    (categoryMachine.run (openedForm serviceCategory isUpdate) events).Consistent := by
  have initially : OneRequest (openedForm serviceCategory isUpdate) :=
    ⟨fun _ => openedForm_belongs serviceCategory isUpdate,
      fun _ member => absurd member List.not_mem_nil⟩
  exact (Machine.invariant_run OneRequest oneRequest_next initially waits).consistent

end FiksOpp.CreateService
