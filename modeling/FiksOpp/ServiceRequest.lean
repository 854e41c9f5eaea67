/-
The multipart request of `CreateServiceScreen`.

The texts pass through a pair of fields that the screen no longer shows and through the
translations of the service; the images are told apart by their paths.  A request that is
built again after the token was renewed is built from the form that was submitted, which
is not edited meanwhile: only the session is new.
-/

import FiksOpp.BookingDates
import FiksOpp.Constants
import FiksOpp.NetworkUtils
import FiksOpp.Subcategories
import Mathlib.Data.List.Nodup

namespace FiksOpp.CreateService

open BookingDates (containsText)
open Network (Headers Session buildHeaderTokens)

def DEFAULT_LANGUAGE : String := "no"

/-- An image of the form; `ref` is its identity, and `picked` says that it was added here. -/
structure XFile where
  ref : ℕ
  path : String
  picked : Bool
  deriving DecidableEq, Repr

structure ImageFiles where
  files : List XFile := []
  nextRef : ℕ := 0
  below : ∀ file ∈ files, file.ref < nextRef
  nodup : files.Nodup

def hasHttps (file : XFile) : Bool :=
  containsText file.path.toList "https".toList

namespace ImageFiles

def empty : ImageFiles where
  below := by simp
  nodup := List.nodup_nil

def add (images : ImageFiles) (path : String) (picked : Bool) : ImageFiles where
  files := images.files ++ [{ ref := images.nextRef, path := path, picked := picked }]
  nextRef := images.nextRef + 1
  below := by
    intro file member
    rcases List.mem_append.mp member with old | new
    · exact Nat.lt_succ_of_lt (images.below file old)
    · rw [List.mem_singleton.mp new]
      exact Nat.lt_succ_self _
  nodup := by
    rw [List.nodup_append]
    refine ⟨images.nodup, List.nodup_singleton _, fun old member new single same => ?_⟩
    have bound := images.below old member
    rw [same, List.mem_singleton.mp single] at bound
    exact Nat.lt_irrefl _ bound

def addAll (images : ImageFiles) (paths : List String) : ImageFiles :=
  paths.foldl (fun images path => images.add path false) images

def removeAt (images : ImageFiles) (index : ℕ) : ImageFiles where
  files := images.files.eraseIdx index
  nextRef := images.nextRef
  below := fun file member => images.below file (List.mem_of_mem_eraseIdx member)
  nodup := (List.eraseIdx_sublist images.files index).nodup images.nodup

end ImageFiles

/-- Nothing where a file cannot be read. -/
def isDuplicate (readAsBytes : String → Option (List UInt8)) (path : String)
    (newBytes : List UInt8) : List XFile → Option Bool
  | [] => some false
  | existing :: rest =>
      if existing.path = path then some true
      else if hasHttps existing then isDuplicate readAsBytes path newBytes rest
      else
        match readAsBytes existing.path with
        | none => none
        | some bytes =>
            if bytes = newBytes then some true
            else isDuplicate readAsBytes path newBytes rest

/-- An image is added too where the comparison fails. -/
def addImageIfNotDuplicate (readAsBytes : String → Option (List UInt8)) (images : ImageFiles)
    (path : String) : ImageFiles :=
  match (readAsBytes path).bind fun bytes => isDuplicate readAsBytes path bytes images.files with
  | some true => images
  | _ => images.add path true

structure MultiLanguageRequest where
  name : Option String := none
  description : Option String := none
  deriving DecidableEq, Repr

namespace MultiLanguageRequest

def copyWith (texts : MultiLanguageRequest) (name description : Option String) :
    MultiLanguageRequest :=
  { name := name.or texts.name, description := description.or texts.description }

def toJson (texts : MultiLanguageRequest) : MultiLanguageRequest :=
  { name := texts.name.filter fun name => name ≠ ""
    description := texts.description.filter fun description => description ≠ "" }

def validated (texts : MultiLanguageRequest) : String × String :=
  (texts.name.getD "", texts.description.getD "")

end MultiLanguageRequest

abbrev Translations := List (String × MultiLanguageRequest)

def setTranslation (code : String) (texts : MultiLanguageRequest) : Translations → Translations
  | [] => [(code, texts)]
  | (other, old) :: rest =>
      if other = code then (code, texts) :: rest
      else (other, old) :: setTranslation code texts rest

def removeTranslation (code : String) (translations : Translations) : Translations :=
  translations.filter fun entry => entry.1 ≠ code

structure ServiceData where
  id : Option ℤ
  translations : Option Translations
  attachments : List String

/-- `editedId` is the id of the service in an update, of which the form is one while it is
there. -/
structure ServiceForm where
  serviceNameCont : String := ""
  descriptionCont : String := ""
  jobTitleCont : String := ""
  jobDescriptionCont : String := ""
  translations : Translations := []
  defaultLanguageTranslations : MultiLanguageRequest := {}
  /-- `appStore.selectedLanguage.languageCode`. -/
  selectedLanguage : String := DEFAULT_LANGUAGE
  imageFiles : ImageFiles := .empty
  selectedCategory : Option CategoryData := none
  selectedSubCategory : Option SubcategoryData := none
  editedId : Option (Option ℤ) := none

def prefilled (text : Option String) : String :=
  trim (text.getD "")

def createForm (jobTitle jobDescription : Option String) : ServiceForm :=
  { jobTitleCont := prefilled jobTitle, jobDescriptionCont := prefilled jobDescription }

/-- `init` of an update; nothing where the service has translations but none for the default
language, and the rest of `init` is not reached. -/
def editForm (data : ServiceData) : Option ServiceForm :=
  let translations := data.translations.getD []
  let texts := translations.lookup DEFAULT_LANGUAGE
  let form : ServiceForm :=
    { serviceNameCont := (texts.bind MultiLanguageRequest.name).getD ""
      descriptionCont := (texts.bind MultiLanguageRequest.description).getD ""
      translations := translations
      imageFiles := ImageFiles.empty.addAll data.attachments
      editedId := some data.id }
  if translations = [] then some form
  else texts.map fun texts => { form with defaultLanguageTranslations := texts }

namespace ServiceForm

/-- The job title where the service name is blank. -/
def sentName (form : ServiceForm) : String :=
  if trim form.serviceNameCont = "" then form.jobTitleCont else form.serviceNameCont

def sentDescription (form : ServiceForm) : String :=
  if trim form.descriptionCont = "" then form.jobDescriptionCont else form.descriptionCont

def updateTranslation (form : ServiceForm) : ServiceForm :=
  let name := form.sentName
  let description := form.sentDescription
  if name = "" ∧ description = "" then
    { form with translations := removeTranslation form.selectedLanguage form.translations }
  else if form.selectedLanguage ≠ DEFAULT_LANGUAGE then
    let texts := ((form.translations.lookup form.selectedLanguage).getD {}).copyWith
      (some name) (some description)
    { form with translations := setTranslation form.selectedLanguage texts form.translations }
  else
    { form with
      defaultLanguageTranslations :=
        form.defaultLanguageTranslations.copyWith (some name) (some description) }

def removeEnTranslations (form : ServiceForm) : ServiceForm :=
  { form with translations := removeTranslation DEFAULT_LANGUAGE form.translations }

/-- The form when its request is built: `checkValidation`, then the dialog's Yes. -/
def submitted (form : ServiceForm) : ServiceForm :=
  form.updateTranslation.removeEnTranslations

end ServiceForm

inductive FormEdit where
  | title (text : String)
  | description (text : String)
  | pickImage (path : String)
  | removeImage (index : ℕ)
  | category (category : CategoryData)
  | subCategory (entry : SubcategoryData)

def ServiceForm.edit (readAsBytes : String → Option (List UInt8)) (form : ServiceForm) :
    FormEdit → ServiceForm
  | .title text => { form with jobTitleCont := text }
  | .description text => { form with jobDescriptionCont := text }
  | .pickImage path =>
      { form with imageFiles := addImageIfNotDuplicate readAsBytes form.imageFiles path }
  | .removeImage index => { form with imageFiles := form.imageFiles.removeAt index }
  | .category category =>
      { form with selectedCategory := some category, selectedSubCategory := none }
  | .subCategory entry => { form with selectedSubCategory := some entry }

structure ServiceRequest where
  headers : Headers
  name : String
  description : String
  type : String
  price : String
  addedBy : String
  providerId : String
  categoryId : String
  status : String
  duration : String
  subCategoryId : Option String
  id : Option String
  /-- Written as JSON. -/
  translations : Option Translations
  files : List (String × String)
  attachmentCount : Option String

def idText (id : Option ℤ) : String :=
  match id with
  | none => "null"
  | some id => toString id

def serviceAttachment : String := "service_attachment_"

/-- Images are numbered by where they are found in the list. -/
def attachedFiles (tempImages : List XFile) : List (String × String) :=
  tempImages.map fun element =>
    (serviceAttachment ++ toString (tempImages.idxOf element), element.path)

/-- Nothing where no category is selected or an image cannot be read. -/
def buildServiceRequest (readable : String → Bool) (userId : ℤ) (session : Session)
    (form : ServiceForm) : Option ServiceRequest :=
  match form.selectedCategory with
  | none => none
  | some category =>
      let tempImages := form.imageFiles.files.filter fun element => !hasHttps element
      if tempImages.all fun element => readable element.path then
        some
          { headers := buildHeaderTokens session
            name := form.defaultLanguageTranslations.name.getD ""
            description := form.defaultLanguageTranslations.description.getD ""
            type := "fixed"
            price := "0"
            addedBy := toString userId
            providerId := toString userId
            categoryId := idText category.id
            status := "1"
            duration := "0"
            subCategoryId := form.selectedSubCategory.map fun entry => idText entry.id
            id := form.editedId.map fun id => toString (id.getD 0)
            translations :=
              if form.translations = [] then none
              else some (form.translations.map fun entry => (entry.1, entry.2.toJson))
            files := attachedFiles tempImages
            attachmentCount :=
              if tempImages = [] then none else some (toString tempImages.length) }
      else none

/-- The request, and one that is built again for each renewed session. -/
def builtRequests (readable : String → Bool) (userId : ℤ) (session : Session)
    (renewed : List Session) (form : ServiceForm) : List (Option ServiceRequest) :=
  (session :: renewed).map fun session =>
    buildServiceRequest readable userId session form.submitted

/-! ### What the request has to carry -/

/-- The texts of a request for a language: the default one has fields of its own. -/
def ServiceRequest.texts (request : ServiceRequest) (code : String) : String × String :=
  if code = DEFAULT_LANGUAGE then (request.name, request.description)
  else (((request.translations.getD []).lookup code).getD {}).validated

def newImages (form : ServiceForm) : List XFile :=
  form.imageFiles.files.filter XFile.picked

/-- The n new images under the numbers from 0 to n-1, in the order they are shown. -/
def numbered (images : List XFile) : List (String × String) :=
  images.zipIdx.map fun image => (serviceAttachment ++ toString image.2, image.1.path)

structure Carries (form : ServiceForm) (request : ServiceRequest) : Prop where
  texts : request.texts form.selectedLanguage = (form.jobTitleCont, form.jobDescriptionCont)
  category : some request.categoryId =
    form.selectedCategory.map fun category => idText category.id
  subCategory : request.subCategoryId =
    form.selectedSubCategory.map fun entry => idText entry.id
  files : request.files = numbered (newImages form)
  count : request.attachmentCount.getD "0" = toString (newImages form).length

def RequestsCarry (readable : String → Bool) (userId : ℤ) (session : Session)
    (renewed : List Session) (form : ServiceForm) : Prop :=
  ∀ built ∈ builtRequests readable userId session renewed form,
    ∃ request, built = some request ∧ Carries form request

/-- A field that is not shown is blank or has the text that is typed. -/
def GivesWay (hidden typed : String) : Prop :=
  trim hidden = "" ∨ hidden = typed

/-- The hidden fields give way, an earlier text of the default language is not left behind by
empty fields, and `https` is in the paths of the service's own images only. -/
structure CarriesAll (form : ServiceForm) : Prop where
  name : GivesWay form.serviceNameCont form.jobTitleCont
  description : GivesWay form.descriptionCont form.jobDescriptionCont
  cleared : form.selectedLanguage = DEFAULT_LANGUAGE → form.jobTitleCont = "" →
    form.jobDescriptionCont = "" → form.defaultLanguageTranslations.validated = ("", "")
  images : ∀ file ∈ form.imageFiles.files, hasHttps file = !file.picked

theorem lookup_setTranslation (code : String) (texts : MultiLanguageRequest)
    (translations : Translations) :
    (setTranslation code texts translations).lookup code = some texts := by
  induction translations with
  | nil => simp [setTranslation]
  | cons entry rest ih =>
      unfold setTranslation
      by_cases same : entry.1 = code
      · rw [if_pos same]
        exact List.lookup_cons_self
      · rw [if_neg same, List.lookup_cons, beq_false_of_ne (Ne.symm same)]
        exact ih

theorem lookup_removeTranslation_self (code : String) (translations : Translations) :
    (removeTranslation code translations).lookup code = none := by
  rw [List.lookup_eq_none_iff]
  intro entry member
  have other := (List.mem_filter.mp member).2
  rw [decide_eq_true_iff] at other
  exact bne_iff_ne.mpr (Ne.symm other)

theorem lookup_removeTranslation_of_ne {code other : String} (different : code ≠ other)
    (translations : Translations) :
    (removeTranslation other translations).lookup code = translations.lookup code := by
  induction translations with
  | nil => rfl
  | cons entry rest ih =>
      unfold removeTranslation at ih ⊢
      rw [List.lookup_cons]
      by_cases removed : entry.1 = other
      · rw [List.filter_cons_of_neg (by simp [removed]), ih, removed,
          beq_false_of_ne different]
      · rw [List.filter_cons_of_pos (by simp [removed]), List.lookup_cons, ih]

theorem lookup_map_toJson (code : String) (translations : Translations) :
    (translations.map fun entry => (entry.1, entry.2.toJson)).lookup code =
      (translations.lookup code).map MultiLanguageRequest.toJson := by
  induction translations with
  | nil => rfl
  | cons entry rest ih =>
      rw [List.map_cons, List.lookup_cons, List.lookup_cons, ih]
      cases code == entry.1 with
      | true => rfl
      | false => rfl

theorem validated_toJson (texts : MultiLanguageRequest) :
    texts.toJson.validated = texts.validated := by
  have kept : ∀ text : Option String, (text.filter fun text => text ≠ "").getD "" =
      text.getD "" := by
    intro text
    cases text with
    | none => rfl
    | some text =>
        by_cases empty : text = ""
        · rw [empty]
          rfl
        · rw [Option.filter_some, if_pos (decide_eq_true empty)]
  unfold MultiLanguageRequest.validated MultiLanguageRequest.toJson
  rw [kept, kept]

def ServiceForm.texts (form : ServiceForm) (code : String) : String × String :=
  if code = DEFAULT_LANGUAGE then form.defaultLanguageTranslations.validated
  else ((form.translations.lookup code).getD {}).validated

theorem texts_of_built {readable : String → Bool} {userId : ℤ} {session : Session}
    {form : ServiceForm} {request : ServiceRequest}
    (built : buildServiceRequest readable userId session form = some request)
    (code : String) : request.texts code = form.texts code := by
  unfold buildServiceRequest at built
  split at built
  · cases built
  · dsimp only at built
    split at built
    · cases built
      unfold ServiceRequest.texts ServiceForm.texts
      dsimp only
      by_cases default_ : code = DEFAULT_LANGUAGE
      · rw [if_pos default_, if_pos default_]
        rfl
      · rw [if_neg default_, if_neg default_]
        by_cases none : form.translations = []
        · rw [if_pos none, none]
          rfl
        · rw [if_neg none, Option.getD_some, lookup_map_toJson]
          cases form.translations.lookup code with
          | none => rfl
          | some texts => exact validated_toJson texts
    · cases built

theorem updateTranslation_of_empty {form : ServiceForm}
    (empty : form.sentName = "" ∧ form.sentDescription = "") :
    form.updateTranslation =
      { form with translations := removeTranslation form.selectedLanguage form.translations } :=
  if_pos empty

theorem updateTranslation_of_other {form : ServiceForm}
    (present : ¬ (form.sentName = "" ∧ form.sentDescription = ""))
    (other : form.selectedLanguage ≠ DEFAULT_LANGUAGE) :
    form.updateTranslation =
      { form with
        translations := setTranslation form.selectedLanguage
          { name := some form.sentName, description := some form.sentDescription }
          form.translations } := by
  unfold ServiceForm.updateTranslation
  dsimp only
  rw [if_neg present, if_pos other]
  rfl

theorem updateTranslation_of_default {form : ServiceForm}
    (present : ¬ (form.sentName = "" ∧ form.sentDescription = ""))
    (default_ : form.selectedLanguage = DEFAULT_LANGUAGE) :
    form.updateTranslation =
      { form with
        defaultLanguageTranslations :=
          { name := some form.sentName, description := some form.sentDescription } } := by
  unfold ServiceForm.updateTranslation
  dsimp only
  rw [if_neg present, if_neg (not_not_intro default_)]
  rfl

/-- What is sent for the language of the form: the two chosen texts, but the earlier ones of
the default language if both are empty. -/
theorem texts_submitted (form : ServiceForm) :
    form.submitted.texts form.selectedLanguage =
      if form.selectedLanguage = DEFAULT_LANGUAGE ∧ form.sentName = "" ∧
          form.sentDescription = "" then form.defaultLanguageTranslations.validated
      else (form.sentName, form.sentDescription) := by
  unfold ServiceForm.submitted ServiceForm.removeEnTranslations ServiceForm.texts
  by_cases empty : form.sentName = "" ∧ form.sentDescription = ""
  · rw [updateTranslation_of_empty empty]
    dsimp only
    by_cases default_ : form.selectedLanguage = DEFAULT_LANGUAGE
    · rw [if_pos default_, if_pos ⟨default_, empty⟩]
    · rw [if_neg default_, if_neg (fun both => default_ both.1), empty.1, empty.2,
        lookup_removeTranslation_of_ne default_, lookup_removeTranslation_self]
      rfl
  · have sent : ¬ (form.selectedLanguage = DEFAULT_LANGUAGE ∧ form.sentName = "" ∧
        form.sentDescription = "") := fun both => empty both.2
    rw [if_neg sent]
    by_cases default_ : form.selectedLanguage = DEFAULT_LANGUAGE
    · rw [updateTranslation_of_default empty default_, if_pos default_]
      rfl
    · rw [updateTranslation_of_other empty default_, if_neg default_]
      dsimp only
      rw [lookup_removeTranslation_of_ne default_, lookup_setTranslation]
      rfl

theorem sent_eq_typed_iff (hidden typed : String) :
    (if trim hidden = "" then typed else hidden) = typed ↔ GivesWay hidden typed := by
  unfold GivesWay
  by_cases blank : trim hidden = ""
  · rw [if_pos blank]
    exact iff_of_true rfl (Or.inl blank)
  · rw [if_neg blank]
    exact ⟨Or.inr, fun gives => gives.resolve_left blank⟩

theorem typed_of_sent_empty {hidden typed : String}
    (empty : (if trim hidden = "" then typed else hidden) = "") :
    trim hidden = "" ∧ typed = "" := by
  by_cases blank : trim hidden = ""
  · rw [if_pos blank] at empty
    exact ⟨blank, empty⟩
  · rw [if_neg blank] at empty
    rw [empty] at blank
    exact absurd rfl blank

theorem texts_iff (form : ServiceForm) :
    form.submitted.texts form.selectedLanguage =
        (form.jobTitleCont, form.jobDescriptionCont) ↔
      GivesWay form.serviceNameCont form.jobTitleCont ∧
        GivesWay form.descriptionCont form.jobDescriptionCont ∧
          (form.selectedLanguage = DEFAULT_LANGUAGE → form.jobTitleCont = "" →
            form.jobDescriptionCont = "" →
              form.defaultLanguageTranslations.validated = ("", "")) := by
  have name := sent_eq_typed_iff form.serviceNameCont form.jobTitleCont
  have description := sent_eq_typed_iff form.descriptionCont form.jobDescriptionCont
  rw [texts_submitted]
  by_cases left : form.selectedLanguage = DEFAULT_LANGUAGE ∧ form.sentName = "" ∧
      form.sentDescription = ""
  · obtain ⟨default_, noName, noDescription⟩ := left
    obtain ⟨blankName, noTitle⟩ := typed_of_sent_empty noName
    obtain ⟨blankDescription, noJob⟩ := typed_of_sent_empty noDescription
    rw [if_pos ⟨default_, noName, noDescription⟩, noTitle, noJob]
    constructor
    · intro cleared
      exact ⟨Or.inl blankName, Or.inl blankDescription, fun _ _ _ => cleared⟩
    · rintro ⟨_, _, cleared⟩
      exact cleared default_ rfl rfl
  · rw [if_neg left, Prod.mk.injEq]
    change form.sentName = _ ↔ _ at name
    change form.sentDescription = _ ↔ _ at description
    constructor
    · rintro ⟨sameName, sameDescription⟩
      refine ⟨name.mp sameName, description.mp sameDescription, fun default_ noTitle noJob => ?_⟩
      exact absurd ⟨default_, sameName.trans noTitle, sameDescription.trans noJob⟩ left
    · rintro ⟨gives, gives', _⟩
      exact ⟨name.mpr gives, description.mpr gives'⟩

theorem attachedFiles_eq_numbered {images : List XFile} (nodup : images.Nodup) :
    attachedFiles images = numbered images := by
  unfold attachedFiles numbered
  apply List.ext_getElem
  · rw [List.length_map, List.length_map, List.length_zipIdx]
  · intro index inside inside'
    have bound : index < images.length := by
      rw [List.length_map] at inside
      exact inside
    rw [List.getElem_map, List.getElem_map, List.getElem_zipIdx, nodup.idxOf_getElem index bound,
      Nat.zero_add]

theorem map_snd_numbered (images : List XFile) :
    (numbered images).map Prod.snd = images.map XFile.path := by
  unfold numbered
  rw [List.map_map]
  change images.zipIdx.map (XFile.path ∘ Prod.fst) = _
  rw [← List.map_map, List.zipIdx_map_fst]

theorem hasHttps_of_picked {images : List XFile}
    (paths : (images.filter fun element => !hasHttps element).map XFile.path =
      (images.filter XFile.picked).map XFile.path) :
    ∀ file ∈ images, file.picked = true → (!hasHttps file) = true := by
  intro file member picked
  have inside : file.path ∈
      (images.filter fun element => !hasHttps element).map XFile.path := by
    rw [paths]
    exact List.mem_map_of_mem (List.mem_filter.mpr ⟨member, picked⟩)
  obtain ⟨other, taken, samePath⟩ := List.mem_map.mp inside
  have without := (List.mem_filter.mp taken).2
  unfold hasHttps at without ⊢
  rw [← samePath]
  exact without

theorem picked_of_hasHttps {images : List XFile}
    (paths : (images.filter fun element => !hasHttps element).map XFile.path =
      (images.filter XFile.picked).map XFile.path) :
    ∀ file ∈ images.filter fun element => !hasHttps element, file.picked = true := by
  have narrowed : (images.filter fun element => !hasHttps element).filter XFile.picked =
      images.filter XFile.picked := by
    rw [List.filter_filter]
    apply List.filter_congr
    intro file member
    cases picked : file.picked with
    | false => rfl
    | true => exact hasHttps_of_picked paths file member picked
  have counted := congrArg List.length paths
  rw [List.length_map, List.length_map, ← narrowed] at counted
  exact List.length_filter_eq_length_iff.mp counted.symm

/-- The images taken for new ones are the new ones exactly when their paths tell. -/
theorem numbered_eq_iff (images : List XFile) :
    numbered (images.filter fun element => !hasHttps element) =
        numbered (images.filter XFile.picked) ↔
      ∀ file ∈ images, hasHttps file = !file.picked := by
  constructor
  · intro same
    have paths := congrArg (List.map Prod.snd) same
    rw [map_snd_numbered, map_snd_numbered] at paths
    intro file member
    cases picked : file.picked with
    | true =>
        have without := hasHttps_of_picked paths file member picked
        rw [Bool.not_eq_true'] at without
        exact without
    | false =>
        by_contra without
        have taken : file ∈ images.filter fun element => !hasHttps element := by
          rw [List.mem_filter]
          refine ⟨member, ?_⟩
          rw [Bool.not_eq_true', ← Bool.not_eq_true]
          exact without
        rw [picked_of_hasHttps paths file taken] at picked
        cases picked
  · intro tells
    congr 1
    apply List.filter_congr
    intro file member
    rw [tells file member, Bool.not_not]

/-! ### The request -/

theorem submitted_kept (form : ServiceForm) :
    form.submitted.imageFiles = form.imageFiles ∧
      form.submitted.selectedCategory = form.selectedCategory ∧
        form.submitted.selectedSubCategory = form.selectedSubCategory := by
  unfold ServiceForm.submitted ServiceForm.removeEnTranslations
  by_cases empty : form.sentName = "" ∧ form.sentDescription = ""
  · rw [updateTranslation_of_empty empty]
    exact ⟨rfl, rfl, rfl⟩
  · by_cases default_ : form.selectedLanguage = DEFAULT_LANGUAGE
    · rw [updateTranslation_of_default empty default_]
      exact ⟨rfl, rfl, rfl⟩
    · rw [updateTranslation_of_other empty default_]
      exact ⟨rfl, rfl, rfl⟩

structure BuiltFrom (form : ServiceForm) (request : ServiceRequest) : Prop where
  texts : ∀ code, request.texts code = form.texts code
  category : some request.categoryId =
    form.selectedCategory.map fun category => idText category.id
  subCategory : request.subCategoryId =
    form.selectedSubCategory.map fun entry => idText entry.id
  files : request.files = numbered (form.imageFiles.files.filter fun element => !hasHttps element)
  count : request.attachmentCount.getD "0" =
    toString (form.imageFiles.files.filter fun element => !hasHttps element).length

theorem builtFrom_of_built {readable : String → Bool} {userId : ℤ} {session : Session}
    {form : ServiceForm} {request : ServiceRequest}
    (built : buildServiceRequest readable userId session form = some request) :
    BuiltFrom form request := by
  have texts := texts_of_built built
  unfold buildServiceRequest at built
  cases category : form.selectedCategory with
  | none =>
      rw [category] at built
      cases built
  | some chosen =>
      rw [category] at built
      dsimp only at built
      split at built
      · cases built
        refine ⟨texts, ?_, rfl, ?_, ?_⟩
        · rw [category]
          rfl
        · exact attachedFiles_eq_numbered (List.filter_sublist.nodup form.imageFiles.nodup)
        · dsimp only
          split
          · rename_i none
            rw [none]
            rfl
          · rfl
      · cases built

theorem isSome_build {readable : String → Bool} (userId : ℤ) (session : Session)
    {form : ServiceForm} (category : form.selectedCategory ≠ none)
    (reads : ∀ file ∈ form.imageFiles.files, hasHttps file = false → readable file.path = true) :
    ∃ request, buildServiceRequest readable userId session form = some request := by
  unfold buildServiceRequest
  cases chosen : form.selectedCategory with
  | none => exact absurd chosen category
  | some category =>
      have all : ((form.imageFiles.files.filter fun element => !hasHttps element).all
          fun element => readable element.path) = true := by
        rw [List.all_eq_true]
        intro file member
        obtain ⟨shown, without⟩ := List.mem_filter.mp member
        rw [Bool.not_eq_true'] at without
        exact reads file shown without
      dsimp only
      rw [if_pos all]
      exact ⟨_, rfl⟩

/-- A request that is built carries the form exactly under the four conditions. -/
theorem carries_iff {form : ServiceForm} {request : ServiceRequest}
    (built : BuiltFrom form.submitted request) : Carries form request ↔ CarriesAll form := by
  obtain ⟨images, category, subCategory⟩ := submitted_kept form
  have texts : request.texts form.selectedLanguage =
      form.submitted.texts form.selectedLanguage := built.texts form.selectedLanguage
  have files := built.files
  have count := built.count
  rw [images] at files count
  constructor
  · intro carries
    have typed := carries.texts
    rw [texts, texts_iff] at typed
    obtain ⟨name, description, cleared⟩ := typed
    refine ⟨name, description, cleared, (numbered_eq_iff _).mp ?_⟩
    rw [← files]
    exact carries.files
  · intro all
    have same := (numbered_eq_iff _).mpr all.images
    refine ⟨?_, ?_, ?_, files.trans same, ?_⟩
    · rw [texts, texts_iff]
      exact ⟨all.name, all.description, all.cleared⟩
    · rw [built.category, category]
    · rw [built.subCategory, subCategory]
    · have lengths := congrArg List.length (congrArg (List.map Prod.snd) same)
      rw [map_snd_numbered, map_snd_numbered, List.length_map, List.length_map] at lengths
      rw [count, lengths]
      rfl

/-- For every form with a category, whose picked images can be read, and any number of
renewals. -/
theorem serviceRequest_iff (readable : String → Bool) (userId : ℤ) (session : Session)
    (renewed : List Session) (form : ServiceForm) (category : form.selectedCategory ≠ none)
    (reads : ∀ file ∈ form.imageFiles.files, file.picked = true → readable file.path = true) :
    RequestsCarry readable userId session renewed form ↔ CarriesAll form := by
  obtain ⟨images, sameCategory, _⟩ := submitted_kept form
  constructor
  · intro carry
    obtain ⟨request, built, carries⟩ := carry _ List.mem_cons_self
    exact (carries_iff (builtFrom_of_built built)).mp carries
  · intro all built member
    obtain ⟨current, _, rfl⟩ := List.mem_map.mp member
    have reads' : ∀ file ∈ form.submitted.imageFiles.files, hasHttps file = false →
        readable file.path = true := by
      rw [images]
      intro file shown without
      apply reads file shown
      have tells := all.images file shown
      rw [without] at tells
      cases picked : file.picked with
      | true => rfl
      | false =>
          rw [picked] at tells
          cases tells
    obtain ⟨request, done⟩ :=
      isSome_build userId current (by rw [sameCategory]; exact category) reads'
    exact ⟨request, done, (carries_iff (builtFrom_of_built done)).mpr all⟩

def session : Session :=
  { isLoggedIn := true
    token := "token"
    userEmail := "user@mail"
    userPassword := "secret"
    loginType := "user"
    isRemembered := true }

def newService : ServiceForm :=
  { createForm (some " Vask ") (some "Hele huset") with
    imageFiles := ImageFiles.empty.add "/cache/a.png" true
    selectedCategory := some ⟨some 3⟩ }

theorem serviceRequest_of_new_service :
    newService.selectedCategory ≠ none ∧
      (∀ file ∈ newService.imageFiles.files, file.picked = true → true = true) ∧
        RequestsCarry (fun _ => true) 7 session [session] newService := by
  have category : newService.selectedCategory ≠ none := by
    intro none
    cases none
  refine ⟨category, fun _ _ _ => rfl, ?_⟩
  refine (serviceRequest_iff (fun _ => true) 7 session [session] newService category
    fun _ _ _ => rfl).mpr ⟨Or.inl (by decide), Or.inl (by decide), fun _ empty => ?_, ?_⟩
  · exact absurd empty (by decide)
  · intro file member
    rw [List.mem_singleton.mp member]
    decide

def savedService : ServiceData :=
  { id := some 5
    translations := some [("no", { name := some "Vask", description := some "Hele huset" })]
    attachments := ["https://host/a.png"] }

def retitledService : ServiceForm :=
  { (editForm savedService).getD {} with
    jobTitleCont := "Rens"
    jobDescriptionCont := "Hele huset"
    selectedCategory := some ⟨some 3⟩ }

theorem new_title_is_not_sent :
    retitledService.submitted.texts "no" = ("Vask", "Hele huset") ∧
      ¬ RequestsCarry (fun _ => true) 7 session [] retitledService := by
  constructor
  · decide
  · intro carry
    obtain ⟨request, built, carries⟩ := carry _ List.mem_cons_self
    have gives := ((carries_iff (builtFrom_of_built built)).mp carries).name
    rcases gives with blank | same
    · exact absurd blank (by decide)
    · exact absurd same (by decide)

/-- The form of a new service: the hidden fields and the translations are empty, and all
images were picked. -/
structure Created (form : ServiceForm) : Prop where
  name : form.serviceNameCont = ""
  description : form.descriptionCont = ""
  texts : form.defaultLanguageTranslations = {}
  picked : ∀ file ∈ form.imageFiles.files, file.picked = true

theorem picked_of_mem_add {images : ImageFiles} {path : String}
    (picked : ∀ file ∈ images.files, file.picked = true) :
    ∀ file ∈ (images.add path true).files, file.picked = true := by
  intro file member
  rcases List.mem_append.mp member with old | new
  · exact picked file old
  · rw [List.mem_singleton.mp new]

theorem created_edit (readAsBytes : String → Option (List UInt8)) {form : ServiceForm}
    (created : Created form) (edit : FormEdit) : Created (form.edit readAsBytes edit) := by
  cases edit with
  | title text => exact ⟨created.name, created.description, created.texts, created.picked⟩
  | description text =>
      exact ⟨created.name, created.description, created.texts, created.picked⟩
  | pickImage path =>
      refine ⟨created.name, created.description, created.texts, ?_⟩
      change ∀ file ∈ (addImageIfNotDuplicate readAsBytes form.imageFiles path).files, _
      unfold addImageIfNotDuplicate
      split
      · exact created.picked
      · exact picked_of_mem_add created.picked
  | removeImage index =>
      exact ⟨created.name, created.description, created.texts,
        fun file member => created.picked file (List.mem_of_mem_eraseIdx member)⟩
  | category category =>
      exact ⟨created.name, created.description, created.texts, created.picked⟩
  | subCategory entry =>
      exact ⟨created.name, created.description, created.texts, created.picked⟩

/-- Whatever is typed, picked and removed, the request of a new service carries the form, as
long as no picked file has `https` in its path. -/
theorem carriesAll_of_new (readAsBytes : String → Option (List UInt8))
    (jobTitle jobDescription : Option String) (edits : List FormEdit)
    (paths : ∀ file ∈ (edits.foldl (ServiceForm.edit readAsBytes)
      (createForm jobTitle jobDescription)).imageFiles.files, hasHttps file = false) :
    CarriesAll (edits.foldl (ServiceForm.edit readAsBytes)
      (createForm jobTitle jobDescription)) := by
  have created : ∀ (edits : List FormEdit) (form : ServiceForm), Created form →
      Created (edits.foldl (ServiceForm.edit readAsBytes) form) := by
    intro edits
    induction edits with
    | nil => exact fun form created => created
    | cons edit rest ih => exact fun form created => ih _ (created_edit readAsBytes created edit)
  have initially : Created (createForm jobTitle jobDescription) :=
    ⟨rfl, rfl, rfl, fun file member => absurd member List.not_mem_nil⟩
  have finally_ := created edits _ initially
  refine ⟨Or.inl ?_, Or.inl ?_, fun _ _ _ => ?_, fun file member => ?_⟩
  · rw [finally_.name]
    decide
  · rw [finally_.description]
    decide
  · rw [finally_.texts]
    rfl
  · rw [paths file member, finally_.picked file member]
    rfl

end FiksOpp.CreateService
