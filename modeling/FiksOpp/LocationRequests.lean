/-
The location that goes out with a request.

`getServiceDetails`, `searchServiceAPI` and `getProviderDetail` read the same saved pair,
each with its own test for a pair that can be used and its own fallback.  A request is
here the location part of its query; the server reads the numbers back from the text.
-/

import Mathlib.Algebra.Order.Field.Rat

namespace FiksOpp.LocationRequests

/-- The doubles among the numbers, their `toString` and how the text is read. -/
structure DoubleText where
  isDouble : ℚ → Prop
  toText : ℚ → String
  read : String → Option ℚ
  read_toText : ∀ value, isDouble value → read (toText value) = some value
  read_zero : read "0" = some 0
  read_empty : read "" = none

structure Saved where
  isCurrentLocation : Bool
  latitude : ℚ
  longitude : ℚ
  deriving DecidableEq, Repr

structure Query where
  latitude : String
  longitude : String
  deriving DecidableEq, Repr

section Requests

variable (text : DoubleText)

def pairQuery (latitude longitude : ℚ) : Query :=
  { latitude := text.toText latitude, longitude := text.toText longitude }

/-- Nothing where the request has no location parameters. -/
def getServiceDetails (saved : Saved) : Option Query :=
  if saved.isCurrentLocation = true ∧ saved.latitude > 0 ∧ saved.longitude > 0 then
    some (pairQuery text saved.latitude saved.longitude)
  else none

/-- The branch on the current location, before the fallbacks. -/
def currentQuery (saved : Saved) (latitude longitude : String) : Query :=
  if saved.isCurrentLocation = true ∧ saved.latitude > 0 ∧ saved.longitude > 0 then
    pairQuery text saved.latitude saved.longitude
  else { latitude := latitude, longitude := longitude }

def savedFallback (saved : Saved) (query : Query) : Query :=
  if query.latitude.isEmpty = true ∨ query.longitude.isEmpty = true then
    if saved.latitude ≠ 0 ∧ saved.longitude ≠ 0 then
      pairQuery text saved.latitude saved.longitude
    else query
  else query

def zeroFallback (query : Query) : Query :=
  { latitude := if query.latitude.isEmpty then "0" else query.latitude
    longitude := if query.longitude.isEmpty then "0" else query.longitude }

def searchServiceAPI (saved : Saved) (latitude longitude : String) : Query :=
  zeroFallback (savedFallback text saved (currentQuery text saved latitude longitude))

/-- The screens that search, and the location each of them passes. -/
inductive SearchScreen where
  | viewAllService
  /-- The filter's location, which no screen sets. -/
  | searchService
  /-- The service list of the booking filter passes none. -/
  | filterServiceList
  deriving DecidableEq, Repr

def search (saved : Saved) : SearchScreen → Query
  | .viewAllService =>
      searchServiceAPI text saved
        (if saved.isCurrentLocation then text.toText saved.latitude else "")
        (if saved.isCurrentLocation then text.toText saved.longitude else "")
  | .searchService => searchServiceAPI text saved "" ""
  | .filterServiceList => searchServiceAPI text saved "" ""

def getProviderDetail (saved : Saved) (latitude longitude : Option ℚ) : Option Query :=
  let lat := latitude.getD (if saved.isCurrentLocation then saved.latitude else 0)
  let lng := longitude.getD (if saved.isCurrentLocation then saved.longitude else 0)
  if lat > 0 ∧ lng > 0 then some (pairQuery text lat lng) else none

def carried (query : Option Query) : Option (ℚ × ℚ) :=
  match query with
  | none => none
  | some sent =>
      match text.read sent.latitude, text.read sent.longitude with
      | some latitude, some longitude => some (latitude, longitude)
      | _, _ => none

def Saved.pair (saved : Saved) : ℚ × ℚ :=
  (saved.latitude, saved.longitude)

def AllCarry (saved : Saved) : Prop :=
  carried text (getServiceDetails text saved) = some saved.pair ∧
    (∀ screen, carried text (some (search text saved screen)) = some saved.pair) ∧
    carried text (getProviderDetail text saved none none) = some saved.pair

def AllAgree (saved : Saved) : Prop :=
  (∀ screen, carried text (some (search text saved screen)) =
      carried text (getServiceDetails text saved)) ∧
    carried text (getProviderDetail text saved none none) =
      carried text (getServiceDetails text saved)

end Requests

/-! ### Each request -/

section Each

variable {text : DoubleText} {saved : Saved}

theorem toText_isEmpty {value : ℚ} (double : text.isDouble value) :
    (text.toText value).isEmpty = false := by
  cases empty : (text.toText value).isEmpty with
  | false => rfl
  | true =>
      have read := text.read_toText value double
      rw [String.isEmpty_iff.mp empty, text.read_empty] at read
      cases read

def Doubles (text : DoubleText) (saved : Saved) : Prop :=
  text.isDouble saved.latitude ∧ text.isDouble saved.longitude

def savedQuery (text : DoubleText) (saved : Saved) : Query :=
  pairQuery text saved.latitude saved.longitude

theorem carried_savedQuery (doubles : Doubles text saved) :
    carried text (some (savedQuery text saved)) = some saved.pair := by
  unfold carried savedQuery pairQuery
  dsimp only
  rw [text.read_toText _ doubles.1, text.read_toText _ doubles.2]
  rfl

theorem zeroFallback_savedQuery (doubles : Doubles text saved) :
    zeroFallback (savedQuery text saved) = savedQuery text saved := by
  unfold zeroFallback savedQuery pairQuery
  rw [toText_isEmpty doubles.1, toText_isEmpty doubles.2]
  rfl

theorem fallbacks_savedQuery (doubles : Doubles text saved) :
    zeroFallback (savedFallback text saved (savedQuery text saved)) = savedQuery text saved := by
  have full : ¬ ((savedQuery text saved).latitude.isEmpty = true ∨
      (savedQuery text saved).longitude.isEmpty = true) := by
    unfold savedQuery pairQuery
    rw [toText_isEmpty doubles.1, toText_isEmpty doubles.2]
    decide
  have kept : savedFallback text saved (savedQuery text saved) = savedQuery text saved :=
    if_neg full
  rw [kept, zeroFallback_savedQuery doubles]

theorem carried_getServiceDetails (current : saved.isCurrentLocation = true)
    (doubles : Doubles text saved) :
    carried text (getServiceDetails text saved) =
      if 0 < saved.latitude ∧ 0 < saved.longitude then some saved.pair else none := by
  unfold getServiceDetails
  by_cases positive : 0 < saved.latitude ∧ 0 < saved.longitude
  · rw [if_pos ⟨current, positive⟩, if_pos positive]
    exact carried_savedQuery doubles
  · rw [if_neg fun all => positive all.2, if_neg positive]
    rfl

theorem carried_getProviderDetail (current : saved.isCurrentLocation = true)
    (doubles : Doubles text saved) :
    carried text (getProviderDetail text saved none none) =
      if 0 < saved.latitude ∧ 0 < saved.longitude then some saved.pair else none := by
  unfold getProviderDetail
  rw [current]
  change carried text (if 0 < saved.latitude ∧ 0 < saved.longitude then
    some (savedQuery text saved) else none) = _
  by_cases positive : 0 < saved.latitude ∧ 0 < saved.longitude
  · rw [if_pos positive, if_pos positive]
    exact carried_savedQuery doubles
  · rw [if_neg positive, if_neg positive]
    rfl

/-- The screen that passes the saved pair always sends it. -/
theorem carried_viewAllService (current : saved.isCurrentLocation = true)
    (doubles : Doubles text saved) :
    carried text (some (search text saved .viewAllService)) = some saved.pair := by
  have same : currentQuery text saved
      (if saved.isCurrentLocation then text.toText saved.latitude else "")
      (if saved.isCurrentLocation then text.toText saved.longitude else "") =
        savedQuery text saved := by
    unfold currentQuery
    rw [current]
    split
    · rfl
    · rfl
  unfold search searchServiceAPI
  dsimp only
  rw [same, fallbacks_savedQuery doubles]
  exact carried_savedQuery doubles

/-- Without a pair of its own a search falls back on a pair without a zero, and then on
two zeros. -/
theorem carried_search_without_pair (doubles : Doubles text saved) :
    carried text (some (searchServiceAPI text saved "" "")) =
      if saved.latitude ≠ 0 ∧ saved.longitude ≠ 0 then some saved.pair else some (0, 0) := by
  unfold searchServiceAPI
  by_cases current : saved.isCurrentLocation = true ∧ saved.latitude > 0 ∧ saved.longitude > 0
  · have query : currentQuery text saved "" "" = savedQuery text saved := if_pos current
    have usable : saved.latitude ≠ 0 ∧ saved.longitude ≠ 0 :=
      ⟨ne_of_gt current.2.1, ne_of_gt current.2.2⟩
    rw [query, fallbacks_savedQuery doubles, if_pos usable]
    exact carried_savedQuery doubles
  · have query : currentQuery text saved "" "" = { latitude := "", longitude := "" } :=
      if_neg current
    rw [query]
    by_cases usable : saved.latitude ≠ 0 ∧ saved.longitude ≠ 0
    · have filled : savedFallback text saved { latitude := "", longitude := "" } =
          savedFallback text saved (savedQuery text saved) := by
        have kept : savedFallback text saved (savedQuery text saved) = savedQuery text saved := by
          unfold savedFallback
          rw [if_pos usable]
          exact ite_self _
        rw [kept]
        unfold savedFallback
        rw [if_pos (Or.inl (by decide)), if_pos usable]
        rfl
      rw [filled, fallbacks_savedQuery doubles, if_pos usable]
      exact carried_savedQuery doubles
    · have zeros : zeroFallback (savedFallback text saved { latitude := "", longitude := "" }) =
          { latitude := "0", longitude := "0" } := by
        unfold savedFallback
        rw [if_pos (Or.inl (by decide)), if_neg usable]
        decide
      rw [zeros, if_neg usable]
      unfold carried
      dsimp only
      rw [text.read_zero]

end Each

/-- With the current location on, the three requests carry the saved pair, and agree with
each other, exactly where both of its components are positive.  Of the searches, one
always carries it, the others where no component or both are zero. -/
theorem locationRequests_iff (text : DoubleText) (saved : Saved)
    (current : saved.isCurrentLocation = true) (doubles : Doubles text saved) :
    (AllCarry text saved ↔ 0 < saved.latitude ∧ 0 < saved.longitude) ∧
      (AllAgree text saved ↔ 0 < saved.latitude ∧ 0 < saved.longitude) ∧
      carried text (some (search text saved .viewAllService)) = some saved.pair ∧
      ∀ screen, screen ≠ .viewAllService →
        carried text (some (search text saved screen)) =
          if saved.latitude ≠ 0 ∧ saved.longitude ≠ 0 then some saved.pair else some (0, 0) := by
  have without := carried_search_without_pair doubles
  have viewAll := carried_viewAllService current doubles
  have searches : 0 < saved.latitude ∧ 0 < saved.longitude → ∀ screen,
      carried text (some (search text saved screen)) = some saved.pair := by
    intro positive screen
    have usable : saved.latitude ≠ 0 ∧ saved.longitude ≠ 0 :=
      ⟨ne_of_gt positive.1, ne_of_gt positive.2⟩
    cases screen with
    | viewAllService => exact viewAll
    | searchService => exact without.trans (if_pos usable)
    | filterServiceList => exact without.trans (if_pos usable)
  refine ⟨?_, ?_, viewAll, ?_⟩
  · unfold AllCarry
    rw [carried_getServiceDetails current doubles, carried_getProviderDetail current doubles]
    by_cases positive : 0 < saved.latitude ∧ 0 < saved.longitude
    · rw [if_pos positive]
      exact iff_of_true ⟨rfl, searches positive, rfl⟩ positive
    · rw [if_neg positive]
      refine iff_of_false ?_ positive
      intro carry
      cases carry.1
  · unfold AllAgree
    rw [carried_getServiceDetails current doubles, carried_getProviderDetail current doubles]
    by_cases positive : 0 < saved.latitude ∧ 0 < saved.longitude
    · rw [if_pos positive]
      exact iff_of_true ⟨searches positive, rfl⟩ positive
    · rw [if_neg positive]
      refine iff_of_false ?_ positive
      intro agree
      have shown := agree.1 .viewAllService
      rw [viewAll] at shown
      cases shown
  · intro screen other
    cases screen with
    | viewAllService => exact absurd rfl other
    | searchService => exact without
    | filterServiceList => exact without

def sampleText : DoubleText where
  isDouble value := value ∈ [119 / 2, 43 / 4, -91 / 4, -173 / 4]
  toText value :=
    if value = 119 / 2 then "59.5"
    else if value = 43 / 4 then "10.75"
    else if value = -91 / 4 then "-22.75"
    else "-43.25"
  read text :=
    if text = "59.5" then some (119 / 2)
    else if text = "10.75" then some (43 / 4)
    else if text = "-22.75" then some (-91 / 4)
    else if text = "-43.25" then some (-173 / 4)
    else if text = "0" then some 0
    else none
  read_toText := by decide +kernel
  read_zero := by decide +kernel
  read_empty := by decide +kernel

def oslo : Saved :=
  { isCurrentLocation := true, latitude := 119 / 2, longitude := 43 / 4 }

def rio : Saved :=
  { isCurrentLocation := true, latitude := -91 / 4, longitude := -173 / 4 }

theorem locationRequests_iff_example :
    AllCarry sampleText oslo ∧ AllAgree sampleText oslo := by
  have doubles : Doubles sampleText oslo :=
    ⟨List.mem_cons_self, List.mem_cons_of_mem _ List.mem_cons_self⟩
  have spec := locationRequests_iff sampleText oslo rfl doubles
  have positive : 0 < oslo.latitude ∧ 0 < oslo.longitude := by decide +kernel
  exact ⟨spec.1.mpr positive, spec.2.1.mpr positive⟩

/-- South of the equator `getServiceDetails` has no location, and the search has one. -/
theorem rio_not_carried :
    ¬ ∀ text saved, saved.isCurrentLocation = true → Doubles text saved →
      -90 ≤ saved.latitude ∧ saved.latitude ≤ 90 ∧
        -180 ≤ saved.longitude ∧ saved.longitude ≤ 180 →
      AllCarry text saved ∧ AllAgree text saved := by
  intro always
  have doubles : Doubles sampleText rio := by
    refine ⟨?_, ?_⟩
    · change _ ∈ _
      decide +kernel
    · change _ ∈ _
      decide +kernel
  have carry := (always sampleText rio rfl doubles (by decide +kernel)).1.1
  have nothing : getServiceDetails sampleText rio = none := by decide +kernel
  rw [nothing] at carry
  cases carry

end FiksOpp.LocationRequests
