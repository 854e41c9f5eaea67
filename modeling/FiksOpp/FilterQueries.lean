/-
The addresses that `searchServiceAPI` and `getBookingList` ask for.

Both put their query together from keys and values as they are.  The first always sends a
location, which it takes from the filter, the preferences or zero; the second has a second
ampersand before the last date, and a search text that it never sends.
-/

import FiksOpp.Foundations.QueryStrings
import FiksOpp.LocationRequests

namespace FiksOpp.FilterQueries

open PercentEncoding
open QueryStrings
open LocationRequests

abbrev Params := List (String × String)

def baseUrl : String := "https://fiksopp.inoor.buzz/api/"

/-- The address that is requested; nothing here starts with a scheme of its own. -/
def buildBaseUrl (endPoint : String) : String :=
  if endPoint.startsWith "http" then endPoint else baseUrl ++ endPoint

def queryParameters (address : String) : Option Params :=
  ((queryOf address.toList).bind decodeQuery).map fun pairs =>
    pairs.map fun pair => (String.ofList pair.1, String.ofList pair.2)

def entry (key value : String) : String :=
  key ++ "=" ++ value ++ "&"

def piece (key value : String) : String :=
  if value.isEmpty then "" else entry key value

def given (key value : String) : Params :=
  if value.isEmpty then [] else [(key, value)]

variable {text : DoubleText}

structure ServiceFilters where
  categoryId : String := ""
  providerId : String := ""
  isPriceMin : String := ""
  isPriceMax : String := ""
  ratingId : String := ""
  search : String := ""
  latitude : String := ""
  longitude : String := ""
  isFeatured : String := ""
  subCategory : String := ""
  page : ℤ := 1
  deriving DecidableEq, Repr

/-- The session: the user who is logged in, and the saved location. -/
structure Session (text : DoubleText) where
  userId : Option ℤ
  saved : Saved
  doubles : Doubles text saved

def location (session : Session text) (filters : ServiceFilters) : Query :=
  LocationRequests.searchServiceAPI text session.saved filters.latitude filters.longitude

/-- The tab "All" of the subcategories has the id -1 and is no filter. -/
def subCategoryFilter (filters : ServiceFilters) : String :=
  if filters.subCategory ≠ "-1" then filters.subCategory else ""

def customerId (session : Session text) : String :=
  match session.userId with
  | some userId => entry "customer_id" (toString userId)
  | none => ""

def customer (session : Session text) : Params :=
  match session.userId with
  | some userId => [("customer_id", toString userId)]
  | none => []

def searchServiceAPI (session : Session text) (filters : ServiceFilters) : String :=
  "search-list?" ++
    (piece "category_id" filters.categoryId ++ customerId session ++
      piece "provider_id" filters.providerId ++ piece "is_price_min" filters.isPriceMin ++
      piece "is_price_max" filters.isPriceMax ++ piece "is_rating" filters.ratingId ++
      (if !filters.subCategory.isEmpty then
        if filters.subCategory ≠ "-1" then entry "subcategory_id" filters.subCategory else ""
      else "") ++
      piece "search" filters.search ++
      entry "latitude" (location session filters).latitude ++
      entry "longitude" (location session filters).longitude ++
      piece "is_featured" filters.isFeatured ++ entry "page" (toString filters.page) ++
      "per_page=20")

def searchParams (session : Session text) (filters : ServiceFilters) : Params :=
  given "category_id" filters.categoryId ++ customer session ++
    given "provider_id" filters.providerId ++ given "is_price_min" filters.isPriceMin ++
    given "is_price_max" filters.isPriceMax ++ given "is_rating" filters.ratingId ++
    given "subcategory_id" (subCategoryFilter filters) ++ given "search" filters.search ++
    [("latitude", (location session filters).latitude)] ++
    [("longitude", (location session filters).longitude)] ++
    given "is_featured" filters.isFeatured ++ [("page", toString filters.page)]

structure BookingFilters where
  serviceId : String := ""
  dateFrom : String := ""
  dateTo : String := ""
  providerId : String := ""
  handymanId : String := ""
  bookingStatus : String := ""
  paymentStatus : String := ""
  paymentType : String := ""
  searchText : String := ""
  perPage : ℤ := 20
  page : ℤ
  deriving DecidableEq, Repr

/-- The piece with the status is compared with the bare text. -/
def getBookingList (filters : BookingFilters) : String :=
  let status := piece "status" filters.bookingStatus
  if status = "all" then
    "booking-list?" ++
      (entry "per_page" (toString filters.perPage) ++ ("page=" ++ toString filters.page))
  else
    "booking-list?" ++
      (piece "service_id" filters.serviceId ++ piece "date_from" filters.dateFrom ++
        (if filters.dateTo.isEmpty then "" else "&" ++ entry "date_to" filters.dateTo) ++
        piece "provider_id" filters.providerId ++ piece "handyman_id" filters.handymanId ++
        status ++ piece "payment_status" filters.paymentStatus ++
        piece "payment_type" filters.paymentType ++
        entry "per_page" (toString filters.perPage) ++ ("page=" ++ toString filters.page))

def bookingParams (filters : BookingFilters) : Params :=
  given "service_id" filters.serviceId ++ given "date_from" filters.dateFrom ++
    given "date_to" filters.dateTo ++ given "provider_id" filters.providerId ++
    given "handyman_id" filters.handymanId ++ given "status" filters.bookingStatus ++
    given "payment_status" filters.paymentStatus ++ given "payment_type" filters.paymentType ++
    [("per_page", toString filters.perPage)]

/-- The parameters of the request are these, each key once. -/
def Carries (endPoint : String) (params : Params) : Prop :=
  ∃ decoded, queryParameters (buildBaseUrl endPoint) = some decoded ∧ decoded.Perm params

def PlainText (value : String) : Prop :=
  Plain value.toList

instance (value : String) : Decidable (PlainText value) :=
  inferInstanceAs (Decidable (Plain _))

/-- The parameters are carried, and a location that was passed is the one that goes out. -/
structure Faithful (session : Session text) (filters : ServiceFilters) : Prop where
  carried : Carries (searchServiceAPI session filters)
    (searchParams session filters ++ [("per_page", "20")])
  latitude : filters.latitude ≠ "" → (location session filters).latitude = filters.latitude
  longitude : filters.longitude ≠ "" → (location session filters).longitude = filters.longitude

/-- The saved pair takes the place of the location that was passed. -/
def SavedUsed (saved : Saved) (filters : ServiceFilters) : Prop :=
  (saved.isCurrentLocation = true ∧ 0 < saved.latitude ∧ 0 < saved.longitude) ∨
    ((filters.latitude = "" ∨ filters.longitude = "") ∧
      saved.latitude ≠ 0 ∧ saved.longitude ≠ 0)

instance (saved : Saved) (filters : ServiceFilters) : Decidable (SavedUsed saved filters) :=
  inferInstanceAs (Decidable (_ ∨ _))

def FitsAs (passed sent : String) : Prop :=
  PlainText sent ∧ (passed ≠ "" → sent = passed)

def LocationFits (session : Session text) (filters : ServiceFilters) : Prop :=
  if SavedUsed session.saved filters then
    FitsAs filters.latitude (text.toText session.saved.latitude) ∧
      FitsAs filters.longitude (text.toText session.saved.longitude)
  else PlainText filters.latitude ∧ PlainText filters.longitude

def ServiceFilters.texts (filters : ServiceFilters) : List String :=
  [filters.categoryId, filters.providerId, filters.isPriceMin, filters.isPriceMax,
    filters.ratingId, subCategoryFilter filters, filters.search, filters.isFeatured]

def BookingFilters.texts (filters : BookingFilters) : List String :=
  [filters.serviceId, filters.dateFrom, filters.dateTo, filters.providerId, filters.handymanId,
    filters.bookingStatus, filters.paymentStatus, filters.paymentType]

/-! ### The parts of a query -/

def chars (param : String × String) : Pair :=
  (param.1.toList, param.2.toList)

def partsOf (params : Params) : List Part :=
  params.map fun param => .pair param.1.toList param.2.toList

def terminated (parts : List Part) : List Char :=
  parts.flatMap fun part => part.text ++ ['&']

theorem render_eq (last : Pair) (parts : List Part) :
    render last parts = terminated parts ++ pairText last.1 last.2 := by
  induction parts with
  | nil => rfl
  | cons part rest ih =>
      rw [render, ih]
      unfold terminated
      rw [List.flatMap_cons, List.append_assoc, List.append_assoc]
      rfl

theorem terminated_append (left right : List Part) :
    terminated (left ++ right) = terminated left ++ terminated right :=
  List.flatMap_append

theorem partsOf_append (left right : Params) :
    partsOf (left ++ right) = partsOf left ++ partsOf right :=
  List.map_append

theorem filterMap_sent_partsOf (params : Params) :
    (partsOf params).filterMap Part.sent = params.map chars := by
  induction params with
  | nil => rfl
  | cons param rest ih =>
      rw [List.map_cons, ← ih]
      rfl

theorem toList_entry (key value : String) :
    (entry key value).toList = terminated (partsOf [(key, value)]) := by
  unfold entry terminated partsOf Part.text pairText
  simp [String.toList_append]

theorem toList_piece (key value : String) :
    (piece key value).toList = terminated (partsOf (given key value)) := by
  unfold piece given
  split
  · rfl
  · exact toList_entry key value

theorem toList_subCategory (filters : ServiceFilters) :
    (if !filters.subCategory.isEmpty then
      if filters.subCategory ≠ "-1" then entry "subcategory_id" filters.subCategory else ""
      else "").toList =
      terminated (partsOf (given "subcategory_id" (subCategoryFilter filters))) := by
  rw [← toList_piece]
  unfold piece subCategoryFilter
  by_cases all : filters.subCategory = "-1"
  · rw [all]
    rfl
  · rw [if_pos all, if_pos all]
    cases filters.subCategory.isEmpty <;> rfl

theorem toList_customerId (session : Session text) :
    (customerId session).toList = terminated (partsOf (customer session)) := by
  unfold customerId customer
  cases session.userId with
  | none => rfl
  | some userId => exact toList_entry "customer_id" (toString userId)

theorem toList_searchServiceAPI (session : Session text) (filters : ServiceFilters) :
    (searchServiceAPI session filters).toList =
      "search-list".toList ++ '?' ::
        render (chars ("per_page", "20")) (partsOf (searchParams session filters)) := by
  have path : "search-list?".toList = "search-list".toList ++ ['?'] := by decide
  have last : "per_page=20".toList = pairText "per_page".toList "20".toList := by decide
  rw [render_eq]
  unfold searchServiceAPI searchParams
  simp only [String.toList_append, toList_piece, toList_entry, toList_subCategory,
    toList_customerId, partsOf_append, terminated_append, path, last]
  simp only [chars, List.append_assoc, List.cons_append, List.nil_append]

/-- The parts of the bookings' query: a gap stands before the last date. -/
def bookingParts (filters : BookingFilters) : List Part :=
  partsOf (given "service_id" filters.serviceId ++ given "date_from" filters.dateFrom) ++
    (if filters.dateTo.isEmpty then [] else .gap :: partsOf [("date_to", filters.dateTo)]) ++
    partsOf (given "provider_id" filters.providerId ++ given "handyman_id" filters.handymanId ++
      given "status" filters.bookingStatus ++ given "payment_status" filters.paymentStatus ++
      given "payment_type" filters.paymentType ++ [("per_page", toString filters.perPage)])

theorem toList_dateTo (dateTo : String) :
    (if dateTo.isEmpty then "" else "&" ++ entry "date_to" dateTo).toList =
      terminated (if dateTo.isEmpty then [] else .gap :: partsOf [("date_to", dateTo)]) := by
  split
  · rfl
  · rw [String.toList_append, toList_entry]
    rfl

/-- No piece is the bare text, so the short request is never made. -/
theorem piece_status_ne_all (bookingStatus : String) : piece "status" bookingStatus ≠ "all" := by
  intro same
  have letters := congrArg String.toList same
  unfold piece at letters
  split at letters
  · exact absurd letters (by decide)
  · unfold entry at letters
    simp only [String.toList_append] at letters
    have first := congrArg List.head? letters
    exact absurd first (by simp)

theorem toList_getBookingList (filters : BookingFilters) :
    (getBookingList filters).toList =
      "booking-list".toList ++ '?' ::
        render (chars ("page", toString filters.page)) (bookingParts filters) := by
  have path : "booking-list?".toList = "booking-list".toList ++ ['?'] := by decide
  have last : "page=".toList = "page".toList ++ ['='] := by decide
  rw [render_eq]
  unfold getBookingList bookingParts
  dsimp only
  rw [if_neg (piece_status_ne_all filters.bookingStatus)]
  simp only [String.toList_append, toList_piece, toList_entry, toList_dateTo, partsOf_append,
    terminated_append, path, last]
  simp only [chars, pairText, List.append_assoc, List.cons_append, List.nil_append]

theorem sent_bookingParts (filters : BookingFilters) :
    sent (chars ("page", toString filters.page)) (bookingParts filters) =
      (bookingParams filters ++ [("page", toString filters.page)]).map chars := by
  have dateTo : (if filters.dateTo.isEmpty then [] else
      Part.gap :: partsOf [("date_to", filters.dateTo)]).filterMap Part.sent =
        (given "date_to" filters.dateTo).map chars := by
    unfold given
    split
    · rfl
    · rfl
  unfold bookingParts bookingParams sent
  rw [List.filterMap_append, List.filterMap_append, dateTo, filterMap_sent_partsOf,
    filterMap_sent_partsOf]
  simp only [List.map_append, List.append_assoc, List.map_cons, List.map_nil]

theorem map_chars_ofList (pairs : List Pair) :
    (pairs.map fun pair => (String.ofList pair.1, String.ofList pair.2)).map chars = pairs := by
  rw [List.map_map]
  refine (List.map_congr_left ?_).trans (List.map_id pairs)
  intro pair _
  exact Prod.ext String.toList_ofList String.toList_ofList

theorem map_ofList_chars (params : Params) :
    ((params.map chars).map fun pair => (String.ofList pair.1, String.ofList pair.2)) =
      params := by
  rw [List.map_map]
  refine (List.map_congr_left ?_).trans (List.map_id params)
  intro param _
  exact Prod.ext String.ofList_toList String.ofList_toList

/-- An address below the base carries what its query text is read back as. -/
theorem carries_iff_readBack {endPoint : String} {path text : List Char}
    (relative : endPoint.startsWith "http" = false)
    (shape : endPoint.toList = path ++ '?' :: text)
    (unfragmented : '#' ∉ path) (plainPath : '?' ∉ path) (params : Params) :
    Carries endPoint params ↔
      ∃ pairs, readBack text = some pairs ∧ pairs.Perm (params.map chars) := by
  have base : '#' ∉ baseUrl.toList ∧ '?' ∉ baseUrl.toList := by decide
  have address : (buildBaseUrl endPoint).toList = (baseUrl.toList ++ path) ++ '?' :: text := by
    unfold buildBaseUrl
    rw [relative, if_neg Bool.false_ne_true, String.toList_append, shape, List.append_assoc]
  have query : queryOf (buildBaseUrl endPoint).toList = some (parsed text) := by
    rw [address]
    apply queryOf_append
    · rw [List.mem_append, not_or]
      exact ⟨base.1, unfragmented⟩
    · rw [List.mem_append, not_or]
      exact ⟨base.2, plainPath⟩
  unfold Carries queryParameters
  rw [query, Option.bind_some]
  change (∃ decoded, (readBack text).map _ = some decoded ∧ _) ↔ _
  constructor
  · rintro ⟨decoded, read, same⟩
    obtain ⟨pairs, readPairs, rfl⟩ := Option.map_eq_some_iff.mp read
    have back := same.map chars
    rw [map_chars_ofList] at back
    exact ⟨pairs, readPairs, back⟩
  · rintro ⟨pairs, read, same⟩
    refine ⟨_, Option.map_eq_some_iff.mpr ⟨pairs, read, rfl⟩, ?_⟩
    have back := same.map fun pair => (String.ofList pair.1, String.ofList pair.2)
    rw [map_ofList_chars] at back
    exact back

def searchKeys : List String :=
  ["category_id", "customer_id", "provider_id", "is_price_min", "is_price_max", "is_rating",
    "subcategory_id", "search", "latitude", "longitude", "is_featured", "page", "per_page"]

/-- The keys of the bookings; the last is never written. -/
def bookingKeys : List String :=
  ["service_id", "date_from", "date_to", "provider_id", "handyman_id", "status",
    "payment_status", "payment_type", "per_page", "page", "search"]

theorem plainKey_of_mem {key : String} (known : key ∈ searchKeys ++ bookingKeys) :
    PlainKey key.toList := by
  have all : ∀ key ∈ searchKeys ++ bookingKeys,
      Plain key.toList ∧ '=' ∉ key.toList ∧ key.toList ≠ [] := by decide
  obtain ⟨plain, assigned, nonempty⟩ := all key known
  exact ⟨plain, assigned, nonempty⟩

theorem nodup_chars {params : Params} (once : (params.map Prod.fst).Nodup) :
    ((params.map chars).map Prod.fst).Nodup := by
  have keysOf : (params.map chars).map Prod.fst = (params.map Prod.fst).map String.toList := by
    rw [List.map_map, List.map_map]
    rfl
  rw [keysOf]
  exact once.map fun _ _ same => String.toList_inj.mp same

/-- A request carries its parameters exactly when each value is plain and none is left
out. -/
theorem carries_iff {endPoint : String} {path : List Char} {last : String × String}
    {parts : List Part} {params unsent : Params} {names : List String}
    (relative : endPoint.startsWith "http" = false)
    (shape : endPoint.toList = path ++ '?' :: render (chars last) parts)
    (unfragmented : '#' ∉ path) (plainPath : '?' ∉ path)
    (all : sent (chars last) parts = params.map chars)
    (named : ((params ++ unsent).map Prod.fst).Sublist names)
    (known : names ⊆ searchKeys ++ bookingKeys) (once : names.Nodup) :
    Carries endPoint (params ++ unsent) ↔
      (∀ param ∈ params, PlainText param.2) ∧ unsent = [] := by
  have split : (params ++ unsent).map chars = sent (chars last) parts ++ unsent.map chars := by
    rw [List.map_append, all]
  have plainKeys : ∀ pair ∈ sent (chars last) parts, PlainKey pair.1 := by
    rw [all, List.forall_mem_map]
    intro param inside
    have key : param.1 ∈ (params ++ unsent).map Prod.fst :=
      List.mem_map_of_mem (List.mem_append_left unsent inside)
    exact plainKey_of_mem (known (named.subset key))
  have onceChars := nodup_chars (once.sublist named)
  rw [split] at onceChars
  rw [carries_iff_readBack relative shape unfragmented plainPath, split,
    readBack_render_iff plainKeys onceChars, all, List.forall_mem_map, List.map_eq_nil_iff]
  rfl

theorem keys_given (key value : String) : ((given key value).map Prod.fst).Sublist [key] := by
  unfold given
  split
  · exact List.nil_sublist _
  · exact List.Sublist.refl _

theorem plainText_toString (value : ℤ) : PlainText (toString value) := by
  have written : ∀ char ∈ (toString value).toList, char.isDigit = true ∨ char = '-' := by
    cases value with
    | ofNat value =>
        change ∀ char ∈ (Nat.repr value).toList, _
        rw [Nat.toList_repr]
        intro char inside
        exact Or.inl (Nat.isDigit_of_mem_toDigits (by decide) (by decide) inside)
    | negSucc value =>
        change ∀ char ∈ ("-" ++ Nat.repr (value + 1)).toList, _
        rw [String.toList_append, Nat.toList_repr]
        intro char inside
        rcases List.mem_append.mp inside with sign | digit
        · exact Or.inr (List.mem_singleton.mp sign)
        · exact Or.inl (Nat.isDigit_of_mem_toDigits (by decide) (by decide) digit)
  have absent : ∀ char : Char, char.isDigit = false → char ≠ '-' →
      char ∉ (toString value).toList := by
    intro char other sign inside
    rcases written char inside with digit | minus
    · exact absurd (digit.symm.trans other) (by decide)
    · exact sign minus
  have literals := isLiteral_of_not_mem (absent '%' (by decide) (by decide))
  exact ⟨⟨literals, absent '+' (by decide) (by decide)⟩, absent '&' (by decide) (by decide),
    absent '#' (by decide) (by decide)⟩

/-! ### The location -/

theorem location_eq (session : Session text) (filters : ServiceFilters) :
    location session filters =
      if SavedUsed session.saved filters then savedQuery text session.saved
      else zeroFallback { latitude := filters.latitude, longitude := filters.longitude } := by
  unfold location LocationRequests.searchServiceAPI currentQuery
  by_cases current : session.saved.isCurrentLocation = true ∧ session.saved.latitude > 0 ∧
      session.saved.longitude > 0
  · have used : SavedUsed session.saved filters := Or.inl current
    rw [if_pos current, if_pos used]
    exact fallbacks_savedQuery session.doubles
  · rw [if_neg current]
    unfold savedFallback
    dsimp only
    by_cases empty : filters.latitude.isEmpty = true ∨ filters.longitude.isEmpty = true
    · rw [if_pos empty]
      rw [String.isEmpty_iff, String.isEmpty_iff] at empty
      by_cases nonzero : session.saved.latitude ≠ 0 ∧ session.saved.longitude ≠ 0
      · have used : SavedUsed session.saved filters := Or.inr ⟨empty, nonzero⟩
        rw [if_pos nonzero, if_pos used]
        exact zeroFallback_savedQuery session.doubles
      · have unused : ¬ SavedUsed session.saved filters := by
          rintro (used | ⟨_, used⟩)
          · exact current used
          · exact nonzero used
        rw [if_neg nonzero, if_neg unused]
    · rw [if_neg empty]
      rw [String.isEmpty_iff, String.isEmpty_iff] at empty
      have unused : ¬ SavedUsed session.saved filters := by
        rintro (used | ⟨used, _⟩)
        · exact current used
        · exact empty used
      rw [if_neg unused]

theorem fitsAs_zero_iff (passed : String) :
    FitsAs passed (if passed.isEmpty then "0" else passed) ↔ PlainText passed := by
  unfold FitsAs
  by_cases empty : passed = ""
  · subst empty
    exact iff_of_true ⟨by decide, fun absent => absurd rfl absent⟩ (by decide)
  · rw [if_neg (mt String.isEmpty_iff.mp empty)]
    exact and_iff_left fun _ => rfl

theorem locationFits_iff (session : Session text) (filters : ServiceFilters) :
    LocationFits session filters ↔
      FitsAs filters.latitude (location session filters).latitude ∧
        FitsAs filters.longitude (location session filters).longitude := by
  rw [location_eq]
  unfold LocationFits
  by_cases used : SavedUsed session.saved filters
  · rw [if_pos used, if_pos used]
    rfl
  · rw [if_neg used, if_neg used, ← fitsAs_zero_iff, ← fitsAs_zero_iff filters.longitude]
    rfl

theorem forall_given {key value : String} {holds : String → Prop} (empty : holds "") :
    (∀ param ∈ given key value, holds param.2) ↔ holds value := by
  unfold given
  split
  · next absent =>
      rw [String.isEmpty_iff.mp absent]
      exact iff_of_true (fun param inside => absurd inside List.not_mem_nil) empty
  · exact List.forall_mem_singleton

theorem given_eq_nil_iff (key value : String) : given key value = [] ↔ value = "" := by
  unfold given
  rw [← String.isEmpty_iff]
  split
  · next absent => exact iff_of_true rfl absent
  · next present => exact iff_of_false (List.cons_ne_nil _ _) present

theorem keys_searchParams (session : Session text) (filters : ServiceFilters) :
    ((searchParams session filters ++ [("per_page", "20")]).map Prod.fst).Sublist
      searchKeys := by
  have customer_ : ((customer session).map Prod.fst).Sublist ["customer_id"] := by
    unfold customer
    cases session.userId with
    | none => exact List.nil_sublist _
    | some userId => exact List.Sublist.refl _
  unfold searchParams
  simp only [List.map_append]
  exact (keys_given _ _).append customer_ |>.append (keys_given _ _)
    |>.append (keys_given _ _) |>.append (keys_given _ _) |>.append (keys_given _ _)
    |>.append (keys_given _ _) |>.append (keys_given _ _) |>.append (List.Sublist.refl _)
    |>.append (List.Sublist.refl _) |>.append (keys_given _ _)
    |>.append (List.Sublist.refl _) |>.append (List.Sublist.refl _)

theorem keys_bookingParams (filters : BookingFilters) :
    ((bookingParams filters ++ [("page", toString filters.page)] ++
      given "search" filters.searchText).map Prod.fst).Sublist bookingKeys := by
  unfold bookingParams
  simp only [List.map_append]
  exact (keys_given _ _).append (keys_given _ _) |>.append (keys_given _ _)
    |>.append (keys_given _ _) |>.append (keys_given _ _) |>.append (keys_given _ _)
    |>.append (keys_given _ _) |>.append (keys_given _ _) |>.append (List.Sublist.refl _)
    |>.append (List.Sublist.refl _) |>.append (keys_given _ _)

theorem plain_searchParams_iff (session : Session text) (filters : ServiceFilters) :
    (∀ param ∈ searchParams session filters, PlainText param.2) ↔
      (∀ value ∈ filters.texts, PlainText value) ∧
        PlainText (location session filters).latitude ∧
        PlainText (location session filters).longitude := by
  have empty : PlainText "" := by decide
  have customer_ : ∀ param ∈ customer session, PlainText param.2 := by
    unfold customer
    cases session.userId with
    | none => exact fun param inside => absurd inside List.not_mem_nil
    | some userId => exact List.forall_mem_singleton.mpr (plainText_toString userId)
  have page := plainText_toString filters.page
  unfold searchParams ServiceFilters.texts
  simp only [List.forall_mem_append, forall_given empty, List.forall_mem_cons,
    List.not_mem_nil, false_imp_iff, implies_true, and_true, and_assoc, page]
  rw [and_iff_right customer_]
  constructor
  · rintro ⟨category, provider, low, high, rating, sub, search, latitude, longitude, featured⟩
    exact ⟨category, provider, low, high, rating, sub, search, featured, latitude, longitude⟩
  · rintro ⟨category, provider, low, high, rating, sub, search, featured, latitude, longitude⟩
    exact ⟨category, provider, low, high, rating, sub, search, latitude, longitude, featured⟩

theorem plain_bookingParams_iff (filters : BookingFilters) :
    (∀ param ∈ bookingParams filters, PlainText param.2) ↔
      ∀ value ∈ filters.texts, PlainText value := by
  have empty : PlainText "" := by decide
  have perPage := plainText_toString filters.perPage
  unfold bookingParams BookingFilters.texts
  simp only [List.forall_mem_append, forall_given empty, List.forall_mem_cons,
    List.not_mem_nil, false_imp_iff, implies_true, and_true, and_assoc, perPage]

theorem startsWith_http_of_head {endPoint : String} {path rest : List Char} {first : Char}
    (shape : endPoint.toList = path ++ rest) (head : path.head? = some first)
    (other : 'h' ≠ first) : endPoint.startsWith "http" = false := by
  obtain ⟨others, rfl⟩ := List.head?_eq_some_iff.mp head
  rw [String.startsWith_string_eq_false_iff, shape]
  intro scheme
  exact other (List.cons_prefix_cons.mp scheme).1

theorem carries_search_iff (session : Session text) (filters : ServiceFilters) :
    Carries (searchServiceAPI session filters)
        (searchParams session filters ++ [("per_page", "20")]) ↔
      (∀ value ∈ filters.texts, PlainText value) ∧
        PlainText (location session filters).latitude ∧
        PlainText (location session filters).longitude := by
  have shape := toList_searchServiceAPI session filters
  have head : "search-list".toList.head? = some 's' := by decide
  have relative : (searchServiceAPI session filters).startsWith "http" = false :=
    startsWith_http_of_head shape head (by decide)
  have unfragmented : '#' ∉ "search-list".toList := by decide
  have plainPath : '?' ∉ "search-list".toList := by decide
  have all : sent (chars ("per_page", "20")) (partsOf (searchParams session filters)) =
      (searchParams session filters ++ [("per_page", "20")]).map chars := by
    unfold sent
    rw [filterMap_sent_partsOf, List.map_append]
    rfl
  have named := keys_searchParams session filters
  rw [← List.append_nil (searchParams session filters ++ _)] at named ⊢
  rw [carries_iff relative shape unfragmented plainPath all named (by decide) (by decide),
    List.forall_mem_append, plain_searchParams_iff]
  have count : ∀ param ∈ [("per_page", "20")], PlainText param.2 := by decide
  exact ⟨fun both => both.1.1, fun plain => ⟨⟨plain, count⟩, rfl⟩⟩

/-- The bookings carry their filters only without a search text. -/
theorem carries_bookings_iff (filters : BookingFilters) :
    Carries (getBookingList filters)
        (bookingParams filters ++ [("page", toString filters.page)] ++
          given "search" filters.searchText) ↔
      (∀ value ∈ filters.texts, PlainText value) ∧ filters.searchText = "" := by
  have shape := toList_getBookingList filters
  have head : "booking-list".toList.head? = some 'b' := by decide
  have relative : (getBookingList filters).startsWith "http" = false :=
    startsWith_http_of_head shape head (by decide)
  have unfragmented : '#' ∉ "booking-list".toList := by decide
  have plainPath : '?' ∉ "booking-list".toList := by decide
  have page : ∀ param ∈ [("page", toString filters.page)], PlainText param.2 :=
    List.forall_mem_singleton.mpr (plainText_toString filters.page)
  rw [carries_iff relative shape unfragmented plainPath (sent_bookingParts filters)
      (keys_bookingParams filters) (by decide) (by decide),
    List.forall_mem_append, plain_bookingParams_iff, and_iff_left page, given_eq_nil_iff]

theorem faithful_iff (session : Session text) (filters : ServiceFilters) :
    Faithful session filters ↔
      (∀ value ∈ filters.texts, PlainText value) ∧ LocationFits session filters := by
  rw [locationFits_iff]
  constructor
  · rintro ⟨carried, latitude, longitude⟩
    obtain ⟨texts, plainLatitude, plainLongitude⟩ := (carries_search_iff session filters).mp carried
    exact ⟨texts, ⟨plainLatitude, latitude⟩, plainLongitude, longitude⟩
  · rintro ⟨texts, ⟨plainLatitude, latitude⟩, plainLongitude, longitude⟩
    have carried :=
      (carries_search_iff session filters).mpr ⟨texts, plainLatitude, plainLongitude⟩
    exact ⟨carried, latitude, longitude⟩

/-- A search is decoded as its filters exactly when each text is plain and the location is
not replaced by another, and the bookings when each text is plain and nothing is searched. -/
theorem filterQueries_decoded_iff (text : DoubleText) :
    (∀ (session : Session text) (filters : ServiceFilters),
      Faithful session filters ↔
        (∀ value ∈ filters.texts, PlainText value) ∧ LocationFits session filters) ∧
      ∀ filters : BookingFilters,
        Carries (getBookingList filters)
            (bookingParams filters ++ [("page", toString filters.page)] ++
              given "search" filters.searchText) ↔
          (∀ value ∈ filters.texts, PlainText value) ∧ filters.searchText = "" :=
  ⟨faithful_iff, carries_bookings_iff⟩

def osloSession : Session sampleText where
  userId := none
  saved := oslo
  doubles := ⟨List.mem_cons_self, List.mem_cons_of_mem _ List.mem_cons_self⟩

def heatingSearch : ServiceFilters :=
  { search := "AC & heating" }

/-- The search text ends at its ampersand, and the bookings know no search text. -/
theorem ampersand_search_counterexample :
    queryParameters (buildBaseUrl (searchServiceAPI osloSession heatingSearch)) =
        some [("search", "AC "), (" heating", ""), ("latitude", "59.5"),
          ("longitude", "10.75"), ("page", "1"), ("per_page", "20")] ∧
      ¬ Faithful osloSession heatingSearch ∧
      ¬ Carries (getBookingList { page := 1, searchText := "sofa" })
        [("per_page", "20"), ("page", "1"), ("search", "sofa")] := by
  refine ⟨by decide +kernel, ?_, ?_⟩
  · rw [faithful_iff]
    rintro ⟨texts, _⟩
    have searched : PlainText heatingSearch.search := texts _ (by decide)
    exact absurd searched (by decide)
  · have spec := carries_bookings_iff { page := 1, searchText := "sofa" }
    intro carried
    have unsearched := (spec.mp carried).2
    exact absurd unsearched (by decide)

end FiksOpp.FilterQueries
