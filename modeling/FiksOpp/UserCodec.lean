/-
The codec of `UserData`, with the review nested in it.

The encoder leaves out what is null.  The decoder reads an id from its text, so an id that
is missing or negative comes back as another one.
-/

import FiksOpp.ServiceCodec

namespace FiksOpp.Codec

open DynamicValues
open Untyped

structure HandymanReview where
  id : Option ℤ := none
  customerId : Option ℤ := none
  rating : Option ℚ := none
  review : Option String := none
  serviceId : Option ℤ := none
  bookingId : Option ℤ := none
  handymanId : Option ℤ := none
  handymanName : Option String := none
  handymanProfileImage : Option String := none
  customerName : Option String := none
  customerProfileImage : Option String := none
  createdAt : Option String := none

namespace HandymanReview

def fromJson (json : Entries) : Option HandymanReview := do
  let id ← asInt (json.get "id")
  let customerId ← asInt (json.get "customer_id")
  let rating ← asNum (json.get "rating")
  let review ← asText (json.get "review")
  let serviceId ← asInt (json.get "service_id")
  let bookingId ← asInt (json.get "booking_id")
  let handymanId ← asInt (json.get "handyman_id")
  let handymanName ← asText (json.get "handyman_name")
  let handymanProfileImage ← asText (json.get "handyman_profile_image")
  let customerName ← asText (json.get "customer_name")
  let customerProfileImage ← asText (json.get "customer_profile_image")
  let createdAt ← asText (json.get "created_at")
  some
    { id := id, customerId := customerId, rating := rating, review := review,
      serviceId := serviceId, bookingId := bookingId, handymanId := handymanId,
      handymanName := handymanName, handymanProfileImage := handymanProfileImage,
      customerName := customerName, customerProfileImage := customerProfileImage,
      createdAt := createdAt }

def toJson (review : HandymanReview) : Entries :=
  [("id", ofInt review.id),
    ("customer_id", ofInt review.customerId),
    ("rating", ofNum review.rating),
    ("review", ofText review.review),
    ("service_id", ofInt review.serviceId),
    ("booking_id", ofInt review.bookingId),
    ("handyman_id", ofInt review.handymanId),
    ("handyman_name", ofText review.handymanName),
    ("handyman_profile_image", ofText review.handymanProfileImage),
    ("customer_name", ofText review.customerName),
    ("customer_profile_image", ofText review.customerProfileImage),
    ("created_at", ofText review.createdAt)]

theorem fromJson_toJson (review : HandymanReview) : fromJson review.toJson = some review := by
  unfold fromJson toJson Entries.get
  simp [List.lookup_cons]

end HandymanReview

structure UserData where
  id : Option ℤ := none
  firstName : Option String := none
  lastName : Option String := none
  username : Option String := none
  providerId : Option ℤ := none
  status : Option ℤ := none
  totalBooking : Option ℤ := none
  description : Option String := none
  knownLanguages : Option String := none
  whyChooseMe : Option String := none
  skills : Option String := none
  userType : Option String := none
  email : Option String := none
  contactNumber : Option String := none
  countryId : Option ℤ := none
  stateId : Option ℤ := none
  cityId : Option ℤ := none
  cityName : Option String := none
  address : Option String := none
  providerTypeId : Option String := none
  providerType : Option String := none
  isFeatured : Option ℤ := none
  displayName : Option String := none
  createdAt : Option String := none
  updatedAt : Option String := none
  profileImage : Option String := none
  timeZone : Option String := none
  lastNotificationSeen : Option String := none
  uid : Option String := none
  socialImage : Option String := none
  loginType : Option String := none
  serviceAddressId : Option ℤ := none
  providersServiceRating : Option ℚ := none
  handymanRating : Option ℚ := none
  isVerifyProvider : Option ℤ := none
  designation : Option String := none
  apiToken : Option String := none
  emailVerifiedAt : Option String := none
  userRole : Option (List String) := none
  handymanReview : Option HandymanReview := none
  isUserExist : Option ℤ := none
  password : Option String := none
  isFavourite : Option ℚ := none
  verificationId : Option String := none
  otpCode : Option String := none
  isSelected : Bool := false
  isOnline : Option ℤ := none
  emailVerified : Option ℤ := none
  handymanImage : Option String := none
  isVerifyHandyman : Option ℤ := none
  minPrice : Option ℤ := none
  maxPrice : Option ℤ := none

namespace UserData

/-- An id is read from its text, a missing one from `null`. -/
def fromJson (library : DartLibrary) (json : Entries) : Option UserData := do
  let address ← asText (json.get "address")
  let apiToken ← asText (json.get "api_token")
  let cityId ← asInt (json.get "city_id")
  let contactNumber ← asText (json.get "contact_number")
  let countryId ← asInt (json.get "country_id")
  let createdAt ← asText (json.get "created_at")
  let displayName ← asText (json.get "display_name")
  let email ← asText (json.get "email")
  let emailVerifiedAt ← asText (json.get "email_verified_at")
  let firstName ← asText (json.get "first_name")
  let isFeatured ← asInt (json.get "is_featured")
  let lastName ← asText (json.get "last_name")
  let socialImage ← asText (json.get "social_image")
  let providerId ← asInt (json.get "provider_id")
  let stateId ← asInt (json.get "state_id")
  let status ← asInt (json.get "status")
  let updatedAt ← asText (json.get "updated_at")
  let userRole ← asListOf asItemText (json.get "user_role")
  let userType ← asText (json.get "user_type")
  let username ← asText (json.get "username")
  let isOnline ← asInt (json.get "isOnline")
  let profileImage ← asText (json.get "profile_image")
  let uid ← asText (json.get "uid")
  let password ← asText (json.get "password")
  let isFavourite ← asNum (json.get "is_favourite")
  let description ← asText (json.get "description")
  let knownLanguages ← asText (json.get "known_languages")
  let whyChooseMe ← asText (json.get "why_choose_me")
  let skills ← asText (json.get "skills")
  let providerType ← asText (json.get "providertype")
  let cityName ← asText (json.get "city_name")
  let loginType ← asText (json.get "login_type")
  let serviceAddressId ← asInt (json.get "service_address_id")
  let lastNotificationSeen ← asText (json.get "last_notification_seen")
  let providersServiceRating ← asNum (json.get "providers_service_rating")
  let handymanRating ← asNum (json.get "handyman_rating")
  let handymanReview ← asRecord HandymanReview.fromJson (json.get "handyman_review")
  let timeZone ← asText (json.get "time_zone")
  let isVerifyProvider ← asInt (json.get "is_verify_provider")
  let isUserExist ← asInt (json.get "is_user_exist")
  let verificationId ← asText (json.get "verificationId")
  let designation ← asText (json.get "designation")
  let otpCode ← asText (json.get "otpCode")
  let totalBooking ← asInt (json.get "total_services_booked")
  let emailVerified ← asInt (json.get "is_email_verified")
  let handymanImage ← asText (json.get "handyman_image")
  let isVerifyHandyman ← asInt (json.get "is_verified")
  let minPrice ← asInt (json.get "min_price")
  let maxPrice ← asInt (json.get "max_price")
  some
    { address := address, apiToken := apiToken, cityId := cityId, contactNumber := contactNumber,
      countryId := countryId, createdAt := createdAt, displayName := displayName, email := email,
      emailVerifiedAt := emailVerifiedAt, firstName := firstName,
      id := some (library.textToInt ((library.toText (json.get "id")).getD "null")),
      isFeatured := isFeatured, lastName := lastName, socialImage := socialImage,
      providerId := providerId, stateId := stateId, status := status, updatedAt := updatedAt,
      userRole := userRole, userType := userType, username := username, isOnline := isOnline,
      profileImage := profileImage, uid := uid, password := password, isFavourite := isFavourite,
      description := description, knownLanguages := knownLanguages, whyChooseMe := whyChooseMe,
      skills := skills, providerType := providerType, cityName := cityName,
      loginType := loginType, serviceAddressId := serviceAddressId,
      lastNotificationSeen := lastNotificationSeen,
      providersServiceRating := providersServiceRating, handymanRating := handymanRating,
      handymanReview := handymanReview, timeZone := timeZone,
      isVerifyProvider := isVerifyProvider, isUserExist := isUserExist,
      verificationId := verificationId, designation := designation, otpCode := otpCode,
      totalBooking := totalBooking, emailVerified := emailVerified,
      handymanImage := handymanImage, isVerifyHandyman := isVerifyHandyman, minPrice := minPrice,
      maxPrice := maxPrice }

/-- The entries of the encoder, those that it leaves out among them. -/
def entries (user : UserData) : Entries :=
  [("address", ofText user.address),
    ("api_token", ofText user.apiToken),
    ("city_id", ofInt user.cityId),
    ("password", ofText user.password),
    ("contact_number", ofText user.contactNumber),
    ("country_id", ofInt user.countryId),
    ("created_at", ofText user.createdAt),
    ("display_name", ofText user.displayName),
    ("email", ofText user.email),
    ("email_verified_at", ofText user.emailVerifiedAt),
    ("first_name", ofText user.firstName),
    ("id", ofInt user.id),
    ("social_image", ofText user.socialImage),
    ("is_featured", ofInt user.isFeatured),
    ("last_name", ofText user.lastName),
    ("provider_id", ofInt user.providerId),
    ("providertype_id", ofText user.providerTypeId),
    ("state_id", ofInt user.stateId),
    ("status", ofInt user.status),
    ("updated_at", ofText user.updatedAt),
    ("user_type", ofText user.userType),
    ("username", ofText user.username),
    ("profile_image", ofText user.profileImage),
    ("uid", ofText user.uid),
    ("isOnline", ofInt user.isOnline),
    ("description", ofText user.description),
    ("known_languages", ofText user.knownLanguages),
    ("why_choose_me", ofText user.whyChooseMe),
    ("skills", ofText user.skills),
    ("providertype", ofText user.providerType),
    ("city_name", ofText user.cityName),
    ("time_zone", ofText user.timeZone),
    ("login_type", ofText user.loginType),
    ("service_address_id", ofInt user.serviceAddressId),
    ("last_notification_seen", ofText user.lastNotificationSeen),
    ("providers_service_rating", ofNum user.providersServiceRating),
    ("handyman_rating", ofNum user.handymanRating),
    ("is_verify_provider", ofInt user.isVerifyProvider),
    ("is_user_exist", ofInt user.isUserExist),
    ("designation", ofText user.designation),
    ("verificationId", ofText user.verificationId),
    ("otpCode", ofText user.otpCode),
    ("is_favourite", ofNum user.isFavourite),
    ("total_services_booked", ofInt user.totalBooking),
    ("is_email_verified", ofInt user.emailVerified),
    ("handyman_image", ofText user.handymanImage),
    ("is_verified", ofInt user.isVerifyHandyman),
    ("min_price", ofInt user.minPrice),
    ("max_price", ofInt user.maxPrice),
    ("handyman_review", ofRecord HandymanReview.toJson user.handymanReview),
    ("user_role", ofListOf .text user.userRole)]

def toJson (user : UserData) : Entries :=
  present user.entries

def decoded (library : DartLibrary) (user : UserData) : UserData :=
  { user with
    id := some (library.textToInt ((library.toText (ofInt user.id)).getD "null"))
    providerTypeId := none
    isSelected := false }

theorem nodup_entries (user : UserData) : (user.entries.map Prod.fst).Nodup :=
  nodup_of_pairwise_size (by
    unfold entries
    simp only [List.map_cons, List.map_nil]
    decide +kernel)

theorem fromJson_toJson (library : DartLibrary) (user : UserData) :
    fromJson library user.toJson = some (user.decoded library) := by
  unfold fromJson toJson
  simp only [get_present user.nodup_entries]
  unfold Entries.get entries
  simp [List.lookup_cons, decoded, asRecord_ofRecord_self HandymanReview.fromJson_toJson]

end UserData

/-! ### What comes back unchanged -/

/-- `toInt()` reads digits as their number, and a text with another character as zero. -/
structure DartLibrary.ReadsDigits (library : DartLibrary) : Prop where
  digits : ∀ value : ℕ, library.textToInt (toString (value : ℤ)) = value
  negative : ∀ value : ℤ, value < 0 → library.textToInt (toString value) = 0

structure UserData.Lossless (user : UserData) : Prop where
  id : ∃ id : ℕ, user.id = some (id : ℤ)
  providerTypeId : user.providerTypeId = none
  isSelected : user.isSelected = false

theorem DartLibrary.ReadsDigits.id_iff {library : DartLibrary} (reads : library.ReadsDigits)
    (id : Option ℤ) :
    some (library.textToInt ((library.toText (ofInt id)).getD "null")) = id ↔
      ∃ value : ℕ, id = some (value : ℤ) := by
  cases id with
  | none => simp
  | some id =>
      change some (library.textToInt (toString id)) = some id ↔ _
      rw [Option.some.injEq]
      constructor
      · intro same
        by_contra missing
        have below : id < 0 := by
          by_contra notBelow
          exact missing ⟨id.toNat, by rw [Int.toNat_of_nonneg (by omega)]⟩
        rw [reads.negative id below] at same
        omega
      · rintro ⟨value, same⟩
        rw [Option.some.inj same, reads.digits]

theorem UserData.decoded_eq_iff {library : DartLibrary} (reads : library.ReadsDigits)
    (user : UserData) : user.decoded library = user ↔ user.Lossless := by
  have parts : user.decoded library = user ↔
      some (library.textToInt ((library.toText (ofInt user.id)).getD "null")) = user.id ∧
        user.providerTypeId = none ∧ user.isSelected = false := by
    obtain ⟨⟩ := user
    simp [decoded, eq_comm]
  rw [parts, reads.id_iff]
  exact ⟨fun ⟨id, type, selected⟩ => ⟨id, type, selected⟩,
    fun whole => ⟨whole.id, whole.providerTypeId, whole.isSelected⟩⟩

def digitsLibrary : DartLibrary where
  printed _ := ""
  numTryParse _ := none
  intTryParse _ := none
  parseJson _ := none
  textToInt text :=
    if text.toList.all Char.isDigit then Nat.ofDigitChars 10 text.toList 0 else 0

theorem digitsLibrary_readsDigits : digitsLibrary.ReadsDigits where
  digits value := by
    have written : (toString (value : ℤ)).toList = Nat.toDigits 10 value := by
      change (Nat.repr value).toList = _
      exact Nat.toList_repr
    have digits : (Nat.toDigits 10 value).all Char.isDigit = true :=
      List.all_eq_true.mpr fun _ digit =>
        Nat.isDigit_of_mem_toDigits (by decide) (by decide) digit
    unfold digitsLibrary
    simp only [written, digits, if_true, Nat.ofDigitChars_ten_toDigits]
  negative value below := by
    cases value with
    | ofNat value => exact absurd below (by simp)
    | negSucc value =>
        have written : (toString (Int.negSucc value)).toList.all Char.isDigit = false := by
          change ("-" ++ Nat.repr (value + 1)).toList.all Char.isDigit = false
          simp
        unfold digitsLibrary
        simp only [written]
        rfl

end FiksOpp.Codec
