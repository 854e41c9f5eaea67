/-
Retries of a booking in one confirm dialog.

The request is built anew for every attempt, all but the list of the package's services:
that list belongs to the dialog, and every attempt appends the services to it once more.
-/

import FiksOpp.BookingRequest

namespace FiksOpp.BookingRetries

open BookingRequest

def packageServices (package : Option BookingPackage) : List ℤ :=
  (validateList (package.bind BookingPackage.serviceList)).map validate

def selectedAfter (package : Option BookingPackage) : ℕ → List ℤ
  | 0 => []
  | attempts + 1 => selectService (selectedAfter package attempts) package

def attempt (decimals : ℕ) (userId : ℤ) (selectedServiceAddon : List Serviceaddon)
    (dialog : ConfirmBookingDialog) (failed : ℕ) : BookingSaveRequest :=
  bookServices decimals userId selectedServiceAddon
    (selectedAfter dialog.selectedPackage failed) dialog

theorem selectedAfter_succ (package : Option BookingPackage) (attempts : ℕ) :
    selectedAfter package (attempts + 1) =
      selectedAfter package attempts ++ packageServices package := rfl

theorem selectedAfter_of_no_services {package : Option BookingPackage}
    (empty : packageServices package = []) (attempts : ℕ) :
    selectedAfter package attempts = [] := by
  induction attempts with
  | zero => rfl
  | succ attempts ih => rw [selectedAfter_succ, ih, empty, List.append_nil]

theorem length_selectedAfter (package : Option BookingPackage) (attempts : ℕ) :
    (selectedAfter package attempts).length =
      attempts * (packageServices package).length := by
  induction attempts with
  | zero => rw [Nat.zero_mul]; rfl
  | succ attempts ih => rw [selectedAfter_succ, List.length_append, ih, Nat.succ_mul]

def ListsServicesOnce (dialog : ConfirmBookingDialog) (request : BookingSaveRequest) : Prop :=
  ∀ package, request.bookingPackage = some package →
    package.serviceId = packageServices dialog.selectedPackage

theorem attempt_serviceId (decimals : ℕ) (userId : ℤ) (selectedServiceAddon : List Serviceaddon)
    (dialog : ConfirmBookingDialog) (failed : ℕ) :
    (attempt decimals userId selectedServiceAddon dialog failed).bookingPackage.map
        PackageRequest.serviceId =
      dialog.selectedPackage.map fun _ =>
        selectedAfter dialog.selectedPackage failed ++ packageServices dialog.selectedPackage := by
  unfold attempt bookServices
  dsimp only
  rw [Option.map_map]
  rfl

theorem attempt_eq_of_no_services {dialog : ConfirmBookingDialog}
    (empty : packageServices dialog.selectedPackage = []) (decimals : ℕ) (userId : ℤ)
    (selectedServiceAddon : List Serviceaddon) (failed : ℕ) :
    attempt decimals userId selectedServiceAddon dialog failed =
      attempt decimals userId selectedServiceAddon dialog 0 := by
  unfold attempt
  rw [selectedAfter_of_no_services empty, selectedAfter_of_no_services empty]

theorem listsServicesOnce_first (decimals : ℕ) (userId : ℤ)
    (selectedServiceAddon : List Serviceaddon) (dialog : ConfirmBookingDialog) :
    ListsServicesOnce dialog (attempt decimals userId selectedServiceAddon dialog 0) := by
  intro package sent
  have ids := attempt_serviceId decimals userId selectedServiceAddon dialog 0
  rw [sent] at ids
  cases chosen : dialog.selectedPackage with
  | none =>
      rw [chosen] at ids
      cases ids
  | some _ =>
      rw [chosen] at ids
      exact Option.some.inj ids

/-- All attempts send the same request, with every service of the package once, exactly
when none has failed or the package has no services. -/
theorem attempts_iff (decimals : ℕ) (userId : ℤ) (selectedServiceAddon : List Serviceaddon)
    (dialog : ConfirmBookingDialog) (failed : ℕ) :
    (∀ before ≤ failed,
      attempt decimals userId selectedServiceAddon dialog before =
          attempt decimals userId selectedServiceAddon dialog 0 ∧
        ListsServicesOnce dialog
          (attempt decimals userId selectedServiceAddon dialog before)) ↔
      failed = 0 ∨ packageServices dialog.selectedPackage = [] := by
  constructor
  · intro same
    by_cases first : failed = 0
    · exact Or.inl first
    · right
      cases chosen : dialog.selectedPackage with
      | none => rfl
      | some chosenPackage =>
          have sent : (attempt decimals userId selectedServiceAddon dialog 1).bookingPackage =
              some (packageRequest (selectService
                (selectedAfter dialog.selectedPackage 1) dialog.selectedPackage)
                chosenPackage) := by
            unfold attempt bookServices
            rw [chosen]
            rfl
          have once := (same 1 (by omega)).2 _ sent
          change selectedAfter dialog.selectedPackage 1 ++
            packageServices dialog.selectedPackage = packageServices dialog.selectedPackage at once
          have lengths := congrArg List.length once
          rw [List.length_append, length_selectedAfter] at lengths
          rw [← chosen]
          apply List.eq_nil_of_length_eq_zero
          omega
  · rintro (first | empty) before le
    · have zero : before = 0 := by omega
      rw [zero]
      exact ⟨rfl, listsServicesOnce_first decimals userId selectedServiceAddon dialog⟩
    · rw [attempt_eq_of_no_services empty]
      exact ⟨rfl, listsServicesOnce_first decimals userId selectedServiceAddon dialog⟩

/-- The second attempt for a package of two services names each of them twice. -/
theorem second_attempt_counterexample :
    ¬ ∀ decimals userId selectedServiceAddon dialog failed,
      attempt decimals userId selectedServiceAddon dialog failed =
        attempt decimals userId selectedServiceAddon dialog 0 := by
  intro always
  have same := always 2 7 []
    { data := { serviceDetail := {} }
      bookingPrice := some 500
      selectedPackage := some { id := some 9, serviceList := some [some 4, some 5] } } 1
  have ids := congrArg (fun request => request.bookingPackage.map PackageRequest.serviceId) same
  revert ids
  decide +kernel

end FiksOpp.BookingRetries
