/-
`UserWalletBalanceScreen`: topping up the wallet while the amount field can
still be edited.

Attempts stay open while the customer goes on typing, and every completion reads
the field again.  The run results compare the credited amount with the amount
the gateway was given, and the credited id with the id of the payment.
-/

import FiksOpp.GatewayAttempts

namespace FiksOpp.Wallet

open EventRun
open Gateway

def digitsOnly (text : String) : String :=
  String.ofList (text.toList.filter Char.isDigit)

/-- The number in a field of digits; an empty field counts as zero. -/
def toDouble (text : String) : ℚ :=
  (text.toList.foldl (fun number digit => number * 10 + (digit.toNat - '0'.toNat)) 0 : ℕ)

def defaultAmounts : List ℕ := [150, 200, 500, 1000, 5000, 10000]

structure OnComplete where
  transactionType : PaymentMethod
  key : String
  deriving DecidableEq, Repr

def walletKey : OnlineGateway → String
  | .razor => "orderId"
  | _ => "transaction_id"

def walletCallback (gateway : OnlineGateway) : OnComplete :=
  { transactionType := gateway.type, key := walletKey gateway }

structure WalletTopUpRequest where
  amount : ℚ
  transactionType : PaymentMethod
  transactionId : Option String
  deriving DecidableEq, Repr

/-- The request that a completion posts: the amount is read from the field when
the completion runs. -/
def OnComplete.call (text : String) (onComplete : OnComplete) (payload : Payload) :
    WalletTopUpRequest :=
  { amount := toDouble text
    transactionType := onComplete.transactionType
    transactionId := payload.read onComplete.key }

structure Attempt where
  gateway : OnlineGateway
  service : Service OnComplete

structure WalletState where
  text : String := "0"
  attempts : List Attempt := []

inductive WalletEvent where
  | edit (raw : String)
  | chip (amount : ℕ) (listed : amount ∈ defaultAmounts)
  | proceedToTopUp (gateway : OnlineGateway) (click : ClickContext) (userId : ℤ)
  | answer (index : ℕ) (answer : Answer)

def handleClick (click : ClickContext) (userId : ℤ) (gateway : OnlineGateway)
    (state : WalletState) : WalletState :=
  if toDouble state.text = 0 then state
  else
    match openService
        { click with
          airtelBookingId := userId
          phonePeBookingId := 0
          serviceId := none
          servicePrice := none
          serviceName := none }
        (toDouble state.text) (walletCallback gateway) gateway with
    | none => state
    | some service =>
        { state with attempts := state.attempts ++ [{ gateway := gateway, service := service }] }

/-- A posted request beside the attempt it belongs to and the id of the payment
that the gateway reported for it. -/
structure Credit where
  attempt : Attempt
  paymentId : Option String
  request : WalletTopUpRequest

/-- An answer goes to its attempt; an index that names none is ignored. -/
def WalletState.receive (state : WalletState) (index : ℕ) (answer : Answer) : WalletState :=
  match state.attempts[index]? with
  | none => state
  | some attempt =>
      { state with
        attempts := state.attempts.set index
          { attempt with service := (attempt.service.react answer).1 } }

def WalletState.completions (state : WalletState) (index : ℕ) (answer : Answer) :
    List Credit :=
  match state.attempts[index]? with
  | none => []
  | some attempt =>
      match (attempt.service.react answer).2.invocation with
      | none => []
      | some (onComplete, payload) =>
          [{ attempt := attempt
             paymentId := attempt.service.reported answer
             request := onComplete.call state.text payload }]

def WalletState.next (state : WalletState) : WalletEvent → WalletState
  | .edit raw => { state with text := digitsOnly raw }
  | .chip amount _ => { state with text := toString amount }
  | .proceedToTopUp gateway click userId => handleClick click userId gateway state
  | .answer index answer => state.receive index answer

def WalletState.credits (state : WalletState) : WalletEvent → List Credit
  | .answer index answer => state.completions index answer
  | _ => []

def walletMachine : Machine WalletState WalletEvent Credit :=
  { next := WalletState.next
    outputs := WalletState.credits }

def serviceAmount {κ : Type*} : Service κ → ℚ
  | .stripe service => service.totalAmount
  | .razor service => service.totalAmount
  | .flutterWave totalAmount _ => totalAmount
  | .cinetPay service => service.totalAmount
  | .sadadPayment service => service.totalAmount
  | .payPal _ totalAmount _ => totalAmount
  | .airtel amount _ _ => amount
  | .payStack service => service.totalAmount
  | .midtrans service => service.totalAmount
  | .phonePe _ service => service.totalAmount

theorem openService_amount {κ : Type*} {click : ClickContext} {totalAmount : ℚ} {callback : κ}
    {gateway : OnlineGateway} {service : Service κ}
    (opened : openService click totalAmount callback gateway = some service) :
    serviceAmount service = totalAmount := by
  cases gateway with
  | cinetPay =>
      rw [openService] at opened
      split at opened
      · cases opened
        rfl
      · cases opened
  | _ =>
      cases opened
      rfl

theorem react_amount {κ : Type*} (service : Service κ) (answer : Answer) :
    serviceAmount (service.react answer).1 = serviceAmount service := by
  cases service with
  | phonePe initialised service =>
      cases answer with
      | phonePe userId tap =>
          cases initialised with
          | false => rfl
          | true =>
              change (service.handlePayClick userId tap).1.totalAmount = service.totalAmount
              rw [handlePayClick_service]
              unfold PhonePeServices.prepare
              cases tap.payType with
              | none => rfl
              | some payType =>
                  exact createBodyAndCheckSum_totalAmount service userId tap.random payType
      | _ => rfl
  | _ => cases answer <;> rfl

def WalletState.handed (state : WalletState) : List ℚ :=
  state.attempts.map (fun attempt => serviceAmount attempt.service)

theorem handleClick_handed (click : ClickContext) (userId : ℤ) (gateway : OnlineGateway)
    (state : WalletState) :
    (handleClick click userId gateway state).handed = state.handed ∨
      (handleClick click userId gateway state).handed = state.handed ++ [toDouble state.text] := by
  unfold handleClick
  split
  · exact Or.inl rfl
  · split
    · exact Or.inl rfl
    · rename_i service opened
      right
      have amount := openService_amount opened
      unfold WalletState.handed
      rw [List.map_append, List.map_singleton, amount]

theorem receive_handed (state : WalletState) (index : ℕ) (answer : Answer) :
    (state.receive index answer).handed = state.handed := by
  unfold WalletState.receive
  cases found : state.attempts[index]? with
  | none => rfl
  | some attempt =>
      unfold WalletState.handed
      dsimp only
      obtain ⟨within, same⟩ := List.getElem?_eq_some_iff.mp found
      have inBounds : index < (state.attempts.map
          (fun attempt => serviceAmount attempt.service)).length := by
        rw [List.length_map]
        exact within
      have entry : (state.attempts.map (fun attempt => serviceAmount attempt.service))[index] =
          serviceAmount attempt.service := by
        rw [List.getElem_map, same]
      rw [List.map_set, react_amount, ← entry]
      exact List.set_getElem_self inBounds

theorem handed_prefix_run (state : WalletState) (events : List WalletEvent) :
    state.handed <+: (walletMachine.run state events).handed := by
  induction events generalizing state with
  | nil => exact List.prefix_refl _
  | cons event rest ih =>
      refine List.IsPrefix.trans ?_ (ih (state.next event))
      cases event with
      | edit raw => exact List.prefix_refl _
      | chip amount listed => exact List.prefix_refl _
      | proceedToTopUp gateway click userId =>
          change state.handed <+: (handleClick click userId gateway state).handed
          rcases handleClick_handed click userId gateway state with same | extended
          · rw [same]
          · rw [extended]
            exact List.prefix_append _ _
      | answer index answer =>
          change state.handed <+: (state.receive index answer).handed
          rw [receive_handed]

/-! ### Runs -/

def AttemptsWired (state : WalletState) : Prop :=
  ∀ attempt ∈ state.attempts,
    Wired (walletCallback attempt.gateway) attempt.gateway attempt.service

theorem handleClick_attemptsWired {state : WalletState} (wired : AttemptsWired state)
    (click : ClickContext) (userId : ℤ) (gateway : OnlineGateway) :
    AttemptsWired (handleClick click userId gateway state) := by
  unfold handleClick
  split
  · exact wired
  · split
    · exact wired
    · rename_i service opened
      intro attempt member
      rcases List.mem_append.mp member with old | new
      · exact wired attempt old
      · rw [List.mem_singleton.mp new]
        exact openService_wired opened

theorem next_attemptsWired {state : WalletState} (wired : AttemptsWired state)
    (event : WalletEvent) : AttemptsWired (state.next event) := by
  cases event with
  | edit raw => exact wired
  | chip amount listed => exact wired
  | proceedToTopUp gateway click userId =>
      exact handleClick_attemptsWired wired click userId gateway
  | answer index answer =>
      change AttemptsWired (state.receive index answer)
      unfold WalletState.receive
      cases found : state.attempts[index]? with
      | none => exact wired
      | some attempt =>
          intro changed member
          rcases List.mem_or_eq_of_mem_set member with old | new
          · exact wired changed old
          · rw [new]
            exact react_wired (wired attempt (List.mem_of_getElem? found)) answer

/-- At a completion the field still shows the amount of the attempt, and a
Razorpay success names the payment as its order. -/
def CompletesUnedited (state : WalletState) : WalletEvent → Prop
  | .answer index answer =>
      ∀ attempt, state.attempts[index]? = some attempt →
        (attempt.service.reported answer).isSome = true →
          forwards attempt.gateway answer = true →
            toDouble state.text = serviceAmount attempt.service ∧
              ∀ paymentId orderId signature,
                answer = .razor (.paymentSuccess paymentId orderId signature) →
                  orderId = some paymentId
  | _ => True

/-- The request credits what the gateway was given, under the id of the payment. -/
def Credit.Faithful (credit : Credit) : Prop :=
  credit.request.amount = serviceAmount credit.attempt.service ∧
    credit.request.transactionId = credit.paymentId

theorem walletCallback_read {gateway : OnlineGateway} {service : Service OnComplete}
    {answer : Answer} {txnId : String}
    (wired : Wired (walletCallback gateway) gateway service)
    (found : service.reported answer = some txnId) :
    (successPayload answer txnId).read (walletKey gateway) = some txnId ↔
      ∀ paymentId orderId signature,
        answer = .razor (.paymentSuccess paymentId orderId signature) →
          orderId = some paymentId := by
  cases gateway <;> cases service <;> first | exact wired.elim | skip
  case razor.razor service =>
    cases answer with
    | razor event =>
        cases event with
        | paymentSuccess paymentId orderId signature =>
            have sameId : paymentId = txnId := by
              rw [Service.reported] at found
              split at found
              · exact Option.some.inj found
              · cases found
            subst sameId
            change orderId = some paymentId ↔ _
            constructor
            · intro same paymentId' orderId' signature' equal
              cases equal
              exact same
            · intro same
              exact same paymentId orderId signature rfl
        | paymentError message => cases found
        | externalWallet walletName => cases found
    | _ => cases found
  all_goals
    cases answer <;> first | cases found | skip
  all_goals
    refine iff_of_true rfl ?_
    intro paymentId orderId signature impossible
    cases impossible

theorem credits_faithful_iff {state : WalletState} (wired : AttemptsWired state)
    (event : WalletEvent) :
    (∀ credit ∈ state.credits event, credit.Faithful) ↔ CompletesUnedited state event := by
  cases event with
  | answer index answer =>
      change (∀ credit ∈ state.completions index answer, credit.Faithful) ↔
        ∀ attempt, state.attempts[index]? = some attempt → _
      unfold WalletState.completions
      cases found : state.attempts[index]? with
      | none =>
          refine iff_of_true (fun credit member => absurd member List.not_mem_nil) ?_
          intro attempt present
          cases present
      | some attempt =>
          have held := wired attempt (List.mem_of_getElem? found)
          simp only [react_invocation held answer, Option.some.injEq, forall_eq']
          cases forwarded : forwards attempt.gateway answer with
          | false =>
              refine iff_of_true (fun credit member => absurd member List.not_mem_nil) ?_
              intro _ impossible
              cases impossible
          | true =>
              rw [if_pos rfl]
              cases reported : attempt.service.reported answer with
              | none =>
                  refine iff_of_true (fun credit member => absurd member List.not_mem_nil) ?_
                  intro impossible
                  cases impossible
              | some txnId =>
                  have readBack := walletCallback_read held reported
                  dsimp only [Option.map_some]
                  rw [List.forall_mem_singleton]
                  constructor
                  · rintro ⟨amount, id⟩ _ _
                    exact ⟨amount, readBack.mp id⟩
                  · intro unedited
                    obtain ⟨amount, id⟩ := unedited rfl rfl
                    exact ⟨amount, readBack.mpr id⟩
  | _ => exact iff_of_true (fun credit member => absurd member List.not_mem_nil) trivial

/-- Over any run of edits, top-ups and gateway answers, every posted request
credits the amount its gateway was given under the id of its payment exactly
when every completion finds the field unedited and, for Razorpay, an order that
is named like the payment. -/
theorem credits_faithful_run_iff (events : List WalletEvent) :
    (∀ credit ∈ walletMachine.trace {} events, credit.Faithful) ↔
      walletMachine.Every CompletesUnedited {} events := by
  have initially : AttemptsWired {} := by
    intro attempt member
    exact absurd member List.not_mem_nil
  rw [Machine.forall_trace_iff]
  exact Machine.every_congr AttemptsWired
    (fun state event wired => next_attemptsWired wired event)
    (fun state event wired => credits_faithful_iff wired event) initially

/-- PayPal is given five hundred, the field is edited to ten thousand before the
payment completes, and ten thousand is credited. -/
theorem edited_amount_counterexample :
    ¬ ∀ credit ∈ walletMachine.trace {}
        [.chip 500 (by decide),
          .proceedToTopUp .payPal
            { store := { currencyCode := "NOK", priceDecimalPoint := 2 }
              paymentSetting :=
                { liveValue := { payPalClientId := "client", payPalSecretKey := "secret" } }
              topUpWallet := ""
              airtelBookingId := 0
              phonePeBookingId := 0
              random := 0
              phonePeInitialised := false } 7,
          .edit "10000",
          .answer 0 (.payPal (.onSuccess none "PAY-1"))],
      credit.Faithful := by
  intro faithful
  have wrong := (faithful _ List.mem_cons_self).1
  revert wrong
  decide +kernel

end FiksOpp.Wallet
