import Mathlib.Data.List.Basic

namespace VendingSystem.Provider

/-!
# Refund notifications of the payment providers

A refund asks its provider under our refund number.  The provider's number of
the refund is stored from the answer, from a query or from a notification, and
a notification is looked up by all the numbers its mapper found at once.
-/

/-- The string fields of a JSON object. -/
abbrev Fields := String → Option String

/-- A field that JavaScript takes for given: a string that is not empty. -/
def given (field : Option String) : Option String :=
  field.filter (· ≠ "")

inductive RefundStatus where
  | processing
  | succeeded
  | failed
  deriving Repr, DecidableEq

structure RefundRow where
  id : Nat
  refundNo : String
  paymentId : Nat
  providerRefundNo : Option String
  deriving Repr, DecidableEq

structure PaymentRow where
  id : Nat
  paymentNo : String
  providerCode : String
  paymentProviderConfigId : Option Nat
  deriving Repr, DecidableEq

/-- The tables of the lookup, with their keys. -/
structure RefundTables where
  refunds : List RefundRow
  payments : List PaymentRow
  /-- The provider and the event number of each stored refund event. -/
  refundEvents : List (String × String)
  refundNoUnique : ∀ refund ∈ refunds, ∀ other ∈ refunds,
    refund.refundNo = other.refundNo → refund = other
  paymentIdUnique : ∀ payment ∈ payments, ∀ other ∈ payments,
    payment.id = other.id → payment = other

/-- What a webhook mapper makes of a refund notification. -/
structure RefundWebhook where
  providerCode : String
  refundNo : Option String
  providerRefundNo : Option String
  paymentNo : Option String
  providerEventId : String
  refundStatus : RefundStatus
  matchedConfigId : Option Nat
  deriving Repr, DecidableEq

/-- An optional text in a template string. -/
def inTemplate (absent : String) (field : Option String) : String :=
  field.getD absent

def alipayWebhookStatus (body : Fields) : RefundStatus :=
  if body "refund_status" = some "REFUND_FAIL" then .failed
  else if body "refund_status" = some "REFUND_PROCESSING" then .processing
  else .succeeded

def RefundStatus.text : RefundStatus → String
  | processing => "processing"
  | succeeded => "succeeded"
  | failed => "failed"

def mapAlipayRefundWebhook
    (body : Fields)
    (matchedConfigId : Option Nat) : RefundWebhook :=
  let refundNo := (given (body "out_biz_no")).or (given (body "out_request_no"))
  let refundStatus := alipayWebhookStatus body
  { providerCode := "alipay"
    refundNo
    providerRefundNo := given (body "trade_no")
    paymentNo := given (body "out_trade_no")
    providerEventId :=
      (given (body "notify_id")).getD
        (inTemplate "undefined" (refundNo.or (body "trade_no")) ++
          ":refund:" ++ refundStatus.text)
    refundStatus
    matchedConfigId }

def weChatWebhookRawStatus (decrypted : Fields) : String :=
  ((decrypted "refund_status").or (decrypted "status")).getD "PROCESSING"

def mapWeChatRefundWebhook
    (decrypted originalBody : Fields)
    (matchedConfigId : Option Nat) : RefundWebhook :=
  let refundNo := decrypted "out_refund_no"
  let providerRefundNo := decrypted "refund_id"
  let rawStatus := weChatWebhookRawStatus decrypted
  { providerCode := "wechat_pay"
    refundNo
    providerRefundNo
    paymentNo := decrypted "out_trade_no"
    providerEventId :=
      (originalBody "id").getD
        (inTemplate "null" (refundNo.or providerRefundNo) ++ ":" ++ rawStatus)
    refundStatus :=
      if rawStatus = "SUCCESS" then .succeeded
      else if rawStatus = "ABNORMAL" ∨ rawStatus = "CLOSED" then .failed
      else .processing
    matchedConfigId }

/-- A condition of the lookup, left out when the notification has no value. -/
def agrees (notified stored : Option String) : Bool :=
  match given notified with
  | none => true
  | some value => stored == some value

namespace RefundTables

variable (tables : RefundTables)

/-- The rows that the lookup joins and selects. -/
def matching (input : RefundWebhook) : List RefundRow :=
  tables.refunds.filter fun refund =>
    agrees input.refundNo (some refund.refundNo) &&
      agrees input.providerRefundNo refund.providerRefundNo &&
      tables.payments.any fun payment =>
        payment.id == refund.paymentId &&
          payment.providerCode == input.providerCode &&
          agrees input.paymentNo (some payment.paymentNo)

/-- The lookup returns one of the rows, or none when there is none. -/
def Selects (input : RefundWebhook) : Option RefundRow → Prop
  | none => tables.matching input = []
  | some refund => refund ∈ tables.matching input

def configOf (refund : RefundRow) : Option Nat :=
  (tables.payments.find? (·.id == refund.paymentId)).bind
    PaymentRow.paymentProviderConfigId

end RefundTables

inductive RefundWebhookAnswer where
  | refundIdentifierMissing
  | refundNotFound
  | refundConfigBindingMismatch
  | duplicate (refundId : Nat)
  /-- The refund stays in processing, with the provider's number. -/
  | stillProcessing (refundId : Nat) (providerRefundNo : Option String)
  /-- The refund's terminal state is applied. -/
  | terminal (refundId : Nat) (status : RefundStatus)
  deriving Repr, DecidableEq

/-- `applyProviderRefundWebhook`, on the row its lookup returned. -/
def applyProviderRefundWebhook
    (tables : RefundTables)
    (input : RefundWebhook)
    (row : Option RefundRow) : RefundWebhookAnswer :=
  if (given input.refundNo).isNone ∧ (given input.providerRefundNo).isNone ∧
      (given input.paymentNo).isNone then .refundIdentifierMissing
  else
    match row with
    | none => .refundNotFound
    | some refund =>
      match tables.configOf refund with
      | none => .refundConfigBindingMismatch
      | some config =>
        if input.matchedConfigId ≠ some config then
          .refundConfigBindingMismatch
        else if (input.providerCode, input.providerEventId) ∈
            tables.refundEvents then .duplicate refund.id
        else
          match input.refundStatus with
          | .processing =>
            .stillProcessing refund.id
              (input.providerRefundNo.or refund.providerRefundNo)
          | status => .terminal refund.id status

/-- A notification as a provider sends it. -/
inductive Notification where
  | alipay (body : Fields) (matchedConfigId : Option Nat)
  | weChat (decrypted originalBody : Fields) (matchedConfigId : Option Nat)

namespace Notification

/-- The provider's webhook mapper. -/
def decode : Notification → RefundWebhook
  | alipay body matchedConfigId => mapAlipayRefundWebhook body matchedConfigId
  | weChat decrypted originalBody matchedConfigId =>
    mapWeChatRefundWebhook decrypted originalBody matchedConfigId

/-- A provider names a refund by our numbers of it and of its payment. -/
def Names (refund : RefundRow) (payment : PaymentRow) : Notification → Prop
  | alipay body _ =>
    payment.providerCode = "alipay" ∧ refund.refundNo ≠ "" ∧
      (body "out_biz_no" = some refund.refundNo ∨
        (given (body "out_biz_no") = none ∧
          body "out_request_no" = some refund.refundNo)) ∧
      (given (body "out_trade_no") = none ∨
        body "out_trade_no" = some payment.paymentNo)
  | weChat decrypted _ _ =>
    payment.providerCode = "wechat_pay" ∧ refund.refundNo ≠ "" ∧
      decrypted "out_refund_no" = some refund.refundNo ∧
      (given (decrypted "out_trade_no") = none ∨
        decrypted "out_trade_no" = some payment.paymentNo)

end Notification

structure RefundNotification (tables : RefundTables) where
  refund : RefundRow
  payment : PaymentRow
  notification : Notification
  isRefund : refund ∈ tables.refunds
  isPayment : payment ∈ tables.payments
  ofPayment : payment.id = refund.paymentId
  names : notification.Names refund payment

structure ReachesRefund
    {tables : RefundTables}
    (notified : RefundNotification tables) : Prop where
  matched : ∀ row, tables.Selects notified.notification.decode row →
    row = some notified.refund
  found : notified.notification.decode.refundStatus ≠ .processing →
    ∀ row, tables.Selects notified.notification.decode row →
      applyProviderRefundWebhook tables notified.notification.decode row ≠
        .refundNotFound

/-- The provider's number, when the notification has one, is the stored one. -/
def ProviderNumberStored
    {tables : RefundTables}
    (notified : RefundNotification tables) : Prop :=
  given notified.notification.decode.providerRefundNo = none ∨
    notified.notification.decode.providerRefundNo =
      notified.refund.providerRefundNo

theorem given_of_ne
    {value : String}
    (nonempty : value ≠ "") : given (some value) = some value := by
  simp [given, Option.filter, nonempty]

theorem given_cases (field : Option String) :
    given field = none ∨ given field = field := by
  cases field with
  | none => exact .inl rfl
  | some value =>
    by_cases empty : value = ""
    · exact .inl (by simp [given, Option.filter, empty])
    · exact .inr (given_of_ne empty)

theorem agrees_iff (notified stored : Option String) :
    agrees notified stored = true ↔
      given notified = none ∨ given notified = stored := by
  unfold agrees
  cases given notified with
  | none => simp
  | some value =>
    simp only [beq_iff_eq, reduceCtorEq, false_or]
    exact eq_comm

/-- What a mapper finds of a refund that the provider names. -/
theorem Notification.Names.decoded
    {refund : RefundRow}
    {payment : PaymentRow}
    {notification : Notification}
    (names : notification.Names refund payment) :
    given notification.decode.refundNo = some refund.refundNo ∧
      agrees notification.decode.paymentNo (some payment.paymentNo) = true ∧
      notification.decode.providerCode = payment.providerCode := by
  have ofPayment {field : Option String}
      (isPayment : given field = none ∨ field = some payment.paymentNo) :
      given field = none ∨ given field = some payment.paymentNo := by
    rcases isPayment with absent | present
    · exact .inl absent
    · rcases given_cases field with absent | same
      · exact .inl absent
      · exact .inr (same.trans present)
  cases notification with
  | alipay body matchedConfigId =>
    obtain ⟨isAlipay, nonempty, isRefund, isPayment⟩ := names
    have number : (given (body "out_biz_no")).or
        (given (body "out_request_no")) = some refund.refundNo := by
      rcases isRefund with isBiz | ⟨noBiz, isRequest⟩
      · rw [isBiz, given_of_ne nonempty]
        rfl
      · rw [noBiz, isRequest, given_of_ne nonempty]
        rfl
    refine ⟨?_, ?_, isAlipay.symm⟩
    · show given ((given (body "out_biz_no")).or
        (given (body "out_request_no"))) = _
      rw [number, given_of_ne nonempty]
    · rw [agrees_iff]
      show given (given (body "out_trade_no")) = none ∨
        given (given (body "out_trade_no")) = some payment.paymentNo
      rcases given_cases (body "out_trade_no") with absent | same
      · exact .inl (by rw [absent]; rfl)
      · rw [same]
        exact ofPayment isPayment
  | weChat decrypted originalBody matchedConfigId =>
    obtain ⟨isWeChat, nonempty, isRefund, isPayment⟩ := names
    refine ⟨?_, ?_, isWeChat.symm⟩
    · show given (decrypted "out_refund_no") = _
      rw [isRefund, given_of_ne nonempty]
    · exact (agrees_iff _ _).mpr (ofPayment isPayment)

section Reaching

variable
  {tables : RefundTables}
  (notified : RefundNotification tables)

theorem matching_eq_refund
    {row : RefundRow}
    (selected : row ∈ tables.matching notified.notification.decode) :
    row = notified.refund := by
  obtain ⟨isRow, selects⟩ := List.mem_filter.mp selected
  simp only [Bool.and_eq_true] at selects
  have number := (agrees_iff _ _).mp selects.1.1
  rw [notified.names.decoded.1] at number
  rcases number with absent | same
  · cases absent
  · exact tables.refundNoUnique row isRow notified.refund notified.isRefund
      (Option.some.inj same).symm

theorem refund_mem_matching_iff :
    notified.refund ∈ tables.matching notified.notification.decode ↔
      ProviderNumberStored notified := by
  obtain ⟨isRefund, isPayment, isProvider⟩ := notified.names.decoded
  have joined : (tables.payments.any fun payment =>
      payment.id == notified.refund.paymentId &&
        payment.providerCode == notified.notification.decode.providerCode &&
        agrees notified.notification.decode.paymentNo
          (some payment.paymentNo)) = true := by
    rw [List.any_eq_true]
    refine ⟨notified.payment, notified.isPayment, ?_⟩
    simp [notified.ofPayment, isProvider, isPayment]
  have named : agrees notified.notification.decode.refundNo
      (some notified.refund.refundNo) = true :=
    (agrees_iff _ _).mpr (.inr isRefund)
  have stored : agrees notified.notification.decode.providerRefundNo
      notified.refund.providerRefundNo = true ↔
        ProviderNumberStored notified := by
    rw [agrees_iff]
    unfold ProviderNumberStored
    rcases given_cases notified.notification.decode.providerRefundNo with
      absent | same
    · simp [absent]
    · rw [same]
  rw [RefundTables.matching, List.mem_filter, ← stored, named, joined]
  simp [notified.isRefund]

/--
A notification reaches its refund exactly when it has no provider number, or
the row has the same one.
-/
theorem reachesRefund_iff :
    ReachesRefund notified ↔ ProviderNumberStored notified := by
  have numbered : (given notified.notification.decode.refundNo).isNone =
      false := by
    rw [notified.names.decoded.1]
    rfl
  constructor
  · intro reaches
    cases isMatching : tables.matching notified.notification.decode with
    | nil => cases reaches.matched none isMatching
    | cons row rest =>
      have isRow : row ∈ tables.matching notified.notification.decode := by
        rw [isMatching]
        exact List.mem_cons_self
      rw [← refund_mem_matching_iff, ← matching_eq_refund notified isRow]
      exact isRow
  · intro stored
    have isMatch := (refund_mem_matching_iff notified).mpr stored
    have matched : ∀ row, tables.Selects notified.notification.decode row →
        row = some notified.refund := by
      intro row selects
      cases row with
      | none =>
        rw [RefundTables.Selects] at selects
        rw [selects] at isMatch
        cases isMatch
      | some row => rw [matching_eq_refund notified selects]
    refine ⟨matched, fun terminal row selects => ?_⟩
    rw [matched row selects, applyProviderRefundWebhook, numbered]
    rw [if_neg (by simp)]
    simp only
    split
    · simp
    · split
      · simp
      · split
        · simp
        · simp

end Reaching

/-- The tables after Alipay took a refund synchronously. -/
def alipayRefundTables : RefundTables where
  refunds :=
    [{ id := 1, refundNo := "REF1", paymentId := 1
       providerRefundNo := some "REF1" }]
  payments :=
    [{ id := 1, paymentNo := "PAY1", providerCode := "alipay"
       paymentProviderConfigId := some 1 }]
  refundEvents := []
  refundNoUnique refund isRefund other isOther _ := by
    rw [List.mem_singleton.mp isRefund, List.mem_singleton.mp isOther]
  paymentIdUnique payment isPayment other isOther _ := by
    rw [List.mem_singleton.mp isPayment, List.mem_singleton.mp isOther]

def alipayRefundNotification : RefundNotification alipayRefundTables where
  refund :=
    { id := 1, refundNo := "REF1", paymentId := 1
      providerRefundNo := some "REF1" }
  payment :=
    { id := 1, paymentNo := "PAY1", providerCode := "alipay"
      paymentProviderConfigId := some 1 }
  notification := .alipay
    (fun field =>
      if field = "out_biz_no" then some "REF1"
      else if field = "out_trade_no" then some "PAY1"
      else if field = "trade_no" then some "2026061922001400001"
      else if field = "refund_fee" then some "3.50"
      else none)
    (some 1)
  isRefund := List.mem_cons_self
  isPayment := List.mem_cons_self
  ofPayment := rfl
  names := by
    refine ⟨rfl, by decide, .inl rfl, .inr rfl⟩

theorem alipay_notification_is_lost :
    ¬ ∀ (tables : RefundTables) (notified : RefundNotification tables),
      ReachesRefund notified := by
  intro reaches
  have matched := (reaches _ alipayRefundNotification).matched none
    (by unfold RefundTables.Selects; decide)
  cases matched

end VendingSystem.Provider
