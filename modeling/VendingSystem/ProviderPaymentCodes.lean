import VendingSystem.ProviderRefundNotifications
import VendingSystem.Text

namespace VendingSystem.Provider

/-!
# Payment-code answers of WeChat Pay V2 and Alipay

Each adapter maps an answer to a status through a chain of codes that ends in
`failed`.  A final status ends the attempt, and from a query also the order;
every other status, and every thrown error, leaves the recovery to ask again.
-/

inductive PaymentCodeStatus where
  | succeeded
  | userConfirming
  | processing
  | unknown
  | failed
  | reversed
  deriving Repr, DecidableEq

/-- What an adapter returns, without the payment time and the raw payload. -/
structure PaymentCodeResult where
  status : PaymentCodeStatus
  providerTradeNo : Option String
  providerStatus : Option String
  failureCode : Option String
  failureMessage : Option String
  deriving Repr, DecidableEq

/-- A call of an adapter: its result, or the message of what it throws. -/
abbrev ProviderCall := Except String PaymentCodeResult

/-- What a V2 request comes to. -/
inductive WeChatReply where
  /-- The request times out or the connection fails. -/
  | unreachable (message : String)
  /-- An HTTP answer, and whether its sign is the one of its fields. -/
  | http (statusCode : Nat) (data : Fields) (signValid : Bool)

def hasSign (data : Fields) : Bool :=
  (given (data "sign")).isSome

def requestWechatV2 : WeChatReply → Except String Fields
  | .unreachable message => .error message
  | .http statusCode data signValid =>
    if statusCode < 200 ∨ 300 ≤ statusCode then
      .error s!"WeChat Pay V2 request failed: {statusCode}"
    else if hasSign data = true ∧ signValid = false then
      .error "WeChat Pay V2 response signature invalid"
    else if hasSign data = false ∧ data "return_code" = some "SUCCESS" then
      .error "WeChat Pay V2 response signature missing"
    else .ok data

/-- The code that stands for an answer without success. -/
def weChatErrCode (data : Fields) (fallback : String) : String :=
  (((data "err_code").or (data "return_code")).or
    (data "result_code")).getD fallback

def weChatMicropaid (data : Fields) : Prop :=
  data "return_code" = some "SUCCESS" ∧ data "result_code" = some "SUCCESS" ∧
    data "trade_type" = some "MICROPAY"

instance (data : Fields) : Decidable (weChatMicropaid data) :=
  inferInstanceAs (Decidable (_ ∧ _ ∧ _))

def mapWeChatMicropay (data : Fields) : PaymentCodeResult :=
  let providerTradeNo := data "transaction_id"
  if weChatMicropaid data then
    { status := .succeeded, providerTradeNo, providerStatus := some "SUCCESS"
      failureCode := none, failureMessage := none }
  else
    let errCode := weChatErrCode data "WECHAT_MICROPAY_FAILED"
    let result (status : PaymentCodeStatus) (message : String) :
        PaymentCodeResult :=
      { status, providerTradeNo, providerStatus := some errCode
        failureCode := some errCode
        failureMessage := some ((data "err_code_des").getD message) }
    if errCode = "USERPAYING" then result .userConfirming "用户支付中"
    else if errCode = "SYSTEMERROR" ∨ errCode = "BANKERROR" then
      result .unknown "微信支付结果未知"
    else result .failed "微信付款码支付失败"

def WeChatPayProvider.chargePaymentCode (reply : WeChatReply) : ProviderCall :=
  (requestWechatV2 reply).map mapWeChatMicropay

def mapWeChatOrderQuery
    (data : Fields)
    (providerTradeNo : Option String) : PaymentCodeResult :=
  let providerTradeNo := (data "transaction_id").or providerTradeNo
  if data "return_code" ≠ some "SUCCESS" ∨ data "result_code" ≠ some "SUCCESS"
  then
    let errCode := weChatErrCode data "WECHAT_ORDERQUERY_FAILED"
    { status := if errCode = "SYSTEMERROR" then .unknown else .failed
      providerTradeNo, providerStatus := some errCode
      failureCode := some errCode, failureMessage := data "err_code_des" }
  else
    let tradeState := (data "trade_state").getD "NOTPAY"
    let result (status : PaymentCodeStatus) : PaymentCodeResult :=
      { status, providerTradeNo, providerStatus := some tradeState
        failureCode := none, failureMessage := none }
    if tradeState = "SUCCESS" then result .succeeded
    else if tradeState = "USERPAYING" then result .userConfirming
    else if tradeState = "REVOKED" ∨ tradeState = "CLOSED" then
      result .reversed
    else if tradeState = "PAYERROR" then
      { result .failed with
        failureCode := some tradeState
        failureMessage := data "trade_state_desc" }
    else
      { result .processing with failureMessage := data "trade_state_desc" }

def WeChatPayProvider.queryPaymentCode
    (reply : WeChatReply)
    (providerTradeNo : Option String) : ProviderCall :=
  (requestWechatV2 reply).map fun data =>
    mapWeChatOrderQuery data providerTradeNo

/-- What the Alipay SDK throws. -/
structure AlipayError where
  code : Option String
  status : Option Nat
  message : String

def isIndeterminateAlipayError (error : AlipayError) : Bool :=
  let message := toAsciiLowercase error.message
  error.status.any (500 ≤ ·) || containsText message "timeout" ||
    containsText message "504" || containsText message "gateway time-out" ||
    containsText message "gateway timeout"

/-- What a call of the Alipay SDK comes to. -/
inductive AlipayReply where
  | thrown (error : AlipayError)
  /-- An answer, and whether it has a valid signature. -/
  | answered (data : Fields) (signed : Bool)

def mapAlipayPaymentCodeResponse (data : Fields) : PaymentCodeResult :=
  let code := data "code"
  let subCode := data "sub_code"
  let result (status : PaymentCodeStatus) (providerStatus : Option String)
      (failureCode : Option String) (message : String) : PaymentCodeResult :=
    { status, providerTradeNo := data "trade_no", providerStatus, failureCode
      failureMessage := some ((data "sub_msg").getD message) }
  if code = some "10000" then
    { status := .succeeded, providerTradeNo := data "trade_no"
      providerStatus := some "TRADE_SUCCESS"
      failureCode := none, failureMessage := none }
  else if code = some "10003" then
    result .userConfirming (some "WAIT_BUYER_PAY") subCode "等待用户确认支付"
  else if code = some "20000" ∨ subCode = some "ACQ.SYSTEM_ERROR" then
    result .unknown (code.or subCode)
      (some ((subCode.or code).getD "ALIPAY_UNKNOWN")) "支付宝返回未知结果"
  else
    result .failed (code.or subCode)
      (some ((subCode.or code).getD "ALIPAY_PAYMENT_CODE_FAILED"))
      "支付宝付款码支付失败"

/-- The call is made without `validateSign`. -/
def AlipayProvider.chargePaymentCode : AlipayReply → ProviderCall
  | .answered data _ => .ok (mapAlipayPaymentCodeResponse data)
  | .thrown error =>
    if error.code = some "ACQ.USER_PAYING" then
      .ok
        { status := .userConfirming, providerTradeNo := none
          providerStatus := some "ACQ.USER_PAYING"
          failureCode := none, failureMessage := none }
    else if isIndeterminateAlipayError error = true then
      let errCode := error.code.getD "ALIPAY_REQUEST_UNKNOWN"
      .ok
        { status := .unknown, providerTradeNo := none
          providerStatus := some errCode, failureCode := some errCode
          failureMessage := some error.message }
    else .error error.message

/-- What a call with `validateSign` comes to: an answer is signed. -/
inductive ValidatedAlipayReply where
  | thrown (error : AlipayError)
  | answered (data : Fields)

/-- `mapAlipayTradeStatus` of an answer with code 10000. -/
def alipayTradeStatus (data : Fields) : PaymentCodeStatus :=
  let tradeStatus := (data "trade_status").getD "WAIT_BUYER_PAY"
  if tradeStatus = "TRADE_SUCCESS" ∨ tradeStatus = "TRADE_FINISHED" then
    .succeeded
  else if tradeStatus = "TRADE_CLOSED" then .reversed
  else .processing

def mapAlipayPaymentCodeQueryResponse (data : Fields) : PaymentCodeResult :=
  let code := data "code"
  let subCode := data "sub_code"
  let result (status : PaymentCodeStatus) (providerStatus : Option String)
      (failureCode : String) (message : String) : PaymentCodeResult :=
    { status, providerTradeNo := none, providerStatus
      failureCode := some failureCode
      failureMessage := some ((data "sub_msg").getD message) }
  if code = some "10000" then
    let status := alipayTradeStatus data
    { status, providerTradeNo := data "trade_no"
      providerStatus :=
        if status = .reversed then some "TRADE_CLOSED"
        else some ((data "trade_status").getD "pending")
      failureCode := none, failureMessage := none }
  else if code = some "20000" ∨ subCode = some "ACQ.SYSTEM_ERROR" then
    result .unknown (code.or subCode)
      ((subCode.or code).getD "ALIPAY_QUERY_UNKNOWN") "支付宝付款码查询结果未知"
  else if subCode = some "ACQ.TRADE_NOT_EXIST" then
    result .processing subCode "ACQ.TRADE_NOT_EXIST" "支付宝交易暂不存在"
  else
    result .failed (code.or subCode)
      ((subCode.or code).getD "ALIPAY_QUERY_FAILED") "支付宝付款码查询失败"

def AlipayProvider.queryPaymentCode
    (reply : ValidatedAlipayReply)
    (providerTradeNo : Option String) : ProviderCall :=
  match reply with
  | .answered data => .ok (mapAlipayPaymentCodeQueryResponse data)
  | .thrown error =>
    if isIndeterminateAlipayError error = true then
      .ok
        { status := .unknown, providerTradeNo
          providerStatus := some "ALIPAY_QUERY_UNKNOWN"
          failureCode := some "ALIPAY_QUERY_UNKNOWN"
          failureMessage := some error.message }
    else .error error.message

inductive RecoveryAction where
  /-- The payment and the attempt take a terminal state. -/
  | applyTerminal (paymentSucceeded : Bool)
  /-- The attempt has failed. -/
  | releaseFailed
  | reverse
  | defer (userConfirming : Bool)
  deriving Repr, DecidableEq

/-- `submitAttempt` and `applyChargeResult`. -/
def recoverCharge : ProviderCall → RecoveryAction
  | .error _ => .defer false
  | .ok result =>
    match result.status with
    | .succeeded => .applyTerminal true
    | .reversed => .applyTerminal false
    | .failed => .releaseFailed
    | .userConfirming => .defer true
    | .processing | .unknown => .defer false

/-- `queryAndResolve`. -/
def recoverQuery (shouldReverse : Bool) : ProviderCall → RecoveryAction
  | .error _ => .defer false
  | .ok result =>
    match result.status with
    | .succeeded => .applyTerminal true
    | .failed | .reversed => .applyTerminal false
    | .userConfirming => if shouldReverse then .reverse else .defer true
    | .processing | .unknown =>
      if shouldReverse then .reverse else .defer false

def RecoveryAction.IsFinal : RecoveryAction → Prop
  | .applyTerminal _ | .releaseFailed => True
  | .reverse | .defer _ => False

/-- What a provider's answer says about the trade. -/
inductive Situation where
  /-- No authenticated business answer. -/
  | noAnswer
  | systemError
  | orderNotExist
  | inProgress
  /-- A business answer that does not say how the trade ended. -/
  | unclear
  | paid
  | refused
  | reversed
  deriving Repr, DecidableEq

/-- A final status, or one that leaves the trade open. -/
inductive AnswerClass where
  | definitive (status : PaymentCodeStatus)
  | undecided
  deriving Repr, DecidableEq

def Situation.answerClass : Situation → AnswerClass
  | paid => .definitive .succeeded
  | refused => .definitive .failed
  | reversed => .definitive .reversed
  | _ => .undecided

def PaymentCodeStatus.answerClass : PaymentCodeStatus → AnswerClass
  | succeeded => .definitive .succeeded
  | failed => .definitive .failed
  | reversed => .definitive .reversed
  | _ => .undecided

/-- What is thrown decides nothing. -/
def callClass : ProviderCall → AnswerClass
  | .error _ => .undecided
  | .ok result => result.status.answerClass

/-- An error of the business, where a refusal of the operation means this. -/
def weChatBusinessError
    (errCode : Option String)
    (refusal : Situation) : Situation :=
  if errCode = some "USERPAYING" then .inProgress
  else if errCode = some "SYSTEMERROR" ∨ errCode = some "BANKERROR" then
    .systemError
  else if errCode = some "ORDERNOTEXIST" then .orderNotExist
  else if given errCode = none then .unclear
  else refusal

/-- An authenticated answer of the WeChat business. -/
def weChatAnswers (statusCode : Nat) (data : Fields) (signValid : Bool) : Prop :=
  (200 ≤ statusCode ∧ statusCode < 300) ∧ hasSign data = true ∧
    signValid = true ∧ data "return_code" = some "SUCCESS"

instance (statusCode : Nat) (data : Fields) (signValid : Bool) :
    Decidable (weChatAnswers statusCode data signValid) :=
  inferInstanceAs (Decidable (_ ∧ _ ∧ _ ∧ _))

def weChatChargeStates (data : Fields) : Situation :=
  if data "result_code" = some "SUCCESS" then
    if data "trade_type" = some "MICROPAY" then .paid else .unclear
  else if data "result_code" = some "FAIL" then
    weChatBusinessError (data "err_code") .refused
  else .unclear

def weChatChargeSituation : WeChatReply → Situation
  | .unreachable _ => .noAnswer
  | .http statusCode data signValid =>
    if weChatAnswers statusCode data signValid then weChatChargeStates data
    else .noAnswer

/-- What a trade state of WeChat says. -/
def weChatTradeState (tradeState : Option String) : Situation :=
  if tradeState = some "SUCCESS" then .paid
  else if tradeState = some "REVOKED" ∨ tradeState = some "CLOSED" then
    .reversed
  else if tradeState = some "PAYERROR" then .refused
  else .inProgress

/-- A query that is refused says nothing of the trade. -/
def weChatQueryStates (data : Fields) : Situation :=
  if data "result_code" = some "SUCCESS" then
    weChatTradeState (data "trade_state")
  else if data "result_code" = some "FAIL" then
    weChatBusinessError (data "err_code") .unclear
  else .unclear

def weChatQuerySituation : WeChatReply → Situation
  | .unreachable _ => .noAnswer
  | .http statusCode data signValid =>
    if weChatAnswers statusCode data signValid then weChatQueryStates data
    else .noAnswer

def alipayChargeSituation : AlipayReply → Situation
  | .thrown error =>
    if error.code = some "ACQ.USER_PAYING" then .inProgress else .noAnswer
  | .answered data signed =>
    if signed = false then .noAnswer
    else if data "code" = some "10000" then .paid
    else if data "code" = some "10003" then .inProgress
    else if data "code" = some "20000" ∨
        data "sub_code" = some "ACQ.SYSTEM_ERROR" then .systemError
    else if data "sub_code" = some "ACQ.TRADE_NOT_EXIST" then .orderNotExist
    else if data "code" = some "40004" ∧ given (data "sub_code") ≠ none then
      .refused
    -- Any other code is an error of the gateway.
    else .noAnswer

/-- What a trade status of Alipay says. -/
def alipayTradeSituation (tradeStatus : Option String) : Situation :=
  if tradeStatus = some "TRADE_SUCCESS" ∨ tradeStatus = some "TRADE_FINISHED"
  then .paid
  else if tradeStatus = some "TRADE_CLOSED" then .reversed
  else .inProgress

def alipayQuerySituation : ValidatedAlipayReply → Situation
  | .thrown _ => .noAnswer
  | .answered data =>
    if data "code" = some "10000" then
      alipayTradeSituation (data "trade_status")
    else if data "code" = some "20000" ∨
        data "sub_code" = some "ACQ.SYSTEM_ERROR" then .systemError
    else if data "sub_code" = some "ACQ.TRADE_NOT_EXIST" then .orderNotExist
    else .unclear

inductive PaymentCodeAnswer where
  | weChatCharge (reply : WeChatReply)
  | weChatQuery (reply : WeChatReply) (providerTradeNo : Option String)
  | alipayCharge (reply : AlipayReply)
  | alipayQuery
      (reply : ValidatedAlipayReply)
      (providerTradeNo : Option String)

namespace PaymentCodeAnswer

def call : PaymentCodeAnswer → ProviderCall
  | weChatCharge reply => WeChatPayProvider.chargePaymentCode reply
  | weChatQuery reply providerTradeNo =>
    WeChatPayProvider.queryPaymentCode reply providerTradeNo
  | alipayCharge reply => AlipayProvider.chargePaymentCode reply
  | alipayQuery reply providerTradeNo =>
    AlipayProvider.queryPaymentCode reply providerTradeNo

def situation : PaymentCodeAnswer → Situation
  | weChatCharge reply => weChatChargeSituation reply
  | weChatQuery reply _ => weChatQuerySituation reply
  | alipayCharge reply => alipayChargeSituation reply
  | alipayQuery reply _ => alipayQuerySituation reply

/-- What the recovery does with the answer. -/
def recovery (shouldReverse : Bool) (answer : PaymentCodeAnswer) :
    RecoveryAction :=
  match answer with
  | weChatCharge _ | alipayCharge _ => recoverCharge answer.call
  | weChatQuery _ _ | alipayQuery _ _ =>
    recoverQuery shouldReverse answer.call

end PaymentCodeAnswer

/-- The answer is taken for what it states, and no more. -/
structure RightlyInterpreted (answer : PaymentCodeAnswer) : Prop where
  classified : callClass answer.call = answer.situation.answerClass
  deferred : answer.situation.answerClass = .undecided →
    ∀ shouldReverse, ¬ (answer.recovery shouldReverse).IsFinal

/-- The request throws, so that the answer is not mapped at all. -/
def weChatThrows (statusCode : Nat) (data : Fields) (signValid : Bool) : Prop :=
  ¬ (200 ≤ statusCode ∧ statusCode < 300) ∨
    (hasSign data = true ∧ signValid = false) ∨
    (hasSign data = false ∧ data "return_code" = some "SUCCESS")

instance (statusCode : Nat) (data : Fields) (signValid : Bool) :
    Decidable (weChatThrows statusCode data signValid) :=
  inferInstanceAs (Decidable (_ ∨ _ ∨ _))

/-- A refusal that the WeChat business names. -/
def weChatRefuses (data : Fields) : Prop :=
  data "return_code" = some "SUCCESS" ∧ data "result_code" = some "FAIL" ∧
    given (data "err_code") ≠ none ∧ data "err_code" ≠ some "ORDERNOTEXIST"

instance (data : Fields) : Decidable (weChatRefuses data) :=
  inferInstanceAs (Decidable (_ ∧ _ ∧ _ ∧ _))

/-- The answers that the chains of codes are made for. -/
def Foreseen : PaymentCodeAnswer → Prop
  | .weChatCharge (.unreachable _) | .weChatQuery (.unreachable _) _ => True
  | .weChatCharge (.http statusCode data signValid) =>
    weChatThrows statusCode data signValid ∨ weChatMicropaid data ∨
      weChatRefuses data ∨ weChatErrCode data "WECHAT_MICROPAY_FAILED" ∈
        ["USERPAYING", "SYSTEMERROR", "BANKERROR"]
  | .weChatQuery (.http statusCode data signValid) _ =>
    weChatThrows statusCode data signValid ∨
      (data "return_code" = some "SUCCESS" ∧
        data "result_code" = some "SUCCESS") ∨
      weChatErrCode data "WECHAT_ORDERQUERY_FAILED" = "SYSTEMERROR"
  | .alipayCharge (.thrown _) | .alipayQuery (.thrown _) _ => True
  | .alipayCharge (.answered data signed) =>
    if data "code" = some "10000" then signed = true
    else if data "code" = some "10003" ∨ data "code" = some "20000" ∨
        data "sub_code" = some "ACQ.SYSTEM_ERROR" then True
    else
      signed = true ∧ data "code" = some "40004" ∧
        given (data "sub_code") ≠ none ∧
        data "sub_code" ≠ some "ACQ.TRADE_NOT_EXIST"
  | .alipayQuery (.answered data) _ =>
    data "code" = some "10000" ∨ data "code" = some "20000" ∨
      data "sub_code" = some "ACQ.SYSTEM_ERROR" ∨
      data "sub_code" = some "ACQ.TRADE_NOT_EXIST"

instance (answer : PaymentCodeAnswer) : Decidable (Foreseen answer) :=
  match answer with
  | .weChatCharge (.unreachable _) | .weChatQuery (.unreachable _) _ =>
    isTrue trivial
  | .weChatCharge (.http _ _ _) =>
    inferInstanceAs (Decidable (_ ∨ _ ∨ _ ∨ _))
  | .weChatQuery (.http _ _ _) _ => inferInstanceAs (Decidable (_ ∨ _ ∨ _))
  | .alipayCharge (.thrown _) | .alipayQuery (.thrown _) _ => isTrue trivial
  | .alipayCharge (.answered data signed) =>
    inferInstanceAs (Decidable
      (if data "code" = some "10000" then signed = true
      else if data "code" = some "10003" ∨ data "code" = some "20000" ∨
          data "sub_code" = some "ACQ.SYSTEM_ERROR" then True
      else _ ∧ _ ∧ _ ∧ _))
  | .alipayQuery (.answered _) _ =>
    inferInstanceAs (Decidable (_ ∨ _ ∨ _ ∨ _))

theorem recoverCharge_undecided
    {call : ProviderCall}
    (undecided : callClass call = .undecided) :
    ¬ (recoverCharge call).IsFinal := by
  cases call with
  | error message => exact not_false
  | ok result =>
    simp only [callClass, PaymentCodeStatus.answerClass] at undecided
    cases status : result.status <;>
      simp_all [recoverCharge, RecoveryAction.IsFinal]

theorem recoverQuery_undecided
    {call : ProviderCall}
    (undecided : callClass call = .undecided)
    (shouldReverse : Bool) :
    ¬ (recoverQuery shouldReverse call).IsFinal := by
  cases call with
  | error message => exact not_false
  | ok result =>
    simp only [callClass, PaymentCodeStatus.answerClass] at undecided
    cases status : result.status <;> cases shouldReverse <;>
      simp_all [recoverQuery, RecoveryAction.IsFinal]

theorem rightlyInterpreted_iff_classified (answer : PaymentCodeAnswer) :
    RightlyInterpreted answer ↔
      callClass answer.call = answer.situation.answerClass := by
  constructor
  · intro right
    exact right.classified
  · intro classified
    refine ⟨classified, fun undecided shouldReverse => ?_⟩
    have stays : callClass answer.call = .undecided :=
      classified.trans undecided
    cases answer with
    | weChatCharge reply | alipayCharge reply =>
      exact recoverCharge_undecided stays
    | weChatQuery reply providerTradeNo | alipayQuery reply providerTradeNo =>
      exact recoverQuery_undecided stays shouldReverse

section WeChat

variable {statusCode : Nat} {data : Fields} {signValid : Bool}

theorem requestWechatV2_throws
    (throws : weChatThrows statusCode data signValid) :
    ∃ message,
      requestWechatV2 (.http statusCode data signValid) = .error message := by
  simp only [requestWechatV2]
  split_ifs with code invalid missing
  · exact ⟨_, rfl⟩
  · exact ⟨_, rfl⟩
  · exact ⟨_, rfl⟩
  · rcases throws with outside | unverified | unsigned
    · exact absurd (by omega) code
    · exact absurd unverified invalid
    · exact absurd unsigned missing

theorem requestWechatV2_answers
    (answers : ¬ weChatThrows statusCode data signValid) :
    requestWechatV2 (.http statusCode data signValid) = .ok data := by
  simp only [weChatThrows, not_or] at answers
  obtain ⟨inside, verified, signed⟩ := answers
  have code : ¬ (statusCode < 200 ∨ 300 ≤ statusCode) := by omega
  simp only [requestWechatV2, if_neg code, if_neg verified, if_neg signed]

theorem not_weChatAnswers
    (throws : weChatThrows statusCode data signValid) :
    ¬ weChatAnswers statusCode data signValid := by
  rintro ⟨inside, signed, valid, returned⟩
  rcases throws with outside | ⟨-, invalid⟩ | ⟨unsigned, -⟩
  · exact outside inside
  · simp [valid] at invalid
  · simp [signed] at unsigned

theorem weChatAnswers_iff
    (answers : ¬ weChatThrows statusCode data signValid) :
    weChatAnswers statusCode data signValid ↔
      data "return_code" = some "SUCCESS" := by
  simp only [weChatThrows, not_or] at answers
  obtain ⟨inside, verified, signed⟩ := answers
  constructor
  · intro answered
    exact answered.2.2.2
  · intro returned
    have sign : hasSign data = true := by
      by_contra unsigned
      exact signed ⟨by simpa using unsigned, returned⟩
    refine ⟨not_not.mp inside, sign, ?_, returned⟩
    by_contra invalid
    exact verified ⟨sign, by simpa using invalid⟩

theorem mapWeChatMicropay_class :
    (mapWeChatMicropay data).status.answerClass =
      if weChatMicropaid data then .definitive .succeeded
      else if weChatErrCode data "WECHAT_MICROPAY_FAILED" ∈
          ["USERPAYING", "SYSTEMERROR", "BANKERROR"] then .undecided
      else .definitive .failed := by
  simp only [mapWeChatMicropay, List.mem_cons, List.not_mem_nil, or_false]
  split_ifs <;> simp_all [PaymentCodeStatus.answerClass]

theorem mapWeChatOrderQuery_class (providerTradeNo : Option String) :
    (mapWeChatOrderQuery data providerTradeNo).status.answerClass =
      if data "return_code" = some "SUCCESS" ∧
          data "result_code" = some "SUCCESS" then
        (weChatTradeState (data "trade_state")).answerClass
      else if weChatErrCode data "WECHAT_ORDERQUERY_FAILED" = "SYSTEMERROR"
      then .undecided
      else .definitive .failed := by
  simp only [mapWeChatOrderQuery, weChatTradeState]
  cases data "trade_state" with
  | none => split_ifs <;>
      simp_all [PaymentCodeStatus.answerClass, Situation.answerClass]
  | some tradeState => split_ifs <;>
      simp_all [PaymentCodeStatus.answerClass, Situation.answerClass]

theorem weChatErrCode_some
    {code : String}
    (errCode : data "err_code" = some code)
    (fallback : String) :
    weChatErrCode data fallback = code := by
  simp [weChatErrCode, errCode]

theorem weChatErrCode_none
    (errCode : data "err_code" = none)
    (returned : data "return_code" = some "SUCCESS")
    (fallback : String) :
    weChatErrCode data fallback = "SUCCESS" := by
  simp [weChatErrCode, errCode, returned]

theorem weChatBusinessError_charge (errCode : Option String) :
    (weChatBusinessError errCode .refused).answerClass =
      if errCode ∈ [some "USERPAYING", some "SYSTEMERROR", some "BANKERROR",
          some "ORDERNOTEXIST"] ∨ given errCode = none
      then .undecided
      else .definitive .failed := by
  simp only [weChatBusinessError, List.mem_cons, List.not_mem_nil, or_false]
  split_ifs <;> simp_all [Situation.answerClass]

theorem weChatBusinessError_query (errCode : Option String) :
    (weChatBusinessError errCode .unclear).answerClass = .undecided := by
  simp only [weChatBusinessError]
  split_ifs <;> rfl

theorem weChatChargeStates_iff
    (returned : data "return_code" = some "SUCCESS") :
    (mapWeChatMicropay data).status.answerClass =
      (weChatChargeStates data).answerClass ↔
    weChatMicropaid data ∨ weChatRefuses data ∨
      weChatErrCode data "WECHAT_MICROPAY_FAILED" ∈
        ["USERPAYING", "SYSTEMERROR", "BANKERROR"] := by
  rw [mapWeChatMicropay_class]
  simp only [weChatChargeStates, weChatMicropaid, weChatRefuses, returned,
    true_and]
  cases errCode : data "err_code" with
  | none =>
    rw [weChatErrCode_none errCode returned]
    by_cases success : data "result_code" = some "SUCCESS"
    · by_cases micropay : data "trade_type" = some "MICROPAY" <;>
        simp [success, micropay, Situation.answerClass, given]
    · by_cases fail : data "result_code" = some "FAIL" <;>
        simp [success, fail, weChatBusinessError, given,
          Situation.answerClass]
  | some code =>
    rw [weChatErrCode_some errCode]
    by_cases success : data "result_code" = some "SUCCESS"
    · by_cases micropay : data "trade_type" = some "MICROPAY"
      · simp [success, micropay, Situation.answerClass]
      · simp only [success, micropay, Situation.answerClass]
        split_ifs with stays <;> simp_all
    · by_cases fail : data "result_code" = some "FAIL"
      · have states : (if data "result_code" = some "SUCCESS" then
            if data "trade_type" = some "MICROPAY" then Situation.paid
            else .unclear
          else if data "result_code" = some "FAIL" then
            weChatBusinessError (some code) .refused
          else .unclear) = weChatBusinessError (some code) .refused := by
          rw [if_neg success, if_pos fail]
        rw [states, weChatBusinessError_charge]
        simp only [given, fail]
        split_ifs <;> simp_all <;> tauto
      · simp only [success, fail, Situation.answerClass]
        split_ifs with stays <;> simp_all

theorem weChatQueryStates_iff
    (returned : data "return_code" = some "SUCCESS")
    (providerTradeNo : Option String) :
    (mapWeChatOrderQuery data providerTradeNo).status.answerClass =
      (weChatQueryStates data).answerClass ↔
    data "result_code" = some "SUCCESS" ∨
      weChatErrCode data "WECHAT_ORDERQUERY_FAILED" = "SYSTEMERROR" := by
  rw [mapWeChatOrderQuery_class]
  simp only [weChatQueryStates, returned, true_and]
  by_cases success : data "result_code" = some "SUCCESS"
  · simp [success]
  · by_cases fail : data "result_code" = some "FAIL"
    · have refusal := weChatBusinessError_query (data "err_code")
      simp [fail, refusal]
    · simp [success, fail, Situation.answerClass]

theorem weChatCharge_unreturned_iff
    (returned : data "return_code" ≠ some "SUCCESS") :
    (mapWeChatMicropay data).status.answerClass = .undecided ↔
    weChatMicropaid data ∨ weChatRefuses data ∨
      weChatErrCode data "WECHAT_MICROPAY_FAILED" ∈
        ["USERPAYING", "SYSTEMERROR", "BANKERROR"] := by
  rw [mapWeChatMicropay_class]
  simp only [weChatMicropaid, weChatRefuses, returned, false_and, false_or]
  split_ifs with stays <;> simp_all

theorem weChatQuery_unreturned_iff
    (returned : data "return_code" ≠ some "SUCCESS")
    (providerTradeNo : Option String) :
    (mapWeChatOrderQuery data providerTradeNo).status.answerClass =
      .undecided ↔
    weChatErrCode data "WECHAT_ORDERQUERY_FAILED" = "SYSTEMERROR" := by
  rw [mapWeChatOrderQuery_class]
  simp [returned]

theorem weChatCharge_classified_iff :
    callClass (WeChatPayProvider.chargePaymentCode
        (.http statusCode data signValid)) =
      (weChatChargeSituation (.http statusCode data signValid)).answerClass ↔
    Foreseen (.weChatCharge (.http statusCode data signValid)) := by
  simp only [Foreseen, WeChatPayProvider.chargePaymentCode,
    weChatChargeSituation]
  by_cases throws : weChatThrows statusCode data signValid
  · obtain ⟨message, refused⟩ := requestWechatV2_throws throws
    simp [refused, throws, not_weChatAnswers throws, Except.map, callClass,
      Situation.answerClass]
  · rw [requestWechatV2_answers throws]
    simp only [Except.map, callClass, weChatAnswers_iff throws, throws,
      false_or]
    by_cases returned : data "return_code" = some "SUCCESS"
    · rw [if_pos returned]
      exact weChatChargeStates_iff returned
    · rw [if_neg returned]
      exact weChatCharge_unreturned_iff returned

theorem weChatQuery_classified_iff (providerTradeNo : Option String) :
    callClass (WeChatPayProvider.queryPaymentCode
        (.http statusCode data signValid) providerTradeNo) =
      (weChatQuerySituation (.http statusCode data signValid)).answerClass ↔
    Foreseen
      (.weChatQuery (.http statusCode data signValid) providerTradeNo) := by
  simp only [Foreseen, WeChatPayProvider.queryPaymentCode,
    weChatQuerySituation]
  by_cases throws : weChatThrows statusCode data signValid
  · obtain ⟨message, refused⟩ := requestWechatV2_throws throws
    simp [refused, throws, not_weChatAnswers throws, Except.map, callClass,
      Situation.answerClass]
  · rw [requestWechatV2_answers throws]
    simp only [Except.map, callClass, weChatAnswers_iff throws, throws,
      false_or]
    by_cases returned : data "return_code" = some "SUCCESS"
    · rw [if_pos returned, weChatQueryStates_iff returned]
      simp [returned]
    · rw [if_neg returned]
      simpa [returned, Situation.answerClass] using
        weChatQuery_unreturned_iff returned providerTradeNo

end WeChat

section Alipay

variable {data : Fields} {signed : Bool}

theorem alipayCharge_thrown (error : AlipayError) :
    callClass (AlipayProvider.chargePaymentCode (.thrown error)) =
      (alipayChargeSituation (.thrown error)).answerClass := by
  simp only [AlipayProvider.chargePaymentCode, alipayChargeSituation]
  split_ifs <;> rfl

theorem alipayQuery_thrown
    (error : AlipayError)
    (providerTradeNo : Option String) :
    callClass (AlipayProvider.queryPaymentCode (.thrown error)
        providerTradeNo) = .undecided := by
  simp only [AlipayProvider.queryPaymentCode]
  split_ifs <;> rfl

theorem mapAlipayPaymentCodeResponse_class :
    (mapAlipayPaymentCodeResponse data).status.answerClass =
      if data "code" = some "10000" then .definitive .succeeded
      else if data "code" = some "10003" ∨ data "code" = some "20000" ∨
          data "sub_code" = some "ACQ.SYSTEM_ERROR" then .undecided
      else .definitive .failed := by
  simp only [mapAlipayPaymentCodeResponse]
  split_ifs <;> simp_all [PaymentCodeStatus.answerClass]

theorem alipayCharge_classified_iff :
    callClass (AlipayProvider.chargePaymentCode (.answered data signed)) =
      (alipayChargeSituation (.answered data signed)).answerClass ↔
    Foreseen (.alipayCharge (.answered data signed)) := by
  simp only [Foreseen, AlipayProvider.chargePaymentCode, callClass,
    mapAlipayPaymentCodeResponse_class, alipayChargeSituation]
  cases signed <;> split_ifs <;> simp_all [Situation.answerClass]

theorem alipayTradeStatus_class :
    (alipayTradeStatus data).answerClass =
      (alipayTradeSituation (data "trade_status")).answerClass := by
  simp only [alipayTradeStatus, alipayTradeSituation]
  cases data "trade_status" with
  | none => rfl
  | some tradeStatus =>
    simp only [Option.getD_some, Option.some.injEq]
    split_ifs <;> rfl

theorem alipayQuery_classified_iff (providerTradeNo : Option String) :
    callClass (AlipayProvider.queryPaymentCode (.answered data)
        providerTradeNo) =
      (alipayQuerySituation (.answered data)).answerClass ↔
    Foreseen (.alipayQuery (.answered data) providerTradeNo) := by
  simp only [Foreseen, AlipayProvider.queryPaymentCode, callClass,
    mapAlipayPaymentCodeQueryResponse, alipayQuerySituation]
  by_cases code : data "code" = some "10000"
  · simp [code, alipayTradeStatus_class]
  · simp only [if_neg code]
    split_ifs with error missing
    · simp only [PaymentCodeStatus.answerClass, Situation.answerClass, code,
        false_or, true_iff]
      exact or_assoc.mp (.inl error)
    · simp [PaymentCodeStatus.answerClass, Situation.answerClass, missing]
    · simp_all [PaymentCodeStatus.answerClass, Situation.answerClass]

end Alipay

/-- An answer is taken for what it states exactly when the chains of codes
foresee it. -/
theorem rightlyInterpreted_iff (answer : PaymentCodeAnswer) :
    RightlyInterpreted answer ↔ Foreseen answer := by
  rw [rightlyInterpreted_iff_classified]
  cases answer with
  | weChatCharge reply =>
    cases reply with
    | unreachable message => exact iff_of_true rfl trivial
    | http statusCode data signValid => exact weChatCharge_classified_iff
  | weChatQuery reply providerTradeNo =>
    cases reply with
    | unreachable message => exact iff_of_true rfl trivial
    | http statusCode data signValid =>
      exact weChatQuery_classified_iff providerTradeNo
  | alipayCharge reply =>
    cases reply with
    | thrown error => exact iff_of_true (alipayCharge_thrown error) trivial
    | answered data signed => exact alipayCharge_classified_iff
  | alipayQuery reply providerTradeNo =>
    cases reply with
    | thrown error =>
      exact iff_of_true (alipayQuery_thrown error providerTradeNo) trivial
    | answered data => exact alipayQuery_classified_iff providerTradeNo

/-- The answer to a query whose sign the provider could not verify. -/
def signErrorFields (field : String) : Option String :=
  if field = "return_code" then some "FAIL"
  else if field = "return_msg" then some "签名错误"
  else none

def signError : PaymentCodeAnswer :=
  .weChatQuery (.http 200 signErrorFields false) none

/-- An unsigned failure of the communication ends the payment. -/
theorem signError_ends_the_payment :
    signError.situation = .noAnswer ∧
      signError.recovery false = .applyTerminal false ∧
      ¬ RightlyInterpreted signError := by
  refine ⟨by decide, by decide, ?_⟩
  rw [rightlyInterpreted_iff]
  decide

end VendingSystem.Provider
