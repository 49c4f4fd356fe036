import Mathlib.Algebra.Group.Int.Defs
import Mathlib.Algebra.Group.Nat.Defs
import VendingSystem.Machine

namespace VendingSystem.Daemon

/-!
# The sale-start capability

A call reads the local facts, asks the backend for its payment options and
evaluates both into a snapshot.  When an observation fails, a call that does
not require a fresh one patches the last accepted snapshot instead.  Times are
nanoseconds, and a time that does not parse is `none`.
-/

/-- The codes the daemon writes into its scanner health. -/
inductive ScannerCode where
  | initializing
  | disabled
  | portMissing
  | ready
  | openFailed
  | reconnecting
  | readerStartFailed
  | reconfigureRetry
  | bindingUnavailable
  | bindingAmbiguous
  | discoveryRetry
  | eventStreamLagged
  | bindingClearing
  | stopFailed
  | bindingClearPersistFailed
  | bindingCleared
  | hardwareModelUnsupported
  deriving DecidableEq, Repr

def ScannerCode.text : ScannerCode → String
  | .initializing => "SCANNER_INITIALIZING"
  | .disabled => "SCANNER_DISABLED"
  | .portMissing => "SCANNER_PORT_MISSING"
  | .ready => "SCANNER_READY"
  | .openFailed => "SCANNER_OPEN_FAILED"
  | .reconnecting => "SCANNER_RECONNECTING"
  | .readerStartFailed => "SCANNER_READER_START_FAILED"
  | .reconfigureRetry => "SCANNER_RECONFIGURE_RETRY"
  | .bindingUnavailable => "SCANNER_BINDING_UNAVAILABLE"
  | .bindingAmbiguous => "SCANNER_BINDING_AMBIGUOUS"
  | .discoveryRetry => "SCANNER_DISCOVERY_RETRY"
  | .eventStreamLagged => "SCANNER_EVENT_STREAM_LAGGED"
  | .bindingClearing => "SCANNER_BINDING_CLEARING"
  | .stopFailed => "SCANNER_STOP_FAILED"
  | .bindingClearPersistFailed => "SCANNER_BINDING_CLEAR_PERSIST_FAILED"
  | .bindingCleared => "SCANNER_BINDING_CLEARED"
  | .hardwareModelUnsupported => "HARDWARE_MODEL_UNSUPPORTED"

structure ScannerHealthSnapshot where
  online : Bool
  adapter : String
  code : ScannerCode
  message : String
  updatedAt : Option Int
  deriving DecidableEq, Repr

def paymentCodeSourceSerialText : String := "serial_text"

def scannerReadyStaleAfterSeconds : Int := 30

def paymentCodeScannerUnavailableCustomerMessage : String :=
  "扫码器暂不可用，请选择其他支付方式"

/-- Whether payment codes can be scanned, and the scanner's message. -/
def scannerPaymentReadiness
    (scanner : ScannerHealthSnapshot)
    (now : Int) : Bool × String :=
  if !scanner.online || scanner.adapter != paymentCodeSourceSerialText ||
      scanner.code != .ready then
    (false, paymentCodeScannerUnavailableCustomerMessage)
  else
    match scanner.updatedAt with
    | none => (false, paymentCodeScannerUnavailableCustomerMessage)
    | some updatedAt =>
      if now - updatedAt > scannerReadyStaleAfterSeconds * 10 ^ 9 then
        (false, paymentCodeScannerUnavailableCustomerMessage)
      else
        (true, scanner.message)

structure PaymentCapability where
  qrCodeEnabled : Bool
  paymentCodeEnabled : Bool
  deriving DecidableEq, Repr

def paymentMethodAllowedByProfile
    (method : String)
    (profile : PaymentCapability) : Bool :=
  match method with
  | "qr_code" => profile.qrCodeEnabled
  | "payment_code" => profile.paymentCodeEnabled
  | "mock" => true
  | _ => false

structure HardwareTopologyReadiness where
  ready : Bool
  code : String
  message : String
  deriving DecidableEq, Repr

structure CapabilityHardware where
  online : Bool
  message : String
  deriving DecidableEq, Repr

structure CapabilitySaleItem where
  slotSalesState : String
  saleableStock : Int
  deriving DecidableEq, Repr

/-- The local facts at a call, and its time. -/
structure CapabilityFacts where
  profile : PaymentCapability
  topology : HardwareTopologyReadiness
  hardware : CapabilityHardware
  wholeMachineLocked : Bool
  saleView : List CapabilitySaleItem
  mqttConnected : Bool
  scanner : ScannerHealthSnapshot
  now : Int
  deriving DecidableEq, Repr

structure BackendPaymentOption where
  optionKey : String
  providerCode : String
  method : String
  displayName : String
  description : String
  icon : String
  recommended : Bool
  disabled : Bool
  disabledReason : Option String
  deriving DecidableEq, Repr

structure BackendPaymentOptions where
  options : List BackendPaymentOption
  defaultOptionKey : Option String
  defaultProviderCode : Option String
  deriving DecidableEq, Repr

structure SaleStartCapabilityObservation where
  profile : PaymentCapability
  topology : HardwareTopologyReadiness
  hardware : CapabilityHardware
  wholeMachineLocked : Bool
  hasSaleableSlot : Bool
  mqttConnected : Bool
  scannerReady : Bool
  scannerCode : ScannerCode
  scannerMessage : String
  platformDefaultOptionKey : Option String
  platformDefaultProviderCode : Option String
  paymentOptions : List BackendPaymentOption
  deriving DecidableEq, Repr

def CapabilityFacts.hasSaleableSlot (facts : CapabilityFacts) : Bool :=
  facts.saleView.any fun item =>
    item.slotSalesState == "sale_ready" && decide (item.saleableStock > 0)

def CapabilityFacts.scannerReady (facts : CapabilityFacts) : Bool :=
  (scannerPaymentReadiness facts.scanner facts.now).1

def CapabilityFacts.scannerMessage (facts : CapabilityFacts) : String :=
  (scannerPaymentReadiness facts.scanner facts.now).2

/-- The observation of the facts with the backend's payment options. -/
def CapabilityFacts.observed
    (facts : CapabilityFacts)
    (payment : BackendPaymentOptions) : SaleStartCapabilityObservation where
  profile := facts.profile
  topology := facts.topology
  hardware := facts.hardware
  wholeMachineLocked := facts.wholeMachineLocked
  hasSaleableSlot := facts.hasSaleableSlot
  mqttConnected := facts.mqttConnected
  scannerReady := facts.scannerReady
  scannerCode := facts.scanner.code
  scannerMessage := facts.scannerMessage
  platformDefaultOptionKey := payment.defaultOptionKey
  platformDefaultProviderCode := payment.defaultProviderCode
  paymentOptions := payment.options

def observeSaleStartCapability
    (facts : CapabilityFacts)
    (reading : Except String BackendPaymentOptions) :
    Except String SaleStartCapabilityObservation :=
  match reading with
  | .error error => .error error
  | .ok payment => .ok (facts.observed payment)

/-- A blocker or a degradation. -/
structure CapabilityReason where
  code : String
  component : String
  message : String
  deriving DecidableEq, Repr

structure CapabilityPaymentOption where
  optionKey : String
  providerCode : String
  method : String
  displayName : String
  description : String
  icon : String
  recommended : Bool
  ready : Bool
  disabledReason : Option String
  deriving DecidableEq, Repr

structure CapabilityPaymentOptions where
  ready : Bool
  defaultOptionKey : Option String
  defaultProviderCode : Option String
  options : List CapabilityPaymentOption
  deriving DecidableEq, Repr

structure SaleStartCapabilitySnapshot where
  generation : String
  revision : Nat
  observedAt : Int
  canStartSale : Bool
  blockers : List CapabilityReason
  degradations : List CapabilityReason
  paymentOptions : CapabilityPaymentOptions
  deriving DecidableEq, Repr

def mqttUnavailable : CapabilityReason where
  code := "MQTT_UNAVAILABLE"
  component := "sync"
  message := "network-authorized sale synchronization is unavailable"

def noPaymentOptions : CapabilityReason where
  code := "NO_PAYMENT_OPTIONS"
  component := "payment_options"
  message := "no profile-supported payment option is ready"

def capabilityStale : String := "CAPABILITY_STALE"

/-- The option of a key that is ready, else the first option that is. -/
def defaultOption
    (key : Option String)
    (options : List CapabilityPaymentOption) :
    Option CapabilityPaymentOption :=
  (key.bind fun key =>
      options.find? fun option => option.optionKey == key && option.ready).or
    (options.find? fun option => option.ready)

namespace SaleStartCapabilityObservation

variable (observation : SaleStartCapabilityObservation)

def scannerBlocked (option : BackendPaymentOption) : Bool :=
  option.method == "payment_code" && !observation.scannerReady

/-- A payment option as a snapshot offers it. -/
def offered (option : BackendPaymentOption) : CapabilityPaymentOption where
  optionKey := option.optionKey
  providerCode := option.providerCode
  method := option.method
  displayName := option.displayName
  description := option.description
  icon := option.icon
  recommended := option.recommended
  ready := !option.disabled && !observation.scannerBlocked option
  disabledReason :=
    if observation.scannerBlocked option then
      some observation.scannerMessage
    else
      option.disabledReason

def options : List CapabilityPaymentOption :=
  (observation.paymentOptions.filter fun option =>
    paymentMethodAllowedByProfile option.method observation.profile).map
      observation.offered

def paymentReady : Bool :=
  observation.options.any fun option => option.ready

def blockers : List CapabilityReason :=
  (if !observation.topology.ready then
    [⟨observation.topology.code, "hardware_slot_topology",
      observation.topology.message⟩] else []) ++
  (if !observation.hardware.online then
    [⟨"LOWER_CONTROLLER_UNAVAILABLE", "hardware",
      observation.hardware.message⟩] else []) ++
  (if observation.wholeMachineLocked then
    [⟨"WHOLE_MACHINE_LOCKED", "hardware",
      "lower controller recovery is required"⟩] else []) ++
  (if !observation.hasSaleableSlot then
    [⟨"NO_SALEABLE_SLOTS", "stock",
      "no active planogram slot has saleable stock"⟩] else []) ++
  (if !observation.mqttConnected then [mqttUnavailable] else []) ++
  (if !observation.paymentReady then [noPaymentOptions] else [])

def degradations : List CapabilityReason :=
  if (observation.options.any fun option =>
        option.method == "payment_code") &&
      !observation.scannerReady && observation.paymentReady then
    [⟨observation.scannerCode.text, "scanner", observation.scannerMessage⟩]
  else
    []

end SaleStartCapabilityObservation

def evaluateSaleStartCapability
    (observation : SaleStartCapabilityObservation)
    (generation : String)
    (revision : Nat)
    (observedAt : Int) : SaleStartCapabilitySnapshot :=
  let default :=
    defaultOption observation.platformDefaultOptionKey observation.options
  { generation, revision, observedAt
    canStartSale := observation.blockers.isEmpty
    blockers := observation.blockers
    degradations := observation.degradations
    paymentOptions :=
      { ready := observation.paymentReady
        defaultOptionKey := default.map fun option => option.optionKey
        defaultProviderCode :=
          (default.map fun option => option.providerCode).or
            observation.platformDefaultProviderCode
        options := observation.options } }

/-- A reason that is added unless one of its code is there. -/
def addReason
    (reason : CapabilityReason)
    (reasons : List CapabilityReason) : List CapabilityReason :=
  if reasons.any fun other => other.code == reason.code then reasons
  else reasons ++ [reason]

/-- An option once the scanner is not ready. -/
def CapabilityPaymentOption.withoutScanner
    (option : CapabilityPaymentOption)
    (message : String) : CapabilityPaymentOption :=
  if option.method == "payment_code" then
    { option with ready := false, disabledReason := some message }
  else
    option

namespace SaleStartCapabilitySnapshot

/-- The last accepted snapshot, marked with the error that made it stale. -/
def markStale
    (snapshot : SaleStartCapabilitySnapshot)
    (error : String) : SaleStartCapabilitySnapshot :=
  { snapshot with
    degradations :=
      (snapshot.degradations.filter fun reason =>
        reason.code != capabilityStale) ++
      [⟨capabilityStale, "sale_start_capability", error⟩] }

def applyMqtt
    (facts : CapabilityFacts)
    (snapshot : SaleStartCapabilitySnapshot) : SaleStartCapabilitySnapshot :=
  if facts.mqttConnected then snapshot
  else { snapshot with blockers := addReason mqttUnavailable snapshot.blockers }

def applyScanner
    (facts : CapabilityFacts)
    (snapshot : SaleStartCapabilitySnapshot) : SaleStartCapabilitySnapshot :=
  if facts.scannerReady then snapshot
  else
    let options := snapshot.paymentOptions.options.map fun option =>
      option.withoutScanner facts.scannerMessage
    let kept := snapshot.degradations.filter fun reason =>
      reason.component != "scanner"
    { snapshot with
      degradations :=
        if options.any fun option => option.method == "payment_code" then
          kept ++ [⟨facts.scanner.code.text, "scanner", facts.scannerMessage⟩]
        else kept
      paymentOptions := { snapshot.paymentOptions with options } }

/-- Payment readiness, the default key and the start of a patched snapshot. -/
def applyPaymentReadiness
    (snapshot : SaleStartCapabilitySnapshot) : SaleStartCapabilitySnapshot :=
  let payment := snapshot.paymentOptions
  let paymentReady := payment.options.any fun option => option.ready
  let blockers :=
    if paymentReady then snapshot.blockers
    else addReason noPaymentOptions snapshot.blockers
  { snapshot with
    canStartSale := blockers.isEmpty
    blockers
    paymentOptions :=
      { payment with
        ready := paymentReady
        -- The provider of the default stays that of the old default.
        defaultOptionKey :=
          (defaultOption payment.defaultOptionKey payment.options).map
            fun option => option.optionKey } }

end SaleStartCapabilitySnapshot

def applyFailClosedCachedFacts
    (facts : CapabilityFacts)
    (snapshot : SaleStartCapabilitySnapshot) : SaleStartCapabilitySnapshot :=
  ((snapshot.applyMqtt facts).applyScanner facts).applyPaymentReadiness

/-- What a fingerprint serializes. -/
structure CapabilityFingerprint where
  canStartSale : Bool
  blockers : List CapabilityReason
  degradations : List CapabilityReason
  paymentOptions : CapabilityPaymentOptions
  deriving DecidableEq, Repr

def capabilityFingerprint
    (snapshot : SaleStartCapabilitySnapshot) : CapabilityFingerprint where
  canStartSale := snapshot.canStartSale
  blockers := snapshot.blockers
  degradations := snapshot.degradations
  paymentOptions := snapshot.paymentOptions

structure SaleStartCapabilityState where
  revision : Nat
  fingerprint : Option CapabilityFingerprint
  lastAccepted : Option SaleStartCapabilitySnapshot
  deriving DecidableEq, Repr

def SaleStartCapabilityState.initial : SaleStartCapabilityState where
  revision := 0
  fingerprint := none
  lastAccepted := none

structure SaleStartCapabilityChanged where
  generation : String
  revision : Nat
  deriving DecidableEq, Repr

/-- One call: the facts it finds and what the backend answers. -/
structure CapabilityCall where
  facts : CapabilityFacts
  reading : Except String BackendPaymentOptions
  requireFreshObservation : Bool

/-- The answer to a call, the state after it and the event it sends. -/
structure CapabilityOutcome where
  answer : Except String SaleStartCapabilitySnapshot
  state : SaleStartCapabilityState
  changed : Option SaleStartCapabilityChanged

def maximumRevision : Nat := 2 ^ 64 - 1

def saturatingSucc (revision : Nat) : Nat :=
  min (revision + 1) maximumRevision

namespace SaleStartCapabilityState

variable (state : SaleStartCapabilityState)

/-- The snapshot of a call before it gets its revision. -/
def provisional
    (generation : String)
    (call : CapabilityCall) : Except String SaleStartCapabilitySnapshot :=
  match observeSaleStartCapability call.facts call.reading with
  | .ok observation =>
    .ok (evaluateSaleStartCapability observation generation 1
      call.facts.now)
  | .error error =>
    if call.requireFreshObservation then .error error
    else
      match state.lastAccepted with
      | none => .error error
      | some accepted =>
        .ok (applyFailClosedCachedFacts call.facts
          (accepted.markStale error))

def isChangedBy (snapshot : SaleStartCapabilitySnapshot) : Bool :=
  state.fingerprint != some (capabilityFingerprint snapshot)

def nextRevision (snapshot : SaleStartCapabilitySnapshot) : Nat :=
  if state.isChangedBy snapshot then max (saturatingSucc state.revision) 1
  else if state.revision = 0 then 1
  else state.revision

/-- The outcome of a call whose snapshot is ready. -/
def published (provisional : SaleStartCapabilitySnapshot) : CapabilityOutcome :=
  let revision := state.nextRevision provisional
  let snapshot := { provisional with revision }
  let isStale := snapshot.degradations.any fun reason =>
    reason.code == capabilityStale
  { answer := .ok snapshot
    state :=
      { revision
        fingerprint := some (capabilityFingerprint provisional)
        lastAccepted := if isStale then state.lastAccepted else some snapshot }
    changed :=
      if state.isChangedBy provisional then
        some { generation := snapshot.generation, revision }
      else none }

end SaleStartCapabilityState

def saleStartCapabilitySnapshot
    (generation : String)
    (state : SaleStartCapabilityState)
    (call : CapabilityCall) : CapabilityOutcome :=
  match state.provisional generation call with
  | .error error => { answer := .error error, state, changed := none }
  | .ok snapshot => state.published snapshot

end VendingSystem.Daemon
