import VendingSystem.PlatformInventory

namespace VendingSystem.Platform

/-!
# Orders

What an order request must look like, the local draft that creates the order
with its lines, reservations and payment in one transaction, and the order
states that are projected from the lines.
-/

def projectOrderStatus
    (paymentState : OrderPaymentState)
    (fulfillmentState : OrderFulfillmentState) : OrderStatus :=
  match paymentState with
  | .paymentUnknown => .manualHandling
  | .paymentExpired => .paymentExpired
  | .paymentFailed
  | .canceled => .canceled
  | .refundPending
  | .partialRefundPending => .refundPending
  | .manualHandling => .manualHandling
  | .refunded
  | .partialRefunded => .refunded
  | .paid
  | .awaitingPayment =>
    match fulfillmentState with
    | .manualHandling => .manualHandling
    | .dispenseFailed
    | .partialDispensed => .dispenseFailed
    | .dispensed => .fulfilled
    | .dispensing => .dispensing
    | .awaitingFulfillment
    | .canceled =>
      if paymentState = .paid then .paid else .pendingPayment

def Db.linesOfOrder (db : Db) (orderId : OrderId) : List OrderItem :=
  db.orderItems.rows.filter fun line => line.orderId = orderId

/-- The number of lines with a fulfillment status. -/
def countLines
    (lines : List OrderItem)
    (status : OrderLineFulfillmentStatus) : Nat :=
  (lines.filter fun line => line.fulfillmentStatus = status).length

/-- The fulfillment state that the stock repository projects. -/
def stockFulfillmentState (lines : List OrderItem) : OrderFulfillmentState :=
  let dispensed := countLines lines .dispensed
  let failed := countLines lines .dispenseFailed
  if countLines lines .manualHandling > 0 then .manualHandling
  else if dispensed = lines.length then .dispensed
  else if failed = lines.length then .dispenseFailed
  else if dispensed > 0 && failed > 0 then .partialDispensed
  else if failed > 0 then .dispenseFailed
  else .dispensing

/-- The vending service projects an order with a failed line as dispensing. -/
def vendingFulfillmentState (lines : List OrderItem) : OrderFulfillmentState :=
  let dispensed := countLines lines .dispensed
  let failed := countLines lines .dispenseFailed
  if countLines lines .manualHandling > 0 then .manualHandling
  else if dispensed = lines.length then .dispensed
  else if failed = lines.length then .dispenseFailed
  else if dispensed > 0 && failed > 0 then .partialDispensed
  else .dispensing

/-- The database with the states of one order changed. -/
def Db.setOrderStates
    (db : Db)
    (orderId : OrderId)
    (status : OrderStatus)
    (paymentState : OrderPaymentState)
    (fulfillmentState : OrderFulfillmentState) : Db :=
  { db with
    orders := db.orders.modify orderId fun order =>
      { order with status, paymentState, fulfillmentState } }

/-- The database with the payment side of one order changed. -/
def Db.setOrderPayment
    (db : Db)
    (orderId : OrderId)
    (status : OrderStatus)
    (paymentState : OrderPaymentState) : Db :=
  { db with
    orders := db.orders.modify orderId fun order =>
      { order with status, paymentState } }

/-- The database with the status of one payment changed. -/
def Db.setPaymentStatus
    (db : Db)
    (paymentId : PaymentId)
    (status : PaymentStatus) : Db :=
  { db with
    payments := db.payments.modify paymentId fun payment =>
      { payment with status } }

/-- Project the order's states from its lines, when they change them. -/
def syncOrderFulfillmentStateFromLines
    (project : List OrderItem → OrderFulfillmentState)
    (orderId : OrderId) : DrizzleTransaction Unit := do
  let db ← get
  let lines := db.linesOfOrder orderId
  if lines = [] then pure ()
  else
    match db.orders.find? orderId with
    | none => pure ()
    | some order =>
      if order.fulfillmentState = project lines then pure ()
      else
        modify fun db =>
          db.setOrderStates orderId
            (projectOrderStatus order.paymentState (project lines))
            order.paymentState (project lines)

/-- Only orders, their lines, payments and refunds differ. -/
structure OrderSideOnly (before after : Db) : Prop where
  machines : after.machines = before.machines
  machineSlots : after.machineSlots = before.machineSlots
  inventories : after.inventories = before.inventories
  inventoryReservations :
    after.inventoryReservations = before.inventoryReservations
  inventoryMovements : after.inventoryMovements = before.inventoryMovements
  vendingCommands : after.vendingCommands = before.vendingCommands
  machineRawStockMovements :
    after.machineRawStockMovements = before.machineRawStockMovements

namespace OrderSideOnly

theorem refl (db : Db) : OrderSideOnly db db :=
  ⟨rfl, rfl, rfl, rfl, rfl, rfl, rfl⟩

theorem trans
    {first middle last : Db}
    (leading : OrderSideOnly first middle)
    (trailing : OrderSideOnly middle last) :
    OrderSideOnly first last where
  machines := trailing.machines.trans leading.machines
  machineSlots := trailing.machineSlots.trans leading.machineSlots
  inventories := trailing.inventories.trans leading.inventories
  inventoryReservations :=
    trailing.inventoryReservations.trans leading.inventoryReservations
  inventoryMovements :=
    trailing.inventoryMovements.trans leading.inventoryMovements
  vendingCommands := trailing.vendingCommands.trans leading.vendingCommands
  machineRawStockMovements :=
    trailing.machineRawStockMovements.trans leading.machineRawStockMovements

instance : IsPreorder Db OrderSideOnly where
  refl := refl
  trans _ _ _ := trans

theorem setOrderStates
    (db : Db)
    (orderId : OrderId)
    (status : OrderStatus)
    (paymentState : OrderPaymentState)
    (fulfillmentState : OrderFulfillmentState) :
    OrderSideOnly db
      (db.setOrderStates orderId status paymentState fulfillmentState) :=
  ⟨rfl, rfl, rfl, rfl, rfl, rfl, rfl⟩

theorem setOrderPayment
    (db : Db)
    (orderId : OrderId)
    (status : OrderStatus)
    (paymentState : OrderPaymentState) :
    OrderSideOnly db (db.setOrderPayment orderId status paymentState) :=
  ⟨rfl, rfl, rfl, rfl, rfl, rfl, rfl⟩

theorem setPaymentStatus
    (db : Db)
    (paymentId : PaymentId)
    (status : PaymentStatus) :
    OrderSideOnly db (db.setPaymentStatus paymentId status) :=
  ⟨rfl, rfl, rfl, rfl, rfl, rfl, rfl⟩

theorem sync
    (project : List OrderItem → OrderFulfillmentState)
    (orderId : OrderId) :
    Transaction.Within OrderSideOnly
      (syncOrderFulfillmentStateFromLines project orderId) := by
  apply Transaction.Within.bind Transaction.Within.get
  intro db
  dsimp only
  split
  · exact Transaction.Within.pure _
  · split
    · exact Transaction.Within.pure _
    · split
      · exact Transaction.Within.pure _
      · exact Transaction.Within.modify
          (fun later => setOrderStates later _ _ _ _)

end OrderSideOnly

structure MachineOrderItemInput where
  inventoryId : InventoryId
  quantity : Nat
  planogramVersion : PlanogramVersionName
  slotId : SlotId
  deriving Repr, DecidableEq

structure CreateMachineOrderInput where
  items : List MachineOrderItemInput
  paymentMethod : PaymentMethod
  paymentProviderCode : Option PaymentProviderCode
  deriving Repr, DecidableEq

/-- A refused field with the message for it. -/
structure SchemaIssue where
  path : String
  message : String
  deriving Repr, DecidableEq

/-- The payment combinations that an order request may name. -/
def paymentSelectionIssue (input : CreateMachineOrderInput) :
    Option SchemaIssue :=
  match input.paymentMethod, input.paymentProviderCode with
  | .mock, none
  | .mock, some .mock => none
  | .mock, some _ =>
    some
      { path := "paymentProviderCode"
        message := "mock payment method can only use mock provider" }
  | .qrCode, some .wechatPay
  | .qrCode, some .alipay => none
  | .qrCode, _ =>
    some
      { path := "paymentProviderCode"
        message :=
          "qr_code payment method requires alipay or wechat_pay provider" }
  | .paymentCode, some _ => none
  | .paymentCode, none =>
    some
      { path := "paymentProviderCode"
        message :=
          "payment_code payment method requires alipay, wechat_pay, or " ++
            "mock provider" }
  | .facePay, _ =>
    some
      { path := "paymentMethod"
        message := "face_pay is not supported by machine order creation" }

/-- One to ten lines of a positive quantity and a payment combination. -/
def createMachineOrderSchema (input : CreateMachineOrderInput) : Bool :=
  1 ≤ input.items.length && input.items.length ≤ 10 &&
    input.items.all (fun item => 0 < item.quantity) &&
    (paymentSelectionIssue input).isNone

structure MachinePaymentSelection where
  providerCode : PaymentProviderCode
  method : PaymentMethod
  deriving Repr, DecidableEq

def resolvePaymentSelection (input : CreateMachineOrderInput) :
    DrizzleTransaction MachinePaymentSelection :=
  match input.paymentMethod, input.paymentProviderCode with
  | .mock, none
  | .mock, some .mock => pure { providerCode := .mock, method := .mock }
  | .mock, some _ =>
    throw (.conflict "mock payment method can only use mock provider")
  | .qrCode, some .wechatPay =>
    pure { providerCode := .wechatPay, method := .qrCode }
  | .qrCode, some .alipay =>
    pure { providerCode := .alipay, method := .qrCode }
  | .paymentCode, some providerCode =>
    pure { providerCode, method := .paymentCode }
  | _, _ =>
    throw (.conflict "Unsupported payment method/provider combination")

/-- What a line of the order is sold from. -/
structure AvailableRow where
  inventoryId : InventoryId
  variantId : VariantId
  productId : ProductId
  unitPriceCents : Nat
  slotId : SlotId
  slotStatus : MachineSlotStatus
  variantStatus : CatalogStatus
  productStatus : CatalogStatus
  deriving Repr, DecidableEq

/-- The joined row of an inventory of the machine. -/
def Db.availableRow
    (db : Db)
    (machineId : MachineId)
    (inventoryId : InventoryId) : Option AvailableRow := do
  let inventory ← db.inventories.find? inventoryId
  if inventory.machineId = machineId then do
    let slot ← db.machineSlots.find? inventory.slotId
    let variant ← db.productVariants.find? inventory.variantId
    let product ← db.products.find? variant.productId
    pure
      { inventoryId
        variantId := variant.id
        productId := product.id
        unitPriceCents := variant.priceCents
        slotId := slot.id
        slotStatus := slot.status
        variantStatus := variant.status
        productStatus := product.status }
  else none

structure ItemDetail extends AvailableRow where
  quantity : Nat
  planogramVersion : PlanogramVersionName
  deriving Repr, DecidableEq

/-- Look up what a requested line is sold from, and check it. -/
def itemDetail
    (machineId : MachineId)
    (item : MachineOrderItemInput) : DrizzleTransaction ItemDetail := do
  let db ← get
  let row ← Transaction.requireSome
    (db.availableRow machineId item.inventoryId)
    (.notFound "Inventory not found")
  Transaction.require (row.slotStatus = .enabled)
    (.conflict "Slot is not available")
  Transaction.require
    (row.variantStatus = .active && row.productStatus = .active)
    (.conflict "Product is not available")
  Transaction.require (item.slotId = row.slotId)
    (.conflict "Machine order line does not match active slot inventory mapping")
  pure
    { toAvailableRow := row
      quantity := item.quantity
      planogramVersion := item.planogramVersion }

/-- The line names a slot of an active, acknowledged planogram. -/
def Db.hasActiveAcknowledgedContext
    (db : Db)
    (machineId : MachineId)
    (item : MachineOrderItemInput) : Bool :=
  db.machinePlanogramVersions.rows.any fun version =>
    version.machineId = machineId &&
      version.planogramVersion = item.planogramVersion &&
      version.status = .active && version.acknowledgedAt.isSome &&
      db.machinePlanogramSlots.rows.any fun slot =>
        slot.machinePlanogramVersionId = version.id &&
          slot.slotId = item.slotId && slot.inventoryId = item.inventoryId

def assertMachineOrderLinePlanogramContext
    (machineId : MachineId)
    (item : MachineOrderItemInput) : DrizzleTransaction Unit := do
  let db ← get
  Transaction.require (db.hasActiveAcknowledgedContext machineId item)
    (.conflict
      "Machine order line planogram context is not active and acknowledged")

/-- The database with one more order line. -/
def Db.addOrderItem
    (db : Db)
    (orderId : OrderId)
    (item : ItemDetail)
    (quantityPositive : 0 < item.quantity) : Db :=
  { db with
    orderItems := db.orderItems.insertNext fun id =>
      { id, orderId, quantityPositive
        variantId := item.variantId
        inventoryId := item.inventoryId
        slotId := item.slotId
        quantity := item.quantity
        unitPriceCents := item.unitPriceCents
        productSnapshot :=
          { productId := some item.productId
            variantId := item.variantId
            inventoryId := item.inventoryId
            planogramVersion := item.planogramVersion
            slotId := item.slotId
            vendingCommandQuantity := item.quantity }
        fulfillmentStatus := .pending
        refundStatus := .notRequired
        refundId := none } }

/-- Insert an order line; its quantity must be positive. -/
def insertOrderItem
    (orderId : OrderId)
    (item : ItemDetail) : DrizzleTransaction OrderItemId := do
  let db ← get
  if positive : 0 < item.quantity then do
    modify fun db => db.addOrderItem orderId item positive
    pure db.orderItems.nextId
  else throw (.checkViolation "order_items_quantity_positive")

/-- Insert an order line and reserve its stock. -/
def createOrderLine
    (orderId : OrderId)
    (paymentExpiresAt : Time)
    (item : ItemDetail) : DrizzleTransaction Unit := do
  let orderItemId ← insertOrderItem orderId item
  reserveForOrder
    { orderId
      orderItemId := some orderItemId
      inventoryId := item.inventoryId
      quantity := item.quantity
      expiresAt := paymentExpiresAt }

structure LocalPaymentDraft where
  orderId : OrderId
  paymentId : PaymentId
  providerCode : PaymentProviderCode
  paymentMethod : PaymentMethod
  expiresAt : Time
  reservations : List (InventoryId × Nat)
  deriving Repr, DecidableEq

/-- Order, lines, reservations and payment are created together or not. -/
def createLocalMachineOrderDraft
    (input : CreateMachineOrderInput)
    (machineId : MachineId)
    (paymentExpiresAt : Time)
    (paymentSelection : MachinePaymentSelection) :
    DrizzleTransaction LocalPaymentDraft := do
  lockMachineForVendingMutation machineId
  lockInventoriesForVendingMutation (input.items.map (·.inventoryId))
  let itemDetails ← input.items.mapM (itemDetail machineId)
  forM input.items (assertMachineOrderLinePlanogramContext machineId)
  let totalAmountCents :=
    (itemDetails.map fun item => item.unitPriceCents * item.quantity).sum
  let db ← get
  let orderId := db.orders.nextId
  modify fun db =>
    { db with
      orders := db.orders.insertNext fun id =>
        { id, machineId, totalAmountCents
          status := .pendingPayment
          paymentState := .awaitingPayment
          fulfillmentState := .awaitingFulfillment
          paymentId := none } }
  forM itemDetails (createOrderLine orderId paymentExpiresAt)
  let db ← get
  let provider ← Transaction.requireSome
    ((db.paymentProviders.find? paymentSelection.providerCode).filter
      PaymentProvider.enabled)
    (.conflict "Payment provider unavailable")
  let paymentId := db.payments.nextId
  modify fun db =>
    { db with
      payments := db.payments.insertNext fun id =>
        { id, orderId
          providerCode := provider.code
          method := paymentSelection.method
          status := .created
          amountCents := totalAmountCents
          providerTradeNo := none
          paymentUrl := none
          expiresAt := some paymentExpiresAt
          failedReason := none
          intentCreationLease := .unclaimed } }
  modify fun db =>
    { db with
      orders := db.orders.modify orderId fun order =>
        { order with paymentId := some paymentId } }
  pure
    { orderId, paymentId
      providerCode := provider.code
      paymentMethod := paymentSelection.method
      expiresAt := paymentExpiresAt
      reservations := input.items.map fun item =>
        (item.inventoryId, item.quantity) }

def createAcceptedOrder
    (input : CreateMachineOrderInput)
    (machineId : MachineId)
    (paymentExpiresAt : Time) : DrizzleTransaction LocalPaymentDraft := do
  Transaction.require (createMachineOrderSchema input)
    (.badRequest "Validation failed")
  let selection ← resolvePaymentSelection input
  createLocalMachineOrderDraft input machineId paymentExpiresAt selection

/-- Machine 1 sells variant 7 from slots 5 and 6, five pieces in each. -/
def twoSlotDb : Db :=
  { Db.empty with
    machines := Table.empty.insertOrIgnore { id := 1 }
    machineSlots :=
      (Table.empty.insertOrIgnore
        { id := 5, machineId := 1, rowNo := 1, cellNo := 1
          status := .enabled, deletedAt := none }).insertOrIgnore
        { id := 6, machineId := 1, rowNo := 1, cellNo := 2
          status := .enabled, deletedAt := none }
    products := Table.empty.insertOrIgnore { id := 8, status := .active }
    productVariants := Table.empty.insertOrIgnore
      { id := 7, productId := 8, priceCents := 300, status := .active }
    machinePlanogramVersions := Table.empty.insertOrIgnore
      { id := 9, machineId := 1, planogramVersion := 1
        status := .active, acknowledgedAt := some 0 }
    machinePlanogramSlots :=
      (Table.empty.insertOrIgnore
        { machinePlanogramVersionId := 9, slotId := 5, capacity := 10
          inventoryId := 50, variantId := 7 }).insertOrIgnore
        { machinePlanogramVersionId := 9, slotId := 6, capacity := 10
          inventoryId := 60, variantId := 7 }
    inventories :=
      (Table.empty.insertOrIgnore
        { id := 50, machineId := 1, slotId := 5, variantId := 7
          onHandQty := 5, reservedQty := 0
          reservedLteOnHand := by decide }).insertOrIgnore
        { id := 60, machineId := 1, slotId := 6, variantId := 7
          onHandQty := 5, reservedQty := 0
          reservedLteOnHand := by decide }
    paymentProviders :=
      ((Table.empty.insertOrIgnore
        { code := .mock, enabled := true }).insertOrIgnore
        { code := .wechatPay, enabled := true }).insertOrIgnore
        { code := .alipay, enabled := true } }

/-- A request for some pieces of slots of that machine. -/
def twoSlotOrder
    (lines : List (SlotId × Nat))
    (paymentMethod : PaymentMethod)
    (paymentProviderCode : PaymentProviderCode) :
    CreateMachineOrderInput where
  items := lines.map fun line =>
    { inventoryId := line.1 * 10
      quantity := line.2
      planogramVersion := 1
      slotId := line.1 }
  paymentMethod := paymentMethod
  paymentProviderCode := some paymentProviderCode

end VendingSystem.Platform
