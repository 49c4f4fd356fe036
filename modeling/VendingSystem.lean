import VendingSystem.Table
import VendingSystem.Machine
import VendingSystem.Transaction
import VendingSystem.Service
import VendingSystem.DaemonStore
import VendingSystem.DaemonStock
import VendingSystem.DaemonDispense
import VendingSystem.DaemonMachine
import VendingSystem.DaemonCommit
import VendingSystem.DaemonLog
import VendingSystem.DaemonAtMostOnce
import VendingSystem.DaemonSafetyHold
import VendingSystem.DaemonAccounting
import VendingSystem.DaemonPlanogram
import VendingSystem.DaemonMaintenance
import VendingSystem.DaemonAttestation
import VendingSystem.DaemonStockSync
import VendingSystem.DaemonStockMachine
import VendingSystem.DaemonProjection
import VendingSystem.DaemonSlotWrites
import VendingSystem.DaemonSlotInvariant
import VendingSystem.DaemonSlotActivation
import VendingSystem.DaemonSlotRuns
import VendingSystem.DaemonMappingSafety
import VendingSystem.DaemonLedger
import VendingSystem.DaemonStockRuntime
import VendingSystem.DaemonAttestationRuns
import VendingSystem.DaemonAttestationConsistency
import VendingSystem.DaemonAttestationLoss
import VendingSystem.PlatformSchema
import VendingSystem.PlatformInventory
import VendingSystem.PlatformOrders
import VendingSystem.PlatformDispatch
import VendingSystem.PlatformRefunds
import VendingSystem.PlatformStock
import VendingSystem.PlatformDispenseResults
import VendingSystem.PlatformConservation
import VendingSystem.PlatformReservationRuns
import VendingSystem.PlatformPayments
import VendingSystem.PlatformPaymentWrites
import VendingSystem.PlatformPaymentTasks
import VendingSystem.DaemonOrderSessions
import VendingSystem.DaemonOrderTasks
import VendingSystem.DaemonOrderFinality
import VendingSystem.DaemonReplay
import VendingSystem.DaemonSnapshotExchange
import VendingSystem.PlatformStockUploads
import VendingSystem.PlatformAppliedMovements
import VendingSystem.Trie
import VendingSystem.Sql
import VendingSystem.SqlAnalysis
import VendingSystem.SqlMigrations
import VendingSystem.SqlMigrationRuns
import VendingSystem.DaemonMigrationTexts
import VendingSystem.DaemonMigrations
import VendingSystem.DaemonMigrationChecks
import VendingSystem.DaemonMigrationRuns
import VendingSystem.DaemonSerialRetransmission
import VendingSystem.PlatformRefundTasks
import VendingSystem.PlatformVendingTasks
import VendingSystem.PlatformOrderStates
import VendingSystem.PlatformOrderWrites
import VendingSystem.PlatformOrderPayments
import VendingSystem.PlatformOrderTasks
import VendingSystem.PlatformOrderStateRuns
import VendingSystem.DaemonLockClearing
import VendingSystem.DaemonLockRuns
import VendingSystem.Text
import VendingSystem.DaemonEnvironmentControl
import VendingSystem.DaemonEnvironmentRuntime
import VendingSystem.DaemonEnvironmentRuns
import VendingSystem.DaemonMqttOutbox
import VendingSystem.DaemonMqttOutboxRuns
import VendingSystem.PlatformMachines
import VendingSystem.PlatformDecommission
import VendingSystem.PlatformDecommissionRuns
import VendingSystem.PlatformMachineClaims
import VendingSystem.PlatformMachineClaimRuns
import VendingSystem.DaemonSaleStart
import VendingSystem.DaemonSaleStartRuns
import VendingSystem.Threads
import VendingSystem.DaemonPaymentCreation
import VendingSystem.DaemonPaymentCreationMoves
import VendingSystem.DaemonPaymentCreationRuns
import VendingSystem.Json
import VendingSystem.UnicodeOrder
import VendingSystem.DecimalText
import VendingSystem.CanonicalJson
import VendingSystem.MqttSigning
import VendingSystem.MqttSigningAgreement
import VendingSystem.DaemonSerialDecoding
import VendingSystem.DaemonSerialProbes
import VendingSystem.DaemonFaultReset
import VendingSystem.ProviderRefundNotifications
import VendingSystem.ProviderPaymentCodes
import VendingSystem.CheckoutStore
import VendingSystem.CheckoutRuns
import VendingSystem.CrashPrograms
import VendingSystem.DaemonClaim
import VendingSystem.DaemonClaimRuns
import VendingSystem.PlatformPaymentNotifications
import VendingSystem.DaemonScanFrames
import VendingSystem.DaemonScanSubmission
import VendingSystem.DaemonScanAttempts
import VendingSystem.DaemonScanRuns
import VendingSystem.CrashFiles
import VendingSystem.SharedPrograms
import VendingSystem.DaemonMediaInterest
import VendingSystem.DaemonMediaEntries
import VendingSystem.DaemonMediaManifest
import VendingSystem.DaemonMediaTransaction
import VendingSystem.DaemonMediaRuns
import VendingSystem.DaemonMediaRecovery
import VendingSystem.DaemonMediaObjects
import VendingSystem.DaemonMediaFiles
import VendingSystem.DaemonMediaFilesSteps
import VendingSystem.DaemonMediaFilesEntries
import VendingSystem.DaemonMediaFilesRuns
import VendingSystem.TerminatedSegments
import VendingSystem.DaemonScanGrammar
import VendingSystem.JsonDocuments
import VendingSystem.DaemonDispenseProgress
import VendingSystem.DaemonDispenseProgressRuns
import VendingSystem.PlatformLineResults
import VendingSystem.PlatformRefundStaging
import VendingSystem.PlatformFulfillmentStates
import VendingSystem.PlatformAutomaticRefunds
import VendingSystem.DaemonOutboxCapacity
import VendingSystem.PlatformStockReconciliationRuns
import VendingSystem.DaemonStockTasks
import VendingSystem.DaemonRefillEffects
import VendingSystem.DaemonRefillSubmissions
import VendingSystem.DaemonRefillRuns
import VendingSystem.EcmaJson
import VendingSystem.EcmaJsonReading
import VendingSystem.UrlForms
import VendingSystem.ProviderRedaction
import VendingSystem.ProviderRedactedSecrets
import VendingSystem.ProviderWechatSigning
import VendingSystem.ReflectedCrc
import VendingSystem.EcmaBitwise
import VendingSystem.PlatformPngHeader
import VendingSystem.PlatformPngChunks
import VendingSystem.PlatformPngGrammar
import VendingSystem.AudioCoordinator
import VendingSystem.AudioInvariant
import VendingSystem.AudioRuns
import VendingSystem.Budgets
import VendingSystem.PlatformPaymentCodeWorker
import VendingSystem.PlatformPaymentCodeSteps
import VendingSystem.PlatformPaymentCodeRuns
