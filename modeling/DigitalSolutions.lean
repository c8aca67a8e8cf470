import DigitalSolutions.Foundation.Table
import DigitalSolutions.Foundation.Machine
import DigitalSolutions.Foundation.Transaction
import DigitalSolutions.Persistence.Json
import DigitalSolutions.Persistence.Schema
import DigitalSolutions.Persistence.Stores
import DigitalSolutions.Commerce.Settlement
import DigitalSolutions.Entitlements.DurableRights
import DigitalSolutions.Licensing.BillingInterval
import DigitalSolutions.Licensing.EntitlementManagement
import DigitalSolutions.Entitlements.ClaimCodeMaterial
import DigitalSolutions.Entitlements.ClaimCodes
import DigitalSolutions.Entitlements.RefundRevocation
import DigitalSolutions.Payments.SettlementFacts
import DigitalSolutions.Payments.SettlementTransaction
import DigitalSolutions.Payments.WebhookProcessing
import DigitalSolutions.Commerce.Checkout
import DigitalSolutions.Orders.Cancellation
import DigitalSolutions.Scheduler.CommerceLifecycle
import DigitalSolutions.Licensing.CommercialLease
import DigitalSolutions.Orders.Continuation
import DigitalSolutions.Payments.Refunds
import DigitalSolutions.Payments.WebhookIngestion
import DigitalSolutions.Storefront.System
import DigitalSolutions.Commerce.Bookkeeping
import DigitalSolutions.Storefront.CommerceWrites
import DigitalSolutions.Storefront.Lockstep
import DigitalSolutions.Storefront.Reference
import DigitalSolutions.Storefront.AdminCancellation
import DigitalSolutions.Storefront.WebhookIntake
import DigitalSolutions.Storefront.WebhookSafety
import DigitalSolutions.Licensing.Fulfillment
import DigitalSolutions.Storefront.RightsWrites
import DigitalSolutions.Storefront.ExactlyOnce
import DigitalSolutions.Storefront.WebhookTruth
import DigitalSolutions.Foundation.Leases
import DigitalSolutions.Scheduler.Policy
import DigitalSolutions.Scheduler.Store
import DigitalSolutions.Scheduler.Engine
import DigitalSolutions.Scheduler.Steps
import DigitalSolutions.Scheduler.Roles
import DigitalSolutions.Scheduler.Finality
import DigitalSolutions.Scheduler.Lineage
import DigitalSolutions.Scheduler.Retries
import DigitalSolutions.Scheduler.Chains
import DigitalSolutions.Scheduler.Exclusion
import DigitalSolutions.AgentSessions.Directory
import DigitalSolutions.AgentSessions.DeviceAuthorization
import DigitalSolutions.AgentSessions.NativeHandoff
import DigitalSolutions.AgentSessions.AuthorizationMoves
import DigitalSolutions.AgentSessions.Families
import DigitalSolutions.AgentSessions.SessionEffects
import DigitalSolutions.AgentSessions.Outcomes
import DigitalSolutions.AgentSessions.System
import DigitalSolutions.AgentSessions.Motions
import DigitalSolutions.AgentSessions.Soundness
import DigitalSolutions.AgentSessions.FamilySafety
import DigitalSolutions.AgentSessions.HandoffSafety
import DigitalSolutions.Entitlements.ClaimCodeColumns
import DigitalSolutions.Storefront.ClaimCodeLife
import DigitalSolutions.Storefront.PaidOrders
import DigitalSolutions.Licensing.Periods
import DigitalSolutions.Storefront.SubscriptionPeriods
import DigitalSolutions.Foundation.Dependencies
import DigitalSolutions.Composition.Composer
import DigitalSolutions.Composition.Declarations
import DigitalSolutions.Composition.Correctness
import DigitalSolutions.Distribution.UpdateContract
import DigitalSolutions.Foundation.Serializable
import DigitalSolutions.Distribution.UpdateAdmin
import DigitalSolutions.Distribution.UpdateEffects
import DigitalSolutions.Distribution.ReleaseMoves
import DigitalSolutions.Distribution.UpdateRollback
import DigitalSolutions.Distribution.KeyCoverage
import DigitalSolutions.Distribution.OperationRecords
import DigitalSolutions.Accounts.CustomerRecords
import DigitalSolutions.Foundation.Processes
import DigitalSolutions.Accounts.CustomerLifecycle
import DigitalSolutions.Accounts.LegalHold
import DigitalSolutions.Providers.ProviderPlatform
import DigitalSolutions.Providers.ProviderWrites
import DigitalSolutions.Providers.ValidatedCredentials
import DigitalSolutions.Foundation.Tickets
import DigitalSolutions.StorageCleanup.CleanupProcessor
import DigitalSolutions.StorageCleanup.CleanupClaims
import DigitalSolutions.StorageCleanup.CleanupAttempts
import DigitalSolutions.EmailOutbox.OutboxDispatch
import DigitalSolutions.EmailOutbox.OutboxDelivery
import DigitalSolutions.Licensing.SeatLimits
import DigitalSolutions.Privacy.RequestHistory
import DigitalSolutions.Legal.PublishedVersions
import DigitalSolutions.Legal.VersionRuns
import DigitalSolutions.Catalog.ReleasePatch
import DigitalSolutions.Catalog.ReleaseSteps
import DigitalSolutions.Catalog.ReleaseProofs
import DigitalSolutions.Catalog.ReleaseProofRuns
import DigitalSolutions.Catalog.LatestRelease
import DigitalSolutions.Catalog.LatestRuns
import DigitalSolutions.Backups.BackupStore
import DigitalSolutions.Backups.BackupEngine
import DigitalSolutions.Backups.BackupProtocol
import DigitalSolutions.Backups.RestorableArchives
import DigitalSolutions.Backups.BackupSteps
import DigitalSolutions.Backups.OperationQueue
import DigitalSolutions.Backups.QueueRuns
import DigitalSolutions.Licensing.LeaseOperationRows
import DigitalSolutions.Licensing.SigningKeys
import DigitalSolutions.Licensing.SigningKeyRotation
import DigitalSolutions.Observability.Alerts
import DigitalSolutions.Observability.AlertLifecycle
import DigitalSolutions.Offers.OfferRequests
import DigitalSolutions.Offers.OfferRevocation
import DigitalSolutions.Notifications.ReceiptFinality
import DigitalSolutions.Auth.NativeRegistration
import DigitalSolutions.Auth.VerificationCodes
import DigitalSolutions.Auth.NewestCode
import DigitalSolutions.Auth.VerificationRuns
import DigitalSolutions.Storefront.LicenseExtensions
import DigitalSolutions.Licensing.LicenseTransfers
import DigitalSolutions.Licensing.TransferEffects
import DigitalSolutions.Licensing.TransferRuns
import DigitalSolutions.Licensing.RecordingIssuer
import DigitalSolutions.Licensing.TransferHistory
import DigitalSolutions.Storefront.OwnerEvents
import DigitalSolutions.Storefront.ReplayedContents
import DigitalSolutions.Licensing.RenewalEffects
import DigitalSolutions.Licensing.RenewalRuns
import DigitalSolutions.Storefront.RenewalRecovery
import DigitalSolutions.Foundation.Sweeps
import DigitalSolutions.Licensing.RenewalSweeps
import DigitalSolutions.Storefront.RetrySweeps
import DigitalSolutions.Foundation.ByteBuffers
import DigitalSolutions.Foundation.Utf8
import DigitalSolutions.Foundation.ZipArchives
import DigitalSolutions.Catalog.RootEntryPoint
import DigitalSolutions.Catalog.PackageRanges
import DigitalSolutions.Foundation.UrlReferences
import DigitalSolutions.Auth.LocalRedirects
import DigitalSolutions.Foundation.LengthFraming
import DigitalSolutions.SupplyChain.MalwareScan
import DigitalSolutions.SupplyChain.SecurityEvaluation
import DigitalSolutions.Foundation.Recency
import DigitalSolutions.SupplyChain.ReleaseSafety
import DigitalSolutions.Scheduler.Residue
import DigitalSolutions.Storefront.ClaimCodeIssuance
import DigitalSolutions.Foundation.Base64
import DigitalSolutions.Persistence.JsonText
import DigitalSolutions.SupplyChain.SignedManifests
import DigitalSolutions.Foundation.Checks
import DigitalSolutions.SupplyChain.EnvelopeRoundTrip
import DigitalSolutions.Foundation.StableSorting
import DigitalSolutions.Catalog.StandaloneProofs
import DigitalSolutions.Foundation.Doubles
import DigitalSolutions.Offers.Pricing
import DigitalSolutions.Licensing.CalendarMonths
import DigitalSolutions.Observability.AuditRedaction
import DigitalSolutions.Persistence.OwnProperties
import DigitalSolutions.Persistence.CanonicalJson
import DigitalSolutions.Foundation.SealedEnvelopes
import DigitalSolutions.AgentSessions.SealedBundles
import DigitalSolutions.Entitlements.SealedCodes
import DigitalSolutions.Payments.OperationalOrders
import DigitalSolutions.Foundation.NewestFirst
import DigitalSolutions.Notifications.ListingExactness
import DigitalSolutions.Foundation.BitGroups
import DigitalSolutions.Auth.MfaSecrets
import DigitalSolutions.Auth.MfaVerification
