import FacilitatorX402.Proof.VerifyReplay
import FacilitatorX402.Proof.SettlementPermanence
import FacilitatorX402.Proof.SettleLock
import FacilitatorX402.Proof.SettleFunds
import FacilitatorX402.Proof.RebuiltAuthorization
import FacilitatorX402.Proof.ServiceLock
import FacilitatorX402.Proof.ServicePayment
import FacilitatorX402.Proof.NonceClaim
import FacilitatorX402.Proof.RejectedVerify
import FacilitatorX402.Proof.ForgedVerify
import FacilitatorX402.Proof.LockRelease
import FacilitatorX402.Proof.PaymentGate
import FacilitatorX402.Proof.OutcomeEvents
import FacilitatorX402.Proof.TerminalStatus
import FacilitatorX402.Http.DeviceAuth
import FacilitatorX402.Http.SellerAuth
import FacilitatorX402.Http.Sellers
import FacilitatorX402.Http.WebhookSubscriptions
import FacilitatorX402.Proof.Authenticators
import FacilitatorX402.Proof.Credentials
import FacilitatorX402.Proof.DeviceFlow
import FacilitatorX402.Proof.WebhookDelivery
import FacilitatorX402.Proof.StreamEvents
import FacilitatorX402.Proof.WireErrors
import FacilitatorX402.Proof.LostMessages
import FacilitatorX402.Proof.ReceiptReadback
import FacilitatorX402.Proof.ReferralLedger
import FacilitatorX402.Proof.DurableReplay
import FacilitatorX402.Proof.FeeLaws
import FacilitatorX402.Proof.Broadcasts
import FacilitatorX402.Proof.Acceptance
import FacilitatorX402.Proof.ErrorCodes
import FacilitatorX402.Proof.RegistryLookups
import FacilitatorX402.Proof.WorkerRedelivery
import FacilitatorX402.Proof.SettleReplies
import FacilitatorX402.Proof.BreakerAutomaton
import FacilitatorX402.Proof.HalfOpenProbes
import FacilitatorX402.Proof.RpcSends
import FacilitatorX402.Proof.WebhookRegistration
import FacilitatorX402.Proof.WebhookFanOut
import FacilitatorX402.Proof.SignatureCopies
import FacilitatorX402.Proof.RotationOverlap
import FacilitatorX402.Proof.AddressPatterns
import FacilitatorX402.Proof.WebhookUrls
import FacilitatorX402.Proof.SecretEnvelope
import FacilitatorX402.Proof.SellerVolume
import FacilitatorX402.Proof.RetriesWhileOpen
import FacilitatorX402.Proof.FailoverOrder
import FacilitatorX402.Proof.ListenerMap
import FacilitatorX402.Proof.FeedCursor
import FacilitatorX402.Proof.KeyInvalidation
import FacilitatorX402.Proof.SellerLimitIsolation
import FacilitatorX402.Proof.LimiterLockout
import FacilitatorX402.Proof.RouteLimitHeaders
import FacilitatorX402.Proof.SignatureSplit
import FacilitatorX402.Proof.PayloadHash
import FacilitatorX402.Proof.ClientRetries
import FacilitatorX402.Proof.ReceiptPolling
import FacilitatorX402.Proof.AssetAdministration
import FacilitatorX402.Proof.JsonRoundTrip
import FacilitatorX402.Proof.StreamText
import FacilitatorX402.Proof.MessageDelivery
import FacilitatorX402.Proof.BookEvidence
import FacilitatorX402.Proof.WebhookIsolation
import FacilitatorX402.Proof.WebhookTrail
import FacilitatorX402.Proof.ConfirmationTrail
import FacilitatorX402.Proof.HeaderTransport
import FacilitatorX402.Proof.TransferTrail
