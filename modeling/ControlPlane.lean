import ControlPlane.Proofs.CustodyRuns
import ControlPlane.Proofs.CounterSigning
import ControlPlane.Lib.Sequential
import ControlPlane.Lib.Turns
import ControlPlane.Services.CounterSigning
import ControlPlane.Lib.IsoTime
import ControlPlane.Proofs.TamperEvidence
import ControlPlane.Proofs.ServedProofs
import ControlPlane.Proofs.CheckpointEvidence
import ControlPlane.Services.Issuance
import ControlPlane.Services.Evidence
import ControlPlane.Services.Approvals
import ControlPlane.Proofs.Escrow
import ControlPlane.Proofs.EscrowStates
import ControlPlane.Proofs.EscrowTurns
import ControlPlane.Proofs.EscrowHistory
import ControlPlane.Proofs.EscrowMirror
import ControlPlane.Proofs.EscrowBinding
import ControlPlane.Services.Receipts
import ControlPlane.Services.Signing
import ControlPlane.Services.Ed25519Signer
import ControlPlane.Proofs.Ed25519Only
import ControlPlane.Proofs.SigningKeys
import ControlPlane.Services.Policies
import ControlPlane.Proofs.Policies
import ControlPlane.Proofs.Observations
import ControlPlane.Proofs.Approvals
import ControlPlane.Services.Escrow
import ControlPlane.Services.Database
import ControlPlane.Lib.JsonText
import ControlPlane.Lib.JsonRead
import ControlPlane.Lib.JsonWrite
import ControlPlane.Lib.Base64Url
import ControlPlane.Lib.Double
import ControlPlane.Services.CapabilityTokens
import ControlPlane.Proofs.CapabilityTokens
import ControlPlane.Proofs.IssuerRegistry
import ControlPlane.Proofs.IntentsApi
import ControlPlane.Proofs.IntentsSessions
import ControlPlane.Proofs.TransparencyLog
import ControlPlane.Services.TransparencyLog
import ControlPlane.Services.IssuerRegistry
import ControlPlane.Proofs.TransparencyFormat
import ControlPlane.Services.TransparencyFormat
import ControlPlane.Lib.Concurrent
import ControlPlane.Lib.Table
import ControlPlane.Lib.Text
import ControlPlane.Lib.Json
import ControlPlane.Lib.Sha256
import ControlPlane.Lib.MerkleProofs
import ControlPlane.Proofs.CustodyLifecycle
import ControlPlane.Proofs.CustodyConcurrency
import ControlPlane.Services.TenantRls
import ControlPlane.Proofs.TenantRls
import ControlPlane.Proofs.RlsRollback
import ControlPlane.Proofs.IntentCreation
import ControlPlane.Proofs.JobSubmission
import ControlPlane.Proofs.JobMoves
import ControlPlane.Proofs.JobSchedules
import ControlPlane.Proofs.JobRuns
import ControlPlane.Proofs.JobSuccess
import ControlPlane.Proofs.Reconciliation
import ControlPlane.Services.IntentsQueries
import ControlPlane.Proofs.IntentsSimulation
import ControlPlane.Proofs.IntentsExpiry
import ControlPlane.Proofs.IntentsIsolation
import ControlPlane.Services.EvidenceContent
import ControlPlane.Proofs.EvidenceContent
import ControlPlane.Lib.Base64
import ControlPlane.Lib.Crashes
import ControlPlane.Services.CredentialStore
import ControlPlane.Proofs.CredentialStore
import ControlPlane.Proofs.CredentialEnvironments
import ControlPlane.Proofs.CredentialAudit
import ControlPlane.Lib.Firsts
import ControlPlane.Services.Usage
import ControlPlane.Proofs.Usage
import ControlPlane.Proofs.EvidenceBundle
import ControlPlane.Services.KernelBridge
import ControlPlane.Proofs.KernelBridge
import ControlPlane.Services.Auth
import ControlPlane.Proofs.Auth
import ControlPlane.Lib.Looking
import ControlPlane.Proofs.CitedEvidence
import ControlPlane.Services.ActionIntents
import ControlPlane.Proofs.Intake
import ControlPlane.Lib.Growth
import ControlPlane.Lib.Acting
import ControlPlane.Proofs.UsageGrowth
import ControlPlane.Proofs.UsageTotals
import ControlPlane.Proofs.UsageStability
import ControlPlane.Proofs.AuthorityEvidence
import ControlPlane.Proofs.IntentsOutcomes
import ControlPlane.Lib.Compare
import ControlPlane.Lib.Ranking
import ControlPlane.Services.PolicyEngine
import ControlPlane.Proofs.PolicyEngine
import ControlPlane.Services.PolicyApi
import ControlPlane.Proofs.PolicyIntake
import ControlPlane.Services.Listings
import ControlPlane.Proofs.Listings
import ControlPlane.Proofs.StatusArtifacts
import ControlPlane.Proofs.ReceiptIngestion
import ControlPlane.Proofs.ReceiptReconciliation
import ControlPlane.Proofs.ReceiptOutcomes
import ControlPlane.Lib.JsonSorted
import ControlPlane.Lib.JsonHide
import ControlPlane.Services.FieldClassification
import ControlPlane.Proofs.FieldClassification
import ControlPlane.Services.ManagedSigning
import ControlPlane.Proofs.ManagedSigning
import ControlPlane.Proofs.IssuanceRuns
import ControlPlane.Proofs.FourEyes
import ControlPlane.Proofs.ApprovedIssuance
