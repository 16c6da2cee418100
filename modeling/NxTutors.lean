import NxTutors.Effect.Program
import NxTutors.Effect.Contract
import NxTutors.Effect.Pool
import NxTutors.DemoAgent.States
import NxTutors.DemoAgent.Facts
import NxTutors.DemoAgent.Transitions
import NxTutors.DemoAgent.Machine
import NxTutors.Text.Strings
import NxTutors.Text.Regex
import NxTutors.DemoAgent.Ownership
import NxTutors.DemoAgent.Payments
import NxTutors.DemoAgent.Records
import NxTutors.DemoAgent.TutorSelection
import NxTutors.DemoAgent.Conversations
import NxTutors.DemoAgent.Ports
import NxTutors.DemoAgent.Orchestrator
import NxTutors.DemoAgent.Turn
import NxTutors.DemoAgent.World
import NxTutors.Effect.Path
import NxTutors.DemoAgent.AuditLog
import NxTutors.DemoAgent.Redelivery
import NxTutors.Effect.Logged
import NxTutors.DemoAgent.Retry
import NxTutors.DemoAgent.PaidFunnel
import NxTutors.DemoAgent.PaidTransition
import NxTutors.DemoAgent.Settlement
import NxTutors.Text.Json
import NxTutors.DemoAgent.Inbound
import NxTutors.DemoAgent.Outbound
import NxTutors.DemoAgent.Ingress
import NxTutors.DemoAgent.Workers
import NxTutors.DemoAgent.Identity
import NxTutors.DemoAgent.PaymentDelivery
import NxTutors.DemoAgent.SessionWindow
import NxTutors.Store.Table
import NxTutors.Effect.Steps
import NxTutors.DemoAgent.Slots
import NxTutors.DemoAgent.SlotIndex
import NxTutors.DemoAgent.DoubleBooking
import NxTutors.DemoAgent.SlotStores
import NxTutors.Effect.Guarded
import NxTutors.DemoAgent.SendOnce
import NxTutors.DemoAgent.Absences
import NxTutors.DemoAgent.Asking
import NxTutors.DemoAgent.Cancelling
import NxTutors.DemoAgent.CapabilityBatches
import NxTutors.DemoAgent.Charging
import NxTutors.DemoAgent.Commands
import NxTutors.DemoAgent.Discounts
import NxTutors.DemoAgent.Handovers
import NxTutors.DemoAgent.MessageKeys
import NxTutors.DemoAgent.OfferLimit
import NxTutors.DemoAgent.PriceFloor
import NxTutors.DemoAgent.Proposals
import NxTutors.DemoAgent.Relaying
import NxTutors.DemoAgent.ReminderCeiling
import NxTutors.DemoAgent.Rescheduling
import NxTutors.DemoAgent.Resending
import NxTutors.DemoAgent.SlotAgreement
import NxTutors.DemoAgent.Activations
import NxTutors.DemoAgent.TemplateSends
import NxTutors.DemoAgent.ConversationStores
import NxTutors.Store.Leases
import NxTutors.DemoAgent.IdempotencyStores
import NxTutors.DemoAgent.CandidateSnapshots
import NxTutors.DemoAgent.Bookings
import NxTutors.DemoAgent.Composer
import NxTutors.DemoAgent.Decisions
import NxTutors.DemoAgent.Drafts
import NxTutors.DemoAgent.Executions
import NxTutors.DemoAgent.PaymentFreshness
import NxTutors.DemoAgent.ReminderStores
import NxTutors.DemoAgent.Reminders
import NxTutors.DemoAgent.Scheduling
import NxTutors.DemoAgent.Serving
import NxTutors.DemoAgent.Sweep
import NxTutors.DemoAgent.Templates
import NxTutors.DemoAgent.Time
import NxTutors.DemoAgent.TutorMatch
import NxTutors.DemoAgent.TutorRequests
import NxTutors.DemoAgent.Undisturbed
import NxTutors.Effect.Answering
import NxTutors.Effect.Parts
import NxTutors.Store.Ranking
import NxTutors.Store.Window
import NxTutors.Text.Joined
import NxTutors.MatchAgent.Contracts
import NxTutors.MatchAgent.Machine
import NxTutors.MatchAgent.MissingInfo
import NxTutors.MatchAgent.OutputGuard
import NxTutors.MatchAgent.Requirements
import NxTutors.MatchAgent.Explanations
import NxTutors.MatchAgent.TurnService
import NxTutors.Effect.Evaluate
import NxTutors.MatchAgent.Evaluation
import NxTutors.MatchAgent.MatchWorker
import NxTutors.MatchAgent.Replies
import NxTutors.MatchAgent.Stores
import NxTutors.MatchAgent.SavedStates
import NxTutors.MatchAgent.Handoffs
import NxTutors.MatchAgent.OneAnswer
import NxTutors.MatchAgent.Merges
import NxTutors.MatchAgent.Collecting
import NxTutors.MatchAgent.Recalling
import NxTutors.Effect.Under
import NxTutors.MatchAgent.OutboxConserved
import NxTutors.MatchAgent.OutboxRelay
import NxTutors.MatchAgent.OutboxRuns
import NxTutors.MatchAgent.PostgresOutbox
import NxTutors.MatchAgent.Wire
import NxTutors.Matching.Eligible
import NxTutors.Matching.Erasing
import NxTutors.Matching.Evaluators
import NxTutors.Matching.Explaining
import NxTutors.Matching.Guesses
import NxTutors.Matching.HardFilters
import NxTutors.Matching.Mirroring
import NxTutors.Matching.PoolCache
import NxTutors.Matching.Projection
import NxTutors.Matching.Retrieval
import NxTutors.Matching.Scores
import NxTutors.Matching.Tutors
import NxTutors.Matching.Vocabulary
import NxTutors.Store.Expiring
import NxTutors.Text.JsonText
import NxTutors.Scheduling.Schedules
import NxTutors.Scheduling.Zones
import NxTutors.MatchAgent.Abuse
import NxTutors.MatchAgent.Retries
import NxTutors.MatchAgent.Selections
import NxTutors.MatchAgent.StoredHistories
import NxTutors.Matching.Approvals
import NxTutors.Matching.Fabrication
import NxTutors.Matching.Fees
import NxTutors.Matching.FixedWords
import NxTutors.Matching.SentenceParts
import NxTutors.Matching.TwoGates
import NxTutors.Scheduling.Offers
import NxTutors.Scheduling.Slots
import NxTutors.Scheduling.Windows
import NxTutors.Store.Fairness
import NxTutors.Store.Ledger
import NxTutors.Sync.Availability
import NxTutors.Sync.Draining
import NxTutors.Sync.Drift
import NxTutors.Sync.Paging
import NxTutors.Sync.Projection
import NxTutors.Sync.Refreshing
import NxTutors.Sync.Staging
import NxTutors.Text.Base64
import NxTutors.Text.Delimited
import NxTutors.Text.Markup
import NxTutors.Text.Segments
import NxTutors.Website.Contracts
import NxTutors.Website.Feed
import NxTutors.Website.Records
import NxTutors.DemoAgent.Monitoring
import NxTutors.DemoAgent.Circuit
import NxTutors.DemoAgent.ReminderLadder
import NxTutors.DemoAgent.WholeWords
import NxTutors.MatchAgent.ModelCalls
import NxTutors.Text.Words
import NxTutors.DemoAgent.DiscountEngine
import NxTutors.DemoAgent.PaymentBodies
import NxTutors.MatchAgent.Continuations
import NxTutors.Numbers.Decimal
import NxTutors.Text.JsonData
import NxTutors.DemoAgent.ClockTimes
import NxTutors.DemoAgent.Guardrails
import NxTutors.DemoAgent.TimeParsing
import NxTutors.MatchAgent.Injection
import NxTutors.MatchAgent.RateLimits
import NxTutors.MatchAgent.Signing
import NxTutors.Matching.FeeBands
import NxTutors.Matching.FeeLabels
import NxTutors.Matching.FreeText
import NxTutors.Numbers.Binary64
import NxTutors.Numbers.Calendar
import NxTutors.Numbers.TokenBucket
import NxTutors.Text.RegexRules
import NxTutors.Text.Substitution
import NxTutors.DemoAgent.Signatures
import NxTutors.DemoAgent.SignedWebhooks
import NxTutors.Knowledge.Index
import NxTutors.Knowledge.Surviving
import NxTutors.Matching.Combining
import NxTutors.Matching.Ranking
import NxTutors.Matching.ReviewCounts
import NxTutors.Matching.Reviews
import NxTutors.Scheduling.Canonical
import NxTutors.Scheduling.Raising
import NxTutors.Scheduling.Shifts
import NxTutors.Text.StrictBase64
import NxTutors.Text.Utf8
import NxTutors.Website.PublicRefs
import NxTutors.DemoAgent.Objections
import NxTutors.MatchAgent.QuotedAmounts
import NxTutors.Privacy.Redaction
import NxTutors.Text.Passes
