import SynapseYield.Agent.Loop
import SynapseYield.Agent.Trace
import SynapseYield.Backtest.Candles
import SynapseYield.Backtest.Eastmoney
import SynapseYield.Backtest.Events
import SynapseYield.Backtest.FetchCalls
import SynapseYield.Backtest.Fundamentals
import SynapseYield.Backtest.Funding
import SynapseYield.Backtest.Intervals
import SynapseYield.Backtest.LoaderCache
import SynapseYield.Backtest.Loaders
import SynapseYield.Backtest.LocalFiles
import SynapseYield.Backtest.MarketData
import SynapseYield.Backtest.ProviderSymbols
import SynapseYield.Backtest.Runner
import SynapseYield.Broker.LocalEffects
import SynapseYield.Broker.LocalEvents
import SynapseYield.Broker.LocalOperations
import SynapseYield.Broker.LocalReturns
import SynapseYield.Broker.LocalSim
import SynapseYield.Broker.Longbridge
import SynapseYield.Broker.LongbridgeOperations
import SynapseYield.Broker.LongbridgeSteps
import SynapseYield.Config.Schema
import SynapseYield.Domain.Decimal
import SynapseYield.Domain.Orders
import SynapseYield.Domain.Schemas
import SynapseYield.Goal.Effects
import SynapseYield.Goal.Models
import SynapseYield.Goal.Store
import SynapseYield.Governance.Decisions
import SynapseYield.Governance.Manifest
import SynapseYield.Governance.PolicyEngine
import SynapseYield.Governance.Runtime
import SynapseYield.Harness.Execution
import SynapseYield.Harness.Handover
import SynapseYield.Harness.Lifecycle
import SynapseYield.Harness.LocalCompletion
import SynapseYield.Harness.LocalExecution
import SynapseYield.Harness.LongbridgeExecution
import SynapseYield.Harness.Operations
import SynapseYield.Harness.OrderService
import SynapseYield.Harness.TradeExecutor
import SynapseYield.Live.Advisory
import SynapseYield.Live.Audit
import SynapseYield.Live.Ceremony
import SynapseYield.Live.Commit
import SynapseYield.Live.Enforcement
import SynapseYield.Live.Gate
import SynapseYield.Live.Mandate
import SynapseYield.Live.Operations
import SynapseYield.Live.OrderGuard
import SynapseYield.Live.SdkOrderGate
import SynapseYield.Live.Store
import SynapseYield.Live.World
import SynapseYield.Orchestrator.HarnessAgent
import SynapseYield.Properties.AnnualFigures
import SynapseYield.Properties.AuditTrail
import SynapseYield.Properties.AutoFrames
import SynapseYield.Properties.BarPages
import SynapseYield.Properties.BarSizes
import SynapseYield.Properties.BracketFills
import SynapseYield.Properties.CacheReads
import SynapseYield.Properties.CandlePages
import SynapseYield.Properties.CashLedger
import SynapseYield.Properties.ChatStreams
import SynapseYield.Properties.CodexMessages
import SynapseYield.Properties.Commits
import SynapseYield.Properties.Deliveries
import SynapseYield.Properties.DurableJobs
import SynapseYield.Properties.Estimates
import SynapseYield.Properties.EventLog
import SynapseYield.Properties.Fallbacks
import SynapseYield.Properties.FilledQuantities
import SynapseYield.Properties.FrozenCash
import SynapseYield.Properties.FundingFees
import SynapseYield.Properties.GateAgreement
import SynapseYield.Properties.GoalCompletion
import SynapseYield.Properties.GoalLedger
import SynapseYield.Properties.GovernedCalls
import SynapseYield.Properties.GroundedSymbols
import SynapseYield.Properties.HaltedForwards
import SynapseYield.Properties.JobOwners
import SynapseYield.Properties.JobSet
import SynapseYield.Properties.JournalLayouts
import SynapseYield.Properties.KnowableEvents
import SynapseYield.Properties.LimitPrices
import SynapseYield.Properties.LiveEntries
import SynapseYield.Properties.LiveOrders
import SynapseYield.Properties.LocalRequests
import SynapseYield.Properties.LocalRows
import SynapseYield.Properties.LossLimit
import SynapseYield.Properties.MandateBounds
import SynapseYield.Properties.MarketAnswers
import SynapseYield.Properties.NetFills
import SynapseYield.Properties.NetPositions
import SynapseYield.Properties.OwnFills
import SynapseYield.Properties.PickIsolation
import SynapseYield.Properties.Pnl
import SynapseYield.Properties.PointInTime
import SynapseYield.Properties.PresetRuns
import SynapseYield.Properties.QuotedPrices
import SynapseYield.Properties.Reconciliation
import SynapseYield.Properties.RedactedPayloads
import SynapseYield.Properties.Refusals
import SynapseYield.Properties.RemoteSchemas
import SynapseYield.Properties.Repetitions
import SynapseYield.Properties.ReportTables
import SynapseYield.Properties.Resubmissions
import SynapseYield.Properties.RigorChecks
import SynapseYield.Properties.RiskDecisions
import SynapseYield.Properties.RoundtripFees
import SynapseYield.Properties.RoutedTools
import SynapseYield.Properties.RowOrders
import SynapseYield.Properties.Shares
import SynapseYield.Properties.SignalEngineImport
import SynapseYield.Properties.Solvency
import SynapseYield.Properties.StatusNames
import SynapseYield.Properties.Submissions
import SynapseYield.Properties.SwarmRecovery
import SynapseYield.Properties.SwarmRuns
import SynapseYield.Properties.SwarmTools
import SynapseYield.Properties.SwarmWorkers
import SynapseYield.Properties.SweepReports
import SynapseYield.Properties.Sweeps
import SynapseYield.Properties.SymbolSpellings
import SynapseYield.Properties.TaskDag
import SynapseYield.Properties.Ticks
import SynapseYield.Properties.ToolCalls
import SynapseYield.Properties.TraceEntries
import SynapseYield.Properties.TraceLog
import SynapseYield.Properties.TradeCounter
import SynapseYield.Properties.Transcripts
import SynapseYield.Properties.UsSecids
import SynapseYield.Properties.UserSkills
import SynapseYield.Properties.WorkspaceFiles
import SynapseYield.Providers.Chat
import SynapseYield.Providers.OpenaiCodex
import SynapseYield.Risk.Engine
import SynapseYield.Risk.Rules
import SynapseYield.Runtime.Flatten
import SynapseYield.Runtime.JobStore
import SynapseYield.Runtime.Reconcile
import SynapseYield.Runtime.Runner
import SynapseYield.Runtime.Scheduler
import SynapseYield.Shared.Answers
import SynapseYield.Shared.Delivery
import SynapseYield.Shared.Dependency
import SynapseYield.Shared.Disk
import SynapseYield.Shared.Fifo
import SynapseYield.Shared.Firsts
import SynapseYield.Shared.Format
import SynapseYield.Shared.Holdings
import SynapseYield.Shared.Interleaving
import SynapseYield.Shared.Json
import SynapseYield.Shared.JsonAscii
import SynapseYield.Shared.JsonContents
import SynapseYield.Shared.JsonLines
import SynapseYield.Shared.JsonMembers
import SynapseYield.Shared.JsonPrefix
import SynapseYield.Shared.JsonRoundTrip
import SynapseYield.Shared.JsonText
import SynapseYield.Shared.Lines
import SynapseYield.Shared.Naming
import SynapseYield.Shared.Number
import SynapseYield.Shared.Outcome
import SynapseYield.Shared.Padding
import SynapseYield.Shared.Paging
import SynapseYield.Shared.Process
import SynapseYield.Shared.Program
import SynapseYield.Shared.Python
import SynapseYield.Shared.Scanner
import SynapseYield.Shared.Search
import SynapseYield.Shared.StableSort
import SynapseYield.Shared.Syntax
import SynapseYield.Shared.Table
import SynapseYield.Shared.Trail
import SynapseYield.Shared.Url
import SynapseYield.Shared.Utf8
import SynapseYield.Shared.Volume
import SynapseYield.Shared.Withholding
import SynapseYield.Storage.Models
import SynapseYield.Storage.Session
import SynapseYield.Swarm.Dag
import SynapseYield.Swarm.Grounding
import SynapseYield.Swarm.Presets
import SynapseYield.Swarm.Runtime
import SynapseYield.Swarm.Store
import SynapseYield.Swarm.TaskStore
import SynapseYield.Swarm.Worker
import SynapseYield.Tools.FinancialRigor
import SynapseYield.Tools.JournalParsers
import SynapseYield.Tools.McpRegistry
import SynapseYield.Tools.McpSchema
import SynapseYield.Tools.ReportAudit
import SynapseYield.Tools.SecStatements
import SynapseYield.Tools.SkillWriter
import SynapseYield.Tools.TradeJournal
import SynapseYield.Tools.Workspace
