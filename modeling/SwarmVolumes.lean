import SwarmVolumes.Library.Trace
import SwarmVolumes.Library.Word
import SwarmVolumes.Library.Erc20
import SwarmVolumes.Library.Fallible
import SwarmVolumes.Library.IndexedList
import SwarmVolumes.Library.Latest
import SwarmVolumes.Library.Dict
import SwarmVolumes.Library.Hex
import SwarmVolumes.Library.Json
import SwarmVolumes.Library.HexText
import SwarmVolumes.Library.Unicode
import SwarmVolumes.Library.PyText
import SwarmVolumes.Library.Document
import SwarmVolumes.Library.Masking
import SwarmVolumes.Library.Calendar
import SwarmVolumes.Library.Timeline
import SwarmVolumes.Library.RateLimit
import SwarmVolumes.Library.Paging
import SwarmVolumes.Library.Bisect
import SwarmVolumes.Library.Tiling
import SwarmVolumes.Library.NamedLogs
import SwarmVolumes.Source.Callees
import SwarmVolumes.Source.Reference
import SwarmVolumes.Source.Registry.Runs
import SwarmVolumes.Source.Registry.Reverts
import SwarmVolumes.Source.Registry.Payments
import SwarmVolumes.Source.Registry.Logs
import SwarmVolumes.Source.Registry.Views
import SwarmVolumes.Source.Registry.Sample
import SwarmVolumes.Source.SurvivalFloor
import SwarmVolumes.Source.Indexer.Model
import SwarmVolumes.Source.Fields
import SwarmVolumes.Source.Indexer.Rows
import SwarmVolumes.Source.Indexer.Project
import SwarmVolumes.Source.Indexer.Decode
import SwarmVolumes.Source.Indexer.Store
import SwarmVolumes.Source.Indexer.Directory
import SwarmVolumes.Source.Indexer.Node
import SwarmVolumes.Source.Indexer.View
import SwarmVolumes.Source.Indexer.Acquire
import SwarmVolumes.Source.Published.Serialize
import SwarmVolumes.Source.Published.Sync
import SwarmVolumes.Source.Indexer.Cache
import SwarmVolumes.Source.Published.Sample
import SwarmVolumes.Source.Published.Stat
import SwarmVolumes.Source.ExportDeployment
import SwarmVolumes.Source.BuildManifest
import SwarmVolumes.Source.Keeper.Events
import SwarmVolumes.Source.Keeper.Client
import SwarmVolumes.Source.Keeper.Collect
import SwarmVolumes.Source.Keeper.Cycle
import SwarmVolumes.Source.Keeper.Report
import SwarmVolumes.Source.Keeper.Telegram
import SwarmVolumes.Source.Keeper.Config
import SwarmVolumes.Source.Keeper.Sample
import SwarmVolumes.Source.DeriveDeployments
import SwarmVolumes.Guarantees.ActiveSet
import SwarmVolumes.Guarantees.Lifecycle
import SwarmVolumes.Guarantees.VolumeIdentity
import SwarmVolumes.Guarantees.NonInterference
import SwarmVolumes.Guarantees.ChargeCorrectness
import SwarmVolumes.Guarantees.PayerConsent
import SwarmVolumes.Guarantees.Import
import SwarmVolumes.Guarantees.KeeperLiveness
import SwarmVolumes.Guarantees.TriggerIdempotence
import SwarmVolumes.Guarantees.Survival
import SwarmVolumes.Guarantees.Runway
import SwarmVolumes.Guarantees.Replay
import SwarmVolumes.Guarantees.Attribution
import SwarmVolumes.Guarantees.Projection
import SwarmVolumes.Guarantees.DailySeries
import SwarmVolumes.Guarantees.PayingAccounts
import SwarmVolumes.Guarantees.IndexerTotality
import SwarmVolumes.Guarantees.SyncResume
import SwarmVolumes.Guarantees.KilledStore
import SwarmVolumes.Guarantees.StoreRoundTrip
import SwarmVolumes.Guarantees.WireFormat
import SwarmVolumes.Guarantees.PublishedArtifact
import SwarmVolumes.Guarantees.DeploymentRecords
import SwarmVolumes.Guarantees.Enumeration
import SwarmVolumes.Guarantees.OrderIndependence
import SwarmVolumes.Guarantees.Paging
import SwarmVolumes.Guarantees.TriggerEvents
import SwarmVolumes.Guarantees.Receipts
import SwarmVolumes.Guarantees.NonceDiscipline
import SwarmVolumes.Guarantees.CycleAccounting
import SwarmVolumes.Guarantees.Verdict
import SwarmVolumes.Guarantees.ConfigProblems
import SwarmVolumes.Guarantees.Scrubbing
import SwarmVolumes.Guarantees.Acquisition
import SwarmVolumes.Guarantees.BucketCount
import SwarmVolumes.Guarantees.ViewFolds
import SwarmVolumes.Guarantees.Alerts
import SwarmVolumes.Guarantees.DeployedManifest
import SwarmVolumes.Guarantees.EventSourcing
import SwarmVolumes.Guarantees.Upkeep
import SwarmVolumes.Guarantees.MintedBatches
import SwarmVolumes.Guarantees.Revocation
import SwarmVolumes.Guarantees.EndToEnd
import SwarmVolumes.Guarantees.KeeperOnChain
import SwarmVolumes.Guarantees.KeeperUpkeep
import SwarmVolumes.Guarantees.DerivedRegistry
import SwarmVolumes.Guarantees.FreshStat
