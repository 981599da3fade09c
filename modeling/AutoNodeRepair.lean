import AutoNodeRepair.Interact.Hoare
import AutoNodeRepair.Interact.History
import AutoNodeRepair.Interact.Interleave
import AutoNodeRepair.Interact.Writes
import AutoNodeRepair.Interact.Versioned
import AutoNodeRepair.Interact.Monitor
import AutoNodeRepair.Interact.Replay
import AutoNodeRepair.Interact.Crew
import AutoNodeRepair.Collect.CappedMap
import AutoNodeRepair.Collect.Columns
import AutoNodeRepair.Collect.GroupBy
import AutoNodeRepair.Collect.Merge
import AutoNodeRepair.Collect.Since
import AutoNodeRepair.Collect.Totals
import AutoNodeRepair.Collect.Window
import AutoNodeRepair.Retry.Backoff
import AutoNodeRepair.Fill.Levelling
import AutoNodeRepair.Text.Split
import AutoNodeRepair.Text.Number
import AutoNodeRepair.Text.Report
import AutoNodeRepair.Model.Kube
import AutoNodeRepair.Model.Api
import AutoNodeRepair.Model.Aws
import AutoNodeRepair.Model.Drain
import AutoNodeRepair.Model.DeleteNode
import AutoNodeRepair.Model.Repair
import AutoNodeRepair.Model.Tracker
import AutoNodeRepair.Model.ClusterState
import AutoNodeRepair.Model.Status
import AutoNodeRepair.Model.StatusText
import AutoNodeRepair.Model.NodeGroupSet
import AutoNodeRepair.Model.Discovery
import AutoNodeRepair.Model.NodeGroupSpec
import AutoNodeRepair.Model.InstanceTypes
import AutoNodeRepair.Model.NodeInfo
import AutoNodeRepair.Model.Template
import AutoNodeRepair.Model.Simulator
import AutoNodeRepair.Model.Predicates
import AutoNodeRepair.Model.Labels
import AutoNodeRepair.Model.Similarity
import AutoNodeRepair.Model.LogCollector
import AutoNodeRepair.Model.ConfigMaps
import AutoNodeRepair.Model.Startup
import AutoNodeRepair.Model.LeaderElection
import AutoNodeRepair.Logic.PodFilter
import AutoNodeRepair.Logic.Kept
import AutoNodeRepair.Logic.Cache
import AutoNodeRepair.Logic.GroupOps
import AutoNodeRepair.Logic.Capacity
import AutoNodeRepair.Logic.Covered
import AutoNodeRepair.Logic.Drained
import AutoNodeRepair.Logic.Script
import AutoNodeRepair.Logic.Slack
import AutoNodeRepair.Logic.Steps
import AutoNodeRepair.Logic.Cluster
import AutoNodeRepair.Logic.Calm
import AutoNodeRepair.Logic.Usage
import AutoNodeRepair.Logic.Registry
import AutoNodeRepair.Logic.BackoffRecord
import AutoNodeRepair.Logic.Balance
import AutoNodeRepair.Logic.Protocol
import AutoNodeRepair.Logic.MapServer
import AutoNodeRepair.Logic.Elector
import AutoNodeRepair.Logic.ElectionSite
import AutoNodeRepair.Logic.LockOrder
import AutoNodeRepair.Logic.ElectorTiming
import AutoNodeRepair.Theorems.Bounds
import AutoNodeRepair.Theorems.Conservation
import AutoNodeRepair.Theorems.Progress
import AutoNodeRepair.Theorems.Replacement
import AutoNodeRepair.Theorems.LookupIsolation
import AutoNodeRepair.Theorems.DeletionIsolation
import AutoNodeRepair.Theorems.Confirmed
import AutoNodeRepair.Theorems.LostResize
import AutoNodeRepair.Theorems.Workload
import AutoNodeRepair.Theorems.Inflation
import AutoNodeRepair.Theorems.DrainOutcome
import AutoNodeRepair.Theorems.GroupMinimum
import AutoNodeRepair.Theorems.DeletionGuards
import AutoNodeRepair.Theorems.TaintRelease
import AutoNodeRepair.Theorems.ManagedInstances
import AutoNodeRepair.Theorems.DrainFilter
import AutoNodeRepair.Theorems.CacheTransparency
import AutoNodeRepair.Theorems.UsageTracking
import AutoNodeRepair.Theorems.UpdateNodes
import AutoNodeRepair.Theorems.Backoff
import AutoNodeRepair.Theorems.ReadinessStats
import AutoNodeRepair.Theorems.FailedScaleUps
import AutoNodeRepair.Theorems.SizeVerdicts
import AutoNodeRepair.Theorems.ObservedSince
import AutoNodeRepair.Theorems.StatusTransitions
import AutoNodeRepair.Theorems.ScaleUpBalance
import AutoNodeRepair.Theorems.UsageLimits
import AutoNodeRepair.Theorems.Discovery
import AutoNodeRepair.Theorems.TagSelection
import AutoNodeRepair.Theorems.SpecRoundTrip
import AutoNodeRepair.Theorems.ProviderIds
import AutoNodeRepair.Theorems.Template
import AutoNodeRepair.Theorems.NodePods
import AutoNodeRepair.Theorems.BestLabels
import AutoNodeRepair.Theorems.Similarity
import AutoNodeRepair.Theorems.LogRetention
import AutoNodeRepair.Theorems.PredicateChecks
import AutoNodeRepair.Theorems.DeletionProtocol
import AutoNodeRepair.Theorems.NodeWrites
import AutoNodeRepair.Theorems.StatusMap
import AutoNodeRepair.Theorems.ConfigFetcher
import AutoNodeRepair.Theorems.BackoffWindow
import AutoNodeRepair.Theorems.UpcomingNodes
import AutoNodeRepair.Theorems.Provenance
import AutoNodeRepair.Theorems.Startup
import AutoNodeRepair.Theorems.StatusText
import AutoNodeRepair.Theorems.StatusTotals
import AutoNodeRepair.Theorems.LeaderElection
