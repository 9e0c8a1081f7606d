import MayastorExtensions.Library.Scheduled
import MayastorExtensions.Library.Segment
import MayastorExtensions.Library.Semver
import MayastorExtensions.Library.Yaml
import MayastorExtensions.UpgradeJob.Common
import MayastorExtensions.UpgradeJob.Cluster
import MayastorExtensions.UpgradeJob.Rebuild
import MayastorExtensions.UpgradeJob.DataPlane
import MayastorExtensions.UpgradeJob.DrainLabel
import MayastorExtensions.UpgradeJob.RollingRestart
import MayastorExtensions.UpgradeJob.DrainDecision
import MayastorExtensions.Plugin.UpgradeResources
import MayastorExtensions.Library.OffsetPages
import MayastorExtensions.UpgradeJob.EventWorker
import MayastorExtensions.UpgradeJob.Helm.Chart
import MayastorExtensions.UpgradeJob.Helm.Yq
import MayastorExtensions.UpgradeJob.Helm.Values
import MayastorExtensions.UpgradeJob.Helm.ValuesChain
import MayastorExtensions.UpgradeJob.Helm.Upgrade
import MayastorExtensions.Plugin.Preflight
import MayastorExtensions.UpgradeJob.Product
import MayastorExtensions.UpgradeJob.FailureReport
import MayastorExtensions.UpgradeJob.PartialRebuildGuard
import MayastorExtensions.UpgradeJob.RestartGate
import MayastorExtensions.UpgradeJob.Attempts
import MayastorExtensions.UpgradeJob.RebuildProgress
import MayastorExtensions.UpgradeJob.AnaCheck
import MayastorExtensions.CallHome.EventStats
import MayastorExtensions.CallHome.EventStore
import MayastorExtensions.Supportability.Topology
import MayastorExtensions.Library.Page
import MayastorExtensions.Supportability.Dump
import MayastorExtensions.Supportability.EtcdDump
import MayastorExtensions.Supportability.LokiDump
import MayastorExtensions.Scripts.SemverTool
import MayastorExtensions.Scripts.PublishChart
import MayastorExtensions.UpgradeJob.ControlPlane
import MayastorExtensions.UpgradeJob.Helm.ImageTags
import MayastorExtensions.UpgradeJob.Helm.Promtail
import MayastorExtensions.UpgradeJob.Helm.YamlKey
import MayastorExtensions.UpgradeJob.Helm.Umbrella
import MayastorExtensions.Library.Sorted
import MayastorExtensions.Scripts.StableChart
import MayastorExtensions.Supportability.LokiPolling
import MayastorExtensions.Scripts.ReleaseBranch
import MayastorExtensions.MetricsExporter.IoStats
import MayastorExtensions.Plugin.UpgradeImage
import MayastorExtensions.Library.Table
import MayastorExtensions.Plugin.SetFile
import MayastorExtensions.KubeClient
import MayastorExtensions.CallHome.Percentile
import MayastorExtensions.CallHome.BlockDevices
import MayastorExtensions.Supportability.PoolDevices
import MayastorExtensions.CallHome.ManagedDisks
import MayastorExtensions.CallHome.Report
import MayastorExtensions.Library.ComparisonSort
import MayastorExtensions.Supportability.K8sResources
import MayastorExtensions.Plugin.UpgradeCommand
import MayastorExtensions.Library.Assignments
import MayastorExtensions.Supportability.LogCollection
import MayastorExtensions.Supportability.TopologyDump
import MayastorExtensions.MetricsExporter.Scrape
import MayastorExtensions.CallHome.ErrorLogs
import MayastorExtensions.Library.Layers
import MayastorExtensions.Scripts.ConsolidatedValues
import MayastorExtensions.Library.Rbac
import MayastorExtensions.Plugin.UpgradeRole
import MayastorExtensions.UpgradeJob.Permissions
import MayastorExtensions.UpgradeJob.Startup
