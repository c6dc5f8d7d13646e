import NodeDebugDashboard.Library.Dict
import NodeDebugDashboard.Library.Runs
import NodeDebugDashboard.Collectors.TtlCache
import NodeDebugDashboard.Collectors.TtlCacheLocks
import NodeDebugDashboard.Collectors.TtlCacheTable
import NodeDebugDashboard.Collectors.TtlCacheFailures
import NodeDebugDashboard.Collectors.TtlCacheSharing
import NodeDebugDashboard.Collectors.RunCommand
import NodeDebugDashboard.Library.Python
import NodeDebugDashboard.Models
import NodeDebugDashboard.Routers.Counters
import NodeDebugDashboard.Library.History
import NodeDebugDashboard.Routers.CounterHistory
import NodeDebugDashboard.Routers.Independence
import NodeDebugDashboard.Library.Json
import NodeDebugDashboard.Collectors.Host
import NodeDebugDashboard.Collectors.Network
import NodeDebugDashboard.Collectors.Memory
import NodeDebugDashboard.Routers.ListingFailure
import NodeDebugDashboard.Routers.FailedReads
import NodeDebugDashboard.Library.Pattern
import NodeDebugDashboard.Collectors.Dmesg
import NodeDebugDashboard.Collectors.Storage
import NodeDebugDashboard.Collectors.Smart
import NodeDebugDashboard.Routers.SilentDrives
import NodeDebugDashboard.Routers.UnreadSources
import NodeDebugDashboard.Library.Base64
import NodeDebugDashboard.Auth.Middleware
import NodeDebugDashboard.Auth.Completeness
import NodeDebugDashboard.Library.Substitution
import NodeDebugDashboard.Library.WordMasking
import NodeDebugDashboard.Collectors.Processes
import NodeDebugDashboard.Collectors.ProcessRules
import NodeDebugDashboard.Collectors.SecretFlags
import NodeDebugDashboard.Collectors.SecretFlagLeaks
import NodeDebugDashboard.Collectors.RunRules
import NodeDebugDashboard.Collectors.UrlPasswords
import NodeDebugDashboard.Collectors.UrlPasswordLeaks
import NodeDebugDashboard.Collectors.Tasks
import NodeDebugDashboard.Collectors.TaskRules
import NodeDebugDashboard.Collectors.TaskPairs
import NodeDebugDashboard.HttpClient.Clients
import NodeDebugDashboard.Collectors.Kubernetes
import NodeDebugDashboard.Collectors.Connectivity
import NodeDebugDashboard.Collectors.TokenConfinement
import NodeDebugDashboard.HttpClient.Rotation
import NodeDebugDashboard.HttpClient.RotationSteps
import NodeDebugDashboard.HttpClient.RotationSafety
import NodeDebugDashboard.Frontend.LogViewer
import NodeDebugDashboard.Frontend.Refresh
import NodeDebugDashboard.Chart.Names
import NodeDebugDashboard.Library.Shell
import NodeDebugDashboard.Scripts.Memtest
import NodeDebugDashboard.Library.Strip
import NodeDebugDashboard.Scripts.Entrypoint
import NodeDebugDashboard.Chart.Credentials
import NodeDebugDashboard.Chart.FailClosed
import NodeDebugDashboard.Chart.Checksum
import NodeDebugDashboard.Library.Script
import NodeDebugDashboard.Scripts.Fsck
import NodeDebugDashboard.Collectors.SmartSpawns
import NodeDebugDashboard.Library.Lines
import NodeDebugDashboard.Library.Paths
import NodeDebugDashboard.Routers.ContainerLogs
import NodeDebugDashboard.Library.Strptime
import NodeDebugDashboard.Collectors.Certificates
import NodeDebugDashboard.Routers.CertificateWarnings
import NodeDebugDashboard.Collectors.ProcessSelection
import NodeDebugDashboard.Collectors.SmartReport
import NodeDebugDashboard.Collectors.Mountinfo
import NodeDebugDashboard.Collectors.MountinfoRoundTrip
import NodeDebugDashboard.Collectors.Df
import NodeDebugDashboard.Collectors.TtlCacheBounds
import NodeDebugDashboard.Frontend.Storage
import NodeDebugDashboard.Frontend.StorageMarkup
import NodeDebugDashboard.Collectors.StorageTasks
import NodeDebugDashboard.Collectors.StorageAge
import NodeDebugDashboard.Collectors.Containers
import NodeDebugDashboard.Collectors.ContainerTasks
import NodeDebugDashboard.Collectors.ContainerPartition
import NodeDebugDashboard.Collectors.DmesgAccounting
import NodeDebugDashboard.Collectors.DmesgSeverity
import NodeDebugDashboard.Collectors.ProcStat
import NodeDebugDashboard.Library.Decimals
import NodeDebugDashboard.Collectors.Etcd
import NodeDebugDashboard.Collectors.ProcessPasses
import NodeDebugDashboard.Collectors.Sensors
import NodeDebugDashboard.Library.Awk
import NodeDebugDashboard.Scripts.HostMount
import NodeDebugDashboard.Scripts.EtcdKeys
import NodeDebugDashboard.Collectors.Talos
import NodeDebugDashboard.Collectors.TalosTasks
import NodeDebugDashboard.Collectors.TalosDegraded
import NodeDebugDashboard.Library.Matcher
import NodeDebugDashboard.Collectors.Efi
import NodeDebugDashboard.Library.Jq
import NodeDebugDashboard.Scripts.Quantities
import NodeDebugDashboard.Scripts.Resources
import NodeDebugDashboard.Collectors.TtlCacheProgress
import NodeDebugDashboard.Collectors.TtlCacheOrder
import NodeDebugDashboard.Collectors.TtlCacheRate
import NodeDebugDashboard.Frontend.LogTail
import NodeDebugDashboard.Dashboard.LogStream
import NodeDebugDashboard.Frontend.Freshness
import NodeDebugDashboard.Routers.Sections
import NodeDebugDashboard.Dashboard.Failures
import NodeDebugDashboard.Library.Markup
import NodeDebugDashboard.Frontend.Payloads
import NodeDebugDashboard.Frontend.Renderers
import NodeDebugDashboard.Frontend.PageMarkup
import NodeDebugDashboard.Frontend.View
import NodeDebugDashboard.Frontend.ViewHistory
import NodeDebugDashboard.Frontend.Rendered
import NodeDebugDashboard.Collectors.TtlCacheResults
