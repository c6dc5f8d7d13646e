import Mathlib.Data.String.Basic

/-! The records of app/models that the modelled code builds or reads. `F` is
the type of floats. -/
namespace NodeDebugDashboard.Models

structure NodeWarning where
  severity : String
  source : String
  message : String
  device : Option String := none
  deriving DecidableEq

structure Partition where
  name : String
  size : String
  type : String
  mountpoint : Option String := none
  fstype : Option String := none
  deriving DecidableEq

structure DiskInfo where
  name : String
  model : Option String := none
  serial : Option String := none
  size : String
  type : String
  transport : Option String := none
  rotational : Bool := false
  partitions : List Partition := []
  deriving DecidableEq

structure SmartAttribute where
  id : Int
  name : String
  value : Int
  worst : Int
  threshold : Int
  rawValue : String
  deriving DecidableEq

/-- `healthPassed` is `none` for a drive that did not report, which is not the
same as a failing one. -/
structure SmartHealth where
  device : String
  model : Option String := none
  serial : Option String := none
  smartAvailable : Bool := false
  healthPassed : Option Bool := none
  temperatureCelsius : Option Int := none
  powerOnHours : Option Int := none
  wearLevelingPercent : Option Int := none
  reallocatedSectors : Option Int := none
  pendingSectors : Option Int := none
  offlineUncorrectable : Option Int := none
  smartIssues : List String := []
  standby : Bool := false
  error : Option String := none
  attributes : List SmartAttribute := []
  deriving DecidableEq

structure DiskUsage where
  filesystem : String
  mount : String
  fsType : String
  size : String
  used : String
  available : String
  usedPercent : Int
  severity : String := "ok"
  deriving DecidableEq

structure StorageOverview where
  disks : List DiskInfo := []
  smart : List SmartHealth := []
  usage : List DiskUsage := []
  deriving DecidableEq

structure SensorReading (F : Type) where
  name : String
  label : String
  value : F
  unit : String
  critical : Option F := none
  warning : Option F := none
  isAlarm : Bool := false

structure DimmInfo where
  locator : String
  sizeMb : Option Int := none
  type : Option String := none
  speedMhz : Option Int := none
  manufacturer : Option String := none
  serial : Option String := none
  partNumber : Option String := none
  deriving DecidableEq

structure MemoryInfo (F : Type) where
  totalGb : F
  availableGb : F
  usedPercent : F
  dimms : List DimmInfo := []
  eccCorrectableErrors : Int := 0
  eccUncorrectableErrors : Int := 0

structure NICInfo where
  name : String
  mac : String := ""
  driver : String := ""
  speed : String := ""
  duplex : String := ""
  linkDetected : Bool := false
  ipAddresses : List String := []
  rxErrors : Int := 0
  txErrors : Int := 0
  rxDropped : Int := 0
  txDropped : Int := 0
  rxCrcErrors : Int := 0
  txCarrierErrors : Int := 0
  deriving DecidableEq

structure CertificateInfo where
  filePath : String := ""
  subject : String := ""
  issuer : String := ""
  notBefore : String := ""
  notAfter : String := ""
  serialNumber : String := ""
  sha256Fingerprint : String := ""
  daysUntilExpiry : Option Int := none
  expirySeverity : String := "ok"
  deriving DecidableEq

structure TalosCertificateInfo where
  name : String
  subject : String := ""
  issuer : String := ""
  notBefore : String := ""
  notAfter : String := ""
  serialNumber : String := ""
  sha256Fingerprint : String := ""
  daysUntilExpiry : Option Int := none
  expirySeverity : String := "ok"
  deriving DecidableEq

structure TalosNetworkInterface where
  name : String
  addresses : List String := []
  routes : List String := []
  dhcp : Bool := false
  deriving DecidableEq

structure TalosMachineConfig where
  /-- `controlplane` or `worker` -/
  machineType : String := ""
  installDisk : String := ""
  installImage : String := ""
  clusterName : String := ""
  clusterEndpoint : String := ""
  networkInterfaces : List TalosNetworkInterface := []
  extensions : List String := []
  configAvailable : Bool := false
  error : String := ""
  deriving DecidableEq

structure TalosVersionInfo where
  version : String := ""
  schematicId : String := ""
  deriving DecidableEq

structure TalosOverview where
  version : TalosVersionInfo := {}
  machineConfig : TalosMachineConfig := {}
  certificates : List TalosCertificateInfo := []
  deriving DecidableEq

structure EtcdStatus (F : Type) where
  dbSizeInUseMb : F
  dbSizeQuotaMb : F
  quotaUsedPercent : F
  defragReclaimableMb : F
  defragSeverity : String := "ok"

structure K8sComponentStatus (F : Type) where
  name : String := ""
  running : Bool := false
  healthStatus : String := "Unknown"
  etcdStatus : Option (EtcdStatus F) := none

structure K8sApiEndpoint where
  url : String := ""
  healthy : Bool := false
  deriving DecidableEq

structure K8sNodeCondition where
  type : String := ""
  status : String := ""
  message : String := ""
  deriving DecidableEq

structure K8sNodeInfo where
  conditions : List K8sNodeCondition := []
  deriving DecidableEq

structure ContainerStats (F : Type) where
  cpuPercent : F
  memoryBytes : Int := 0
  memoryHuman : String := ""
  deriving DecidableEq

structure SystemContainer (F : Type) where
  name : String
  containerId : String := ""
  state : String := ""
  image : String := ""
  uptime : String := ""
  createdAt : String := ""
  stats : ContainerStats F
  deriving DecidableEq

structure WorkloadContainer (F : Type) where
  podName : String
  /-- `namespace` -/
  ns : String
  containerName : String
  containerId : String := ""
  image : String := ""
  state : String := ""
  uptime : String := ""
  createdAt : String := ""
  stats : ContainerStats F
  deriving DecidableEq

structure ContainersOverview (F : Type) where
  systemContainers : List (SystemContainer F) := []
  workloadContainers : List (WorkloadContainer F) := []

structure ProcessInfo (F : Type) where
  pid : Int
  ppid : Int := 0
  user : String := ""
  cpuPercent : F
  memPercent : F
  rssKb : Int := 0
  vszKb : Int := 0
  state : String := ""
  command : String := ""
  deriving DecidableEq

structure ProcessesOverview (F : Type) where
  totalCount : Nat := 0
  processes : List (ProcessInfo F) := []

structure EFIBootEntry where
  number : String
  label : String
  active : Bool := false
  path : String := ""
  deriving DecidableEq

structure EFIInfo where
  bootCurrent : Option String := none
  bootOrder : List String := []
  entries : List EFIBootEntry := []
  timeout : Option String := none
  deriving DecidableEq

end NodeDebugDashboard.Models
