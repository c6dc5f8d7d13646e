import NodeDebugDashboard.Collectors.Kubernetes

/-! The sections as app/static/app.js gets them, with the fields that it reads. `F` is the type
of numbers with a fraction. -/
namespace NodeDebugDashboard.Frontend.Payload

open Models

variable (F : Type)

structure CPUInfo where
  model : String
  sockets : Int
  coresPerSocket : Int
  threads : Int
  architecture : String

structure PCIDevice where
  slot : String
  className : String
  vendor : String
  device : String
  driver : String := ""

structure USBDevice where
  bus : String
  device : String
  id : String
  name : String

structure GPUInfo where
  index : Int
  name : String
  driverVersion : String := ""
  memoryTotalMb : Int := 0
  memoryUsedMb : Int := 0
  temperatureC : Option Int := none
  utilizationPercent : Option Int := none
  powerDrawW : Option F := none

/-- The CPU and the memory are `null` when their collectors failed. -/
structure HardwareOverview where
  cpu : Option CPUInfo
  memory : Option (MemoryInfo F)
  pciDevices : List PCIDevice := []
  usbDevices : List USBDevice := []
  nics : List NICInfo := []
  sensors : List (SensorReading F) := []
  gpus : List (GPUInfo F) := []

structure IPAddress where
  interface : String
  address : String
  prefixLength : Int
  /-- `inet` or `inet6` -/
  family : String

structure NodeInfo where
  hostname : String
  talosVersion : Option String := none
  osName : String
  kernelVersion : String
  uptimeHuman : String
  load1m : F
  cpuModel : String
  cpuCores : Int
  cpuThreads : Int
  ramTotalGb : F
  ipAddresses : List IPAddress

structure NetworkOverview where
  interfaces : List NICInfo
  connectivity : Option Collectors.Kubernetes.Connectivity

structure SystemOverview where
  efi : EFIInfo

structure K8sNodeCondition extends Models.K8sNodeCondition where
  reason : String := ""
  lastTransition : String := ""

structure K8sNodeResources where
  cpu : String := ""
  memory : String := ""
  pods : String := ""
  gpuNvidia : String := ""

structure K8sNodeInfo where
  labels : List (String × String) := []
  conditions : List K8sNodeCondition := []
  capacity : K8sNodeResources := {}
  allocatable : K8sNodeResources := {}
  kubeletVersion : String := ""
  containerRuntime : String := ""
  osImage : String := ""
  architecture : String := ""

structure EtcdMember where
  id : String
  name : String
  peerUrls : List String
  clientUrls : List String

structure EtcdStatus extends Models.EtcdStatus F where
  dbSizeMb : F
  quotaAssumed : Bool := false
  leaderId : String := ""
  memberId : String := ""
  isLeader : Bool := false
  raftIndex : Int := 0
  members : List EtcdMember := []

structure K8sComponentStatus where
  name : String := ""
  running : Bool := false
  healthStatus : String := "Unknown"
  uptime : String := ""
  etcdStatus : Option (EtcdStatus F) := none

structure ClusterNode where
  name : String := ""
  ip : String := ""
  /-- `control-plane` or `worker` -/
  role : String := "worker"
  ready : Bool := false
  current : Bool := false
  deriving DecidableEq

structure SSHInfo where
  enabled : Bool := false
  port : Int := 2022

structure KubernetesOverview where
  nodeInfo : K8sNodeInfo := {}
  certificates : List CertificateInfo := []
  apiEndpoint : K8sApiEndpoint := {}
  components : List (K8sComponentStatus F) := []
  sshInfo : SSHInfo := {}

end NodeDebugDashboard.Frontend.Payload
