import PyMotor.Lib.Dict
import PyMotor.Lib.Framing
import PyMotor.Lib.Run
import PyMotor.Lib.Lease
import PyMotor.Lib.Replica
import PyMotor.Lib.Window
import PyMotor.Lib.Objects
import PyMotor.Lib.Ledger
import PyMotor.Lib.Lists
import PyMotor.Lib.Bytes
import PyMotor.Lib.Text
import PyMotor.Lib.Json
import PyMotor.Resources.Instance
import PyMotor.Pool.InstanceManager
import PyMotor.Pool.Lemmas.Basic
import PyMotor.Pool.Lemmas.Invariant
import PyMotor.Pool.Lemmas.Consistent
import PyMotor.Pool.Lemmas.Outcome
import PyMotor.Pool.Lemmas.PooledAll
import PyMotor.Pool.Theorems
import PyMotor.Scheduler.Shm
import PyMotor.Scheduler.Server
import PyMotor.Scheduler.Spec
import PyMotor.Scheduler.Lemmas.Snapshot
import PyMotor.Scheduler.Lemmas.Ledger
import PyMotor.Scheduler.Requests
import PyMotor.Scheduler.Lemmas.Entries
import PyMotor.Scheduler.Theorems
import PyMotor.Worker.Client
import PyMotor.Worker.System
import PyMotor.Worker.Lemmas.Index
import PyMotor.Worker.Lemmas.Fetch
import PyMotor.Worker.Theorems
import PyMotor.Router.Dispatch
import PyMotor.Worker.Lemmas.Versions
import PyMotor.Worker.Lemmas.Mirror
import PyMotor.Controller.InstanceManager
import PyMotor.Controller.Instance
import PyMotor.Controller.System
import PyMotor.Controller.Assembler
import PyMotor.Controller.Persistence
import PyMotor.Controller.Pods
import PyMotor.Controller.PodTheorems
import PyMotor.Controller.Lemmas.Transitions
import PyMotor.Controller.Lemmas.Tracked
import PyMotor.Controller.Theorems
import PyMotor.Controller.Replica
import PyMotor.Controller.ProcessSpec
import PyMotor.Controller.Lemmas.Process
import PyMotor.Controller.Lemmas.Assembly
import PyMotor.Controller.FailoverTheorems
import PyMotor.Controller.AssemblySpec
import PyMotor.Controller.Lemmas.Frozen
import PyMotor.Controller.AssemblyTheorems
import PyMotor.Controller.ProcessTheorems
import PyMotor.Controller.Lemmas.Separation
import PyMotor.Controller.Lemmas.Readiness
import PyMotor.Controller.Lemmas.Reports
import PyMotor.Controller.Lemmas.Silence
import PyMotor.Request.RequestManager
import PyMotor.Request.Lemmas.Handler
import PyMotor.Request.Theorems
import PyMotor.Scheduler.Lemmas.Allocate
import PyMotor.Scheduler.Lemmas.Mirror
import PyMotor.Scheduler.Lemmas.Versions
import PyMotor.Rpc.System
import PyMotor.Rpc.Theorems
import PyMotor.Rpc.AccountingTheorems
import PyMotor.Recompute.Common
import PyMotor.Recompute.Stream
import PyMotor.Recompute.Retry
import PyMotor.Recompute.Lemmas.Stream
import PyMotor.Recompute.Rounds
import PyMotor.Recompute.Lemmas.Retry
import PyMotor.Recompute.Lemmas.Nonstream
import PyMotor.Recompute.Theorems
import PyMotor.Router.Base
import PyMotor.Router.PdSeparate
import PyMotor.Router.CdpSeparate
import PyMotor.Router.ContextRouter
import PyMotor.Router.Spec
import PyMotor.Router.StreamMove
import PyMotor.Router.Lemmas.Accounts
import PyMotor.Router.Lemmas.Frames
import PyMotor.Router.Framing
import PyMotor.Router.Lemmas.PdLeg
import PyMotor.Router.Lemmas.Contexts
import PyMotor.Router.Lemmas.PdHandler
import PyMotor.Router.Lemmas.PdMove
import PyMotor.Router.Lemmas.CdpMove
import PyMotor.Router.Lemmas.NonstreamMove
import PyMotor.Router.Lemmas.Runs
import PyMotor.Router.Lemmas.Served
import PyMotor.Router.Theorems
import PyMotor.Cdp.System
import PyMotor.Cdp.Lemmas.Accounts
import PyMotor.Cdp.Theorems
import PyMotor.Zmq.Protocol
import PyMotor.Zmq.Lemmas.RoundTrip
import PyMotor.Zmq.Lemmas.References
import PyMotor.Zmq.Theorems
import PyMotor.Zmq.Transport
import PyMotor.Zmq.Lemmas.Transport
import PyMotor.Management.Server
import PyMotor.Management.Probe
import PyMotor.Etcd.Client
import PyMotor.Etcd.Lemmas
import PyMotor.Etcd.Theorems
import PyMotor.FaultTolerance.FaultManager
import PyMotor.FaultTolerance.System
import PyMotor.FaultTolerance.Lemmas.Nodes
import PyMotor.FaultTolerance.Lemmas.Release
import PyMotor.FaultTolerance.Lemmas.Isolation
import PyMotor.FaultTolerance.Lemmas.Strategies
import PyMotor.FaultTolerance.Theorems
import PyMotor.FaultTolerance.Lemmas.Levels
import PyMotor.Etcd.Restore
import PyMotor.Etcd.RestoreTheorems
import PyMotor.Standby.StandbyManager
import PyMotor.Standby.Theorems
import PyMotor.Daemon.Lemmas.Process
import PyMotor.Daemon.ProcessManager
import PyMotor.Daemon.Theorems
import PyMotor.Daemon.CoordinatorDaemon
import PyMotor.Daemon.Lemmas.Daemon
import PyMotor.NodeManager.HeartbeatManager
import PyMotor.NodeManager.Theorems
import PyMotor.NodeManager.SuicideTheorems
import PyMotor.EngineServer.Health
import PyMotor.EngineServer.HealthTheorems
import PyMotor.NodeManager.Pod
import PyMotor.Metrics.MetricsCollector
import PyMotor.Metrics.Spec
import PyMotor.Metrics.Lemmas.Aggregate
import PyMotor.Metrics.Lemmas.Collect
import PyMotor.Metrics.Theorems
import PyMotor.Metrics.AggregationTheorems
import PyMotor.Metrics.Lemmas.Format
import PyMotor.Router.ContextTheorems
import PyMotor.Resources.EndpointCache
import PyMotor.Controller.Lemmas.Ranks
import PyMotor.NodeManager.Config
import PyMotor.NodeManager.DeviceTheorems
import PyMotor.NodeManager.ContainerTheorems
import PyMotor.Controller.RankTheorems
import PyMotor.Lib.Selection
import PyMotor.Lib.Cycle
import PyMotor.Scheduler.Policies
import PyMotor.Scheduler.BalanceTheorems
import PyMotor.Scheduler.RoundRobinTheorems
import PyMotor.Scheduler.AffinityTheorems
import PyMotor.Resources.ReadOnlyInstance
import PyMotor.Controller.Alarms
import PyMotor.Controller.AlarmStore
import PyMotor.Controller.AlarmTheorems
import PyMotor.Middleware.RateLimiter
import PyMotor.Middleware.RateTheorems
import PyMotor.Middleware.CongestionTheorems
import PyMotor.Metrics.FormatTheorems
import PyMotor.Etcd.RangeTheorems
import PyMotor.Recompute.Filter
import PyMotor.Recompute.FilterTheorems
import PyMotor.Recompute.Adapted
import PyMotor.Recompute.Lemmas.Adapted
import PyMotor.Recompute.AdaptedTheorems
import PyMotor.Request.RequestIdTheorems
import PyMotor.Config.Coordinator
import PyMotor.Config.ReloadTheorems
import PyMotor.Config.SaveTheorems
import PyMotor.Config.WatcherTheorems
import PyMotor.Middleware.MiddlewareTheorems
import PyMotor.Lib.Numeral
import PyMotor.Http.KeyEncryption
import PyMotor.Http.KeyTheorems
import PyMotor.FaultTolerance.MonitorTheorems
import PyMotor.FaultTolerance.ConfigmapParser
import PyMotor.FaultTolerance.ParserTheorems
import PyMotor.Http.ClientPool
import PyMotor.Http.PoolTheorems
import PyMotor.Http.CertUtil
import PyMotor.Http.CertTheorems
import PyMotor.Lib.Struct
import PyMotor.Scheduler.ShmLayout
import PyMotor.Daemon.SubprocessSupervisor
import PyMotor.Daemon.SupervisorTheorems
import PyMotor.Router.TransparencyTheorems
import PyMotor.Standby.Cluster
import PyMotor.Standby.Lemmas.Cluster
import PyMotor.Standby.ClusterTheorems
import PyMotor.Etcd.Writers
import PyMotor.Etcd.WriterTheorems
import PyMotor.Controller.Resync
