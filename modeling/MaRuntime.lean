import MaRuntime.Lib.Run
import MaRuntime.Lib.Threads
import MaRuntime.Lib.Proc
import MaRuntime.Lib.ContentStore
import MaRuntime.Lib.CborCodec
import MaRuntime.Acl
import MaRuntime.World
import MaRuntime.Scheduler
import MaRuntime.Plugin
import MaRuntime.Status
import MaRuntime.Crud.Effect
import MaRuntime.Main
import MaRuntime.Startup
import MaRuntime.FiniteEnv
import MaRuntime.Plugins.Set
import MaRuntime.Plugins.Register
import MaRuntime.Plugins.Hosted
import MaRuntime.Ownership
import MaRuntime.Management
import MaRuntime.Lockout
import MaRuntime.LiveAcl
import MaRuntime.Deadlock
import MaRuntime.KindMirror
import MaRuntime.Snapshot
import MaRuntime.Durability
import MaRuntime.Groups
import MaRuntime.WriteVerbs
import MaRuntime.ParentAuth
import MaRuntime.AclCache
import MaRuntime.ClaimRace
import MaRuntime.ConfigFile
import MaRuntime.EntitySync
import MaRuntime.Atomicity
import MaRuntime.Mediation
import MaRuntime.ManifestHistory
import MaRuntime.DispatchPaths
import MaRuntime.CrudFrame
import MaRuntime.OwnersRestart
import MaRuntime.EntityForest
import MaRuntime.CrudDelete
import MaRuntime.NativeScheduler
import MaRuntime.PinnedHead
import MaRuntime.StateFetch
import MaRuntime.Reexport
import MaRuntime.SnapshotRace
import MaRuntime.VerbCheck
import MaRuntime.GroupDenies
import MaRuntime.ClaimGrant
import MaRuntime.NodeJson
import MaRuntime.Queues
import MaRuntime.UpsertTruth
import MaRuntime.ConfigReadback
import MaRuntime.DeleteGate
import MaRuntime.Durations
import MaRuntime.ScheduleVerb
import MaRuntime.ScheduleTimes
import MaRuntime.EntityNames
import MaRuntime.Lifecycles
import MaRuntime.RandomJobs
import MaRuntime.Lib.SetLog
import MaRuntime.Plugins.Session
import MaRuntime.RegisterMaps
import MaRuntime.SetMembers
import MaRuntime.CounterSync
import MaRuntime.Ipns
import MaRuntime.Republish
import MaRuntime.PluginHost
import MaRuntime.Outbox
import MaRuntime.RootCasts
import MaRuntime.Answers
import MaRuntime.JobOrigins
