import WasmTasks.Text.Quoted
import WasmTasks.Path
import WasmTasks.Cache.Basic
import WasmTasks.Cache.Resolve
import WasmTasks.CommandLine.Arguments
import WasmTasks.CommandLine.Run
import WasmTasks.Document.View
import WasmTasks.Guest.Format
import WasmTasks.Main
import WasmTasks.Protocol.Script
import WasmTasks.Proofs.Cache.Clearing
import WasmTasks.Proofs.Cache.Coherence
import WasmTasks.Proofs.Cache.Live
import WasmTasks.Proofs.Cache.History
import WasmTasks.Proofs.Cache.Balance
import WasmTasks.Proofs.Cache.Purge
import WasmTasks.Proofs.Cache.Resolving
import WasmTasks.Proofs.Cache.Sweep
import WasmTasks.Proofs.Cache.Workspace
import WasmTasks.Proofs.Cache.Transparency
import WasmTasks.Proofs.FileTree.Spelling
import WasmTasks.Proofs.FileTree.Names
import WasmTasks.Proofs.FileTree.Walk
import WasmTasks.Proofs.FileTree.Proper
import WasmTasks.Proofs.FileTree.Discovery
import WasmTasks.Proofs.Cache.Presence
import WasmTasks.Proofs.Cache.PolicySteps
import WasmTasks.Proofs.Cache.Replacement
import WasmTasks.Proofs.Cache.Inclusion
import WasmTasks.Proofs.Cache.Adaptive
import WasmTasks.Proofs.Cache.Scan
import WasmTasks.Proofs.Task.Shared
import WasmTasks.Proofs.Task.Registry
import WasmTasks.Proofs.Task.Lifecycle
import WasmTasks.Proofs.Task.Evolution
import WasmTasks.Proofs.Config.RoundTrip
import WasmTasks.Proofs.Driver.Calls
import WasmTasks.Proofs.Driver.Phases
import WasmTasks.Proofs.Driver.Reservation
import WasmTasks.Proofs.Driver.Uninterrupted
import WasmTasks.Proofs.Engine.Checkpoints
import WasmTasks.Proofs.Engine.Errand
import WasmTasks.Proofs.Engine.Watched
import WasmTasks.Proofs.Engine.Interruption
import WasmTasks.Proofs.Protocol.Agreement
import WasmTasks.Proofs.Protocol.Forgetting
import WasmTasks.Proofs.Protocol.Transcript
import WasmTasks.Proofs.Protocol.Course
import WasmTasks.Proofs.Engine.EarlyStop
import WasmTasks.Proofs.Engine.Calm
import WasmTasks.Proofs.Engine.Sharing
import WasmTasks.Proofs.Engine.Isolation
import WasmTasks.Proofs.Cache.Likeness
import WasmTasks.Proofs.Cache.PolicyApart
import WasmTasks.Proofs.Cache.Renewal
import WasmTasks.Proofs.Cache.Stock
import WasmTasks.Proofs.Driver.Creation
import WasmTasks.Proofs.Cache.PolicyRespelling
import WasmTasks.Proofs.Cache.Respelling
import WasmTasks.Proofs.Guest.Calls
import WasmTasks.Proofs.Protocol.Staging
import WasmTasks.Proofs.Driver.Failures
import WasmTasks.Proofs.Cache.PolicyContract
import WasmTasks.Proofs.Config.Spelling
