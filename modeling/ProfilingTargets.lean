import ProfilingTargets.Burner
import ProfilingTargets.Detached
import ProfilingTargets.Heap.Allocator
import ProfilingTargets.Heap.Interleaving
import ProfilingTargets.Leak
import ProfilingTargets.Log.Logger
import ProfilingTargets.Main
import ProfilingTargets.Session
import ProfilingTargets.Proofs.Process.Jobs
import ProfilingTargets.Proofs.Process.Ownership
import ProfilingTargets.Proofs.Process.Lock
import ProfilingTargets.Proofs.Heap.Accounting
import ProfilingTargets.Proofs.Heap.Interleaving
import ProfilingTargets.Proofs.CommandLine.LongFlags
import ProfilingTargets.Proofs.CommandLine.Parser
import ProfilingTargets.Proofs.FileSystem
import ProfilingTargets.Proofs.Process.Turns
import ProfilingTargets.Proofs.Process.Writing
import ProfilingTargets.Proofs.Process.Runaway
import ProfilingTargets.Proofs.Burner
import ProfilingTargets.Proofs.Http.Wire
import ProfilingTargets.Proofs.Process.Requests
import ProfilingTargets.Proofs.Process.Admission
import ProfilingTargets.Proofs.Process.Answers
import ProfilingTargets.Proofs.Process.Files
import ProfilingTargets.Proofs.Leak
import ProfilingTargets.Proofs.Text.FormUrlencoded
import ProfilingTargets.Proofs.Text.Numeral
import ProfilingTargets.Proofs.Server.Seconds
import ProfilingTargets.Proofs.Text.Blank
import ProfilingTargets.Proofs.Text.Position
import ProfilingTargets.Proofs.CommandLine.Positions
import ProfilingTargets.Proofs.CommandLine.Spellings
import ProfilingTargets.Proofs.Threads
import ProfilingTargets.Proofs.Workload
import ProfilingTargets.Proofs.Burn
import ProfilingTargets.Proofs.Heap.Report
import ProfilingTargets.Proofs.Threads.Dump
import ProfilingTargets.Proofs.Burner.Unprofiled
import ProfilingTargets.Proofs.Server.Refusal
import ProfilingTargets.Proofs.Threads.Listing
import ProfilingTargets.Proofs.Workload.Counting
import ProfilingTargets.Proofs.Workload.Product
