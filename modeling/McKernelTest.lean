import McKernelTest.Transition.Core
import McKernelTest.Ledger.Core
import McKernelTest.Text.Format
import McKernelTest.Driver.Device
import McKernelTest.Driver.Setup
import McKernelTest.Driver.Lifetime
import McKernelTest.Posix.Getopt
import McKernelTest.TestApp.Main
import McKernelTest.TestApp.Execve
import McKernelTest.PipeSync.Core
import McKernelTest.PipeSync.Correctness
import McKernelTest.Posix.Semaphore
import McKernelTest.Ptrace.Core
import McKernelTest.Ptrace.Hang
import McKernelTest.CpuProcLimits.Core
import McKernelTest.CpuProcLimits.Hang
import McKernelTest.Posix.Barrier
import McKernelTest.Process.Termination
import McKernelTest.Lv07.Core
import McKernelTest.Lv07.Protocol
import McKernelTest.Lv07.Invariant
import McKernelTest.Lv07.Run
import McKernelTest.Lv07.Terminal
import McKernelTest.Lv07.Order
import McKernelTest.Lv07.Fopen
import McKernelTest.Driver.MmapDev2
import McKernelTest.MmapDev.Core
import McKernelTest.Process.Returns
import McKernelTest.MmapDev.Access
import McKernelTest.MmapDev.History
import McKernelTest.Driver.Publication
import McKernelTest.Driver.Insmod
import McKernelTest.Driver.LoadResult
import McKernelTest.Driver.ProcRead
import McKernelTest.Mremap.Core
import McKernelTest.Mremap.Layout
import McKernelTest.Posix.File
import McKernelTest.Posix.Stream
import McKernelTest.Socket.Server
import McKernelTest.TestApp.Strtoul
import McKernelTest.TestApp.TempFile
import McKernelTest.Autotest.Exclusion
import McKernelTest.Autotest.InStep
import McKernelTest.Autotest.Verdict
import McKernelTest.Tls.Core
import McKernelTest.Tls.Invariant
import McKernelTest.Tls.Rendezvous
import McKernelTest.CpuProcLimits.Descriptors
import McKernelTest.CpuThreadLimits.Core
import McKernelTest.CpuThreadLimits.Split
import McKernelTest.CpuThreadLimits.Sum
import McKernelTest.Gettid.Core
import McKernelTest.Gettid.Oracle
import McKernelTest.Gettimeofday.Restore
import McKernelTest.Kill.Children
import McKernelTest.PipeSync.Detection
import McKernelTest.Posix.CpuSet
import McKernelTest.Ptrace.Verdict
import McKernelTest.RemapFilePages.Core
import McKernelTest.RemapFilePages.Oracle
import McKernelTest.SchedSetaffinity.Migrate
import McKernelTest.Execve.Vector
import McKernelTest.Getrusage.Core
import McKernelTest.Getrusage.Deltas
import McKernelTest.Lv07.Buffer
import McKernelTest.Machine.Align
import McKernelTest.MemLargePage.Core
import McKernelTest.MemLargePage.Probe
import McKernelTest.MemStackLimits.Core
import McKernelTest.MemStackLimits.Frames
import McKernelTest.Procfs.Offset
import McKernelTest.Setfsid.Status
import McKernelTest.Summary.Compare
import McKernelTest.CpuThreadLimits.Barrier
import McKernelTest.CpuThreadLimits.BarrierInvariant
import McKernelTest.CpuThreadLimits.BarrierProgress
import McKernelTest.Posix.Signal
import McKernelTest.SchedSetaffinity.Wakeup
import McKernelTest.SchedSetaffinity.WakeupInvariant
import McKernelTest.SchedSetaffinity.WakeupProgress
import McKernelTest.ProcessVm.Core
import McKernelTest.ProcessVm.Oracle
import McKernelTest.SchedSetaffinity.Threads
import McKernelTest.SchedSetaffinity.ThreadsInvariant
import McKernelTest.SchedSetaffinity.ThreadsProgress
import McKernelTest.Waitid.Core
import McKernelTest.Waitid.Invariant
import McKernelTest.Waitid.Progress
import McKernelTest.Mremap.Checks
import McKernelTest.Mremap.Conforming
