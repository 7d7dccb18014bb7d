import TaskKernel.Guard.Section
import TaskKernel.Kernel.Call
import TaskKernel.Machine.Scenario
import TaskKernel.Main
import TaskKernel.Processor.Routines
import TaskKernel.Proofs.Queues
import TaskKernel.Proofs.Requests
import TaskKernel.Proofs.Bookkeeping
import TaskKernel.Proofs.Histories
import TaskKernel.Proofs.Consistency
import TaskKernel.Proofs.Executing
import TaskKernel.Proofs.EmptyQueue
import TaskKernel.Proofs.ActiveLevel
import TaskKernel.Proofs.Decisions
import TaskKernel.Proofs.Switching
import TaskKernel.Proofs.InStep
import TaskKernel.Word
import TaskKernel.Proofs.Waking
import TaskKernel.Proofs.Succession
import TaskKernel.Proofs.Lifetimes
import TaskKernel.Proofs.Records
import TaskKernel.Proofs.ExitCodes
import TaskKernel.Proofs.Waiters
import TaskKernel.Proofs.TaskByTask
import TaskKernel.Proofs.Expiry
import TaskKernel.Proofs.Mail
import TaskKernel.Proofs.Agenda
import TaskKernel.Proofs.Punctual
import TaskKernel.Proofs.TickLoop
import TaskKernel.Proofs.Steps
import TaskKernel.Proofs.Wakeups
import TaskKernel.Proofs.Cadence
import TaskKernel.Proofs.Arrivals
import TaskKernel.Proofs.Overtaking
import TaskKernel.Proofs.SavedContexts
import TaskKernel.Proofs.Refusals
import TaskKernel.Proofs.Numbering
import TaskKernel.Proofs.Composition
import TaskKernel.Proofs.Conduct
import TaskKernel.Proofs.Clients
import TaskKernel.Proofs.InterruptFlag
import TaskKernel.Proofs.Reentrancy
import TaskKernel.Proofs.Words
import TaskKernel.Proofs.Runs
import TaskKernel.Proofs.Transfer
import TaskKernel.Proofs.Interruption
import TaskKernel.Proofs.FrameSupply
import TaskKernel.Proofs.RoundRobin
import TaskKernel.Proofs.Bystanders
import TaskKernel.Proofs.Calls
import TaskKernel.Proofs.Flows
import TaskKernel.Proofs.HeldKeys
import TaskKernel.Proofs.Capitals
import TaskKernel.Proofs.Stimuli
import TaskKernel.Proofs.Keystrokes
import TaskKernel.Proofs.Scan
import TaskKernel.Proofs.Retirement
import TaskKernel.Proofs.Handover
import TaskKernel.Proofs.FirstStack
import TaskKernel.Proofs.Labels
import TaskKernel.Proofs.Blocking
import TaskKernel.Proofs.Endings
import TaskKernel.Proofs.FrameCount
import TaskKernel.Proofs.Headroom
import TaskKernel.Proofs.Masks
