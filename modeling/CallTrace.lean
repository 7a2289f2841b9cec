import CallTrace.Main
import CallTrace.Scenario
import CallTrace.Proofs.InStep
import CallTrace.Proofs.SharedEntries
import CallTrace.Proofs.Leftovers
import CallTrace.Proofs.History
import CallTrace.Proofs.Attribution
import CallTrace.Proofs.SnapshotPlan
import CallTrace.Proofs.TraceLines
import CallTrace.Proofs.OptionTokens
import CallTrace.Proofs.LoadBias
import CallTrace.Proofs.Rebasing
import CallTrace.Proofs.OptionSettings
import CallTrace.Proofs.OptionQuoting
import CallTrace.Proofs.PlannedLines
import CallTrace.Proofs.ListedEntries
import CallTrace.Proofs.LoadAtomicity
import CallTrace.Proofs.UnloadEffect
import CallTrace.Proofs.WrittenMappings
import CallTrace.Proofs.RepeatedLoads
import CallTrace.Proofs.PlanDocuments
import CallTrace.Proofs.PlanTexts
import CallTrace.Proofs.PlanDelivery
import CallTrace.Proofs.ModuleCounts
import CallTrace.Proofs.LoadLog
