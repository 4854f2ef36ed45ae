import ClassLowering.Main
import ClassLowering.LogSettings
import ClassLowering.Session.Program
import ClassLowering.Proofs.Heap.References
import ClassLowering.Proofs.Heap.Soundness
import ClassLowering.Proofs.Heap.Steps
import ClassLowering.Proofs.Elaboration.Meaning
import ClassLowering.Proofs.Elaboration.Members
import ClassLowering.Proofs.Elaboration.Assembly
import ClassLowering.Proofs.Elaboration.Prototype
import ClassLowering.Proofs.Runs.Progress
import ClassLowering.Proofs.Runs.Properties
import ClassLowering.Proofs.Elaboration.Soundness
import ClassLowering.Proofs.Runs.Elaboration
import ClassLowering.Proofs.Runs.Bodies
import ClassLowering.Proofs.Runs.Operations
import ClassLowering.Proofs.Runs.SessionOperations
import ClassLowering.Proofs.Runs.Evaluation
import ClassLowering.Proofs.Runs.Nesting
import ClassLowering.Proofs.Runs.Recording
import ClassLowering.Proofs.Runs.Programs
import ClassLowering.Proofs.Depths.Refusals
import ClassLowering.Proofs.Runs.KeysApart
import ClassLowering.Proofs.Depths.HostCalls
import ClassLowering.Proofs.Depths.DeepestLimit
import ClassLowering.Proofs.Depths.Reentry
import ClassLowering.Proofs.Depths.FreshEntries
import ClassLowering.Proofs.Depths.Termination
import ClassLowering.Proofs.Elaboration.Keys
import ClassLowering.Proofs.Elaboration.KeysOnce
import ClassLowering.Proofs.Elaboration.KeyEntries
import ClassLowering.Proofs.Elaboration.KeyBodies
import ClassLowering.Proofs.Heap.ClassNames
import ClassLowering.Proofs.Heap.Owners
import ClassLowering.Proofs.Heap.Rings
import ClassLowering.Proofs.Names.KeyEffects
import ClassLowering.Proofs.Names.Lookup
import ClassLowering.Proofs.Names.InternalNames
import ClassLowering.Proofs.Names.MemberCalls
import ClassLowering.Proofs.Elaboration.KeyTables
import ClassLowering.Proofs.Elaboration.Outcome
import ClassLowering.Proofs.Heap.Fields
import ClassLowering.Proofs.Objects.Guard
import ClassLowering.Proofs.Runs.SingleBodies
import ClassLowering.Proofs.Objects.Construction
import ClassLowering.Proofs.Objects.Protocol
import ClassLowering.Proofs.Objects.ConstructorLink
import ClassLowering.Proofs.Outline.Texts
import ClassLowering.Proofs.Outline.Lines
import ClassLowering.Proofs.Outline.FunctionForm
import ClassLowering.Proofs.Outline.Classes
import ClassLowering.Proofs.Outline.Temporaries
import ClassLowering.Proofs.Outline.Hygiene
import ClassLowering.Proofs.InStep.Likeness
import ClassLowering.Proofs.InStep.Heaps
import ClassLowering.Proofs.InStep.Coupling
import ClassLowering.Proofs.InStep.Properties
import ClassLowering.Proofs.Faults.Shown
import ClassLowering.Proofs.InStep.Elaboration
import ClassLowering.Proofs.InStep.SessionOperations
import ClassLowering.Proofs.InStep.Operations
import ClassLowering.Proofs.InStep.Evaluation
import ClassLowering.Proofs.InStep.Reports
import ClassLowering.Proofs.InStep.Same
import ClassLowering.Proofs.InStep.Following
import ClassLowering.Proofs.Limits.Raised
import ClassLowering.Proofs.Faults.Chains
import ClassLowering.Proofs.Faults.Replaced
import ClassLowering.Proofs.Faults.Uncaught
import ClassLowering.Proofs.Objects.OwnFields
import ClassLowering.Proofs.Objects.Generators
import ClassLowering.Proofs.Names.ScopeForests
import ClassLowering.Proofs.InStep.Stopped
import ClassLowering.Proofs.Objects.ConstructorEntries
import ClassLowering.Proofs.Objects.WithheldEntries
import ClassLowering.Proofs.Objects.WithheldBodies
import ClassLowering.Proofs.Objects.ConstructorBodies
import ClassLowering.Proofs.Objects.SharedEntries
import ClassLowering.Proofs.Objects.Conversions
import ClassLowering.Proofs.Objects.Copies
import ClassLowering.Proofs.Objects.GeneratorBodies
import ClassLowering.Proofs.Number.Rounding
import ClassLowering.Proofs.Number.Intervals
import ClassLowering.Proofs.Number.Shortest
import ClassLowering.Proofs.Number.Floats
import ClassLowering.Proofs.Number.Numerals
import ClassLowering.Proofs.Number.Readings
import ClassLowering.Proofs.Number.Texts
import ClassLowering.Proofs.Outline.StringLiterals
import ClassLowering.Proofs.Outline.QuotedTexts
import ClassLowering.Proofs.Outline.IdentifierTable
import ClassLowering.Proofs.Outline.CharacterRanges
import ClassLowering.Proofs.Outline.Identifiers
import ClassLowering.Proofs.Outline.FunctionNames
import ClassLowering.Proofs.Objects.Invocations
import ClassLowering.Proofs.Outline.SymbolHoisting
import ClassLowering.Proofs.Elaboration.Positions
import ClassLowering.Proofs.Limits.Sustained
import ClassLowering.Proofs.Limits.Scenarios
import ClassLowering.Proofs.CommandLine.Sequence
import ClassLowering.Proofs.Heap.SymbolNumbers
import ClassLowering.Proofs.Runs.SymbolCreations
