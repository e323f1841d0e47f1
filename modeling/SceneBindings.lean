import SceneBindings.Inquiry
import SceneBindings.Main
import SceneBindings.Session.Running
import SceneBindings.Proofs.Forest.Edits
import SceneBindings.Proofs.Registry.Changes
import SceneBindings.Proofs.Registry.Runs
import SceneBindings.Proofs.Registry.Rebinding
import SceneBindings.Proofs.Registry.PathIndex
import SceneBindings.Proofs.Registry.Uniqueness
import SceneBindings.Proofs.Registry.KeyIndex
import SceneBindings.Proofs.Emit.HookScan
import SceneBindings.Proofs.Naming.Identifiers
import SceneBindings.Proofs.Emit.MachineUnit
import SceneBindings.Proofs.Emit.Differences
import SceneBindings.Proofs.Files.Directories
import SceneBindings.Proofs.Generate.Units
import SceneBindings.Proofs.Generate.Regeneration
import SceneBindings.Proofs.Forest.Descent
import SceneBindings.Proofs.Forest.Housing
import SceneBindings.Proofs.Forest.Locality
import SceneBindings.Proofs.Search.Snapshot
import SceneBindings.Proofs.Search.Answers
import SceneBindings.Proofs.Search.CatchingUp
import SceneBindings.Proofs.Search.Coherence
import SceneBindings.Proofs.Emit.Agreement
import SceneBindings.Proofs.Cli.Jobs
import SceneBindings.Proofs.Files.Writing
import SceneBindings.Proofs.Forest.Paths
import SceneBindings.Proofs.Naming.Separators
import SceneBindings.Proofs.Register.FirstRun
import SceneBindings.Proofs.Register.SecondRun
import SceneBindings.Proofs.Register.Stages
import SceneBindings.Proofs.Emit.Accounting
import SceneBindings.Proofs.Emit.Ordering
import SceneBindings.Proofs.Emit.Scope
import SceneBindings.Proofs.Register.Again
import SceneBindings.Proofs.Scene.Contents
import SceneBindings.Proofs.Scene.Reloading
import SceneBindings.Proofs.Scene.Resaving
import SceneBindings.Proofs.Standardizing.Rerun
import SceneBindings.Proofs.Standardizing.Steps
import SceneBindings.Proofs.Standardizing.Restoring
import SceneBindings.Proofs.Registry.Panels
import SceneBindings.Proofs.Registry.ShownAlone
import SceneBindings.Proofs.Registry.PanelPointers
import SceneBindings.Proofs.Registry.Outcomes
import SceneBindings.Proofs.Registry.RoundTrip
import SceneBindings.Proofs.Standardizing.References
import SceneBindings.Proofs.Naming.PartNames
import SceneBindings.Proofs.Standardizing.Order
import SceneBindings.Proofs.Standardizing.Parts
import SceneBindings.Proofs.Search.Debouncing
import SceneBindings.Proofs.Files.Footprint
import SceneBindings.Proofs.Files.Backups
import SceneBindings.Proofs.Generate.OwnFiles
import SceneBindings.Proofs.Generate.Generators
import SceneBindings.Proofs.Generate.PanelFiles
import SceneBindings.Proofs.Registry.Storable
import SceneBindings.Proofs.Naming.Stripping
import SceneBindings.Proofs.Naming.Spellings
import SceneBindings.Proofs.Forest.Resolving
import SceneBindings.Proofs.Standardizing.OneVisit
import SceneBindings.Proofs.Naming.Letters
import SceneBindings.Proofs.Registry.Reachable
import SceneBindings.Proofs.Registry.Rejections
import SceneBindings.Proofs.Registry.Refreshing
import SceneBindings.Proofs.Registry.Repairing
import SceneBindings.Proofs.Registry.Removing
import SceneBindings.Proofs.Emit.HookRecovery
import SceneBindings.Proofs.Emit.LegalNames
import SceneBindings.Proofs.Emit.Lifecycle
import SceneBindings.Proofs.Emit.Stubs
import SceneBindings.Proofs.Forest.Traversal
import SceneBindings.Proofs.Forest.Integrity
import SceneBindings.Proofs.Files.RelativePaths
import SceneBindings.Proofs.Scene.Failing
import SceneBindings.Proofs.Search.NameParts
import SceneBindings.Proofs.Naming.PartPrefixes
import SceneBindings.Proofs.Naming.NormalForms
