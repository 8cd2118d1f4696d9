import HeaderRecovery.Debug.Builder
import HeaderRecovery.Files.Memory
import HeaderRecovery.Main
import HeaderRecovery.Proofs.AccessLabels
import HeaderRecovery.Proofs.BalancedHeaders
import HeaderRecovery.Proofs.BracketScans
import HeaderRecovery.Proofs.BuildRoot
import HeaderRecovery.Proofs.CharacterLiterals
import HeaderRecovery.Proofs.DeclarationChains
import HeaderRecovery.Proofs.DescribedEntries
import HeaderRecovery.Proofs.EntryForest
import HeaderRecovery.Proofs.ExplicitRoot
import HeaderRecovery.Proofs.FloatLiterals
import HeaderRecovery.Proofs.JoinedPaths
import HeaderRecovery.Proofs.LinewiseOmission
import HeaderRecovery.Proofs.ListedPaths
import HeaderRecovery.Proofs.LoadedKeys
import HeaderRecovery.Proofs.Marks
import HeaderRecovery.Proofs.MemberOffsets
import HeaderRecovery.Proofs.MergeSymmetry
import HeaderRecovery.Proofs.NamespaceBlocks
import HeaderRecovery.Proofs.Nesting
import HeaderRecovery.Proofs.NormalPaths
import HeaderRecovery.Proofs.PlannedFiles
import HeaderRecovery.Proofs.RegistryInvariant
import HeaderRecovery.Proofs.RelativePaths
import HeaderRecovery.Proofs.RepeatedUnits
import HeaderRecovery.Proofs.Repetition
import HeaderRecovery.Proofs.Reprocessing
import HeaderRecovery.Proofs.ResolutionRules
import HeaderRecovery.Proofs.Retention
import HeaderRecovery.Proofs.ShrinkingPasses
import HeaderRecovery.Proofs.SignatureLinks
import HeaderRecovery.Proofs.SpellingReadBack
import HeaderRecovery.Proofs.TextPositions
import HeaderRecovery.Proofs.TypeStubs
import HeaderRecovery.Proofs.TypesInProgress
import HeaderRecovery.Proofs.UnitIsolation
import HeaderRecovery.Proofs.UnitReferences
import HeaderRecovery.Proofs.UnnamedMembers
