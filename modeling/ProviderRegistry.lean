import ProviderRegistry.Logging
import ProviderRegistry.Main
import ProviderRegistry.Run
import ProviderRegistry.Proofs.Growth
import ProviderRegistry.Settings.Save
import ProviderRegistry.Proofs.Coherence
import ProviderRegistry.Proofs.RegistryCall
import ProviderRegistry.Proofs.LookupCall
import ProviderRegistry.Proofs.RunCalls
import ProviderRegistry.Proofs.SingleInstance
import ProviderRegistry.Proofs.LookupOutcome
import ProviderRegistry.Proofs.KeyTables
import ProviderRegistry.Proofs.IndexedKeys
import ProviderRegistry.Proofs.RegistryRuns
import ProviderRegistry.Proofs.LoaderSize
import ProviderRegistry.Proofs.SingleRegistry
import ProviderRegistry.Proofs.LineGrammar
import ProviderRegistry.Proofs.LineVerdict
import ProviderRegistry.Proofs.ScanOrder
import ProviderRegistry.Proofs.SortedTable
import ProviderRegistry.Proofs.ValidateCommand
import ProviderRegistry.Proofs.SearchPaths
import ProviderRegistry.Proofs.EncodedLines
import ProviderRegistry.Proofs.WrittenLines
import ProviderRegistry.Proofs.TextLayout
import ProviderRegistry.Proofs.LocatorChains
import ProviderRegistry.Proofs.LineDivision
import ProviderRegistry.Proofs.StockedRegistries
import ProviderRegistry.Proofs.NestingDepth
import ProviderRegistry.Proofs.NeedSupply
import ProviderRegistry.Proofs.ServedResources
import ProviderRegistry.Proofs.HomeNeeds
import ProviderRegistry.Proofs.AcyclicNeeds
import ProviderRegistry.Proofs.FinishedLookups
import ProviderRegistry.Proofs.LookupTraces
import ProviderRegistry.Proofs.LikeLoaders
import ProviderRegistry.Proofs.LinkOrder
import ProviderRegistry.Proofs.RunMoments
import ProviderRegistry.Proofs.SourcedRegistries
import ProviderRegistry.Proofs.OwnClasses
import ProviderRegistry.Proofs.Isolation
import ProviderRegistry.Proofs.QuotedText
import ProviderRegistry.Proofs.WrittenValues
import ProviderRegistry.Proofs.WrittenDocument
import ProviderRegistry.Proofs.WrittenSettings
import ProviderRegistry.Proofs.SavedFiles
import ProviderRegistry.Proofs.SavedSettings
import ProviderRegistry.Proofs.LostSettings
import ProviderRegistry.Proofs.KeyClassFamilies
import ProviderRegistry.Proofs.KeyClassQueries
import ProviderRegistry.Proofs.ByteOrder
import ProviderRegistry.Proofs.ListedKeys
import ProviderRegistry.Proofs.MergedTables
import ProviderRegistry.Proofs.SettingsFields
import ProviderRegistry.Proofs.FieldSources
import ProviderRegistry.Proofs.BelowSearchPaths
import ProviderRegistry.Proofs.ManifestOrder
import ProviderRegistry.Proofs.ReportedFile
import ProviderRegistry.Proofs.StartedKeys
import ProviderRegistry.Proofs.EarlyRead
import ProviderRegistry.Proofs.KeptNames
import ProviderRegistry.Proofs.OverriddenKeys
import ProviderRegistry.Proofs.PlainLookups
import ProviderRegistry.Proofs.Renumbering
import ProviderRegistry.Proofs.IndependentLookups
import ProviderRegistry.Proofs.CauseChains
import ProviderRegistry.Proofs.SimpleNames
import ProviderRegistry.Proofs.HolderHistories
