import FixtureFactory.Main
import FixtureFactory.MarkerCheck
import FixtureFactory.Catalogue
import FixtureFactory.Proofs.BuiltUnits
import FixtureFactory.Proofs.Grouping
import FixtureFactory.Proofs.FixedValues
import FixtureFactory.Proofs.HandingOver
import FixtureFactory.Proofs.Phases
import FixtureFactory.Proofs.Scanning
import FixtureFactory.Proofs.Discovery
import FixtureFactory.Proofs.References
import FixtureFactory.Proofs.BuildCondition
import FixtureFactory.Proofs.AdapterLookup
import FixtureFactory.Proofs.OptionLayer
import FixtureFactory.Proofs.OptionalFields
import FixtureFactory.Proofs.Listing
import FixtureFactory.Proofs.Failures
import FixtureFactory.Proofs.AdapterMap
import FixtureFactory.Proofs.PathFollowing
import FixtureFactory.Proofs.PathTexts
import FixtureFactory.Proofs.Resolution
import FixtureFactory.Proofs.ReadNames
import FixtureFactory.Proofs.SourceScopes
import FixtureFactory.Proofs.Spellings
import FixtureFactory.Proofs.ExternalImports
import FixtureFactory.Proofs.DeclaredShapes
import FixtureFactory.Proofs.WrittenTypes
import FixtureFactory.Proofs.TypeReading
import FixtureFactory.Proofs.ClearPaths
import FixtureFactory.Proofs.AdapterTypes
import FixtureFactory.Proofs.Randomness
import FixtureFactory.Proofs.AdditionOrder
import FixtureFactory.Proofs.Homonyms
import FixtureFactory.Proofs.ScopeEntries
import FixtureFactory.Proofs.FileOrder
import FixtureFactory.Proofs.FieldDefaults
import FixtureFactory.Proofs.MarkerRules
import FixtureFactory.Proofs.FilePaths
import FixtureFactory.Proofs.FileTrees
import FixtureFactory.Proofs.FileLookups
import FixtureFactory.Proofs.FileChanges
import FixtureFactory.Proofs.Writing
import FixtureFactory.Proofs.Preparation
import FixtureFactory.Proofs.FailedWrites
import FixtureFactory.Proofs.GeneratedFiles
import FixtureFactory.Proofs.AdapterKeys
import FixtureFactory.Proofs.ReexportChains
import FixtureFactory.Proofs.ResolvedSegments
import FixtureFactory.Proofs.ResolutionLimit
import FixtureFactory.Proofs.RelativePaths
import FixtureFactory.Proofs.WrappedCases
import FixtureFactory.Proofs.RandomValues
import FixtureFactory.Proofs.AttainedValues
import FixtureFactory.Proofs.SettingLayers
import FixtureFactory.Proofs.TomlTables
import FixtureFactory.Proofs.ResolvedOptions
import FixtureFactory.Proofs.ClassificationRules
import FixtureFactory.Proofs.LetterCase
import FixtureFactory.Proofs.QualifiedTypes
import FixtureFactory.Proofs.ItemNames
import FixtureFactory.Proofs.DeclaredPlaces
import FixtureFactory.Proofs.ExcludedOutput
import FixtureFactory.Proofs.FoundFiles
import FixtureFactory.Proofs.TextOrder
import FixtureFactory.Proofs.RenderedFields
import FixtureFactory.Proofs.UseTrees
import FixtureFactory.Proofs.CollectedSources
import FixtureFactory.Proofs.CaseChanges
import FixtureFactory.Proofs.UnitNames
