import Manifest.CommandLine.FileTree
import Manifest.Main
import Manifest.Proofs.FieldAccount
import Manifest.Proofs.FormerNames
import Manifest.Proofs.LoadedParts
import Manifest.Proofs.LoadedTargets
import Manifest.Proofs.OrderedValues
import Manifest.Proofs.StrictMode
import Manifest.Proofs.JsonFormats
import Manifest.Proofs.NullMembers
import Manifest.Proofs.PropertyFields
import Manifest.Proofs.Migration
import Manifest.Proofs.ExitCodes
import Manifest.Proofs.PropertyLayout
import Manifest.Proofs.Commands
import Manifest.Proofs.WrittenCommands
import Manifest.Proofs.Reports
import Manifest.Proofs.StrictRuns
import Manifest.Proofs.DirectoryRuns
import Manifest.Proofs.ParticleTargets
import Manifest.Proofs.ProjectPage
import Manifest.Proofs.TopLevelRules
import Manifest.Proofs.DefaultTargets
import Manifest.Proofs.Maintainers
import Manifest.Proofs.WrittenAuthors
import Manifest.Proofs.DownloadPlaces
import Manifest.Proofs.TakenVersion
import Manifest.Proofs.KeywordSets
import Manifest.Proofs.ListedTokens
import Manifest.Proofs.AlternativeSpellings
import Manifest.Proofs.AtWords
import Manifest.Proofs.NormalOrder
import Manifest.Proofs.IndependentFields
import Manifest.Proofs.KeptMembers
