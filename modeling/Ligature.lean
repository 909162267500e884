import Ligature.Main
import Ligature.Proofs.Alternatives
import Ligature.Proofs.CacheTransparency
import Ligature.Proofs.CompiledRegexes
import Ligature.Proofs.ConfiguredTables
import Ligature.Proofs.ExpressionReading
import Ligature.Proofs.Fragments
import Ligature.Proofs.Lineage
import Ligature.Proofs.MatchLaws
import Ligature.Proofs.OrderedChoice
import Ligature.Proofs.ReaderFrame
import Ligature.Proofs.Reading
import Ligature.Proofs.Refusals
import Ligature.Proofs.Rendering
import Ligature.Proofs.Scanning
import Ligature.Proofs.Splicing
import Ligature.Proofs.TableHistory
import Ligature.Proofs.WalkLaws
import Ligature.Transcript
import Ligature.Proofs.EntrySources
import Ligature.Proofs.Inheritance
import Ligature.Proofs.TableIdentity
import Ligature.Proofs.Numerals
import Ligature.Proofs.Replacement
import Ligature.Proofs.YamlTrees
import Ligature.Proofs.ConfigRoundTrip
import Ligature.Proofs.Gaps
import Ligature.Proofs.Scalars
import Ligature.Proofs.Blocks
import Ligature.Proofs.Tokens
import Ligature.Proofs.ScalarTokens
import Ligature.Proofs.TreeTokens
import Ligature.Proofs.Documents
import Ligature.Proofs.LongestLiteral
import Ligature.Proofs.Anchoring
import Ligature.Proofs.PatternIdentity
import Ligature.Proofs.DiskLaws
import Ligature.Proofs.PathLaws
import Ligature.Proofs.Outcomes
import Ligature.Proofs.SavedFiles
import Ligature.Proofs.RepeatedRuns
import Ligature.Proofs.Batches
import Ligature.Proofs.Ancestors
import Ligature.Proofs.LiteralsKept
import Ligature.Proofs.StepRules
import Ligature.Proofs.Renewal
import Ligature.Proofs.DistinctEnds
import Ligature.Proofs.SameEnds
import Ligature.Proofs.EmbeddedRegexes
import Ligature.Proofs.FirstFaults
import Ligature.Proofs.MalformedExpressions
import Ligature.Proofs.Recency
import Ligature.Proofs.Restarts
import Ligature.Proofs.LastNames
import Ligature.Proofs.Saving
import Ligature.Proofs.Questions
import Ligature.Proofs.Declarations
import Ligature.Proofs.CheckedSets
import Ligature.Proofs.FailedSaves
import Ligature.Proofs.Staleness
import Ligature.Proofs.RegistryOrder
import Ligature.Proofs.SpanLines
