import RegexMatching.Pattern.Survey
import RegexMatching.Session
import RegexMatching.Engine.Pool
import RegexMatching.Proofs.LegalCalls
import RegexMatching.Proofs.CaptureBounds
import RegexMatching.Proofs.FindLoop
import RegexMatching.Proofs.RegionIsolation
import RegexMatching.Proofs.OffsetAgreement
import RegexMatching.Proofs.DirectSearch
import RegexMatching.Proofs.Precompiling
import RegexMatching.Proofs.Anchorings
import RegexMatching.Proofs.Interleaving
import RegexMatching.Proofs.LineEdges
import RegexMatching.Proofs.GroupCounts
import RegexMatching.Proofs.CompiledCalls
import RegexMatching.Proofs.CanonicalLoops
import RegexMatching.Proofs.CanonicalEquivalence
import RegexMatching.Proofs.CallHistory
import RegexMatching.Proofs.AppendCursor
import RegexMatching.Proofs.Restarts
import RegexMatching.Proofs.Failures
import RegexMatching.Proofs.HandleBalance
import RegexMatching.Proofs.Leftovers
import RegexMatching.Proofs.Splits
import RegexMatching.Proofs.Sharing
import RegexMatching.Proofs.Delimiters
import RegexMatching.Proofs.TemplateGrammar
import RegexMatching.Proofs.LiteralPatterns
import RegexMatching.Proofs.LeadingFlags
import RegexMatching.Proofs.PatternBytes
import RegexMatching.Proofs.ReferenceExtent
import RegexMatching.Proofs.QuotedTemplates
import RegexMatching.Proofs.NamedReferences
import RegexMatching.Proofs.OffsetMaps
import RegexMatching.Proofs.BracketExpressions
import RegexMatching.Proofs.GroupLookups
