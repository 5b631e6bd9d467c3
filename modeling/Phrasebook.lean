import Phrasebook.Main
import Phrasebook.Rulebook.InForce
import Phrasebook.Proofs.Text.Cutting
import Phrasebook.Proofs.Text.Folding
import Phrasebook.Proofs.Text.Lines
import Phrasebook.Proofs.Text.Offset
import Phrasebook.Proofs.Text.Utf8
import Phrasebook.Proofs.Charset.Cover
import Phrasebook.Proofs.Charset.Machine
import Phrasebook.Proofs.Wildcard.Reading
import Phrasebook.Proofs.Wildcard.Greedy
import Phrasebook.Proofs.Wildcard.Language
import Phrasebook.Proofs.Wildcard.Search
import Phrasebook.Proofs.Wildcard.Iteration
import Phrasebook.Proofs.Wildcard.Enumeration
import Phrasebook.Proofs.Rule.Reading
import Phrasebook.Proofs.Rule.Rewriting
import Phrasebook.Proofs.Rule.Provenance
import Phrasebook.Proofs.Rule.Literal
import Phrasebook.Proofs.Rule.Folding
import Phrasebook.Proofs.Rule.Grammar
import Phrasebook.Proofs.Rule.Verdicts
import Phrasebook.Proofs.Rule.WellFormed
import Phrasebook.Proofs.Rulebook.Lines
import Phrasebook.Proofs.Rulebook.History
import Phrasebook.Proofs.Rulebook.Invariants
import Phrasebook.Proofs.Rulebook.Reloading
import Phrasebook.Proofs.Rulebook.Session
import Phrasebook.Proofs.Rulebook.LineFeeds
import Phrasebook.Proofs.Files.Tree
import Phrasebook.Proofs.Files.Writing
import Phrasebook.Proofs.Files.Reading
import Phrasebook.Proofs.Files.Entries
import Phrasebook.Proofs.Settings.Loading
import Phrasebook.Proofs.RuleFile.Keeping
import Phrasebook.Proofs.RuleFile.Existing
import Phrasebook.Proofs.CommandLine.Stream
import Phrasebook.Proofs.CommandLine.LineCount
import Phrasebook.Proofs.CommandLine.OneMessage
import Phrasebook.Proofs.CommandLine.Validation
import Phrasebook.Proofs.CommandLine.Effects
import Phrasebook.Proofs.Wildcard.CaseBlind
import Phrasebook.Proofs.RuleFile.ReadingBack
import Phrasebook.Proofs.Rule.Templates
import Phrasebook.Proofs.Rule.Gaps
import Phrasebook.Proofs.RuleFile.Accounting
import Phrasebook.Proofs.Toml.Written
import Phrasebook.Proofs.Settings.Assignments
import Phrasebook.Proofs.Rulebook.InTurn
import Phrasebook.Proofs.Rulebook.Loading
import Phrasebook.Proofs.RuleFile.Remaking
import Phrasebook.Proofs.Wildcard.Joining
import Phrasebook.Proofs.Wildcard.Inclusion
import Phrasebook.Proofs.Rule.Widening
