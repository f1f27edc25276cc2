import CorpusQuery.Main
import CorpusQuery.Proofs.Cli.CommandLines
import CorpusQuery.Proofs.Cli.Resolution
import CorpusQuery.Proofs.Cli.Translation
import CorpusQuery.Proofs.Cql.Display
import CorpusQuery.Proofs.Cql.Grammar
import CorpusQuery.Proofs.Cql.Legibility
import CorpusQuery.Proofs.Fcs.Acceptance
import CorpusQuery.Proofs.Fcs.Denotation
import CorpusQuery.Proofs.Fcs.Grammar
import CorpusQuery.Proofs.Fcs.Reading
import CorpusQuery.Proofs.Fcs.Segments
import CorpusQuery.Proofs.Fcs.Sequences
import CorpusQuery.Proofs.Json.Members
import CorpusQuery.Proofs.Json.Printed
import CorpusQuery.Proofs.Query.Decoding
import CorpusQuery.Proofs.Query.RoundTrip
import CorpusQuery.Proofs.Text.Words
import CorpusQuery.Proofs.Cli.Reports
import CorpusQuery.Proofs.Cli.Verbosity
import CorpusQuery.Proofs.Cli.Diagnostics
import CorpusQuery.Proofs.Cli.Switches
import CorpusQuery.Proofs.Cli.Formats
import CorpusQuery.Proofs.Query.Kinds
import CorpusQuery.Proofs.Query.Edits
import CorpusQuery.Proofs.Cli.Spellings
import CorpusQuery.Proofs.Cql.Terms
import CorpusQuery.Proofs.Fcs.Bounds
import CorpusQuery.Proofs.Cli.Sessions
import CorpusQuery.Proofs.Text.Letters
import CorpusQuery.Proofs.PartOfSpeech
import CorpusQuery.Proofs.QueryType
import CorpusQuery.Proofs.Config.Layers
import CorpusQuery.Proofs.Query.NamedTypes
import CorpusQuery.Proofs.Cli.Repair
