import TriggerScript.Agenda.Handoff
import TriggerScript.Agenda.Routine
import TriggerScript.Main
import TriggerScript.Proofs.Agenda.Handover
import TriggerScript.Proofs.Agenda.Rearming
import TriggerScript.Proofs.Decimal.ReadBack
import TriggerScript.Proofs.Diagnostics.Bracketing
import TriggerScript.Proofs.Engine.OptionsFile
import TriggerScript.Proofs.Engine.Sections
import TriggerScript.Proofs.Engine.Serving
import TriggerScript.Proofs.Engine.Substitution
import TriggerScript.Proofs.Outline.Blanking
import TriggerScript.Proofs.Outline.RoundTrip
import TriggerScript.Proofs.Parsing.BodyGraph
import TriggerScript.Proofs.Parsing.Checks
import TriggerScript.Proofs.Parsing.Constants
import TriggerScript.Proofs.Parsing.DelayExact
import TriggerScript.Proofs.Parsing.Depicts
import TriggerScript.Proofs.Parsing.Descriptions
import TriggerScript.Proofs.Parsing.FirstMatch
import TriggerScript.Proofs.Parsing.Interpolation
import TriggerScript.Proofs.Parsing.LoopValues
import TriggerScript.Proofs.Parsing.Reports
import TriggerScript.Proofs.Parsing.Selection
import TriggerScript.Proofs.Parsing.Singles
import TriggerScript.Proofs.Parsing.TypedRuns
import TriggerScript.Proofs.Parsing.Verbatim
import TriggerScript.Proofs.Parsing.Warnings
import TriggerScript.Proofs.Pattern.AnyCase
import TriggerScript.Proofs.Pattern.Normal
import TriggerScript.Proofs.Pattern.PlainWords
import TriggerScript.Proofs.Pattern.RoundTrip
import TriggerScript.Proofs.Pattern.Spans
import TriggerScript.Proofs.Pattern.Spelling
import TriggerScript.Proofs.Text.Listing
import TriggerScript.Proofs.Text.Parentheses
import TriggerScript.Proofs.Text.Quoting
import TriggerScript.Proofs.Types.Registering
import TriggerScript.Proofs.Types.Symmetry
import TriggerScript.Proofs.Vocabulary.EventValues
import TriggerScript.Proofs.Vocabulary.LoopNumbers
import TriggerScript.Proofs.Vocabulary.Patterns
import TriggerScript.Proofs.Vocabulary.Template
import TriggerScript.Vocabulary.Declared
import TriggerScript.World.Bench
