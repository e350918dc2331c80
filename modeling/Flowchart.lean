import Flowchart.Controller.Gate
import Flowchart.Http.Backend
import Flowchart.Main
import Flowchart.Proofs.FencedReplies
import Flowchart.Proofs.Names
import Flowchart.Proofs.NormalForm
import Flowchart.Proofs.Overlaps
import Flowchart.Proofs.SpelledCharts
import Flowchart.Proofs.StrictGrammar
import Flowchart.Proofs.Histories
import Flowchart.Proofs.Requests
import Flowchart.Proofs.AcceptedCharts
import Flowchart.Proofs.Delivery
import Flowchart.Proofs.Broadcasts
import Flowchart.Proofs.Regenerations
import Flowchart.Proofs.Calls
import Flowchart.Proofs.Semicolons
import Flowchart.Proofs.StrandRules
import Flowchart.Proofs.ArrowLines
import Flowchart.Proofs.Groups
import Flowchart.Proofs.QuotedLabels
import Flowchart.Proofs.TightArrows
import Flowchart.Proofs.Parentheses
import Flowchart.Proofs.Candidates
import Flowchart.Proofs.ClassSuffixes
import Flowchart.Proofs.Insertions
import Flowchart.Proofs.FirstFaults
import Flowchart.Proofs.LoneRegenerations
import Flowchart.Proofs.SessionFields
import Flowchart.Proofs.LargerTexts
import Flowchart.Proofs.OptionGroups
import Flowchart.Proofs.Settings
import Flowchart.Proofs.Cursors
import Flowchart.Proofs.Answers
import Flowchart.Proofs.ByteCursors
import Flowchart.Proofs.Paddings
