import Highlighting.Lexer.Ruby
import Highlighting.Main
import Highlighting.Proofs.CaptureChoice
import Highlighting.Proofs.CaptureNames
import Highlighting.Proofs.Clipping
import Highlighting.Proofs.Coloring
import Highlighting.Proofs.Coverage
import Highlighting.Proofs.FirstMatch
import Highlighting.Proofs.FormAgreement
import Highlighting.Proofs.GlobMatching
import Highlighting.Proofs.Layering
import Highlighting.Proofs.Lookup
import Highlighting.Proofs.Memoization
import Highlighting.Proofs.Narrowing
import Highlighting.Proofs.PaintedMatches
import Highlighting.Proofs.Selection
import Highlighting.Proofs.SharedModes
import Highlighting.Proofs.Spans
import Highlighting.Proofs.StarredExtension
import Highlighting.Proofs.Windowing
import Highlighting.Proofs.DistinctKeys
import Highlighting.Proofs.LineEnds
import Highlighting.Proofs.KeyOrder
import Highlighting.Proofs.Validation
import Highlighting.Proofs.Recognition
import Highlighting.Proofs.ChangedFaces
import Highlighting.Proofs.CommandLines
