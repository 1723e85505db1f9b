import Stencil.Handler
import Stencil.Path
import Stencil.Session
import Stencil.Sample.Script
import Stencil.Sample.Template
import Stencil.Token
import Stencil.Value.Entry
import Stencil.Proofs.Numerals
import Stencil.Proofs.FeedTable
import Stencil.Proofs.TokenReading
import Stencil.Proofs.Pieces
import Stencil.Proofs.Parsing
import Stencil.Proofs.Shape
import Stencil.Proofs.Positions
import Stencil.Proofs.PathGrammar
import Stencil.Proofs.Resolution
import Stencil.Proofs.Tracing
import Stencil.Proofs.Pipeline
import Stencil.Proofs.PathRendering
import Stencil.Proofs.Slices
import Stencil.Proofs.Writable
import Stencil.Proofs.Continuation
import Stencil.Proofs.Options
import Stencil.Proofs.Streaming
import Stencil.Proofs.Precedence
import Stencil.Proofs.Truncation
import Stencil.Proofs.Sampling
import Stencil.Proofs.Naming
import Stencil.Proofs.Respelling
import Stencil.Proofs.LineEndings
import Stencil.Proofs.EscapeExchange
import Stencil.Proofs.UsedNames
import Stencil.Proofs.Alignment
import Stencil.Proofs.Withholding
import Stencil.Proofs.EscapeParity
import Stencil.Proofs.Verbatim
import Stencil.Proofs.EscapeLanguage
import Stencil.Proofs.LabelOrder
import Stencil.Proofs.Refusals
import Stencil.Proofs.PathReading
import Stencil.Proofs.Layers
import Stencil.Proofs.OpenContent
