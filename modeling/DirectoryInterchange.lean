import DirectoryInterchange.Text.Base64
import DirectoryInterchange.Text.Ascii
import DirectoryInterchange.Text.Blank
import DirectoryInterchange.Element.Tree
import DirectoryInterchange.Element.Container
import DirectoryInterchange.Element.Outline
import DirectoryInterchange.Element.Frame
import DirectoryInterchange.Element.Buffer
import DirectoryInterchange.Message.Frame
import DirectoryInterchange.Record.Writer
import DirectoryInterchange.Block.Decoding
import DirectoryInterchange.Reading.Answers
import DirectoryInterchange.FileSystem.Folder
import DirectoryInterchange.Main
import DirectoryInterchange.Proofs.Element.Delivery
import DirectoryInterchange.Proofs.Element.Stream
import DirectoryInterchange.Proofs.Element.Agreement
import DirectoryInterchange.Proofs.Element.Encoding
import DirectoryInterchange.Proofs.Element.Integer
import DirectoryInterchange.Proofs.Element.Writing
import DirectoryInterchange.Proofs.Element.Bracketing
import DirectoryInterchange.Proofs.Element.Nesting
import DirectoryInterchange.Proofs.Element.Meeting
import DirectoryInterchange.Proofs.Element.Walking
import DirectoryInterchange.Proofs.Element.Pieces
import DirectoryInterchange.Proofs.Element.Actions
import DirectoryInterchange.Proofs.Element.Requests
import DirectoryInterchange.Proofs.Element.Passing
import DirectoryInterchange.Proofs.Element.Header
import DirectoryInterchange.Proofs.Element.Skipping
import DirectoryInterchange.Proofs.Element.Counting
import DirectoryInterchange.Proofs.Element.Extents
import DirectoryInterchange.Proofs.Element.Enclosure
import DirectoryInterchange.Proofs.Element.Depth
import DirectoryInterchange.Proofs.Element.Breaking
import DirectoryInterchange.Proofs.Element.Ending
import DirectoryInterchange.Proofs.Message.Form
import DirectoryInterchange.Proofs.Message.RoundTrip
import DirectoryInterchange.Proofs.Reading.Adjusted
import DirectoryInterchange.Proofs.Reading.Pool.Invariant
import DirectoryInterchange.Proofs.Reading.Pool.Progress
import DirectoryInterchange.Proofs.Reading.Pool.Refinement
import DirectoryInterchange.Proofs.Reading.Pool.Termination
import DirectoryInterchange.Proofs.Reading.Pool.Answers
import DirectoryInterchange.Proofs.Reading.Pool.Losses
import DirectoryInterchange.Proofs.Reading.Pool.Starvation
import DirectoryInterchange.Proofs.Reading.Pool.Occupancy
import DirectoryInterchange.Proofs.Reading.Pool.Told
import DirectoryInterchange.Proofs.Reading.Pool.Finality
import DirectoryInterchange.Proofs.Block.Description
import DirectoryInterchange.Proofs.Block.Paragraphs
import DirectoryInterchange.Proofs.Block.Pushing
import DirectoryInterchange.Proofs.Block.Reflection
import DirectoryInterchange.Proofs.Block.Partition
import DirectoryInterchange.Proofs.Text.Base64
import DirectoryInterchange.Proofs.Record.Rendering
import DirectoryInterchange.Proofs.Block.Line
import DirectoryInterchange.Proofs.Record.Folding
import DirectoryInterchange.Proofs.Block.Parsing
import DirectoryInterchange.Proofs.Block.Values
import DirectoryInterchange.Proofs.Block.Image
import DirectoryInterchange.Proofs.Block.RoundTrip
import DirectoryInterchange.Proofs.Reading.Lines
import DirectoryInterchange.Proofs.Reading.Document
import DirectoryInterchange.Proofs.Reading.Calls
import DirectoryInterchange.Proofs.Reading.Rereading
import DirectoryInterchange.Proofs.Reading.Layout
import DirectoryInterchange.Proofs.Reading.Relayout
import DirectoryInterchange.Proofs.Program.Outlining
import DirectoryInterchange.Proofs.Program.Reformatting
import DirectoryInterchange.Proofs.Element.Framing
import DirectoryInterchange.Proofs.Element.Shortening
import DirectoryInterchange.Proofs.Message.Canonical
import DirectoryInterchange.Proofs.Program.Converting
import DirectoryInterchange.Proofs.Element.Splitting
import DirectoryInterchange.Proofs.Block.Grammar
import DirectoryInterchange.Proofs.Block.WellFormed
import DirectoryInterchange.Proofs.Block.Gathering
import DirectoryInterchange.Proofs.Block.Matching
import DirectoryInterchange.Proofs.Block.Stripping
import DirectoryInterchange.Proofs.Block.Rejecting
import DirectoryInterchange.Proofs.Block.Policies
import DirectoryInterchange.Proofs.Block.Numberless
import DirectoryInterchange.Proofs.Reading.Shifting
import DirectoryInterchange.Proofs.Reading.Independence
import DirectoryInterchange.Proofs.Element.Remembering
import DirectoryInterchange.Proofs.Block.Modifying
import DirectoryInterchange.Proofs.Block.Controls
import DirectoryInterchange.Proofs.Block.Unfolding
import DirectoryInterchange.Proofs.Record.Segments
import DirectoryInterchange.Proofs.Element.TwosComplement
import DirectoryInterchange.Proofs.Element.Position
import DirectoryInterchange.Proofs.Reading.Requests
import DirectoryInterchange.Proofs.Reading.Failures
