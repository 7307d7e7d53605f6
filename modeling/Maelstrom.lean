import Maelstrom.LayerFs.Stream
import Maelstrom.LayerFs.File
import Maelstrom.LayerFs.Table
import Maelstrom.LayerFs.RoundTrip
import Maelstrom.Run.Terminal
import Maelstrom.Run.Steps
import Maelstrom.Run.Visitor
import Maelstrom.Run.Batch
import Maelstrom.Run.Tty
import Maelstrom.Run.TtyRuns
import Maelstrom.Run.TtyEnds
import Maelstrom.GoTest.Output
import Maelstrom.Worker.Fetcher
import Maelstrom.Worker.OpenFiles
