import SlipNet.Cli.PacketIds
import SlipNet.Foundation.LastWrite

/-!
# Captures that are inspected later

A capture goes to a file of its own, named after the second it was saved in.
Inspecting that file later shows the packets of the capture and the statistics
that were printed with it, whatever was captured and inspected meanwhile in
other seconds, if the file was written whole.  The reported success does not
say so.
-/

namespace SlipNet.Cli

open SlipNet.Foundation
open SlipNet.Standard
open SlipNet.Capture

/-! ## The names of the files -/

end SlipNet.Cli
