import Symbolizer.Proofs.Program.Outcome

set_option autoImplicit false

namespace Symbolizer

namespace Store

end Store

namespace Program

section Journal

variable {files : FileSystem} (host : Host) {arguments : Arguments}

end Journal

section PathThroughFile

open Preflight (smallTree)

end PathThroughFile

end Program

end Symbolizer
