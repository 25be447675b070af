import NetLL.Server.Method
import NetLL.Server.Oversize

namespace NetLL
namespace Server

open Decimal

/-!
# When 413 is answered

413 says that a request does not fit.  The reader of the Simulator and of ESP32
has one result for this and for a connection that fails or is closed too
early, so 413 is answered to them as well.  RP2040 closes such a connection
without an answer.
-/

section

variable {platform : Platform} {segments : List (List UInt8)} {ending : Ending} {headerEnd : Nat}

end

/-! ## The condition -/

end Server
end NetLL
