import FacilitatorX402.Http.StreamConnection
import FacilitatorX402.Infrastructure.SettlementPubSub
import FacilitatorX402.Protocol.JsonText

/-!
# Messages on settlement channels

What `publishSettlementUpdate` puts on a channel, and what the `message` handler of the one subscriber makes
of a message. How a value that is no string is printed is a parameter; printing it may throw.
-/

namespace FacilitatorX402

open JsonText FacilitatorX402.Stream

end FacilitatorX402
