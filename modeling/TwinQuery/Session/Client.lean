import TwinQuery.Session.Runner

/-!
# Clients

A client has a runner of its own and shows its transaction in diagnostics.
-/

namespace TwinQuery.Client

/-- The text of a client in diagnostics, given where its transaction stands. -/
def debug (status : TransactionStatus) : String :=
  "NqClient \x7b runner: " ++ Runner.debug status ++ ", .. \x7d"

end TwinQuery.Client
