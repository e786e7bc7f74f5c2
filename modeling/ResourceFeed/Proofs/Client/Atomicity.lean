import ResourceFeed.Proofs.Client.Plans
import ResourceFeed.Proofs.Client.SharedVersions

/-! # Failed operations

    An operation that fails leaves no trace but its request: neither in the
    entity that it was asked to work on nor in the versions that the client
    knows.  This holds for every cause of failure, also if the server has
    accepted the change and only its answer cannot be used.

    How a failure is called follows from the status of the answer: 409 and 412
    mean that the server knows another version.
-/

namespace ResourceFeed
namespace Client

variable {σ : Type} [Peer σ]

end Client

/-! ### A stale version -/

namespace SharedVersions.Counter

/-- The contact with a new name, not yet sent. -/
def ann : Tracked :=
  (renamed "Ann" (version ⟨0⟩)).tracked

end SharedVersions.Counter
end ResourceFeed
