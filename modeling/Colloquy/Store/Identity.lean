import Colloquy.Store.Backend

/-!
# Identity Hooks

Where a store that knows secrets could turn users away. Both stores here hold predicates and no
secrets, so they know nobody who should not pass, and every hook succeeds.

## Main definitions

* `IdentityHook`: What is asked about a user.
* `Backend.passes`: Whether a user passes a hook.
-/

namespace Colloquy

/-- What is asked about a user: whether a secret is theirs, whether they can be taken in with it,
    and whether it can become theirs. -/
inductive IdentityHook where
  | authenticate
  | provision
  | changeSecret
  deriving DecidableEq, Repr

/-- Whether a user with a secret passes a hook. -/
def Backend.passes (_backend : Backend) (_hook : IdentityHook) (_scope : Scope)
    (_secret : String) : Bool :=
  true

end Colloquy
