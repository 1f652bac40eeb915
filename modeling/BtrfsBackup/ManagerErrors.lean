/-
The errors of the system manager (`daemon/dbus/ManagerErrors`).
-/
import BtrfsBackup.Core

namespace BtrfsBackup

inductive ManagerErrorCode where
  | invalidRequest
  | sourceMissing
  | sourceNotSubvolume
  | sourceUnavailable
  | sourceDiscoveryFailed
  | notFound
  | notAuthorized
  | busy
  | runMismatch
  | targetUnavailable
  | conflict
  | saveFailed
  | rollbackIncomplete
  | internalError
  deriving DecidableEq, Repr

/-- What the manager's services throw. -/
inductive ManagerFailure where
  /-- A `ManagerOperationError`. -/
  | operation (code : ManagerErrorCode) (message : String)
  /-- Any other exception. -/
  | exception (e : Thrown)
  deriving DecidableEq, Repr

end BtrfsBackup
