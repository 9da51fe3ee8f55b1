-- What the modelled functions see of Python: the exceptions they raise and the
-- callback they are given. With the codes of libuv that they look at.
import Mathlib.Data.Int.Notation

namespace pyuv

instance decEqExcept {ε α : Type} [DecidableEq ε] [DecidableEq α] : DecidableEq (Except ε α)
  | .ok a, .ok b => decidable_of_iff (a = b) (by simp)
  | .error e, .error f => decidable_of_iff (e = f) (by simp)
  | .ok _, .error _ => isFalse (by simp)
  | .error _, .ok _ => isFalse (by simp)

/-- The exception classes of CPython and of error.c that the modelled functions raise. -/
inductive ExcType where
  | TypeError | ValueError | OverflowError | UnicodeEncodeError
  | RuntimeError | MemoryError | BufferError
  | HandleError | HandleClosedError
  | AsyncError | TimerError | PrepareError | IdleError | CheckError | SignalError
  | TCPError | PipeError | TTYError | UDPError | PollError
  | FSError | FSEventError | FSPollError | ProcessError | UVError
deriving DecidableEq, Repr

/-- An exception: with a text of the extension, with a text of CPython's own
that is left out, or with a libuv code as RAISE_UV_EXCEPTION builds it. -/
inductive PyErr where
  | text (type : ExcType) (msg : String)
  | cpython (type : ExcType)
  | uv (type : ExcType) (err : Int)
deriving DecidableEq, Repr

/-- RAISE_IF_HANDLE_NOT_INITIALIZED -/
def PyErr.not_initialized : PyErr :=
  .text .RuntimeError "Object was not initialized, forgot to call __init__?"

/-- RAISE_IF_HANDLE_INITIALIZED -/
def PyErr.already_initialized : PyErr :=
  .text .RuntimeError "Object was already initialized"

/-- RAISE_IF_HANDLE_CLOSED -/
def PyErr.handle_closed : PyErr := .text .HandleClosedError "Handle is closing/closed"

/-- An argument `callback`: None, a callable, or something else. -/
inductive CallbackArg where
  | Py_None
  | callable
  | other
deriving DecidableEq, Repr

def UV_EINVAL : Int := -22
def UV_EALREADY : Int := -114
def UV_ECANCELED : Int := -125
def UV_EBUSY : Int := -16
def UV_ENOTCONN : Int := -107

end pyuv
