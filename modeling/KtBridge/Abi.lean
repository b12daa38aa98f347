import Mathlib.Data.UInt

/-! # Status codes, completion kinds and bridge errors

The constants and enumerations shared by every export: the negative status
codes, the kinds of completion, and the bridge errors with their wire codes and
texts.
-/

namespace KtBridge

def ktOk : Int := 0
def ktErrPanic : Int := -1
def ktErrInvalidArgument : Int := -2
def ktErrStaleHandle : Int := -3
def ktErrWrongHandleKind : Int := -4
def ktErrShutdown : Int := -5
def ktErrWorkerShutDown : Int := -6
def ktErrCancelled : Int := -7
def ktErrFailed : Int := -8
def ktErrBufferTooSmall : Int := -9

/-- What a completion is about. A completion answers a request or is pushed by
the bridge on its own. -/
inductive KtKind where
  | ack
  | clientConnected
  | rpc
  | taskWorkflowActivation
  | taskActivity
  | taskNexus
  | taskStreamEnd
  | workerFailed
  | ephemeralStarted
  | serverLog
  | log
  deriving DecidableEq, Repr

/-- The wire discriminant of a completion kind. -/
def KtKind.discriminant : KtKind → UInt32
  | .ack => 0
  | .clientConnected => 1
  | .rpc => 2
  | .taskWorkflowActivation => 3
  | .taskActivity => 4
  | .taskNexus => 5
  | .taskStreamEnd => 6
  | .workerFailed => 7
  | .ephemeralStarted => 8
  | .serverLog => 9
  | .log => 10

/-- A failure reported by an export. -/
inductive KtError where
  | invalidArgument (message : String)
  | staleHandle
  | wrongHandleKind
  | shutdown
  | workerShutDown
  | cancelled
  | bufferTooSmall
  | failed (message : String)
  deriving DecidableEq, Repr

namespace KtError

def code : KtError → Int
  | invalidArgument _ => ktErrInvalidArgument
  | staleHandle => ktErrStaleHandle
  | wrongHandleKind => ktErrWrongHandleKind
  | shutdown => ktErrShutdown
  | workerShutDown => ktErrWorkerShutDown
  | cancelled => ktErrCancelled
  | bufferTooSmall => ktErrBufferTooSmall
  | failed _ => ktErrFailed

/-- The text shown for an error. -/
def message : KtError → String
  | invalidArgument message => "invalid argument: " ++ message
  | staleHandle => "stale handle"
  | wrongHandleKind => "handle is not of the expected kind"
  | shutdown => "runtime is shutting down"
  | workerShutDown => "worker already shut down"
  | cancelled => "cancelled"
  | bufferTooSmall => "buffer too small"
  | failed message => message

theorem code_neg (error : KtError) : error.code < 0 := by
  cases error <;> exact Int.negSucc_lt_zero _

/-- An error never carries the status of a success. -/
theorem code_ne_ok (error : KtError) : error.code ≠ ktOk :=
  Int.ne_of_lt error.code_neg

end KtError

/-- How a call into the bridge ends: with a value, with a reported error, or in
a panic that the export boundary contains. -/
inductive Outcome (α : Type) where
  | ok (value : α)
  | error (error : KtError)
  | panic
  deriving DecidableEq, Repr

end KtBridge
