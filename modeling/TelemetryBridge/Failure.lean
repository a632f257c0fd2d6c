import TelemetryBridge.Text.Bytes

/-!
# Failures

Every operation of the bridge that can fail says why by a `Failure`. A failure is a cause with
context around it: the innermost cause is what went wrong (the store holds nothing, the input
ended, a system call on a path was refused, a port is closed, or a failure known only by its
text), and each layer that passes it on adds a context of its own, written before it and
separated by a colon and a space.

Callers look through the context for some causes: whether a failure *reaches* `noData`, the
opening of a port, a closed port or the end of the input decides how it is logged and
reported. A missing path counts only as the failure itself: once context is added, the failure
no longer says that a file does not exist.

Main definitions: `Failure`, `Failure.message`, `Failure.kind`.
-/

namespace TelemetryBridge

/-- What a system call on a path can answer. -/
inductive OsError where
  /-- The path, or a directory on the way to it, does not exist. -/
  | noEntry
  /-- A component on the way to the path is a file. -/
  | notDirectory
  /-- The path is a directory where a file is needed. -/
  | isDirectory
  /-- The path is not a terminal device. -/
  | notTerminal
  deriving Repr, DecidableEq, Inhabited

/-- The text of a system error. -/
def OsError.message : OsError → String
  | .noEntry => "no such file or directory"
  | .notDirectory => "not a directory"
  | .isDirectory => "is a directory"
  | .notTerminal => "inappropriate ioctl for device"

/-- Why an operation failed. -/
inductive Failure where
  /-- A failure known only by its text. -/
  | text (message : Bytes)
  /-- A store was reached but holds nothing to read. -/
  | noData
  /-- The input ended before its first value. -/
  | endOfInput
  /-- A system call (`op`: open, read, stat) on a path failed. -/
  | os (op : String) (path : Bytes) (err : OsError)
  /-- A frame was sent while no port is open. -/
  | portClosed
  /-- Opening the named serial port failed. -/
  | openFailed (port : Bytes) (cause : Failure)
  /-- A failure passed on with context. -/
  | context (what : Bytes) (cause : Failure)
  deriving Repr, DecidableEq, Inhabited

namespace Failure

/-- A failure known by a text given as a string. -/
def say (s : String) : Failure := .text (Bytes.ofString s)

/-- A failure passed on with context given as a string. -/
def within (what : String) (cause : Failure) : Failure := .context (Bytes.ofString what) cause

/-- The failure of a request whose time allowance ran out before it was served. -/
def deadlineExceeded : Failure := say "context deadline exceeded"

/-- The text of a failure: the contexts, outermost first, then the cause. -/
def message : Failure → Bytes
  | .text m => m
  | .noData => Bytes.ofString "no data available"
  | .endOfInput => Bytes.ofString "EOF"
  | .os op p e => Bytes.ofString (op ++ " ") ++ p ++ Bytes.ofString (": " ++ e.message)
  | .portClosed => Bytes.ofString "serial port is closed"
  | .openFailed port c =>
    Bytes.ofString "failed to open serial port " ++ port ++ Bytes.ofString ": " ++ c.message
  | .context w c => w ++ Bytes.ofString ": " ++ c.message

/-- Whether the failure or any cause inside it satisfies `p`. -/
def reaches (p : Failure → Bool) : Failure → Bool
  | .openFailed port c => p (.openFailed port c) || reaches p c
  | .context w c => p (.context w c) || reaches p c
  | f => p f

/-- The classes of failure that callers tell apart. -/
inductive Kind where
  | noData
  | openFailed
  | portClosed
  | notExist
  | endOfInput
  | other
  deriving Repr, DecidableEq, Inhabited

/-- The class of a failure, by the first test that holds: it reaches `noData`, it reaches the
opening of a port, it reaches a closed port, it is itself a missing path, it reaches the end of
the input. -/
def kind (f : Failure) : Kind :=
  if f.reaches (· matches .noData) then .noData
  else if f.reaches (· matches .openFailed _ _) then .openFailed
  else if f.reaches (· matches .portClosed) then .portClosed
  else if f matches .os _ _ .noEntry then .notExist
  else if f.reaches (· matches .endOfInput) then .endOfInput
  else .other

end Failure

end TelemetryBridge
