import Menagerie.Beaver.Text

/-!
# What every sink keeps

The severity levels, the filter of prefixes, and the state that the base class of the sinks
publishes for the logger: the packed dispatch word, the count of undelivered events and the last
error. The functions that change it run on the strand of the sink, one after the other.
-/

namespace Menagerie.Crow

open Beaver

/-- `LogLevel`. -/
inductive LogLevel
  | trace | debug | info | warning | error | fatal
  deriving DecidableEq, Repr

/-- The value of an enumerator. -/
def LogLevel.code : LogLevel → Nat
  | .trace => 0
  | .debug => 1
  | .info => 2
  | .warning => 3
  | .error => 4
  | .fatal => 5

/-- `static_cast<LogLevel>`, of packed values only. -/
def LogLevel.ofCode : Nat → LogLevel
  | 0 => .trace
  | 1 => .debug
  | 2 => .info
  | 3 => .warning
  | 4 => .error
  | _ => .fatal

/-- `LogEvent`: the fields that decide what becomes of it. -/
structure LogEvent where
  level : LogLevel
  prefixName : Text := []
  message : Text := []
  deriving DecidableEq, Repr

/-- `PrefixFilter::Mode`. -/
inductive PrefixFilterMode
  | allowAll | allowlist | denylist
  deriving DecidableEq, Repr

/-- `PrefixFilter`. -/
structure PrefixFilter where
  mode : PrefixFilterMode := .allowAll
  blockEmpty : Bool := false
  set : List Text := []

/-- `accepts`. -/
def PrefixFilter.accepts (filter : PrefixFilter) (prefixName : Text) : Bool :=
  if prefixName.isEmpty then !filter.blockEmpty
  else
    match filter.mode with
    | .allowAll => true
    | .allowlist => filter.set.contains prefixName
    | .denylist => !filter.set.contains prefixName

/-- `SinkStatus`. -/
inductive SinkStatus
  | healthy | degraded | dead
  deriving DecidableEq, Repr

/-- The value of an enumerator. -/
def SinkStatus.code : SinkStatus → Nat
  | .healthy => 0
  | .degraded => 1
  | .dead => 2

/-- `static_cast<SinkStatus>`, of packed values only. -/
def SinkStatus.ofCode : Nat → SinkStatus
  | 0 => .healthy
  | 1 => .degraded
  | _ => .dead

/-- `DispatchHint`. -/
structure DispatchHint where
  status : SinkStatus
  threshold : LogLevel
  retryAtMs : Nat
  deriving DecidableEq, Repr

/-- `pack_dispatch`: a word of 64 bits. -/
def packDispatch (status : SinkStatus) (threshold : LogLevel) (retryAtMs : Nat) : Nat :=
  (retryAtMs <<< 16) % 2 ^ 64 ||| status.code <<< 8 ||| threshold.code

/-- `unpack_dispatch`. -/
def unpackDispatch (word : Nat) : DispatchHint where
  status := .ofCode (word >>> 8 &&& 0xFF)
  threshold := .ofCode (word &&& 0xFF)
  retryAtMs := word >>> 16

/-- The fields do not overlap, and the deadline has 48 bits. -/
theorem packDispatch_eq (status : SinkStatus) (threshold : LogLevel) (retryAtMs : Nat) :
    packDispatch status threshold retryAtMs =
      2 ^ 16 * (retryAtMs % 2 ^ 48) + (status.code * 256 + threshold.code) := by
  have low : status.code <<< 8 ||| threshold.code = status.code * 256 + threshold.code := by
    cases status <;> cases threshold <;> rfl
  have small : status.code * 256 + threshold.code < 2 ^ 16 := by
    cases status <;> cases threshold <;> decide
  have deadline : (retryAtMs <<< 16) % 2 ^ 64 = 2 ^ 16 * (retryAtMs % 2 ^ 48) := by
    rw [Nat.shiftLeft_eq]
    omega
  rw [packDispatch, Nat.or_assoc, low, deadline, Nat.two_pow_add_eq_or_of_lt small]

@[simp] theorem unpackDispatch_packDispatch (status : SinkStatus) (threshold : LogLevel)
    (retryAtMs : Nat) : unpackDispatch (packDispatch status threshold retryAtMs) =
      ⟨status, threshold, retryAtMs % 2 ^ 48⟩ := by
  have mask (n : Nat) : n &&& 0xFF = n % 2 ^ 8 := Nat.and_two_pow_sub_one_eq_mod n 8
  rw [unpackDispatch, packDispatch_eq, mask, mask, Nat.shiftRight_eq_div_pow,
    Nat.shiftRight_eq_div_pow, DispatchHint.mk.injEq]
  generalize retryAtMs % 2 ^ 48 = deadline
  have statusByte : (2 ^ 16 * deadline + (status.code * 256 + threshold.code)) / 2 ^ 8 % 2 ^ 8 =
      status.code := by
    cases status <;> cases threshold <;> simp only [SinkStatus.code, LogLevel.code] <;> omega
  have thresholdByte : (2 ^ 16 * deadline + (status.code * 256 + threshold.code)) % 2 ^ 8 =
      threshold.code := by
    cases status <;> cases threshold <;> simp only [SinkStatus.code, LogLevel.code] <;> omega
  have rest : (2 ^ 16 * deadline + (status.code * 256 + threshold.code)) / 2 ^ 16 = deadline := by
    cases status <;> cases threshold <;> simp only [SinkStatus.code, LogLevel.code] <;> omega
  rw [statusByte, thresholdByte]
  exact ⟨by cases status <;> rfl, by cases threshold <;> rfl, rest⟩

/-- `retry_due`. -/
def retryDue (hint : DispatchHint) (nowMs : Nat) : Bool :=
  hint.retryAtMs ≤ nowMs

/-- `exponential_backoff`, in milliseconds. -/
def exponentialBackoff (attempt base cap : Nat) : Nat :=
  min (base * 2 ^ min attempt 20) cap

/-- `backoff_ms`. -/
def backoffMs (consecutiveFailures : Nat) : Nat :=
  if consecutiveFailures = 0 then 0 else exponentialBackoff (consecutiveFailures - 1) 1000 60000

/-- `Sink`: the members of the base class. -/
structure Sink where
  dispatchWord : Nat := packDispatch .healthy .trace 0
  undelivered : Nat := 0
  consecutiveFailures : Nat := 0
  lastError : Text := []
  deriving DecidableEq

namespace Sink

/-- `dispatch_hint`. -/
def dispatchHint (sink : Sink) : DispatchHint := unpackDispatch sink.dispatchWord

/-- `get_status`. -/
def getStatus (sink : Sink) : SinkStatus := sink.dispatchHint.status

/-- `add_undelivered`. -/
def addUndelivered (sink : Sink) (count : Nat) : Sink :=
  { sink with undelivered := (sink.undelivered + count) % 2 ^ 64 }

/-- `set_status`. -/
def setStatus (sink : Sink) (status : SinkStatus) (reason : Text) : Sink :=
  let hint := sink.dispatchHint
  { sink with
    lastError := reason
    dispatchWord := packDispatch status hint.threshold hint.retryAtMs }

/-- `publish_threshold`. -/
def publishThreshold (sink : Sink) (threshold : LogLevel) : Sink :=
  let hint := sink.dispatchHint
  { sink with dispatchWord := packDispatch hint.status threshold hint.retryAtMs }

/-- `note_failure`, where the clock shows `nowMs`. -/
def noteFailure (sink : Sink) (nowMs : Nat) : Sink :=
  let hint := sink.dispatchHint
  { sink with
    consecutiveFailures := (sink.consecutiveFailures + 1) % 2 ^ 32
    dispatchWord := packDispatch hint.status hint.threshold
      (nowMs + backoffMs sink.consecutiveFailures) }

/-- `note_success`. -/
def noteSuccess (sink : Sink) : Sink :=
  let hint := sink.dispatchHint
  { sink with
    consecutiveFailures := 0
    dispatchWord := packDispatch hint.status hint.threshold 0 }

@[simp] theorem getStatus_setStatus (sink : Sink) (status : SinkStatus) (reason : Text) :
    (sink.setStatus status reason).getStatus = status := by
  simp [getStatus, dispatchHint, setStatus]

end Sink

end Menagerie.Crow
