import Menagerie.Crow.Sink
import Menagerie.Library.Transition

/-!
# Concurrent updates of the dispatch word

`Sink::update_dispatch` and the calls that use it, on one sink and from any number of threads. Every
atomic operation is a step. So is the write of the reason, which `state_mutex_` keeps apart from the
other accesses to it.
-/

namespace Menagerie.Crow.DispatchWord

open Beaver Transition Function List

/-- The calls that change the word. -/
inductive Call
  | setStatus (status : SinkStatus) (reason : Text)
  | publishThreshold (threshold : LogLevel)
  | noteFailure
  | noteSuccess

/-- The `transform` of `update_dispatch`, by its field. -/
inductive Transform
  | status (status : SinkStatus)
  | threshold (threshold : LogLevel)
  | retryAt (retryAt : Nat)
  deriving DecidableEq

def Transform.apply : Transform → DispatchHint → Nat
  | .status value, hint => packDispatch value hint.threshold hint.retryAtMs
  | .threshold value, hint => packDispatch hint.status value hint.retryAtMs
  | .retryAt value, hint => packDispatch hint.status hint.threshold value

/-- What a thread does next. -/
inductive Point
  | idle
  | record (status : SinkStatus) (reason : Text)
  | countFailure
  | steadyNow (failures : Nat)
  | resetFailures
  | load (transform : Transform)
  | exchange (transform : Transform) (expected : Nat)
  deriving DecidableEq

def Call.start : Call → Point
  | .setStatus status reason => .record status reason
  | .publishThreshold threshold => .load (.threshold threshold)
  | .noteFailure => .countFailure
  | .noteSuccess => .resetFailures

/-- Every operation but a successful exchange; a failed one reads the word again. -/
def Point.advance (sink : Sink) (nowMs : Nat) : Point → Option (Sink × Point)
  | .idle => none
  | .record status reason => some ({ sink with lastError := reason }, .load (.status status))
  | .countFailure =>
    some ({ sink with consecutiveFailures := (sink.consecutiveFailures + 1) % 2 ^ 32 },
      .steadyNow sink.consecutiveFailures)
  | .steadyNow failures => some (sink, .load (.retryAt ((nowMs + backoffMs failures) % 2 ^ 64)))
  | .resetFailures => some ({ sink with consecutiveFailures := 0 }, .load (.retryAt 0))
  | .load transform | .exchange transform _ => some (sink, .exchange transform sink.dispatchWord)

/-- A successful exchange: its thread, the number of the call and the update. -/
structure Commit where
  thread : Nat
  call : Nat
  transform : Transform

/-- The word and the threads. -/
structure State where
  sink : Sink := {}
  threads : Nat → Point := fun _ => .idle
  calls : Nat → List Call := fun _ => []
  commits : List Commit := []

inductive Label
  | call (thread : Nat) (call : Call)
  | advance (thread nowMs : Nat)
  | commit (thread : Nat)

def Label.thread : Label → Nat
  | .call thread _ | .advance thread _ | .commit thread => thread

def step (s : State) : Label → Option State
  | .call thread call =>
    if s.threads thread = .idle then
      some { s with
        threads := Function.update s.threads thread call.start
        calls := Function.update s.calls thread (call :: s.calls thread) }
    else none
  | .advance thread nowMs =>
    ((s.threads thread).advance s.sink nowMs).map fun (sink, point) =>
      { s with sink := sink, threads := Function.update s.threads thread point }
  | .commit thread =>
    match s.threads thread with
    | .exchange transform expected =>
      if s.sink.dispatchWord = expected then
        some { s with
          sink := { s.sink with dispatchWord := transform.apply (unpackDispatch expected) }
          threads := Function.update s.threads thread .idle
          commits := ⟨thread, (s.calls thread).length, transform⟩ :: s.commits }
      else none
    | _ => none

def system : System State Label where
  initial s := s = {}
  step := step

/-- The value that an update writes into a field. -/
def Transform.status? : Transform → Option SinkStatus
  | .status value => some value
  | _ => none

/-- The threshold it sets. -/
def Transform.threshold? : Transform → Option LogLevel
  | .threshold value => some value
  | _ => none

/-- The retry time it sets. -/
def Transform.retryAt? : Transform → Option Nat
  | .retryAt value => some value
  | _ => none

/-- For each field the last committed value, or the initial one. -/
def lastCommitted (commits : List Commit) : DispatchHint where
  status := (commits.findSome? (·.transform.status?)).getD .healthy
  threshold := (commits.findSome? (·.transform.threshold?)).getD .trace
  retryAtMs := (commits.findSome? (·.transform.retryAt?)).getD 0

/-- How often a call has succeeded with its exchange. -/
def State.committed (s : State) (thread call : Nat) : Nat :=
  s.commits.countP fun commit => commit.thread = thread ∧ commit.call = call

/-- A failure takes the deadline from its clock and its count. -/
def Call.Writes : Call → Transform → Prop
  | .setStatus status _, transform => transform = .status status
  | .publishThreshold threshold, transform => transform = .threshold threshold
  | .noteFailure, transform =>
    ∃ nowMs failures, transform = .retryAt ((nowMs + backoffMs failures) % 2 ^ 64)
  | .noteSuccess, transform => transform = .retryAt 0

/-- The point is one of the call. -/
def Call.At : Call → Point → Prop
  | call, .load transform | call, .exchange transform _ => call.Writes transform
  | call, .record status reason => call = .setStatus status reason
  | call, .countFailure | call, .steadyNow _ => call = .noteFailure
  | call, .resetFailures => call = .noteSuccess
  | _, .idle => False

/-- The word holds what was committed; a call commits when it returns, and what it was called with.
-/
structure Composed (s : State) : Prop where
  fields : unpackDispatch s.sink.dispatchWord =
    { lastCommitted s.commits with retryAtMs := (lastCommitted s.commits).retryAtMs % 2 ^ 48 }
  busy : ∀ thread, s.threads thread ≠ .idle →
    ∃ call ∈ (s.calls thread).head?, call.At (s.threads thread)
  written : ∀ commit ∈ s.commits, ∃ call,
    (s.calls commit.thread).reverse[commit.call - 1]? = some call ∧ call.Writes commit.transform
  once : ∀ thread call, s.committed thread call =
    if 0 < call ∧ (call < (s.calls thread).length ∨
      call = (s.calls thread).length ∧ s.threads thread = .idle) then 1 else 0

section Steps

variable {s s' : State}

theorem Point.advance_spec {point point' : Point} {sink sink' : Sink} {nowMs : Nat}
    (moved : point.advance sink nowMs = some (sink', point')) :
    point ≠ .idle ∧ point' ≠ .idle ∧ sink'.dispatchWord = sink.dispatchWord ∧
      ∀ call : Call, call.At point → call.At point' := by
  cases point with
  | idle => cases moved
  | load | exchange =>
    cases moved
    exact ⟨by simp, by simp, rfl, fun _ writes => writes⟩
  | steadyNow failures =>
    cases moved
    refine ⟨by simp, by simp, rfl, ?_⟩
    rintro _ rfl
    exact ⟨nowMs, failures, rfl⟩
  | record | countFailure | resetFailures =>
    cases moved
    refine ⟨by simp, by simp, rfl, ?_⟩
    rintro _ rfl
    rfl

theorem Call.at_start (call : Call) : call.At call.start := by
  cases call <;> rfl

theorem Call.start_ne_idle (call : Call) : call.start ≠ .idle := by
  cases call <;> simp [Call.start]

/-- An update changes the field that it writes and keeps the others. -/
theorem unpackDispatch_apply (commit : Commit) {commits : List Commit} {word : Nat}
    (fields : unpackDispatch word = { lastCommitted commits with
      retryAtMs := (lastCommitted commits).retryAtMs % 2 ^ 48 }) :
    unpackDispatch (commit.transform.apply (unpackDispatch word)) =
      { lastCommitted (commit :: commits) with
        retryAtMs := (lastCommitted (commit :: commits)).retryAtMs % 2 ^ 48 } := by
  obtain ⟨thread, call, transform⟩ := commit
  rw [fields]
  cases transform <;>
    simp [Transform.apply, lastCommitted, Transform.status?, Transform.threshold?,
      Transform.retryAt?]

theorem Composed.step (composed : Composed s) {label : Label}
    (moved : step s label = some s') : Composed s' := by
  cases label with
  | call thread call =>
    obtain ⟨idle, same⟩ := Option.ite_none_right_eq_some.mp moved
    cases same
    refine ⟨composed.fields, fun other => ?_, fun commit member => ?_, fun other number => ?_⟩
    · by_cases same : other = thread
      · simp [same, call.at_start]
      · simpa [same] using composed.busy other
    · obtain ⟨argument, found, writes⟩ := composed.written commit member
      refine ⟨argument, ?_, writes⟩
      by_cases same : commit.thread = thread
      · rw [same] at found
        simp only [same, update_self, List.reverse_cons]
        rw [List.getElem?_append_left (List.getElem?_eq_some_iff.mp found).1, found]
      · simpa [same] using found
    · refine (composed.once other number).trans (if_congr ?_ rfl rfl)
      by_cases same : other = thread
      · subst same
        simp only [update_self, call.start_ne_idle, idle, and_true, and_false, or_false,
          length_cons]
        omega
      · simp only [update_of_ne same]
  | advance thread nowMs =>
    obtain ⟨⟨sink, point⟩, advanced, rfl⟩ := Option.map_eq_some_iff.mp moved
    obtain ⟨before, after, word, kept⟩ := Point.advance_spec advanced
    have idle : ∀ other, update s.threads thread point other = .idle ↔
        s.threads other = .idle := by
      intro other
      by_cases same : other = thread
      · simp [same, before, after]
      · rw [update_of_ne same]
    refine ⟨word ▸ composed.fields, fun other busy => ?_, composed.written, fun other number => ?_⟩
    · obtain ⟨call, latest, here⟩ := composed.busy other ((idle other).not.mp busy)
      refine ⟨call, latest, ?_⟩
      by_cases same : other = thread
      · subst same
        simpa using kept call here
      · simpa [same] using here
    · refine (composed.once other number).trans (if_congr ?_ rfl rfl)
      simp only [idle]
  | commit thread =>
    simp only [DispatchWord.step] at moved
    split at moved
    next transform expected here =>
      obtain ⟨current, same⟩ := Option.ite_none_right_eq_some.mp moved
      subst current
      cases same
      obtain ⟨call, latest, writes⟩ := composed.busy thread (by simp [here])
      obtain ⟨earlier, calls⟩ := head?_eq_some_iff.mp latest
      rw [here] at writes
      refine ⟨unpackDispatch_apply ⟨thread, _, transform⟩ composed.fields, fun other => ?_,
        ?_, fun other number => ?_⟩
      · by_cases same : other = thread
        · simp [same]
        · simpa [same] using composed.busy other
      · rw [forall_mem_cons]
        exact ⟨⟨call, by simp [calls], writes⟩, composed.written⟩
      · have before := composed.once other number
        rw [State.committed, countP_cons]
        change s.committed other number + _ = _
        rw [before]
        by_cases same : other = thread
        · subst same
          simp only [update_self, here, calls, length_cons, reduceCtorEq, and_false, or_false,
            and_true, true_and, decide_eq_true_eq]
          split <;> split <;> split <;> omega
        · simp [same, Ne.symm same]
    next => cases moved

theorem composed_of_reachable (reached : system.Reachable s) : Composed s := by
  refine reached.invariant ?_ fun _ _ _ _ composed _ moved => composed.step moved
  rintro _ rfl
  refine ⟨unpackDispatch_packDispatch .healthy .trace 0, by simp, by simp, fun thread call => ?_⟩
  rw [if_neg (by simp; omega)]
  rfl

end Steps

/-- A call can return: after a failed exchange the next one expects the current word. -/
theorem exists_run_idle (s : State) (thread : Nat) :
    ∃ labels, (∀ label ∈ labels, Label.thread label = thread) ∧
      (system.run s labels).map (·.threads thread) = some .idle := by
  have steps (count : Nat) : ∀ label ∈ replicate count (.advance thread 0) ++ [.commit thread],
      Label.thread label = thread := by
    simp [Label.thread, or_imp, forall_and]
  cases here : s.threads thread with
  | idle => exact ⟨[], by simp, by simp [System.run, here]⟩
  | load | exchange => exact ⟨_, steps 1, by simp [System.run, system, step, here, Point.advance]⟩
  | record | steadyNow | resetFailures =>
    exact ⟨_, steps 2, by simp [System.run, system, step, here, Point.advance, replicate]⟩
  | countFailure =>
    exact ⟨_, steps 3, by simp [System.run, system, step, here, Point.advance, replicate]⟩

/-- The word holds what was committed last, each commit writes what its call was called with, and a
call commits exactly once. -/
theorem updates_compose {s : State} (reached : system.Reachable s)
    (deadlines : ∀ commit ∈ s.commits, ∀ retryAt, commit.transform = .retryAt retryAt →
      retryAt < 2 ^ 48) :
    unpackDispatch s.sink.dispatchWord = lastCommitted s.commits ∧
      (∀ commit ∈ s.commits, ∃ call, (s.calls commit.thread).reverse[commit.call - 1]? = some call ∧
        call.Writes commit.transform) ∧
      ∀ thread, (∀ call, 0 < call → call ≤ (s.calls thread).length → s.committed thread call =
          if call = (s.calls thread).length ∧ s.threads thread ≠ .idle then 0 else 1) ∧
        ∃ labels, (∀ label ∈ labels, Label.thread label = thread) ∧
          (system.run s labels).map (·.threads thread) = some .idle := by
  have composed := composed_of_reachable reached
  have small : (lastCommitted s.commits).retryAtMs < 2 ^ 48 := by
    cases last : s.commits.findSome? (·.transform.retryAt?) with
    | none => simp [lastCommitted, last]
    | some retryAt =>
      obtain ⟨commit, member, written⟩ := exists_of_findSome?_eq_some last
      have bound := deadlines commit member retryAt
      cases transform : commit.transform <;> simp_all [lastCommitted, Transform.retryAt?]
  refine ⟨?_, composed.written, ?_⟩
  · rw [composed.fields, Nat.mod_eq_of_lt small]
  · refine fun thread => ⟨fun call positive begun => ?_, exists_run_idle s thread⟩
    rw [composed.once]
    by_cases idle : s.threads thread = .idle
    · rw [if_pos (by simp [idle]; omega), if_neg (by simp [idle])]
    · simp only [positive, idle, true_and, and_false, or_false, ne_eq, not_false_eq_true, and_true]
      split <;> split <;> omega

/-- A status is committed between a load and its first exchange, which fails. -/
theorem updates_compose_raced : ∃ s, system.Reachable s ∧
    s.commits.length = 2 ∧ unpackDispatch s.sink.dispatchWord = ⟨.dead, .error, 0⟩ := by
  refine system.exists_reachable rfl [.call 0 (.publishThreshold .error), .advance 0 0,
    .call 1 (.setStatus .dead []), .advance 1 0, .advance 1 0, .commit 1, .advance 0 0, .commit 0]
    ⟨_, rfl, fun reached => ⟨rfl, ?_⟩⟩
  exact (updates_compose reached (by simp)).1

end Menagerie.Crow.DispatchWord
