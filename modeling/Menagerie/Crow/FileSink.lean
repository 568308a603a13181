import Menagerie.Crow.Sink
import Menagerie.Library.Transition

/-!
# The file sink

`FileSink` over a stream whose operations may fail, either by throwing or by setting the fail state
and saying nothing. The operating system decides what every attempt to open a file and every
operation on the stream does; the calls of the sink are one after the other, on its strand. An
exception that leaves a `noexcept` function ends the program: there is no state after it.
-/

namespace Menagerie.Crow

open Beaver Transition List

/-- What a stream does with an insertion, a flush or a close. -/
inductive Answer
  | done
  | fails
  | throws (what : Option Text)
  deriving DecidableEq, Repr

/-- `std::ofstream`. -/
structure Stream where
  isOpen : Bool := false
  good : Bool := true
  deriving DecidableEq

/-- The stream after an operation. -/
def Stream.after (stream : Stream) : Answer → Stream
  | .done => stream
  | .fails | .throws _ => { stream with good := false }

/-- `FileSinkConfig`: the options that the sink reads. -/
structure FileSinkConfig where
  threshold : LogLevel := .debug
  rotateFile : Bool := true
  maxFileSize : Nat := 100 * 2 ^ 20
  flushEachEntry : Bool := false
  prefixFilter : PrefixFilter := {}

/-- `should_log`. -/
def FileSinkConfig.shouldLog (config : FileSinkConfig) (event : LogEvent) : Bool :=
  config.threshold.code ≤ event.level.code && config.prefixFilter.accepts event.prefixName

abbrev Path := Text

/-- `parent_path`. -/
def parentPath (path : Path) : Path :=
  let head := path.reverse.dropWhile (· != '/')
  let trimmed := head.dropWhile (· == '/')
  if trimmed.isEmpty then head.take 1 else trimmed.reverse

/-- What happens in one attempt to open a file. -/
structure Opening where
  /-- `initial_path` or `next_path`: a path, or the message of `ec`. -/
  resolved : Except Text Path
  /-- `create_directories`: the message of `ec`. -/
  createDirectories : Option Text := none
  opens : Bool := true
  flush : Answer := .done
  close : Answer := .done
  fileSize : Option Nat := some 0
  failedAt : Nat := 0

/-- What happens while one event is written. -/
structure Writing where
  formatting : Option (Option Text) := none
  insertion : Answer := .done
  flush : Answer := .done
  failedAt : Nat := 0

/-- What happens in a call that may rotate or reopen the file. -/
structure Maintenance where
  checkedAt : Nat := 0
  opening : Opening

/-- The events that were handed to the sink and what became of them. -/
structure Record where
  offered : List LogEvent := []
  written : List LogEvent := []
  counted : List LogEvent := []
  writeFailed : Bool := false

/-- `FileSink`, with the record of its events. -/
structure FileSink where
  sink : Sink := {}
  stream : Stream := {}
  filePath : Path := []
  bytesWritten : Nat := 0
  record : Record := {}

namespace FileSink

/-- `get_status`. -/
def getStatus (file : FileSink) : SinkStatus := file.sink.getStatus

/-- `add_undelivered`, for these events. -/
def addUndelivered (file : FileSink) (events : List LogEvent) : FileSink :=
  { file with
    sink := file.sink.addUndelivered events.length
    record := { file.record with counted := file.record.counted ++ events } }

/-- Notes what reaches the sink. -/
def offer (file : FileSink) (events : List LogEvent) : FileSink :=
  { file with record := { file.record with offered := file.record.offered ++ events } }

def fail (file : FileSink) (status : SinkStatus) (reason : Text) (nowMs : Nat) : FileSink :=
  { file with sink := (file.sink.noteFailure nowMs).setStatus status reason }

/-- The opened stream takes the place of the old one. -/
def adopt (file : FileSink) (path : Path) (opening : Opening) : FileSink :=
  { sink := file.sink.noteSuccess.setStatus .healthy []
    stream := { isOpen := true }
    filePath := path
    bytesWritten := opening.fileSize.getD 0
    record := { file.record with writeFailed := false } }

/-- The exception of an operation. -/
def thrown : Answer → Bool
  | .throws _ => true
  | .done | .fails => false

/-- `open_stream`; `none` when an exception ends the program. -/
def openStream (file : FileSink) (path : Path) (onFailure : SinkStatus) (opening : Opening) :
    Option FileSink :=
  let parent := parentPath path
  match (if parent.isEmpty then none else opening.createDirectories) with
  | some message =>
    some (file.fail onFailure ("create ".toList ++ parent ++ ": ".toList ++ message)
      opening.failedAt)
  | none =>
    if !opening.opens then
      some (file.fail onFailure ("open ".toList ++ path ++ " failed".toList) opening.failedAt)
    else if file.stream.isOpen && (thrown opening.flush || thrown opening.close) then none
    else some (file.adopt path opening)

/-- `open_from_config`. -/
def openFromConfig (file : FileSink) (opening : Opening) : Option FileSink :=
  match opening.resolved with
  | .error message =>
    some (file.fail .dead ("resolve log path: ".toList ++ message) opening.failedAt)
  | .ok path => file.openStream path .dead opening

/-- The constructor. -/
def construct (config : FileSinkConfig) (opening : Opening) : Option FileSink :=
  let file : FileSink := { sink := ({} : Sink).publishThreshold config.threshold }
  file.openFromConfig opening

/-- `rotate_now`. -/
def rotateNow (config : FileSinkConfig) (file : FileSink) (opening : Opening) : Option FileSink :=
  if !config.rotateFile || file.bytesWritten < config.maxFileSize then some file
  else
    match opening.resolved with
    | .error message =>
      some (file.fail .degraded ("resolve rotation target: ".toList ++ message) opening.failedAt)
    | .ok next =>
      if next = file.filePath then some file else file.openStream next .degraded opening

/-- `rotate_if_needed`. -/
def rotateIfNeeded (config : FileSinkConfig) (file : FileSink) (maintenance : Maintenance) :
    Option FileSink :=
  if file.getStatus = .degraded && !retryDue file.sink.dispatchHint maintenance.checkedAt then
    some file
  else file.rotateNow config maintenance.opening

/-- `force_maintain`. -/
def forceMaintain (config : FileSinkConfig) (file : FileSink) (opening : Opening) :
    Option FileSink :=
  if file.getStatus = .dead then file.openFromConfig opening else file.rotateNow config opening

/-- `maintain`. -/
def maintain (config : FileSinkConfig) (file : FileSink) (maintenance : Maintenance) :
    Option FileSink :=
  if !retryDue file.sink.dispatchHint maintenance.checkedAt then some file
  else file.forceMaintain config maintenance.opening

/-- `file_stream_ << format_buffer_`. -/
def insert (file : FileSink) (event : LogEvent) (answer : Answer) : FileSink :=
  { file with
    stream := file.stream.after answer
    record :=
      if file.stream.good && answer = .done then
        { file.record with written := file.record.written ++ [event] }
      else { file.record with writeFailed := true } }

/-- `file_stream_.flush()` after an entry. -/
def flushEntry (file : FileSink) (answer : Answer) : FileSink :=
  { file with
    stream := file.stream.after answer
    record := { file.record with
      writeFailed := file.record.writeFailed || !file.stream.good || answer != .done } }

/-- The handlers of `write_guarded`. -/
def die (file : FileSink) (what : Option Text) (nowMs : Nat) : FileSink :=
  let failed : FileSink := { file with record := { file.record with writeFailed := true } }
  failed.fail .dead (what.getD "unknown exception while writing".toList) nowMs

/-- `write_guarded`. -/
def writeGuarded (config : FileSinkConfig) (format : LogEvent → Text) (file : FileSink)
    (event : LogEvent) (writing : Writing) : FileSink × Bool :=
  if !config.shouldLog event then (file, true)
  else
    match writing.formatting with
    | some what => (file.die what writing.failedAt, false)
    | none =>
      let inserted := file.insert event writing.insertion
      match writing.insertion with
      | .throws what => (inserted.die what writing.failedAt, false)
      | .done | .fails =>
        let grown := { inserted with
          bytesWritten := (inserted.bytesWritten + (format event).length) % 2 ^ 64 }
        if config.flushEachEntry then
          let flushed := grown.flushEntry writing.flush
          match writing.flush with
          | .throws what => (flushed.die what writing.failedAt, false)
          | .done | .fails => (flushed, true)
        else (grown, true)

/-- The loop of `process_batch`: the sink and the lost events. -/
def writeBatch (config : FileSinkConfig) (format : LogEvent → Text) (file : FileSink) :
    List (LogEvent × Writing) → FileSink × List LogEvent
  | [] => (file, [])
  | (event, writing) :: rest =>
    match file.writeGuarded config format event writing with
    | (after, false) => (after, event :: rest.map Prod.fst)
    | (after, true) => writeBatch config format after rest

/-- `process`. -/
def process (config : FileSinkConfig) (format : LogEvent → Text) (file : FileSink)
    (event : LogEvent) (writing : Writing) (maintenance : Maintenance) : Option FileSink :=
  let file := file.offer [event]
  if file.getStatus = .dead then some (file.addUndelivered [event])
  else
    match file.writeGuarded config format event writing with
    | (after, false) => some (after.addUndelivered [event])
    | (after, true) => after.rotateIfNeeded config maintenance

/-- `process_batch`. -/
def processBatch (config : FileSinkConfig) (format : LogEvent → Text) (file : FileSink)
    (batch : List (LogEvent × Writing)) (maintenance : Maintenance) : Option FileSink :=
  let file := file.offer (batch.map Prod.fst)
  if file.getStatus = .dead then some (file.addUndelivered (batch.map Prod.fst))
  else
    match file.writeBatch config format batch with
    | (after, []) => after.rotateIfNeeded config maintenance
    | (after, lost) => some (after.addUndelivered lost)

/-- `flush`. -/
def flush (file : FileSink) (answer : Answer) : Option FileSink :=
  if !file.stream.isOpen then some file
  else if thrown answer then none
  else some { file with stream := file.stream.after answer }

end FileSink

/-- A call, with what the operating system does during it. -/
inductive Call
  | process (event : LogEvent) (writing : Writing) (maintenance : Maintenance)
  | processBatch (batch : List (LogEvent × Writing)) (maintenance : Maintenance)
  | flush (answer : Answer)
  | maintain (maintenance : Maintenance)
  | forceMaintain (opening : Opening)

/-- One call. -/
def FileSink.step (config : FileSinkConfig) (format : LogEvent → Text) (file : FileSink) :
    Call → Option FileSink
  | .process event writing maintenance => file.process config format event writing maintenance
  | .processBatch batch maintenance => file.processBatch config format batch maintenance
  | .flush answer => file.flush answer
  | .maintain maintenance => file.maintain config maintenance
  | .forceMaintain opening => file.forceMaintain config opening

/-- A sink from its construction on. -/
def fileSink (config : FileSinkConfig) (format : LogEvent → Text) : System FileSink Call where
  initial file := ∃ opening, FileSink.construct config opening = some file
  step := FileSink.step config format

/-- Neither the insertion nor the flush fails silently. -/
def Writing.Loud (writing : Writing) : Prop :=
  writing.insertion ≠ .fails ∧ writing.flush ≠ .fails

instance (writing : Writing) : Decidable writing.Loud :=
  inferInstanceAs (Decidable (_ ∧ _))

/-- No insertion and no flush of the call fails silently. -/
def Call.Loud : Call → Prop
  | .process _ writing _ => writing.Loud
  | .processBatch batch _ => ∀ entry ∈ batch, entry.2.Loud
  | .flush answer => answer ≠ .fails
  | .maintain _ | .forceMaintain _ => True

instance : (call : Call) → Decidable call.Loud
  | .process _ writing _ => inferInstanceAs (Decidable writing.Loud)
  | .processBatch batch _ => inferInstanceAs (Decidable (∀ entry ∈ batch, entry.2.Loud))
  | .flush answer => inferInstanceAs (Decidable (answer ≠ .fails))
  | .maintain _ | .forceMaintain _ => instDecidableTrue

namespace FileSink

/-- Every event that passes the filter was written or counted, and after a failed write the sink is
not healthy. -/
structure Accounted (config : FileSinkConfig) (file : FileSink) : Prop where
  fate : ∀ event, config.shouldLog event = true →
    file.record.offered.count event ≤
      file.record.written.count event + file.record.counted.count event
  undelivered : file.sink.undelivered = file.record.counted.length % 2 ^ 64
  failed : file.record.writeFailed = true → file.getStatus ≠ .healthy

/-- A sink that is not dead has a good stream, on which no write failed. -/
def Lively (file : FileSink) : Prop :=
  file.getStatus ≠ .dead → file.stream.good = true ∧ file.record.writeFailed = false

/-- What the calls keep as long as nothing fails silently. -/
structure Sound (config : FileSinkConfig) (file : FileSink) : Prop where
  lively : file.Lively
  fate : ∀ event, config.shouldLog event = true →
    file.record.offered.count event ≤
      file.record.written.count event + file.record.counted.count event
  undelivered : file.sink.undelivered = file.record.counted.length % 2 ^ 64

theorem Sound.accounted {config : FileSinkConfig} {file : FileSink} (sound : file.Sound config) :
    file.Accounted config where
  fate := sound.fate
  undelivered := sound.undelivered
  failed := by
    intro failed healthy
    have calm := (sound.lively (by simp [healthy])).2
    simp [failed] at calm

variable {config : FileSinkConfig} {format : LogEvent → Text} {file next : FileSink}

/-- The events and their count stay as they are. -/
structure Same (file next : FileSink) : Prop where
  offered : next.record.offered = file.record.offered
  written : next.record.written = file.record.written
  counted : next.record.counted = file.record.counted
  undelivered : next.sink.undelivered = file.sink.undelivered

theorem Sound.same (sound : file.Sound config) (same : Same file next) (lively : next.Lively) :
    next.Sound config where
  lively := lively
  fate event passes := by
    rw [same.offered, same.written, same.counted]
    exact sound.fate event passes
  undelivered := by rw [same.undelivered, same.counted, sound.undelivered]

@[simp] theorem getStatus_fail (file : FileSink) (status : SinkStatus) (reason : Text)
    (nowMs : Nat) : (file.fail status reason nowMs).getStatus = status :=
  Sink.getStatus_setStatus ..

@[simp] theorem getStatus_die (file : FileSink) (what : Option Text) (nowMs : Nat) :
    (file.die what nowMs).getStatus = .dead :=
  getStatus_fail ..

section

variable (sound : file.Sound config)

include sound

/-- A failure is recorded as `Dead`, or the stream is still good. -/
theorem Sound.fail (status : SinkStatus) (usable : status = .dead ∨ file.getStatus ≠ .dead)
    (reason : Text) (nowMs : Nat) :
    (file.fail status reason nowMs).Sound config := by
  refine sound.same ⟨rfl, rfl, rfl, rfl⟩ ?_
  intro alive
  rw [getStatus_fail] at alive
  exact sound.lively (usable.resolve_left alive)

theorem Sound.adopt (path : Path) (opening : Opening) :
    (file.adopt path opening).Sound config :=
  sound.same ⟨rfl, rfl, rfl, rfl⟩ (fun _ => ⟨rfl, rfl⟩)

theorem Sound.openStream {path : Path} {onFailure : SinkStatus} {opening : Opening}
    (usable : onFailure = .dead ∨ file.getStatus ≠ .dead)
    (opened : file.openStream path onFailure opening = some next) : next.Sound config := by
  revert opened
  fun_cases FileSink.openStream file path onFailure opening with
  | case1 | case2 =>
    rintro ⟨⟩
    exact sound.fail onFailure usable ..
  | case3 => exact nofun
  | case4 =>
    rintro ⟨⟩
    exact sound.adopt path opening

theorem Sound.openFromConfig {opening : Opening}
    (opened : file.openFromConfig opening = some next) : next.Sound config := by
  revert opened
  fun_cases FileSink.openFromConfig file opening with
  | case1 =>
    rintro ⟨⟩
    exact sound.fail .dead (.inl rfl) ..
  | case2 => exact sound.openStream (.inl rfl)

theorem Sound.rotateNow {opening : Opening} (alive : file.getStatus ≠ .dead)
    (rotated : file.rotateNow config opening = some next) :
    next.Sound config := by
  revert rotated
  fun_cases FileSink.rotateNow config file opening with
  | case1 | case3 =>
    rintro ⟨⟩
    exact sound
  | case2 =>
    rintro ⟨⟩
    exact sound.fail .degraded (.inr alive) ..
  | case4 => exact sound.openStream (.inr alive)

theorem Sound.rotateIfNeeded {maintenance : Maintenance} (alive : file.getStatus ≠ .dead)
    (rotated : file.rotateIfNeeded config maintenance = some next) : next.Sound config := by
  revert rotated
  fun_cases FileSink.rotateIfNeeded config file maintenance with
  | case1 =>
    rintro ⟨⟩
    exact sound
  | case2 => exact sound.rotateNow alive

theorem Sound.forceMaintain {opening : Opening}
    (maintained : file.forceMaintain config opening = some next) : next.Sound config := by
  revert maintained
  fun_cases FileSink.forceMaintain config file opening with
  | case1 => exact sound.openFromConfig
  | case2 alive => exact sound.rotateNow alive

theorem Sound.maintain {maintenance : Maintenance}
    (maintained : file.maintain config maintenance = some next) : next.Sound config := by
  revert maintained
  fun_cases FileSink.maintain config file maintenance with
  | case1 =>
    rintro ⟨⟩
    exact sound
  | case2 => exact sound.forceMaintain

end

/-- All but the lost events are written, and the sink lives on as long as none is lost. -/
structure Wrote (config : FileSinkConfig) (file next : FileSink) (events lost : List LogEvent) :
    Prop where
  offered : next.record.offered = file.record.offered
  counted : next.record.counted = file.record.counted
  undelivered : next.sink.undelivered = file.sink.undelivered
  fate : ∀ event, config.shouldLog event = true →
    file.record.written.count event + events.count event ≤
      next.record.written.count event + lost.count event
  lively : next.Lively
  alive : lost = [] → file.getStatus ≠ .dead → next.getStatus ≠ .dead

theorem Wrote.die (file : FileSink) (event : LogEvent) (what : Option Text) (nowMs : Nat)
    (inserted : FileSink) (same : inserted.record.offered = file.record.offered ∧
      inserted.record.counted = file.record.counted ∧
      inserted.sink.undelivered = file.sink.undelivered)
    (grown : file.record.written <+: inserted.record.written) :
    Wrote config file (inserted.die what nowMs) [event] [event] where
  offered := same.1
  counted := same.2.1
  undelivered := same.2.2
  fate other _ := by
    have kept := grown.sublist.count_le other
    change _ ≤ inserted.record.written.count other + _
    omega
  lively alive := absurd (getStatus_die ..) alive
  alive := by simp

theorem Wrote.insert {event : LogEvent} (good : file.stream.good = true)
    (calm : file.record.writeFailed = false) (bytes : Nat) :
    Wrote config file { file.insert event .done with bytesWritten := bytes } [event] [] where
  offered := by simp [FileSink.insert, good]
  counted := by simp [FileSink.insert, good]
  undelivered := rfl
  fate other _ := by simp [FileSink.insert, good]
  lively _ := by simp [FileSink.insert, Stream.after, good, calm]
  alive _ := id

theorem Wrote.flushEntry {events : List LogEvent} (wrote : Wrote config file next events []) :
    Wrote config file (next.flushEntry .done) events [] where
  offered := wrote.offered
  counted := wrote.counted
  undelivered := wrote.undelivered
  fate := wrote.fate
  lively alive := by
    have ⟨good, calm⟩ := wrote.lively alive
    exact ⟨good, by simp [FileSink.flushEntry, good, calm]⟩
  alive := wrote.alive

theorem Wrote.trans {middle : FileSink} {first second lost : List LogEvent}
    (left : Wrote config file middle first []) (right : Wrote config middle next second lost) :
    Wrote config file next (first ++ second) lost where
  offered := right.offered.trans left.offered
  counted := right.counted.trans left.counted
  undelivered := right.undelivered.trans left.undelivered
  fate event passes := by
    have before := left.fate event passes
    have after := right.fate event passes
    rw [count_nil] at before
    rw [count_append]
    omega
  lively := right.lively
  alive none living := right.alive none (left.alive rfl living)

theorem writeGuarded_wrote (lively : file.Lively) (alive : file.getStatus ≠ .dead)
    {event : LogEvent} {writing : Writing} (loud : writing.Loud) {written : Bool}
    (result : file.writeGuarded config format event writing = (next, written)) :
    Wrote config file next [event] (if written then [] else [event]) := by
  obtain ⟨good, calm⟩ := lively alive
  simp only [writeGuarded] at result
  split at result
  · rename_i filtered
    cases result
    refine ⟨rfl, rfl, rfl, ?_, lively, fun _ => id⟩
    intro other passes
    have differs : other ≠ event := by
      rintro rfl
      simp [passes] at filtered
    simp [differs.symm]
  · split at result
    · cases result
      exact Wrote.die file event _ _ file ⟨rfl, rfl, rfl⟩ (prefix_refl _)
    · cases insertion : writing.insertion with
      | fails => exact absurd insertion loud.1
      | throws what =>
        simp only [insertion] at result
        cases result
        exact Wrote.die file event _ _ _ (by simp [FileSink.insert]) (by simp [FileSink.insert])
      | done =>
        have inserted : ∀ bytes,
            Wrote config file { file.insert event .done with bytesWritten := bytes } [event] [] :=
          fun bytes => .insert good calm bytes
        simp only [insertion] at result
        split at result
        · cases flushing : writing.flush with
          | fails => exact absurd flushing loud.2
          | throws what =>
            simp only [flushing] at result
            cases result
            refine Wrote.die file event _ _ _ ?_ ?_ <;>
              simp [FileSink.insert, FileSink.flushEntry, good]
          | done =>
            simp only [flushing] at result
            cases result
            exact (inserted _).flushEntry
        · cases result
          exact inserted _

theorem writeBatch_wrote (lively : file.Lively) (alive : file.getStatus ≠ .dead)
    (batch : List (LogEvent × Writing)) (loud : ∀ entry ∈ batch, entry.2.Loud) :
    Wrote config file (file.writeBatch config format batch).1 (batch.map Prod.fst)
      (file.writeBatch config format batch).2 := by
  induction batch generalizing file with
  | nil => exact ⟨rfl, rfl, rfl, fun _ _ => Nat.le_refl _, lively, fun _ => id⟩
  | cons entry rest ih =>
    obtain ⟨event, writing⟩ := entry
    simp only [writeBatch]
    split
    · rename_i after result
      have wrote := writeGuarded_wrote lively alive (loud _ mem_cons_self) result
      refine ⟨wrote.offered, wrote.counted, wrote.undelivered, ?_, wrote.lively, by simp⟩
      intro other passes
      have fate := wrote.fate other passes
      simp only [Bool.false_eq_true, if_false, count_cons, count_nil] at fate
      simp only [map_cons, count_cons]
      omega
    · rename_i after result
      have wrote := writeGuarded_wrote lively alive (loud _ mem_cons_self) result
      exact wrote.trans (ih wrote.lively (wrote.alive rfl alive)
        (fun entry member => loud entry (mem_cons_of_mem _ member)))

theorem process_eq_processBatch (event : LogEvent) (writing : Writing)
    (maintenance : Maintenance) : file.process config format event writing maintenance =
      file.processBatch config format [(event, writing)] maintenance := by
  simp only [process, processBatch, writeBatch, map_cons, map_nil]
  split
  · rfl
  · generalize (file.offer [event]).writeGuarded config format event writing = result
    obtain ⟨after, _ | _⟩ := result <;> rfl

section

variable (sound : file.Sound config)

include sound

theorem Sound.written {events : List LogEvent}
    (wrote : Wrote config (file.offer events) next events []) : next.Sound config where
  lively := wrote.lively
  fate event passes := by
    have before := sound.fate event passes
    have now := wrote.fate event passes
    simp only [wrote.offered, wrote.counted, offer, count_append, count_nil] at now ⊢
    omega
  undelivered := by
    rw [wrote.undelivered, wrote.counted]
    exact sound.undelivered

/-- The events that are offered are written or counted. -/
theorem Sound.settle {events lost : List LogEvent}
    (wrote : Wrote config (file.offer events) next events lost) :
    (next.addUndelivered lost).Sound config where
  lively := wrote.lively
  fate event passes := by
    have before := sound.fate event passes
    have now := wrote.fate event passes
    simp only [addUndelivered, wrote.offered, wrote.counted, offer, count_append] at now ⊢
    omega
  undelivered := by
    simp only [addUndelivered, Sink.addUndelivered, wrote.undelivered, wrote.counted, offer,
      length_append]
    rw [sound.undelivered]
    omega

theorem Sound.processBatch {batch : List (LogEvent × Writing)} {maintenance : Maintenance}
    (loud : ∀ entry ∈ batch, entry.2.Loud)
    (processed : file.processBatch config format batch maintenance = some next) :
    next.Sound config := by
  simp only [FileSink.processBatch] at processed
  split at processed
  · cases processed
    exact sound.settle ⟨rfl, rfl, rfl, fun _ _ => Nat.le_refl _, sound.lively, fun _ => id⟩
  · rename_i alive
    have lively : (file.offer (batch.map Prod.fst)).Lively := sound.lively
    have wrote := @writeBatch_wrote config format _ lively alive batch loud
    split at processed
    · rename_i after result
      rw [result] at wrote
      exact (sound.written wrote).rotateIfNeeded (wrote.alive rfl alive) processed
    · rename_i after lost _ result
      rw [result] at wrote
      cases processed
      exact sound.settle wrote

theorem Sound.flush {answer : Answer} (loud : answer ≠ .fails)
    (flushed : file.flush answer = some next) : next.Sound config := by
  simp only [FileSink.flush] at flushed
  split at flushed
  · cases flushed
    exact sound
  · cases answer with
    | fails => exact absurd rfl loud
    | throws what => simp [thrown] at flushed
    | done =>
      cases flushed
      exact sound

end

theorem Sound.construct {opening : Opening}
    (constructed : FileSink.construct config opening = some file) : file.Sound config := by
  exact Sound.openFromConfig ⟨fun _ => ⟨rfl, rfl⟩, fun _ _ => Nat.zero_le _, rfl⟩ constructed

/-- One call in which nothing fails silently. -/
theorem Sound.step (sound : file.Sound config) {call : Call} (loud : call.Loud)
    (moved : file.step config format call = some next) : next.Sound config := by
  cases call with
  | process event writing maintenance =>
    rw [FileSink.step, process_eq_processBatch] at moved
    refine sound.processBatch ?_ moved
    intro entry only
    rw [mem_singleton.mp only]
    exact loud
  | processBatch batch maintenance => exact sound.processBatch loud moved
  | flush answer => exact sound.flush loud moved
  | maintain maintenance => exact sound.maintain moved
  | forceMaintain opening => exact sound.forceMaintain moved

end FileSink

/-- In every run in which no insertion and no flush fails silently, every event that passes the
filter is written by a good stream or counted as undelivered, and after a failed write the sink is
not healthy until the file is opened again. -/
theorem file_sink_accounts {config : FileSinkConfig} {format : LogEvent → Text} {file : FileSink}
    (reached : (fileSink config format).ReachableBy (fun _ call => call.Loud) file) :
    file.Accounted config := by
  refine FileSink.Sound.accounted (reached.invariant ?_ ?_)
  · rintro start ⟨opening, constructed⟩
    exact .construct constructed
  · intro state call next _ sound loud moved
    exact sound.step loud moved

def opensAppLog : Opening := { resolved := .ok "app.log".toList }

def someEvent : LogEvent := { level := .info }

/-- An exception at the second event of three: it, the third and one before maintenance are counted,
and the file is opened again. -/
theorem file_sink_accounts_reopen : ∃ file,
    (fileSink {} (fun event => event.message)).ReachableBy (fun _ call => call.Loud) file ∧
    file.record.offered.length = 4 ∧ file.record.written.length = 1 ∧
    file.sink.undelivered = 3 ∧ file.getStatus = .healthy ∧ file.Accounted {} := by
  refine (fileSink {} (fun event => event.message)).exists_reachableBy
    (fun _ call => call.Loud) ⟨opensAppLog, rfl⟩
    [.processBatch [(someEvent, {}), (someEvent, { insertion := .throws none }),
        (someEvent, {})] ⟨0, opensAppLog⟩,
      .process someEvent {} ⟨0, opensAppLog⟩, .maintain ⟨0, opensAppLog⟩]
    ⟨_, rfl, fun reached => ?_⟩
  exact ⟨rfl, rfl, rfl, rfl, file_sink_accounts reached⟩

/-- An insertion fails without an exception: the event is neither written nor counted, and the sink
stays healthy. -/
theorem silent_failure_loses_events : ∃ file,
    (fileSink {} (fun event => event.message)).Reachable file ∧
    ({} : FileSinkConfig).shouldLog someEvent = true ∧
    file.record.offered = [someEvent, someEvent] ∧ file.record.written = [] ∧
    file.record.writeFailed = true ∧ file.sink.undelivered = 0 ∧ file.getStatus = .healthy := by
  exact (fileSink {} (fun event => event.message)).exists_reachable ⟨opensAppLog, rfl⟩
    [.process someEvent { insertion := .fails } ⟨0, opensAppLog⟩,
      .process someEvent {} ⟨0, opensAppLog⟩]
    ⟨_, rfl, fun _ => ⟨by decide, rfl, rfl, rfl, rfl, rfl⟩⟩

end Menagerie.Crow
