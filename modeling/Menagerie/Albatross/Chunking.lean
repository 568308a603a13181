import Menagerie.Albatross.Http11Driver

/-!
# A session does not depend on how its input is cut

What a session writes is fixed by the bytes of its input: the responses of the complete requests in
order, up to the first one that closes the connection, and the closing response of a parse error.
-/

namespace Menagerie.Albatross.Http11Driver

open Beaver Incremental List

variable {Request : Type} (server : Server Request)

theorem drop_shorter {bytes : Text} {state : server.parser.State} {consumed : Nat}
    (asked : offer (answer server) (freshParser server) bytes = .done state consumed) :
    (bytes.drop consumed).length < bytes.length := by
  cases bytes with
  | nil => cases asked
  | cons c rest =>
    have positive := server.parser.consumes asked
    rw [length_drop, length_cons]
    omega

/-- The complete requests at the start of the bytes, and the parse error behind them. -/
def messages (bytes : Text) : List Request × Option HttpError :=
  match _asked : offer (answer server) (freshParser server) bytes with
  | .done state consumed =>
    let (requests, error) := messages (bytes.drop consumed)
    (server.parser.get state :: requests, error)
  | .failed error => ([], some error)
  | .more _ _ => ([], none)
termination_by bytes.length
decreasing_by
  exact drop_shorter server (by assumption)

/-- The responses that are sent, up to the first that closes the connection. -/
def answers : List Request → List Response
  | [] => []
  | request :: rest =>
    let response := respond server request
    response :: if response.keepAlive then answers rest else []

/-- The answer to an error. -/
def closing (error : Option HttpError) : List Response :=
  match error.bind fun error => errorResponse (.http error) with
  | some response => [response]
  | none => []

/-- All answers to the bytes. -/
def transcript (bytes : Text) : List Response :=
  let (requests, error) := messages server bytes
  let responses := answers server requests
  if responses.all Response.keepAlive then responses ++ closing error else responses

/-- The bytes of the responses. -/
def serializeAll (responses : List Response) : Text :=
  responses.flatMap (serializeResponse server.stamps)

/-- The input ends with EOF, and every write succeeds. -/
structure Quiet (network : Network) : Prop where
  eof : network.ending = .eof
  writes : ∀ n, network.writeFails n = false

theorem messages_eq (bytes : Text) : messages server bytes =
    match offer (answer server) (freshParser server) bytes with
    | .done state consumed => (server.parser.get state :: (messages server (bytes.drop consumed)).1,
      (messages server (bytes.drop consumed)).2)
    | .failed error => ([], some error)
    | .more _ _ => ([], none) := by
  rw [messages]
  split
  all_goals
    next same =>
      rw [same]

/-- The responses to a request and to the bytes behind it. -/
theorem transcript_done {bytes : Text} {state : server.parser.State} {consumed : Nat}
    (asked : offer (answer server) (freshParser server) bytes = .done state consumed) :
    transcript server bytes =
      respond server (server.parser.get state) ::
        if (respond server (server.parser.get state)).keepAlive then
          transcript server (bytes.drop consumed)
        else [] := by
  rw [transcript, messages_eq, asked, transcript]
  cases stays : (respond server (server.parser.get state)).keepAlive with
  | false => simp [answers, stays]
  | true =>
    simp only [answers, stays, if_true, all_cons, Bool.true_and]
    split <;> rfl

theorem transcript_failed {bytes : Text} {error : HttpError}
    (asked : offer (answer server) (freshParser server) bytes = .failed error) :
    transcript server bytes = closing (some error) := by
  simp [transcript, messages_eq, asked, answers]

theorem transcript_more {bytes : Text} {state : server.parser.State} {consumed : Nat}
    (asked : offer (answer server) (freshParser server) bytes = .more state consumed) :
    transcript server bytes = [] := by
  simp [transcript, messages_eq, asked, answers, closing]

/-- What a session has written or will write of its batch. -/
def Session.output (session : Session) : Text := session.writes.flatten ++ session.outbuf

theorem Session.output_flush {writeFails : Nat → Bool} (writes : ∀ n, writeFails n = false)
    (session : Session) : (session.flush writeFails).output = session.output := by
  simp [Session.output, Session.flush, writes]

theorem Session.output_closed (session : Session) (error : HttpError) :
    (session.closed server (.http error)).output =
      session.output ++ serializeAll server (closing (some error)) := by
  unfold Session.output Session.closed closing serializeAll
  cases response : errorResponse (.http error) <;> simp [response]

theorem Session.output_closed_eof (session : Session) (state : server.parser.State) :
    (session.closed server (readError server .eof state)).output = session.output := by
  have silent : errorResponse (readError server .eof state) = none := by
    unfold readError
    cases server.parser.gotSome state <;> rfl
  simp [Session.output, Session.closed, silent]

theorem serveLoop_break (network : Network) (session : Session) {ec : ErrorCode}
    (broken : (receive server network.ending (freshParser server) session.buffer
      session.reads).ec = some ec) :
    serveLoop server network session = session.closed server ec := by
  rw [serveLoop]
  split
  · next same =>
    rw [same] at broken
    cases broken
    rfl
  · next same =>
    rw [same] at broken
    cases broken

section

variable (network : Network) (quiet : Quiet network) (session : Session)
  {state : server.parser.State} {rest : Text} {others : List Text}
  (received : receive server network.ending (freshParser server) session.buffer session.reads =
    ⟨none, state, rest, others⟩)

include network quiet session received

theorem serveLoop_open (present : ∀ read ∈ others, read ≠ [])
    (stays : (respond server (server.parser.get state)).keepAlive = true) :
    ∃ after : Session, serveLoop server network session = serveLoop server network after ∧
      after.bytes = rest ++ others.flatten ∧
      after.output = session.output ++
        serializeResponse server.stamps (respond server (server.parser.get state)) := by
  let next := session.answered server (respond server (server.parser.get state)) rest others present
  have output : next.output = session.output ++
      serializeResponse server.stamps (respond server (server.parser.get state)) := by
    simp [next, Session.output, Session.answered]
  rw [serveLoop]
  split
  · next same =>
    rw [received] at same
    cases same
  · next same =>
    rw [received] at same
    cases same
    by_cases flushes : rest = [] ∨ batchCap ≤ next.outbuf.length
    · refine ⟨next.flush network.writeFails, ?_, rfl, ?_⟩
      · have batch : (!(respond server (server.parser.get state)).keepAlive || decide (rest = []) ||
            decide (batchCap ≤ next.outbuf.length)) = true := by
          simpa [stays] using flushes
        have goes : ¬ (network.writeFails next.writes.length ||
            !(respond server (server.parser.get state)).keepAlive) = true := by
          simp [stays, quiet.writes]
        exact (if_pos batch).trans (if_neg goes)
      · rw [Session.output_flush quiet.writes, output]
    · refine ⟨next, ?_, rfl, output⟩
      have batch : ¬ (!(respond server (server.parser.get state)).keepAlive || decide (rest = []) ||
          decide (batchCap ≤ next.outbuf.length)) = true := by
        simpa [stays] using flushes
      exact if_neg batch

theorem serveLoop_close (closes : (respond server (server.parser.get state)).keepAlive = false) :
    (serveLoop server network session).output = session.output ++
      serializeResponse server.stamps (respond server (server.parser.get state)) := by
  rw [serveLoop]
  split
  · next same =>
    rw [received] at same
    cases same
  · next same =>
    rw [received] at same
    cases same
    simp only [closes, Bool.not_false, Bool.true_or, Bool.or_true, if_true,
      Session.output_flush quiet.writes]
    simp [Session.output, Session.answered]

end

theorem serveLoop_output (network : Network) (quiet : Quiet network) (session : Session) :
    (serveLoop server network session).output =
      session.output ++ serializeAll server (transcript server session.bytes) := by
  induction size : session.bytes.length using Nat.strongRecOn generalizing session with
  | ind n ih =>
    have next := receive_fresh server network.ending session.buffer session.reads session.present
    have fresh : session.buffer ++ session.reads.flatten = session.bytes := rfl
    rw [fresh] at next
    cases asked : offer (answer server) (freshParser server) session.bytes with
    | failed error =>
      rw [asked] at next
      rw [serveLoop_break server network session next, Session.output_closed,
        transcript_failed server asked]
    | more state consumed =>
      rw [asked] at next
      rw [serveLoop_break server network session next, quiet.eof, Session.output_closed_eof,
        transcript_more server asked]
      simp [serializeAll]
    | done state consumed =>
      rw [asked] at next
      obtain ⟨rest, others, received, present, left, -, -⟩ := next
      rw [transcript_done server asked]
      cases stays : (respond server (server.parser.get state)).keepAlive with
      | false =>
        rw [serveLoop_close server network quiet session received stays]
        simp [serializeAll]
      | true =>
        obtain ⟨after, goesOn, bytes, output⟩ :=
          serveLoop_open server network quiet session received present stays
        have shorter : after.bytes.length < n := by
          rw [bytes, left, ← size]
          exact drop_shorter server asked
        rw [goesOn, ih _ shorter after rfl, output, bytes, left]
        simp [serializeAll]

theorem serve_flatten (network : Network) (quiet : Quiet network) :
    (serve server network).flatten =
      serializeAll server (transcript server network.reads.flatten) := by
  have output := serveLoop_output server network quiet
    { reads := network.reads, present := network.present }
  unfold serve
  dsimp only
  split
  · next empty => simpa [Session.output, empty, Session.bytes] using output
  · rw [← Session.output_flush quiet.writes] at output
    simpa [Session.output, Session.flush, Session.bytes] using output

/-- More input only adds responses, by induction on the requests. -/
theorem transcript_append (bytes extra : Text) :
    transcript server bytes <+: transcript server (bytes ++ extra) := by
  induction size : bytes.length using Nat.strongRecOn generalizing bytes with
  | ind n ih =>
    cases asked : offer (answer server) (freshParser server) bytes with
    | more state consumed =>
      rw [transcript_more server asked]
      exact nil_prefix
    | failed error =>
      have again := server.parser.independent.offer_failed asked extra
      exact ⟨[], by simp [transcript_failed server asked, transcript_failed server again]⟩
    | done state consumed =>
      obtain ⟨fits, again⟩ := server.parser.independent.offer_done asked extra
      rw [transcript_done server asked, transcript_done server again,
        drop_append_of_le_length fits, prefix_cons_inj]
      split
      · exact ih _ (size ▸ drop_shorter server asked) _ rfl
      · exact nil_prefix

theorem closing_error (error : HttpError) :
    (closing (some error)).length =
      (if error = .headerLimit ∨ error = .bodyLimit ∨ isMalformedRequest error = true then 1
        else 0) ∧
      ∀ response ∈ closing (some error), response.keepAlive = false := by
  cases error <;> decide

/-- However the input is cut into reads, a session writes the responses of the transcript, which a
parse error closes with at most one response. -/
theorem serve_chunk_independent (first second : Network) (quiet : Quiet first)
    (quietToo : Quiet second) (same : first.reads.flatten = second.reads.flatten) :
    (serve server first).flatten = (serve server second).flatten ∧
      (serve server first).flatten =
        serializeAll server (transcript server first.reads.flatten) ∧
      (∀ error, (closing (some error)).length =
        if error = .headerLimit ∨ error = .bodyLimit ∨ isMalformedRequest error = true then 1
        else 0) ∧
      closing none = [] := by
  have written := serve_flatten server first quiet
  refine ⟨?_, written, fun error => (closing_error error).1, rfl⟩
  rw [written, serve_flatten server second quietToo, same]

/-- What a session writes does not depend on what the peer sends afterwards. -/
theorem serve_extends (first second : Network) (quiet : Quiet first) (quietToo : Quiet second)
    (longer : first.reads.flatten <+: second.reads.flatten) :
    (serve server first).flatten <+: (serve server second).flatten := by
  obtain ⟨extra, whole⟩ := longer
  obtain ⟨rest, same⟩ := transcript_append server first.reads.flatten extra
  rw [serve_flatten server first quiet, serve_flatten server second quietToo, ← whole, ← same]
  exact ⟨serializeAll server rest, flatMap_append.symm⟩

section Heads

/-- The length of the head at the front, up to the first empty line. -/
def headLength : Text → Option Nat
  | [] => none
  | c :: rest =>
    if "\r\n\r\n".toList <+: c :: rest then some 4 else (headLength rest).map (· + 1)

/-- A head has at least its empty line. -/
theorem headLength_bounds {buffer : Text} {length : Nat} (found : headLength buffer = some length) :
    4 ≤ length ∧ length ≤ buffer.length := by
  induction buffer generalizing length with
  | nil => cases found
  | cons c rest ih =>
    rw [headLength] at found
    split at found
    · next ends =>
      cases found
      exact ⟨Nat.le_refl 4, ends.length_le⟩
    · obtain ⟨before, later, rfl⟩ := Option.map_eq_some_iff.mp found
      have := ih later
      rw [length_cons]
      omega

/-- A head that has arrived stays as it is. -/
theorem headLength_append {buffer : Text} {length : Nat} (extra : Text)
    (found : headLength buffer = some length) : headLength (buffer ++ extra) = some length := by
  induction buffer generalizing length with
  | nil => cases found
  | cons c rest ih =>
    rw [headLength] at found
    rw [cons_append, headLength, ← cons_append]
    split at found
    · next ends => rw [if_pos (ends.trans (prefix_append _ _)), found]
    · next later =>
      obtain ⟨before, inside, rfl⟩ := Option.map_eq_some_iff.mp found
      have long := headLength_bounds inside
      have stays : ¬"\r\n\r\n".toList <+: c :: rest ++ extra := fun ends =>
        later (prefix_of_prefix_length_le ends (prefix_append _ _)
          (Nat.le_succ_of_le (Nat.le_trans long.1 long.2)))
      rw [if_neg stays, ih inside]
      rfl

/-- The state of a parser for requests that are a head. -/
structure HeadState where
  gotSome : Bool := false
  head : Option Text := none

/-- A head is read once its empty line is in the buffer. -/
def putHead (state : HeadState) (buffer : Text) : Put HeadState :=
  if state.head.isSome then ⟨state, 0, some .staleParser⟩
  else
    match headLength buffer with
    | some length => ⟨⟨true, some (buffer.take length)⟩, length, none⟩
    | none => ⟨⟨true, none⟩, 0, some .needMore⟩

/-- What the driver makes of it. -/
theorem putHead_outcome (state : HeadState) (buffer : Text) :
    (putHead state buffer).outcome (fun state => state.head.isSome) =
      if state.head.isSome then .failed .staleParser
      else
        match headLength buffer with
        | some length => .done ⟨true, some (buffer.take length)⟩ length
        | none => .more ⟨true, none⟩ 0 := by
  unfold putHead
  split
  · rfl
  · cases headLength buffer <;> rfl

theorem putHead_independent :
    ChunkIndependent fun state buffer =>
      (putHead state buffer).outcome (fun state => state.head.isSome) where
  more_le {state buffer after consumed} wants := by
    rw [putHead_outcome] at wants
    split at wants
    · cases wants
    · split at wants <;> cases wants
      exact Nat.zero_le _
  done_le {state buffer after consumed} finished := by
    rw [putHead_outcome] at finished
    split at finished
    · cases finished
    · split at finished <;> cases finished
      next found => exact (headLength_bounds found).2
  more_append {state buffer after consumed} extra _ _ wants := by
    rw [putHead_outcome] at wants
    split at wants
    · cases wants
    · next going =>
      split at wants <;> cases wants
      simp only [putHead_outcome, going, drop_zero, Option.isSome_none, Bool.false_eq_true,
        if_false]
      split <;> simp [Outcome.shift]
  done_append {state buffer after consumed} extra _ finished := by
    rw [putHead_outcome] at finished
    split at finished
    · cases finished
    · next going =>
      split at finished <;> cases finished
      next found =>
        rw [putHead_outcome, if_neg going, headLength_append extra found]
        simp only [take_append_of_le_length (headLength_bounds found).2]
  failed_append {state buffer error} extra _ fails := by
    rw [putHead_outcome] at fails ⊢
    split at fails
    · next stale =>
      rw [if_pos stale]
      exact fails
    · split at fails <;> cases fails

/-- A parser for requests without a body that keep to its limits. -/
def headParser : Http11Parser Text where
  State := HeadState
  init _ _ := {}
  put := putHead
  isDone state := state.head.isSome
  gotSome := HeadState.gotSome
  get state := state.head.getD []
  init_not_done _ _ := rfl
  independent := putHead_independent
  consumes {_ _ buffer after parsed} finished := by
    rw [putHead_outcome] at finished
    simp only [Option.isSome_none, Bool.false_eq_true, if_false] at finished
    split at finished <;> cases finished
    next found => exact Nat.lt_of_lt_of_le (by decide) (headLength_bounds found).1

def getPage : Text := "GET /page HTTP/1.1\r\n\r\n".toList

def getLast : Text := "GET /last HTTP/1.1\r\nConnection: close\r\n\r\n".toList

/-- A server that sends every head back. -/
def echoServer : Server Text where
  parser := headParser
  clientKeepAlive head := head != getLast
  dispatch head := some { body := some head }
  stamps := ⟨"Thu, 01 Jan 1970 00:00:00 GMT".toList, fun _ => "OK".toList⟩

/-- Two requests and the start of a third one, in one read. -/
def oneRead : Network where
  reads := [getPage ++ getLast ++ "GET".toList]
  present := by decide

/-- The same bytes, cut inside a request line and an empty line. -/
def threeReads : Network where
  reads := [getPage.take 7, getPage.drop 7 ++ getLast.take 40, getLast.drop 40 ++ "GET".toList]
  present := by decide

theorem serve_chunk_independent_on_requests :
    oneRead.reads ≠ threeReads.reads ∧
      (serve echoServer oneRead).flatten = (serve echoServer threeReads).flatten :=
  ⟨by decide, (serve_chunk_independent echoServer oneRead threeReads ⟨rfl, fun _ => rfl⟩
    ⟨rfl, fun _ => rfl⟩ rfl).1⟩

/-- The first request is answered alike when the connection ends there. -/
theorem serve_extends_on_requests :
    (serve echoServer { reads := [getPage ++ getLast.take 40], present := by decide }).flatten <+:
      (serve echoServer oneRead).flatten :=
  serve_extends echoServer _ oneRead ⟨rfl, fun _ => rfl⟩ ⟨rfl, fun _ => rfl⟩
    ⟨getLast.drop 40 ++ "GET".toList, rfl⟩

end Heads

end Menagerie.Albatross.Http11Driver
