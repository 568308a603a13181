import Menagerie.Library.Incremental
import Menagerie.Albatross.Response

/-!
# The HTTP/1.1 driver

`Http11Driver::serve` runs one keep-alive session: it parses a request from the buffered bytes,
reads more where the parser needs more, dispatches the request and appends the response to a batch
that is written once the buffer runs dry.
-/

namespace Menagerie.Albatross

open Beaver Incremental

/-- `boost::beast::http::error`. -/
inductive HttpError
  | endOfStream | partialMessage | needMore | unexpectedBody | needBuffer | endOfChunk
  | bufferOverflow | headerLimit | bodyLimit | badAlloc | badLineEnding | badMethod | badTarget
  | badVersion | badStatus | badReason | badField | badValue | badContentLength
  | badTransferEncoding | badChunk | badChunkExtension | badObsFold | multipleContentLength
  | staleParser | shortRead
  deriving DecidableEq

def isMalformedRequest : HttpError → Bool
  | .badLineEnding | .badMethod | .badTarget | .badVersion | .badField | .badValue
  | .badContentLength | .badTransferEncoding | .badChunk | .badChunkExtension | .badObsFold => true
  | _ => false

/-- The error codes of the parser and of the transport. -/
inductive ErrorCode
  | http (error : HttpError)
  | eof
  | transport
  deriving DecidableEq

/-- The limits of `Http11Config`. -/
structure Http11Config where
  maxHeaderBytes : Nat := 16 * 1024
  maxBodyBytes : Nat := 16 * 1024 * 1024

/-- The result of `parser.put`: the parser, the bytes parsed and the error code. -/
structure Put (State : Type) where
  state : State
  parsed : Nat
  ec : Option HttpError

/-- The error code that ends the session: `need_more` is none. -/
def Put.error {State : Type} (result : Put State) : Option HttpError :=
  if result.ec = some .needMore then none else result.ec

/-- What `parser.put` means to the driver. -/
def Put.outcome {State : Type} (isDone : State → Bool) (result : Put State) :
    Outcome State HttpError :=
  match result.error with
  | some error => .failed error
  | none =>
    if isDone result.state then .done result.state result.parsed
    else .more result.state result.parsed

/-- `Http11Parser`, which is eager, incremental and independent of how its input is cut. -/
structure Http11Parser (Request : Type) where
  State : Type
  init : Nat → Nat → State
  put : State → Text → Put State
  isDone : State → Bool
  gotSome : State → Bool
  get : State → Request
  init_not_done : ∀ headerLimit bodyLimit, isDone (init headerLimit bodyLimit) = false
  independent : ChunkIndependent fun state buffer => (put state buffer).outcome isDone
  consumes : ∀ {headerLimit bodyLimit buffer after parsed},
    (put (init headerLimit bodyLimit) buffer).outcome isDone = .done after parsed → 0 < parsed

/-- The peer and the transport: the chunks that are read, the error behind them, and which writes
fail. -/
structure Network where
  reads : List Text
  present : ∀ read ∈ reads, read ≠ []
  ending : ErrorCode := .eof
  writeFails : Nat → Bool := fun _ => false

/-- What `serve` is given. -/
structure Server (Request : Type) where
  parser : Http11Parser Request
  cfg : Http11Config := {}
  clientKeepAlive : Request → Bool
  /-- `router.dispatch`; `none` where it throws. -/
  dispatch : Request → Option Response
  stamps : Stamps

namespace Http11Driver

variable {Request : Type} (server : Server Request)

/-- A fresh parser for the next message. -/
def freshParser : server.parser.State :=
  server.parser.init (server.cfg.maxHeaderBytes % 2 ^ 32) server.cfg.maxBodyBytes

/-- The error code of a read that ends the session. -/
def readError (ending : ErrorCode) (state : server.parser.State) : ErrorCode :=
  if ending = .eof then
    .http (if server.parser.gotSome state then .partialMessage else .endOfStream)
  else ending

/-- How the loop that receives a message ends. -/
structure Received (State : Type) where
  ec : Option ErrorCode
  state : State
  buffer : Text
  reads : List Text

/-- `put` and `consume`, if anything is buffered. -/
def parseBuffered (state : server.parser.State) (buffer : Text) :
    server.parser.State × Text × Option HttpError :=
  if buffer = [] then (state, buffer, none)
  else
    let result := server.parser.put state buffer
    (result.state, buffer.drop result.parsed, result.error)

/-- The loop that receives one message. -/
def receive (ending : ErrorCode) (state : server.parser.State) (buffer : Text) (reads : List Text) :
    Received server.parser.State :=
  if server.parser.isDone state then ⟨none, state, buffer, reads⟩
  else
    match parseBuffered server state buffer with
    | (after, rest, some error) => ⟨some (.http error), after, rest, reads⟩
    | (after, rest, none) =>
      if server.parser.isDone after then ⟨none, after, rest, reads⟩
      else
        match reads with
        | [] => ⟨some (readError server ending after), after, rest, []⟩
        | read :: others => receive ending after (rest ++ read) others

/-- `parser.put` as the driver sees it. -/
def answer (state : server.parser.State) (buffer : Text) :
    Outcome server.parser.State HttpError :=
  (server.parser.put state buffer).outcome server.parser.isDone

/-- What the loop gives, by how feeding the parser ends. -/
def Describes (ending : ErrorCode) (received : Received server.parser.State) :
    Fed Char server.parser.State HttpError → Prop
  | .done state buffer reads => received = ⟨none, state, buffer, reads⟩
  | .failed error => received.ec = some (.http error)
  | .ended state => received.ec = some (readError server ending state)

/-- One round of the loop before it reads. -/
theorem parseBuffered_eq (state : server.parser.State) (buffer : Text)
    (going : server.parser.isDone state = false) :
    match offer (answer server) state buffer with
    | .more after consumed =>
      parseBuffered server state buffer = (after, buffer.drop consumed, none) ∧
        server.parser.isDone after = false
    | .done after consumed =>
      parseBuffered server state buffer = (after, buffer.drop consumed, none) ∧
        server.parser.isDone after = true
    | .failed error =>
      ∃ after rest, parseBuffered server state buffer = (after, rest, some error) := by
  cases buffer with
  | nil => exact ⟨rfl, going⟩
  | cons c rest =>
    simp only [offer, answer, Put.outcome, parseBuffered, reduceCtorEq, if_false]
    cases (server.parser.put state (c :: rest)).error with
    | some error => exact ⟨_, _, rfl⟩
    | none =>
      cases finished : server.parser.isDone (server.parser.put state (c :: rest)).state with
      | true | false => exact ⟨rfl, finished⟩

theorem receive_describes (ending : ErrorCode) (state : server.parser.State) (buffer : Text)
    (reads : List Text) (going : server.parser.isDone state = false) :
    Describes server ending (receive server ending state buffer reads)
      (feed (answer server) state buffer reads) := by
  induction reads generalizing state buffer with
  | nil =>
    have round := parseBuffered_eq server state buffer going
    unfold receive feed
    cases asked : offer (answer server) state buffer with
    | failed error =>
      rw [asked] at round
      obtain ⟨after, rest, parsed⟩ := round
      simp [going, parsed, Describes]
    | done after consumed | more after consumed =>
      rw [asked] at round
      simp [going, round.1, round.2, Describes]
  | cons read others ih =>
    have round := parseBuffered_eq server state buffer going
    unfold receive feed
    cases asked : offer (answer server) state buffer with
    | failed error =>
      rw [asked] at round
      obtain ⟨after, rest, parsed⟩ := round
      simp [going, parsed, Describes]
    | done after consumed =>
      rw [asked] at round
      simp [going, round.1, round.2, Describes]
    | more after consumed =>
      rw [asked] at round
      simp only [going, round.1, round.2, Bool.false_eq_true, if_false]
      exact ih after _ round.2

/-- How the next message ends, by the bytes still to come. -/
theorem receive_fresh (ending : ErrorCode) (buffer : Text) (reads : List Text)
    (present : ∀ read ∈ reads, read ≠ []) :
    match offer (answer server) (freshParser server) (buffer ++ reads.flatten) with
    | .done state consumed => ∃ rest others,
        receive server ending (freshParser server) buffer reads = ⟨none, state, rest, others⟩ ∧
        (∀ read ∈ others, read ≠ []) ∧
        rest ++ others.flatten = (buffer ++ reads.flatten).drop consumed ∧
        0 < consumed ∧ consumed ≤ (buffer ++ reads.flatten).length
    | .failed error =>
        (receive server ending (freshParser server) buffer reads).ec = some (.http error)
    | .more state _ => (receive server ending (freshParser server) buffer reads).ec =
        some (readError server ending state) := by
  have fed := server.parser.independent.feed_matches reads present (freshParser server) buffer
  have received := receive_describes server ending (freshParser server) buffer reads
    (server.parser.init_not_done _ _)
  change Matches _ (feed (answer server) _ _ _) (offer (answer server) _ _) at fed
  cases asked : offer (answer server) (freshParser server) (buffer ++ reads.flatten) with
  | failed error | more state consumed =>
    rw [asked] at fed
    rw [show feed (answer server) _ _ _ = _ from fed] at received
    exact received
  | done state consumed =>
    rw [asked] at fed
    obtain ⟨bound, rest, others, finished, othersPresent, left⟩ := fed
    rw [finished] at received
    refine ⟨rest, others, received, othersPresent, left, ?_, bound⟩
    generalize whole : buffer ++ reads.flatten = bytes at asked
    cases bytes with
    | nil => cases asked
    | cons c tail => exact server.parser.consumes asked

/-- The closing response for an error code, if there is one. -/
def errorResponse : ErrorCode → Option Response
  | .http .endOfStream => none
  | .http .headerLimit =>
    some { ResponseFactory.badRequest "Request Header Fields Too Large".toList with
      keepAlive := false }
  | .http .bodyLimit => some { ResponseFactory.payloadTooLarge with keepAlive := false }
  | .http error =>
    if isMalformedRequest error then
      some { ResponseFactory.badRequest "Bad Request".toList with keepAlive := false }
    else none
  | .eof | .transport => none

/-- What `dispatch` gives, or the response for an exception. -/
def dispatched (request : Request) : Response :=
  match server.dispatch request with
  | some response => response
  | none => { ResponseFactory.internalError with keepAlive := false }

/-- The response with its effective keep-alive. -/
def respond (request : Request) : Response :=
  let response := dispatched server request
  { response with
    keepAlive := response.keepAlive && server.clientKeepAlive request
    version := .http11 }

/-- The state of a session between two messages. -/
structure Session where
  buffer : Text := []
  reads : List Text
  present : ∀ read ∈ reads, read ≠ []
  outbuf : Text := []
  writes : List Text := []

/-- The bytes that have not been parsed yet. -/
def Session.bytes (session : Session) : Text := session.buffer ++ session.reads.flatten

/-- `async_write` of the batch, which is cleared even on error. -/
def Session.flush (writeFails : Nat → Bool) (session : Session) : Session :=
  { session with
    outbuf := []
    writes :=
      if writeFails session.writes.length then session.writes
      else session.writes ++ [session.outbuf] }

/-- The cap of a batch, in bytes. -/
def batchCap : Nat := 256 * 1024

theorem receive_leaves (ending : ErrorCode) (session : Session) {state : server.parser.State}
    {rest : Text} {others : List Text}
    (received : receive server ending (freshParser server) session.buffer session.reads =
      ⟨none, state, rest, others⟩) :
    (∀ read ∈ others, read ≠ []) ∧ (rest ++ others.flatten).length < session.bytes.length := by
  have next := receive_fresh server ending session.buffer session.reads session.present
  split at next
  · next after consumed asked =>
    obtain ⟨left, further, same, furtherPresent, bytes, positive, bound⟩ := next
    rw [received] at same
    cases same
    refine ⟨furtherPresent, ?_⟩
    rw [bytes, List.length_drop]
    change _ < (session.buffer ++ session.reads.flatten).length
    omega
  · rw [received] at next
    cases next
  · rw [received] at next
    cases next

/-- The session after a message, with the response in its batch. -/
def Session.answered (session : Session) (response : Response) (buffer : Text) (reads : List Text)
    (present : ∀ read ∈ reads, read ≠ []) : Session :=
  { session with
    buffer := buffer
    reads := reads
    present := present
    outbuf := session.outbuf ++ serializeResponse server.stamps response }

/-- The batch with the closing response for an error code. -/
def Session.closed (session : Session) (ec : ErrorCode) : Session :=
  { session with
    outbuf := session.outbuf ++
      ((errorResponse ec).map (serializeResponse server.stamps)).getD [] }

/-- The loop of a session, up to its `break`. -/
def serveLoop (network : Network) (session : Session) : Session :=
  match received :
      receive server network.ending (freshParser server) session.buffer session.reads with
  | ⟨some ec, _, _, _⟩ => session.closed server ec
  | ⟨none, state, buffer, reads⟩ =>
    let response := respond server (server.parser.get state)
    let next := session.answered server response buffer reads
      (receive_leaves server network.ending session received).1
    if !response.keepAlive || buffer = [] || batchCap ≤ next.outbuf.length then
      if network.writeFails next.writes.length || !response.keepAlive then
        next.flush network.writeFails
      else serveLoop network (next.flush network.writeFails)
    else serveLoop network next
termination_by session.bytes.length
decreasing_by
  · exact (receive_leaves server network.ending session received).2
  · exact (receive_leaves server network.ending session received).2

/-- `serve`: the batches that are written. -/
def serve (network : Network) : List Text :=
  let session := serveLoop server network { reads := network.reads, present := network.present }
  if session.outbuf = [] then session.writes
  else (session.flush network.writeFails).writes

end Http11Driver

end Menagerie.Albatross
