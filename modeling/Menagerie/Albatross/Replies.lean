import Menagerie.Albatross.Chunking
import Menagerie.Albatross.Framing

/-!
# Responses without a body

A reader of HTTP/1.1 takes no body after the head of a response to a `HEAD` request or with a status
1xx, 204 or 304. `serialize_response` does not know the request and appends every body, so such a
response moves the start of the next one.
-/

namespace Menagerie.Albatross

open Beaver Incremental Http List

/-- The head with its blank line. -/
def headBlock (stamps : Stamps) (response : Response) : Text :=
  Lines.join (headText stamps response) ++ (Lines.ending ++ Lines.ending)

/-- A reader accepts the headers, and none speaks of the length of the body. -/
structure Response.Readable (response : Response) : Prop where
  valid : ∀ header ∈ response.headers, Http.Field.Valid header
  transferEncoding : ∀ header ∈ response.headers,
    iequals header.1 "Transfer-Encoding".toList = false
  contentLength : response.count "Content-Length".toList = 0

theorem serializeResponse_headBlock (stamps : Stamps) (response : Response) :
    serializeResponse stamps response = headBlock stamps response ++ response.written := by
  simp only [serializeResponse_eq, headBlock, append_assoc]

theorem closed_of_valid {header : Text × Text} (valid : Field.Valid header) :
    ¬Lines.ending <:+: fieldLine header := by
  have name : '\r' ∉ header.1 := by
    intro member
    have token := valid.1
    rw [isToken, Bool.and_eq_true, all_eq_true] at token
    exact absurd (token.2 '\r' member) (by decide)
  exact (fieldLine_plain name (no_cr_of_isFieldChar valid.2)).whole.closed

theorem replyLength_serialize {stamps : Stamps} {response : Response} (sound : stamps.Sound)
    (readable : response.Readable) (isHead : Bool) (rest : Text) :
    replyLength isHead (serializeResponse stamps response ++ rest) =
      some ((headBlock stamps response).length +
        if isHead || bodyless response.status.code then 0 else response.written.length) := by
  have valid := (valid_headFields_iff sound).mpr readable.valid
  have whole : ∀ line ∈ headText stamps response, Lines.Whole line :=
    headText_whole sound (fun header member => closed_of_valid (readable.valid header member))
  have length : bodyLength response.status.code (wire stamps response).fields =
      some (if bodyless response.status.code then 0 else response.written.length) := by
    rw [bodyLength, if_neg (not_not.mpr ((named_transferEncoding_iff stamps response).mpr
      readable.transferEncoding)), contentLength_wire valid readable.contentLength,
      Option.map_some]
  rw [serializeResponse_eq, append_assoc, append_assoc, headText,
    replyLength_head whole (readStatusLine_statusLine sound)
      ((readFields_fieldLine _).mpr valid)]
  change Option.map _ (if _ then _ else bodyLength _ (wire stamps response).fields) = _
  rw [length]
  cases isHead with
  | true => rfl
  | false =>
    rw [Bool.false_or]
    split <;> rfl

namespace Http11Driver

variable {Request : Type} (server : Server Request) (isHead : Request → Bool)

/-- The answered requests, whether each is a `HEAD`, and the responses. -/
def exchanges : List Request → List (Bool × Response)
  | [] => []
  | request :: rest =>
    let response := respond server request
    (isHead request, response) :: if response.keepAlive then exchanges rest else []

/-- A reader expects no body. -/
def Bodiless (exchange : Bool × Response) : Prop :=
  (exchange.1 || Http.bodyless exchange.2.status.code) = true

theorem exchanges_snd (requests : List Request) :
    (exchanges server isHead requests).map Prod.snd = answers server requests := by
  induction requests with
  | nil => rfl
  | cons request rest ih =>
    rw [exchanges, answers, map_cons]
    split
    · rw [ih]
    · rfl

theorem transcript_eq (bytes : Text) :
    ∃ rest, transcript server bytes = answers server (messages server bytes).1 ++ rest := by
  unfold transcript
  dsimp only
  split
  · exact ⟨_, rfl⟩
  · exact ⟨[], (append_nil _).symm⟩

theorem mem_exchanges {requests : List Request} {exchange : Bool × Response}
    (member : exchange ∈ exchanges server isHead requests) :
    ∃ request, exchange = (isHead request, respond server request) := by
  induction requests with
  | nil => cases member
  | cons request rest ih =>
    rw [exchanges] at member
    rcases mem_cons.mp member with rfl | later
    · exact ⟨request, rfl⟩
    · split at later
      · exact ih later
      · cases later

/-- What a session writes begins with the responses to the requests. -/
theorem serve_flatten_exchanges (network : Network) (quiet : Quiet network) :
    ∃ rest, (serve server network).flatten =
      ((exchanges server isHead (messages server network.reads.flatten).1).map
        (fun exchange => serializeResponse server.stamps exchange.2)).flatten ++ rest := by
  obtain ⟨rest, whole⟩ := transcript_eq server network.reads.flatten
  refine ⟨serializeAll server rest, ?_⟩
  rw [serve_flatten server network quiet, whole, ← exchanges_snd server isHead]
  simp [serializeAll, flatMap, Function.comp_def]

/-- Nothing follows the head where a reader expects no body. -/
def BodilessEmpty (exchanged : List (Bool × Response)) : Prop :=
  ∀ exchange ∈ exchanged, Bodiless exchange → exchange.2.written = []

variable {exchanged : List (Bool × Response)}

theorem headBlock_iff {stamps : Stamps} :
    (∀ exchange ∈ exchanged, Bodiless exchange →
      serializeResponse stamps exchange.2 = headBlock stamps exchange.2) ↔
    BodilessEmpty exchanged := by
  refine forall₃_congr (fun exchange _ _ => ?_)
  rw [serializeResponse_headBlock, append_right_eq_self]

theorem readReplies_exchanges {stamps : Stamps} (sound : stamps.Sound)
    (readable : ∀ exchange ∈ exchanged, exchange.2.Readable) (rest : Text) :
    (∃ left, readReplies (exchanged.map Prod.fst) ((exchanged.map (fun exchange =>
        serializeResponse stamps exchange.2)).flatten ++ rest) =
      some (exchanged.map (fun exchange => serializeResponse stamps exchange.2), left)) ↔
    BodilessEmpty exchanged := by
  rw [readReplies_iff (fun exchange member rest =>
    replyLength_serialize sound (readable exchange member) exchange.1 rest)]
  · refine forall₂_congr (fun exchange member => ?_)
    rw [serializeResponse_headBlock, length_append, Nat.add_left_cancel_iff]
    rw [Bodiless, ← length_eq_zero_iff]
    split
    · rename_i bodiless
      simp only [bodiless, forall_const, eq_comm]
    · rename_i bodied
      simp only [bodied, Bool.false_eq_true, false_imp_iff]
  · intro exchange _
    rw [serializeResponse_headBlock, length_append]
    split <;> omega

/-- Nothing follows the heads of the responses that a reader takes without a body exactly when the
handlers give them none; and exactly then a reader by the rules of HTTP/1.1 finds every response
where it starts. -/
theorem bodiless_responses_iff (network : Network) (quiet : Quiet network)
    (sound : server.stamps.Sound) :
    let exchanged := exchanges server isHead (messages server network.reads.flatten).1
    ((∀ exchange ∈ exchanged, Bodiless exchange →
        serializeResponse server.stamps exchange.2 = headBlock server.stamps exchange.2) ↔
      BodilessEmpty exchanged) ∧
    ((∀ exchange ∈ exchanged, exchange.2.Readable) →
      ((∃ left, Http.readReplies (exchanged.map Prod.fst) (serve server network).flatten =
        some (exchanged.map (fun exchange => serializeResponse server.stamps exchange.2), left)) ↔
      BodilessEmpty exchanged)) := by
  intro exchanged
  refine ⟨headBlock_iff, fun readable => ?_⟩
  obtain ⟨rest, written⟩ := serve_flatten_exchanges server isHead network quiet
  rw [written]
  exact readReplies_exchanges sound readable rest

section Echo

/-- A `HEAD` request, and then a `GET`. -/
def headRead : Network where
  reads := ["HEAD /page HTTP/1.1\r\n\r\n".toList ++ getLast]
  present := by decide

/-- The request is a `HEAD`. -/
def asksHead (head : Text) : Bool := "HEAD ".toList.isPrefixOf head

/-- The server that sends every head back, except to a `HEAD`. -/
def headServer : Server Text :=
  { echoServer with
    dispatch := fun head => some { body := if asksHead head then none else some head } }

theorem echo_readable (head : Text) : (respond echoServer head).Readable :=
  ⟨by simp [respond, dispatched, echoServer], by simp [respond, dispatched, echoServer], rfl⟩

theorem echo_sound : echoServer.stamps.Sound := someStamps_sound

/-- The `HEAD` has no body in its answer, and both responses are found. -/
theorem bodiless_responses_echo : ∃ left, Http.readReplies
    ((exchanges headServer asksHead (messages headServer headRead.reads.flatten).1).map Prod.fst)
      (serve headServer headRead).flatten =
    some ((exchanges headServer asksHead (messages headServer headRead.reads.flatten).1).map
      (fun exchange => serializeResponse headServer.stamps exchange.2), left) := by
  refine ((bodiless_responses_iff headServer asksHead headRead ⟨rfl, fun _ => rfl⟩
    echo_sound).2 ?_).mpr ?_
  · intro exchange member
    obtain ⟨head, rfl⟩ := mem_exchanges _ _ member
    exact ⟨by simp [respond, dispatched, headServer], by simp [respond, dispatched, headServer],
      rfl⟩
  · intro exchange member bodiless
    obtain ⟨head, rfl⟩ := mem_exchanges _ _ member
    have asked : asksHead head = true := by
      have okay : bodyless (respond headServer head).status.code = false :=
        show bodyless HttpStatus.ok.code = false by decide
      rw [Bodiless, okay, Bool.or_false] at bodiless
      exact bodiless
    simp [respond, dispatched, headServer, asked, Response.written]

/-- The response to a `HEAD` has a body, and the next response is not found. -/
theorem head_response_with_body :
    let exchanged := exchanges echoServer asksHead (messages echoServer headRead.reads.flatten).1
    ¬(∀ exchange ∈ exchanged, Bodiless exchange → serializeResponse echoServer.stamps exchange.2 =
        headBlock echoServer.stamps exchange.2) ∧
    ¬∃ left, Http.readReplies (exchanged.map Prod.fst) (serve echoServer headRead).flatten =
      some (exchanged.map (fun exchange => serializeResponse echoServer.stamps exchange.2),
        left) := by
  intro exchanged
  have asked : offer (answer echoServer) (freshParser echoServer) headRead.reads.flatten =
      .done ⟨true, some "HEAD /page HTTP/1.1\r\n\r\n".toList⟩ 23 := by rfl
  have first : (true, respond echoServer "HEAD /page HTTP/1.1\r\n\r\n".toList) ∈ exchanged := by
    change _ ∈ exchanges echoServer asksHead (messages echoServer headRead.reads.flatten).1
    rw [messages_eq, asked]
    exact mem_cons_self
  have written : ¬BodilessEmpty exchanged := by
    intro empty
    exact absurd (empty _ first rfl) (by decide)
  refine ⟨fun block => written (headBlock_iff.mp block), ?_⟩
  obtain ⟨rest, whole⟩ := serve_flatten_exchanges echoServer asksHead headRead ⟨rfl, fun _ => rfl⟩
  rw [whole, readReplies_exchanges echo_sound]
  · exact written
  · intro exchange member
    obtain ⟨head, rfl⟩ := mem_exchanges _ _ member
    exact echo_readable head

end Echo

end Http11Driver

end Menagerie.Albatross
