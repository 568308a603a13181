import Menagerie.Albatross.Response
import Menagerie.Library.Http
import Mathlib.Data.List.TakeWhile

/-!
# Responses are framed by their heads

The lines that `serialize_response` puts into a head, and which responses a reader of HTTP/1.1
splits apart again. The header pass notes a `Date` and a `Server`, but a `Content-Length` or
`Connection` of the handler stands beside the one that is appended.
-/

namespace Menagerie.Albatross

open Beaver Search Lines Http List

def Response.has (response : Response) (name : Text) : Bool :=
  response.headers.any (fun header => iequals header.1 name)

def Response.written (response : Response) : Text := response.body.getD []

/-- The status line, without its end. -/
def statusLine (stamps : Stamps) (response : Response) : Text :=
  versionText response.version ++ Nat.toDigits 10 response.status.code ++ [' '] ++
    stamps.obsoleteReason response.status.code

def headFields (stamps : Stamps) (response : Response) : Headers :=
  response.headers ++
    (if response.has "Date".toList then [] else [("Date".toList, stamps.date)]) ++
    (if response.has "Server".toList then [] else [("Server".toList, "Menagerie".toList)]) ++
    [("Content-Length".toList, Nat.toDigits 10 response.written.length)] ++
    (if response.keepAlive then [] else [("Connection".toList, "close".toList)])

def headText (stamps : Stamps) (response : Response) : List Text :=
  statusLine stamps response :: (headFields stamps response).map Http.fieldLine

theorem iequals_server_of_date {name : Text} (date : iequals name "Date".toList = true) :
    iequals name "Server".toList = false := by
  rw [iequals, beq_iff_eq] at date
  rw [iequals, date]
  decide

theorem headerLines_eq (headers : Headers) (hasDate hasServer : Bool) :
    headerLines headers hasDate hasServer =
      ((headers.map (fun header => fieldLine header ++ crlf)).flatten,
        hasDate || headers.any (fun header => iequals header.1 "Date".toList),
        hasServer || headers.any (fun header => iequals header.1 "Server".toList)) := by
  induction headers generalizing hasDate hasServer with
  | nil => simp [headerLines]
  | cons header rest ih =>
    obtain ⟨name, value⟩ := header
    have line : headerLine name value = fieldLine (name, value) ++ crlf := by
      simp [headerLine, fieldLine]
    simp only [headerLines, ih, line, map_cons, flatten_cons, any_cons,
      Prod.mk.injEq, true_and]
    cases date : iequals name "Date".toList with
    | false => cases hasDate <;> cases hasServer <;> simp
    | true =>
      have server := iequals_server_of_date date
      rw [server]
      cases hasDate <;> cases hasServer <;> simp

theorem crlf_eq : crlf = ending := rfl

theorem headerLine_eq (name value : Text) :
    headerLine name value = fieldLine (name, value) ++ ending := by
  simp [headerLine, fieldLine, crlf, ending]

theorem serializeResponse_eq (stamps : Stamps) (response : Response) :
    serializeResponse stamps response = join (headText stamps response) ++
      (ending ++ ending ++ response.written) := by
  have lines : join (headText stamps response) ++ ending =
      ((headText stamps response).map (· ++ ending)).flatten :=
    join_append_ending ..
  have date : response.headers.any (fun header => iequals header.1 "Date".toList) =
      response.has "Date".toList := rfl
  have server : response.headers.any (fun header => iequals header.1 "Server".toList) =
      response.has "Server".toList := rfl
  rw [← append_assoc, ← append_assoc, lines, serializeResponse, headerLines_eq]
  simp only [Bool.false_or, date, server, headerLine_eq, crlf_eq, headText, headFields, statusLine,
    map_cons, map_append, map_map, flatten_cons, flatten_append,
    append_assoc, Response.written]
  cases response.has "Date".toList <;> cases response.has "Server".toList <;>
    cases response.keepAlive <;>
    simp only [Bool.false_eq_true, if_true, if_false, map_cons, map_nil,
      flatten_cons, flatten_nil, append_nil, nil_append, append_assoc,
      Function.comp_def]

/-! ## What the head says -/

/-- The name of a line of the head, before its first colon. -/
def lineName (line : Text) : Text := line.takeWhile (· ≠ ':')

/-- The value of a line of the head, without blanks around it. -/
def lineValue (line : Text) : Text := Http.trim (line.dropWhile (· ≠ ':')).tail

/-- The lines with a name, in any letter case. -/
def linesNamed (name : Text) (lines : List Text) : List Text :=
  lines.filter (fun line => iequals (lineName line) name)

/-- The head at the front has one `Content-Length`, which is the length of the rest, one `Date`, one
`Server` and at most one `Connection`. -/
def HeadCounts (text : Text) : Prop :=
  ∃ head following, cut (crlf ++ crlf) text = some (head, following) ∧
    (linesNamed "Content-Length".toList (Lines.split head).tail).map lineValue =
      [Nat.toDigits 10 following.length] ∧
    (linesNamed "Date".toList (Lines.split head).tail).length = 1 ∧
    (linesNamed "Server".toList (Lines.split head).tail).length = 1 ∧
    (linesNamed "Connection".toList (Lines.split head).tail).length ≤ 1

/-- How many headers of the handler become a line with this name. -/
def Response.count (response : Response) (name : Text) : Nat :=
  response.headers.countP (fun header => iequals (lineName header.1) name)

/-- The handler sets no `Content-Length`, a `Date` or `Server` at most once and under exactly this
name, and no `Connection` beside an appended one. -/
structure Response.HeadCond (response : Response) : Prop where
  contentLength : response.count "Content-Length".toList = 0
  date : response.count "Date".toList = if response.has "Date".toList then 1 else 0
  server : response.count "Server".toList = if response.has "Server".toList then 1 else 0
  connection : response.count "Connection".toList + (if response.keepAlive then 0 else 1) ≤ 1

/-- No header breaks its line. -/
def Response.Plain (response : Response) : Prop :=
  ∀ header ∈ response.headers,
    ('\r' ∉ header.1 ∧ '\n' ∉ header.1) ∧ '\r' ∉ header.2 ∧ '\n' ∉ header.2

/-- A field can hold the date, and a status line the reasons. -/
structure Stamps.Sound (stamps : Stamps) : Prop where
  date : stamps.date.all Http.isFieldChar = true
  reason : ∀ code, (stamps.obsoleteReason code).all Http.isFieldChar = true

section Head

variable {stamps : Stamps} {response : Response}

theorem no_cr_of_isFieldChar {text : Text} (valid : text.all isFieldChar = true) :
    '\r' ∉ text := by
  intro member
  exact absurd (all_eq_true.mp valid '\r' member) (by decide)

theorem no_cr_of_isDigit {text : Text} (digits : ∀ c ∈ text, c.isDigit = true) : '\r' ∉ text := by
  intro member
  exact absurd (digits '\r' member) (by decide)

theorem toDigits_isDigit (n : Nat) : ∀ c ∈ Nat.toDigits 10 n, c.isDigit = true :=
  fun _ member => Nat.isDigit_of_mem_toDigits (by decide) (by decide) member

theorem fieldLine_plain {name value : Text} (inName : '\r' ∉ name) (inValue : '\r' ∉ value) :
    Plain (fieldLine (name, value)) := by
  constructor
  · simp [fieldLine, inName, inValue]
  · simp [fieldLine]

theorem statusLine_plain (sound : stamps.Sound) : Plain (statusLine stamps response) := by
  have version : '\r' ∉ versionText response.version := by
    unfold versionText
    split <;> decide
  have code := no_cr_of_isDigit (toDigits_isDigit response.status.code)
  have reason := no_cr_of_isFieldChar (sound.reason response.status.code)
  constructor
  · simp [statusLine, version, code, reason]
  · simp [statusLine]

theorem forall_headFields {p : Text × Text → Prop} (headers : ∀ header ∈ response.headers, p header)
    (date : p ("Date".toList, stamps.date)) (server : p ("Server".toList, "Menagerie".toList))
    (length : p ("Content-Length".toList, Nat.toDigits 10 response.written.length))
    (connection : p ("Connection".toList, "close".toList)) :
    ∀ field ∈ headFields stamps response, p field := by
  intro field member
  simp only [headFields, mem_append, mem_singleton, mem_ite_nil_left] at member
  rcases member with (((member | ⟨_, rfl⟩) | ⟨_, rfl⟩) | rfl) | ⟨_, rfl⟩
  · exact headers field member
  · exact date
  · exact server
  · exact length
  · exact connection

theorem headText_whole (sound : stamps.Sound)
    (closed : ∀ header ∈ response.headers, ¬ending <:+: fieldLine header) :
    ∀ line ∈ headText stamps response, Whole line := by
  intro line member
  rcases mem_cons.mp member with rfl | member
  · exact (statusLine_plain sound).whole
  · obtain ⟨field, there, rfl⟩ := mem_map.mp member
    refine forall_headFields (p := fun field => Whole (fieldLine field)) ?_ ?_ ?_ ?_ ?_
      field there
    · intro header member
      exact ⟨closed header member, by simp [fieldLine]⟩
    · exact (fieldLine_plain (by decide) (no_cr_of_isFieldChar sound.date)).whole
    · exact (fieldLine_plain (by decide) (by decide)).whole
    · exact (fieldLine_plain (by decide) (no_cr_of_isDigit (toDigits_isDigit _))).whole
    · exact (fieldLine_plain (by decide) (by decide)).whole

theorem Response.Plain.closed (plain : response.Plain) :
    ∀ header ∈ response.headers, ¬ending <:+: fieldLine header := by
  intro header member
  exact (fieldLine_plain (plain header member).1.1 (plain header member).2.1).whole.closed

theorem lineName_fieldLine (field : Text × Text) :
    lineName (fieldLine field) = lineName field.1 := by
  simp only [lineName, fieldLine, takeWhile_append]
  split
  · rename_i whole
    have same := takeWhile_prefix (· ≠ ':') |>.eq_of_length whole
    rw [same]
    simp
  · rfl

theorem length_linesNamed (name : Text) (fields : List (Text × Text)) :
    (linesNamed name (fields.map fieldLine)).length =
      fields.countP (fun field => iequals (lineName field.1) name) := by
  rw [linesNamed, filter_map, length_map, countP_eq_length_filter]
  simp only [Function.comp_def, lineName_fieldLine]

/-- The lines of the head with a name: the handler's and the added ones. -/
theorem countP_headFields (stamps : Stamps) (response : Response) (name : Text) :
    (headFields stamps response).countP (fun field => iequals (lineName field.1) name) =
      response.count name +
      (if response.has "Date".toList = false ∧ iequals "Date".toList name then 1 else 0) +
      (if response.has "Server".toList = false ∧ iequals "Server".toList name then 1 else 0) +
      (if iequals "Content-Length".toList name then 1 else 0) +
      (if response.keepAlive = false ∧ iequals "Connection".toList name then 1 else 0) := by
  have names : lineName "Date".toList = "Date".toList ∧ lineName "Server".toList = "Server".toList ∧
      lineName "Content-Length".toList = "Content-Length".toList ∧
      lineName "Connection".toList = "Connection".toList := by decide
  obtain ⟨date, server, length, connection⟩ := names
  simp only [headFields, countP_append, Response.count]
  cases response.has "Date".toList <;> cases response.has "Server".toList <;>
    cases response.keepAlive <;>
    simp only [Bool.false_eq_true, if_true, if_false, countP_cons, countP_nil, date,
      server, length, connection, true_and, false_and, reduceCtorEq, Nat.zero_add, Nat.add_zero]

/-- The names of the lines that are appended, and whether they are. -/
def Response.appended (response : Response) : List (Text × Bool) :=
  [("Content-Length".toList, true), ("Date".toList, !response.has "Date".toList),
    ("Server".toList, !response.has "Server".toList), ("Connection".toList, !response.keepAlive)]

/-- The lines with such a name: the handler's and the appended one. -/
theorem length_appended (stamps : Stamps) (response : Response) {name : Text} {added : Bool}
    (appended : (name, added) ∈ response.appended) :
    (linesNamed name ((headFields stamps response).map fieldLine)).length =
      response.count name + added.toNat := by
  rw [length_linesNamed, countP_headFields]
  simp only [Response.appended, mem_cons, Prod.mk.injEq, not_mem_nil, or_false] at appended
  rcases appended with ⟨rfl, rfl⟩ | ⟨rfl, rfl⟩ | ⟨rfl, rfl⟩ | ⟨rfl, rfl⟩
  · simp +decide only [and_false, if_false, if_true, Nat.add_zero, Bool.toNat_true]
  · cases response.has "Date".toList <;> simp +decide
  · cases response.has "Server".toList <;> simp +decide
  · cases response.keepAlive <;> simp +decide

theorem trim_toDigits (n : Nat) : trim (Nat.toDigits 10 n) = Nat.toDigits 10 n := by
  refine trim_of_no_blank (fun c member => ?_)
  have digit := toDigits_isDigit n c member
  by_contra blank
  rw [Bool.not_eq_false, isBlank, Bool.or_eq_true, decide_eq_true_eq,
    decide_eq_true_eq] at blank
  rcases blank with rfl | rfl <;> exact absurd digit (by decide)

theorem lineValue_contentLength (n : Nat) :
    lineValue (fieldLine ("Content-Length".toList, Nat.toDigits 10 n)) =
      Nat.toDigits 10 n := by
  have value : ∀ digits : Text, lineValue (fieldLine ("Content-Length".toList, digits)) =
      trim digits := fun _ => rfl
  rw [value, trim_toDigits]

theorem values_contentLength_iff (stamps : Stamps) (response : Response) :
    (linesNamed "Content-Length".toList ((headFields stamps response).map fieldLine)).map
        lineValue = [Nat.toDigits 10 response.written.length] ↔
      response.count "Content-Length".toList = 0 := by
  have count := length_appended stamps response mem_cons_self
  rw [Bool.toNat_true] at count
  constructor
  · intro values
    have one := congrArg length values
    rw [length_map, length_singleton] at one
    omega
  · intro zero
    rw [zero, Nat.zero_add, length_eq_one_iff] at count
    obtain ⟨line, only⟩ := count
    have member : fieldLine ("Content-Length".toList,
        Nat.toDigits 10 response.written.length) ∈ linesNamed "Content-Length".toList
          ((headFields stamps response).map fieldLine) := by
      refine mem_filter.mpr ⟨mem_map_of_mem ?_, ?_⟩
      · simp only [headFields, mem_append, mem_singleton, true_or, or_true]
      · rw [lineName_fieldLine]
        exact (by decide :
          iequals (lineName "Content-Length".toList) "Content-Length".toList = true)
    rw [only, mem_singleton] at member
    rw [only, map_singleton, ← member, lineValue_contentLength]

/-- The head counts right exactly when the handler keeps to the condition. -/
theorem headCounts_iff (sound : stamps.Sound) (plain : response.Plain) :
    HeadCounts (serializeResponse stamps response) ↔ response.HeadCond := by
  have lines := headText_whole sound plain.closed
  have found : cut (crlf ++ crlf) (serializeResponse stamps response) =
      some (join (headText stamps response), response.written) := by
    rw [serializeResponse_eq]
    exact cut_blank lines _
  have fields : (split (join (headText stamps response))).tail =
      (headFields stamps response).map fieldLine := by
    rw [split_join lines, headText, tail_cons]
  have date := length_appended stamps response (mem_cons_of_mem _ mem_cons_self)
  have server := length_appended stamps response
    (mem_cons_of_mem _ (mem_cons_of_mem _ mem_cons_self))
  have connection := length_appended stamps response
    (mem_cons_of_mem _ (mem_cons_of_mem _ (mem_cons_of_mem _ mem_cons_self)))
  rw [← fields] at date server connection
  constructor
  · rintro ⟨head, following, cutAt, length, dates, servers, connections⟩
    rw [found, Option.some.injEq, Prod.mk.injEq] at cutAt
    obtain ⟨rfl, rfl⟩ := cutAt
    rw [fields, values_contentLength_iff] at length
    rw [date] at dates
    rw [server] at servers
    rw [connection] at connections
    refine ⟨length, ?_, ?_, ?_⟩
    · cases has : response.has "Date".toList <;> rw [has] at dates <;> simpa using dates
    · cases has : response.has "Server".toList <;> rw [has] at servers <;> simpa using servers
    · cases alive : response.keepAlive <;> simpa [alive] using connections
  · intro cond
    refine ⟨_, _, found, ?_, ?_, ?_, ?_⟩
    · rw [fields, values_contentLength_iff]
      exact cond.contentLength
    · rw [date, cond.date]
      cases response.has "Date".toList <;> rfl
    · rw [server, cond.server]
      cases response.has "Server".toList <;> rfl
    · rw [connection]
      have atMost := cond.connection
      cases alive : response.keepAlive <;> simpa [alive] using atMost

/-! ## Splitting a stream of responses -/

/-- The version of a status line. -/
def wireVersion (version : HttpVersion) : Text :=
  if version = .http10 then "HTTP/1.0".toList else "HTTP/1.1".toList

theorem versionText_eq (version : HttpVersion) :
    versionText version = wireVersion version ++ [' '] := by
  unfold versionText wireVersion
  split <;> rfl

theorem wireVersion_known (version : HttpVersion) : ' ' ∉ wireVersion version ∧
    (wireVersion version = "HTTP/1.1".toList ∨ wireVersion version = "HTTP/1.0".toList) := by
  cases version <;> decide

/-- The message that a reader should make of a response. -/
def wire (stamps : Stamps) (response : Response) : Http.Message where
  version := wireVersion response.version
  code := response.status.code
  reason := stamps.obsoleteReason response.status.code
  fields := (headFields stamps response).map Http.Field.trimmed
  body := response.written

/-- The head counts right, a strict reader accepts the headers, none is a `Transfer-Encoding`, and a
status without a body has none. -/
structure Response.Framed (response : Response) : Prop where
  head : response.HeadCond
  valid : ∀ header ∈ response.headers, Http.Field.Valid header
  transferEncoding : ∀ header ∈ response.headers,
    iequals header.1 "Transfer-Encoding".toList = false
  bodyless : Http.bodyless response.status.code = true → response.written = []

theorem readStatusLine_statusLine (sound : stamps.Sound) :
    readStatusLine (statusLine stamps response) =
      some (wireVersion response.version, response.status.code,
        stamps.obsoleteReason response.status.code) := by
  have three : (Nat.toDigits 10 response.status.code).length = 3 := by
    cases response.status <;> decide
  have digits : (Nat.toDigits 10 response.status.code).all Char.isDigit = true :=
    all_eq_true.mpr (toDigits_isDigit _)
  have number : Nat.ofDigitChars 10 (Nat.toDigits 10 response.status.code) 0 =
      response.status.code := Nat.ofDigitChars_toDigits (by decide) (by decide)
  have noBlank : ' ' ∉ Nat.toDigits 10 response.status.code := by
    intro member
    exact absurd (toDigits_isDigit _ ' ' member) (by decide)
  have second : cut [' '] (Nat.toDigits 10 response.status.code ++
      ([' '] ++ stamps.obsoleteReason response.status.code)) =
        some (Nat.toDigits 10 response.status.code,
          stamps.obsoleteReason response.status.code) := by
    rw [cut_append noBlank, cut_needle]
    simp
  have version := wireVersion_known response.version
  have first : ∀ rest : Text, cut [' '] (versionText response.version ++ rest) =
      some (wireVersion response.version, rest) := by
    intro rest
    rw [versionText_eq, append_assoc, cut_append version.1, cut_needle]
    simp
  rw [readStatusLine, statusLine, append_assoc, append_assoc, first]
  dsimp only
  rw [second]
  dsimp only
  rw [if_pos ⟨version.2, three, digits, sound.reason _⟩, number]

theorem readMessage_serialize (sound : stamps.Sound) (plain : response.Plain)
    (rest later : Text) :
    readMessage (serializeResponse stamps response ++ rest) =
        some (wire stamps response, later) ↔
      ((∀ field ∈ headFields stamps response, Field.Valid field) ∧
        bodyLength response.status.code (wire stamps response).fields =
          some response.written.length) ∧ later = rest := by
  have read := readMessage_head (headText_whole sound plain.closed)
    (@readStatusLine_statusLine stamps response sound) (wire stamps response).fields
    response.written rest later
  rw [serializeResponse_eq, append_assoc, append_assoc, headText]
  refine read.trans ?_
  rw [← readFields_fieldLine]
  exact and_assoc.symm

theorem headers_subset : response.headers ⊆ headFields stamps response := by
  intro header member
  simp only [headFields, mem_append, member, true_or]

theorem valid_headFields_iff (sound : stamps.Sound) :
    (∀ field ∈ headFields stamps response, Field.Valid field) ↔
      ∀ header ∈ response.headers, Field.Valid header := by
  constructor
  · intro valid header member
    exact valid header (headers_subset member)
  · intro valid
    have digits : (Nat.toDigits 10 response.written.length).all isFieldChar = true := by
      rw [all_eq_true]
      intro c member
      exact isFieldChar_of_isDigit (toDigits_isDigit _ c member)
    have date : isToken "Date".toList = true := by decide
    have length : isToken "Content-Length".toList = true := by decide
    exact forall_headFields valid ⟨date, sound.date⟩ ⟨by decide, by decide⟩ ⟨length, digits⟩
      ⟨by decide, by decide⟩

theorem lineName_of_isToken {name : Text} (token : isToken name = true) :
    lineName name = name := by
  have plain := not_colon_of_isToken token
  have passes : ∀ c ∈ name, decide (c ≠ ':') = true := by
    intro c member
    rw [decide_eq_true_eq]
    rintro rfl
    exact plain member
  exact takeWhile_eq_self_iff.mpr passes

theorem named_transferEncoding_iff (stamps : Stamps) (response : Response) :
    named "Transfer-Encoding".toList (wire stamps response).fields = [] ↔
      ∀ header ∈ response.headers, iequals header.1 "Transfer-Encoding".toList = false := by
  rw [named, filter_eq_nil_iff]
  constructor
  · intro none header member
    have absent := none _ (mem_map_of_mem (headers_subset member))
    exact Bool.not_eq_true _ ▸ absent
  · intro none field member
    obtain ⟨raw, there, rfl⟩ := mem_map.mp member
    rw [Bool.not_eq_true]
    refine forall_headFields (p := fun field => iequals field.1 "Transfer-Encoding".toList = false)
      none ?_ ?_ ?_ ?_ raw there
    · exact (by decide : iequals "Date".toList "Transfer-Encoding".toList = false)
    · exact (by decide : iequals "Server".toList "Transfer-Encoding".toList = false)
    · exact (by decide : iequals "Content-Length".toList "Transfer-Encoding".toList = false)
    · exact (by decide : iequals "Connection".toList "Transfer-Encoding".toList = false)

theorem contentLength_wire (valid : ∀ field ∈ headFields stamps response, Field.Valid field)
    (none : response.count "Content-Length".toList = 0) :
    contentLength (wire stamps response).fields = some response.written.length := by
  have count : (named "Content-Length".toList (wire stamps response).fields).length = 1 := by
    have lines := length_appended stamps response mem_cons_self
    rw [none, Nat.zero_add, Bool.toNat_true, length_linesNamed] at lines
    rw [named, ← countP_eq_length_filter, ← lines, wire, countP_map]
    refine countP_congr (fun field member => ?_)
    rw [lineName_of_isToken (valid field member).1]
    rfl
  obtain ⟨only, same⟩ := length_eq_one_iff.mp count
  have member : (("Content-Length".toList, Nat.toDigits 10 response.written.length) : Text × Text) ∈
      named "Content-Length".toList (wire stamps response).fields := by
    refine mem_filter.mpr ⟨mem_map.mpr
      ⟨("Content-Length".toList, Nat.toDigits 10 response.written.length), ?_, ?_⟩, ?_⟩
    · simp only [headFields, mem_append, mem_singleton, true_or, or_true]
    · rw [Field.trimmed, trim_toDigits]
    · exact (by decide : iequals "Content-Length".toList "Content-Length".toList = true)
  rw [same, mem_singleton] at member
  subst member
  simp only [contentLength, same]
  rw [if_pos ⟨Nat.toDigits_ne_nil, all_eq_true.mpr (toDigits_isDigit _)⟩,
    Nat.ofDigitChars_toDigits (by decide) (by decide)]

/-- A response whose head counts right is read back exactly when it is framed. -/
theorem readMessage_iff_framed (sound : stamps.Sound) (head : response.HeadCond) :
    ((∀ field ∈ headFields stamps response, Field.Valid field) ∧
      bodyLength response.status.code (wire stamps response).fields =
        some response.written.length) ↔ response.Framed := by
  constructor
  · rintro ⟨valid, length⟩
    unfold bodyLength at length
    split at length
    · cases length
    · rename_i encoding
      rw [not_not, named_transferEncoding_iff] at encoding
      refine ⟨head, (valid_headFields_iff sound).mp valid, encoding, ?_⟩
      intro bodyless
      rw [contentLength_wire valid head.contentLength, Option.map_some, if_pos bodyless,
        Option.some.injEq] at length
      exact eq_nil_of_length_eq_zero length.symm
  · intro framed
    have valid := (valid_headFields_iff sound).mpr framed.valid
    have encoding := (named_transferEncoding_iff stamps response).mpr framed.transferEncoding
    refine ⟨valid, ?_⟩
    rw [bodyLength, if_neg (not_not.mpr encoding),
      contentLength_wire valid head.contentLength, Option.map_some]
    split
    · rename_i bodyless
      rw [framed.bodyless bodyless]
      rfl
    · rfl

end Head

/-- A response with the date and the reason written with it. -/
abbrev Stamped := Stamps × Response

/-- Responses written one after the other. -/
def streamOf (responses : List Stamped) : Text :=
  (responses.map (fun item => serializeResponse item.1 item.2)).flatten

/-- A head counts right exactly when the handler keeps to `HeadCond`; keep-alive responses with
right heads, one after the other, are split into these responses exactly when all are framed. -/
theorem serialized_responses_framed_iff (stamps : Stamps) (response : Response)
    (responses : List Stamped) :
    (stamps.Sound → response.Plain →
      (HeadCounts (serializeResponse stamps response) ↔ response.HeadCond)) ∧
    ((∀ item ∈ responses, item.1.Sound ∧ item.2.Plain ∧ item.2.keepAlive = true) →
      (((∀ item ∈ responses, HeadCounts (serializeResponse item.1 item.2)) ∧
        Http.readMessages (streamOf responses).length (streamOf responses) =
          some (responses.map (fun item => wire item.1 item.2))) ↔
        ∀ item ∈ responses, item.2.Framed)) := by
  refine ⟨fun sound plain => headCounts_iff sound plain, ?_⟩
  intro proper
  have nonempty : ∀ item ∈ responses, serializeResponse item.1 item.2 ≠ [] := by
    intro item _
    rw [serializeResponse_eq]
    simp [ending]
  have split : readMessages _ _ =
      some (responses.map (fun item => wire item.1 item.2)) ↔ _ := readMessages_flatten
    (fun item member => readMessage_serialize (proper item member).1 (proper item member).2.1)
    nonempty (Nat.le_refl _)
  rw [streamOf, split]
  constructor
  · rintro ⟨counts, read⟩ item member
    have head := (headCounts_iff (proper item member).1 (proper item member).2.1).mp
      (counts item member)
    exact (readMessage_iff_framed (proper item member).1 head).mp (read item member)
  · intro framed
    constructor
    · intro item member
      exact (headCounts_iff (proper item member).1 (proper item member).2.1).mpr
        (framed item member).head
    · intro item member
      exact (readMessage_iff_framed (proper item member).1 (framed item member).head).mpr
        (framed item member)

def someStamps : Stamps where
  date := "Thu, 01 Jan 1970 00:00:00 GMT".toList
  obsoleteReason _ := "OK".toList

theorem someStamps_sound : someStamps.Sound :=
  ⟨by decide, fun _ => (by decide : "OK".toList.all isFieldChar = true)⟩

/-- A response with a body, and one whose handler sets the date. -/
def twoResponses : List Stamped :=
  [(someStamps, { body := some "hi\r\n\r\n".toList }),
    (someStamps, { status := .noContent, headers := [("DATE".toList, "now".toList)] })]

/-- These two responses are split apart again. -/
theorem serialized_responses_framed_two :
    (∀ item ∈ twoResponses, HeadCounts (serializeResponse item.1 item.2)) ∧
      Http.readMessages (streamOf twoResponses).length (streamOf twoResponses) =
        some (twoResponses.map (fun item => wire item.1 item.2)) := by
  refine ((serialized_responses_framed_iff someStamps {} twoResponses).2 ?_).mpr ?_
  · simp only [twoResponses, mem_cons, not_mem_nil, or_false, forall_eq_or_imp, forall_eq]
    exact ⟨⟨someStamps_sound, by simp [Response.Plain], trivial⟩, someStamps_sound,
      by simp [Response.Plain], trivial⟩
  · simp only [twoResponses, mem_cons, not_mem_nil, or_false, forall_eq_or_imp, forall_eq]
    refine ⟨⟨⟨by decide, by decide, by decide, by decide⟩, by simp, by simp, by decide⟩,
      ⟨by decide, by decide, by decide, by decide⟩, ?_, ?_, by decide⟩
    · intro header member
      rw [mem_singleton.mp member]
      exact ⟨by decide, by decide⟩
    · intro header member
      rw [mem_singleton.mp member]
      decide

/-- A response whose handler sets the content length. -/
def ownContentLength : Response where
  headers := [("content-length".toList, "3".toList)]
  body := some "hi".toList

/-- The head has two different content lengths, and is refused. -/
theorem content_length_twice : ownContentLength.Plain ∧
    ¬HeadCounts (serializeResponse someStamps ownContentLength) ∧
    Http.readMessage (serializeResponse someStamps ownContentLength) = none := by
  have plain : ownContentLength.Plain := by
    intro header member
    rw [mem_singleton.mp member]
    decide
  refine ⟨plain, ?_, by decide +kernel⟩
  rw [headCounts_iff someStamps_sound plain]
  intro head
  exact absurd head.contentLength (by decide)

end Menagerie.Albatross
