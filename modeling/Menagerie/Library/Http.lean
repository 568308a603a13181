import Menagerie.Library.Lines

/-!
# A reader of HTTP/1.1 messages

Responses are read from a stream that holds them one after the other: a status line, field lines, a
blank line, and as many characters of body as the fields say. The reader is strict: a field name is
a token that stands right before its colon, and a message is refused when its length is not given by
one `Content-Length`, or when it has a `Transfer-Encoding` besides.
-/

namespace Menagerie.Http

open Search Lines List

/-- A character of a token. -/
def isTokenChar (c : Char) : Bool := c.isAlphanum || "!#$%&'*+-.^_`|~".toList.contains c

/-- A token of HTTP. -/
def isToken (name : List Char) : Bool := !name.isEmpty && name.all isTokenChar

/-- A blank within a line. -/
def isBlank (c : Char) : Bool := c = ' ' || c = '\t'

/-- Visible, beyond ASCII, or a blank. -/
def isFieldChar (c : Char) : Bool := isBlank c || 32 < c.toNat && c.toNat ≠ 127

/-- A value without the blanks around it. -/
def trim (value : List Char) : List Char :=
  ((value.dropWhile isBlank).reverse.dropWhile isBlank).reverse

/-- Two names are the same in any letter case. -/
def sameName (first second : List Char) : Bool := first.map Char.toLower == second.map Char.toLower

abbrev Field := List Char × List Char

/-- A response. -/
structure Message where
  version : List Char
  code : Nat
  reason : List Char
  fields : List Field
  body : List Char
  deriving DecidableEq

def named (name : List Char) (fields : List Field) : List Field :=
  fields.filter (fun field => sameName field.1 name)

/-- Reads the first line. -/
def readStatusLine (line : List Char) : Option (List Char × Nat × List Char) :=
  match cut [' '] line with
  | none => none
  | some (version, rest) =>
    match cut [' '] rest with
    | none => none
    | some (code, reason) =>
      if (version = "HTTP/1.1".toList ∨ version = "HTTP/1.0".toList) ∧ code.length = 3 ∧
          code.all Char.isDigit ∧ reason.all isFieldChar then
        some (version, Nat.ofDigitChars 10 code 0, reason)
      else none

/-- Reads a header line. -/
def readField (line : List Char) : Option Field :=
  match cut [':'] line with
  | none => none
  | some (name, value) =>
    if isToken name ∧ value.all isFieldChar then some (name, trim value) else none

/-- Reads the header lines. -/
def readFields : List (List Char) → Option (List Field)
  | [] => some []
  | line :: rest =>
    match readField line, readFields rest with
    | some field, some fields => some (field :: fields)
    | _, _ => none

/-- The given length. -/
def contentLength (fields : List Field) : Option Nat :=
  match named "Content-Length".toList fields with
  | [(_, digits)] =>
    if digits ≠ [] ∧ digits.all Char.isDigit then some (Nat.ofDigitChars 10 digits 0) else none
  | _ => none

/-- A status after which no body comes. -/
def bodyless (code : Nat) : Bool := code / 100 = 1 || code = 204 || code = 304

/-- How many characters of body follow. -/
def bodyLength (code : Nat) (fields : List Field) : Option Nat :=
  if named "Transfer-Encoding".toList fields ≠ [] then none
  else (contentLength fields).map (fun length => if bodyless code then 0 else length)

/-- The message at the front of a stream, and the rest. -/
def readMessage (stream : List Char) : Option (Message × List Char) :=
  match cut (Lines.ending ++ Lines.ending) stream with
  | none => none
  | some (head, rest) =>
    match Lines.split head with
    | [] => none
    | status :: lines =>
      match readStatusLine status, readFields lines with
      | some (version, code, reason), some fields =>
        match bodyLength code fields with
        | none => none
        | some length =>
          if rest.length < length then none
          else some (⟨version, code, reason, fields, rest.take length⟩, rest.drop length)
      | _, _ => none

/-- The messages of a stream; `fuel` is at least its length. -/
def readMessages : Nat → List Char → Option (List Message)
  | _, [] => some []
  | 0, _ :: _ => none
  | fuel + 1, stream =>
    match readMessage stream with
    | none => none
    | some (message, rest) => (readMessages fuel rest).map (message :: ·)

/-- The length of the response at the front of a stream, for a reader that knows whether it answers
a `HEAD`; without a body it ends with its blank line. -/
def replyLength (isHead : Bool) (stream : List Char) : Option Nat :=
  match cut (Lines.ending ++ Lines.ending) stream with
  | none => none
  | some (head, _) =>
    match Lines.split head with
    | [] => none
    | status :: lines =>
      match readStatusLine status, readFields lines with
      | some (_, code, _), some fields =>
        (if isHead || bodyless code then some 0 else bodyLength code fields).map
          ((head ++ (Lines.ending ++ Lines.ending)).length + ·)
      | _, _ => none

/-- The responses to requests, as a reader cuts them out of the stream, and the rest. -/
def readReplies : List Bool → List Char → Option (List (List Char) × List Char)
  | [], stream => some ([], stream)
  | isHead :: rest, stream =>
    match replyLength isHead stream with
    | none => none
    | some length =>
      if stream.length < length then none
      else (readReplies rest (stream.drop length)).map
        (fun found => (stream.take length :: found.1, found.2))

/-! ## Fields -/

def fieldLine (field : Field) : List Char := field.1 ++ ':' :: ' ' :: field.2

/-- A field as a reader gives it. -/
def Field.trimmed (field : Field) : Field := (field.1, trim field.2)

/-- A field that a strict reader accepts. -/
def Field.Valid (field : Field) : Prop := isToken field.1 = true ∧ field.2.all isFieldChar = true

theorem isFieldChar_of_isDigit {c : Char} (digit : c.isDigit = true) : isFieldChar c = true := by
  simp only [Char.isDigit, Bool.and_eq_true, decide_eq_true_eq, UInt32.le_iff_toNat_le,
    ge_iff_le] at digit
  have low : 48 ≤ c.toNat := digit.1
  have high : c.toNat ≤ 57 := digit.2
  simp only [isFieldChar, Bool.or_eq_true, Bool.and_eq_true, decide_eq_true_eq]
  omega

theorem trim_cons_blank (value : List Char) : trim (' ' :: value) = trim value := rfl

theorem not_colon_of_isToken {name : List Char} (token : isToken name = true) : ':' ∉ name := by
  intro member
  rw [isToken, Bool.and_eq_true, all_eq_true] at token
  exact absurd (token.2 ':' member) (by decide)

theorem readField_valid {line : List Char} {field : Field} (read : readField line = some field) :
    isToken field.1 = true := by
  unfold readField at read
  split at read
  · cases read
  · split at read
    · rename_i valid
      cases read
      exact valid.1
    · cases read

theorem readField_fieldLine (field : Field) :
    readField (fieldLine field) = some field.trimmed ↔ field.Valid := by
  constructor
  · intro read
    have token : isToken field.trimmed.1 = true := readField_valid read
    change isToken field.1 = true at token
    have found : cut [':'] (fieldLine field) = some (field.1, ' ' :: field.2) := by
      rw [fieldLine, cut_append (not_colon_of_isToken token),
        show ':' :: ' ' :: field.2 = [':'] ++ ' ' :: field.2 from rfl, cut_needle]
      simp
    simp only [readField, found, Option.ite_none_right_eq_some] at read
    refine ⟨token, ?_⟩
    have value := read.1.2
    rw [all_cons, Bool.and_eq_true] at value
    exact value.2
  · intro valid
    have found : cut [':'] (fieldLine field) = some (field.1, ' ' :: field.2) := by
      rw [fieldLine, cut_append (not_colon_of_isToken valid.1),
        show ':' :: ' ' :: field.2 = [':'] ++ ' ' :: field.2 from rfl, cut_needle]
      simp
    have value : (' ' :: field.2).all isFieldChar = true := by
      rw [all_cons, valid.2]
      rfl
    simp only [readField, found, valid.1, value, and_self, if_true, trim_cons_blank]
    rfl

theorem trim_of_no_blank {value : List Char} (plain : ∀ c ∈ value, isBlank c = false) :
    trim value = value := by
  have keeps : ∀ text : List Char, (∀ c ∈ text, isBlank c = false) →
      text.dropWhile isBlank = text := by
    intro text plain
    cases text with
    | nil => rfl
    | cons c text => rw [dropWhile_cons_of_neg (by simp [plain c mem_cons_self])]
  rw [trim, keeps value plain, keeps value.reverse (by simpa using plain), reverse_reverse]

theorem readFields_fieldLine (fields : List Field) :
    readFields (fields.map fieldLine) = some (fields.map Field.trimmed) ↔
      ∀ field ∈ fields, field.Valid := by
  induction fields with
  | nil => simp [readFields]
  | cons field rest ih =>
    rw [forall_mem_cons, ← ih, ← readField_fieldLine, map_cons, map_cons, readFields]
    cases readField (fieldLine field) <;> cases readFields (rest.map fieldLine) <;> simp

/-! ## Messages -/

theorem readMessage_head {status : List Char} {lines : List (List Char)}
    (whole : ∀ line ∈ status :: lines, Whole line) {version reason : List Char} {code : Nat}
    (start : readStatusLine status = some (version, code, reason)) (fields : List Field)
    (body rest later : List Char) :
    readMessage (join (status :: lines) ++ (ending ++ ending ++ (body ++ rest))) =
        some (⟨version, code, reason, fields, body⟩, later) ↔
      readFields lines = some fields ∧ bodyLength code fields = some body.length ∧
        later = rest := by
  rw [readMessage, cut_blank whole]
  simp only [split_join whole, start]
  cases readFields lines with
  | none => simp
  | some read =>
    simp only [Option.some.injEq]
    cases given : bodyLength code read with
    | none =>
      simp only [reduceCtorEq, false_iff]
      rintro ⟨rfl, known, _⟩
      rw [given] at known
      cases known
    | some length =>
      dsimp only
      constructor
      · intro whole
        split at whole
        · cases whole
        · rename_i enough
          rw [length_append, Nat.not_lt] at enough
          simp only [Option.some.injEq, Prod.mk.injEq, Message.mk.injEq, true_and] at whole
          obtain ⟨⟨rfl, taken⟩, rfl⟩ := whole
          have exact : length = body.length := by
            have count := congrArg List.length taken
            rw [length_take, length_append] at count
            omega
          subst exact
          exact ⟨rfl, given, drop_left ..⟩
      · rintro ⟨rfl, known, rfl⟩
        rw [given, Option.some.injEq] at known
        subst known
        rw [if_neg (by simp), take_left, drop_left]

theorem readMessages_succ {stream : List Char} (fuel : Nat) (nonempty : stream ≠ []) :
    readMessages (fuel + 1) stream =
      match readMessage stream with
      | none => none
      | some (message, rest) => (readMessages fuel rest).map (message :: ·) := by
  cases stream with
  | nil => exact absurd rfl nonempty
  | cons c stream => rfl

/-- Messages in a row are read exactly when each of them is read at the front of every stream. -/
theorem readMessages_flatten {Item : Type} {write : Item → List Char} {wire : Item → Message}
    {good : Item → Prop} {items : List Item} {fuel : Nat}
    (exact : ∀ item ∈ items, ∀ rest later, readMessage (write item ++ rest) =
      some (wire item, later) ↔ good item ∧ later = rest)
    (nonempty : ∀ item ∈ items, write item ≠ [])
    (enough : (items.map write).flatten.length ≤ fuel) :
    readMessages fuel (items.map write).flatten = some (items.map wire) ↔
      ∀ item ∈ items, good item := by
  induction items generalizing fuel with
  | nil => simp [readMessages]
  | cons item items ih =>
    have first := exact item mem_cons_self
    have written := nonempty item mem_cons_self
    have positive := length_pos_of_ne_nil written
    rw [map_cons, flatten_cons, length_append] at enough
    rw [map_cons, flatten_cons, map_cons, forall_mem_cons]
    obtain ⟨fuel, rfl⟩ : ∃ less, fuel = less + 1 := ⟨fuel - 1, by omega⟩
    have later := @ih fuel (fun item member => exact item (mem_cons_of_mem _ member))
      (fun item member => nonempty item (mem_cons_of_mem _ member)) (by omega)
    rw [readMessages_succ fuel (by simp [written])]
    cases read : readMessage (write item ++ (items.map write).flatten) with
    | none =>
      simp only [reduceCtorEq, false_iff, not_and]
      intro holds
      have found := (first (items.map write).flatten _).mpr ⟨holds, rfl⟩
      rw [read] at found
      cases found
    | some result =>
      obtain ⟨message, rest⟩ := result
      simp only [Option.map_eq_some_iff, cons.injEq]
      constructor
      · rintro ⟨messages, others, rfl, rfl⟩
        obtain ⟨holds, rfl⟩ := (first _ _).mp read
        exact ⟨holds, later.mp others⟩
      · rintro ⟨holds, others⟩
        have found := (first (items.map write).flatten _).mpr ⟨holds, rfl⟩
        rw [read, Option.some.injEq, Prod.mk.injEq] at found
        obtain ⟨rfl, rfl⟩ := found
        exact ⟨_, later.mpr others, rfl, rfl⟩

theorem replyLength_head {status : List Char} {lines : List (List Char)}
    (whole : ∀ line ∈ status :: lines, Whole line) {version reason : List Char} {code : Nat}
    (start : readStatusLine status = some (version, code, reason)) {fields : List Field}
    (read : readFields lines = some fields) (isHead : Bool) (rest : List Char) :
    replyLength isHead (join (status :: lines) ++ (ending ++ ending ++ rest)) =
      (if isHead || bodyless code then some 0 else bodyLength code fields).map
        ((join (status :: lines) ++ (ending ++ ending)).length + ·) := by
  rw [replyLength, cut_blank whole]
  simp only [split_join whole, start, read]

/-- Responses in a row are cut apart exactly when the reader finds the length of each. -/
theorem readReplies_iff {Item : Type} {write : Item → List Char} {isHead : Item → Bool}
    {length : Item → Nat} {items : List Item}
    (found : ∀ item ∈ items, ∀ rest, replyLength (isHead item) (write item ++ rest) =
      some (length item))
    (bound : ∀ item ∈ items, length item ≤ (write item).length) (rest : List Char) :
    (∃ left, readReplies (items.map isHead) ((items.map write).flatten ++ rest) =
      some (items.map write, left)) ↔ ∀ item ∈ items, length item = (write item).length := by
  induction items with
  | nil => simp [readReplies]
  | cons item items ih =>
    rw [forall_mem_cons] at found bound
    have enough : ¬(write item ++ ((items.map write).flatten ++ rest)).length < length item := by
      rw [length_append]
      omega
    rw [map_cons, map_cons, flatten_cons, append_assoc, readReplies, found.1,
      forall_mem_cons]
    dsimp only
    rw [if_neg enough, take_append_of_le_length bound.1]
    constructor
    · rintro ⟨left, cutApart⟩
      obtain ⟨others, read, same⟩ := Option.map_eq_some_iff.mp cutApart
      rw [Prod.mk.injEq, cons.injEq] at same
      have taken := congrArg List.length same.1.1
      rw [length_take] at taken
      have exact : length item = (write item).length := by omega
      rw [exact, drop_left] at read
      refine ⟨exact, (ih found.2 bound.2).mp ⟨others.2, ?_⟩⟩
      rw [read, ← same.1.2]
    · rintro ⟨exact, others⟩
      obtain ⟨left, read⟩ := (ih found.2 bound.2).mpr others
      refine ⟨left, ?_⟩
      rw [exact, drop_left, read, take_length]
      rfl

end Menagerie.Http
