import Menagerie.Albatross.Body

/-!
# Multipart bodies read back

The standard encoding of fields as `multipart/form-data`, and which fields `read_multipart` reads
back from it. The search for a parameter does not know of quotes, so it can find `filename=` inside
a name.
-/

namespace Menagerie.Albatross

open Beaver Search Lines List

/-- A field, and whether its part has a `Content-Type` line. -/
structure Part where
  field : MultipartField
  typed : Bool

/-- The start of a `Content-Disposition` line, up to the name. -/
def dispositionStart : Text := "Content-Disposition: form-data; name=\"".toList

/-- What stands between the name and the filename. -/
def filenameStart : Text := "\"; filename=\"".toList

def typeStart : Text := "Content-Type: ".toList

/-- The first line of a part. -/
def dispositionLine (field : MultipartField) : Text :=
  dispositionStart ++ field.name ++
    (if field.filename = [] then [] else filenameStart ++ field.filename) ++ ['"']

/-- The second line of a file. -/
def typeLine (field : MultipartField) : Text := typeStart ++ field.contentType

def headLines (part : Part) : List Text :=
  dispositionLine part.field :: if part.typed then [typeLine part.field] else []

/-- A part as a client sends it. -/
def encodePart (boundary : Text) (part : Part) : Text :=
  dashes ++ boundary ++ crlf ++ Lines.join (headLines part) ++ crlf ++ crlf ++ part.field.value ++
    crlf

/-- The standard form of a list of parts. -/
def encodeMultipart (boundary : Text) (parts : List Part) : Text :=
  (parts.map (encodePart boundary)).flatten ++ (dashes ++ boundary ++ dashes)

/-- The texts of a part keep clear of what delimits them. -/
structure Part.Admissible (boundary : Text) (part : Part) : Prop where
  name : '"' ∉ part.field.name ∧ '\r' ∉ part.field.name ∧ '\n' ∉ part.field.name
  filename : '"' ∉ part.field.filename ∧ '\r' ∉ part.field.filename ∧ '\n' ∉ part.field.filename
  contentType : '\r' ∉ part.field.contentType ∧ '\n' ∉ part.field.contentType
  blank : ∀ c, part.field.contentType.head? = some c → c ≠ ' ' ∧ c ≠ '\t'
  typed : part.typed = false → part.field.contentType = []
  value : ¬crlf ++ dashes ++ boundary <:+: part.field.value

/-- `filename=` stands at the front of the name or behind a non-letter. -/
def FilenameInside (name before after : Text) : Prop :=
  name = before ++ ("filename".toList ++ ['=']) ++ after ∧ before.getLast?.any Char.isAlpha = false

/-- There is no filename, or the name does not look as if it had one, or what is found there is the
filename. -/
def MultipartField.Clear (field : MultipartField) : Prop :=
  field.filename = [] ∨ (∀ before after, ¬FilenameInside field.name before after) ∨
    (field.filename = "; filename=".toList ∧
      ∀ before after, FilenameInside field.name before after → after = [])

/-! ## Delimiters -/

/-- What follows the first delimiter of an encoding. -/
def encodeTail (boundary : Text) : List Part → Text
  | [] => dashes
  | part :: rest => crlf ++ (Lines.join (headLines part) ++ (crlf ++ crlf ++
      (part.field.value ++ (crlf ++ (dashes ++ boundary) ++ encodeTail boundary rest))))

theorem encodeMultipart_eq (boundary : Text) (parts : List Part) :
    encodeMultipart boundary parts = dashes ++ boundary ++ encodeTail boundary parts := by
  induction parts with
  | nil => rfl
  | cons part rest ih =>
    unfold encodeMultipart at ih ⊢
    rw [map_cons, flatten_cons, append_assoc, ih, encodePart, encodeTail]
    simp only [append_assoc]

section Part

variable {boundary : Text} {part : Part}

section

variable (admissible : part.Admissible boundary)

include admissible

theorem dispositionLine_no_cr :
    '\r' ∉ dispositionLine part.field := by
  have start : '\r' ∉ dispositionStart := by decide
  have file : '\r' ∉ filenameStart := by decide
  unfold dispositionLine
  split <;> simp [start, file, admissible.name.2.1, admissible.filename.2.1]

theorem typeLine_no_cr : '\r' ∉ typeLine part.field := by
  have start : '\r' ∉ typeStart := by decide
  rw [typeLine, mem_append, not_or]
  exact ⟨start, admissible.contentType.1⟩

theorem headLines_whole :
    ∀ line ∈ headLines part, Whole line := by
  have disposition : Plain (dispositionLine part.field) :=
    ⟨dispositionLine_no_cr admissible, by simp [dispositionLine]⟩
  have type : Plain (typeLine part.field) :=
    ⟨typeLine_no_cr admissible, append_ne_nil_of_left_ne_nil (by decide) _⟩
  intro line member
  unfold headLines at member
  split at member <;> simp at member
  · rcases member with rfl | rfl
    · exact disposition.whole
    · exact type.whole
  · exact member ▸ disposition.whole

end

theorem ciStarts_of_ne {text start : Text} (index : Nat) (within : index < start.length)
    (differs : text[index]?.map Char.toLower ≠ start[index]?.map Char.toLower) :
    ciStarts text start = false := by
  rw [← Bool.not_eq_true, ciStarts, Bool.and_eq_true, beq_iff_eq]
  intro same
  have entry := congrArg (fun list => list[index]?) same.2
  simp only [getElem?_map, getElem?_take_of_lt within] at entry
  exact differs entry

theorem ciStarts_append {given start : Text} (rest : Text)
    (same : given.map Char.toLower = start.map Char.toLower) :
    ciStarts (given ++ rest) start = true := by
  have length := congrArg length same
  rw [length_map, length_map] at length
  simp [ciStarts, ← length, same]

end Part

/-! ## Parameters -/

theorem quoted_append {text : Text} (plain : '"' ∉ text) (rest : Text) :
    quoted ('"' :: (text ++ '"' :: rest)) = text := by
  have found : cut ['"'] (text ++ '"' :: rest) = some (text, rest) := by
    rw [cut_append plain, show '"' :: rest = ['"'] ++ rest from rfl, cut_needle]
    simp
  simp only [quoted, found]

theorem quoted_unquoted {c : Char} (plain : c ≠ '"') (rest : Text) : quoted (c :: rest) = [] := by
  unfold quoted
  split
  · rename_i same
    cases same
    exact absurd rfl plain
  · rfl

/-- What a `Content-Disposition` line has behind the name. -/
def afterName (field : MultipartField) : Text :=
  if field.filename = [] then [] else filenameStart.tail ++ field.filename ++ ['"']

theorem dispositionLine_eq (field : MultipartField) :
    dispositionLine field = dispositionStart ++ (field.name ++ '"' :: afterName field) := by
  have quote : filenameStart = '"' :: filenameStart.tail := rfl
  unfold dispositionLine afterName
  split
  · simp
  · rw [quote]
    simp

theorem param_name {boundary : Text} {part : Part} (admissible : part.Admissible boundary) :
    param (dispositionLine part.field) "name".toList = part.field.name := by
  have found : ∀ rest, findParam "name".toList none (dispositionStart ++ rest) =
      some ('"' :: rest) := fun _ => rfl
  rw [dispositionLine_eq, param, found]
  exact quoted_append admissible.name.1 _

theorem prefix_append_quote {needle text more : Text} (plain : '"' ∉ needle) :
    needle <+: text ++ '"' :: more ↔ needle <+: text := by
  constructor
  · intro front
    rcases Nat.le_total needle.length text.length with shorter | longer
    · exact prefix_of_prefix_length_le front (prefix_append ..) shorter
    · obtain ⟨tail, rfl⟩ := prefix_of_prefix_length_le (prefix_append ..) front longer
      rw [prefix_append_right_inj] at front
      cases tail with
      | nil => simp
      | cons c tail =>
        have quote := (cons_prefix_cons.mp front).1
        exact absurd (by simp [quote]) plain
  · intro inside
    exact inside.trans (prefix_append ..)

section

variable {key text : Text} {previous : Option Char}

/-- The search passes the end of a name in which it finds nothing. -/
theorem findParam_append_quote {more : Text} (plainKey : '"' ∉ key) :
    findParam key previous (text ++ '"' :: more) =
      match findParam key previous text with
      | some rest => some (rest ++ '"' :: more)
      | none => findParam key (some '"') more := by
  have plain : '"' ∉ key ++ ['='] := by simp [plainKey]
  induction text generalizing previous with
  | nil =>
    have apart : (key ++ ['=']).isPrefixOf ('"' :: more) = false := by
      rw [← Bool.not_eq_true, isPrefixOf_iff_prefix]
      intro front
      have empty := (@prefix_append_quote _ [] more plain).mp front
      simp at empty
    simp [findParam, apart]
  | cons c text ih =>
    have same : (key ++ ['=']).isPrefixOf (c :: (text ++ '"' :: more)) =
        (key ++ ['=']).isPrefixOf (c :: text) := by
      rw [Bool.eq_iff_iff, isPrefixOf_iff_prefix, isPrefixOf_iff_prefix]
      exact @prefix_append_quote _ (c :: text) more plain
    rw [cons_append, findParam, findParam, same]
    split
    · rename_i found
      rw [Bool.and_eq_true, isPrefixOf_iff_prefix] at found
      have length := found.2.length_le
      rw [length_append, length_singleton] at length
      rw [← cons_append, drop_append_of_le_length length]
    · exact ih

theorem findParam_some {rest : Text} (found : findParam key previous text = some rest) : ∃ before,
      text = before ++ (key ++ ['=']) ++ rest ∧
        (before.getLast?.or previous).any Char.isAlpha = false := by
  induction text generalizing previous with
  | nil => cases found
  | cons c text ih =>
    rw [findParam] at found
    split at found
    · rename_i here
      rw [Bool.and_eq_true, isPrefixOf_iff_prefix, Bool.not_eq_true'] at here
      obtain ⟨after, whole⟩ := here.2
      rw [Option.some.injEq, ← whole, show key.length + 1 = (key ++ ['=']).length by simp,
        drop_left] at found
      exact ⟨[], by rw [← whole, found, nil_append], here.1⟩
    · obtain ⟨before, rfl, apart⟩ := ih found
      refine ⟨c :: before, rfl, ?_⟩
      cases last : before.getLast? <;> simp_all [getLast?_cons]

theorem findParam_first {before after : Text} (whole : text = before ++ (key ++ ['=']) ++ after)
    (apart : (before.getLast?.or previous).any Char.isAlpha = false) :
    ∃ rest, findParam key previous text = some rest ∧ after.length ≤ rest.length := by
  induction before generalizing previous text with
  | nil =>
    have front : (key ++ ['=']) <+: text := ⟨after, whole.symm⟩
    cases text with
    | nil => simp at front
    | cons c text =>
      rw [findParam, if_pos]
      · refine ⟨_, rfl, ?_⟩
        rw [whole]
        simp
      · rw [Bool.and_eq_true, Bool.not_eq_true', isPrefixOf_iff_prefix]
        exact ⟨apart, front⟩
  | cons c before ih =>
    rw [whole, cons_append, cons_append, findParam]
    split
    · refine ⟨_, rfl, ?_⟩
      simp
      omega
    · refine ih rfl ?_
      cases last : before.getLast? <;> simp_all [getLast?_cons]

end

section Field

variable {boundary : Text} {part : Part}

section

variable (admissible : part.Admissible boundary)

include admissible

theorem param_filename :
    param (dispositionLine part.field) "filename".toList =
      match findParam "filename".toList (some '"') part.field.name with
      | none => part.field.filename
      | some [] => if part.field.filename = [] then [] else "; filename=".toList
      | some (_ :: _) => [] := by
  have start : ∀ rest, findParam "filename".toList none (dispositionStart ++ rest) =
      findParam "filename".toList (some '"') rest := fun _ => rfl
  have after : ∀ rest, findParam "filename".toList (some '"') (filenameStart.tail ++ rest) =
      some ('"' :: rest) := fun _ => rfl
  have plainKey : '"' ∉ "filename".toList := by decide
  have quote : filenameStart.tail = "; filename=".toList ++ ['"'] := rfl
  rw [dispositionLine_eq, param, start, findParam_append_quote plainKey]
  cases found : findParam "filename".toList (some '"') part.field.name with
  | none =>
    by_cases absent : part.field.filename = []
    · rw [afterName, if_pos absent, absent]
      rfl
    · rw [afterName, if_neg absent, append_assoc, after]
      exact quoted_append admissible.filename.1 []
  | some rest =>
    cases rest with
    | nil =>
      by_cases absent : part.field.filename = []
      · rw [afterName, if_pos absent, if_pos absent]
        rfl
      · rw [afterName, if_neg absent, if_neg absent, quote, append_assoc, append_assoc]
        exact quoted_append (by decide) _
    | cons c rest =>
      obtain ⟨before, whole, _⟩ := findParam_some found
      have plain : c ≠ '"' := by
        intro quote
        have member : '"' ∈ part.field.name := by
          rw [whole, quote]
          simp
        exact admissible.name.1 member
      exact quoted_unquoted plain _

/-- The filename is read back exactly when the name does not hide it. -/
theorem param_filename_iff :
    param (dispositionLine part.field) "filename".toList = part.field.filename ↔
      part.field.Clear := by
  have hits : ∀ {before after}, FilenameInside part.field.name before after →
      ∃ rest, findParam "filename".toList (some '"') part.field.name = some rest ∧
        after.length ≤ rest.length := by
    intro before after ⟨whole, apart⟩
    refine findParam_first whole ?_
    cases last : before.getLast? <;> simp_all
  rw [param_filename admissible]
  cases found : findParam "filename".toList (some '"') part.field.name with
  | none =>
    refine iff_of_true rfl (.inr (.inl ?_))
    intro before after inside
    obtain ⟨rest, some, _⟩ := hits inside
    rw [found] at some
    cases some
  | some rest =>
    obtain ⟨before, whole, apart⟩ := findParam_some found
    have inside : FilenameInside part.field.name before rest := by
      refine ⟨whole, ?_⟩
      cases last : before.getLast? <;> simp_all
    cases rest with
    | nil =>
      have ends : ∀ before after, FilenameInside part.field.name before after → after = [] := by
        intro before after inside
        obtain ⟨rest, found', shorter⟩ := hits inside
        rw [found] at found'
        cases found'
        exact eq_nil_of_length_eq_zero (Nat.le_zero.mp shorter)
      by_cases absent : part.field.filename = []
      · exact iff_of_true (by rw [if_pos absent, absent]) (.inl absent)
      · rw [if_neg absent]
        constructor
        · intro same
          exact .inr (.inr ⟨same.symm, ends⟩)
        · rintro (empty | none | ⟨same, _⟩)
          · exact absurd empty absent
          · exact (none _ _ inside).elim
          · exact same.symm
    | cons c rest =>
      constructor
      · intro same
        exact .inl same.symm
      · rintro (empty | none | ⟨_, ends⟩)
        · exact empty.symm
        · exact (none _ _ inside).elim
        · cases ends _ _ inside

theorem readHeaderLine_disposition :
    readHeaderLine {} (dispositionLine part.field) =
      { name := part.field.name
        filename := param (dispositionLine part.field) "filename".toList } := by
  have starts : ciStarts (dispositionLine part.field) "content-disposition:".toList = true := by
    have split : dispositionStart =
        "Content-Disposition:".toList ++ " form-data; name=\"".toList := rfl
    rw [dispositionLine_eq, split, append_assoc]
    exact ciStarts_append _ (by decide)
  rw [readHeaderLine, if_pos starts, param_name admissible]

theorem readHeaderLine_type (field : MultipartField) :
    readHeaderLine field (typeLine part.field) =
      { field with contentType := part.field.contentType } := by
  have other : ciStarts (typeLine part.field) "content-disposition:".toList = false := by
    refine ciStarts_of_ne 8 ?_ ?_
    · decide
    · rw [show (typeLine part.field)[8]? = some 'T' from rfl]
      decide
  have starts : ciStarts (typeLine part.field) "content-type:".toList = true := by
    have split : typeStart = "Content-Type:".toList ++ [' '] := rfl
    rw [typeLine, split, append_assoc]
    exact ciStarts_append _ (by decide)
  have value : ((typeLine part.field).dropWhile (· ≠ ':')).tail =
      ' ' :: part.field.contentType := rfl
  have front : part.field.contentType.dropWhile (fun c => c = ' ' || c = '\t') =
      part.field.contentType := by
    cases first : part.field.contentType with
    | nil => rfl
    | cons c rest =>
      have blank := admissible.blank c (by rw [first]; rfl)
      rw [dropWhile_cons_of_neg]
      simp [blank]
  rw [readHeaderLine, other, if_neg Bool.false_ne_true, if_pos starts, value]
  simp [front]

theorem readPart_headLines :
    readPart (join (headLines part)) part.field.value = { part.field with
      filename := param (dispositionLine part.field) "filename".toList } := by
  rw [readPart, split_join (headLines_whole admissible), headLines, foldl_cons,
    readHeaderLine_disposition admissible]
  cases typed : part.typed with
  | false =>
    have empty := admissible.typed typed
    simp only [Bool.false_eq_true, if_false, foldl_nil, empty]
  | true =>
    rw [if_pos rfl, foldl_cons, foldl_nil, readHeaderLine_type admissible]

end

end Field

/-! ## The whole body -/

/-- The field of a part. -/
def readBack (part : Part) : MultipartField :=
  { part.field with filename := param (dispositionLine part.field) "filename".toList }

/-- The end of a part is found: its delimiter cannot overlap itself. -/
theorem cut_value {boundary : Text} {part : Part} (plain : '\r' ∉ boundary)
    (admissible : part.Admissible boundary) (rest : Text) :
    cut (crlf ++ (dashes ++ boundary))
      (part.field.value ++ (crlf ++ (dashes ++ boundary) ++ rest)) =
        some (part.field.value, rest) := by
  have single : '\r' ∉ '\n' :: (dashes ++ boundary) := by
    simp [dashes, plain]
  refine cut_of_not_infix single ?_
  have apart := admissible.value
  rw [append_assoc] at apart
  exact apart

theorem readParts_encodeTail {boundary : Text} {parts : List Part} {fuel : Nat}
    (plain : '\r' ∉ boundary) (admissible : ∀ part ∈ parts, part.Admissible boundary)
    (enough : (encodeTail boundary parts).length ≤ fuel) :
    readParts (dashes ++ boundary) fuel (encodeTail boundary parts) =
      .ok (parts.map readBack) := by
  induction parts generalizing fuel with
  | nil =>
    cases fuel with
    | zero => simp [encodeTail, dashes] at enough
    | succ fuel => rfl
  | cons part rest ih =>
    have first := admissible part mem_cons_self
    have later := fun other member => admissible other (mem_cons_of_mem part member)
    cases fuel with
    | zero => simp [encodeTail, crlf] at enough
    | succ fuel =>
      have shorter : (encodeTail boundary rest).length ≤ fuel := by
        simp only [encodeTail, length_append, crlf, length_cons,
          length_nil] at enough
        omega
      have skipped : ∀ text, skipCrlf (crlf ++ text) = text := fun _ => rfl
      have inside : ∀ text, ¬dashes.isPrefixOf (crlf ++ text) = true :=
        fun _ => by simp [dashes, crlf]
      rw [readParts, if_neg (by simp [encodeTail, crlf]), encodeTail, if_neg (inside _), skipped]
      rw [show crlf ++ crlf = ending ++ ending from rfl,
        cut_blank (headLines_whole first)]
      dsimp only
      rw [cut_value plain first]
      dsimp only
      rw [ih later shorter, readPart_headLines first]
      rfl

theorem readMultipart_encode {boundary : Text} {parts : List Part} {body : Body} {limit : Nat}
    (nonempty : boundary ≠ []) (plain : '\r' ∉ boundary)
    (admissible : ∀ part ∈ parts, part.Admissible boundary)
    (encoded : body.flatten = encodeMultipart boundary parts)
    (sufficient : body.flatten.length ≤ limit) :
    readMultipart limit boundary body = .ok (parts.map readBack) := by
  have drained : drain limit body = .ok body.flatten := by
    rw [drain, drainFrom_eq_ok (by simpa using sufficient), nil_append]
  rw [readMultipart, if_neg nonempty, drained]
  dsimp only
  rw [encoded, encodeMultipart_eq, cut_needle]
  exact readParts_encodeTail plain admissible (Nat.le_refl _)

/-- `read_multipart` reads back the encoded fields, in any chunks, exactly when no name hides its
filename. -/
theorem multipart_round_trip_iff {boundary : Text} {parts : List Part} {body : Body} {limit : Nat}
    (nonempty : boundary ≠ []) (plain : '\r' ∉ boundary ∧ '\n' ∉ boundary)
    (admissible : ∀ part ∈ parts, part.Admissible boundary)
    (encoded : body.flatten = encodeMultipart boundary parts)
    (sufficient : body.flatten.length ≤ limit) :
    readMultipart limit boundary body = .ok (parts.map Part.field) ↔
      ∀ part ∈ parts, part.field.Clear := by
  rw [readMultipart_encode nonempty plain.1 admissible encoded sufficient, Except.ok.injEq,
    map_inj_left]
  refine forall₂_congr (fun part member => ?_)
  rw [← param_filename_iff (admissible part member), readBack, MultipartField.ext_iff]
  simp

def fileAndText : List Part :=
  [⟨{ name := "a".toList, value := "x\r\n--y".toList, contentType := "text/plain".toList,
      filename := "f.txt".toList }, true⟩,
    ⟨{ name := "n".toList, value := "v".toList }, false⟩]

theorem fileAndText_admissible : ∀ part ∈ fileAndText, part.Admissible "z".toList := by
  simp only [fileAndText, mem_cons, not_mem_nil, or_false, forall_eq_or_imp, forall_eq]
  constructor
  · refine ⟨by decide, by decide, by decide, ?_, by decide, by decide⟩
    intro c first
    cases first
    decide
  · exact ⟨by decide, by decide, by decide, by simp, by decide, by decide⟩

/-- The two fields are read back. -/
theorem multipart_round_trip_file :
    readMultipart 1000 "z".toList (Body.owned (encodeMultipart "z".toList fileAndText)) =
      .ok (fileAndText.map Part.field) := by
  refine (multipart_round_trip_iff (by decide) (by decide) fileAndText_admissible
    (Body.flatten_owned _) (by decide +kernel)).mpr ?_
  simp only [fileAndText, mem_cons, not_mem_nil, or_false, forall_eq_or_imp, forall_eq]
  constructor
  · refine .inr (.inl ?_)
    rintro before after ⟨whole, _⟩
    have length := congrArg length whole
    simp at length
    omega
  · exact .inl rfl

/-- A field whose name hides its filename. -/
def hiddenFilename : Part :=
  ⟨{ name := "filename=".toList, value := "v".toList, filename := "a".toList }, false⟩

/-- What stands between the name and the filename is read as the filename. -/
theorem filename_found_in_name : hiddenFilename.Admissible "z".toList ∧
    readMultipart 1000 "z".toList (Body.owned (encodeMultipart "z".toList [hiddenFilename])) =
      .ok [{ hiddenFilename.field with filename := "; filename=".toList }] ∧
    readMultipart 1000 "z".toList (Body.owned (encodeMultipart "z".toList [hiddenFilename])) ≠
      .ok [hiddenFilename.field] := by
  refine ⟨⟨by decide, by decide, by decide, ?_, by decide, by decide⟩, by decide +kernel,
    by decide +kernel⟩
  intro c first
  cases first

end Menagerie.Albatross
