import Mathlib.Data.List.Basic
import Mathlib.Data.List.TakeWhile

/-!
# Connection info strings

The grammar of keyword/value connection strings, as the client library of PostgreSQL reads them:
`keyword = value` pairs with white space between them, a value being bare or in single quotes. A
bare value ends at any white space, and a backslash takes the next character as it is in both.
-/

namespace Menagerie.Conninfo

open List

/-- A keyword with its value. -/
abbrev Pair := List Char × List Char

/-- White space of the C locale. -/
def isSpace (c : Char) : Bool :=
  c = ' ' || c = '\t' || c = '\n' || c = '\x0b' || c = '\x0c' || c = '\r'

/-- Why a string is refused. -/
inductive Refusal
  /-- `missing "=" after …` -/
  | missingEquals (keyword : List Char)
  /-- `unterminated quoted string` -/
  | unterminated
  deriving DecidableEq, Repr

/-- Where the reader is. -/
inductive Phase
  | gap
  | keyword (read : List Char)
  | equals (keyword : List Char)
  | value (keyword : List Char)
  | bare (keyword read : List Char)
  | bareEscape (keyword read : List Char)
  | quoted (keyword read : List Char)
  | quotedEscape (keyword read : List Char)
  deriving DecidableEq, Repr

/-- The parser. -/
@[simp] def scan : Phase → List Char → Except Refusal (List Pair)
  | .gap, [] => .ok []
  | .gap, c :: rest =>
    if isSpace c then scan .gap rest
    else if c = '=' then scan (.value []) rest
    else scan (.keyword [c]) rest
  | .keyword name, [] => .error (.missingEquals name)
  | .keyword name, c :: rest =>
    if c = '=' then scan (.value name) rest
    else if isSpace c then scan (.equals name) rest
    else scan (.keyword (name ++ [c])) rest
  | .equals name, [] => .error (.missingEquals name)
  | .equals name, c :: rest =>
    if isSpace c then scan (.equals name) rest
    else if c = '=' then scan (.value name) rest
    else .error (.missingEquals name)
  | .value name, [] => .ok [(name, [])]
  | .value name, c :: rest =>
    if isSpace c then scan (.value name) rest
    else if c = '\'' then scan (.quoted name []) rest
    else if c = '\\' then scan (.bareEscape name []) rest
    else scan (.bare name [c]) rest
  | .bare name read, [] => .ok [(name, read)]
  | .bare name read, c :: rest =>
    if isSpace c then ((name, read) :: ·) <$> scan .gap rest
    else if c = '\\' then scan (.bareEscape name read) rest
    else scan (.bare name (read ++ [c])) rest
  | .bareEscape name read, [] => .ok [(name, read)]
  | .bareEscape name read, c :: rest => scan (.bare name (read ++ [c])) rest
  | .quoted _ _, [] => .error .unterminated
  | .quoted name read, c :: rest =>
    if c = '\\' then scan (.quotedEscape name read) rest
    else if c = '\'' then ((name, read) :: ·) <$> scan .gap rest
    else scan (.quoted name (read ++ [c])) rest
  | .quotedEscape _ _, [] => .error .unterminated
  | .quotedEscape name read, c :: rest => scan (.quoted name (read ++ [c])) rest

/-- The pairs of a C string. -/
def parse (text : List Char) : Except Refusal (List Pair) :=
  scan .gap (text.takeWhile (· ≠ Char.ofNat 0))

/-- A keyword that is read up to its equals sign. -/
structure Keyword (name : List Char) : Prop where
  nonempty : name ≠ []
  solid : ∀ c ∈ name, isSpace c = false
  noEquals : '=' ∉ name
  noQuote : '\'' ∉ name
  plain : '\\' ∉ name

/-- Nothing, or a blank and the start of a keyword. -/
def Continues (rest : List Char) : Prop :=
  rest = [] ∨ ∃ c more, rest = ' ' :: c :: more ∧ isSpace c = false ∧ c ≠ '\'' ∧ c ≠ '\\'

/-- What is read of the pairs after a value. -/
def after : List Char → Except Refusal (List Pair)
  | [] => .ok []
  | _ :: rest => scan .gap rest

variable {name read text rest : List Char}

theorem scan_keyword (solid : ∀ c ∈ text, isSpace c = false) (noEquals : '=' ∉ text) :
    scan (.keyword name) (text ++ '=' :: rest) = scan (.value (name ++ text)) rest := by
  induction text generalizing name with
  | nil => simp [scan]
  | cons c text ih =>
    have differs : c ≠ '=' := fun same => noEquals (same ▸ mem_cons_self)
    rw [cons_append, scan, if_neg differs, solid c mem_cons_self,
      if_neg Bool.false_ne_true, ih (fun d member => solid d (mem_cons_of_mem _ member))
        (fun member => noEquals (mem_cons_of_mem _ member)), append_assoc]
    rfl

theorem scan_gap (keyword : Keyword name) :
    scan .gap (name ++ '=' :: rest) = scan (.value name) rest := by
  obtain ⟨nonempty, solid, noEquals, -, -⟩ := keyword
  cases name with
  | nil => exact absurd rfl nonempty
  | cons c name =>
    have differs : c ≠ '=' := fun same => noEquals (same ▸ mem_cons_self)
    rw [cons_append, scan, solid c mem_cons_self, if_neg Bool.false_ne_true,
      if_neg differs, scan_keyword (fun d member => solid d (mem_cons_of_mem _ member))
        (fun member => noEquals (mem_cons_of_mem _ member))]
    rfl

/-- A bare value goes on up to white space or a backslash. -/
theorem scan_bare (solid : ∀ c ∈ text, isSpace c = false) (plain : '\\' ∉ text) :
    scan (.bare name read) (text ++ rest) = scan (.bare name (read ++ text)) rest := by
  induction text generalizing read with
  | nil => simp
  | cons c text ih =>
    have differs : c ≠ '\\' := fun same => plain (same ▸ mem_cons_self)
    rw [cons_append, scan, solid c mem_cons_self, if_neg Bool.false_ne_true,
      if_neg differs, ih (fun d member => solid d (mem_cons_of_mem _ member))
        (fun member => plain (mem_cons_of_mem _ member)), append_assoc]
    rfl

theorem scan_value_cons {c : Char} (solid : isSpace c = false) (noQuote : c ≠ '\'')
    (plain : c ≠ '\\') : scan (.value name) (c :: rest) = scan (.bare name [c]) rest := by
  rw [scan, solid, if_neg Bool.false_ne_true, if_neg noQuote, if_neg plain]

theorem scan_value_spaces (spaces : ∀ c ∈ text, isSpace c = true) :
    scan (.value name) (text ++ rest) = scan (.value name) rest := by
  induction text with
  | nil => rfl
  | cons c text ih =>
    rw [cons_append, scan, if_pos (spaces c mem_cons_self),
      ih (fun d member => spaces d (mem_cons_of_mem _ member))]

theorem scan_bare_end (ends : ∀ c, rest.head? = some c → isSpace c = true) :
    scan (.bare name read) rest = ((name, read) :: ·) <$> after rest := by
  cases rest with
  | nil => rfl
  | cons c rest => rw [scan, if_pos (ends c rfl), after]

/-- Nothing but a blank comes before the next pair. -/
theorem scan_gap_continues (continues : Continues rest) : scan .gap rest = after rest := by
  rcases continues with rfl | ⟨c, more, rfl, -⟩
  · rfl
  · have blank : isSpace ' ' = true := rfl
    rw [scan, if_pos blank, after]

theorem scan_value_bare (nonempty : text ≠ []) (solid : ∀ c ∈ text, isSpace c = false)
    (noQuote : '\'' ∉ text) (plain : '\\' ∉ text) (continues : Continues rest) :
    scan (.value name) (text ++ rest) = ((name, text) :: ·) <$> after rest := by
  have ends : ∀ c, rest.head? = some c → isSpace c = true := by
    intro c head
    rcases continues with rfl | ⟨d, more, rfl, -⟩
    · cases head
    · cases head
      rfl
  cases text with
  | nil => exact absurd rfl nonempty
  | cons c text =>
    rw [mem_cons, not_or] at noQuote plain
    rw [forall_mem_cons] at solid
    rw [cons_append, scan_value_cons solid.1 (Ne.symm noQuote.1) (Ne.symm plain.1),
      scan_bare solid.2 plain.2, scan_bare_end ends]
    rfl

/-- What a character is written as in quotes. -/
def quoteChar (c : Char) : List Char := if c = '\\' ∨ c = '\'' then ['\\', c] else [c]

theorem scan_quoted :
    scan (.quoted name read) (text.flatMap quoteChar ++ '\'' :: rest) =
      ((name, read ++ text) :: ·) <$> scan .gap rest := by
  induction text generalizing read with
  | nil => simp [scan]
  | cons c text ih =>
    rw [flatMap_cons, append_assoc]
    by_cases special : c = '\\' ∨ c = '\''
    · rw [quoteChar, if_pos special, cons_append, scan, if_pos rfl, singleton_append,
        scan, ih, append_assoc]
      rfl
    · have plain := special
      rw [not_or] at plain
      rw [quoteChar, if_neg special, singleton_append, scan, if_neg plain.1, if_neg plain.2,
        ih, append_assoc]
      rfl

theorem bare_extends {pairs : List Pair} (scanned : scan (.bare name read) text = .ok pairs ∨
    scan (.bareEscape name read) text = .ok pairs) :
    ∃ value more, pairs = (name, value) :: more ∧ read <+: value := by
  induction text generalizing read with
  | nil =>
    rcases scanned with same | same <;> cases same <;> exact ⟨read, [], rfl, prefix_rfl⟩
  | cons c text ih =>
    have grows : ∀ {value : List Char}, read ++ [c] <+: value → read <+: value :=
      fun longer => (prefix_append read [c]).trans longer
    rcases scanned with scanned | scanned
    · rw [scan] at scanned
      split at scanned
      · cases later : scan .gap text with
        | error refusal =>
          rw [later] at scanned
          cases scanned
        | ok more =>
          rw [later] at scanned
          cases scanned
          exact ⟨read, more, rfl, prefix_rfl⟩
      · split at scanned
        · exact ih (.inr scanned)
        · obtain ⟨value, more, same, longer⟩ := ih (.inl scanned)
          exact ⟨value, more, same, grows longer⟩
    · obtain ⟨value, more, same, longer⟩ := ih (.inl scanned)
      exact ⟨value, more, same, grows longer⟩

/-- A bare value starts behind the white space. -/
theorem scan_value_head {c : Char} (solid : isSpace c = false) (noQuote : c ≠ '\'')
    (plain : c ≠ '\\') {value : List Char} {more : List Pair}
    (scanned : scan (.value name) (c :: text) = .ok ((name, value) :: more)) : [c] <+: value := by
  rw [scan_value_cons solid noQuote plain] at scanned
  obtain ⟨other, others, same, longer⟩ := bare_extends (.inl scanned)
  cases same
  exact longer

theorem split_spaces (text : List Char) : ∃ spaces later, text = spaces ++ later ∧
    (∀ c ∈ spaces, isSpace c = true) ∧ ∀ c, later.head? = some c → isSpace c = false := by
  induction text with
  | nil => exact ⟨[], [], rfl, by simp, by simp⟩
  | cons c text ih =>
    cases blank : isSpace c with
    | false => exact ⟨[], c :: text, rfl, by simp, by simp [blank]⟩
    | true =>
      obtain ⟨spaces, later, rfl, blanks, starts⟩ := ih
      exact ⟨c :: spaces, later, rfl, forall_mem_cons.mpr ⟨blank, blanks⟩, starts⟩

theorem split_at_space (space : ∃ c ∈ text, isSpace c = true) : ∃ start blank later,
    text = start ++ blank :: later ∧ (∀ c ∈ start, isSpace c = false) ∧ isSpace blank = true := by
  induction text with
  | nil =>
    obtain ⟨c, member, -⟩ := space
    cases member
  | cons c text ih =>
    cases blank : isSpace c with
    | true => exact ⟨[], c, text, rfl, by simp, blank⟩
    | false =>
      have later : ∃ d ∈ text, isSpace d = true := by
        obtain ⟨d, member, isBlank⟩ := space
        rcases mem_cons.mp member with rfl | member
        · rw [blank] at isBlank
          cases isBlank
        · exact ⟨d, member, isBlank⟩
      obtain ⟨start, first, rest, rfl, before, isBlank⟩ := ih later
      exact ⟨c :: start, first, rest, rfl, forall_mem_cons.mpr ⟨blank, before⟩, isBlank⟩

theorem misread_leading {first : Char} (blank : isSpace first = true) (noQuote : '\'' ∉ text)
    (plain : '\\' ∉ text) (continues : Continues rest) (more : List Pair) :
    scan (.value name) (first :: text ++ rest) ≠ .ok ((name, first :: text) :: more) := by
  intro scanned
  have differs : ∀ c, isSpace c = false → ¬ [c] <+: first :: text := by
    intro c solid starts
    obtain ⟨later, same⟩ := starts
    cases same
    rw [blank] at solid
    cases solid
  obtain ⟨spaces, later, rfl, blanks, starts⟩ := split_spaces text
  have skipped := @scan_value_spaces name (first :: spaces) (later ++ rest)
    (forall_mem_cons.mpr ⟨blank, blanks⟩)
  rw [← cons_append, append_assoc, skipped] at scanned
  -- What is read starts after the white space, in the value or behind it.
  cases later with
  | cons c later =>
    have inside : c ∈ spaces ++ c :: later := mem_append_right _ mem_cons_self
    have solid := starts c rfl
    exact differs c solid (scan_value_head solid (fun same => noQuote (same ▸ inside))
      (fun same => plain (same ▸ inside)) scanned)
  | nil =>
    rcases continues with rfl | ⟨c, next, rfl, solid, noQuote, plain⟩
    · cases scanned
    · have blank : isSpace ' ' = true := rfl
      rw [nil_append, scan, if_pos blank] at scanned
      exact differs c solid (scan_value_head solid noQuote plain scanned)

theorem misread_inner {first : Char} (solid : isSpace first = false)
    (space : ∃ c ∈ text, isSpace c = true) (noQuote : '\'' ∉ first :: text)
    (plain : '\\' ∉ first :: text) (more : List Pair) :
    scan (.value name) (first :: text ++ rest) ≠ .ok ((name, first :: text) :: more) := by
  intro scanned
  obtain ⟨start, blank, later, rfl, before, isBlank⟩ := split_at_space space
  rw [mem_cons, not_or] at noQuote plain
  have startPlain : '\\' ∉ start := fun member => plain.2 (mem_append_left _ member)
  have ends : ∀ c, (blank :: later ++ rest).head? = some c → isSpace c = true := by
    intro c same
    cases same
    exact isBlank
  rw [cons_append, scan_value_cons solid (Ne.symm noQuote.1) (Ne.symm plain.1),
    append_assoc, scan_bare before startPlain, scan_bare_end ends] at scanned
  cases found : after (blank :: later ++ rest) with
  | error refusal =>
    rw [found] at scanned
    cases scanned
  | ok pairs =>
    rw [found] at scanned
    have value := (Prod.mk.inj (cons.inj (Except.ok.inj scanned)).1).2
    have lengths := congrArg length value
    simp at lengths

theorem scan_value_misread (space : ∃ c ∈ text, isSpace c = true) (noQuote : '\'' ∉ text)
    (plain : '\\' ∉ text) (continues : Continues rest) (more : List Pair) :
    scan (.value name) (text ++ rest) ≠ .ok ((name, text) :: more) := by
  cases text with
  | nil =>
    obtain ⟨c, member, -⟩ := space
    cases member
  | cons first text =>
    cases blank : isSpace first with
    | true =>
      exact misread_leading blank (fun member => noQuote (mem_cons_of_mem _ member))
        (fun member => plain (mem_cons_of_mem _ member)) continues more
    | false =>
      obtain ⟨c, member, isBlank⟩ := space
      rcases mem_cons.mp member with rfl | member
      · rw [blank] at isBlank
        cases isBlank
      · exact misread_inner blank ⟨c, member, isBlank⟩ noQuote plain more

/-- A value that is read as it is written, whatever pairs follow. -/
def ReadBack (spell : List Char → List Char) (value : List Char) : Prop :=
  ∀ name rest, Continues rest →
    scan (.value name) (spell value ++ rest) = ((name, value) :: ·) <$> after rest

/-- A value that is read as another one, or not at all. -/
def Misread (spell : List Char → List Char) (value : List Char) : Prop :=
  ∀ name rest more, Continues rest →
    scan (.value name) (spell value ++ rest) ≠ .ok ((name, value) :: more)

/-- Pairs with a blank between them, each value in its spelling. -/
def write (spell : List Char → List Char) : List Pair → List Char
  | [] => []
  | [(name, value)] => name ++ '=' :: spell value
  | (name, value) :: next :: more =>
    name ++ '=' :: (spell value ++ ' ' :: write spell (next :: more))

section Write

variable {spell : List Char → List Char}

/-- The pairs after the first one. -/
def writeRest (spell : List Char → List Char) : List Pair → List Char
  | [] => []
  | next :: more => ' ' :: write spell (next :: more)

theorem write_cons (name value : List Char) (more : List Pair) :
    write spell ((name, value) :: more) = name ++ '=' :: (spell value ++ writeRest spell more) := by
  cases more with
  | nil => simp [write, writeRest]
  | cons next more => rfl

theorem writeRest_eq (pairs : List Pair) : writeRest spell pairs =
    pairs.flatMap fun pair => ' ' :: (pair.1 ++ '=' :: spell pair.2) := by
  induction pairs with
  | nil => rfl
  | cons pair more ih => rw [flatMap_cons, ← ih, writeRest, write_cons]; simp

theorem writeRest_append (pairs more : List Pair) :
    writeRest spell (pairs ++ more) = writeRest spell pairs ++ writeRest spell more := by
  simp only [writeRest_eq, flatMap_append]

theorem write_append {pairs : List Pair} (nonempty : pairs ≠ []) (more : List Pair) :
    write spell (pairs ++ more) = write spell pairs ++ writeRest spell more := by
  cases pairs with
  | nil => exact absurd rfl nonempty
  | cons pair pairs =>
    rw [cons_append, write_cons, write_cons, writeRest_append]
    simp

theorem flatMap_blank {pairs : List Pair} (nonempty : pairs ≠ []) :
    (pairs.flatMap fun pair => pair.1 ++ '=' :: (spell pair.2 ++ [' '])) =
      write spell pairs ++ [' '] := by
  induction pairs with
  | nil => exact absurd rfl nonempty
  | cons pair pairs ih =>
    rw [flatMap_cons, write_cons]
    cases pairs with
    | nil => simp [writeRest]
    | cons next more =>
      rw [ih (cons_ne_nil _ _), writeRest]
      simp

/-- Written are the characters of the pairs, blanks and equals signs. -/
theorem mem_write {pairs : List Pair} {c : Char} (member : c ∈ write spell pairs) :
    c = ' ' ∨ c = '=' ∨ ∃ pair ∈ pairs, c ∈ pair.1 ∨ c ∈ spell pair.2 := by
  have longer : c ∈ writeRest spell pairs := by
    cases pairs with
    | nil => cases member
    | cons pair more => exact mem_cons_of_mem _ member
  rw [writeRest_eq, mem_flatMap] at longer
  obtain ⟨pair, inside, found⟩ := longer
  simp only [mem_cons, mem_append] at found
  rcases found with blank | inName | equals | inValue
  · exact .inl blank
  · exact .inr (.inr ⟨pair, inside, .inl inName⟩)
  · exact .inr (.inl equals)
  · exact .inr (.inr ⟨pair, inside, .inr inValue⟩)

theorem after_writeRest (pairs : List Pair) :
    after (writeRest spell pairs) = scan .gap (write spell pairs) := by
  cases pairs <;> rfl

theorem continues_writeRest {pairs : List Pair} (keywords : ∀ pair ∈ pairs, Keyword pair.1) :
    Continues (writeRest spell pairs) := by
  cases pairs with
  | nil => exact .inl rfl
  | cons next more =>
    obtain ⟨name, value⟩ := next
    obtain ⟨nonempty, solid, -, noQuote, plain⟩ := keywords (name, value) mem_cons_self
    cases name with
    | nil => exact absurd rfl nonempty
    | cons c name =>
      refine .inr ⟨c, name ++ '=' :: (spell value ++ writeRest spell more), ?_,
        solid c mem_cons_self, ?_, ?_⟩
      · rw [writeRest, write_cons]
        rfl
      · exact fun same => noQuote (same ▸ mem_cons_self)
      · exact fun same => plain (same ▸ mem_cons_self)

/-- A text without a terminator is read as a whole. -/
theorem parse_eq_scan (noNul : Char.ofNat 0 ∉ text) : parse text = scan .gap text := by
  have whole : text.takeWhile (· ≠ Char.ofNat 0) = text := by
    rw [takeWhile_eq_self_iff]
    intro c member
    have differs : c ≠ Char.ofNat 0 := fun same => noNul (same ▸ member)
    simp [differs]
  rw [parse, whole]

theorem scan_write_iff {Good : List Char → Prop} (back : ∀ value, Good value → ReadBack spell value)
    (other : ∀ value, ¬ Good value → Misread spell value) {pairs : List Pair}
    (keywords : ∀ pair ∈ pairs, Keyword pair.1) :
    scan .gap (write spell pairs) = .ok pairs ↔ ∀ pair ∈ pairs, Good pair.2 := by
  induction pairs with
  | nil => simp [write, scan]
  | cons pair more ih =>
    obtain ⟨name, value⟩ := pair
    rw [forall_mem_cons] at keywords
    have continues := @continues_writeRest spell more keywords.2
    rw [write_cons, scan_gap keywords.1, forall_mem_cons]
    by_cases good : Good value
    · rw [back value good name _ continues, after_writeRest, ← ih keywords.2]
      cases scan .gap (write spell more) with
      | error refusal => simp
      | ok read => simp [good]
    · refine iff_of_false (other value good name _ more continues) ?_
      exact fun all => good all.1

end Write

end Menagerie.Conninfo
