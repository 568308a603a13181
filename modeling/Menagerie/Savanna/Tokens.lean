import Menagerie.Savanna.Parameters
import Menagerie.Savanna.Spelling

/-!
# The tokens of an emitted query

Each piece that the generator emits is read by the scanner of the server on its own, so the tokens
of a query are those of its pieces.
-/

namespace Menagerie.Savanna

open Beaver List
open Sql hiding Text
open PostgresDialect

def keywords (names : List String) : List Token :=
  names.map fun name => .word name.toList

/-- The tokens of an operator. -/
def BinaryOp.tokens : BinaryOp → List Token
  | .equal => [.operator "=".toList]
  | .notEqual => [.operator "!=".toList]
  | .less => [.operator "<".toList]
  | .lessEqual => [.operator "<=".toList]
  | .greater => [.operator ">".toList]
  | .greaterEqual => [.operator ">=".toList]
  | .and => keywords ["and"]
  | .or => keywords ["or"]
  | .like => keywords ["like"]
  | .notLike => keywords ["not", "like"]
  | .inQuery => keywords ["in"]

/-- The tokens of an operator. -/
def UnaryOp.tokens : UnaryOp → List Token
  | .not => keywords ["not"]
  | .isNull => keywords ["is", "null"]
  | .isNotNull => keywords ["is", "not", "null"]

/-- The tokens of a function. -/
def AggregateFunction.tokens : AggregateFunction → List Token
  | .count _ => keywords ["count"]
  | .sum => keywords ["sum"]
  | .avg => keywords ["avg"]
  | .max => keywords ["max"]
  | .min => keywords ["min"]

/-- The tokens of a join. -/
def JoinType.tokens : JoinType → List Token
  | .inner => keywords ["inner", "join"]
  | .left => keywords ["left", "join"]
  | .right => keywords ["right", "join"]
  | .full => keywords ["full", "outer", "join"]
  | .cross => keywords ["cross", "join"]

/-- The tokens of a set operation. -/
def SetOperation.tokens : SetOperation → List Token
  | .union => keywords ["union"]
  | .unionAll => keywords ["union", "all"]
  | .intersect => keywords ["intersect"]
  | .except => keywords ["except"]

/-- The tokens of a direction. -/
def OrderDirection.tokens : OrderDirection → List Token
  | .asc => keywords ["asc"]
  | .desc => keywords ["desc"]

/-- The tokens of a fixed text. -/
def Fragment.tokens : Fragment → List Token
  | .dot => [.self '.']
  | .star => [.operator "*".toList]
  | .aliasStart => keywords ["as"]
  | .parenOpen => [.self '(']
  | .parenClose => [.self ')']
  | .existsStart => keywords ["exists"] ++ [.self '(']
  | .binaryOp op => op.tokens
  | .unaryOp op => op.tokens
  | .between => keywords ["between"]
  | .and => keywords ["and"]
  | .inListStart => keywords ["in"] ++ [.self '(']
  | .null => keywords ["null"]
  | .columnSeparator => [.self ',']
  | .aggregateStart function => function.tokens ++ [.self '(']
  | .selectStart => keywords ["select"]
  | .distinct => keywords ["distinct"]
  | .fromStart => keywords ["from"]
  | .whereStart => keywords ["where"]
  | .groupByStart => keywords ["group", "by"]
  | .havingStart => keywords ["having"]
  | .orderByStart => keywords ["order", "by"]
  | .orderDirection dir => dir.tokens
  | .limit => keywords ["limit"]
  | .offset => keywords ["offset"]
  | .joinStart type => type.tokens
  | .joinOn => keywords ["on"]
  | .insertStart => keywords ["insert", "into"]
  | .insertColumnsStart => [.self '(']
  | .insertColumnsEnd => .self ')' :: keywords ["values"]
  | .updateStart => keywords ["update"]
  | .updateSet => keywords ["set"]
  | .assign => [.operator "=".toList]
  | .deleteStart => keywords ["delete", "from"]
  | .caseStart => keywords ["case"]
  | .caseEnd => keywords ["end"]
  | .whenStart => keywords ["when"]
  | .whenThen => keywords ["then"]
  | .elseStart => keywords ["else"]
  | .setOp op => op.tokens
  | .cteStart => keywords ["with"]
  | .recursive => keywords ["recursive"]
  | .cteAsStart => keywords ["as"] ++ [.self '(']
  | .cteEnd => []
  | .createTableStart => keywords ["create", "table"]
  | .ifNotExists => keywords ["if", "not", "exists"]
  | .createColumnsStart => [.self '(']
  | .columnType => []
  | .primaryKey => keywords ["primary", "key"]
  | .notNull => keywords ["not", "null"]
  | .unique => keywords ["unique"]
  | .defaultStart => keywords ["default"]
  | .references => keywords ["references"]
  | .dropTableStart => keywords ["drop", "table"]
  | .ifExists => keywords ["if", "exists"]
  | .cascade => keywords ["cascade"]

section Read

variable (scanner : Scanner)

/-- A fixed text with a closed end is read on its own. -/
theorem Fragment.completes (fragment : Fragment) (closed : fragment.closed = true) :
    scanner.Completes fragment.text (some fragment.tokens) := by
  cases fragment with
  | binaryOp op | setOp op => cases op <;> exact Scanner.completes_of_run rfl
  | unaryOp op =>
    cases op with
    | not => exact Scanner.completes_of_run rfl
    | isNull | isNotNull => exact absurd closed (by decide)
  | aggregateStart function =>
    cases function with
    | count distinct => cases distinct <;> exact Scanner.completes_of_run rfl
    | _ => exact Scanner.completes_of_run rfl
  | joinStart type => cases type <;> exact Scanner.completes_of_run rfl
  | orderDirection dir => cases dir <;> exact absurd closed (by decide)
  | _ => first
    | exact Scanner.completes_of_run rfl
    | exact absurd closed (by decide)

theorem reads_word (front : List Token) (acc : Text) {text : Text} {tokens : List Token}
    (ran : scanner.run .start text = some (front, .word acc))
    (same : join (some front) (scanner.flush (.word acc)) = some tokens) :
    scanner.Reads text (some tokens) := by
  have reads := Scanner.reads_of_run ran (settles_word scanner acc)
  rwa [same] at reads

/-- A fixed text that ends in a word or a star is read on its own. -/
theorem Fragment.reads (fragment : Fragment) (undotted : fragment ≠ .dot) :
    scanner.Reads fragment.text (some fragment.tokens) := by
  by_cases closed : fragment.closed = true
  · exact (fragment.completes scanner closed).reads
  · have star : scanner.Settles (.operator ['*']) := Scanner.settles_of_stop rfl rfl rfl
    have starRan : scanner.run .start Fragment.star.text = some ([], .operator ['*']) := rfl
    cases fragment with
    | unaryOp op =>
      cases op with
      | not => exact absurd rfl closed
      | isNull => exact reads_word scanner (keywords ["is"]) "NULL".toList rfl rfl
      | isNotNull => exact reads_word scanner (keywords ["is", "not"]) "NULL".toList rfl rfl
    | orderDirection dir =>
      cases dir with
      | asc => exact reads_word scanner [] "ASC".toList rfl rfl
      | desc => exact reads_word scanner [] "DESC".toList rfl rfl
    | null => exact reads_word scanner [] "NULL".toList rfl rfl
    | caseStart => exact reads_word scanner [] "CASE".toList rfl rfl
    | caseEnd => exact reads_word scanner [] "END".toList rfl rfl
    | primaryKey => exact reads_word scanner (keywords ["primary"]) "KEY".toList rfl rfl
    | notNull => exact reads_word scanner (keywords ["not"]) "NULL".toList rfl rfl
    | unique => exact reads_word scanner [] "UNIQUE".toList rfl rfl
    | cascade => exact reads_word scanner [] "CASCADE".toList rfl rfl
    | star => exact Scanner.reads_of_run starRan star
    | dot => contradiction
    | binaryOp op | setOp op => cases op <;> exact absurd rfl closed
    | aggregateStart function =>
      cases function with
      | count distinct => cases distinct <;> exact absurd rfl closed
      | _ => exact absurd rfl closed
    | joinStart type => cases type <;> exact absurd rfl closed
    | _ => exact absurd rfl closed

theorem Fragment.separates (fragment : Fragment) (breaks : fragment.breaks = true) (rest : Text) :
    Scanner.separates (fragment.text ++ rest) = true := by
  cases fragment with
  | binaryOp op => cases op <;> rfl
  | unaryOp op =>
    cases op with
    | not => exact absurd breaks (by decide)
    | isNull => rfl
    | isNotNull => rfl
  | orderDirection dir => cases dir <;> rfl
  | joinStart type => cases type <;> rfl
  | setOp op => cases op <;> rfl
  | aggregateStart function =>
    cases function with
    | count distinct => cases distinct <;> exact absurd breaks (by decide)
    | _ => exact absurd breaks (by decide)
  | _ => first
    | rfl
    | exact absurd breaks (by decide)

variable (settings : Settings)

/-- The tokens of a piece, read on its own. -/
def Piece.tokens (counters : Counters) (piece : Piece) : Option (List Token) :=
  match piece.spell settings counters with
  | .ok text => scanner.lex text
  | .error _ => none

/-- The tokens of pieces, each read on its own. -/
def tokensOf : Counters → List Piece → Option (List Token)
  | _, [] => some []
  | counters, piece :: rest =>
    join (piece.tokens scanner settings counters)
      (tokensOf (counters.after settings piece) rest)

/-- No NUL character, so that the scanner can read it. -/
def FieldValue.NulFree : FieldValue → Prop
  | .char val => val ≠ Char.ofNat 0
  | .string val | .stringView val => Savanna.NulFree val
  | _ => True

/-- A piece that the scanner can read on its own. -/
def Piece.Readable : Piece → Prop
  | .identifier name => NulFree name
  | .value val => val.NulFree
  | .raw text => ∃ tokens, scanner.Reads text tokens
  | _ => True

/-- A string, a character or bytes. -/
def FieldValue.isTextual : FieldValue → Bool
  | .char _ | .string _ | .stringView _ | .bytes _ | .span _ => true
  | _ => false

theorem reads_unquoted {evaluation : Evaluation} {val : FieldValue}
    (unquoted : val.isTextual = false) {text : Text}
    (formatted : formatValue evaluation val = .ok text) :
    ∃ tokens, scanner.Reads text (some tokens) := by
  have word : IsWord text → ∃ tokens, scanner.Reads text (some tokens) := fun isWord =>
    ⟨_, reads_isWord scanner isWord⟩
  cases val with
  | monostate =>
    cases formatted
    exact word (isWord_of_all (by decide) (by decide) (by decide))
  | bool val =>
    cases formatted
    cases val <;> exact word (isWord_of_all (by decide) (by decide) (by decide))
  | float val | double val =>
    exact reads_number scanner (isNumber_formatFloating evaluation formatted)
  | char val | string val | stringView val | bytes val | span val => cases unquoted
  | _ =>
    cases formatted
    exact reads_number scanner (isNumber_formatIntegral _)

theorem formatChar_eq (val : Char) :
    formatChar val = formatStringValue [val] := by
  simp [formatChar, formatStringValue, escapeString]

theorem reads_formatValue {evaluation : Evaluation} {val : FieldValue}
    (nulFree : val.NulFree) {text : Text}
    (formatted : formatValue evaluation val = .ok text) :
    ∃ tokens, scanner.Reads text tokens := by
  by_cases textual : val.isTextual = true
  · cases val with
    | char val =>
      cases formatted
      rw [formatChar_eq]
      have nulFreeText : Savanna.NulFree [val] := by
        simpa [Savanna.NulFree, FieldValue.NulFree, eq_comm] using nulFree
      exact ⟨_, reads_formatStringValue scanner nulFreeText⟩
    | string val | stringView val =>
      cases formatted
      exact ⟨_, reads_formatStringValue scanner nulFree⟩
    | bytes val | span val =>
      cases formatted
      exact ⟨_, reads_formatBinaryData scanner val⟩
    | _ => cases textual
  · obtain ⟨tokens, reads⟩ := reads_unquoted scanner (Bool.eq_false_iff.mpr textual) formatted
    exact ⟨_, reads⟩

variable {settings} {counters : Counters} {pieces : List Piece} {text : Text} {last : Boundary}

theorem separates_of_spacing (spaced : spacing .word pieces = some last)
    (filled : fill settings counters pieces = .ok text) : Scanner.separates text = true := by
  cases pieces with
  | nil =>
    cases filled
    rfl
  | cons piece rest =>
    cases piece with
    | fragment part =>
      have breaks : part.breaks = true := by
        by_contra solid
        simp [spacing, Piece.follows, Fragment.follows, solid] at spaced
      obtain ⟨spelled, others, same, -, rfl⟩ := fill_cons_ok filled
      cases same
      exact part.separates breaks others
    | _ => simp [spacing, Piece.follows] at spaced

theorem Fragment.head (fragment : Fragment) :
    ∃ c rest, fragment.text = c :: rest ∧ c ≠ '"' := by
  cases fragment with
  | binaryOp op | unaryOp op | setOp op => cases op <;> exact ⟨_, _, rfl, by decide⟩
  | orderDirection dir => cases dir <;> exact ⟨_, _, rfl, by decide⟩
  | joinStart type => cases type <;> exact ⟨_, _, rfl, by decide⟩
  | aggregateStart function =>
    cases function with
    | count distinct => cases distinct <;> exact ⟨_, _, rfl, by decide⟩
    | _ => exact ⟨_, _, rfl, by decide⟩
  | _ => exact ⟨_, _, rfl, by decide⟩

theorem unquoted_of_spacing (spaced : spacing .name pieces = some last)
    (filled : fill settings counters pieces = .ok text) : text.head? ≠ some '"' := by
  cases pieces with
  | nil =>
    cases filled
    simp
  | cons piece rest =>
    cases piece with
    | fragment part =>
      obtain ⟨spelled, others, same, -, rfl⟩ := fill_cons_ok filled
      cases same
      obtain ⟨c, more, start, unquoted⟩ := part.head
      change (part.text ++ others).head? ≠ _
      rw [start]
      simpa using unquoted
    | _ => simp [spacing, Piece.follows] at spaced

/-- Behind the dot of a column stands the star or a quote. -/
theorem dotted_of_spacing (spaced : spacing .dotted pieces = some last) (settled : last ≠ .dotted)
    (filled : fill settings counters pieces = .ok text) :
    ∃ c rest, text = c :: rest ∧ (c = '*' ∨ c = '"') := by
  cases pieces with
  | nil =>
    cases spaced
    contradiction
  | cons piece rest =>
    obtain ⟨spelled, others, same, -, rfl⟩ := fill_cons_ok filled
    cases piece with
    | fragment part =>
      have star : part = .star := by
        by_contra other
        simp [spacing, Piece.follows, Fragment.follows, other] at spaced
      subst star
      cases same
      exact ⟨'*', others, rfl, .inl rfl⟩
    | identifier name =>
      cases same
      exact ⟨'"', _, rfl, .inr rfl⟩
    | _ => simp [spacing, Piece.follows] at spaced

theorem reads_placeholder (index : Nat) :
    scanner.Reads (placeholder index)
      (some [.param (constexprToString index)]) := by
  intro rest separated
  have digits := constexprToString_isDigit index
  have collect : ∀ acc c, c.isDigit = true →
      scanner.next (.param acc) c = .go (.param (acc ++ [c])) := by
    intro acc c digit
    simp [Scanner.next, digit]
  have settles : ∀ acc, scanner.Settles (.param acc) := fun acc =>
    Scanner.settles_of_stop rfl rfl rfl
  have dollar : scanner.first '$' = .go (.dollar []) := rfl
  rw [placeholder, cons_append, scanner.scan_first dollar]
  cases shape : constexprToString index with
  | nil => exact absurd shape (constexprToString_ne_nil index)
  | cons d others =>
    rw [shape] at digits
    have first : scanner.next (.dollar []) d = .go (.param [d]) := by
      have digit := digits d mem_cons_self
      have sign : d ≠ '$' := by
        rintro rfl
        exact absurd digit (by decide)
      simp [Scanner.next, digit, sign]
    rw [cons_append, scanner.scan_go first, scan_digits scanner Mode.param collect
      (fun c member => digits c (mem_cons_of_mem _ member)), settles _ rest separated]
    rfl

/-- The dot of a column is one token. -/
theorem scan_dot {c : Char} (behind : c = '*' ∨ c = '"') (rest : Text) :
    scanner.scan .start ('.' :: c :: rest) =
      join (scanner.lex ['.']) (scanner.scan .start (c :: rest)) := by
  have dot : scanner.first '.' = .go .dot := rfl
  have stops : scanner.next .dot c = .stop := by
    rcases behind with rfl | rfl <;> rfl
  rw [scanner.scan_first dot, scanner.scan_stop stops]
  rfl

/-- A piece before pieces that may follow it is read on its own. -/
theorem scan_piece {piece : Piece} (readable : piece.Readable scanner) {spelled : Text}
    (spelledEq : piece.spell settings counters = .ok spelled) {after : Counters}
    (spaced : spacing piece.after pieces = some last) (settled : last ≠ .dotted)
    (filled : fill settings after pieces = .ok text) :
    scanner.scan .start (spelled ++ text) =
      join (scanner.lex spelled) (scanner.scan .start text) := by
  have reads : (∃ tokens, scanner.Reads spelled tokens) → piece.after = .word →
      scanner.scan .start (spelled ++ text) =
        join (scanner.lex spelled) (scanner.scan .start text) := by
    intro read word
    obtain ⟨tokens, reads⟩ := read
    rw [word] at spaced
    rw [reads text (separates_of_spacing spaced filled), reads.lex]
  cases piece with
  | fragment part =>
    cases spelledEq
    by_cases dot : part = .dot
    · subst dot
      obtain ⟨c, rest, rfl, behind⟩ := dotted_of_spacing spaced settled filled
      exact scan_dot scanner behind rest
    · by_cases closed : part.closed = true
      · have completes := part.completes scanner closed
        change scanner.scan .start (part.text ++ text) = join (scanner.lex part.text) _
        rw [completes text, completes.reads.lex]
      · exact reads ⟨_, part.reads scanner dot⟩ (by simp [Piece.after, Fragment.after, dot, closed])
  | identifier name =>
    cases spelledEq
    have name := scan_quoteIdentifier scanner readable
    change scanner.scan .start (PostgresDialect.quoteIdentifier _ ++ text) =
      join (scanner.scan .start (PostgresDialect.quoteIdentifier _)) _
    have alone := name []
    rw [append_nil] at alone
    rw [name, alone, scan_nameQuote scanner _ (unquoted_of_spacing spaced filled)]
    rfl
  | value val =>
    refine reads ?_ rfl
    rw [Piece.spell] at spelledEq
    cases mode : settings.mode with
    | inline =>
      rw [mode] at spelledEq
      exact reads_formatValue scanner readable spelledEq
    | tuple | sink =>
      rw [mode] at spelledEq
      cases spelledEq
      exact ⟨_, reads_placeholder scanner _⟩
  | placeholder =>
    refine reads ?_ rfl
    cases spelledEq
    exact ⟨_, reads_placeholder scanner _⟩
  | number n =>
    refine reads ?_ rfl
    cases spelledEq
    exact ⟨_, reads_decimal scanner (isDecimal_of_digits (constexprToString_ne_nil n)
      (constexprToString_isDigit n))⟩
  | raw text =>
    refine reads ?_ rfl
    cases spelledEq
    exact readable

theorem scan_fill {boundary : Boundary} (spaced : spacing boundary pieces = some last)
    (settled : last ≠ .dotted) (readable : ∀ piece ∈ pieces, piece.Readable scanner)
    (filled : fill settings counters pieces = .ok text) :
    scanner.lex text = tokensOf scanner settings counters pieces := by
  induction pieces generalizing boundary counters text with
  | nil =>
    cases filled
    rfl
  | cons piece rest ih =>
    obtain ⟨spelled, others, spelledEq, othersEq, rfl⟩ := fill_cons_ok filled
    have restSpaced : spacing piece.after rest = some last := by
      unfold spacing at spaced
      split at spaced
      · exact spaced
      · cases spaced
    have tail := ih restSpaced
      (fun other member => readable other (mem_cons_of_mem _ member)) othersEq
    rw [tokensOf, ← tail, Piece.tokens, spelledEq]
    exact scan_piece scanner (readable piece mem_cons_self) spelledEq restSpaced settled
      othersEq

end Read

theorem lex_expression (scanner : Scanner) (settings : Settings) (expr : Expression)
    (readable : ∀ piece ∈ expr.pieces, piece.Readable scanner) {text : Text}
    (filled : fill settings {} expr.pieces = .ok text) :
    scanner.lex text = tokensOf scanner settings {} expr.pieces := by
  obtain ⟨last, settled, spaced⟩ := spaced_pieces expr
  exact scan_fill scanner spaced settled readable filled

end Menagerie.Savanna
