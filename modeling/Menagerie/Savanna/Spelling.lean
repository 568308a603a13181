import Menagerie.Library.Sql.Reading
import Menagerie.Savanna.Dialect

/-!
# What the dialect writes is read as one token

Numbers, quoted names and quoted literals in front of a text that is separated from them. A number
with a sign is an operator and a number.
-/

namespace Menagerie.Savanna

open Beaver
open Sql hiding Text
open PostgresDialect List

section Numbers

variable (scanner : Scanner)

section

variable {c : Char} (digit : c.isDigit = true)

include digit

theorem digit_mem : c ∈ "0123456789".toList := by
  obtain ⟨low, high⟩ := Char.isDigit_iff_toNat.mp digit
  have same : c = Char.ofNat c.toNat := (Char.ofNat_toNat c).symm
  have few : c.toNat = 48 ∨ c.toNat = 49 ∨ c.toNat = 50 ∨ c.toNat = 51 ∨ c.toNat = 52 ∨
      c.toNat = 53 ∨ c.toNat = 54 ∨ c.toNat = 55 ∨ c.toNat = 56 ∨ c.toNat = 57 := by
    change 48 ≤ _ at low
    change _ ≤ 57 at high
    omega
  rw [same]
  rcases few with h | h | h | h | h | h | h | h | h | h <;> rw [h] <;> decide

theorem digit_plain :
    c ≠ Char.ofNat 0 ∧ isSpace c = false ∧ identStart c = false := by
  have all : ∀ d ∈ "0123456789".toList,
      d ≠ Char.ofNat 0 ∧ isSpace d = false ∧ identStart d = false :=
    all_iff_forall_prop.mp (by decide)
  exact all c (digit_mem digit)

theorem first_digit :
    scanner.first c = .go (.whole [c]) := by
  obtain ⟨present, solid, noWord⟩ := digit_plain digit
  simp [Scanner.first, present, solid, noWord, digit]

end

theorem first_letter {c : Char} (letter : c.isAlpha = true) :
    scanner.first c = .go (.word [c]) := by
  have present : c ≠ Char.ofNat 0 := by
    rintro rfl
    exact absurd letter (by decide)
  have solid : isSpace c = false := by
    by_contra blank
    simp only [isSpace, Bool.or_eq_false_iff, decide_eq_false_iff_not, not_and, not_not] at blank
    have few : c = ' ' ∨ c = '\t' ∨ c = '\n' ∨ c = '\r' ∨ c = '\x0b' ∨ c = '\x0c' := by
      by_contra none
      simp only [not_or] at none
      exact none.2.2.2.2.2 (blank ⟨⟨⟨⟨none.1, none.2.1⟩, none.2.2.1⟩, none.2.2.2.1⟩,
        none.2.2.2.2.1⟩)
    rcases few with rfl | rfl | rfl | rfl | rfl | rfl <;> exact absurd letter (by decide)
  simp [Scanner.first, present, solid, identStart, letter]

attribute [local simp] Scanner.next Scanner.afterWord

theorem settles_word (acc : Text) : scanner.Settles (.word acc) :=
  Scanner.settles_of_stop (by simp [identCont, identStart])
    (by simp [identCont, identStart])
    (by simp [identCont, identStart])

theorem reads_isWord {text : Text} (word : IsWord text) :
    scanner.Reads text (some [.word (text.map Char.toLower)]) := by
  obtain ⟨present, letters, short⟩ := word
  cases text with
  | nil => contradiction
  | cons c others =>
    intro rest separated
    have collect : ∀ acc, ∀ d ∈ others,
        scanner.next (.word acc) d = .go (.word (acc ++ [d])) := by
      intro acc d member
      have letter := letters d (mem_cons_of_mem _ member)
      simp [identCont, identStart, letter]
    have small : scanner.truncate ((c :: others).map Char.toLower) =
        (c :: others).map Char.toLower := by
      unfold Scanner.truncate
      rw [if_pos]
      rw [length_map]
      omega
    rw [cons_append, scanner.scan_first (first_letter scanner (letters c mem_cons_self)),
      scanner.scan_collect Mode.word others collect, settles_word scanner _ rest separated]
    change join (some [Token.word (scanner.truncate _)]) _ = _
    rw [singleton_append, small]

theorem scan_digits (mode : Text → Mode)
    (each : ∀ acc c, c.isDigit = true → scanner.next (mode acc) c = .go (mode (acc ++ [c])))
    {ds : Text} (digits : ∀ c ∈ ds, c.isDigit = true) (acc rest : Text) :
    scanner.scan (mode acc) (ds ++ rest) = scanner.scan (mode (acc ++ ds)) rest :=
  scanner.scan_collect mode ds (fun acc c member => each acc c (digits c member)) acc rest

section

variable (acc : Text) (c : Char) (digit : c.isDigit = true)

include acc c digit

theorem whole_digit :
    scanner.next (.whole acc) c = .go (.whole (acc ++ [c])) := by
  simp [digit]

theorem fraction_digit :
    scanner.next (.fraction acc) c = .go (.fraction (acc ++ [c])) := by
  simp [digit]

theorem exponent_digit :
    scanner.next (.exponent acc) c = .go (.exponent (acc ++ [c])) := by
  simp [digit]

end

/-- The modes inside a number. -/
inductive NumberMode (acc : Text) : Mode → Prop
  | whole : NumberMode acc (.whole acc)
  | fraction : NumberMode acc (.fraction acc)
  | exponent : NumberMode acc (.exponent acc)

theorem NumberMode.settles {acc : Text} {mode : Mode} (ends : NumberMode acc mode) :
    scanner.Settles mode := by
  cases ends <;> exact Scanner.settles_of_stop rfl rfl rfl

theorem NumberMode.flush {acc : Text} {mode : Mode} (ends : NumberMode acc mode) :
    scanner.flush mode = some [.number acc] := by
  cases ends <;> rfl

theorem scan_fraction {fraction : Text}
    (form : fraction = [] ∨ ∃ ds, ds ≠ [] ∧ (∀ c ∈ ds, c.isDigit = true) ∧ fraction = '.' :: ds)
    (acc : Text) :
    ∃ mode, (mode = .whole (acc ++ fraction) ∨ mode = .fraction (acc ++ fraction)) ∧
      ∀ rest, scanner.scan (.whole acc) (fraction ++ rest) = scanner.scan mode rest := by
  rcases form with rfl | ⟨ds, present, digits, rfl⟩
  · exact ⟨_, .inl rfl, fun rest => by simp⟩
  · cases ds with
    | nil => contradiction
    | cons d others =>
      refine ⟨_, .inr rfl, fun rest => ?_⟩
      have point : scanner.next (.whole acc) '.' = .go (.point acc) := rfl
      have start : scanner.next (.point acc) d = .go (.fraction (acc ++ ['.', d])) := by
        simp [digits d mem_cons_self]
      rw [cons_append, cons_append, scanner.scan_go point, scanner.scan_go start,
        scan_digits scanner Mode.fraction (fraction_digit scanner)
          (fun c member => digits c (mem_cons_of_mem _ member)), append_assoc]
      rfl

theorem scan_power {power : Text}
    (form : power = [] ∨ ∃ sign ds, (sign = '+' ∨ sign = '-') ∧ ds ≠ [] ∧
      (∀ c ∈ ds, c.isDigit = true) ∧ power = 'e' :: sign :: ds)
    {acc : Text} {mode : Mode} (number : mode = .whole acc ∨ mode = .fraction acc) :
    ∃ last, NumberMode (acc ++ power) last ∧
      ∀ rest, scanner.scan mode (power ++ rest) = scanner.scan last rest := by
  rcases form with rfl | ⟨sign, ds, signed, present, digits, rfl⟩
  · refine ⟨mode, ?_, fun rest => by simp⟩
    rw [append_nil]
    rcases number with rfl | rfl
    · exact .whole
    · exact .fraction
  · cases ds with
    | nil => contradiction
    | cons d others =>
      refine ⟨_, .exponent, fun rest => ?_⟩
      have mark : scanner.next mode 'e' = .go (.mark (acc ++ ['e'])) := by
        rcases number with rfl | rfl <;> rfl
      have turn : scanner.next (.mark (acc ++ ['e'])) sign =
          .go (.signed (acc ++ ['e'] ++ [sign])) := by
        rcases signed with rfl | rfl <;> rfl
      have start : scanner.next (.signed (acc ++ ['e'] ++ [sign])) d =
          .go (.exponent (acc ++ ['e'] ++ [sign] ++ [d])) := by
        simp [digits d mem_cons_self]
      rw [cons_append, cons_append, cons_append, scanner.scan_go mark,
        scanner.scan_go turn, scanner.scan_go start,
        scan_digits scanner Mode.exponent (exponent_digit scanner)
          (fun c member => digits c (mem_cons_of_mem _ member))]
      simp [append_assoc]

theorem reads_decimal {text : Text} (decimal : IsDecimal text) :
    scanner.Reads text (some [.number text]) := by
  obtain ⟨whole, fraction, power, rfl, present, digits, fractionForm, powerForm⟩ := decimal.split
  intro rest separated
  cases whole with
  | nil => contradiction
  | cons d others =>
    obtain ⟨middle, middleMode, fractionRead⟩ := scan_fraction scanner fractionForm (d :: others)
    obtain ⟨last, lastMode, powerRead⟩ := scan_power scanner powerForm middleMode
    have wholeRead : ∀ behind, scanner.scan .start (d :: others ++ behind) =
        scanner.scan (.whole (d :: others)) behind := by
      intro behind
      rw [cons_append, scanner.scan_first (first_digit scanner (digits d mem_cons_self)),
        scan_digits scanner Mode.whole (whole_digit scanner)
          (fun c member => digits c (mem_cons_of_mem _ member))]
      rfl
    rw [append_assoc, append_assoc, wholeRead, fractionRead, powerRead,
      lastMode.settles scanner rest separated, lastMode.flush scanner]

theorem opChar_alphanum {c : Char} (alphanum : c.isAlphanum = true) : opChar c = false := by
  by_contra op
  rw [Bool.not_eq_false] at op
  simp only [opChar, keepsSign, Bool.or_eq_true, decide_eq_true_eq] at op
  have first : ∀ d ∈ "~!@#^&|%?".toList, d.isAlphanum = false :=
    all_iff_forall_prop.mp (by decide)
  have second : ∀ d ∈ "+-*/<>=".toList, d.isAlphanum = false :=
    all_iff_forall_prop.mp (by decide)
  rcases op with (member | rfl) | member
  · simp [first c member] at alphanum
  · exact absurd alphanum (by decide)
  · simp [second c member] at alphanum

theorem IsDecimal.head {text : Text} (decimal : IsDecimal text) :
    ∃ c rest, text = c :: rest ∧ c.isAlphanum = true := by
  obtain ⟨whole, fraction, power, rfl, present, digits, -, -⟩ := decimal.split
  cases whole with
  | nil => contradiction
  | cons c others =>
    exact ⟨c, _, rfl, by simp [Char.isAlphanum, digits c mem_cons_self]⟩

theorem IsWord.head {text : Text} (word : IsWord text) :
    ∃ c rest, text = c :: rest ∧ c.isAlphanum = true := by
  obtain ⟨present, letters, -⟩ := word
  cases text with
  | nil => contradiction
  | cons c others => exact ⟨c, _, rfl, by simp [Char.isAlphanum, letters c mem_cons_self]⟩

theorem reads_minus {body : Text} {tokens : List Token}
    (head : ∃ c rest, body = c :: rest ∧ c.isAlphanum = true)
    (reads : scanner.Reads body (some tokens)) :
    scanner.Reads ('-' :: body) (some (.operator ['-'] :: tokens)) := by
  obtain ⟨c, others, rfl, alphanum⟩ := head
  intro rest separated
  have minus : scanner.first '-' = .go (.operator ['-']) := rfl
  have stops : scanner.next (.operator ['-']) c = .stop := by
    have plain := opChar_alphanum alphanum
    have dash : c ≠ '-' := by
      rintro rfl
      exact absurd plain (by decide)
    simp [Scanner.afterOperator, plain, dash]
  have flushed : scanner.flush (.operator ['-']) = some [.operator ['-']] := rfl
  have bodyRead := reads rest separated
  rw [cons_append] at bodyRead
  rw [cons_append, cons_append, scanner.scan_first minus, scanner.scan_stop stops,
    bodyRead, flushed, ← join_assoc, join_some]
  rfl

theorem reads_number {text : Text} (number : IsNumber text) :
    ∃ tokens, scanner.Reads text (some tokens) := by
  obtain ⟨sign, body, signForm, rfl, bodyForm⟩ := number.split
  have reads : ∃ tokens, scanner.Reads body (some tokens) := by
    rcases bodyForm with decimal | word
    · exact ⟨_, reads_decimal scanner decimal⟩
    · exact ⟨_, reads_isWord scanner word⟩
  have head : ∃ c rest, body = c :: rest ∧ c.isAlphanum = true := by
    rcases bodyForm with decimal | word
    · exact decimal.head
    · exact word.head
  obtain ⟨tokens, bodyReads⟩ := reads
  rcases signForm with rfl | rfl
  · exact ⟨tokens, bodyReads⟩
  · exact ⟨_, reads_minus scanner head bodyReads⟩

end Numbers

section Quoted

variable (scanner : Scanner)

def NulFree (text : Text) : Prop := Char.ofNat 0 ∉ text

instance (text : Text) : Decidable (NulFree text) := inferInstanceAs (Decidable (_ ∉ _))

/-- The tokens of a quoted name. -/
def nameTokens (name : Text) : Option (List Token) :=
  scanner.flush (.nameQuote false name)

theorem scan_quoteIdentifier {name : Text} (nulFree : NulFree name) (rest : Text) :
    scanner.scan .start (PostgresDialect.quoteIdentifier name ++ rest) =
      scanner.scan (.nameQuote false name) rest := by
  have opens : scanner.first '"' = .go (.name false []) := rfl
  have closes : ∀ acc, scanner.next (.name false acc) '"' = .go (.nameQuote false acc) :=
    fun _ => rfl
  have doubled : ∀ acc, scanner.next (.nameQuote false acc) '"' =
      .go (.name false (acc ++ ['"'])) := fun _ => rfl
  have each : ∀ acc rest, ∀ c ∈ name,
      scanner.scan (.name false acc) ((if c = '"' then "\"\"".toList else [c]) ++ rest) =
        scanner.scan (.name false (acc ++ [c])) rest := by
    intro acc rest c member
    by_cases quote : c = '"'
    · subst quote
      change scanner.scan (.name false acc) ('"' :: '"' :: rest) = _
      rw [scanner.scan_go (closes acc), scanner.scan_go (doubled acc)]
    · have present : c ≠ Char.ofNat 0 := by
        rintro rfl
        exact nulFree member
      have goes : scanner.next (.name false acc) c = .go (.name false (acc ++ [c])) := by
        simp [Scanner.next, present, quote]
      rw [if_neg quote, singleton_append, scanner.scan_go goes]
  have units := scanner.scan_units (Mode.name false)
    (fun c => if c = '"' then "\"\"".toList else [c])
    (fun c => [c]) name each [] ('"' :: rest)
  rw [PostgresDialect.quoteIdentifier, cons_append, cons_append, append_assoc,
    scanner.scan_first opens]
  rw [escapeIdentifier, singleton_append, units, scanner.scan_go (closes _)]
  simp

theorem scan_nameQuote (name : Text) {rest : Text} (unquoted : rest.head? ≠ some '"') :
    scanner.scan (.nameQuote false name) rest =
      join (nameTokens scanner name) (scanner.scan .start rest) := by
  cases rest with
  | nil =>
    have nothing : scanner.scan .start [] = some [] := rfl
    rw [nothing, join_nil_right]
    rfl
  | cons c others =>
    apply scanner.scan_stop
    have other : c ≠ '"' := fun same => unquoted (by rw [same]; rfl)
    simp [Scanner.next, other]

/-- How the server reads a plain literal. -/
def stringKind : Literal :=
  if scanner.standardConformingStrings then .plain else .escape

/-- With `standard_conforming_strings`, a doubled backslash stays doubled. -/
def contentChar (c : Char) : Text :=
  if c = '\\' then if scanner.standardConformingStrings then "\\\\".toList else ['\\'] else [c]

/-- A character of a string is read as one unit. -/
theorem scan_escapeChar {c : Char} (present : c ≠ Char.ofNat 0) (acc rest : Text) :
    scanner.scan (.text (stringKind scanner) acc false) (escapeChar c ++ rest) =
      scanner.scan (.text (stringKind scanner) (acc ++ contentChar scanner c) false) rest := by
  by_cases quote : c = '\''
  · subst quote
    have closes : scanner.next (.text (stringKind scanner) acc false) '\'' =
        .go (.textQuote (stringKind scanner) acc false) := rfl
    have doubled : scanner.next (.textQuote (stringKind scanner) acc false) '\'' =
        .go (.text (stringKind scanner) (acc ++ ['\'']) false) := by
      unfold stringKind
      cases scanner.standardConformingStrings <;> rfl
    change scanner.scan _ ('\'' :: '\'' :: rest) = _
    rw [scanner.scan_go closes, scanner.scan_go doubled]
    rfl
  · by_cases backslash : c = '\\'
    · subst backslash
      change scanner.scan _ ('\\' :: '\\' :: rest) = _
      cases setting : scanner.standardConformingStrings with
      | true =>
        have kind : stringKind scanner = .plain := by simp [stringKind, setting]
        have kept : ∀ acc, scanner.next (.text .plain acc false) '\\' =
            .go (.text .plain (acc ++ ['\\']) false) := fun _ => rfl
        rw [kind, scanner.scan_go (kept acc), scanner.scan_go (kept _)]
        simp [contentChar, setting]
      | false =>
        have kind : stringKind scanner = .escape := by simp [stringKind, setting]
        have opens : scanner.next (.text .escape acc false) '\\' = .go (.textEscape acc false) :=
          rfl
        have kept : scanner.next (.textEscape acc false) '\\' =
            .go (.text .escape (acc ++ ['\\']) false) := rfl
        rw [kind, scanner.scan_go opens, scanner.scan_go kept]
        simp [contentChar, setting]
    · have goes : scanner.next (.text (stringKind scanner) acc false) c =
          .go (.text (stringKind scanner) (acc ++ [c]) false) := by
        simp [Scanner.next, Scanner.inText, present, quote, backslash]
      simp only [escapeChar, quote, backslash, if_false, singleton_append,
        scanner.scan_go goes, contentChar]

/-- What the server keeps of a string. -/
def stringContent (str : Text) : Text := str.flatMap (contentChar scanner)

theorem scan_formatStringValue {str : Text} (nulFree : NulFree str) (rest : Text) :
    scanner.scan .start (formatStringValue str ++ rest) =
      scanner.scan (.textQuote (stringKind scanner) (stringContent scanner str) false) rest := by
  have opens : scanner.first '\'' = .go (.text (stringKind scanner) [] false) := rfl
  have closes : ∀ acc, scanner.next (.text (stringKind scanner) acc false) '\'' =
      .go (.textQuote (stringKind scanner) acc false) := fun _ => rfl
  have each : ∀ acc rest, ∀ c ∈ str,
      scanner.scan (.text (stringKind scanner) acc false) (escapeChar c ++ rest) =
        scanner.scan (.text (stringKind scanner) (acc ++ contentChar scanner c) false) rest := by
    intro acc rest c member
    apply scan_escapeChar
    rintro rfl
    exact nulFree member
  have units := scanner.scan_units (fun acc => Mode.text (stringKind scanner) acc false)
    escapeChar (contentChar scanner) str each [] ('\'' :: rest)
  rw [formatStringValue, cons_append, cons_append, append_assoc,
    scanner.scan_first opens, escapeString, singleton_append, units,
    scanner.scan_go (closes _)]
  rfl

theorem literalTokens_stringKind (acc : Text) (nonAscii : Bool) :
    scanner.literalTokens (stringKind scanner) acc nonAscii =
      if nonAscii && !scanner.verify acc then none else some [.literal .plain acc] := by
  have kind : (if stringKind scanner = .escape then .plain else stringKind scanner) =
      Literal.plain := by
    cases setting : scanner.standardConformingStrings <;> simp [stringKind, setting]
  rw [Scanner.literalTokens, kind]

theorem reads_formatStringValue {str : Text} (nulFree : NulFree str) :
    scanner.Reads (formatStringValue str)
      (some [.literal .plain (stringContent scanner str)]) := by
  intro rest separated
  rw [scan_formatStringValue scanner nulFree, Scanner.settles_textQuote _ _ _ rest separated]
  change join (scanner.literalTokens _ _ _) _ = _
  rw [literalTokens_stringKind]
  rfl

/-- The digits that `format_binary_data` writes. -/
def hexText (data : List UInt8) : Text := data.flatMap PostgresDialect.formatByte

/-- What the server keeps of a byte string, and whether a byte came from an escape: without
`standard_conforming_strings` the prefix `\x` is one. -/
def byteaContent (data : List UInt8) : Text × Bool :=
  if scanner.standardConformingStrings then ("\\x".toList ++ hexText data, false)
  else
    match data with
    | [] => (['x'], false)
    | byte :: rest =>
      (Char.ofNat byte.toNat :: hexText rest, byte.toNat = 0 || 128 ≤ byte.toNat)

/-- The token of a byte string. -/
def byteaTokens (data : List UInt8) : Option (List Token) :=
  let (content, nonAscii) := byteaContent scanner data
  if nonAscii && !scanner.verify content then none else some [.literal .plain content]

theorem hexChars_lt {n : Nat} (small : n < 16) :
    let c := hexChars.getD n '0'
    hexValue c = some n ∧ c ≠ Char.ofNat 0 ∧ c ≠ '\'' ∧ c ≠ '\\' := by
  have all : ∀ n < 16, hexValue (hexChars.getD n '0') = some n ∧
      hexChars.getD n '0' ≠ Char.ofNat 0 ∧
      hexChars.getD n '0' ≠ '\'' ∧
      hexChars.getD n '0' ≠ '\\' := by decide +kernel
  exact all n small

/-- Hexadecimal digits inside a literal are kept. -/
theorem scan_hexText (kind : Literal) (data : List UInt8) (acc : Text) (nonAscii : Bool)
    (rest : Text) :
    scanner.scan (.text kind acc nonAscii) (hexText data ++ rest) =
      scanner.scan (.text kind (acc ++ hexText data) nonAscii) rest := by
  apply scanner.scan_collect (fun acc => Mode.text kind acc nonAscii)
  intro acc c member
  obtain ⟨byte, -, digit⟩ := mem_flatMap.mp member
  have plain : c ≠ Char.ofNat 0 ∧ c ≠ '\'' ∧ c ≠ '\\' := by
    have bound : byte.toNat < 256 := byte.toNat_lt
    simp only [formatByte, mem_cons, not_mem_nil, or_false] at digit
    rcases digit with rfl | rfl
    · exact (hexChars_lt (by omega)).2
    · exact (hexChars_lt (by omega)).2
  simp [Scanner.next, Scanner.inText, plain.1, plain.2.1, plain.2.2]

theorem scan_hexEscape (byte : UInt8) (rest : Text) :
    scanner.scan (.hexStart [] false) (formatByte byte ++ rest) =
      scanner.scan (.text .escape [Char.ofNat byte.toNat]
        (byte.toNat = 0 || 128 ≤ byte.toNat)) rest := by
  have bound : byte.toNat < 256 := byte.toNat_lt
  have high := (hexChars_lt (n := byte.toNat / 16) (by omega)).1
  have low := (hexChars_lt (n := byte.toNat % 16) (by omega)).1
  have whole : byte.toNat / 16 * 16 + byte.toNat % 16 = byte.toNat := by omega
  have firstDigit : scanner.next (.hexStart [] false)
      (hexChars.getD (byte.toNat / 16) '0') =
      .go (.hexDigit [] false (byte.toNat / 16)) := by
    simp only [Scanner.next, high]
  have secondDigit : scanner.next (.hexDigit [] false (byte.toNat / 16))
      (hexChars.getD (byte.toNat % 16) '0') =
      .go (.text .escape [Char.ofNat byte.toNat] (byte.toNat = 0 || 128 ≤ byte.toNat)) := by
    simp only [Scanner.next, low, Scanner.escaped, whole, Bool.false_or, nil_append]
  change scanner.scan _ (_ :: _ :: rest) = _
  rw [scanner.scan_go firstDigit, scanner.scan_go secondDigit]

theorem scan_formatBinaryData (data : List UInt8) (rest : Text) :
    scanner.scan .start (formatBinaryData data ++ rest) =
      scanner.scan (.textQuote (stringKind scanner) (byteaContent scanner data).1
        (byteaContent scanner data).2) rest := by
  have opens : scanner.first '\'' = .go (.text (stringKind scanner) [] false) := rfl
  have closes : ∀ kind acc nonAscii, scanner.next (.text kind acc nonAscii) '\'' =
      .go (.textQuote kind acc nonAscii) := fun _ _ _ => rfl
  have shape : formatBinaryData data ++ rest =
      '\'' :: '\\' :: 'x' :: (hexText data ++ '\'' :: rest) := by
    simp [formatBinaryData, hexText]
  rw [shape, scanner.scan_first opens]
  cases setting : scanner.standardConformingStrings with
  | true =>
    have kind : stringKind scanner = .plain := by simp [stringKind, setting]
    have backslash : scanner.next (.text .plain [] false) '\\' = .go (.text .plain ['\\'] false) :=
      rfl
    have letter : scanner.next (.text .plain ['\\'] false) 'x' =
        .go (.text .plain ['\\', 'x'] false) := rfl
    rw [kind, scanner.scan_go backslash, scanner.scan_go letter, scan_hexText,
      scanner.scan_go (closes _ _ _)]
    simp [byteaContent, setting]
  | false =>
    have kind : stringKind scanner = .escape := by simp [stringKind, setting]
    have backslash : scanner.next (.text .escape [] false) '\\' = .go (.textEscape [] false) := rfl
    have letter : scanner.next (.textEscape [] false) 'x' = .go (.hexStart [] false) := rfl
    rw [kind, scanner.scan_go backslash, scanner.scan_go letter]
    cases data with
    | nil =>
      have noDigit : scanner.next (.hexStart [] false) '\'' =
        .go (.textQuote .escape ['x'] false) := rfl
      rw [hexText, flatMap_nil, nil_append, scanner.scan_go noDigit]
      simp [byteaContent, setting]
    | cons byte others =>
      have split : hexText (byte :: others) = formatByte byte ++ hexText others := rfl
      rw [split, append_assoc, scan_hexEscape, scan_hexText, scanner.scan_go (closes _ _ _)]
      simp [byteaContent, setting]

/-- A byte string is one literal, if its first byte is accepted. -/
theorem reads_formatBinaryData (data : List UInt8) :
    scanner.Reads (formatBinaryData data) (byteaTokens scanner data) := by
  intro rest separated
  rw [scan_formatBinaryData, Scanner.settles_textQuote _ _ _ rest separated]
  change join (scanner.literalTokens _ _ _) _ = _
  rw [literalTokens_stringKind]
  rfl

end Quoted

end Menagerie.Savanna
