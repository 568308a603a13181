import Mathlib.Data.List.Basic

/-!
# The scanner of a PostgreSQL server

The lexical rules of the server as an automaton that reads one character at a time: words, quoted
names, literals with their escapes and continuations, numbers, operators, parameters, comments and
dollar quotes. A text that the server rejects while scanning has no tokens.
-/

namespace Menagerie.Sql

/-- The text of a query, byte by byte. -/
abbrev Text := List Char

/-- The kinds of quoted literals. -/
inductive Literal
  | plain
  | escape
  | bits
  | hex
  | unicode
  deriving DecidableEq

/-- The tokens of a query. -/
inductive Token
  | word (text : Text)
  | name (text : Text)
  | unicodeName (text : Text)
  | literal (kind : Literal) (text : Text)
  | number (text : Text)
  | param (digits : Text)
  | operator (text : Text)
  | self (c : Char)
  deriving DecidableEq

/-- What a scanner takes from its server. -/
structure Scanner where
  standardConformingStrings : Bool
  backslashQuote : Bool
  verify : Text → Bool
  clip : Text → Text
  ofUnicode : Nat → Option Text
  verify_nul : ∀ text, Char.ofNat 0 ∈ text → verify text = false
  clip_length : ∀ name, (clip name).length < 64

/-- What the scanner is in the middle of. -/
inductive Mode
  | start
  | word (acc : Text)
  | unicodeMark (letter : Char)
  | whole (acc : Text)
  | point (acc : Text)
  | fraction (acc : Text)
  | mark (acc : Text)
  | signed (acc : Text)
  | exponent (acc : Text)
  | dot
  | colon
  | operator (acc : Text)
  | dollar (tag : Text)
  | param (acc : Text)
  | dollarText (tag acc : Text)
  | lineComment
  | blockComment (depth : Nat) (last : Char)
  | name (isUnicode : Bool) (acc : Text)
  | nameQuote (isUnicode : Bool) (acc : Text)
  | text (kind : Literal) (acc : Text) (nonAscii : Bool)
  | textQuote (kind : Literal) (acc : Text) (nonAscii : Bool)
  | textGap (kind : Literal) (acc : Text) (nonAscii newline : Bool)
  | textDash (kind : Literal) (acc : Text) (nonAscii newline : Bool)
  | textComment (kind : Literal) (acc : Text) (nonAscii : Bool)
  | textEscape (acc : Text) (nonAscii : Bool)
  | octal (acc : Text) (nonAscii : Bool) (value count : Nat)
  | hexStart (acc : Text) (nonAscii : Bool)
  | hexDigit (acc : Text) (nonAscii : Bool) (value : Nat)
  | codePoint (acc : Text) (nonAscii : Bool) (value left : Nat)

/-- What a character does. -/
inductive Move
  | go (mode : Mode)
  | emit (tokens : Option (List Token)) (mode : Mode)
  | stop
  | fail

def isSpace (c : Char) : Bool :=
  c = ' ' || c = '\t' || c = '\n' || c = '\r' || c = '\x0b' || c = '\x0c'

def isNewline (c : Char) : Bool := c = '\n' || c = '\r'

def identStart (c : Char) : Bool := c.isAlpha || c = '_' || 128 ≤ c.toNat

def identCont (c : Char) : Bool := identStart c || c.isDigit || c = '$'

/-- What lets an operator keep a sign at its end. -/
def keepsSign (c : Char) : Bool := c ∈ "~!@#^&|%?".toList || c = Char.ofNat 96

def opChar (c : Char) : Bool := keepsSign c || c ∈ "+-*/<>=".toList

/-- The value of a hex digit. -/
def hexValue (c : Char) : Option Nat :=
  if c.isDigit then some (c.toNat - '0'.toNat)
  else if 'a' ≤ c ∧ c ≤ 'f' then some (c.toNat - 'a'.toNat + 10)
  else if 'A' ≤ c ∧ c ≤ 'F' then some (c.toNat - 'A'.toNat + 10)
  else none

/-- The character of an escape. -/
def unescapeSingleChar (c : Char) : Char :=
  if c = 'b' then Char.ofNat 8
  else if c = 'f' then Char.ofNat 12
  else if c = 'n' then '\n'
  else if c = 'r' then '\r'
  else if c = 't' then '\t'
  else if c = 'v' then Char.ofNat 11
  else c

/-- The signs at the end of an operator that are tokens of their own, all reversed. -/
def splitSigns : Text → Text × Text
  | [] => ([], [])
  | c :: rest =>
    if (c = '+' || c = '-') && !rest.isEmpty && !rest.any keepsSign then
      let (kept, signs) := splitSigns rest
      (kept, c :: signs)
    else (c :: rest, [])

/-- The tokens of a run of operator characters. -/
def operatorTokens (acc : Text) : List Token :=
  match acc with
  | [] => []
  | _ :: _ =>
    let (kept, signs) := splitSigns acc.reverse
    .operator kept.reverse :: signs.reverse.map fun c => .operator [c]

namespace Scanner

variable (scanner : Scanner)

/-- A name as the server keeps it, with `NAMEDATALEN` 64. -/
def truncate (name : Text) : Text :=
  if name.length < 64 then name else scanner.clip name

/-- The token of a literal; escaped bytes have to be valid. -/
def literalTokens (kind : Literal) (acc : Text) (nonAscii : Bool) : Option (List Token) :=
  if nonAscii && !scanner.verify acc then none
  else some [.literal (if kind = .escape then .plain else kind) acc]

/-- The tokens of what has been read, if it ends here. -/
def flush : Mode → Option (List Token)
  | .start => some []
  | .word acc => some [.word (scanner.truncate (acc.map Char.toLower))]
  | .unicodeMark letter => some [.word [letter.toLower], .operator ['&']]
  | .whole acc | .fraction acc | .exponent acc => some [.number acc]
  | .point acc => some [.number (acc ++ ['.'])]
  | .mark _ | .signed _ => none
  | .dot => some [.self '.']
  | .colon => some [.self ':']
  | .operator acc => some (operatorTokens acc)
  | .dollar tag =>
    some (.self '$' ::
      if tag.isEmpty then [] else [.word (scanner.truncate (tag.map Char.toLower))])
  | .param acc => some [.param acc]
  | .dollarText _ _ => none
  | .lineComment => some []
  | .blockComment _ _ => none
  | .name _ _ => none
  | .nameQuote isUnicode acc =>
    if acc.isEmpty then none
    else some [if isUnicode then .unicodeName acc else .name (scanner.truncate acc)]
  | .text _ _ _ => none
  | .textQuote kind acc nonAscii => scanner.literalTokens kind acc nonAscii
  | .textGap kind acc nonAscii _ => scanner.literalTokens kind acc nonAscii
  | .textDash kind acc nonAscii _ =>
    (scanner.literalTokens kind acc nonAscii).map (· ++ [.operator ['-']])
  | .textComment kind acc nonAscii => scanner.literalTokens kind acc nonAscii
  | .textEscape _ _ | .octal _ _ _ _ | .hexStart _ _ | .hexDigit _ _ _ | .codePoint _ _ _ _ => none

/-- The first character of a token. -/
def first (c : Char) : Move :=
  if c = Char.ofNat 0 then .fail
  else if isSpace c then .go .start
  else if identStart c then .go (.word [c])
  else if c.isDigit then .go (.whole [c])
  else if c = '"' then .go (.name false [])
  else if c = '\'' then
    .go (.text (if scanner.standardConformingStrings then .plain else .escape) [] false)
  else if c = '$' then .go (.dollar [])
  else if c = '.' then .go .dot
  else if c = ':' then .go .colon
  else if opChar c then .go (.operator [c])
  else .emit (some [.self c]) .start

/-- A character inside a literal. -/
def inText (kind : Literal) (acc : Text) (nonAscii : Bool) (c : Char) : Move :=
  if c = Char.ofNat 0 then .fail
  else if c = '\'' then .go (.textQuote kind acc nonAscii)
  else if c = '\\' && kind = .escape then .go (.textEscape acc nonAscii)
  else .go (.text kind (acc ++ [c]) nonAscii)

def escaped (acc : Text) (nonAscii : Bool) (byte : Nat) : Text × Bool :=
  (acc ++ [Char.ofNat byte], nonAscii || byte = 0 || 128 ≤ byte)

/-- A character after a backslash. -/
def afterBackslash (acc : Text) (nonAscii : Bool) (c : Char) : Move :=
  if c = Char.ofNat 0 then .fail
  else if '0' ≤ c ∧ c ≤ '7' then .go (.octal acc nonAscii (c.toNat - '0'.toNat) 1)
  else if c = 'x' then .go (.hexStart acc nonAscii)
  else if c = 'u' then .go (.codePoint acc nonAscii 0 4)
  else if c = 'U' then .go (.codePoint acc nonAscii 0 8)
  else if c = '\'' then
    if scanner.backslashQuote then .go (.text .escape (acc ++ ['\'']) nonAscii) else .fail
  else .go (.text .escape (acc ++ [unescapeSingleChar c]) nonAscii)

/-- A character after a word; a letter can introduce a literal. -/
def afterWord (acc : Text) (c : Char) : Move :=
  if identCont c then .go (.word (acc ++ [c]))
  else if c = '\'' && (acc = ['e'] || acc = ['E']) then .go (.text .escape [] false)
  else if c = '\'' && (acc = ['b'] || acc = ['B']) then .go (.text .bits [] false)
  else if c = '\'' && (acc = ['x'] || acc = ['X']) then .go (.text .hex [] false)
  else if c = '\'' && (acc = ['n'] || acc = ['N']) then
    .emit (some [.word "nchar".toList])
      (.text (if scanner.standardConformingStrings then .plain else .escape) [] false)
  else if c = '&' && acc = ['u'] then .go (.unicodeMark 'u')
  else if c = '&' && acc = ['U'] then .go (.unicodeMark 'U')
  else .stop

/-- A character in an operator, which a comment ends. -/
def afterOperator (acc : Text) (c : Char) : Move :=
  if c = '-' && acc.getLast? = some '-' then .emit (some (operatorTokens acc.dropLast)) .lineComment
  else if c = '*' && acc.getLast? = some '/' then
    .emit (some (operatorTokens acc.dropLast)) (.blockComment 1 ' ')
  else if opChar c then .go (.operator (acc ++ [c]))
  else .stop

/-- What a character does to the mode. -/
def next : Mode → Char → Move
  | .start, _ => .stop
  | .word acc, c => scanner.afterWord acc c
  | .unicodeMark letter, c =>
    if c = '"' then .go (.name true [])
    else if c = '\'' then .go (.text .unicode [] false)
    else if opChar c then .emit (some [.word [letter.toLower]]) (.operator ['&', c])
    else .stop
  | .whole acc, c =>
    if c.isDigit then .go (.whole (acc ++ [c]))
    else if c = '.' then .go (.point acc)
    else if c = 'e' || c = 'E' then .go (.mark (acc ++ [c]))
    else if identStart c then .fail
    else .stop
  | .point acc, c =>
    if c.isDigit then .go (.fraction (acc ++ ['.', c]))
    else if c = '.' then .emit (some [.number acc, .operator "..".toList]) .start
    else if c = 'e' || c = 'E' then .go (.mark (acc ++ ['.', c]))
    else if identStart c then .fail
    else .stop
  | .fraction acc, c =>
    if c.isDigit then .go (.fraction (acc ++ [c]))
    else if c = 'e' || c = 'E' then .go (.mark (acc ++ [c]))
    else if identStart c then .fail
    else .stop
  | .mark acc, c =>
    if c.isDigit then .go (.exponent (acc ++ [c]))
    else if c = '+' || c = '-' then .go (.signed (acc ++ [c]))
    else .fail
  | .signed acc, c => if c.isDigit then .go (.exponent (acc ++ [c])) else .fail
  | .exponent acc, c =>
    if c.isDigit then .go (.exponent (acc ++ [c]))
    else if identStart c then .fail
    else .stop
  | .dot, c =>
    if c.isDigit then .go (.fraction ['.', c])
    else if c = '.' then .emit (some [.operator "..".toList]) .start
    else .stop
  | .colon, c =>
    if c = ':' then .emit (some [.operator "::".toList]) .start
    else if c = '=' then .emit (some [.operator ":=".toList]) .start
    else .stop
  | .operator acc, c => afterOperator acc c
  | .dollar tag, c =>
    if c = '$' then .go (.dollarText tag [])
    else if c.isDigit && tag.isEmpty then .go (.param [c])
    else if identStart c || c.isDigit then .go (.dollar (tag ++ [c]))
    else .stop
  | .param acc, c =>
    if c.isDigit then .go (.param (acc ++ [c]))
    else if identStart c then .fail
    else .stop
  | .dollarText tag acc, c =>
    if c = Char.ofNat 0 then .fail
    else if ('$' :: tag ++ ['$']).isSuffixOf (acc ++ [c]) then
      .emit (some [.literal .plain ((acc ++ [c]).take (acc.length + 1 - (tag.length + 2)))]) .start
    else .go (.dollarText tag (acc ++ [c]))
  | .lineComment, c =>
    if c = Char.ofNat 0 then .fail else if isNewline c then .go .start else .go .lineComment
  | .blockComment depth last, c =>
    if c = Char.ofNat 0 then .fail
    else if last = '/' && c = '*' then .go (.blockComment (depth + 1) ' ')
    else if last = '*' && c = '/' then
      .go (if depth ≤ 1 then .start else .blockComment (depth - 1) ' ')
    else .go (.blockComment depth c)
  | .name isUnicode acc, c =>
    if c = Char.ofNat 0 then .fail
    else if c = '"' then .go (.nameQuote isUnicode acc)
    else .go (.name isUnicode (acc ++ [c]))
  | .nameQuote isUnicode acc, c =>
    if c = '"' then .go (.name isUnicode (acc ++ ['"'])) else .stop
  | .text kind acc nonAscii, c => inText kind acc nonAscii c
  | .textQuote kind acc nonAscii, c =>
    if c = '\'' && kind ≠ .bits && kind ≠ .hex then .go (.text kind (acc ++ ['\'']) nonAscii)
    else if isSpace c then .go (.textGap kind acc nonAscii (isNewline c))
    else if c = '-' then .go (.textDash kind acc nonAscii false)
    else .stop
  | .textGap kind acc nonAscii newline, c =>
    if isSpace c then .go (.textGap kind acc nonAscii (newline || isNewline c))
    else if c = '\'' && newline then .go (.text kind acc nonAscii)
    else if c = '-' then .go (.textDash kind acc nonAscii newline)
    else .stop
  | .textDash kind acc nonAscii _, c =>
    if c = '-' then .go (.textComment kind acc nonAscii)
    else if opChar c then .emit (scanner.literalTokens kind acc nonAscii) (.operator ['-', c])
    else .stop
  | .textComment kind acc nonAscii, c =>
    if c = Char.ofNat 0 then .fail
    else if isNewline c then .go (.textGap kind acc nonAscii true)
    else .go (.textComment kind acc nonAscii)
  | .textEscape acc nonAscii, c => scanner.afterBackslash acc nonAscii c
  | .octal acc nonAscii value count, c =>
    if '0' ≤ c ∧ c ≤ '7' ∧ count < 3 then
      .go (.octal acc nonAscii (value * 8 + (c.toNat - '0'.toNat)) (count + 1))
    else
      let (extended, flag) := escaped acc nonAscii (value % 256)
      inText .escape extended flag c
  | .hexStart acc nonAscii, c =>
    match hexValue c with
    | some digit => .go (.hexDigit acc nonAscii digit)
    | none => inText .escape (acc ++ ['x']) nonAscii c
  | .hexDigit acc nonAscii value, c =>
    match hexValue c with
    | some digit =>
      let (extended, flag) := escaped acc nonAscii (value * 16 + digit)
      .go (.text .escape extended flag)
    | none =>
      let (extended, flag) := escaped acc nonAscii value
      inText .escape extended flag c
  | .codePoint acc nonAscii value left, c =>
    match hexValue c with
    | none => .fail
    | some digit =>
      if 1 < left then .go (.codePoint acc nonAscii (value * 16 + digit) (left - 1))
      else
        match scanner.ofUnicode (value * 16 + digit) with
        | some chars => .go (.text .escape (acc ++ chars) nonAscii)
        | none => .fail

end Scanner

/-- Tokens before tokens, if both texts have some. -/
def join (first second : Option (List Token)) : Option (List Token) :=
  first.bind fun tokens => second.map (tokens ++ ·)

namespace Scanner

variable (scanner : Scanner)

/-- The tokens of the text, from a mode on. -/
def scan (mode : Mode) : Text → Option (List Token)
  | [] => scanner.flush mode
  | c :: rest =>
    match scanner.next mode c with
    | .go after => scan after rest
    | .emit tokens after => join tokens (scan after rest)
    | .fail => none
    | .stop =>
      match scanner.first c with
      | .go after => join (scanner.flush mode) (scan after rest)
      | .emit tokens after => join (scanner.flush mode) (join tokens (scan after rest))
      | .fail | .stop => none

/-- The tokens of a query. -/
def lex (text : Text) : Option (List Token) := scanner.scan .start text

end Scanner

end Menagerie.Sql
