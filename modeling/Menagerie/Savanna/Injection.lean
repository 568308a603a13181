import Menagerie.Savanna.Agreement
import Menagerie.Savanna.Tokens

/-!
# Inline queries keep data apart from syntax

Two inline queries of one shape, which differ in their names and in the contents of their strings
and byte strings, have the same tokens up to those names and contents.
-/

namespace Menagerie.Savanna

open Beaver
open Sql hiding Text
open Piece List

/-- The value without the contents of a textual one. -/
def FieldValue.skeleton : FieldValue → FieldValue
  | .char _ => .char ' '
  | .string _ => .string []
  | .stringView _ => .stringView []
  | .bytes _ => .bytes []
  | .span _ => .span []
  | val => val

/-- The piece without its name or textual contents. -/
def Piece.skeleton : Piece → Piece
  | .identifier _ => .identifier []
  | .value val => .value val.skeleton
  | piece => piece

/-- The expressions differ at most in names and textual contents. -/
def SameShape (first second : Expression) : Prop :=
  first.pieces.map Piece.skeleton = second.pieces.map Piece.skeleton

/-- Names are not empty and have no NUL, nor have textual contents; the texts of `CREATE TABLE`
stand on their own. -/
def Piece.Admissible (scanner : Scanner) : Piece → Prop
  | .identifier name => name ≠ [] ∧ NulFree name
  | .value val => val.NulFree
  | .raw text => ∃ tokens, scanner.Reads text (some tokens)
  | _ => True

/-- The server keeps the name, and accepts the byte string. -/
def Piece.Kept (scanner : Scanner) : Piece → Prop
  | .identifier name => name.length < 64
  | .value (.bytes val) | .value (.span val) => byteaTokens scanner val ≠ none
  | _ => True

/-- The piece is neither a name nor a textual value. -/
def Piece.isFixed : Piece → Bool
  | .identifier _ => false
  | .value val => !val.isTextual
  | _ => true

/-- Equal tokens, or two names or literals. -/
inductive Alike : Token → Token → Prop
  | same (token : Token) : Alike token token
  | name (first second : Text) : Alike (.name first) (.name second)
  | literal (first second : Text) : Alike (.literal .plain first) (.literal .plain second)

section Align

variable (scanner : Scanner) (settings : Settings)

/-- A name gives its quoted name, a textual value a literal, and any other piece the same tokens in
both lists. -/
inductive Aligned : Counters → List Piece → List Piece → List Token → List Token → Prop
  | nil (counters : Counters) : Aligned counters [] [] [] []
  | name {counters : Counters} {pieces others : List Piece} {tokens otherTokens : List Token}
      (first second : Text) (rest : Aligned counters pieces others tokens otherTokens) :
      Aligned counters (.identifier first :: pieces) (.identifier second :: others)
        (.name first :: tokens) (.name second :: otherTokens)
  | literal {counters : Counters} {pieces others : List Piece} {tokens otherTokens : List Token}
      (first second : FieldValue) (firstText secondText : Text)
      (textual : first.isTextual = true) (textualToo : second.isTextual = true)
      (rest : Aligned counters pieces others tokens otherTokens) :
      Aligned counters (.value first :: pieces) (.value second :: others)
        (.literal .plain firstText :: tokens) (.literal .plain secondText :: otherTokens)
  | fixed {counters : Counters} {pieces others : List Piece}
      {tokens otherTokens own : List Token} (piece : Piece) (isFixed : piece.isFixed = true)
      (read : piece.tokens scanner settings counters = some own)
      (rest : Aligned (counters.after settings piece) pieces others tokens otherTokens) :
      Aligned counters (piece :: pieces) (piece :: others) (own ++ tokens) (own ++ otherTokens)

variable {scanner settings}

theorem Aligned.alike {counters : Counters} {pieces others : List Piece}
    {tokens otherTokens : List Token}
    (aligned : Aligned scanner settings counters pieces others tokens otherTokens) :
    Forall₂ Alike tokens otherTokens := by
  induction aligned with
  | nil => exact .nil
  | name first second _ ih => exact .cons (.name first second) ih
  | literal _ _ first second _ _ _ ih => exact .cons (.literal first second) ih
  | @fixed _ _ _ _ _ own _ _ _ _ ih =>
    have equal : Forall₂ Alike own own := forall₂_same.mpr fun token _ => .same token
    exact rel_append equal ih

theorem tokens_identifier (counters : Counters) {name : Text} (present : name ≠ [])
    (nulFree : NulFree name) :
    tokens scanner settings counters (.identifier name) =
      some [.name (scanner.truncate name)] := by
  have scanned := scan_quoteIdentifier scanner nulFree []
  rw [append_nil] at scanned
  change scanner.scan .start _ = _
  rw [plain, scanned]
  cases name with
  | nil => contradiction
  | cons c rest => rfl

theorem tokens_textual (inline : settings.mode = .inline) (counters : Counters) {val : FieldValue}
    (textual : val.isTextual = true) (nulFree : val.NulFree) :
    tokens scanner settings counters (.value val) = none ∧ ¬ (value val).Kept scanner ∨
      ∃ content, tokens scanner settings counters (.value val) =
        some [.literal .plain content] ∧ (value val).Kept scanner := by
  have bytea : ∀ data : List UInt8, ∀ text, text = PostgresDialect.formatBinaryData data →
      scanner.lex text = none ∧ ¬ byteaTokens scanner data ≠ none ∨
        ∃ content, scanner.lex text = some [.literal .plain content] ∧
          byteaTokens scanner data ≠ none := by
    intro data text same
    rw [same, (reads_formatBinaryData scanner data).lex]
    unfold byteaTokens
    dsimp only
    split
    · exact .inl ⟨rfl, by simp⟩
    · exact .inr ⟨_, rfl, by simp⟩
  have string : ∀ str, NulFree str →
      ∃ content, scanner.lex (PostgresDialect.formatStringValue str) =
        some [.literal .plain content] := fun str nulFree =>
    ⟨_, (reads_formatStringValue scanner nulFree).lex⟩
  unfold tokens spell
  rw [inline]
  cases val with
  | char val =>
    obtain ⟨content, read⟩ := string [val]
      (by simpa [NulFree, FieldValue.NulFree, eq_comm] using nulFree)
    exact .inr ⟨content, by rw [← read, ← formatChar_eq]; rfl, trivial⟩
  | string val | stringView val =>
    obtain ⟨content, read⟩ := string val nulFree
    exact .inr ⟨content, read, trivial⟩
  | bytes val | span val => exact bytea val _ rfl
  | _ => cases textual

theorem tokens_fixed (inline : settings.mode = .inline) (atRuntime : settings.evaluation = .runtime)
    (counters : Counters) {piece : Piece} (isFixed : piece.isFixed = true)
    (admissible : piece.Admissible scanner) :
    ∃ own, piece.tokens scanner settings counters = some own := by
  cases piece with
  | fragment part =>
    by_cases dot : part = .dot
    · subst dot
      exact ⟨[.self '.'], rfl⟩
    · exact ⟨_, (part.reads scanner dot).lex⟩
  | identifier name => cases isFixed
  | value val =>
    obtain ⟨text, formatted⟩ := formatValue_runtime val
    have unquoted : val.isTextual = false := by simpa [Piece.isFixed] using isFixed
    obtain ⟨tokens, reads⟩ := reads_unquoted scanner unquoted formatted
    refine ⟨tokens, ?_⟩
    simp only [Piece.tokens, Piece.spell, inline, atRuntime, formatted]
    exact reads.lex
  | placeholder => exact ⟨_, (reads_placeholder scanner _).lex⟩
  | number n =>
    exact ⟨_, (reads_decimal scanner (isDecimal_of_digits (constexprToString_ne_nil n)
      (constexprToString_isDigit n))).lex⟩
  | raw text =>
    obtain ⟨tokens, reads⟩ := admissible
    exact ⟨tokens, reads.lex⟩

theorem isTextual_skeleton (val : FieldValue) : val.skeleton.isTextual = val.isTextual := by
  cases val <;> rfl

theorem skeleton_unquoted {val : FieldValue} (unquoted : val.isTextual = false) :
    val.skeleton = val := by
  cases val <;> first | rfl | cases unquoted

theorem skeleton_cases {first second : Piece} (same : first.skeleton = second.skeleton) :
    (∃ name other, first = .identifier name ∧ second = .identifier other) ∨
    (∃ val other, first = .value val ∧ second = .value other ∧
      val.isTextual = true ∧ other.isTextual = true) ∨
    (first = second ∧ first.isFixed = true) := by
  cases first with
  | identifier name =>
    cases second with
    | identifier other => exact .inl ⟨name, other, rfl, rfl⟩
    | _ => cases same
  | value val =>
    cases second with
    | value other =>
      have values : val.skeleton = other.skeleton := by simpa [skeleton] using same
      have kinds : val.isTextual = other.isTextual := by
        rw [← isTextual_skeleton val, values, isTextual_skeleton]
      by_cases textual : val.isTextual = true
      · exact .inr (.inl ⟨val, other, rfl, rfl, textual, kinds ▸ textual⟩)
      · rw [Bool.not_eq_true] at textual
        rw [skeleton_unquoted textual, skeleton_unquoted (kinds ▸ textual)] at values
        exact .inr (.inr ⟨by rw [values], by simp [isFixed, textual]⟩)
    | _ => cases same
  | _ =>
    refine .inr (.inr ⟨?_, rfl⟩)
    cases second <;> first | exact same | cases same

theorem after_inline (inline : settings.mode = .inline) (counters : Counters) (val : FieldValue) :
    counters.after settings (.value val) = counters := by
  simp [Counters.after, pushes, Piece.numbers, inline]

theorem aligned_of_kept (inline : settings.mode = .inline)
    (atRuntime : settings.evaluation = .runtime) (pieces others : List Piece)
    (shape : pieces.map skeleton = others.map skeleton)
    (admissible : ∀ piece ∈ pieces, piece.Admissible scanner)
    (admissibleToo : ∀ piece ∈ others, piece.Admissible scanner)
    (kept : ∀ piece ∈ pieces, piece.Kept scanner)
    (keptToo : ∀ piece ∈ others, piece.Kept scanner) (counters : Counters) :
    ∃ tokens otherTokens, tokensOf scanner settings counters pieces = some tokens ∧
      tokensOf scanner settings counters others = some otherTokens ∧
      Aligned scanner settings counters pieces others tokens otherTokens := by
  induction pieces generalizing others counters with
  | nil =>
    rw [map_nil, eq_comm, map_eq_nil_iff] at shape
    subst shape
    exact ⟨[], [], rfl, rfl, .nil counters⟩
  | cons piece rest ih =>
    cases others with
    | nil => cases shape
    | cons other more =>
      rw [map_cons, map_cons, cons.injEq] at shape
      rw [forall_mem_cons] at admissible admissibleToo kept keptToo
      have tail := ih more shape.2 admissible.2 admissibleToo.2 kept.2 keptToo.2
      rcases skeleton_cases shape.1 with ⟨name, second, rfl, rfl⟩ |
        ⟨val, second, rfl, rfl, textual, textualToo⟩ | ⟨rfl, isFixed⟩
      · obtain ⟨tokens, otherTokens, read, readToo, aligned⟩ := tail counters
        have short : name.length < 64 := kept.1
        have shortToo : second.length < 64 := keptToo.1
        refine ⟨_, _, ?_, ?_, .name name second aligned⟩
        · rw [tokensOf, tokens_identifier counters admissible.1.1 admissible.1.2,
            Scanner.truncate, if_pos short]
          change join _ (tokensOf scanner settings counters rest) = _
          rw [read]
          rfl
        · rw [tokensOf, tokens_identifier counters admissibleToo.1.1 admissibleToo.1.2,
            Scanner.truncate, if_pos shortToo]
          change join _ (tokensOf scanner settings counters more) = _
          rw [readToo]
          rfl
      · obtain ⟨tokens, otherTokens, read, readToo, aligned⟩ := tail counters
        rcases tokens_textual inline counters textual admissible.1 with ⟨-, lost⟩ | ⟨text, own, -⟩
        · exact absurd kept.1 lost
        rcases tokens_textual inline counters textualToo admissibleToo.1 with
          ⟨-, lost⟩ | ⟨secondText, ownToo, -⟩
        · exact absurd keptToo.1 lost
        refine ⟨_, _, ?_, ?_, .literal val second text secondText textual textualToo aligned⟩
        · rw [tokensOf, own, after_inline inline, read]
          rfl
        · rw [tokensOf, ownToo, after_inline inline, readToo]
          rfl
      · obtain ⟨own, ownRead⟩ := tokens_fixed inline atRuntime counters isFixed admissible.1
        obtain ⟨tokens, otherTokens, read, readToo, aligned⟩ := tail (counters.after settings piece)
        refine ⟨_, _, ?_, ?_, .fixed piece isFixed ownRead aligned⟩
        · rw [tokensOf, ownRead, read]
          rfl
        · rw [tokensOf, ownRead, readToo]
          rfl

theorem join_eq_some {first second : Option (List Token)} {tokens : List Token}
    (joined : join first second = some tokens) :
    ∃ front behind, first = some front ∧ second = some behind ∧ tokens = front ++ behind := by
  cases first with
  | none => cases joined
  | some front =>
    cases second with
    | none => cases joined
    | some behind =>
      cases joined
      exact ⟨front, behind, rfl, rfl, rfl⟩

section

variable {counters : Counters} {pieces : List Piece} {tokens : List Token}

theorem tokens_behind {piece : Piece} {own : List Token}
    (ownRead : piece.tokens scanner settings counters = some own)
    (read : tokensOf scanner settings counters (piece :: pieces) = some (own ++ tokens)) :
    tokensOf scanner settings (counters.after settings piece) pieces = some tokens := by
  rw [tokensOf, ownRead] at read
  obtain ⟨front, behind, same, tail, split⟩ := join_eq_some read
  cases same
  rw [tail, append_cancel_left split]

theorem kept_name {name : Text} (admissible : (identifier name).Admissible scanner)
    (read : tokensOf scanner settings counters (.identifier name :: pieces) =
      some (.name name :: tokens)) :
    (identifier name).Kept scanner ∧
      tokensOf scanner settings counters pieces = some tokens := by
  have own : Piece.tokens scanner settings counters (.identifier name) =
      some [.name (scanner.truncate name)] :=
    tokens_identifier counters admissible.1 admissible.2
  rw [tokensOf, own] at read
  obtain ⟨front, behind, same, tail, split⟩ := join_eq_some read
  cases same
  rw [singleton_append, cons.injEq, Token.name.injEq] at split
  refine ⟨?_, ?_⟩
  · by_contra long
    have clipped : scanner.truncate name = scanner.clip name := if_neg long
    have short := scanner.clip_length name
    rw [← clipped, ← split.1] at short
    exact long short
  · rw [split.2]
    exact tail

theorem kept_literal (inline : settings.mode = .inline) {val : FieldValue}
    (textual : val.isTextual = true) {text : Text}
    (admissible : (value val).Admissible scanner)
    (read : tokensOf scanner settings counters (.value val :: pieces) =
      some (.literal .plain text :: tokens)) :
    (value val).Kept scanner ∧ tokensOf scanner settings counters pieces = some tokens := by
  rw [tokensOf, after_inline inline] at read
  obtain ⟨front, behind, own, tail, split⟩ := join_eq_some read
  rcases tokens_textual inline counters textual admissible with ⟨lost, -⟩ | ⟨content, literal, kept⟩
  · rw [lost] at own
    cases own
  · rw [literal] at own
    cases own
    refine ⟨kept, ?_⟩
    rw [singleton_append, cons.injEq] at split
    rw [tail, split.2]

end

theorem kept_fixed {piece : Piece} (isFixed : piece.isFixed = true) : piece.Kept scanner := by
  cases piece with
  | identifier name => cases isFixed
  | value val =>
    cases val with
    | bytes val => cases isFixed
    | span val => cases isFixed
    | _ => trivial
  | _ => trivial

theorem kept_of_aligned (inline : settings.mode = .inline) {counters : Counters}
    {pieces others : List Piece} {tokens otherTokens : List Token}
    (aligned : Aligned scanner settings counters pieces others tokens otherTokens)
    (admissible : ∀ piece ∈ pieces, piece.Admissible scanner)
    (admissibleToo : ∀ piece ∈ others, piece.Admissible scanner)
    (read : tokensOf scanner settings counters pieces = some tokens)
    (readToo : tokensOf scanner settings counters others = some otherTokens) :
    (∀ piece ∈ pieces, piece.Kept scanner) ∧ ∀ piece ∈ others, piece.Kept scanner := by
  induction aligned with
  | nil => simp
  | @name counters rest more tokens otherTokens first second _ ih =>
    rw [forall_mem_cons] at admissible admissibleToo ⊢
    obtain ⟨short, tail⟩ := kept_name admissible.1 read
    obtain ⟨shortToo, tailToo⟩ := kept_name admissibleToo.1 readToo
    obtain ⟨kept, keptToo⟩ := ih admissible.2 admissibleToo.2 tail tailToo
    exact ⟨⟨short, kept⟩, forall_mem_cons.mpr ⟨shortToo, keptToo⟩⟩
  | @literal counters rest more tokens otherTokens first second firstText secondText textual
      textualToo _ ih =>
    rw [forall_mem_cons] at admissible admissibleToo ⊢
    obtain ⟨valid, tail⟩ := kept_literal inline textual admissible.1 read
    obtain ⟨validToo, tailToo⟩ := kept_literal inline textualToo admissibleToo.1 readToo
    obtain ⟨kept, keptToo⟩ := ih admissible.2 admissibleToo.2 tail tailToo
    exact ⟨⟨valid, kept⟩, forall_mem_cons.mpr ⟨validToo, keptToo⟩⟩
  | @fixed counters rest more tokens otherTokens own piece isFixed ownRead _ ih =>
    rw [forall_mem_cons] at admissible admissibleToo ⊢
    have tail := tokens_behind ownRead read
    have tailToo := tokens_behind ownRead readToo
    obtain ⟨kept, keptToo⟩ := ih admissible.2 admissibleToo.2 tail tailToo
    have always : piece.Kept scanner := kept_fixed isFixed
    exact ⟨⟨always, kept⟩, forall_mem_cons.mpr ⟨always, keptToo⟩⟩

end Align

section Property

variable (scanner : Scanner)

/-- Both inline texts have tokens, which are alike and follow the pieces. -/
def NonInterfering (first second : Expression) : Prop :=
  ∃ query otherQuery tokens otherTokens,
    (∀ category, compileDynamic .inline category first = .ok query) ∧
    (∀ category, compileDynamic .inline category second = .ok otherQuery) ∧
    scanner.lex query.sql = some tokens ∧ scanner.lex otherQuery.sql = some otherTokens ∧
    List.Forall₂ Alike tokens otherTokens ∧
    Aligned scanner ⟨.runtime, .inline⟩ {} first.pieces second.pieces tokens otherTokens

/-- Names are not empty, and nothing has a NUL character. -/
def Expression.Admissible (expr : Expression) : Prop :=
  ∀ piece ∈ expr.pieces, piece.Admissible scanner

/-- Every name has less than 64 bytes, and every byte string is accepted. -/
def Expression.Kept (expr : Expression) : Prop :=
  ∀ piece ∈ expr.pieces, piece.Kept scanner

variable {scanner}

theorem Piece.Admissible.readable {piece : Piece} (admissible : piece.Admissible scanner) :
    piece.Readable scanner := by
  cases piece with
  | identifier name => exact admissible.2
  | raw text =>
    obtain ⟨tokens, reads⟩ := admissible
    exact ⟨_, reads⟩
  | _ => exact admissible

theorem compileDynamic_inline (expr : Expression) :
    ∃ text, fill ⟨.runtime, .inline⟩ {} expr.pieces = .ok text ∧
      ∀ category, compileDynamic .inline category expr = .ok ⟨text, []⟩ := by
  obtain ⟨text, filled⟩ := fill_runtime ⟨.runtime, .inline⟩ rfl expr.pieces {}
  refine ⟨text, filled, fun category => ?_⟩
  rw [compileDynamic_eq .inline category expr filled, pushedValues_inline rfl]

theorem lex_inline {expr : Expression} (admissible : expr.Admissible scanner) :
    ∃ query, (∀ category, compileDynamic .inline category expr = .ok query) ∧
      scanner.lex query.sql = tokensOf scanner ⟨.runtime, .inline⟩ {} expr.pieces := by
  obtain ⟨text, filled, compiled⟩ := compileDynamic_inline expr
  exact ⟨⟨text, []⟩, compiled, lex_expression scanner _ expr
    (fun piece member => (admissible piece member).readable) filled⟩

/-- Without interference names and byte strings are kept. -/
theorem kept_of_nonInterfering {first second : Expression} (admissible : first.Admissible scanner)
    (admissibleToo : second.Admissible scanner)
    (apart : NonInterfering scanner first second) :
    first.Kept scanner ∧ second.Kept scanner := by
  obtain ⟨query, otherQuery, tokens, otherTokens, same, otherSame, read, otherRead, -, aligned⟩ :=
    apart
  obtain ⟨own, compiled, lexed⟩ := lex_inline admissible
  obtain ⟨otherOwn, otherCompiled, otherLexed⟩ := lex_inline admissibleToo
  cases (compiled .lvalue).symm.trans (same .lvalue)
  cases (otherCompiled .lvalue).symm.trans (otherSame .lvalue)
  exact kept_of_aligned rfl aligned admissible admissibleToo (lexed.symm.trans read)
    (otherLexed.symm.trans otherRead)

/-- Two inline queries of one shape have the same tokens up to names and textual contents, and their
names are the given ones, exactly if all names are short and all byte strings are accepted. -/
theorem inline_noninterference_iff (first second : Expression) (shape : SameShape first second)
    (admissible : first.Admissible scanner) (admissibleToo : second.Admissible scanner) :
    NonInterfering scanner first second ↔ first.Kept scanner ∧ second.Kept scanner := by
  refine ⟨kept_of_nonInterfering admissible admissibleToo, ?_⟩
  intro ⟨kept, keptToo⟩
  obtain ⟨query, compiled, lexed⟩ := lex_inline admissible
  obtain ⟨otherQuery, otherCompiled, otherLexed⟩ := lex_inline admissibleToo
  have inline : Settings.mode ⟨.runtime, .inline⟩ = .inline := rfl
  obtain ⟨tokens, otherTokens, read, otherRead, aligned⟩ := aligned_of_kept inline rfl
    first.pieces second.pieces shape admissible admissibleToo kept keptToo {}
  exact ⟨query, otherQuery, tokens, otherTokens, compiled, otherCompiled, lexed.trans read,
    otherLexed.trans otherRead, aligned.alike, aligned⟩

/-- `DELETE FROM "t" WHERE ("data" = '\x00')`. -/
def zeroByte : Expression :=
  .deleteWhereExpr (.name "t".toList)
    (.binaryExpr .equal (.columnLike (.column ⟨"data".toList, [], []⟩)) (.literal (.bytes [0]) []))

/-- `DELETE FROM` a table whose name has 64 bytes. -/
def longName : Expression := .deleteExpr (.name (List.replicate 64 'a'))

attribute [local simp] Expression.Admissible Expression.pieces Table.pieces Piece.Admissible

/-- Without `standard_conforming_strings` a byte string that starts with zero is no literal, and a
long name is cut. -/
theorem inline_interferes :
    (∀ scanner, scanner.standardConformingStrings = false →
      zeroByte.Admissible scanner ∧ ¬ NonInterfering scanner zeroByte zeroByte) ∧
      ∀ scanner, longName.Admissible scanner ∧ ¬ NonInterfering scanner longName longName := by
  constructor
  · intro scanner setting
    have admissible : zeroByte.Admissible scanner := by
      simp [zeroByte, tableNamePieces, ColumnLike.pieces, qualifierPieces, aliasPieces, NulFree,
        FieldValue.NulFree]
    refine ⟨admissible, fun apart => ?_⟩
    have kept := (kept_of_nonInterfering admissible admissible apart).1 (.value (.bytes [0]))
      (by simp [zeroByte])
    refine kept ?_
    have rejected : scanner.verify [Char.ofNat 0] = false := scanner.verify_nul _ (by simp)
    simp [byteaTokens, byteaContent, setting, hexText, rejected]
  · intro scanner
    have admissible : longName.Admissible scanner := by
      simp [longName, tableNamePieces, NulFree]
    refine ⟨admissible, fun apart => ?_⟩
    have kept := (kept_of_nonInterfering admissible admissible apart).1
      (.identifier (replicate 64 'a'))
      (by simp [longName, tableNamePieces])
    exact absurd kept (by simp [Kept])

def asciiServer (standardConformingStrings : Bool) : Scanner where
  standardConformingStrings := standardConformingStrings
  backslashQuote := false
  verify text := text.all fun c => c ≠ Char.ofNat 0 && c.toNat < 128
  clip name := name.take 63
  ofUnicode n := if n ≠ 0 ∧ n < 128 then some [Char.ofNat n] else none
  verify_nul text member := by
    rw [List.all_eq_false]
    exact ⟨_, member, by decide⟩
  clip_length name := by
    rw [List.length_take]
    omega

/-- `DELETE FROM "table" WHERE ("column" = 'text')`. -/
def deletedText (table column text : Text) : Expression :=
  .deleteWhereExpr (.name table)
    (.binaryExpr .equal (.columnLike (.column ⟨column, [], []⟩)) (.literal (.string text) []))

def plainDeletion : Expression := deletedText "users".toList "name".toList "Ann".toList

/-- Quotes, a backslash and a comment in names and a string. -/
def hostileDeletion : Expression :=
  deletedText "t\"; --".toList "\"".toList "\\' OR ''='".toList

theorem inline_noninterference_on_deletions :
    NonInterfering (asciiServer false) plainDeletion hostileDeletion := by
  have shape : SameShape plainDeletion hostileDeletion := rfl
  refine (inline_noninterference_iff plainDeletion hostileDeletion shape ?_ ?_).mpr
    ⟨?_, ?_⟩ <;>
    simp [Expression.Kept, plainDeletion, hostileDeletion, deletedText, tableNamePieces,
      ColumnLike.pieces, qualifierPieces, aliasPieces, Kept, NulFree, FieldValue.NulFree]

end Property

end Menagerie.Savanna
