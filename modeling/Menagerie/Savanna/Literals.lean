import Menagerie.Savanna.Injection
import Menagerie.Library.Sql.Bytea

/-!
# What an inline literal denotes

With `standard_conforming_strings` the backslash is an ordinary character of a literal, and
`escape_char` still doubles it.
-/

namespace Menagerie.Savanna

open Sql PostgresDialect List

theorem hexDigits_hexText (data : List UInt8) : HexDigits (hexText data) data := by
  induction data with
  | nil => exact .nil
  | cons byte rest ih =>
    have bound : byte.toNat < 256 := byte.toNat_lt
    have halves : UInt8.ofNat (16 * (byte.toNat / 16) + byte.toNat % 16) = byte := by
      rw [Nat.div_add_mod]
      exact UInt8.ofNat_toNat
    have digits := HexDigits.cons (hexChars_lt (n := byte.toNat / 16) (by omega)).1
      (hexChars_lt (n := byte.toNat % 16) (by omega)).1 ih
    rw [halves] at digits
    exact digits

/-- The values with a literal in quotes, without NUL. -/
def FieldValue.Quotable : FieldValue → Prop
  | .char val => val ≠ Char.ofNat 0
  | .string val | .stringView val => Savanna.NulFree val
  | .bytes _ | .span _ => True
  | _ => False

/-- The literal holds the characters, or the hexadecimal text of the bytes. -/
def FieldValue.DenotedBy (content : Text) : FieldValue → Prop
  | .char val => content = [val]
  | .string val | .stringView val => content = val
  | .bytes val | .span val => HexBytea content val
  | _ => False

/-- The value has no backslash among its characters. -/
def FieldValue.Unescaped : FieldValue → Prop
  | .char val => val ≠ '\\'
  | .string val | .stringView val => '\\' ∉ val
  | _ => True

variable {scanner : Scanner}

section

variable (standard : scanner.standardConformingStrings = true) (str : Text)

include standard str

theorem length_stringContent :
    (stringContent scanner str).length = str.length + str.count '\\' := by
  induction str with
  | nil => rfl
  | cons c rest ih =>
    have unfolded : stringContent scanner (c :: rest) =
        contentChar scanner c ++ stringContent scanner rest := rfl
    rw [unfolded, length_append, ih, contentChar, count_cons, length_cons]
    by_cases backslash : c = '\\'
    · rw [if_pos backslash, if_pos standard, if_pos (by simp [backslash])]
      simp only [show "\\\\".toList.length = 2 from rfl]
      omega
    · rw [if_neg backslash, if_neg (by simp [backslash]), length_singleton]
      omega

theorem stringContent_eq_iff :
    stringContent scanner str = str ↔ '\\' ∉ str := by
  constructor
  · intro same
    have length := length_stringContent standard str
    rw [same] at length
    exact count_eq_zero.mp (by omega)
  · intro absent
    have kept : ∀ c ∈ str, contentChar scanner c = [c] := by
      intro c member
      refine if_neg (fun backslash => absent ?_)
      rw [← backslash]
      exact member
    rw [stringContent, flatMap_congr kept, flatMap_singleton']

end

section Literals

variable (evaluation : Evaluation)

/-- The text of the value is one literal that denotes the value. -/
def FieldValue.Literal (scanner : Scanner) (value : FieldValue) : Prop :=
  ∃ text content, PostgresDialect.formatValue evaluation value = .ok text ∧
    scanner.lex text = some [.literal .plain content] ∧ value.DenotedBy content

section

variable (standard : scanner.standardConformingStrings = true) {value : FieldValue}

include standard

theorem literal_string_iff {str : Text} (nulFree : NulFree str)
    (written : formatValue evaluation value =
      .ok (formatStringValue str))
    (denoted : ∀ content, value.DenotedBy content ↔ content = str) :
    value.Literal evaluation scanner ↔ '\\' ∉ str := by
  have lexed := (reads_formatStringValue scanner nulFree).lex
  rw [← stringContent_eq_iff standard, FieldValue.Literal, written]
  constructor
  · rintro ⟨text, content, ⟨⟩, read, same⟩
    rw [lexed] at read
    cases read
    exact (denoted _).mp same
  · intro same
    exact ⟨_, _, rfl, lexed, (denoted _).mpr same⟩

theorem literal_bytes {data : List UInt8}
    (written : formatValue evaluation value =
      .ok (formatBinaryData data))
    (denoted : ∀ content, HexBytea content data → value.DenotedBy content) :
    value.Literal evaluation scanner := by
  refine ⟨_, "\\x".toList ++ hexText data, written, ?_, denoted _ (.mk (hexDigits_hexText data))⟩
  rw [(reads_formatBinaryData scanner data).lex]
  simp [byteaTokens, byteaContent, standard]

end

/-- With `standard_conforming_strings`, the text of a string, a character or bytes is one literal
that denotes the value exactly when the value has no backslash. -/
theorem format_value_denotes_iff (standard : scanner.standardConformingStrings = true)
    (value : FieldValue) (quotable : value.Quotable) :
    value.Literal evaluation scanner ↔ value.Unescaped := by
  cases value with
  | char val =>
    have nulFree : NulFree [val] := by simpa [NulFree] using Ne.symm quotable
    have written : formatValue evaluation (.char val) =
        .ok (formatStringValue [val]) := congrArg Except.ok (formatChar_eq val)
    rw [literal_string_iff evaluation standard nulFree written (fun _ => Iff.rfl)]
    simp [FieldValue.Unescaped, eq_comm]
  | string val | stringView val =>
    exact literal_string_iff evaluation standard quotable rfl (fun _ => Iff.rfl)
  | bytes val | span val =>
    exact iff_of_true (literal_bytes evaluation standard rfl (fun _ => id)) trivial
  | _ => cases quotable

end Literals

theorem format_value_denotes_quote :
    (FieldValue.string "it's".toList).Literal .runtime (asciiServer true) :=
  (format_value_denotes_iff .runtime rfl (.string "it's".toList)
    (show NulFree "it's".toList by decide)).mpr (show '\\' ∉ "it's".toList by decide)

/-- A single backslash is sent as two. -/
theorem format_value_backslash_doubled :
    (asciiServer true).lex "'\\\\'".toList = some [.literal .plain "\\\\".toList] ∧
      ¬(FieldValue.string "\\".toList).Literal .runtime (asciiServer true) := by
  refine ⟨by decide, ?_⟩
  rintro ⟨text, content, ⟨⟩, read, rfl⟩
  exact absurd read (by decide)

end Menagerie.Savanna
