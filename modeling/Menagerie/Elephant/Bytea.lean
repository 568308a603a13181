import Menagerie.Elephant.FieldView
import Menagerie.Savanna.Literals

/-!
# Byte strings in text format

`decode_hex_bytea` hands two characters at a time to `std::from_chars`, which stops at the first
character that is no digit, and does not ask how far it got. The value of a column is followed by a
NUL character, as `PQgetvalue` returns it.
-/

namespace Menagerie.Elephant

open Beaver Savanna ByteOrder OidTypeRegistry List
open Sql (hexValue HexDigits HexBytea)
open FieldView

/-- A column in text format, with `memory` behind its NUL. -/
def textView (content memory : Bytes) (oid : Nat) : FieldView where
  data := some (content ++ 0 :: memory)
  len := content.length
  isNull := false
  format := .text
  oid := oid

/-- The view gives the bytes of its hexadecimal text, and throws for any other. -/
def ReadsBytea (host : Host) (view : FieldView) (text : Text) : Prop :=
  (∀ bytes, view.as host .bytes = .ok (.bytes bytes) ↔ HexBytea text bytes) ∧
    ((∀ bytes, ¬HexBytea text bytes) → ∃ message, view.as host .bytes = .error (.runtime message))

/-- The characters at even positions, with the ones behind them. -/
def pairs : Text → List (Char × Option Char)
  | [] => []
  | [first] => [(first, none)]
  | first :: second :: rest => (first, some second) :: pairs rest

/-- Behind `\x`, some pair starts with no digit, or every pair has a second digit. -/
def Paired (text : Text) : Prop :=
  ∀ digits, text = '\\' :: 'x' :: digits →
    (∃ pair ∈ pairs digits, hexValue pair.1 = none) ∨
      ∀ pair ∈ pairs digits, (pair.2.bind hexValue).isSome

/-! ## The loop -/

section Loop

variable {digits : Text} {bytes : Bytes}

/-- The NUL character behind a value is no digit. -/
abbrev nul : Except ViewError Char := .ok (charOf 0)

theorem decodeHexPairs_of_hexDigits (read : HexDigits digits bytes) :
    decodeHexPairs nul digits = .ok bytes ∧
      ∀ pair ∈ pairs digits, (hexValue pair.1).isSome ∧ (pair.2.bind hexValue).isSome := by
  induction read with
  | nil => exact ⟨rfl, by simp [pairs]⟩
  | cons upper lower rest ih =>
    refine ⟨?_, ?_⟩
    · simp only [decodeHexPairs, fromHex, upper, lower, ih.1]
      rfl
    · rw [pairs, forall_mem_cons]
      exact ⟨by simp [upper, lower], ih.2⟩

theorem exists_hexDigits
    (paired : ∀ pair ∈ pairs digits, (hexValue pair.1).isSome ∧ (pair.2.bind hexValue).isSome) :
    ∃ bytes, HexDigits digits bytes := by
  fun_induction pairs digits with
  | case1 => exact ⟨[], .nil⟩
  | case2 first => simp at paired
  | case3 first second rest ih =>
    rw [forall_mem_cons] at paired
    obtain ⟨high, upper⟩ := Option.isSome_iff_exists.mp paired.1.1
    obtain ⟨low, lower⟩ := Option.isSome_iff_exists.mp paired.1.2
    obtain ⟨bytes, read⟩ := ih paired.2
    exact ⟨_, .cons upper lower read⟩

/-- The second character of a pair is passed over when it is no digit. -/
theorem fromHex_isSome {first : Char} (digit : (hexValue first).isSome) (second : Char) :
    ∃ byte, fromHex first second = some byte := by
  obtain ⟨high, value⟩ := Option.isSome_iff_exists.mp digit
  rw [fromHex, value]
  cases hexValue second with
  | none => exact ⟨_, rfl⟩
  | some low => exact ⟨_, rfl⟩

theorem decodeHexPairs_ok (first : ∀ pair ∈ pairs digits, (hexValue pair.1).isSome) :
    ∃ bytes, decodeHexPairs nul digits = .ok bytes := by
  fun_induction pairs digits with
  | case1 => exact ⟨[], rfl⟩
  | case2 last =>
    have digit := first _ mem_cons_self
    obtain ⟨byte, read⟩ := fromHex_isSome digit (charOf 0)
    refine ⟨[byte], ?_⟩
    simp only [decodeHexPairs, Option.isNone_eq_false_iff.mpr digit, Bool.false_eq_true,
      if_false, bind, Except.bind, pure, Except.pure, read]
  | case3 high low rest ih =>
    rw [forall_mem_cons] at first
    obtain ⟨byte, read⟩ := fromHex_isSome first.1 low
    obtain ⟨bytes, more⟩ := ih first.2
    refine ⟨byte :: bytes, ?_⟩
    rw [decodeHexPairs, read]
    simp only [more]
    rfl

theorem decodeHexPairs_error (wrong : ∃ pair ∈ pairs digits, hexValue pair.1 = none) :
    decodeHexPairs nul digits = .error (.runtime "Invalid hex in bytea".toList) := by
  fun_induction pairs digits with
  | case1 => simp at wrong
  | case2 last =>
    obtain ⟨pair, member, none⟩ := wrong
    rw [mem_singleton.mp member] at none
    simp only [decodeHexPairs, none, Option.isNone_none, if_true]
    rfl
  | case3 high low rest ih =>
    rw [decodeHexPairs]
    cases digit : hexValue high with
    | none =>
      simp only [fromHex, digit]
      rfl
    | some value =>
      rw [exists_mem_cons_iff] at wrong
      have later := wrong.resolve_left (by simp [digit])
      obtain ⟨byte, read⟩ := fromHex_isSome (by rw [digit]; rfl : (hexValue high).isSome) low
      simp only [read, ih later]
      rfl

end Loop

/-! ## The column -/

section Column

variable (host : Host) {content : Bytes} (memory : Bytes) (oid : Nat)

theorem as_textView : (textView content memory oid).as host .bytes =
    .bytes <$> (textView content memory oid).decodeHexBytea := rfl

theorem asSv_textView : (textView content memory oid).asSv = .ok (content.map charOf) := by
  simp [FieldView.asSv, FieldView.read, textView]

theorem as_textView_hex {digits : Text} (hex : content.map charOf = '\\' :: 'x' :: digits) :
    (textView content memory oid).as host .bytes =
      .bytes <$> decodeHexPairs nul digits := by
  have behind : (textView content memory oid).behind = nul := by
    simp [behind, textView]
  rw [as_textView, decodeHexBytea, asSv_textView, behind, hex]
  rfl

theorem as_textView_other (other : ∀ digits, content.map charOf ≠ '\\' :: 'x' :: digits) :
    (textView content memory oid).as host .bytes =
      .error (.runtime "Unsupported bytea format".toList) := by
  rw [as_textView, decodeHexBytea, asSv_textView]
  simp only [bind, Except.bind]
  rfl

theorem as_textView_hexBytea {bytes : Bytes} (hex : HexBytea (content.map charOf) bytes) :
    (textView content memory oid).as host .bytes = .ok (.bytes bytes) := by
  generalize same : content.map charOf = text at hex
  cases hex with
  | mk read =>
    rw [as_textView_hex host memory oid same, (decodeHexPairs_of_hexDigits read).1]
    rfl

theorem readsBytea_of_or (only : (∃ bytes, HexBytea (content.map charOf) bytes) ∨
    ∃ message, (textView content memory oid).as host .bytes = .error (.runtime message)) :
    ReadsBytea host (textView content memory oid) (content.map charOf) := by
  rcases only with ⟨bytes, hex⟩ | ⟨message, threw⟩
  · refine ⟨fun other => ⟨fun read => ?_, as_textView_hexBytea host memory oid⟩,
      fun none => absurd hex (none bytes)⟩
    rw [as_textView_hexBytea host memory oid hex] at read
    cases read
    exact hex
  · refine ⟨fun other => ⟨fun read => ?_, as_textView_hexBytea host memory oid⟩,
      fun _ => ⟨message, threw⟩⟩
    rw [threw] at read
    cases read

theorem readsBytea_iff_paired : ReadsBytea host (textView content memory oid)
    (content.map charOf) ↔ Paired (content.map charOf) := by
  constructor
  · rintro ⟨reads, -⟩ digits hex
    by_contra unpaired
    rw [not_or, not_exists] at unpaired
    have first : ∀ pair ∈ pairs digits, (hexValue pair.1).isSome := by
      intro pair member
      rw [Option.isSome_iff_ne_none]
      exact fun none => unpaired.1 pair ⟨member, none⟩
    obtain ⟨bytes, decoded⟩ := decodeHexPairs_ok first
    have hexText : HexBytea (content.map charOf) bytes := by
      rw [← reads, as_textView_hex host memory oid hex, decoded]
      rfl
    rw [hex] at hexText
    cases hexText with
    | mk read =>
      exact unpaired.2 (fun pair member => ((decodeHexPairs_of_hexDigits read).2 pair member).2)
  · intro paired
    refine readsBytea_of_or host memory oid ?_
    by_cases hex : ∃ digits, content.map charOf = '\\' :: 'x' :: digits
    · obtain ⟨digits, hex⟩ := hex
      by_cases wrong : ∃ pair ∈ pairs digits, hexValue pair.1 = none
      · right
        rw [as_textView_hex host memory oid hex, decodeHexPairs_error wrong]
        exact ⟨_, rfl⟩
      · left
        have second := (paired digits hex).resolve_left wrong
        have both : ∀ pair ∈ pairs digits,
            (hexValue pair.1).isSome ∧ (pair.2.bind hexValue).isSome := by
          intro pair member
          refine ⟨?_, second pair member⟩
          rw [Option.isSome_iff_ne_none]
          exact fun none => wrong ⟨pair, member, none⟩
        obtain ⟨bytes, read⟩ := exists_hexDigits both
        rw [hex]
        exact ⟨bytes, .mk read⟩
    · right
      exact ⟨_, as_textView_other host memory oid (not_exists.mp hex)⟩

theorem hexText_lt {data : Bytes} : ∀ c ∈ "\\x".toList ++ hexText data, c.toNat < 256 := by
  have digits : ∀ n < 16, (PostgresDialect.hexChars.getD n '0').toNat < 256 := by decide +kernel
  intro c member
  rcases mem_append.mp member with start | member
  · have ascii : c = '\\' ∨ c = 'x' := mem_pair.mp start
    rcases ascii with rfl | rfl
    · decide
    · decide
  · obtain ⟨byte, -, digit⟩ := mem_flatMap.mp member
    have bound : byte.toNat < 256 := byte.toNat_lt
    simp only [PostgresDialect.formatByte, mem_cons, not_mem_nil, or_false] at digit
    rcases digit with rfl | rfl
    · exact digits _ (by omega)
    · exact digits _ (by omega)

end Column

/-- A column in text format is read as the bytes of its hexadecimal text, and throws for any other,
exactly when its text is paired; and it gives back what `format_binary_data` wrote. -/
theorem text_bytea_iff (host : Host) (memory : Bytes) (oid : Nat) :
    (∀ content, ReadsBytea host (textView content memory oid) (content.map charOf) ↔
      Paired (content.map charOf)) ∧
    ∀ data, (textView (("\\x".toList ++ hexText data).map byteOf) memory oid).as host .bytes =
      .ok (.bytes data) := by
  refine ⟨fun content => readsBytea_iff_paired host memory oid, fun data => ?_⟩
  apply as_textView_hexBytea
  rw [map_charOf_byteOf hexText_lt]
  exact .mk (hexDigits_hexText data)

/-- `\x1g` and `\x1` are both read as the byte 1. -/
theorem text_bytea_wrong :
    (textView ("\\x1g".toList.map byteOf) [] oidBytea).as .little .bytes = .ok (.bytes [1]) ∧
    (textView ("\\x1".toList.map byteOf) [] oidBytea).as .little .bytes = .ok (.bytes [1]) ∧
    ¬ReadsBytea .little (textView ("\\x1g".toList.map byteOf) [] oidBytea) "\\x1g".toList := by
  have read : (textView ("\\x1g".toList.map byteOf) [] oidBytea).as .little .bytes =
      .ok (.bytes [1]) := by decide
  refine ⟨read, by decide, ?_⟩
  rintro ⟨reads, -⟩
  cases (reads [1]).mp read with
  | mk digits =>
    have second := (decodeHexPairs_of_hexDigits digits).2 ('1', some 'g') mem_cons_self
    exact absurd second.2 (by decide)

end Menagerie.Elephant
