import Menagerie.Elephant.FieldView
import Mathlib.Algebra.Order.Field.Power
import Mathlib.Tactic.Positivity

/-!
# Integers of a result column

When `as<T>()` gives the number that a column holds, for a column with a binary integer or with a
decimal literal and for the integer types. A binary integer of a type that the decoder does not look
for is read as text, and the text is read up to the first character that is no digit.
-/

namespace Menagerie.Elephant

open Beaver Savanna ByteOrder OidTypeRegistry FieldView List

/-- The integer types of `as<T>()`. -/
inductive IntegerType
  | int16 | int32 | int64 | uint16 | uint32 | uint64
  deriving DecidableEq, Repr

namespace IntegerType

def alternative : IntegerType → Alternative
  | .int16 => .int16
  | .int32 => .int32
  | .int64 => .int64
  | .uint16 => .uint16
  | .uint32 => .uint32
  | .uint64 => .uint64

/-- The least value. -/
def low : IntegerType → Int
  | .int16 => -2 ^ 15
  | .int32 => -2 ^ 31
  | .int64 => -2 ^ 63
  | .uint16 | .uint32 | .uint64 => 0

/-- The greatest value. -/
def high : IntegerType → Int
  | .int16 => 2 ^ 15 - 1
  | .int32 => 2 ^ 31 - 1
  | .int64 => 2 ^ 63 - 1
  | .uint16 => 2 ^ 16 - 1
  | .uint32 => 2 ^ 32 - 1
  | .uint64 => 2 ^ 64 - 1

/-- The column types that are read in binary format. -/
def oids : IntegerType → List Nat
  | .int16 => [oidInt2]
  | .int32 => [oidInt4]
  | .int64 => [oidInt8]
  | .uint16 => [oidInt4, oidInt2]
  | .uint32 => [oidInt8, oidInt4]
  | .uint64 => [oidInt8]

def ofInt (number : Int) : IntegerType → FieldValue
  | .int16 => .int16 (.ofInt number)
  | .int32 => .int32 (.ofInt number)
  | .int64 => .int64 (.ofInt number)
  | .uint16 => .uint16 (.ofInt number)
  | .uint32 => .uint32 (.ofInt number)
  | .uint64 => .uint64 (.ofInt number)

/-- The value that the bits of a binary integer are cast to. -/
def ofBits (bits : Nat) : IntegerType → FieldValue
  | .int16 => .int16 (UInt16.ofNat bits).toInt16
  | .int32 => .int32 (UInt32.ofNat bits).toInt32
  | .int64 => .int64 (UInt64.ofNat bits).toInt64
  | .uint16 => .uint16 (.ofNat bits)
  | .uint32 => .uint32 (.ofNat bits)
  | .uint64 => .uint64 (.ofNat bits)

end IntegerType

def number : FieldValue → Option Int
  | .int16 i => some i.toInt
  | .int32 i => some i.toInt
  | .int64 i => some i.toInt
  | .uint16 n => some n.toNat
  | .uint32 n => some n.toNat
  | .uint64 n => some n.toNat
  | .monostate | .bool _ | .char _ | .float _ | .double _ | .string _ | .stringView _ | .bytes _
  | .span _ => none

/-- A string of decimal digits. -/
structure Digits where
  chars : Text
  digits : ∀ c ∈ chars, c.isDigit = true

/-- The number that digits stand for. -/
def Digits.value (digits : Digits) : Nat := Nat.ofDigitChars 10 digits.chars 0

/-- The sign of a literal. -/
inductive Sign
  | plus | minus
  deriving DecidableEq, Repr

def Sign.text : Option Sign → Text
  | none => []
  | some .plus => ['+']
  | some .minus => ['-']

/-- A number with a sign. -/
def Sign.apply (sign : Option Sign) (magnitude : ℚ) : ℚ :=
  if sign = some .minus then -magnitude else magnitude

/-- The exponent of a literal. -/
structure Exponent where
  capital : Bool
  sign : Option Sign
  digits : Digits

/-- An integer or numeric literal in text format. -/
structure Literal where
  sign : Option Sign
  whole : Digits
  fraction : Option Digits
  exponent : Option Exponent

namespace Literal

/-- The digits after the point. -/
def fractionText (literal : Literal) : Text :=
  match literal.fraction with
  | none => []
  | some digits => '.' :: digits.chars

def exponentText (literal : Literal) : Text :=
  match literal.exponent with
  | none => []
  | some exponent =>
    (if exponent.capital then 'E' else 'e') :: (Sign.text exponent.sign ++ exponent.digits.chars)

/-- What PostgreSQL sends. -/
def text (literal : Literal) : Text :=
  Sign.text literal.sign ++ (literal.whole.chars ++ (literal.fractionText ++ literal.exponentText))

/-- The digits after the point, in units of the last one. -/
def fractionValue (literal : Literal) : Nat :=
  match literal.fraction with
  | none => 0
  | some digits => digits.value

def fractionLength (literal : Literal) : Nat :=
  match literal.fraction with
  | none => 0
  | some digits => digits.chars.length

/-- The power of ten. -/
def exponentValue (literal : Literal) : Int :=
  match literal.exponent with
  | none => 0
  | some exponent =>
    if exponent.sign = some .minus then -(exponent.digits.value : Int) else exponent.digits.value

/-- The number that the literal stands for. -/
def value (literal : Literal) : ℚ :=
  Sign.apply literal.sign
    ((literal.whole.value + literal.fractionValue / 10 ^ literal.fractionLength) *
      10 ^ literal.exponentValue)

/-- The digits before the point, with the sign. -/
def prefixValue (literal : Literal) : Int :=
  if literal.sign = some .minus then -(literal.whole.value : Int) else literal.whole.value

/-- `from_chars` takes no plus, and no sign if unsigned. -/
def Readable (literal : Literal) (low : Int) : Prop :=
  literal.whole.chars ≠ [] ∧ literal.sign ≠ some .plus ∧ (literal.sign = some .minus → low < 0)

instance (literal : Literal) (low : Int) : Decidable (literal.Readable low) :=
  inferInstanceAs (Decidable (_ ∧ _ ∧ _))

/-- Nothing but the digits before the point counts. -/
def Plain (literal : Literal) : Prop :=
  literal.fractionValue = 0 ∧ (literal.whole.value = 0 ∨ literal.exponentValue = 0)

end Literal

/-- A result column that is not null. -/
inductive Column
  | int2 (value : Int16)
  | int4 (value : Int32)
  | int8 (value : Int64)
  | text (oid : Nat) (literal : Literal)

namespace Column

/-- The number that a column holds. -/
def value : Column → ℚ
  | .int2 v => v.toInt
  | .int4 v => v.toInt
  | .int8 v => v.toInt
  | .text _ literal => literal.value

/-- What PostgreSQL sends, in network order if binary. -/
def bytes : Column → Bytes
  | .int2 v => bigEndian 2 v.toUInt16.toNat
  | .int4 v => bigEndian 4 v.toUInt32.toNat
  | .int8 v => bigEndian 8 v.toUInt64.toNat
  | .text _ literal => literal.text.map byteOf

def format : Column → FormatRegistry
  | .int2 _ | .int4 _ | .int8 _ => .binary
  | .text _ _ => .text

def oid : Column → Nat
  | .int2 _ => oidInt2
  | .int4 _ => oidInt4
  | .int8 _ => oidInt8
  | .text oid _ => oid

/-- The view of a column; the memory behind it is arbitrary. -/
def view (column : Column) (rest : Bytes) : FieldView :=
  ⟨some (column.bytes ++ rest), column.bytes.length, false, column.format, column.oid⟩

/-- The decoder throws, or gives the number of the column. -/
def Reads (column : Column) (result : Except ViewError FieldValue) : Prop :=
  (∃ message, result = .error (.runtime message)) ∨
    ∃ decoded n, result = .ok decoded ∧ number decoded = some n ∧ (n : ℚ) = column.value

/-- What is copied is in the range of the type, what is taken for text does not start with a number
of the type, and nothing that counts follows the point of a literal. -/
def Safe (column : Column) (type : IntegerType) : Prop :=
  match column with
  | .int2 v => Copied oidInt2 v.toInt
  | .int4 v => Copied oidInt4 v.toInt
  | .int8 v => Copied oidInt8 v.toInt
  | .text _ literal => literal.Readable type.low → type.low ≤ literal.prefixValue →
      literal.prefixValue ≤ type.high → literal.Plain
where
  Copied (oid : Nat) (v : Int) : Prop :=
    if oid ∈ type.oids then type.low ≤ v ∧ v ≤ type.high
    else fromChars type.low type.high (column.bytes.map charOf) = none

end Column

theorem toNat_of_isDigit {c : Char} (digit : c.isDigit = true) : 48 ≤ c.toNat ∧ c.toNat ≤ 57 := by
  simp only [Char.isDigit, Bool.and_eq_true, decide_eq_true_eq] at digit
  exact digit

theorem ofDigitChars_lt {chars : Text} (digits : ∀ c ∈ chars, c.isDigit = true) (start : Nat) :
    Nat.ofDigitChars 10 chars start < (start + 1) * 10 ^ chars.length := by
  induction chars generalizing start with
  | nil => simp
  | cons c rest ih =>
    have small : c.toNat - '0'.toNat ≤ 9 := by
      have code := toNat_of_isDigit (digits c mem_cons_self)
      have zero : '0'.toNat = 48 := rfl
      omega
    have bound := ih (fun other member => digits other (mem_cons_of_mem _ member))
      (10 * start + (c.toNat - '0'.toNat))
    rw [Nat.ofDigitChars_cons, length_cons, Nat.pow_succ']
    refine bound.trans_le ?_
    rw [← Nat.mul_assoc]
    exact Nat.mul_le_mul_right _ (by omega)

theorem Digits.value_lt (digits : Digits) : digits.value < 10 ^ digits.chars.length := by
  have bound := ofDigitChars_lt digits.digits 0
  rwa [Nat.zero_add, Nat.one_mul] at bound

/-- `width` digits after the point and a power of ten change a whole number unless both are zero. -/
theorem scaled_eq_iff {whole part width : Nat} (small : part < 10 ^ width) (exponent : Int) :
    (whole : ℚ) = (whole + part / 10 ^ width) * 10 ^ exponent ↔
      part = 0 ∧ (whole = 0 ∨ exponent = 0) := by
  have power : (0 : ℚ) < 10 ^ width := by positivity
  have scale : (0 : ℚ) < 10 ^ exponent := by positivity
  have part_lt : (part : ℚ) / 10 ^ width < 1 := by
    rw [div_lt_one power]
    exact_mod_cast small
  have part_nonneg : (0 : ℚ) ≤ part / 10 ^ width := by positivity
  have part_zero : (part : ℚ) / 10 ^ width = 0 → part = 0 := fun zero => by
    rcases div_eq_zero_iff.mp zero with zero | zero
    · exact_mod_cast zero
    · exact absurd zero power.ne'
  constructor
  · intro same
    rcases Nat.eq_zero_or_pos whole with rfl | positive
    · rw [Nat.cast_zero, zero_add] at same
      have zero := (mul_eq_zero.mp same.symm).resolve_right scale.ne'
      exact ⟨part_zero zero, .inl rfl⟩
    · have one : (1 : ℚ) ≤ whole := by exact_mod_cast positive
      rcases lt_trichotomy exponent 0 with negative | rfl | positive
      · have shrinks : (10 : ℚ) ^ exponent ≤ 10 ^ (-1 : Int) :=
          zpow_le_zpow_right₀ (by norm_num) (by omega)
        rw [zpow_neg_one] at shrinks
        nlinarith
      · rw [zpow_zero, mul_one] at same
        exact ⟨part_zero (by linarith), .inr rfl⟩
      · have grows : (10 : ℚ) ^ (1 : Int) ≤ 10 ^ exponent :=
          zpow_le_zpow_right₀ (by norm_num) (by omega)
        rw [zpow_one] at grows
        nlinarith
  · rintro ⟨rfl, rfl | rfl⟩ <;> simp

theorem fromChars_range {low high scanned : Int} {text : Text}
    (found : fromChars low high text = some scanned) : low ≤ scanned ∧ scanned ≤ high := by
  simp only [fromChars, Option.ite_none_left_eq_some, Option.ite_none_right_eq_some,
    Option.some.injEq] at found
  rw [← found.2.2]
  exact found.2.1

theorem fromChars_unsigned {text digits : Text} (low high : Int)
    (head : (text.head? == some '-') = false) (scan : text.takeWhile Char.isDigit = digits) :
    fromChars low high text =
      if digits ≠ [] ∧ low ≤ Nat.ofDigitChars 10 digits 0 ∧ Nat.ofDigitChars 10 digits 0 ≤ high
        then some (Nat.ofDigitChars 10 digits 0 : Int) else none := by
  have plain : (decide (low < 0) && text.head? == some '-') = false := by rw [head, Bool.and_false]
  rw [fromChars, plain, if_neg Bool.false_ne_true, if_neg Bool.false_ne_true, scan]
  cases digits with
  | nil => simp
  | cons c rest => simp

theorem fromChars_minus {text digits : Text} (low high : Int)
    (scan : text.takeWhile Char.isDigit = digits) :
    fromChars low high ('-' :: text) =
      if low < 0 ∧ digits ≠ [] ∧ low ≤ -(Nat.ofDigitChars 10 digits 0 : Int) ∧
          -(Nat.ofDigitChars 10 digits 0 : Int) ≤ high
        then some (-(Nat.ofDigitChars 10 digits 0 : Int)) else none := by
  rw [fromChars]
  by_cases signed : low < 0
  · have minus : (decide (low < 0) && ('-' :: text).head? == some '-') = true := by simp [signed]
    rw [minus, if_pos rfl, if_pos rfl, tail_cons, scan]
    cases digits with
    | nil => simp
    | cons c rest => simp [signed]
  · simp [signed]

theorem Digits.native (digits : Digits) : ∀ c ∈ digits.chars, c.toNat < 256 := by
  intro c member
  have code := toNat_of_isDigit (digits.digits c member)
  omega

theorem Sign.native (sign : Option Sign) : ∀ c ∈ Sign.text sign, c.toNat < 256 := by
  rcases sign with _ | _ | _ <;> simp [Sign.text]

namespace Literal

variable (literal : Literal)

/-- The characters of a literal take one byte each. -/
theorem native : ∀ c ∈ literal.text, c.toNat < 256 := by
  have fraction : ∀ c ∈ literal.fractionText, c.toNat < 256 := by
    unfold fractionText
    split
    · simp
    · exact forall_mem_cons.mpr ⟨by decide, Digits.native _⟩
  have exponent : ∀ c ∈ literal.exponentText, c.toNat < 256 := by
    unfold exponentText
    split
    · simp
    · refine forall_mem_cons.mpr ⟨by split <;> decide, ?_⟩
      exact forall_mem_append.mpr ⟨Sign.native _, Digits.native _⟩
  simp only [text, forall_mem_append]
  exact ⟨Sign.native _, literal.whole.native, fraction, exponent⟩

theorem fractionValue_lt : literal.fractionValue < 10 ^ literal.fractionLength := by
  unfold fractionValue fractionLength
  cases literal.fraction with
  | none => exact Nat.one_pos
  | some digits => exact digits.value_lt

/-- The digits before the point are the number exactly when nothing else counts. -/
theorem prefixValue_eq_value_iff : (literal.prefixValue : ℚ) = literal.value ↔ literal.Plain := by
  have whole := @scaled_eq_iff literal.whole.value _ _ literal.fractionValue_lt
    literal.exponentValue
  rw [Plain, ← whole, prefixValue, value, Sign.apply]
  split
  · rw [Int.cast_neg, neg_inj, Int.cast_natCast]
  · rw [Int.cast_natCast]

/-- Behind the digits before the point comes neither a digit nor a sign. -/
theorem rest_head {c : Char}
    (head : (literal.fractionText ++ literal.exponentText).head? = some c) :
    c.isDigit = false ∧ c ≠ '-' := by
  have known : c ∈ ['.', 'E', 'e'] := by
    unfold fractionText exponentText at head
    cases literal.fraction <;> cases literal.exponent <;> grind
  have apart : ∀ c ∈ ['.', 'E', 'e'], c.isDigit = false ∧ c ≠ '-' := by simp
  exact apart c known

theorem takeWhile_rest :
    (literal.fractionText ++ literal.exponentText).takeWhile Char.isDigit = [] := by
  have head := @literal.rest_head
  cases rest : literal.fractionText ++ literal.exponentText with
  | nil => rfl
  | cons c tail =>
    rw [rest] at head
    simp [head rfl]

theorem head_unsigned :
    ((literal.whole.chars ++ (literal.fractionText ++ literal.exponentText)).head? ==
      some '-') = false := by
  cases whole : literal.whole.chars with
  | cons c rest =>
    have isDigit := literal.whole.digits c (by simp [whole])
    have differs : c ≠ '-' := fun same => by
      rw [same] at isDigit
      cases isDigit
    simpa using differs
  | nil =>
    rw [nil_append, beq_eq_false_iff_ne]
    exact fun head => (literal.rest_head head).2 rfl

theorem fromChars_text (low high : Int) :
    fromChars low high literal.text =
      if literal.Readable low ∧ low ≤ literal.prefixValue ∧ literal.prefixValue ≤ high
        then some literal.prefixValue else none := by
  have digits : (literal.whole.chars ++ (literal.fractionText ++ literal.exponentText)).takeWhile
      Char.isDigit = literal.whole.chars := by
    rw [takeWhile_append_of_pos literal.whole.digits, takeWhile_rest, append_nil]
  have head := literal.head_unsigned
  rw [Literal.text]
  match sign : literal.sign with
  | none =>
    rw [Sign.text, nil_append, fromChars_unsigned low high head digits]
    simp [Readable, prefixValue, sign, Digits.value]
  | some .plus =>
    rw [Sign.text, fromChars_unsigned low high rfl rfl]
    simp [Readable, sign]
  | some .minus =>
    rw [Sign.text, singleton_append, fromChars_minus low high digits]
    have whole : literal.prefixValue = -(Nat.ofDigitChars 10 literal.whole.chars 0 : Int) := by
      simp [prefixValue, sign, Digits.value]
    rw [whole]
    refine if_congr ?_ rfl rfl
    simp only [Readable, sign]
    simp
    tauto

end Literal

theorem toNat_charOf (byte : UInt8) : (charOf byte).toNat = byte.toNat := by
  have small : byte.toNat < 256 := byte.toNat_lt
  have valid : byte.toNat.isValidChar := .inl (by omega)
  rw [charOf, Char.ofNat, dif_pos valid]
  rfl

/-- Bytes that `from_chars` takes for a number are those of a much larger one. -/
theorem fromChars_bigEndian {width value : Nat} {low high scanned : Int}
    (fits : value < 256 ^ (width + 1)) (wide : 10 ^ (width + 1) ≤ 45 * 256 ^ width)
    (found : fromChars low high ((bigEndian (width + 1) value).map charOf) = some scanned) :
    scanned < value ∧ value < 58 * 256 ^ width := by
  have positive : 0 < 256 ^ width := Nat.two_pow_pos 8 |> fun h => Nat.pow_pos h
  have lead : value / 256 ^ width < 256 := by
    rw [Nat.div_lt_iff_lt_mul positive, ← Nat.pow_succ']
    exact fits
  have split := Nat.div_add_mod value (256 ^ width)
  have remainder := Nat.mod_lt value positive
  have first : (charOf (UInt8.ofNat (value / 256 ^ width))).toNat = value / 256 ^ width := by
    rw [toNat_charOf]
    simp [Nat.mod_eq_of_lt lead]
  rw [bigEndian_succ, map_cons, Nat.mod_eq_of_lt lead] at found
  generalize charOf (UInt8.ofNat (value / 256 ^ width)) = c at found first
  by_cases minus : c = '-'
  · rw [minus, fromChars_minus low high rfl] at found
    have code : value / 256 ^ width = 45 := by rw [← first, minus]; rfl
    rw [code] at split
    split at found <;> cases found
    constructor <;> omega
  · obtain ⟨digits, scan⟩ : ∃ digits,
        (c :: (bigEndian width value).map charOf).takeWhile Char.isDigit = digits := ⟨_, rfl⟩
    have isDigits : ∀ d ∈ digits, d.isDigit = true := fun d member => by
      rw [← scan] at member
      exact mem_takeWhile_imp member
    have short : digits.length ≤ width + 1 := by
      have shorter := (takeWhile_sublist Char.isDigit).length_le.trans_eq' (by rw [scan])
      simpa using shorter
    have bound := ofDigitChars_lt isDigits 0
    have power : 10 ^ digits.length ≤ 10 ^ (width + 1) := Nat.pow_le_pow_right (by omega) short
    rw [fromChars_unsigned low high (by simpa using minus) scan] at found
    split at found
    case isTrue inRange =>
      have same := Option.some.inj found
      have isDigit : c.isDigit = true := by
        by_contra other
        exact inRange.1 (scan ▸ takeWhile_cons_of_neg other)
      have code := toNat_of_isDigit isDigit
      rw [first] at code
      have low : 48 * 256 ^ width ≤ 256 ^ width * (value / 256 ^ width) := by
        rw [Nat.mul_comm]
        exact Nat.mul_le_mul_left _ code.1
      have high : 256 ^ width * (value / 256 ^ width) ≤ 57 * 256 ^ width := by
        rw [Nat.mul_comm 57]
        exact Nat.mul_le_mul_left _ code.2
      constructor <;> omega
    case isFalse => cases found

section Decoders

variable {host : Host} {view : FieldView} {type : IntegerType}

theorem number_ofInt {value : Int} (low : type.low ≤ value) (high : value ≤ type.high) :
    number (type.ofInt value) = some value := by
  cases type <;> simp only [IntegerType.low, IntegerType.high] at low high <;>
    simp only [IntegerType.ofInt, number, Option.some.injEq]
  · exact Int16.toInt_ofInt_of_le low (by omega)
  · exact Int32.toInt_ofInt_of_le low (by omega)
  · exact Int64.toInt_ofInt_of_le low (by omega)
  · simp [UInt16.ofInt]; omega
  · simp [UInt32.ofInt]; omega
  · simp [UInt64.ofInt]; omega

theorem as_text (present : view.isNull = false)
    (other : ∀ oid ∈ type.oids, view.isBinary oid = false) :
    view.as host type.alternative =
      type.ofInt <$> view.decodeIntegerText type.low type.high := by
  cases type <;> simp only [IntegerType.oids, forall_mem_cons] at other <;>
    simp only [IntegerType.alternative, as, present, Bool.false_and, IntegerType.low,
      IntegerType.high, decodeInt16, decodeInt32, decodeInt64,
      decodeUint16, decodeUint32, decodeUint64, other] <;>
    generalize view.decodeIntegerText _ _ = decoded <;> cases decoded <;> rfl

theorem decodeIntegerText_view (column : Column) (rest : Bytes) (low high : Int) :
    (column.view rest).decodeIntegerText low high =
      match fromChars low high (column.bytes.map charOf) with
      | some value => .ok value
      | none => .error (.runtime
          ("Failed to parse integer from: ".toList ++ column.bytes.map charOf)) := by
  have text : (column.view rest).asSv = .ok (column.bytes.map charOf) := by
    simp [FieldView.asSv, FieldView.read, Column.view]
  simp only [decodeIntegerText, text, bind, Except.bind]
  cases fromChars low high (column.bytes.map charOf) <;> rfl

theorem readNetwork_view (host : Host) {column : Column} {width value : Nat}
    (sent : column.bytes = bigEndian width value) (fits : value < 256 ^ width) (rest : Bytes) :
    (column.view rest).readNetwork host width = .ok value := by
  have received := network_load_bigEndian host width value
  rw [Nat.mod_eq_of_lt fits] at received
  have read : (column.view rest).read width = .ok (bigEndian width value) := by
    simp [FieldView.read, Column.view, sent]
  rw [readNetwork, read]
  exact congrArg Except.ok received

/-- The size of a binary integer. -/
def widthOf (oid : Nat) : Nat := if oid = oidInt8 then 8 else if oid = oidInt4 then 4 else 2

theorem widthOf_int2 : widthOf oidInt2 = 2 := rfl

theorem widthOf_int4 : widthOf oidInt4 = 4 := rfl

theorem widthOf_int8 : widthOf oidInt8 = 8 := rfl

/-- A column of a type that the decoder looks for is copied. -/
theorem as_binary {bits : Nat} (present : view.isNull = false) (binary : view.format = .binary)
    (known : view.oid ∈ type.oids) (read : view.readNetwork host (widthOf view.oid) = .ok bits) :
    view.as host type.alternative = .ok (type.ofBits bits) := by
  obtain ⟨memory, len, isNull, format, oid⟩ := view
  simp only at present binary known read
  subst present binary
  cases type <;> simp only [IntegerType.oids, mem_cons, not_mem_nil, or_false] at known
  case uint16 | uint32 =>
    rcases known with rfl | rfl
    all_goals
      simp only [widthOf_int2, widthOf_int4, widthOf_int8] at read
      simp only [as, IntegerType.alternative, decodeUint16,
        decodeUint32, read]
      rfl
  all_goals
    subst known
    simp only [widthOf_int2, widthOf_int4, widthOf_int8] at read
    simp only [as, IntegerType.alternative, decodeInt16, decodeInt32,
      decodeInt64, decodeUint64, read]
    rfl

theorem bmod_emod_of_fits {v : Int} {width : Nat} (low : -2 ^ (width + 1 - 1) ≤ v)
    (high : v < 2 ^ (width + 1 - 1)) : (v % 2 ^ (width + 1)).bmod (2 ^ (width + 1)) = v := by
  rw [Nat.add_sub_cancel] at low high
  have size : (2 : Int) ^ (width + 1) = ((2 ^ (width + 1) : Nat) : Int) := by simp
  have half : ((2 ^ (width + 1) : Nat) : Int) = 2 * 2 ^ width := by rw [← size, Int.pow_succ']
  rw [size, Int.emod_bmod]
  exact Int.bmod_eq_of_le (by omega) (by omega)

theorem number_ofBits {oid bits : Nat} {v : Int} (known : oid ∈ type.oids)
    (sent : (bits : Int) = v % 2 ^ (8 * widthOf oid)) (low : -2 ^ (8 * widthOf oid - 1) ≤ v)
    (high : v < 2 ^ (8 * widthOf oid - 1)) :
    ∃ n, number (type.ofBits bits) = some n ∧ (n = v ↔ type.low ≤ v ∧ v ≤ type.high) := by
  cases type <;> simp only [IntegerType.oids, mem_cons, not_mem_nil, or_false] at known
  case uint16 | uint32 =>
    rcases known with rfl | rfl
    all_goals
      simp only [widthOf_int2, widthOf_int4, widthOf_int8] at sent low high
      refine ⟨_, rfl, ?_⟩
      simp [IntegerType.low, IntegerType.high]
      omega
  case uint64 =>
    subst known
    simp only [widthOf_int8] at sent low high
    refine ⟨_, rfl, ?_⟩
    simp [IntegerType.low, IntegerType.high]
    omega
  case int16 | int32 | int64 =>
    subst known
    simp only [widthOf_int2, widthOf_int4, widthOf_int8] at sent low high
    refine ⟨v, ?_, by simp [IntegerType.low, IntegerType.high]; omega⟩
    simp only [IntegerType.ofBits, number, UInt16.toInt16_ofNat', Int16.toInt_ofNat',
      UInt32.toInt32_ofNat', Int32.toInt_ofNat', UInt64.toInt64_ofNat', Int64.toInt_ofNat', sent]
    exact congrArg some (bmod_emod_of_fits low high)

theorem reads_ok {column : Column} {decoded : FieldValue} {n : Int}
    (held : number decoded = some n) : column.Reads (.ok decoded) ↔ (n : ℚ) = column.value := by
  constructor
  · rintro (⟨message, thrown⟩ | ⟨other, m, same, isNumber, equal⟩)
    · cases thrown
    · cases same
      cases held.symm.trans isNumber
      exact equal
  · exact fun equal => .inr ⟨decoded, n, rfl, held, equal⟩

theorem reads_text {column : Column} {rest : Bytes}
    (other : ∀ oid ∈ type.oids, (column.view rest).isBinary oid = false) :
    column.Reads ((column.view rest).as host type.alternative) ↔
      ∀ scanned, fromChars type.low type.high (column.bytes.map charOf) = some scanned →
        (scanned : ℚ) = column.value := by
  rw [as_text rfl other, decodeIntegerText_view]
  cases found : fromChars type.low type.high (column.bytes.map charOf) with
  | none =>
    refine iff_of_true (.inl ⟨_, rfl⟩) ?_
    intro scanned same
    cases same
  | some scanned =>
    have range := fromChars_range found
    refine (reads_ok (number_ofInt range.1 range.2)).trans ?_
    simp

theorem reads_binary {column : Column} {rest : Bytes} {width bits : Nat} {v : Int}
    (binary : column.format = .binary) (size : widthOf column.oid = width + 1)
    (wide : 10 ^ (width + 1) ≤ 45 * 256 ^ width)
    (bytes : column.bytes = bigEndian (width + 1) bits) (held : column.value = v)
    (sent : (bits : Int) = v % 2 ^ (8 * (width + 1))) (low : -2 ^ (8 * (width + 1) - 1) ≤ v)
    (high : v < 2 ^ (8 * (width + 1) - 1)) :
    column.Reads ((column.view rest).as host type.alternative) ↔
      if column.oid ∈ type.oids then type.low ≤ v ∧ v ≤ type.high
      else fromChars type.low type.high (column.bytes.map charOf) = none := by
  have power : (2 : Int) ^ (8 * (width + 1)) = ((256 ^ (width + 1) : Nat) : Int) := by
    rw [Int.pow_mul]
    simp
  have half : 256 ^ (width + 1) = 2 * (128 * 256 ^ width) := by rw [Nat.pow_succ']; omega
  have half' : (2 : Int) ^ (8 * (width + 1) - 1) = ((128 * 256 ^ width : Nat) : Int) := by
    rw [show 8 * (width + 1) - 1 = 7 + 8 * width by omega, Int.pow_add, Int.pow_mul]
    simp
  have positive : 0 < 256 ^ width := Nat.pow_pos (by omega)
  have fits : bits < 256 ^ (width + 1) := by
    have bound := Int.emod_lt_of_pos v (show 0 < ((256 ^ (width + 1) : Nat) : Int) by omega)
    rw [← power, ← sent] at bound
    rw [power] at bound
    exact_mod_cast bound
  split
  case isTrue known =>
    have read := readNetwork_view host bytes fits rest
    rw [← size] at sent low high read
    obtain ⟨n, isNumber, same⟩ := @number_ofBits type _ _ _ known sent low high
    rw [as_binary rfl binary known read, reads_ok isNumber, ← same, held, Int.cast_inj]
  case isFalse unknown =>
    have other : ∀ oid ∈ type.oids, (column.view rest).isBinary oid = false := by
      intro oid known
      have differs : (column.view rest).oid ≠ oid := by
        rintro rfl
        exact unknown known
      simp [isBinary, differs]
    rw [reads_text other]
    cases found : fromChars type.low type.high (column.bytes.map charOf) with
    | none => simp
    | some scanned =>
      -- The leading byte is an ASCII digit or a minus, so the number is positive and larger.
      have larger := found
      rw [bytes] at larger
      have bound := fromChars_bigEndian fits wide larger
      have same : (bits : Int) = v := by
        rw [half'] at low high
        rw [power] at sent
        by_cases negative : v < 0
        · rw [← Int.add_emod_right, Int.emod_eq_of_lt (by omega) (by omega)] at sent
          omega
        · rw [sent, Int.emod_eq_of_lt (by omega) (by omega)]
      have differs : scanned ≠ v := by omega
      simp [held, differs]

theorem toNat_eq_toInt_emod {width : Nat} (bits : BitVec width) :
    (bits.toNat : Int) = bits.toInt % 2 ^ width := by
  have power : (2 : Int) ^ width = ((2 ^ width : Nat) : Int) := by simp
  rw [BitVec.toInt_eq_toNat_bmod, power, Int.bmod_emod]
  exact (Int.emod_eq_of_lt (Int.natCast_nonneg _) (Int.ofNat_lt.mpr bits.isLt)).symm

/-- `as<T>()` of an integer type throws or gives the number of the column, exactly for the safe
columns. -/
theorem field_view_integer_iff (host : Host) (column : Column) (rest : Bytes)
    (type : IntegerType) :
    column.Reads ((column.view rest).as host type.alternative) ↔ column.Safe type := by
  match column with
  | .int2 v =>
    have bits : (v.toUInt16.toNat : Int) = v.toInt % 2 ^ 16 := toNat_eq_toInt_emod v.toBitVec
    exact reads_binary rfl rfl (by decide) rfl rfl bits v.le_toInt v.toInt_lt
  | .int4 v =>
    have bits : (v.toUInt32.toNat : Int) = v.toInt % 2 ^ 32 := toNat_eq_toInt_emod v.toBitVec
    exact reads_binary rfl rfl (by decide) rfl rfl bits v.le_toInt v.toInt_lt
  | .int8 v =>
    have bits : (v.toUInt64.toNat : Int) = v.toInt % 2 ^ 64 := toNat_eq_toInt_emod v.toBitVec
    exact reads_binary rfl rfl (by decide) rfl rfl bits v.le_toInt v.toInt_lt
  | .text oid literal =>
    have bytes : (Column.text oid literal).bytes.map charOf = literal.text :=
      map_charOf_byteOf literal.native
    have other : ∀ known ∈ type.oids,
        ((Column.text oid literal).view rest).isBinary known = false := fun _ _ => rfl
    rw [reads_text other, bytes, literal.fromChars_text]
    have plain := literal.prefixValue_eq_value_iff
    simp only [Column.Safe, Column.value, Option.ite_none_right_eq_some, Option.some.injEq]
    constructor
    · intro reads readable low high
      exact plain.mp (reads _ ⟨⟨readable, low, high⟩, rfl⟩)
    · rintro safe scanned ⟨⟨readable, low, high⟩, rfl⟩
      exact plain.mpr (safe readable low high)

end Decoders

/-- 2³² + 5 is read as the unsigned 5, -1 as 65535, `1.5` as 1, and the integer with the bytes
`1234` as the smallint 1234. -/
theorem field_view_integer_wrong :
    ((Column.int8 4294967301).view []).as .little .uint32 = .ok (.uint32 5) ∧
    ¬ (Column.int8 4294967301).Reads (((Column.int8 4294967301).view []).as .little .uint32) ∧
    ((Column.int4 (-1)).view []).as .little .uint16 = .ok (.uint16 65535) ∧
    ((Column.int4 825373492).view []).as .little .int16 = .ok (.int16 1234) ∧
    ((Column.text 1700 ⟨none, ⟨['1'], List.forall_mem_singleton.mpr rfl⟩,
      some ⟨['5'], List.forall_mem_singleton.mpr rfl⟩, none⟩).view []).as .little .int32 =
        .ok (.int32 1) := by
  have read : ((Column.int8 4294967301).view []).as .little .uint32 = .ok (.uint32 5) := by decide
  refine ⟨read, ?_, by decide, by decide, by decide⟩
  have five : number (.uint32 5) = some 5 := rfl
  have value : (Column.int8 4294967301).value = 4294967301 := rfl
  rw [read, reads_ok five, value]
  norm_num

end Menagerie.Elephant
