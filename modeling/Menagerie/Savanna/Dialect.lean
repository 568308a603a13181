import Menagerie.Library.ShortestDecimal
import Menagerie.Savanna.Expression

/-!
# The PostgreSQL dialect

`PostgresDialect` appends to the query text; each of its functions is the text that it appends. How
a floating point value is written depends on whether the call is part of a constant evaluation.
-/

namespace Menagerie.Savanna

open Beaver ShortestDecimal List
open Float.Model (UnpackedFloat)

/-- The exceptions, and the failure of a constant evaluation. -/
inductive Failure
  | outOfRange
  | notConstant
  deriving DecidableEq

/-- `if consteval`: whether the call is constant evaluated. -/
inductive Evaluation
  | constant | runtime
  deriving DecidableEq

/-- Digits, perhaps a fraction and an exponent with a sign. -/
structure IsDecimal (text : Text) : Prop where
  split : ∃ whole fraction power, text = whole ++ fraction ++ power ∧
    whole ≠ [] ∧ (∀ c ∈ whole, c.isDigit) ∧
    (fraction = [] ∨ ∃ ds, ds ≠ [] ∧ (∀ c ∈ ds, c.isDigit) ∧ fraction = '.' :: ds) ∧
    (power = [] ∨ ∃ sign ds, (sign = '+' ∨ sign = '-') ∧ ds ≠ [] ∧ (∀ c ∈ ds, c.isDigit) ∧
      power = 'e' :: sign :: ds)

/-- The name of a value that is not finite. -/
structure IsWord (text : Text) : Prop where
  ne_nil : text ≠ []
  letters : ∀ c ∈ text, c.isAlpha
  short : text.length < 16

theorem isWord_of_all {text : Text} (ne_nil : text ≠ [])
    (letters : text.all Char.isAlpha = true) (short : text.length < 16) : IsWord text :=
  ⟨ne_nil, all_eq_true.mp letters, short⟩

/-- Perhaps a minus sign, then a decimal number or a name. -/
structure IsNumber (text : Text) : Prop where
  split : ∃ sign body, (sign = [] ∨ sign = ['-']) ∧ text = sign ++ body ∧
    (IsDecimal body ∨ IsWord body)

/-- A character of a number, or of a name such as `inf`. -/
def numberChar (c : Char) : Bool :=
  c.isAlphanum || c = '.' || c = '+' || c = '-'

theorem numberChar_of_isDigit {c : Char} (digit : c.isDigit = true) : numberChar c = true := by
  simp [numberChar, Char.isAlphanum, digit]

section

variable {text : Text}

theorem IsDecimal.numberChar (decimal : IsDecimal text) :
    ∀ c ∈ text, numberChar c = true := by
  obtain ⟨whole, fraction, power, rfl, -, wholeDigits, fractionForm, powerForm⟩ := decimal.split
  intro c member
  rw [mem_append, mem_append] at member
  rcases member with (member | member) | member
  · exact numberChar_of_isDigit (wholeDigits c member)
  · rcases fractionForm with rfl | ⟨ds, -, dsDigits, rfl⟩
    · cases member
    · rcases mem_cons.mp member with rfl | member
      · decide
      · exact numberChar_of_isDigit (dsDigits c member)
  · rcases powerForm with rfl | ⟨sign, ds, signForm, -, dsDigits, rfl⟩
    · cases member
    · rcases mem_cons.mp member with rfl | member
      · decide
      · rcases mem_cons.mp member with rfl | member
        · rcases signForm with rfl | rfl <;> decide
        · exact numberChar_of_isDigit (dsDigits c member)

theorem IsWord.numberChar (word : IsWord text) :
    ∀ c ∈ text, numberChar c = true := by
  intro c member
  have letter := word.letters c member
  simp [Savanna.numberChar, Char.isAlphanum, letter]

theorem IsNumber.numberChar (number : IsNumber text) :
    ∀ c ∈ text, numberChar c = true := by
  obtain ⟨sign, body, signForm, rfl, bodyForm⟩ := number.split
  intro c member
  rcases mem_append.mp member with member | member
  · rcases signForm with rfl | rfl
    · cases member
    · rw [mem_singleton.mp member]
      decide
  · rcases bodyForm with decimal | word
    · exact decimal.numberChar c member
    · exact word.numberChar c member

theorem isDecimal_of_digits (present : text ≠ []) (digits : ∀ c ∈ text, c.isDigit) :
    IsDecimal text :=
  ⟨text, [], [], by simp, present, digits, .inl rfl, .inl rfl⟩

/-- A whole number with a fraction is a decimal. -/
theorem isDecimal_decimalText (whole : Nat) {fraction : Text}
    (digits : ∀ c ∈ fraction, c.isDigit) : IsDecimal (decimalText whole fraction) := by
  refine ⟨_, _, [], (append_nil _).symm, Nat.toDigits_ne_nil, isDigit_toDigits whole, ?_,
    .inl rfl⟩
  split
  · exact .inl rfl
  next present => exact .inr ⟨fraction, present, digits, rfl⟩

/-- A magnitude is a decimal in either notation. -/
theorem isDecimal_text (x : Binary) : IsDecimal x.text := by
  unfold Binary.text
  split
  · exact isDecimal_decimalText _ x.isDigit_fraction
  · have digits := isDigit_toDigits x.shortest.1
    refine ⟨_, _, _, rfl, ?_, fun c member => digits c (mem_of_mem_take member), ?_,
      .inr ⟨_, _, ?_, padded_ne_nil _ _, isDigit_padded _ _, rfl⟩⟩
    · simp [Nat.toDigits_ne_nil]
    · split
      · exact .inl rfl
      next present =>
        exact .inr ⟨_, present, fun c member => digits c (mem_of_mem_drop member), rfl⟩
    · split <;> simp

/-- A sign may stand before a decimal number or a name. -/
theorem isNumber_signText (sign : UnpackedFloat.Sign) (body : IsDecimal text ∨ IsWord text) :
    IsNumber (signText sign ++ text) := by
  refine ⟨_, text, ?_, rfl, body⟩
  cases sign <;> simp [signText]

end

section Floating

variable {F : Type} [FloatingPoint F]

open FloatingPoint

theorem fractionDigits_isDigit (i : Nat) (frac : F) : ∀ c ∈ fractionDigits i frac, c.isDigit := by
  induction i generalizing frac with
  | zero => simp [fractionDigits]
  | succ i ih =>
    intro c member
    rcases mem_cons.mp member with rfl | member
    · exact ofNat_isDigit _ (by omega)
    · exact ih _ c member

theorem fracDigits_isDigit (absVal : F) : ∀ c ∈ fracDigits absVal, c.isDigit := by
  intro c member
  unfold fracDigits at member
  dsimp only at member
  split at member
  · cases member
  · have kept := (dropWhile_sublist _).subset (mem_reverse.mp member)
    exact fractionDigits_isDigit _ _ c (mem_reverse.mp kept)

theorem magnitudeText_eq (absVal : F) :
    magnitudeText absVal = decimalText (intPart absVal) (fracDigits absVal) := by
  rw [magnitudeText, decimalText, constexprToString_eq]
  split <;> simp

/-- `std::to_chars`. -/
def toChars (val : F) : Text := ShortestDecimal.toChars (format F) (unpack val)

theorem isNumber_toChars (val : F) : IsNumber (toChars val) := by
  unfold toChars
  cases unpack val with
  | notANumber =>
    exact isNumber_signText .positive (.inr (isWord_of_all (by decide) (by decide) (by decide)))
  | infinity sign =>
    exact isNumber_signText sign (.inr (isWord_of_all (by decide) (by decide) (by decide)))
  | zero sign => exact isNumber_signText sign (.inl (@isDecimal_decimalText 0 [] (by simp)))
  | finite sign mantissa exponent positive =>
    exact isNumber_signText sign (.inl (isDecimal_text _))

/-- The sign of a finite value says if it is below zero. -/
theorem less_zero {val : F} {sign : UnpackedFloat.Sign} {mantissa : Nat} {exponent : Int}
    {positive : 0 < mantissa} (finite : unpack val = .finite sign mantissa exponent positive) :
    (if less val (ofNat 0) then ['-'] else []) = signText sign := by
  rw [less, finite, unpack_zero]
  cases sign <;> rfl

/-- A magnitude below `2 ^ 64` whose shortest decimal has no exponent, and the whole part and
fraction that the digit loop extracts. -/
structure PlainMagnitude (absVal : F) (decimal : Binary) : Prop where
  nonzero : equal absVal (ofNat 0) = false
  small : less absVal (ofNat (2 ^ 64)) = true
  isFixed : decimal.IsFixed
  whole : decimal.whole = intPart absVal
  fraction : decimal.fraction = fracDigits absVal

/-- `Plain`, by the form of the value. -/
def PlainAs (val : F) : UnpackedFloat → Prop
  | .zero .positive => True
  | .finite _ mantissa exponent positive =>
    PlainMagnitude (absVal val) (magnitude (format F) mantissa exponent positive)
  | _ => False

/-- Zero without a sign, or a finite value with a plain magnitude. -/
def Plain (val : F) : Prop := PlainAs val (unpack val)

/-- `constexpr_to_string` of a finite value. -/
theorem constexprFloatToString_finite {val : F} {sign : UnpackedFloat.Sign} {mantissa : Nat}
    {exponent : Int} {positive : 0 < mantissa}
    (finite : unpack val = .finite sign mantissa exponent positive) :
    constexprFloatToString val =
      if equal (absVal val) (ofNat 0) then some (signText sign ++ decimalText 0 [])
      else if less (absVal val) (ofNat (2 ^ 64)) then
        some (signText sign ++ decimalText (intPart (absVal val)) (fracDigits (absVal val)))
      else none := by
  rw [← magnitudeText_eq, ← less_zero finite]
  have number : (unpack val).isNaN = false := by rw [finite]; rfl
  have bounded : (unpack val).isInf = false := by rw [finite]; rfl
  rw [constexprFloatToString, number, bounded]
  rfl

theorem plainMagnitude_iff (val : F) {sign : UnpackedFloat.Sign} {mantissa : Nat}
    {exponent : Int} {positive : 0 < mantissa}
    (finite : unpack val = .finite sign mantissa exponent positive) :
    constexprFloatToString val = some (toChars val) ↔
      PlainMagnitude (absVal val) (magnitude (format F) mantissa exponent positive) := by
  have runtime : toChars val =
      signText sign ++ (magnitude (format F) mantissa exponent positive).text := by
    rw [toChars, finite]
    rfl
  rw [constexprFloatToString_finite finite, runtime]
  generalize magnitude (format F) mantissa exponent positive = decimal
  -- no exponent is written in a constant evaluation
  have fixed : ∀ {whole fraction}, (∀ c ∈ fraction, c.isDigit) →
      decimalText whole fraction = decimal.text → decimal.IsFixed ∧
        decimal.whole = whole ∧ decimal.fraction = fraction := by
    intro whole fraction digits same
    unfold Binary.text at same
    split at same
    next isFixed => exact ⟨isFixed, decimalText_inj same.symm⟩
    · exact absurd (same ▸ decimal.mem_scientific) (not_mem_decimalText digits)
  constructor
  · intro same
    split at same
    · have zero := fixed (by simp) (append_cancel_left (Option.some.inj same))
      exact absurd (by rw [Binary.fixed, zero.2.1, zero.2.2]) decimal.fixed_ne_zero
    next nonzero =>
      split at same
      next small =>
        obtain ⟨isFixed, whole, fraction⟩ := fixed (fracDigits_isDigit _)
          (append_cancel_left (Option.some.inj same))
        exact ⟨by simpa using nonzero, small, isFixed, whole, fraction⟩
      · cases same
  · intro plain
    rw [plain.nonzero, plain.small, Binary.text, if_pos plain.isFixed, Binary.fixed, plain.whole,
      plain.fraction]
    rfl

theorem plain_iff (val : F) : constexprFloatToString val = some (toChars val) ↔ Plain val := by
  cases form : unpack val with
  | finite sign mantissa exponent positive =>
    rw [plainMagnitude_iff val form, Plain, form]
    exact Iff.rfl
  | notANumber =>
    rw [Plain, form, constexprFloatToString, toChars, form]
    exact iff_of_false (show some "NaN".toList ≠ some "nan".toList by decide) id
  | infinity sign =>
    rw [Plain, form, constexprFloatToString, toChars, form, less, form, unpack_zero]
    refine iff_of_false ?_ id
    cases sign with
    | positive => exact show some "Infinity".toList ≠ some "inf".toList by decide
    | negative => exact show some "-Infinity".toList ≠ some "-inf".toList by decide
  | zero sign =>
    have notLess : less val (ofNat 0) = false := by rw [less, form, unpack_zero]; rfl
    have isZero : equal (absVal val) (ofNat 0) = true := by
      rw [absVal, notLess, equal]
      simp only [Bool.false_eq_true, if_false, form, unpack_zero]
      rfl
    rw [Plain, form, constexprFloatToString, toChars, form, notLess, isZero]
    cases sign with
    | positive => exact iff_of_true rfl trivial
    | negative => exact iff_of_false (show some "0".toList ≠ some "-0".toList by decide) id

theorem isNumber_constexprFloatToString {val : F} {text : Text}
    (written : constexprFloatToString val = some text) : IsNumber text := by
  have decimal : ∀ (negative : Bool) (whole : Nat) (fraction : Text),
      (∀ c ∈ fraction, c.isDigit) →
      IsNumber ((if negative then ['-'] else []) ++ decimalText whole fraction) := by
    intro negative whole fraction digits
    refine ⟨_, _, ?_, rfl, .inl (isDecimal_decimalText whole digits)⟩
    cases negative <;> simp
  unfold constexprFloatToString at written
  split at written
  · cases written
    exact ⟨[], _, .inl rfl, rfl, .inr (isWord_of_all (by decide) (by decide) (by decide))⟩
  · split at written
    · cases written
      split
      · exact ⟨['-'], "Infinity".toList, .inr rfl, rfl,
          .inr (isWord_of_all (by decide) (by decide) (by decide))⟩
      · exact ⟨[], _, .inl rfl, rfl, .inr (isWord_of_all (by decide) (by decide) (by decide))⟩
    · dsimp only at written
      rw [magnitudeText_eq] at written
      split at written
      · cases written
        exact decimal _ 0 [] (by simp)
      · split at written
        · cases written
          exact decimal _ _ _ (fracDigits_isDigit _)
        · cases written

end Floating

/-- The floating point value, if it is one, is plain. -/
def FieldValue.Plain : FieldValue → Prop
  | .float val => Savanna.Plain val
  | .double val => Savanna.Plain val
  | _ => True

example : Plain (99.5 : Float) := (plain_iff _).mp (by decide +kernel)
example : ¬ Plain (2.3 : Float) := mt (plain_iff _).mpr (by decide +kernel)

namespace PostgresDialect

/-- `escape_identifier`. -/
def escapeIdentifier (name : Text) : Text :=
  name.flatMap fun c => if c = '"' then "\"\"".toList else [c]

/-- `quote_identifier`. -/
def quoteIdentifier (name : Text) : Text :=
  '"' :: escapeIdentifier name ++ ['"']

/-- `placeholder`. -/
def placeholder (index : Nat) : Text :=
  '$' :: constexprToString index

/-- `escape_char`. -/
def escapeChar (c : Char) : Text :=
  if c = '\'' then "''".toList
  else if c = '\\' then "\\\\".toList
  else [c]

/-- `escape_string`. -/
def escapeString (str : Text) : Text :=
  str.flatMap escapeChar

/-- The hex digits. -/
def hexChars : Text := "0123456789abcdef".toList

/-- The two digits of a byte in `format_binary_data`. -/
def formatByte (byte : UInt8) : Text :=
  [hexChars.getD (byte.toNat / 16) '0', hexChars.getD (byte.toNat % 16) '0']

/-- `format_binary_data`. -/
def formatBinaryData (data : List UInt8) : Text :=
  "'\\x".toList ++ data.flatMap formatByte ++ ['\'']

/-- `format_bool`. -/
def formatBool (val : Bool) : Text :=
  if val then "TRUE".toList else "FALSE".toList

/-- `format_integral`. -/
def formatIntegral (val : Int) : Text :=
  if val < 0 then '-' :: Nat.toDigits 10 val.natAbs else Nat.toDigits 10 val.natAbs

/-- `format_char`. -/
def formatChar (val : Char) : Text :=
  '\'' :: escapeChar val ++ ['\'']

/-- `format_string_value`. -/
def formatStringValue (val : Text) : Text :=
  '\'' :: escapeString val ++ ['\'']

variable (evaluation : Evaluation)

/-- `format_floating`. -/
def formatFloating {F : Type} [FloatingPoint F] (val : F) : Except Failure Text :=
  match evaluation with
  | .constant =>
    match constexprFloatToString val with
    | some text => .ok text
    | none => .error .notConstant
  | .runtime => .ok (toChars val)

/-- `format_value_impl`. -/
def formatValue : FieldValue → Except Failure Text
  | .monostate => .ok "NULL".toList
  | .bool val => .ok (formatBool val)
  | .char val => .ok (formatChar val)
  | .int16 val => .ok (formatIntegral val.toInt)
  | .int32 val => .ok (formatIntegral val.toInt)
  | .int64 val => .ok (formatIntegral val.toInt)
  | .uint16 val => .ok (formatIntegral val.toNat)
  | .uint32 val => .ok (formatIntegral val.toNat)
  | .uint64 val => .ok (formatIntegral val.toNat)
  | .float val => formatFloating evaluation val
  | .double val => formatFloating evaluation val
  | .string val => .ok (formatStringValue val)
  | .stringView val => .ok (formatStringValue val)
  | .bytes val => .ok (formatBinaryData val)
  | .span val => .ok (formatBinaryData val)

theorem isNumber_formatFloating {F : Type} [FloatingPoint F] {val : F} {text : Text}
    (written : formatFloating evaluation val = .ok text) : IsNumber text := by
  cases evaluation with
  | constant =>
    unfold formatFloating at written
    cases constant : constexprFloatToString val with
    | none => simp [constant] at written
    | some other =>
      simp only [constant, Except.ok.injEq] at written
      rw [← written]
      exact isNumber_constexprFloatToString constant
  | runtime =>
    cases written
    exact isNumber_toChars val

/-- Constant evaluation writes a value as run time does exactly if it is plain. -/
theorem formatValue_alike_iff (val : FieldValue) :
    formatValue .constant val = formatValue .runtime val ↔ val.Plain := by
  have floating : ∀ {F : Type} [FloatingPoint F] (val : F),
      formatFloating .constant val = formatFloating .runtime val ↔ Savanna.Plain val := by
    intro F _ val
    rw [← plain_iff, formatFloating, formatFloating]
    cases constexprFloatToString val <;> simp
  cases val with
  | float val | double val => exact floating val
  | _ => exact iff_of_true rfl trivial

theorem isNumber_formatIntegral (val : Int) : IsNumber (formatIntegral val) := by
  have decimal : IsDecimal (Nat.toDigits 10 val.natAbs) :=
    isDecimal_of_digits Nat.toDigits_ne_nil
      (fun c member => Nat.isDigit_of_mem_toDigits (by decide) (by decide) member)
  unfold formatIntegral
  split
  · exact ⟨['-'], _, .inr rfl, rfl, .inl decimal⟩
  · exact ⟨[], _, .inl rfl, rfl, .inl decimal⟩

end PostgresDialect

end Menagerie.Savanna
