import Mathlib.Algebra.Group.Nat.Defs
import Mathlib.Data.Bool.AllAny
import Mathlib.Data.List.Basic

/-!
# Text utilities of the core library

`constexpr_to_string` for sizes and for floating point values, and the fixed-capacity
`InlineString`. A C++ `char` is a `Char`, and an arithmetic type of C++ is the IEEE type of the same
width.
-/

namespace Menagerie.Beaver

open Float.Model List

/-- A sequence of characters. -/
abbrev Text := List Char

/-- The table `digits`: tens and units of the numbers below 100. -/
def digits : Text :=
  "00010203040506070809".toList ++ "10111213141516171819".toList ++
  "20212223242526272829".toList ++ "30313233343536373839".toList ++
  "40414243444546474849".toList ++ "50515253545556575859".toList ++
  "60616263646566676869".toList ++ "70717273747576777879".toList ++
  "80818283848586878889".toList ++ "90919293949596979899".toList

/-- The buffer of `constexpr_to_string`, from the units on; `fuel` is at least `temp`. -/
def fillBuffer : Nat → Nat → Text
  | 0, _ => []
  | fuel + 1, temp =>
    if 100 ≤ temp then
      let idx := temp % 100 * 2
      digits.getD (idx + 1) '0' :: digits.getD idx '0' :: fillBuffer fuel (temp / 100)
    else if 10 ≤ temp then
      let idx := temp * 2
      [digits.getD (idx + 1) '0', digits.getD idx '0']
    else [Char.ofNat ('0'.toNat + temp)]

/-- `constexpr_to_string(std::size_t)`. -/
def constexprToString (value : Nat) : Text :=
  if value = 0 then ['0'] else (fillBuffer value value).reverse

/-- The table has the tens and units of every number below 100. -/
theorem digits_value : ∀ k < 100, digits.getD (k * 2) '0' = (k / 10).digitChar ∧
    digits.getD (k * 2 + 1) '0' = (k % 10).digitChar := by
  decide +kernel

theorem ofNat_eq_digitChar : ∀ d < 10, Char.ofNat ('0'.toNat + d) = d.digitChar := by
  decide

theorem ofNat_isDigit (d : Nat) (small : d < 10) : (Char.ofNat ('0'.toNat + d)).isDigit := by
  rw [ofNat_eq_digitChar d small, Nat.isDigit_digitChar, decide_eq_true small]

theorem fillBuffer_eq (fuel temp : Nat) (positive : 0 < temp) (enough : temp ≤ fuel) :
    (fillBuffer fuel temp).reverse = Nat.toDigits 10 temp := by
  induction fuel generalizing temp with
  | zero => omega
  | succ fuel ih =>
    unfold fillBuffer
    rw [Nat.toDigits_eq_if (by decide)]
    split
    case isTrue large =>
      obtain ⟨tens, units⟩ := digits_value (temp % 100) (Nat.mod_lt _ (by decide))
      have rest := ih (temp / 100) (by omega) (by omega)
      have tensDigit : temp % 100 / 10 = temp / 10 % 10 := by omega
      have unitsDigit : temp % 100 % 10 = temp % 10 := by omega
      have quotient : temp / 10 / 10 = temp / 100 := by omega
      rw [if_neg (by omega), Nat.toDigits_eq_if (by decide), if_neg (by omega), quotient, ← rest]
      simp only [reverse_cons, tens, units, tensDigit, unitsDigit]
    case isFalse small =>
      split
      case isTrue medium =>
        obtain ⟨tens, units⟩ := digits_value temp (by omega)
        rw [if_neg (by omega), Nat.toDigits_of_lt_base (by omega)]
        simp only [reverse_cons, reverse_nil, nil_append, tens, units]
      case isFalse tiny =>
        rw [if_pos (by omega), ofNat_eq_digitChar temp (by omega)]
        rfl

theorem constexprToString_eq (value : Nat) : constexprToString value = Nat.toDigits 10 value := by
  unfold constexprToString
  split
  case isTrue zero =>
    rw [zero]
    rfl
  case isFalse positive => exact fillBuffer_eq value value (by omega) (Nat.le_refl _)

theorem constexprToString_isDigit (value : Nat) : ∀ c ∈ constexprToString value, c.isDigit := by
  intro c member
  rw [constexprToString_eq] at member
  exact Nat.isDigit_of_mem_toDigits (by decide) (by decide) member

theorem constexprToString_ne_nil (value : Nat) : constexprToString value ≠ [] := by
  rw [constexprToString_eq]
  exact Nat.toDigits_ne_nil

/-- The text of a number stands for the number. -/
theorem ofDigitChars_constexprToString (value : Nat) :
    Nat.ofDigitChars 10 (constexprToString value) 0 = value := by
  rw [constexprToString_eq, Nat.ofDigitChars_ten_toDigits]

theorem constexprToString_injective {first second : Nat}
    (same : constexprToString first = constexprToString second) : first = second := by
  rw [← ofDigitChars_constexprToString first, same, ofDigitChars_constexprToString]

theorem head?_constexprToString (value : Nat) :
    (constexprToString value).head? = some '0' ↔ value = 0 := by
  rw [constexprToString_eq]
  induction value using Nat.strongRecOn with
  | ind value ih =>
    rw [Nat.toDigits_eq_if (by decide)]
    split
    case isTrue => simp
    case isFalse large =>
      have head := ih (value / 10) (by omega)
      rw [head?_append_of_ne_nil _ Nat.toDigits_ne_nil, head]
      omega

/-- At most 20 characters are written into the buffer. -/
theorem fillBuffer_length (value : UInt64) :
    (fillBuffer value.toNat value.toNat).length ≤ 20 := by
  by_cases zero : value.toNat = 0
  · rw [zero]
    decide
  · have fits : value.toNat < 10 ^ 20 := Nat.lt_trans value.toNat_lt (by decide)
    rw [← length_reverse, fillBuffer_eq _ _ (by omega) (Nat.le_refl _)]
    exact (Nat.length_toDigits_le_iff (by decide) (by decide)).mpr fits

/-- `constexpr_to_string` gives the text of `std::to_string`. -/
theorem constexprToString_canonical :
    (∀ value : UInt64, constexprToString value.toNat ≠ [] ∧
      (∀ c ∈ constexprToString value.toNat, c.isDigit) ∧
      ((constexprToString value.toNat).head? = some '0' ↔ value = 0) ∧
      Nat.ofDigitChars 10 (constexprToString value.toNat) 0 = value.toNat ∧
      (fillBuffer value.toNat value.toNat).length ≤ 20 ∧
      String.ofList (constexprToString value.toNat) = toString value.toNat) ∧
    Function.Injective fun value : UInt64 => constexprToString value.toNat := by
  constructor
  · intro value
    have zero : value.toNat = 0 ↔ value = 0 := UInt64.toNat_inj (b := 0)
    refine ⟨constexprToString_ne_nil _, constexprToString_isDigit _,
      (head?_constexprToString _).trans zero, ofDigitChars_constexprToString _,
      fillBuffer_length value, ?_⟩
    rw [constexprToString_eq, Nat.toString_eq_ofList_toDigits]
  · intro first second same
    exact UInt64.toNat_inj.mp (constexprToString_injective same)

/-- What is used of a floating point type. -/
class FloatingPoint (F : Type) where
  format : Format
  unpack : F → UnpackedFloat
  neg : F → F
  sub : F → F → F
  mul : F → F → F
  ofNat : Nat → F
  toUInt64 : F → UInt64
  maxFrac : Nat
  unpack_zero : unpack (ofNat 0) = .zero .positive

instance : FloatingPoint Float32 where
  format := .binary32
  unpack x := x.toModel.unpack
  neg x := -x
  sub x y := x - y
  mul x y := x * y
  ofNat n := Float32.ofNat n
  toUInt64 := Float32.toUInt64
  maxFrac := 6
  unpack_zero := rfl

instance : FloatingPoint Float where
  format := .binary64
  unpack x := x.toModel.unpack
  neg x := -x
  sub x y := x - y
  mul x y := x * y
  ofNat n := Float.ofNat n
  toUInt64 := Float.toUInt64
  maxFrac := 14
  unpack_zero := rfl

section Floating

variable {F : Type} [FloatingPoint F]

open FloatingPoint

/-- The comparison `==` of C++. -/
def equal (x y : F) : Bool := (unpack x).beq (unpack y)

/-- The comparison `<` of C++. -/
def less (x y : F) : Bool := (unpack x).lt (unpack y)

/-- The digit extraction: `i` more digits of the fraction `frac`. -/
def fractionDigits : Nat → F → Text
  | 0, _ => []
  | i + 1, frac =>
    let scaled := mul frac (ofNat 10)
    let digit := min (toUInt64 scaled).toNat 9
    Char.ofNat ('0'.toNat + digit) :: fractionDigits i (sub scaled (ofNat digit))

/-- `int_part`. -/
def intPart (absVal : F) : Nat := (toUInt64 absVal).toNat

/-- The digits of the fraction of `abs_val`, without trailing zeros. -/
def fracDigits (absVal : F) : Text :=
  let frac := sub absVal (ofNat (intPart absVal))
  if equal frac (ofNat 0) then []
  else ((fractionDigits (maxFrac F) frac).reverse.dropWhile (· == '0')).reverse

/-- The integer part and the fraction of `abs_val`. -/
def magnitudeText (absVal : F) : Text :=
  if fracDigits absVal = [] then constexprToString (intPart absVal)
  else constexprToString (intPart absVal) ++ '.' :: fracDigits absVal

/-- `abs_val`. -/
def absVal (val : F) : F := if less val (ofNat 0) then neg val else val

/-- `constexpr_to_string(FloatT)`; `none` where the cast to `std::uint64_t` is undefined. -/
def constexprFloatToString (val : F) : Option Text :=
  if (unpack val).isNaN then some "NaN".toList
  else if (unpack val).isInf then
    some (if less val (ofNat 0) then "-Infinity".toList else "Infinity".toList)
  else
    let sign := if less val (ofNat 0) then ['-'] else []
    if equal (absVal val) (ofNat 0) then some (sign ++ ['0'])
    else if less (absVal val) (ofNat (2 ^ 64)) then some (sign ++ magnitudeText (absVal val))
    else none

end Floating

example : constexprFloatToString (99.5 : Float) = some "99.5".toList := by decide +kernel
example : constexprFloatToString (-3.14 : Float) = some "-3.14".toList := by decide +kernel
example : constexprFloatToString (3.14 : Float32) = some "3.14".toList := by decide +kernel
example : constexprFloatToString (1e-20 : Float) = some "0".toList := by decide +kernel

/-- The `std::out_of_range` of an append that does not fit. -/
structure OutOfRange where
  deriving DecidableEq

/-- `InlineString<Capacity>`: its size and its `Capacity + 1` characters. -/
structure InlineString (capacity : Nat) where
  size : Nat := 0
  data : Text := replicate (capacity + 1) (Char.ofNat 0)
  size_le : size ≤ capacity := by omega
  length_data : data.length = capacity + 1 := by simp

namespace InlineString

variable {capacity : Nat}

def view (s : InlineString capacity) : Text := s.data.take s.size

/-- `operator+=(std::string_view)`, also of a single character. -/
def append (s : InlineString capacity) (sv : Text) : Except OutOfRange (InlineString capacity) :=
  if fits : s.size + sv.length ≤ capacity then
    .ok {
      size := s.size + sv.length
      data := s.data.take s.size ++ sv ++ s.data.drop (s.size + sv.length)
      size_le := fits
      length_data := by
        have bound := s.size_le
        have length := s.length_data
        simp only [length_append, length_take, length_drop]
        omega }
  else .error {}

section

variable (s : InlineString capacity)

include s

theorem view_length : s.view.length = s.size := by
  have bound := s.size_le
  have length := s.length_data
  simp only [view, length_take]
  omega

theorem append_fits (sv : Text) (fits : s.size + sv.length ≤ capacity) :
    ∃ appended, s.append sv = .ok appended ∧ appended.size = s.size + sv.length ∧
      appended.view = s.view ++ sv := by
  unfold append
  rw [dif_pos fits]
  refine ⟨_, rfl, rfl, ?_⟩
  have length : (s.view ++ sv).length = s.size + sv.length := by
    rw [length_append, s.view_length]
  exact take_left' length

theorem append_overflow (sv : Text) (overflow : capacity < s.size + sv.length) :
    s.append sv = .error {} := by
  unfold append
  rw [dif_neg (by omega)]

end

end InlineString

end Menagerie.Beaver
