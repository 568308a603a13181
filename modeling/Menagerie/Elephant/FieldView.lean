import Menagerie.Elephant.Params
import Menagerie.Library.Sql.Scanner
import Mathlib.Data.List.TakeWhile
import Mathlib.Data.Nat.Digits.Defs

/-!
# Reading a column

`FieldView::as<T>()` for the types other than `float` and `double`, and when it returns the value
that `ParamSink` has recorded.
-/

namespace Menagerie.Elephant

open Beaver Savanna ByteOrder OidTypeRegistry FieldView List
open Sql (hexValue)

/-- What `as<T>()` may throw; a read past the end has no defined result. -/
inductive ViewError
  | nullConversion
  | runtime (message : Text)
  | outOfBounds
  deriving DecidableEq

/-- The types that `as<T>()` is instantiated with. -/
inductive Alternative
  | monostate | bool | char
  | int16 | int32 | int64 | uint16 | uint32 | uint64
  | string | stringView | bytes | span
  deriving DecidableEq

/-- The alternative of a value that is no floating point number. -/
def alternative : FieldValue → Option Alternative
  | .monostate => some .monostate
  | .bool _ => some .bool
  | .char _ => some .char
  | .int16 _ => some .int16
  | .int32 _ => some .int32
  | .int64 _ => some .int64
  | .uint16 _ => some .uint16
  | .uint32 _ => some .uint32
  | .uint64 _ => some .uint64
  | .float _ | .double _ => none
  | .string _ => some .string
  | .stringView _ => some .stringView
  | .bytes _ => some .bytes
  | .span _ => some .span

/-- `std::from_chars` in base ten, with the bounds of a type. -/
def fromChars (low high : Int) (text : Text) : Option Int :=
  let negative := low < 0 && text.head? == some '-'
  let digits := (if negative then text.tail else text).takeWhile Char.isDigit
  let magnitude : Int := Nat.ofDigitChars 10 digits 0
  let value := if negative then -magnitude else magnitude
  if digits.isEmpty then none
  else if low ≤ value ∧ value ≤ high then some value
  else none

/-- `std::from_chars` in base sixteen, for a byte. -/
def fromHex (first second : Char) : Option UInt8 :=
  match hexValue first, hexValue second with
  | none, _ => none
  | some high, none => some (UInt8.ofNat high)
  | some high, some low => some (UInt8.ofNat (16 * high + low))

namespace FieldView

/-- The first bytes from `ptr_` on. -/
def read (view : FieldView) (count : Nat) : Except ViewError Bytes :=
  let data := view.data.getD []
  if count ≤ data.length then .ok (data.take count) else .error .outOfBounds

/-- `as_sv`. -/
def asSv (view : FieldView) : Except ViewError Text :=
  return (← view.read view.len).map charOf

/-- The value is in binary format and of this type. -/
def isBinary (view : FieldView) (oid : Nat) : Bool :=
  view.format = .binary && view.oid = oid

/-- `memcpy` of an unsigned integer, then `ntoh`. -/
def readNetwork (host : Host) (view : FieldView) (width : Nat) : Except ViewError Nat :=
  return host.network width (host.load (← view.read width))

/-- `decode_integer_text`, with the bounds of a type. -/
def decodeIntegerText (view : FieldView) (low high : Int) : Except ViewError Int := do
  let sv ← view.asSv
  match fromChars low high sv with
  | some value => return value
  | none => throw (.runtime ("Failed to parse integer from: ".toList ++ sv))

/-- `decode_bool`. -/
def decodeBool (view : FieldView) : Except ViewError Bool := do
  if view.isBinary oidBool then return (← view.read 1) != [0]
  let sv ← view.asSv
  return sv == "t".toList || sv == "true".toList || sv == "1".toList || sv == "TRUE".toList ||
    sv == "T".toList

/-- `decode_char`. -/
def decodeChar (view : FieldView) : Except ViewError Char := do
  if view.isBinary oidChar then return charOf ((← view.read 1).headD 0)
  return (← view.asSv).headD '\x00'

/-- `decode_int16`. -/
def decodeInt16 (host : Host) (view : FieldView) : Except ViewError Int16 := do
  if view.isBinary oidInt2 then return (UInt16.ofNat (← view.readNetwork host 2)).toInt16
  return .ofInt (← view.decodeIntegerText (-2 ^ 15) (2 ^ 15 - 1))

/-- `decode_int32`. -/
def decodeInt32 (host : Host) (view : FieldView) : Except ViewError Int32 := do
  if view.isBinary oidInt4 then return (UInt32.ofNat (← view.readNetwork host 4)).toInt32
  return .ofInt (← view.decodeIntegerText (-2 ^ 31) (2 ^ 31 - 1))

/-- `decode_int64`. -/
def decodeInt64 (host : Host) (view : FieldView) : Except ViewError Int64 := do
  if view.isBinary oidInt8 then return (UInt64.ofNat (← view.readNetwork host 8)).toInt64
  return .ofInt (← view.decodeIntegerText (-2 ^ 63) (2 ^ 63 - 1))

/-- `decode_uint16`. -/
def decodeUint16 (host : Host) (view : FieldView) : Except ViewError UInt16 := do
  if view.isBinary oidInt4 then return .ofNat (← view.readNetwork host 4)
  if view.isBinary oidInt2 then return .ofNat (← view.readNetwork host 2)
  return .ofInt (← view.decodeIntegerText 0 (2 ^ 16 - 1))

/-- `decode_uint32`. -/
def decodeUint32 (host : Host) (view : FieldView) : Except ViewError UInt32 := do
  if view.isBinary oidInt8 then return .ofNat (← view.readNetwork host 8)
  if view.isBinary oidInt4 then return .ofNat (← view.readNetwork host 4)
  return .ofInt (← view.decodeIntegerText 0 (2 ^ 32 - 1))

/-- `decode_uint64`. -/
def decodeUint64 (host : Host) (view : FieldView) : Except ViewError UInt64 := do
  if view.isBinary oidInt8 then return .ofNat (← view.readNetwork host 8)
  return .ofInt (← view.decodeIntegerText 0 (2 ^ 64 - 1))

/-- `decode_string`. -/
def decodeString (view : FieldView) : Except ViewError Text := view.asSv

/-- `decode_string_view`. -/
def decodeStringView (view : FieldView) : Except ViewError Text := view.asSv

/-- `decode_binary_span`. -/
def decodeBinarySpan (view : FieldView) : Except ViewError Bytes := do
  if view.isBinary oidBytea then return ← view.read view.len
  throw (.runtime
    "Cannot decode text-format bytea as span. Use vector<std::uint8_t> instead.".toList)

/-- The character behind the value. -/
def behind (view : FieldView) : Except ViewError Char :=
  match (view.data.getD [])[view.len]? with
  | some byte => .ok (charOf byte)
  | none => .error .outOfBounds

/-- The loop of `decode_hex_bytea`; a last single digit is read with the character behind the value.
-/
def decodeHexPairs (behind : Except ViewError Char) : Text → Except ViewError Bytes
  | [] => return []
  | [first] => do
    if (hexValue first).isNone then throw (.runtime "Invalid hex in bytea".toList)
    match fromHex first (← behind) with
    | none => throw (.runtime "Invalid hex in bytea".toList)
    | some byte => return [byte]
  | first :: second :: rest => do
    match fromHex first second with
    | none => throw (.runtime "Invalid hex in bytea".toList)
    | some byte => return byte :: (← decodeHexPairs behind rest)

/-- `decode_hex_bytea`. -/
def decodeHexBytea (view : FieldView) : Except ViewError Bytes := do
  match ← view.asSv with
  | '\\' :: 'x' :: digits => decodeHexPairs view.behind digits
  | _ => throw (.runtime "Unsupported bytea format".toList)

/-- `decode_binary_vector`. -/
def decodeBinaryVector (view : FieldView) : Except ViewError Bytes := do
  if view.isBinary oidBytea then return ← view.read view.len
  view.decodeHexBytea

/-- `as<T>()`. -/
def as (host : Host) (view : FieldView) (type : Alternative) : Except ViewError FieldValue :=
  if view.isNull && type != .monostate then .error .nullConversion
  else
    match type with
    | .monostate => .ok .monostate
    | .bool => .bool <$> view.decodeBool
    | .char => .char <$> view.decodeChar
    | .int16 => .int16 <$> view.decodeInt16 host
    | .int32 => .int32 <$> view.decodeInt32 host
    | .int64 => .int64 <$> view.decodeInt64 host
    | .uint16 => .uint16 <$> view.decodeUint16 host
    | .uint32 => .uint32 <$> view.decodeUint32 host
    | .uint64 => .uint64 <$> view.decodeUint64 host
    | .string => .string <$> view.decodeString
    | .stringView => .stringView <$> view.decodeStringView
    | .bytes => .bytes <$> view.decodeBinaryVector
    | .span => .span <$> view.decodeBinarySpan

end FieldView

/-- A `char` has 256 values, and the size of a container fits `std::ptrdiff_t`. -/
def Native : FieldValue → Prop
  | .char c => c.toNat < 256
  | .string s | .stringView s => (∀ c ∈ s, c.toNat < 256) ∧ s.length < 2 ^ 63
  | .bytes bytes | .span bytes => bytes.length < 2 ^ 63
  | _ => True

/-- A value that the arrays of `Params` can hold. -/
def Fits : FieldValue → Prop
  | .string s | .stringView s => s.length < 2 ^ 31
  | .bytes bytes | .span bytes => bytes ≠ [] ∧ bytes.length < 2 ^ 31
  | _ => True

theorem charOf_byteOf {c : Char} (native : c.toNat < 256) : charOf (byteOf c) = c := by
  have small : (byteOf c).toNat = c.toNat := by
    simp [byteOf, Nat.mod_eq_of_lt native]
  rw [charOf, small, Char.ofNat_toNat]

theorem byteOf_charOf (byte : UInt8) : byteOf (charOf byte) = byte := by
  have small : byte.toNat < 256 := byte.toNat_lt
  have same : (Char.ofNat byte.toNat).toNat = byte.toNat := by
    have valid : byte.toNat.isValidChar := .inl (by omega)
    rw [Char.ofNat, dif_pos valid]
    rfl
  rw [byteOf, charOf, same, UInt8.ofNat_toNat]

theorem map_charOf_byteOf {text : Text} (native : ∀ c ∈ text, c.toNat < 256) :
    (text.map byteOf).map charOf = text := by
  induction text with
  | nil => rfl
  | cons c rest ih =>
    rw [map_cons, map_cons, charOf_byteOf (native c mem_cons_self),
      ih (fun other member => native other (mem_cons_of_mem _ member))]

/-- The casts of a size to `int` and back keep exactly the sizes below `2 ^ 31`; others change by
more than one. -/
theorem staticCastSize_staticCastInt {size : Nat} (native : size < 2 ^ 63) :
    size < 2 ^ 31 ∧ staticCastSize (staticCastInt size) = size ∨
      2 ^ 31 ≤ size ∧ (staticCastSize (staticCastInt size) < size ∨
        size + 1 < staticCastSize (staticCastInt size)) := by
  rw [staticCastSize, staticCastInt]
  split <;> omega

theorem read_cast_iff {bytes more : Bytes} (native : bytes.length < 2 ^ 63)
    (little : more.length ≤ 1) {view : FieldView} (data : view.data.getD [] = bytes ++ more)
    (len : view.len = staticCastSize (staticCastInt bytes.length)) :
    view.read view.len = .ok bytes ↔ bytes.length < 2 ^ 31 := by
  rw [FieldView.read, data, len]
  rcases staticCastSize_staticCastInt native with ⟨small, same⟩ | ⟨large, less | more⟩
  · refine iff_of_true ?_ small
    rw [same, if_pos (by simp), take_left]
  · refine iff_of_false ?_ (by omega)
    rw [if_pos (by rw [length_append]; omega)]
    intro taken
    have length := congrArg length (Except.ok.inj taken)
    rw [length_take, length_append] at length
    omega
  · refine iff_of_false ?_ (by omega)
    rw [if_neg (by rw [length_append]; omega)]
    simp

theorem asSv_eq_ok_iff {view : FieldView} {text : Text} (native : ∀ c ∈ text, c.toNat < 256) :
    view.asSv = .ok text ↔ view.read view.len = .ok (text.map byteOf) := by
  rw [asSv]
  cases view.read view.len with
  | error failure => simp [bind, Except.bind]
  | ok bytes =>
    have there : bytes.map charOf = text → bytes = text.map byteOf := by
      rintro rfl
      simp [Function.comp_def, byteOf_charOf]
    have back : bytes = text.map byteOf → bytes.map charOf = text := by
      rintro rfl
      exact map_charOf_byteOf native
    simp only [bind, Except.bind, pure, Except.pure, Except.ok.injEq]
    exact ⟨there, back⟩

theorem asSv_string_iff {text : Text} (native : ∀ c ∈ text, c.toNat < 256)
    (size : text.length < 2 ^ 63) (format : FormatRegistry) (oid : Nat) :
    (Binding.mk (.string (text.map byteOf)) (staticCastInt text.length) format oid).view.asSv =
      .ok text ↔ text.length < 2 ^ 31 := by
  rw [asSv_eq_ok_iff native, ← length_map byteOf]
  have little : [(0 : UInt8)].length ≤ 1 := Nat.le_refl 1
  exact read_cast_iff (by rwa [length_map]) little rfl rfl

attribute [local simp] Storage.data FieldView.isBinary Fits FieldView.as

theorem view_chunk {bytes : Bytes} (nonempty : bytes ≠ []) (length : Int)
    (format : FormatRegistry) (oid : Nat) : (Binding.mk (.chunk bytes) length format oid).view =
      ⟨some bytes, staticCastSize length, false, format, oid⟩ := by
  simp [Binding.view, nonempty]

theorem view_networkBytes (host : Host) (width : Nat) {value : Nat}
    (fits : value < 256 ^ (width + 1)) (length : Int) (format : FormatRegistry) (oid : Nat) :
    ∃ view : FieldView,
      (Binding.mk (.chunk (networkBytes host (width + 1) value)) length format oid).view = view ∧
      view.isNull = false ∧ view.format = format ∧ view.oid = oid ∧
      view.readNetwork host (width + 1) = .ok value := by
  have bytes : networkBytes host (width + 1) value = bigEndian (width + 1) value :=
    store_network host (width + 1) value
  have nonempty : networkBytes host (width + 1) value ≠ [] := by
    rw [bytes]
    exact ne_nil_of_length_eq_add_one (length_bigEndian (width + 1) value)
  refine ⟨_, view_chunk nonempty length format oid, rfl, rfl, rfl, ?_⟩
  have whole : (bigEndian (width + 1) value).take (width + 1) = bigEndian (width + 1) value :=
    take_of_length_le (by rw [length_bigEndian])
  simp only [FieldView.readNetwork, FieldView.read, Option.getD_some, bytes, length_bigEndian,
    Nat.le_refl, if_true, whole]
  have received := network_load_bigEndian host (width + 1) value
  rw [Nat.mod_eq_of_lt fits] at received
  exact congrArg Except.ok received

theorem fromChars_toDigits {value : Nat} {high : Int} (fits : value ≤ high) :
    fromChars 0 high (Nat.toDigits 10 value) = some value := by
  have digits : (Nat.toDigits 10 value).takeWhile Char.isDigit = Nat.toDigits 10 value :=
    takeWhile_eq_self_iff.mpr
      (fun c member => Nat.isDigit_of_mem_toDigits (by decide) (by decide) member)
  have number : Nat.ofDigitChars 10 (Nat.toDigits 10 value) 0 = value :=
    Nat.ofDigitChars_toDigits (by decide) (by decide)
  simp [fromChars, digits, number, fits]

theorem decodeUint64_text {host : Host} {view : FieldView} {value : UInt64}
    (format : view.format = .text) (text : view.asSv = .ok (Nat.toDigits 10 value.toNat)) :
    view.decodeUint64 host = .ok value := by
  have bound := value.toNat_lt
  have parsed : fromChars 0 (2 ^ 64 - 1) (Nat.toDigits 10 value.toNat) =
      some (value.toNat : Int) := fromChars_toDigits (by omega)
  have textual : view.isBinary oidInt8 = false := by simp [format]
  have decoded : view.decodeIntegerText 0 (2 ^ 64 - 1) = .ok (value.toNat : Int) := by
    simp only [decodeIntegerText, text, bind, Except.bind, parsed]
    rfl
  have back : UInt64.ofInt (value.toNat : Int) = value := by
    rw [UInt64.ofInt, show (value.toNat : Int) % 2 ^ 64 = value.toNat by omega, Int.toNat_natCast,
      UInt64.ofNat_toNat]
  simp only [decodeUint64, textual, decoded, bind, Except.bind, back]
  rfl

theorem map_eq_ok_iff {α β : Type} {wrap : α → β} (injective : Function.Injective wrap)
    {result : Except ViewError α} {value : α} :
    wrap <$> result = .ok (wrap value) ↔ result = .ok value := by
  cases result <;> simp [Functor.map, Except.map, injective.eq_iff]

theorem read_chunk_iff {bytes : Bytes} (nonempty : bytes ≠ []) (size : bytes.length < 2 ^ 63)
    {view : FieldView}
    (recorded : view = ⟨some bytes, staticCastSize (staticCastInt bytes.length), false, .binary,
      oidBytea⟩) : view.read view.len = .ok bytes ↔ Fits (.bytes bytes) := by
  have little : ([] : Bytes).length ≤ 1 := Nat.zero_le 1
  have whole : view.data.getD [] = bytes ++ [] := by simp [recorded]
  rw [read_cast_iff size little whole (by rw [recorded])]
  simp [nonempty]

/-- `as<T>()` of what a value of type `T` was recorded as. -/
theorem as_binding_iff (host : Host) {value : FieldValue} {type : Alternative}
    (typed : alternative value = some type) (native : Native value) :
    (binding host value).view.as host type = .ok value ↔ Fits value := by
  cases value with
  | float | double => cases typed
  | monostate =>
    cases typed
    simp
  | bool b =>
    cases typed
    refine iff_of_true ?_ trivial
    cases b <;> rfl
  | char c =>
    cases typed
    refine iff_of_true ?_ trivial
    have same := charOf_byteOf native
    simp [binding, view_chunk, FieldView.decodeChar, FieldView.read, same]
  | int16 i =>
    cases typed
    refine iff_of_true ?_ trivial
    have fits := Nat.lt_of_lt_of_le i.toUInt16.toNat_lt (show _ ≤ 256 ^ 2 by decide)
    obtain ⟨view, recorded, null, format, oid, read⟩ :=
      view_networkBytes host 1 fits 2 .binary oidInt2
    have back : Int16.ofNat i.toUInt16.toNat = i := by
      rw [← UInt16.toInt16_ofNat', UInt16.ofNat_toNat, Int16.toInt16_toUInt16]
    simp [binding, recorded, decodeInt16, null, format, oid, read, back]
  | int32 i =>
    cases typed
    refine iff_of_true ?_ trivial
    have fits := Nat.lt_of_lt_of_le i.toUInt32.toNat_lt (show _ ≤ 256 ^ 4 by decide)
    obtain ⟨view, recorded, null, format, oid, read⟩ :=
      view_networkBytes host 3 fits 4 .binary oidInt4
    have back : Int32.ofNat i.toUInt32.toNat = i := by
      rw [← UInt32.toInt32_ofNat', UInt32.ofNat_toNat, Int32.toInt32_toUInt32]
    simp [binding, recorded, decodeInt32, null, format, oid, read, back]
  | int64 i =>
    cases typed
    refine iff_of_true ?_ trivial
    have fits := Nat.lt_of_lt_of_le i.toUInt64.toNat_lt (show _ ≤ 256 ^ 8 by decide)
    obtain ⟨view, recorded, null, format, oid, read⟩ :=
      view_networkBytes host 7 fits 8 .binary oidInt8
    have back : Int64.ofNat i.toUInt64.toNat = i := by
      rw [← UInt64.toInt64_ofNat', UInt64.ofNat_toNat, Int64.toInt64_toUInt64]
    simp [binding, recorded, decodeInt64, null, format, oid, read, back]
  | uint16 i =>
    cases typed
    refine iff_of_true ?_ trivial
    have fits := Nat.lt_of_lt_of_le i.toNat_lt (show _ ≤ 256 ^ 4 by decide)
    obtain ⟨view, recorded, null, format, oid, read⟩ :=
      view_networkBytes host 3 fits 4 .binary oidInt4
    simp [binding, recorded, decodeUint16, null, format, oid, read]
  | uint32 i =>
    cases typed
    refine iff_of_true ?_ trivial
    have fits := Nat.lt_of_lt_of_le i.toNat_lt (show _ ≤ 256 ^ 8 by decide)
    obtain ⟨view, recorded, null, format, oid, read⟩ :=
      view_networkBytes host 7 fits 8 .binary oidInt8
    simp [binding, recorded, decodeUint32, null, format, oid, read]
  | uint64 i =>
    cases typed
    refine iff_of_true ?_ trivial
    have small : i.toNat < 10 ^ 20 := Nat.lt_of_lt_of_le i.toNat_lt (by decide)
    have length := Nat.toDigits_length 10 i.toNat 20 (by decide) small
    have digits : ∀ c ∈ Nat.toDigits 10 i.toNat, c.toNat < 256 := by
      intro c member
      have digit := Nat.isDigit_of_mem_toDigits (by decide) (by decide) member
      simp only [Char.isDigit, Bool.and_eq_true, decide_eq_true_eq] at digit
      have last : c.toNat ≤ 57 := digit.2
      omega
    have text := (asSv_string_iff digits (by omega) .text oidNumeric).mpr (by omega)
    rw [binding, length_map]
    exact (map_eq_ok_iff (fun _ _ => FieldValue.uint64.inj)).mpr (decodeUint64_text rfl text)
  | string s =>
    cases typed
    have text := asSv_string_iff native.1 native.2 .text oidText
    rw [Fits, ← text]
    exact map_eq_ok_iff (fun _ _ => FieldValue.string.inj)
  | stringView s =>
    cases typed
    have text := asSv_string_iff native.1 native.2 .text oidText
    rw [Fits, ← text]
    exact map_eq_ok_iff (fun _ _ => FieldValue.stringView.inj)
  | bytes bytes =>
    cases typed
    by_cases empty : bytes = []
    · subst empty
      exact iff_of_false (by simp [binding, Binding.view])
        (by simp)
    · have recorded := view_chunk empty (staticCastInt bytes.length) .binary oidBytea
      rw [← read_chunk_iff empty native recorded, binding, recorded]
      exact map_eq_ok_iff (fun _ _ => FieldValue.bytes.inj)
  | span bytes =>
    cases typed
    by_cases empty : bytes = []
    · subst empty
      exact iff_of_false (by simp [binding, Binding.view])
        (by simp)
    · have recorded := view_chunk empty (staticCastInt bytes.length) .binary oidBytea
      rw [show Fits (.span bytes) = Fits (.bytes bytes) from rfl,
        ← read_chunk_iff empty native recorded, binding, recorded]
      exact map_eq_ok_iff (fun _ _ => FieldValue.span.inj)

/-- Pushed values are recorded in order under the numbers that `push` returns, and `as<T>()` returns
the recorded value exactly when it fits. -/
theorem param_sink_field_view_iff (host : Host) (values : List FieldValue) (value : FieldValue)
    (type : Alternative) (typed : alternative value = some type) (native : Native value) :
    ((binding host value).view.as host type = .ok value ↔ Fits value) ∧
    (({} : Params).pushAll host values).2 = List.range' 1 values.length ∧
    (({} : Params).pushAll host values).1.values.length = values.length ∧
    (({} : Params).pushAll host values).1.lengths.length = values.length ∧
    (({} : Params).pushAll host values).1.formats.length = values.length ∧
    (({} : Params).pushAll host values).1.oids.length = values.length ∧
    ∀ (index : Nat) (entry : FieldValue), values[index]? = some entry →
      (({} : Params).pushAll host values).1.view index = some (binding host entry).view := by
  obtain ⟨parallel, indices⟩ := Params.pushAll_parallel host .empty values
  refine ⟨as_binding_iff host typed native, indices, ?_, ?_, ?_, ?_, ?_⟩
  · rw [parallel.values, nil_append, length_map]
  · rw [parallel.lengths, nil_append, length_map, length_map]
  · rw [parallel.formats, nil_append, length_map, length_map]
  · rw [parallel.oids, nil_append, length_map, length_map]
  · intro index entry found
    refine parallel.view ?_
    rw [nil_append, getElem?_map, found]
    rfl

/-- The largest unsigned integer, from its text. -/
theorem param_sink_field_view_uint64 :
    (binding .little (.uint64 18446744073709551615)).view.as .little .uint64 =
      .ok (.uint64 18446744073709551615) :=
  (param_sink_field_view_iff .little [] (.uint64 18446744073709551615) .uint64 rfl trivial).1.mpr
    trivial

theorem empty_bytes_recorded_as_null :
    ((({} : Params).push .little (.bytes [])).1.view 0).map (fun view => view.as .little .bytes) =
      some (.error .nullConversion) := by
  decide

end Menagerie.Elephant
