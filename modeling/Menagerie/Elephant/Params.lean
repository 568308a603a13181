import Menagerie.Library.ByteOrder
import Menagerie.Savanna.Visitor

/-!
# The parameters of a statement

`ParamSink` records a value as a pointer, a length, a format and a type in four parallel arrays.
The pointers lead into two deques that hold the texts and the byte vectors, so that they stay valid
when more values are pushed. A C++ `char` and a byte are numbers below 256.
-/

namespace Menagerie.Elephant

open Beaver Savanna ByteOrder List

/-- `FormatRegistry`. -/
inductive FormatRegistry
  | text | binary
  deriving DecidableEq, Repr

namespace OidTypeRegistry

def oidBool : Nat := 16
def oidBytea : Nat := 17
def oidChar : Nat := 18
def oidInt8 : Nat := 20
def oidInt2 : Nat := 21
def oidInt4 : Nat := 23
def oidText : Nat := 25
def oidFloat4 : Nat := 700
def oidFloat8 : Nat := 701
def oidNumeric : Nat := 1700

end OidTypeRegistry

open OidTypeRegistry

/-- A sequence of bytes. -/
abbrev Bytes := List UInt8

/-- `static_cast<std::byte>` of a character. -/
def byteOf (c : Char) : UInt8 := UInt8.ofNat c.toNat

/-- A byte that is read as a character. -/
def charOf (byte : UInt8) : Char := Char.ofNat byte.toNat

/-- `static_cast<int>` of a size. -/
def staticCastInt (size : Nat) : Int :=
  let low : Nat := size % 2 ^ 32
  if low < 2 ^ 31 then low else low - 2 ^ 32

/-- A `const char*` into the parameters. -/
inductive Pointer
  | strData (index : Nat)
  | binaryChunks (index : Nat)
  deriving DecidableEq, Repr

/-- `Params`; a missing pointer is `nullptr`. -/
structure Params where
  values : List (Option Pointer) := []
  lengths : List Int := []
  formats : List FormatRegistry := []
  oids : List Nat := []
  strData : List Bytes := []
  binaryChunks : List Bytes := []

/-- Where a value is put. -/
inductive Storage
  | null
  | string (bytes : Bytes)
  | chunk (bytes : Bytes)
  deriving DecidableEq, Repr

/-- What `bind_one` records for a value. -/
structure Binding where
  storage : Storage
  length : Int
  format : FormatRegistry
  oid : Nat
  deriving DecidableEq, Repr

/-- The bytes of an integer converted to network order and copied. -/
def networkBytes (host : Host) (width value : Nat) : Bytes :=
  host.store width (host.network width value)

/-- The overloads of `bind_one`. -/
def binding (host : Host) : FieldValue → Binding
  | .monostate => ⟨.null, 0, .text, 0⟩
  | .bool b => ⟨.chunk [if b then 1 else 0], 1, .binary, oidBool⟩
  | .char c => ⟨.chunk [byteOf c], 1, .binary, oidChar⟩
  | .int16 i => ⟨.chunk (networkBytes host 2 i.toUInt16.toNat), 2, .binary, oidInt2⟩
  | .int32 i => ⟨.chunk (networkBytes host 4 i.toUInt32.toNat), 4, .binary, oidInt4⟩
  | .int64 i => ⟨.chunk (networkBytes host 8 i.toUInt64.toNat), 8, .binary, oidInt8⟩
  -- PostgreSQL has no unsigned types: the next larger signed one is used.
  | .uint16 i => ⟨.chunk (networkBytes host 4 i.toNat), 4, .binary, oidInt4⟩
  | .uint32 i => ⟨.chunk (networkBytes host 8 i.toNat), 8, .binary, oidInt8⟩
  | .uint64 i =>
    let str := (Nat.toDigits 10 i.toNat).map byteOf
    ⟨.string str, staticCastInt str.length, .text, oidNumeric⟩
  | .float f => ⟨.chunk (networkBytes host 4 f.toBits.toNat), 4, .binary, oidFloat4⟩
  | .double d => ⟨.chunk (networkBytes host 8 d.toBits.toNat), 8, .binary, oidFloat8⟩
  | .string s | .stringView s => ⟨.string (s.map byteOf), staticCastInt s.length, .text, oidText⟩
  | .bytes bytes | .span bytes => ⟨.chunk bytes, staticCastInt bytes.length, .binary, oidBytea⟩

namespace Params

/-- The pushes of `bind_one`; `data()` of an empty vector is `nullptr`. -/
def record (params : Params) (binding : Binding) : Params :=
  let entry (value : Option Pointer) : Params :=
    { params with
      values := params.values ++ [value]
      lengths := params.lengths ++ [binding.length]
      formats := params.formats ++ [binding.format]
      oids := params.oids ++ [binding.oid] }
  match binding.storage with
  | .null => entry none
  | .string bytes =>
    { entry (some (.strData params.strData.length)) with strData := params.strData ++ [bytes] }
  | .chunk bytes =>
    let data := if bytes.isEmpty then none else some (.binaryChunks params.binaryChunks.length)
    { entry data with binaryChunks := params.binaryChunks ++ [bytes] }

/-- `ParamSink::push`. -/
def push (host : Host) (params : Params) (value : FieldValue) : Params × Nat :=
  let pushed := params.record (binding host value)
  (pushed, pushed.values.length)

/-- A list of values is pushed; what the calls return. -/
def pushAll (host : Host) (params : Params) : List FieldValue → Params × List Nat
  | [] => (params, [])
  | value :: rest =>
    let (pushed, index) := params.push host value
    let (last, indices) := pushed.pushAll host rest
    (last, index :: indices)

/-- The bytes behind a pointer; a string ends with a NUL. -/
def pointee (params : Params) : Pointer → Option Bytes
  | .strData index => (params.strData[index]?).map (· ++ [0])
  | .binaryChunks index => params.binaryChunks[index]?

end Params

/-- `FieldView`; `data` may be read from `ptr_` on. -/
structure FieldView where
  data : Option Bytes
  len : Nat
  isNull : Bool
  format : FormatRegistry
  oid : Nat
  deriving DecidableEq, Repr

/-- `static_cast<std::size_t>` of a length. -/
def staticCastSize (length : Int) : Nat := (length % 2 ^ 64).toNat

/-- The view of a recorded value; `nullptr` is SQL NULL. -/
def Params.view (params : Params) (index : Nat) : Option FieldView := do
  let value ← params.values[index]?
  let length ← params.lengths[index]?
  let format ← params.formats[index]?
  let oid ← params.oids[index]?
  return ⟨value.bind params.pointee, staticCastSize length, value.isNone, format, oid⟩

/-- The bytes that may be read where a value was put. -/
def Storage.data : Storage → Option Bytes
  | .null => none
  | .string bytes => some (bytes ++ [0])
  | .chunk bytes => if bytes.isEmpty then none else some bytes

/-- The view of what `bind_one` records for a value. -/
def Binding.view (binding : Binding) : FieldView where
  data := binding.storage.data
  len := staticCastSize binding.length
  isNull := binding.storage.data.isNone
  format := binding.format
  oid := binding.oid

namespace Params

theorem pointee_record {params : Params} {pointer : Pointer} {data : Bytes}
    (valid : params.pointee pointer = some data) (binding : Binding) :
    (params.record binding).pointee pointer = some data := by
  have keep {list : List Bytes} {index : Nat} {entry : Bytes} (found : list[index]? = some entry)
      (more : List Bytes) : (list ++ more)[index]? = some entry := by
    rw [List.getElem?_append_left (List.getElem?_eq_some_iff.mp found).1, found]
  cases pointer with
  | strData index =>
    obtain ⟨entry, found, rfl⟩ := Option.map_eq_some_iff.mp valid
    cases storage : binding.storage <;> simp [record, storage, pointee, found, keep found]
  | binaryChunks index =>
    have found : params.binaryChunks[index]? = some data := valid
    cases storage : binding.storage <;> simp [record, storage, pointee, found, keep found]

/-- The arrays hold the bindings, in order. -/
structure Parallel (params : Params) (bindings : List Binding) : Prop where
  values : params.values.length = bindings.length
  lengths : params.lengths = bindings.map Binding.length
  formats : params.formats = bindings.map Binding.format
  oids : params.oids = bindings.map Binding.oid
  data : ∀ (index : Nat) (binding : Binding), bindings[index]? = some binding →
    ∃ value : Option Pointer, params.values[index]? = some value ∧
      value.isNone = binding.storage.data.isNone ∧ value.bind params.pointee = binding.storage.data

theorem Parallel.empty : Parallel {} [] :=
  ⟨rfl, rfl, rfl, rfl, fun _ _ found => by simp at found⟩

theorem record_values (params : Params) (binding : Binding) : ∃ value : Option Pointer,
    (params.record binding).values = params.values ++ [value] ∧
      value.isNone = binding.storage.data.isNone ∧
      value.bind (params.record binding).pointee = binding.storage.data := by
  cases storage : binding.storage with
  | null => exact ⟨none, by simp [record, storage, Storage.data]⟩
  | string bytes =>
    exact ⟨some (.strData params.strData.length),
      by simp [record, storage, Storage.data, pointee]⟩
  | chunk bytes =>
    cases bytes with
    | nil => exact ⟨none, by simp [record, storage, Storage.data]⟩
    | cons byte rest =>
      exact ⟨some (.binaryChunks params.binaryChunks.length),
        by simp [record, storage, Storage.data, pointee]⟩

section

variable {params : Params} {bindings : List Binding}

theorem Parallel.record (parallel : params.Parallel bindings) (binding : Binding) :
    (params.record binding).Parallel (bindings ++ [binding]) := by
  obtain ⟨value, values, null, data⟩ := params.record_values binding
  have arrays : (params.record binding).lengths = params.lengths ++ [binding.length] ∧
      (params.record binding).formats = params.formats ++ [binding.format] ∧
      (params.record binding).oids = params.oids ++ [binding.oid] := by
    cases storage : binding.storage <;> simp [Params.record, storage]
  obtain ⟨lengths, formats, oids⟩ := arrays
  refine ⟨?_, ?_, ?_, ?_, ?_⟩
  · rw [values, length_append, length_append, parallel.values]
    rfl
  · rw [lengths, parallel.lengths, map_append]
    rfl
  · rw [formats, parallel.formats, map_append]
    rfl
  · rw [oids, parallel.oids, map_append]
    rfl
  · intro index entry found
    rcases Nat.lt_trichotomy index bindings.length with old | rfl | beyond
    · rw [getElem?_append_left old] at found
      obtain ⟨before, stored, isNone, pointed⟩ := parallel.data index entry found
      refine ⟨before, ?_, isNone, ?_⟩
      · rw [values, getElem?_append_left (by rw [parallel.values]; exact old), stored]
      · cases before with
        | none => exact pointed
        | some pointer =>
          rw [Option.bind_some] at pointed ⊢
          cases read : params.pointee pointer with
          | none => simp [← pointed, read] at isNone
          | some bytes => rw [pointee_record read, ← pointed, read]
    · rw [getElem?_concat_length, Option.some.injEq] at found
      subst found
      refine ⟨value, ?_, null, data⟩
      rw [values, ← parallel.values, getElem?_concat_length]
    · rw [getElem?_eq_none (by simpa using Nat.succ_le_of_lt beyond)] at found
      cases found

theorem Parallel.view (parallel : params.Parallel bindings) {index : Nat} {binding : Binding}
    (found : bindings[index]? = some binding) : params.view index = some binding.view := by
  obtain ⟨value, stored, null, data⟩ := parallel.data index binding found
  simp [Params.view, stored, parallel.lengths, parallel.formats, parallel.oids, found, data, null,
    Binding.view]

/-- The values are recorded in order, and `push` returns the number of each. -/
theorem pushAll_parallel (host : Host) (parallel : params.Parallel bindings)
    (values : List FieldValue) :
    (params.pushAll host values).1.Parallel (bindings ++ values.map (binding host)) ∧
      (params.pushAll host values).2 = range' (bindings.length + 1) values.length := by
  induction values generalizing params bindings with
  | nil => simpa [pushAll] using parallel
  | cons value rest ih =>
    have pushed := parallel.record (binding host value)
    obtain ⟨later, indices⟩ := ih pushed
    have index : (params.record (binding host value)).values.length = bindings.length + 1 := by
      rw [pushed.values, length_append]
      rfl
    simp only [pushAll, push]
    refine ⟨?_, ?_⟩
    · rw [map_cons, ← singleton_append, ← append_assoc]
      exact later
    · rw [indices, index, length_append, length_singleton, length_cons,
        range'_succ]

/-- A push to the sink and one to the parameters return the same index, and keep them together. -/
theorem push_sink (host : Host) {StringT : Type} {visitor : SqlGeneratorVisitor StringT}
    (parallel : params.Parallel (visitor.sink.map (binding host))) (category : ValueCategory)
    (value : FieldValue) : ∃ after, Savanna.push category value visitor =
      .ok ((params.push host value).2, after) ∧
      (params.push host value).1.Parallel (after.sink.map (binding host)) := by
  have pushed := parallel.record (binding host value)
  have index : (params.push host value).2 = (visitor.sink ++ [value]).length := by
    simp [push, pushed.values]
  refine ⟨{ visitor with sink := visitor.sink ++ [value] }, by rw [index]; rfl, ?_⟩
  simpa [push] using pushed

end

end Params

end Menagerie.Elephant
