import Menagerie.Beaver.Text

/-!
# Salted hashes

`SHA256Hash` and `PBKDF2Hash`. A view is a part of a buffer, and `data()` alone is a position in it:
a callee that takes it for a C string reads on to the next NUL. What OpenSSL computes is left open;
it is a function of the byte strings that it receives.
-/

namespace Menagerie.Pufferfish

open Beaver List

/-- A sequence of bytes. -/
abbrev Bytes := List UInt8

/-- `std::string_view`. -/
structure StringView where
  buffer : Bytes
  offset : Nat
  length : Nat
  inside : offset + length ≤ buffer.length

namespace StringView

variable (view : StringView)

/-- The bytes of a view, `length()` many. -/
def contents : Bytes := (view.buffer.drop view.offset).take view.length

/-- The C string at `data()`; without a NUL the read leaves the buffer. -/
def cString : Option Bytes :=
  let rest := view.buffer.drop view.offset
  if 0 ∈ rest then some (rest.takeWhile (· != 0)) else none

/-- A view has as many bytes as its length says. -/
theorem length_contents : view.contents.length = view.length := by
  have inside := view.inside
  rw [contents, length_take, length_drop]
  omega

end StringView

/-- The size of a byte string as an `int` is not negative. -/
def Countable (bytes : Bytes) : Prop := bytes.length % 2 ^ 32 < 2 ^ 31

instance (bytes : Bytes) : Decidable (Countable bytes) := Nat.decLt ..

/-- The bytes up to the size as an `int`. -/
def counted (bytes : Bytes) : Bytes := bytes.take (bytes.length % 2 ^ 32)

/-- What a callee receives with a length of type `int`; a negative one hands over nothing. -/
def handed (bytes : Bytes) : Option Bytes :=
  if Countable bytes then some (counted bytes) else none

/-- OpenSSL, with what the hashers ask it for. -/
structure OpenSsl where
  hmac : (key data : Bytes) → Bytes
  pbkdf2 : (password salt : Bytes) → Option Bytes

/-- The hexadecimal string of a digest. -/
def toHex (digest : Bytes) : Text :=
  digest.flatMap fun byte => [Nat.digitChar (byte.toNat / 16), Nat.digitChar (byte.toNat % 16)]

/-- `SHA256Hash`, with its `key_`, and `PBKDF2Hash`. -/
inductive Hasher
  | sha256 (key : Bytes)
  | pbkdf2

namespace Hasher

/-- The key material of a salt. -/
def saltMaterial (salt : StringView) : Hasher → Option Bytes
  | .sha256 key => salt.cString.bind fun text => handed (key ++ text)
  | .pbkdf2 => handed salt.contents

/-- `hash_function`; `none` when it throws or has no defined result. -/
def hashFunction (hasher : Hasher) (openssl : OpenSsl) (data salt : StringView) : Option Text :=
  match hasher with
  | .sha256 _ => (hasher.saltMaterial salt).map fun key => toHex (openssl.hmac key data.contents)
  | .pbkdf2 => (handed data.contents).bind fun password =>
    (hasher.saltMaterial salt).bind fun salt => (openssl.pbkdf2 password salt).map toHex

/-- Both salts have key material, equal bytes give equal hashes whatever surrounds them, and
different bytes give different key material. -/
structure SaltDependence (hasher : Hasher) (view other : StringView) : Prop where
  defined : (hasher.saltMaterial view).isSome ∧ (hasher.saltMaterial other).isSome
  same : view.contents = other.contents → ∀ (openssl : OpenSsl) (data message : StringView),
    data.contents = message.contents →
      hasher.hashFunction openssl data view = hasher.hashFunction openssl message other
  different : view.contents ≠ other.contents →
    hasher.saltMaterial view ≠ hasher.saltMaterial other

/-- `SHA256Hash`: a NUL follows both salts, what is read up to it has with the key a size that fits
an `int`, and agrees up to that size exactly for equal salts. `PBKDF2Hash`: both sizes fit an `int`,
and only equal salts agree up to there. -/
def TellsApart (view other : StringView) : Hasher → Prop
  | .sha256 key => ∃ text otherText, view.cString = some text ∧ other.cString = some otherText ∧
      Countable (key ++ text) ∧ Countable (key ++ otherText) ∧
      (view.contents = other.contents ↔ counted (key ++ text) = counted (key ++ otherText))
  | .pbkdf2 => Countable view.contents ∧ Countable other.contents ∧
      (counted view.contents = counted other.contents → view.contents = other.contents)

/-- A NUL follows right behind the view and none is in it; with the key it is short. -/
def Ordinary (view : StringView) : Hasher → Prop
  | .sha256 key => view.cString = some view.contents ∧ key.length + view.length < 2 ^ 31
  | .pbkdf2 => view.length < 2 ^ 31

/-- A short byte string is handed over as it is. -/
theorem countable_of_short (bytes : Bytes) (short : bytes.length < 2 ^ 31) :
    Countable bytes ∧ counted bytes = bytes := by
  have whole : bytes.length % 2 ^ 32 = bytes.length := Nat.mod_eq_of_lt (by omega)
  refine ⟨by rw [Countable, whole]; exact short, ?_⟩
  rw [counted, whole, take_length]

/-- The key material for what `SHA256Hash` reads of a salt. -/
theorem saltMaterial_sha256 {key text : Bytes} {view : StringView}
    (read : view.cString = some text) (fits : Countable (key ++ text)) :
    (sha256 key).saltMaterial view = some (counted (key ++ text)) := by
  simp [saltMaterial, read, handed, fits]

/-- `SHA256Hash` has key material where the read ends and the size fits. -/
theorem saltMaterial_sha256_isSome {key : Bytes} {view : StringView} :
    ((sha256 key).saltMaterial view).isSome ↔
      ∃ text, view.cString = some text ∧ Countable (key ++ text) := by
  cases read : view.cString with
  | none => simp [saltMaterial, read]
  | some text => simp [saltMaterial, read, handed]

/-- Different key material gives another hash for some HMAC. -/
theorem saltMaterial_eq_of_hash {key first second : Bytes} {view other : StringView}
    (here : (sha256 key).saltMaterial view = some first)
    (there : (sha256 key).saltMaterial other = some second)
    (same : ∀ openssl data, (sha256 key).hashFunction openssl data view =
      (sha256 key).hashFunction openssl data other) : first = second := by
  by_contra differ
  have equal := same ⟨fun key _ => if key = first then [0] else [1], fun _ _ => none⟩ view
  simp only [hashFunction, here, there, Option.map_some, if_pos, if_neg (Ne.symm differ)] at equal
  exact absurd equal (by decide)

/-- The promise of `SHA256Hash`. -/
theorem sha256_saltDependence_iff (key : Bytes) (view other : StringView) :
    SaltDependence (sha256 key) view other ↔ (sha256 key).TellsApart view other := by
  constructor
  · intro ⟨⟨defined, definedToo⟩, same, different⟩
    obtain ⟨text, read, fits⟩ := saltMaterial_sha256_isSome.mp defined
    obtain ⟨otherText, readToo, fitsToo⟩ := saltMaterial_sha256_isSome.mp definedToo
    have here := saltMaterial_sha256 read fits
    have there := saltMaterial_sha256 readToo fitsToo
    refine ⟨text, otherText, read, readToo, fits, fitsToo, fun equal => ?_, fun equal => ?_⟩
    · exact saltMaterial_eq_of_hash here there fun openssl data => same equal openssl data data rfl
    · by_contra differ
      exact different differ (by rw [here, there, equal])
  · intro ⟨text, otherText, read, readToo, fits, fitsToo, agree⟩
    have here := saltMaterial_sha256 read fits
    have there := saltMaterial_sha256 readToo fitsToo
    refine ⟨by simp [here, there], fun equal openssl data message alike => ?_, ?_⟩
    · simp only [hashFunction, here, there, agree.mp equal, alike]
    · intro differ equal
      rw [here, there, Option.some.injEq] at equal
      exact differ (agree.mpr equal)

/-- The promise of `PBKDF2Hash`. -/
theorem pbkdf2_saltDependence_iff (view other : StringView) :
    SaltDependence pbkdf2 view other ↔ pbkdf2.TellsApart view other := by
  have isSome : ∀ salt : StringView, (pbkdf2.saltMaterial salt).isSome ↔
      Countable salt.contents := by
    intro salt
    simp [saltMaterial, handed]
  constructor
  · intro ⟨⟨defined, definedToo⟩, _, different⟩
    have fits := (isSome view).mp defined
    have fitsToo := (isSome other).mp definedToo
    refine ⟨fits, fitsToo, fun equal => ?_⟩
    by_contra differ
    exact different differ (by simp [saltMaterial, handed, fits, fitsToo, equal])
  · intro ⟨fits, fitsToo, agree⟩
    refine ⟨⟨(isSome view).mpr fits, (isSome other).mpr fitsToo⟩, ?_, fun differ equal => ?_⟩
    · intro equal openssl data message alike
      simp only [hashFunction, saltMaterial, equal, alike]
    · simp only [saltMaterial, handed, fits, fitsToo, if_true, Option.some.injEq] at equal
      exact differ (agree equal)

/-- Ordinary salts are told apart. -/
theorem tellsApart_of_ordinary {hasher : Hasher} {view other : StringView}
    (ordinary : hasher.Ordinary view) (also : hasher.Ordinary other) :
    hasher.TellsApart view other := by
  cases hasher with
  | sha256 key =>
    obtain ⟨fits, whole⟩ := countable_of_short (key ++ view.contents)
      (by rw [length_append, view.length_contents]; exact ordinary.2)
    obtain ⟨fitsToo, wholeToo⟩ := countable_of_short (key ++ other.contents)
      (by rw [length_append, other.length_contents]; exact also.2)
    refine ⟨_, _, ordinary.1, also.1, fits, fitsToo, ?_⟩
    rw [whole, wholeToo, append_cancel_left_eq]
  | pbkdf2 =>
    obtain ⟨fits, whole⟩ := countable_of_short view.contents
      (by rw [view.length_contents]; exact ordinary)
    obtain ⟨fitsToo, wholeToo⟩ := countable_of_short other.contents
      (by rw [other.length_contents]; exact also)
    refine ⟨fits, fitsToo, fun equal => ?_⟩
    rwa [whole, wholeToo] at equal

end Hasher

end Menagerie.Pufferfish
