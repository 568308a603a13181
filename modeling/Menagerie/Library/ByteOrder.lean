import Mathlib.Algebra.Order.Ring.Nat

/-!
# Byte order

An unsigned integer of `width` bytes in the memory of a host, and the exchange of its bytes. A value
that is converted to network order and then stored has its bytes in big-endian order on every host,
and loading these bytes and converting back returns the value.
-/

namespace Menagerie.ByteOrder

/-- The byte order of a machine. -/
inductive Host
  | little | big
  deriving DecidableEq, Repr

/-- The bytes of a value, the least significant one first. -/
def littleEndian : Nat → Nat → List UInt8
  | 0, _ => []
  | width + 1, value => UInt8.ofNat (value % 256) :: littleEndian width (value / 256)

/-- The value of bytes, the least significant one first. -/
def ofLittleEndian : List UInt8 → Nat
  | [] => 0
  | byte :: rest => byte.toNat + 256 * ofLittleEndian rest

/-- The bytes of a value, the most significant one first. -/
def bigEndian (width value : Nat) : List UInt8 := (littleEndian width value).reverse

/-- `std::byteswap`. -/
def byteswap (width value : Nat) : Nat := ofLittleEndian (bigEndian width value)

namespace Host

/-- What `memcpy` from a variable leaves in memory. -/
def store (host : Host) (width value : Nat) : List UInt8 :=
  match host with
  | .little => littleEndian width value
  | .big => bigEndian width value

/-- What `memcpy` into a variable makes of bytes. -/
def load (host : Host) (bytes : List UInt8) : Nat :=
  match host with
  | .little => ofLittleEndian bytes
  | .big => ofLittleEndian bytes.reverse

/-- Between host and network order, in either direction. -/
def network (host : Host) (width value : Nat) : Nat :=
  match host with
  | .little => byteswap width value
  | .big => value

end Host

@[simp] theorem length_littleEndian (width value : Nat) :
    (littleEndian width value).length = width := by
  induction width generalizing value with
  | zero => rfl
  | succ width ih => simp [littleEndian, ih]

@[simp] theorem length_bigEndian (width value : Nat) : (bigEndian width value).length = width := by
  simp [bigEndian]

theorem ofLittleEndian_littleEndian (width value : Nat) :
    ofLittleEndian (littleEndian width value) = value % 256 ^ width := by
  induction width generalizing value with
  | zero => simp [littleEndian, ofLittleEndian, Nat.mod_one]
  | succ width ih =>
    have byte : (UInt8.ofNat (value % 256)).toNat = value % 256 := by simp
    rw [littleEndian, ofLittleEndian, ih, byte, Nat.pow_succ', Nat.mod_mul]

theorem littleEndian_ofLittleEndian (bytes : List UInt8) :
    littleEndian bytes.length (ofLittleEndian bytes) = bytes := by
  induction bytes with
  | nil => rfl
  | cons byte rest ih =>
    have small : byte.toNat < 256 := byte.toNat_lt
    have low : (byte.toNat + 256 * ofLittleEndian rest) % 256 = byte.toNat := by omega
    have high : (byte.toNat + 256 * ofLittleEndian rest) / 256 = ofLittleEndian rest := by omega
    rw [List.length_cons, littleEndian, ofLittleEndian, low, high, ih, UInt8.ofNat_toNat]

/-- The last byte is the most significant one. -/
theorem littleEndian_succ (width value : Nat) : littleEndian (width + 1) value =
    littleEndian width value ++ [UInt8.ofNat (value / 256 ^ width % 256)] := by
  induction width generalizing value with
  | zero => simp [littleEndian]
  | succ width ih =>
    rw [littleEndian, ih, littleEndian, List.cons_append, Nat.div_div_eq_div_mul, Nat.pow_succ']

theorem bigEndian_succ (width value : Nat) : bigEndian (width + 1) value =
    UInt8.ofNat (value / 256 ^ width % 256) :: bigEndian width value := by
  rw [bigEndian, littleEndian_succ, List.reverse_append, bigEndian]
  rfl

theorem store_network (host : Host) (width value : Nat) :
    host.store width (host.network width value) = bigEndian width value := by
  cases host with
  | big => rfl
  | little =>
    have whole := littleEndian_ofLittleEndian (bigEndian width value)
    rw [length_bigEndian] at whole
    exact whole

theorem network_load_bigEndian (host : Host) (width value : Nat) :
    host.network width (host.load (bigEndian width value)) = value % 256 ^ width := by
  cases host with
  | big =>
    change ofLittleEndian (bigEndian width value).reverse = _
    rw [bigEndian, List.reverse_reverse, ofLittleEndian_littleEndian]
  | little =>
    change ofLittleEndian (littleEndian width (ofLittleEndian (bigEndian width value))).reverse = _
    have whole := littleEndian_ofLittleEndian (bigEndian width value)
    rw [length_bigEndian] at whole
    rw [whole, bigEndian, List.reverse_reverse, ofLittleEndian_littleEndian]

end Menagerie.ByteOrder
