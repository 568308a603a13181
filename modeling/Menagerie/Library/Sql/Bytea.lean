import Menagerie.Library.Sql.Scanner

/-!
# Byte strings in hexadecimal

The text that the server writes and reads for a byte string: `\x`, and two hexadecimal digits in
either case for each byte.
-/

namespace Menagerie.Sql

/-- Two digits for each byte, the high one first. -/
inductive HexDigits : Text → List UInt8 → Prop
  | nil : HexDigits [] []
  | cons {high low : Char} {first second : Nat} {digits : Text} {bytes : List UInt8}
      (upper : hexValue high = some first) (lower : hexValue low = some second)
      (rest : HexDigits digits bytes) :
      HexDigits (high :: low :: digits) (UInt8.ofNat (16 * first + second) :: bytes)

/-- The hex format of bytes. -/
inductive HexBytea : Text → List UInt8 → Prop
  | mk {digits : Text} {bytes : List UInt8} (read : HexDigits digits bytes) :
      HexBytea ('\\' :: 'x' :: digits) bytes

end Menagerie.Sql
