/-!
# Hexadecimal

Bytes are written as pairs of lower-case digits.  The reader takes digits of either case.

## Main definitions

* `hexDigit n`, `hexValue? c` — one digit, written and read.
* `hexNumber n` — a number without leading zeros.
* `hex bytes`, `unhex? text` — a byte string, written and read.

## Main statements

* `length_hexChars` — a byte takes two characters.
-/

namespace GatewayCompiler.Encoding

/-- `hexDigit n` is the lower-case digit of a number below sixteen. -/
def hexDigit (n : Nat) : Char :=
  if n < 10 then Char.ofNat ('0'.toNat + n) else Char.ofNat ('a'.toNat + (n - 10))

/-- `hexValue? c` is the value of a hexadecimal digit of either case. -/
def hexValue? (c : Char) : Option Nat :=
  if '0' ≤ c ∧ c ≤ '9' then some (c.toNat - '0'.toNat)
  else if 'a' ≤ c ∧ c ≤ 'f' then some (c.toNat - 'a'.toNat + 10)
  else if 'A' ≤ c ∧ c ≤ 'F' then some (c.toNat - 'A'.toNat + 10)
  else none

/-- `hexNumber n` are the digits of `n` in base sixteen, without leading zeros. -/
def hexNumber (n : Nat) : List Char :=
  if n < 16 then [hexDigit n] else hexNumber (n / 16) ++ [hexDigit (n % 16)]

/-- The two digits of each byte. -/
def hexChars : List UInt8 → List Char
  | [] => []
  | byte :: rest => hexDigit (byte.toNat / 16) :: hexDigit (byte.toNat % 16) :: hexChars rest

/-- `hex bytes` is the byte string in lower-case hexadecimal. -/
def hex (bytes : List UInt8) : String := String.ofList (hexChars bytes)

/-- The bytes written by pairs of digits; nothing for an odd number of digits. -/
def unhexChars? : List Char → Option (List UInt8)
  | [] => some []
  | [_] => none
  | high :: low :: rest => do
    let h ← hexValue? high
    let l ← hexValue? low
    return UInt8.ofNat (16 * h + l) :: (← unhexChars? rest)

/-- `unhex? text` are the bytes written by a hexadecimal text of either case. -/
def unhex? (text : String) : Option (List UInt8) := unhexChars? text.toList

/-! ### Laws -/

/-- A byte takes two characters. -/
theorem length_hexChars (bytes : List UInt8) : (hexChars bytes).length = 2 * bytes.length := by
  induction bytes with
  | nil => rfl
  | cons byte rest ih => simp [hexChars, ih, Nat.mul_add]

end GatewayCompiler.Encoding
