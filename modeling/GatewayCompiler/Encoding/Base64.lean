/-!
# Base64

The standard alphabet with padding.  Only the written form of some byte string is read: the text
comes in groups of four, padding stands at the end alone, and unused bits are zero.

## Main definitions

* `sextet? c` — the value of one symbol.
* `unbase64? text` — the bytes that `text` stands for.
-/

namespace GatewayCompiler.Encoding

/-- `sextet? c` is the value of the symbol `c` of the standard alphabet. -/
def sextet? (c : Char) : Option Nat :=
  if 'A' ≤ c ∧ c ≤ 'Z' then some (c.toNat - 'A'.toNat)
  else if 'a' ≤ c ∧ c ≤ 'z' then some (c.toNat - 'a'.toNat + 26)
  else if '0' ≤ c ∧ c ≤ '9' then some (c.toNat - '0'.toNat + 52)
  else if c = '+' then some 62
  else if c = '/' then some 63
  else none

/-- The bytes of a padded text.  The last group may stand for one or two bytes. -/
def unbase64Chars? : List Char → Option (List UInt8)
  | [] => some []
  | a :: b :: '=' :: '=' :: [] => do
    let a ← sextet? a
    let b ← sextet? b
    if b % 16 = 0 then some [UInt8.ofNat (4 * a + b / 16)] else none
  | a :: b :: c :: '=' :: [] => do
    let a ← sextet? a
    let b ← sextet? b
    let c ← sextet? c
    if c % 4 = 0 then
      some [UInt8.ofNat (4 * a + b / 16), UInt8.ofNat (16 * (b % 16) + c / 4)]
    else none
  | a :: b :: c :: d :: rest => do
    let a ← sextet? a
    let b ← sextet? b
    let c ← sextet? c
    let d ← sextet? d
    return UInt8.ofNat (4 * a + b / 16) :: UInt8.ofNat (16 * (b % 16) + c / 4)
      :: UInt8.ofNat (64 * (c % 4) + d) :: (← unbase64Chars? rest)
  | _ => none

/-- `unbase64? text` are the bytes that a base64 text stands for, which has to be padded. -/
def unbase64? (text : String) : Option (List UInt8) := unbase64Chars? text.toList

end GatewayCompiler.Encoding
