import GatewayCompiler.Decimal.Binary64
import GatewayCompiler.Encoding.Hex
import GatewayCompiler.Text.Integer

/-!
# What a plain scalar stands for

A scalar without quotes is text, and the type expected at its place says how the text is read.  A
text that reads as no value of that type stays a text.

## Main definitions

* `isNullWord`, `bool?` — the spellings of null and of the booleans.
* `unsigned?`, `negative?`, `signed?` — whole numbers in bases ten, sixteen, eight and two.
* `isFloat`, `isFraction` — the spellings of numbers with a fraction or an exponent.
-/

namespace GatewayCompiler.Document.Plain

/-- `isNullWord text` says that `text` is a spelling of null beside nothing at all. -/
def isNullWord (text : String) : Bool := ["null", "Null", "NULL", "~"].contains text

/-- `bool? text` is the boolean of which `text` is a spelling. -/
def bool? (text : String) : Option Bool :=
  if ["true", "True", "TRUE"].contains text then some true
  else if ["false", "False", "FALSE"].contains text then some false
  else none

/-! ### Whole numbers -/

/-- `digits? base cs` is the number written by digits of a base, of which there has to be one. -/
def digits? (base : Nat) : List Char → Option Nat
  | [] => none
  | digits => digits.foldlM (fun acc c => do
      let d ← Encoding.hexValue? c
      if d < base then some (base * acc + d) else none) 0

/-- `base cs` is the base that a text announces, with the digits that follow; ten without a mark. -/
def base : List Char → Nat × List Char
  | '0' :: 'x' :: rest => (16, rest)
  | '0' :: 'o' :: rest => (8, rest)
  | '0' :: 'b' :: rest => (2, rest)
  | digits => (10, digits)

/-- Whether the digits are more than a zero and begin with it; such a text is no number. -/
def hasLeadingZero : List Char → Bool
  | '0' :: c :: rest => (c :: rest).all Char.isDigit
  | _ => false

/-- `magnitude? cs` is the number written without a sign, in the base that it announces. -/
def magnitude? (cs : List Char) : Option Nat :=
  if hasLeadingZero cs then none else digits? (base cs).1 (base cs).2

/-- The number below `limit` that is written without a minus sign. -/
def unsigned? (limit : Nat) (text : String) : Option Nat := do
  let n ← magnitude? (Text.dropPlus text.toList)
  if n < limit then some n else none

/-- The number written with a minus sign, at most `bound` below zero. -/
def negative? (bound : Nat) (text : String) : Option Int := do
  match text.toList with
  | '-' :: rest =>
    let n ← magnitude? rest
    if n ≤ bound then some (-(n : Int)) else none
  | _ => none

/-- The number from `-bound` up to and without `bound`. -/
def signed? (bound : Nat) (text : String) : Option Int :=
  ((unsigned? bound text).map Int.ofNat) <|> negative? bound text

/-! ### Numbers with a fraction or an exponent -/

/-- The value of an exponent: an optional sign and at least one digit. -/
def exponent? : List Char → Option Int
  | '-' :: digits => (digits? 10 digits).map fun n => -(n : Int)
  | '+' :: digits => (digits? 10 digits).map Int.ofNat
  | digits => (digits? 10 digits).map Int.ofNat

/-- Whether `mantissa * 10 ^ exponent` lies within the finite numbers.  Exponents far beyond them
are decided by the number of digits. -/
def isFinite (mantissa : Nat) (exponent : Int) : Bool :=
  let size : Int := (toString mantissa).length + exponent
  if mantissa = 0 ∨ size < 300 then true
  else if 400 < size then false
  else Decimal.Binary64.ofDecimal (mantissa * Nat.pow 10 exponent.toNat) (-exponent).toNat ≠ .infinite

/-- `isDecimal cs` says that a text without a sign is a decimal number: digits with at most one
point, at least one digit among them, and perhaps an exponent. -/
def isDecimal (cs : List Char) : Bool :=
  let isMark := fun (c : Char) => c = 'e' || c = 'E'
  let number := cs.takeWhile fun c => !isMark c
  let tail := cs.dropWhile fun c => !isMark c
  let whole := number.takeWhile fun c => c ≠ '.'
  let part := (number.dropWhile fun c => c ≠ '.').drop 1
  match digits? 10 (whole ++ part) with
  | none => false
  | some mantissa =>
    match tail with
    | [] => isFinite mantissa (-(part.length : Int))
    | _ :: rest =>
      match exponent? rest with
      | none => false
      | some e => isFinite mantissa (e - part.length)

/-- The characters behind a sign, if there is one. -/
def dropSign : List Char → List Char
  | '+' :: rest => rest
  | '-' :: rest => rest
  | cs => cs

/-- `isFloat text` says that the text is a decimal number, or one of the words for infinity and for
what is no number. -/
def isFloat (text : String) : Bool :=
  let cs := dropSign text.toList
  [".nan", ".NaN", ".NAN"].contains text
    || [".inf", ".Inf", ".INF"].contains (String.ofList cs)
    || isDecimal cs

/-- `isFraction text` says that the text is a number that is not whole: digits that begin with a
zero are none. -/
def isFraction (text : String) : Bool :=
  !hasLeadingZero (dropSign text.toList) && isFloat text

end GatewayCompiler.Document.Plain
