/-!
# Whole numbers in decimal

The form is an optional `+` and one or more ASCII digits.  The digits are taken from the left, and
the first one that is no digit or makes the number too large decides the error.

## Main definitions

* `IntegerError` — the ways in which a text is no number, with `IntegerError.message`.
* `natBelow limit text` — the number written by `text`, which has to be below `limit`.
-/

namespace GatewayCompiler.Text

/-- The ways in which a text is no number. -/
inductive IntegerError
  /-- There is no character at all. -/
  | empty
  /-- A character is no digit. -/
  | invalidDigit
  /-- The number does not fit. -/
  | tooLarge
  deriving DecidableEq, Repr

/-- The wording of an error. -/
def IntegerError.message : IntegerError → String
  | .empty => "cannot parse integer from empty string"
  | .invalidDigit => "invalid digit found in string"
  | .tooLarge => "number too large to fit in target type"

/-- The characters behind a plus sign, if there is one. -/
def dropPlus : List Char → List Char
  | '+' :: rest => rest
  | cs => cs

/-- `digit? c` is the value of an ASCII digit. -/
def digit? (c : Char) : Option Nat :=
  if '0' ≤ c ∧ c ≤ '9' then some (c.toNat - '0'.toNat) else none

/-- The number whose leading digits are `acc` and whose remaining ones are given. -/
def natDigits (limit : Nat) (acc : Nat) : List Char → Except IntegerError Nat
  | [] => .ok acc
  | c :: rest =>
    match digit? c with
    | none => .error .invalidDigit
    | some d =>
      if 10 * acc + d < limit then natDigits limit (10 * acc + d) rest else .error .tooLarge

/-- The number written by `text`, which has to be below `limit`. -/
def natBelow (limit : Nat) (text : String) : Except IntegerError Nat :=
  match text.toList with
  | [] => .error .empty
  | ['+'] => .error .invalidDigit
  | '+' :: digits => natDigits limit 0 digits
  | digits => natDigits limit 0 digits

/-- The first number that does not fit into 32 bits. -/
def limit32 : Nat := Nat.pow 2 32

/-- The first number that does not fit into 64 bits. -/
def limit64 : Nat := Nat.pow 2 64

end GatewayCompiler.Text
