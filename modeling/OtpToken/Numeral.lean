/-!
# Decimal numerals

A numeral is an optional plus sign and one or more decimal digits, and its value
has to fit 64 bits. The first character that cannot be accepted decides the error.
-/

namespace OtpToken

/-- Why a text is not a numeral. -/
inductive NumeralError
  | empty
  | invalidDigit
  | tooLarge
  deriving DecidableEq, Repr

/-- The wording of a numeral error. -/
def NumeralError.message : NumeralError → String
  | empty => "cannot parse integer from empty string"
  | invalidDigit => "invalid digit found in string"
  | tooLarge => "number too large to fit in target type"

namespace Numeral

/-- The value of a decimal digit. -/
def digit? (c : Char) : Option Nat :=
  if '0' ≤ c ∧ c ≤ '9' then some (c.toNat - '0'.toNat) else none

/-- Continues a numeral whose digits so far have the given value. -/
def readDigits (value : Nat) : List Char → Except NumeralError Nat
  | [] => .ok value
  | c :: rest =>
    match digit? c with
    | none => .error .invalidDigit
    | some digit =>
      if 10 * value + digit < UInt64.size then readDigits (10 * value + digit) rest
      else .error .tooLarge

/-- The value of a numeral. -/
def read : List Char → Except NumeralError Nat
  | [] => .error .empty
  | ['+'] => .error .invalidDigit
  | '+' :: digits => readDigits 0 digits
  | digits => readDigits 0 digits

end Numeral

end OtpToken
