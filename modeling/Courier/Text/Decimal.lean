import Courier.Text.WhiteSpace

/-!
# Decimal numbers in text

A number is one or more ASCII digits, with at most one plus sign in front and
any number of leading zeros.
-/

namespace Courier.Text

def digitValue? (c : Char) : Option Nat :=
  if '0'.toNat ≤ c.toNat ∧ c.toNat ≤ '9'.toNat then some (c.toNat - '0'.toNat) else none

/-- Reads digits after a number that has been read so far; anything above the
bound is refused, at the digit that reaches it. -/
def readDigits (bound : Nat) (soFar : Nat) : List Char → Option Nat
  | [] => some soFar
  | c :: rest =>
    match digitValue? c with
    | none => none
    | some d =>
      if bound < soFar * 10 + d then none else readDigits bound (soFar * 10 + d) rest

/-- The number in a text without surrounding white space, if it is at most the
bound. -/
def readNat? (bound : Nat) : List Char → Option Nat
  | [] => none
  | '+' :: [] => none
  | '+' :: rest => readDigits bound 0 rest
  | cs => readDigits bound 0 cs

end Courier.Text
