import Courier.Text.Unprintable

/-!
# Quoted text

A text as it stands in an error message: between quotes, with the quote, the
backslash and the characters that cannot be seen spelled out.
-/

namespace Courier.Text

def hexDigit (n : Nat) : Char := "0123456789abcdef".toList.getD n '0'

/-- Lower-case hexadecimal, without leading zeros. -/
def hexOf (n : Nat) : String := String.ofList (Nat.toDigits 16 n)

/-- One character inside quotes: a tab, line feed, carriage return and NUL have
letters, the quote and the backslash a backslash, and what cannot be seen its
code point in braces. -/
def escape (quote c : Char) : String :=
  if c = '\t' then "\\t"
  else if c = '\n' then "\\n"
  else if c = '\r' then "\\r"
  else if c = Char.ofNat 0 then "\\0"
  else if c = quote || c = '\\' then String.ofList ['\\', c]
  else if isUnprintable c then "\\u\x7b" ++ hexOf c.toNat ++ "\x7d"
  else c.toString

def quoted (quote : Char) (text : String) : String :=
  quote.toString ++ String.join (text.toList.map (escape quote)) ++ quote.toString

end Courier.Text
