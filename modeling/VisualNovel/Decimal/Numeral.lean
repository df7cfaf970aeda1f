import VisualNovel.Decimal.Nearest
import VisualNovel.Text.Trim

/-!
# Reading decimal numerals

A numeral has an optional sign, digits with an optional point, and an optional exponent; at least
one digit stands before the exponent. The names of infinity and of the undefined number are
numerals too, in any case. The value is the nearest double.
-/

namespace VisualNovel.Decimal

/-- The value of a run of digits. -/
def ofDigits (digits : List Char) : Nat :=
  digits.foldl (fun value digit => 10 * value + (digit.toNat - '0'.toNat)) 0

/-- Splits a sign off; `true` stands for the minus sign. -/
def splitSign : List Char → Bool × List Char
  | '-' :: rest => (true, rest)
  | '+' :: rest => (false, rest)
  | characters => (false, characters)

/-- Reads what follows the digits: nothing, or an exponent with at least one digit. -/
def exponent? : List Char → Option Int
  | [] => some 0
  | mark :: rest =>
    if mark = 'e' || mark = 'E' then
      let (negative, digits) := splitSign rest
      (Text.digits? digits).map fun value => if negative then -(value : Int) else value
    else none

/-- Reads an unsigned numeral. -/
def magnitude? (characters : List Char) : Option Float :=
  let whole := characters.takeWhile Char.isDigit
  let afterWhole := characters.dropWhile Char.isDigit
  let (fraction, afterFraction) :=
    match afterWhole with
    | '.' :: rest => (rest.takeWhile Char.isDigit, rest.dropWhile Char.isDigit)
    | _ => ([], afterWhole)
  if whole.isEmpty && fraction.isEmpty then none
  else
    (exponent? afterFraction).map fun exponent =>
      nearest (ofDigits (whole ++ fraction)) (exponent - fraction.length)

/-- The values that are written as words. -/
def named? (characters : List Char) : Option Float :=
  match String.ofList (characters.map Char.toLower) with
  | "inf" | "infinity" => some (Float.ofBits (UInt64.ofNat infinityBits))
  | "nan" => some (0.0 / 0.0)
  | _ => none

/-- Reads a numeral as a double. -/
def read? (text : String) : Option Float :=
  let (negative, unsigned) := splitSign text.toList
  ((magnitude? unsigned).or (named? unsigned)).map fun magnitude =>
    if negative then -magnitude else magnitude

/-- Reads a numeral as a finite double; the named values and magnitudes that overflow are refused. -/
def readFinite? (text : String) : Option Float :=
  (read? text).filter Float.isFinite

end VisualNovel.Decimal
