import VisualNovel.Decimal.Shortest

/-!
# Layouts of decimals

A layout turns the shortest decimal of a finite double into text: which magnitudes are written
positionally, and what marks a whole number. Other magnitudes have one digit before the point and
a signed exponent.
-/

namespace VisualNovel.Decimal

/-- How a finite double is written. -/
structure Layout where
  /-- The exponents of the leading digit that are written positionally; `none` means all. -/
  positional : Option (Int × Int)
  /-- What follows the digits of a whole number written positionally. -/
  wholeMark : String

namespace Layout

/-- Plain text: always positional, without a mark on whole numbers. -/
def plain : Layout := ⟨none, ""⟩

/-- Document text: positional from `0.00001` up to sixteen whole digits, with `.0` on whole
numbers. -/
def document : Layout := ⟨some (-5, 15), ".0"⟩

/-- Whether the layout writes a leading digit of this exponent positionally. -/
def isPositional (layout : Layout) (leading : Int) : Bool :=
  match layout.positional with
  | none => true
  | some (least, greatest) => least ≤ leading && leading ≤ greatest

/-- Digits with the point in its place. -/
def positionalText (layout : Layout) (digits : List Char) (exponent : Int) : String :=
  if exponent ≥ 0 then
    String.ofList (digits ++ List.replicate exponent.toNat '0') ++ layout.wholeMark
  else
    let decimals := (-exponent).toNat
    if decimals < digits.length then
      let whole := digits.length - decimals
      String.ofList (digits.take whole ++ '.' :: digits.drop whole)
    else
      String.ofList ('0' :: '.' :: List.replicate (decimals - digits.length) '0' ++ digits)

/-- One digit, the others behind the point, and the exponent with its sign. -/
def scientificText (digits : List Char) (leading : Int) : String :=
  let mantissa :=
    match digits with
    | first :: second :: rest => first :: '.' :: second :: rest
    | _ => digits
  let sign := if leading < 0 then "-" else "+"
  String.ofList mantissa ++ "e" ++ sign ++ toString leading.natAbs

/-- Writes a finite double. -/
def write (layout : Layout) (value : Float) : String :=
  let bits := value.toBits.toNat
  let magnitude := bits % Nat.pow 2 63
  let sign := if bits / Nat.pow 2 63 = 0 then "" else "-"
  if magnitude = 0 then sign ++ layout.positionalText ['0'] 0
  else
    let decimal := shortest magnitude
    let digits := Nat.toDigits 10 decimal.coefficient
    let leading := decimal.exponent + digits.length - 1
    if layout.isPositional leading then sign ++ layout.positionalText digits decimal.exponent
    else sign ++ scientificText digits leading

end Layout

end VisualNovel.Decimal
