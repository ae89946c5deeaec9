import FanControl.Decimal.Shortest

/-!
# Writing floating-point numbers

Two forms of a number are written. `Style.write` gives the shortest decimal that reads back, in
positional form while the exponent of its first digit is moderate and in scientific form beyond;
`oneDecimal` gives the exact value rounded to one decimal place.

## Main definitions

* `Style` holds what a format decides about its shortest form;
* `Style.write` is the text of a finite number, `writeFinite?` that of any datum that has one;
* `oneDecimal` is the reading on a dashboard.
-/

namespace FanControl.Decimal

open FloatingPoint

/-- When the shortest form of a number is positional: for a first digit of `10 ^ least` to
`10 ^ greatest`. -/
structure Style where
  least : Int
  greatest : Int
deriving DecidableEq, Repr

/-- Single-precision numbers are positional from `0.000001` to below `10 ^ 13`. -/
def Style.single : Style := ⟨-6, 12⟩

/-- Double-precision numbers are positional from `0.00001` to below `10 ^ 16`. -/
def Style.double : Style := ⟨-5, 15⟩

/-- The decimal digits of a positive number without the zeros it ends in. -/
def significantDigits (n : Nat) : List Char :=
  ((Nat.toDigits 10 n).reverse.dropWhile (· = '0')).reverse

/-- The digits `ds` of a number whose first digit stands for `10 ^ e`, with a point among or
beside them: a whole number ends in `.0`, and a fraction starts with `0.`. -/
def positional (ds : List Char) (e : Int) : List Char :=
  if e < 0 then
    '0' :: '.' :: (List.replicate ((-e).toNat - 1) '0' ++ ds)
  else
    let places := e.toNat + 1
    if ds.length ≤ places then ds ++ List.replicate (places - ds.length) '0' ++ ['.', '0']
    else ds.take places ++ '.' :: ds.drop places

/-- The digits `ds` with a point after the first, if there are more, and the exponent with its
sign. -/
def scientific (ds : List Char) (e : Int) : List Char :=
  let fraction := match ds.drop 1 with
    | [] => []
    | more => '.' :: more
  ds.take 1 ++ fraction ++ 'e' :: (if e < 0 then '-' else '+') :: Nat.toDigits 10 e.natAbs

/-- The shortest form of a number of quanta. -/
def Style.write (style : Style) (F : Format) (negative : Bool) (quanta : Nat) : List Char :=
  let magnitude :=
    if quanta = 0 then ['0', '.', '0']
    else
      let decimal := shortest F quanta
      let e := decimal.exponent + (Nat.toDigits 10 decimal.digits).length - 1
      let ds := significantDigits decimal.digits
      if style.least ≤ e ∧ e ≤ style.greatest then positional ds e else scientific ds e
  if negative then '-' :: magnitude else magnitude

/-- The shortest form of a datum; infinities and `nan` have none. -/
def Style.writeFinite? (style : Style) {F : Format} : Datum F → Option (List Char)
  | .finite negative quanta => some (style.write F negative quanta)
  | _ => none

/-- The value with one decimal place, a tie going to the even digit; a zero keeps its sign. -/
def oneDecimal {F : Format} : Datum F → String
  | .nan => "NaN"
  | .infinite negative => if negative then "-inf" else "inf"
  | .finite negative quanta =>
    let tenths := roundHalfEven (quanta * 10) (Nat.pow 2 F.scale)
    (if negative then "-" else "") ++ toString (tenths / 10) ++ "." ++ toString (tenths % 10)

end FanControl.Decimal
