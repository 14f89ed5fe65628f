import SourceSnapshot.Text.Numeral

/-! The shortest decimal that reads back as a given binary fraction: among the decimals that round
to it the ones with fewest digits, and of these the nearest. All arithmetic is on natural numbers.
-/
namespace SourceSnapshot.Shortest

/-- A positive binary fraction `mantissa * 2 ^ exponent`. It is a `boundary` if the next smaller one
is half as far away as the next larger one. -/
structure Binary where
  mantissa : Nat
  exponent : Int
  boundary : Bool

structure Decimal where
  digits : Nat
  exponent : Int

/-- The fraction that a finite double stands for, without its sign; `none` for zero. -/
def Binary.ofFloat? (x : Float) : Option Binary :=
  let bits := x.toBits.toNat
  let fraction : Nat := bits % 4503599627370496
  let field : Nat := bits / 4503599627370496 % 2048
  if field = 0 then
    if fraction = 0 then none else some ⟨fraction, -1074, false⟩
  else some ⟨fraction + 4503599627370496, Int.ofNat field - 1075, fraction == 0 && field > 1⟩

/-- `a * 2 ^ twos * 10 ^ tens ≤ b` for integer exponents, decided on natural numbers. -/
private def leScaled (a : Nat) (twos tens : Int) (b : Nat) : Bool :=
  let left := a * Nat.pow 2 twos.toNat * Nat.pow 10 tens.toNat
  let right := b * Nat.pow 2 (-twos).toNat * Nat.pow 10 (-tens).toNat
  left ≤ right

/-- Whether `digits * 10 ^ exponent` reads as `b`: it lies between the points half way to the
neighbours, and on such a point only if the mantissa is even. -/
def Binary.isReadFrom (b : Binary) (d : Decimal) : Bool :=
  let low := 4 * b.mantissa - (if b.boundary then 1 else 2)
  let high := 4 * b.mantissa + 2
  let twos := b.exponent - 2
  let atLeast (n : Nat) := leScaled n twos (-d.exponent) d.digits
  let atMost (n : Nat) := leScaled d.digits (-twos) d.exponent n
  if b.mantissa % 2 = 0 then atLeast low && atMost high
  else !atMost low && !atLeast high

def Binary.floorAt (b : Binary) (exponent : Int) : Decimal :=
  ⟨b.mantissa * Nat.pow 2 b.exponent.toNat * Nat.pow 10 (-exponent).toNat /
    (Nat.pow 2 (-b.exponent).toNat * Nat.pow 10 exponent.toNat), exponent⟩

/-- The candidate on the grid of `10 ^ exponent`: of the two multiples next to `b`, one that reads
as it, the nearer if both do, the even one if neither is nearer. -/
def Binary.onGrid? (b : Binary) (exponent : Int) : Option Decimal :=
  let below := b.floorAt exponent
  let above : Decimal := ⟨below.digits + 1, exponent⟩
  let middle := 2 * below.digits + 1
  let belowReads := below.digits > 0 && b.isReadFrom below
  let aboveReads := b.isReadFrom above
  if belowReads && aboveReads then
    let toMiddle := leScaled (2 * b.mantissa) b.exponent (-exponent) middle
    let fromMiddle := leScaled middle (-b.exponent) exponent (2 * b.mantissa)
    if toMiddle && (!fromMiddle || below.digits % 2 = 0) then some below else some above
  else if belowReads then some below
  else if aboveReads then some above
  else none

def Binary.search (b : Binary) (exponent : Int) : Nat → Decimal
  | 0 => b.floorAt exponent
  | more + 1 => (b.onGrid? exponent).getD (b.search (exponent - 1) more)

/-- The shortest decimal that reads as `b`. No double needs more than 17 digits, and none is as
great as `10 ^ 309` or smaller than `10 ^ -324`. -/
def Binary.shortest (b : Binary) : Decimal :=
  let magnitude := ((Nat.toDigits 10 (b.floorAt (-330)).digits).length : Int) - 331
  b.search magnitude 18

/-- Layout of a decimal: positional while the power of ten of its first digit is between `least` and
`greatest`, else scientific with that power and its sign. -/
structure Layout where
  least : Int
  greatest : Int

private def trimZeros (digits : List Char) : List Char :=
  (digits.reverse.dropWhile (· == '0')).reverse

/-- The text of a decimal. Positional text has at least one place after the point. -/
def Layout.text (layout : Layout) (d : Decimal) : List Char :=
  let all := Numeral.digits d.digits
  let power := d.exponent + (all.length : Int) - 1
  let digits := trimZeros all
  if layout.least ≤ power ∧ power ≤ layout.greatest then
    if power < 0 then
      '0' :: '.' :: List.replicate (-power - 1).toNat '0' ++ digits
    else
      let whole := power.toNat + 1
      let padded := digits ++ List.replicate (whole - digits.length) '0'
      let places := padded.drop whole
      padded.take whole ++ '.' :: (if places.isEmpty then ['0'] else places)
  else
    let sign := if power < 0 then '-' else '+'
    match digits with
    | [] => []
    | first :: rest =>
      first :: (if rest.isEmpty then [] else '.' :: rest) ++
        'e' :: sign :: Numeral.digits power.natAbs

/-- The text of a finite double: its shortest decimal, with a minus sign if its sign bit is set. -/
def Layout.float (layout : Layout) (x : Float) : String :=
  let sign := if x.toBits >>> 63 = 1 then "-" else ""
  match Binary.ofFloat? x with
  | none => sign ++ "0.0"
  | some b => sign ++ String.ofList (layout.text b.shortest)

end SourceSnapshot.Shortest
