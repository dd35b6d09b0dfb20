namespace WebDispatch.Json

/-- The number `± mantissa * 2^(scale - 1074)`. -/
structure Double where
  negative : Bool
  mantissa : Nat
  scale : Nat
  deriving DecidableEq, Repr

namespace Double

/-- A quotient rounded to the nearest integer, a tie to the even one. -/
def roundDiv (num den : Nat) : Nat :=
  let q := num / den
  let r := num % den
  if 2 * r < den then q
  else if den < 2 * r then q + 1
  else if q % 2 = 0 then q else q + 1

def leastFull : Nat := 0x10000000000000

def maxScale : Nat := 2045

def zero : Double := ⟨false, 0, 0⟩

def isZero (x : Double) : Bool :=
  x.mantissa == 0

def neg (x : Double) : Double :=
  { x with negative := !x.negative }

/-- The number nearest to a quotient of naturals, if it is not too large. -/
def ofRatio (num den : Nat) : Option Double :=
  let units := num <<< 1074
  let whole := units / den
  let scale := if whole < 2 * leastFull then 0 else whole.log2 - 52
  let mantissa := roundDiv units (den <<< scale)
  let (mantissa, scale) :=
    if mantissa = 2 * leastFull then (leastFull, scale + 1) else (mantissa, scale)
  if scale ≤ maxScale then some ⟨false, mantissa, scale⟩ else none

def units (x : Double) : Nat :=
  x.mantissa <<< x.scale

def mul (x y : Double) : Option Double :=
  ofRatio (x.units * y.units) (1 <<< 2148)

def div (x y : Double) : Option Double :=
  ofRatio x.units y.units

def same (x y : Double) : Bool :=
  x == y || x.isZero && y.isZero

def maxPowerOfTen : Nat := 308

def powerOfTen (n : Nat) : Double :=
  (ofRatio (Nat.pow 10 n) 1).getD zero

def scaleDown : Nat → Double → Nat → Option Double
  | 0, x, _ => some x
  | fuel + 1, x, n =>
    if x.isZero then some x
    else if n ≤ maxPowerOfTen then x.div (powerOfTen n)
    else (x.div (powerOfTen maxPowerOfTen)).bind fun y ↦ scaleDown fuel y (n - maxPowerOfTen)

/-- A significand times a power of ten, in two roundings: the significand is rounded first, and then
its product or quotient with the rounded power. After three divisions by the largest power nothing
is left of any significand of 64 bits. -/
def ofScientific (significand : Nat) (exponent : Int) : Option Double := do
  let x ← ofRatio significand 1
  if exponent < 0 then scaleDown 4 x exponent.natAbs
  else if exponent.natAbs ≤ maxPowerOfTen then x.mul (powerOfTen exponent.natAbs)
  else if x.isZero then some x
  else none

/-! ### Shortest digits -/

structure Decimal where
  digits : Nat
  exponent : Int
  deriving DecidableEq, Repr

/-- Four times the number in steps of 2^-1074, between the ends of what rounds to it. -/
def interval (x : Double) : Nat × Nat × Nat :=
  let step := 1 <<< x.scale
  let below := if x.mantissa = leastFull ∧ 0 < x.scale then step else 2 * step
  (4 * x.units - below, 4 * x.units, 4 * x.units + 2 * step)

def isBelow (num den : Nat) (k : Int) : Bool :=
  let power := Nat.pow 10 k.natAbs
  if k < 0 then num * power < den else num < den * power

def magnitude (num den : Nat) : Nat → Int → Int
  | 0, k => k
  | fuel + 1, k =>
    if isBelow num den k then
      if isBelow num den (k - 1) then magnitude num den fuel (k - 1) else k
    else magnitude num den fuel (k + 1)

def onGrid (x : Double) (exponent : Int) : Option Nat :=
  let (low, mid, high) := x.interval
  let up := Nat.pow 10 exponent.natAbs
  let den := 1 <<< 1076
  -- all four in one unit, so that a grid point `c` stands at `c * unit`
  let unit := if exponent < 0 then den else den * up
  let scale := if exponent < 0 then up else 1
  let (low, mid, high) := (low * scale, mid * scale, high * scale)
  let c := mid / unit
  let inside (n : Nat) : Bool :=
    if x.mantissa % 2 = 0 then low ≤ n * unit && n * unit ≤ high
    else low < n * unit && n * unit < high
  let down := mid - c * unit
  let rest := (c + 1) * unit - mid
  let lowerFirst := down < rest || down == rest && c % 2 == 0
  if inside c && inside (c + 1) then some (if lowerFirst then c else c + 1)
  else if inside c then some c
  else if inside (c + 1) then some (c + 1)
  else none

def dropZeros : Nat → Decimal → Decimal
  | 0, d => d
  | fuel + 1, d =>
    if d.digits ≠ 0 ∧ d.digits % 10 = 0 then dropZeros fuel ⟨d.digits / 10, d.exponent + 1⟩ else d

def searchGrid (x : Double) (top : Int) : Nat → Int → Decimal
  | 0, n => ⟨0, top - n⟩
  | fuel + 1, n =>
    match x.onGrid (top - n) with
    | some c => dropZeros 20 ⟨c, top - n⟩
    | none => searchGrid x top fuel (n + 1)

/-- The decimal with the fewest digits that rounds to a number, and of those the nearest to it.
Seventeen digits always suffice. -/
def shortest (x : Double) : Decimal :=
  if x.isZero then ⟨0, 0⟩
  else
    let guess := ((x.units.log2 : Int) - 1074) * 30103 / 100000
    searchGrid x (magnitude x.units (1 <<< 1074) 400 guess) 18 1

/-! ### Layout -/

def sign (x : Double) : List Char :=
  if x.negative then ['-'] else []

def withPoint (digits : List Char) (place : Int) : List Char × List Char :=
  if place ≤ 0 then (['0'], List.replicate place.natAbs '0' ++ digits)
  else
    let n := place.natAbs
    (digits.take n ++ List.replicate (n - digits.length) '0', digits.drop n)

def positional (x : Double) (whole : List Char) : List Char :=
  let d := x.shortest
  let digits := Nat.toDigits 10 d.digits
  let (front, back) := withPoint digits (digits.length + d.exponent)
  let back := if d.digits = 0 then [] else back
  x.sign ++ front ++ (if back.isEmpty then whole else '.' :: back)

def scientific (x : Double) : List Char :=
  let d := x.shortest
  let digits := Nat.toDigits 10 d.digits
  let power := d.exponent + digits.length - 1
  let back := digits.drop 1
  x.sign ++ digits.take 1 ++ (if back.isEmpty then [] else '.' :: back) ++ ['e'] ++
    (if power < 0 then ['-'] else ['+']) ++ Nat.toDigits 10 power.natAbs

def power (x : Double) : Int :=
  let d := x.shortest
  d.exponent + (Nat.toDigits 10 d.digits).length - 1

/-- The form in JSON text: positional from 10^-5 up to 10^16, and always with a fraction or an
exponent. -/
def toJsonText (x : Double) : List Char :=
  if x.isZero ∨ (-5 ≤ x.power ∧ x.power < 16) then x.positional ['.', '0'] else x.scientific

def toPlainText (x : Double) : List Char :=
  x.positional []

end Double

end WebDispatch.Json
