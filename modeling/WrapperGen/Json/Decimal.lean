import WrapperGen.Text.Basic

/-!
Floating-point numbers of 64 bits in decimal: the value of a decimal number of up to 64 bits times
a power of ten, and the shortest decimal text that reads back as the same number.
-/

namespace WrapperGen.Decimal

/-- A power of ten, rounded once. -/
def power (exponent : Nat) : Float := Float.ofScientific 1 false exponent

/-- A number divided by a power of ten, in steps of at most `10 ^ 308`, until nothing is left. -/
def scaleDown (value : Float) (exponent : Nat) : Float :=
  if exponent ≤ 308 then value / power exponent
  else if value == 0 then value
  else scaleDown (value / power 308) (exponent - 308)
termination_by exponent

/-- The number `significand * 10 ^ exponent`, unless it is too large. The significand is rounded
first and then multiplied or divided by a rounded power of ten. -/
def toFloat? (significand : UInt64) (exponent : Int) : Option Float :=
  let value := significand.toFloat
  if exponent < 0 then some (scaleDown value exponent.natAbs)
  else if exponent ≤ 308 then
    let product := value * power exponent.natAbs
    if product.isInf then none else some product
  else if value == 0 then some value
  else none

/-- A positive number as `mantissa * 2 ^ exponent`, from its bits. -/
structure Binary where
  mantissa : Nat
  exponent : Int

/-- The finite number with the given bits, without its sign. -/
def Binary.ofBits (bits : UInt64) : Binary :=
  let fraction := bits.toNat % Nat.pow 2 52
  let biased := bits.toNat / Nat.pow 2 52 % Nat.pow 2 11
  if biased = 0 then ⟨fraction, -1074⟩ else ⟨Nat.pow 2 52 + fraction, Int.ofNat biased - 1075⟩

/-- Whether `digits * 10 ^ scale` lies where numbers are rounded to the given one. The distances to
its neighbours are halved there, the lower one being half as far below a power of two. -/
def Binary.isRounding (number : Binary) (digits : Nat) (scale : Int) : Bool :=
  let halfBelow : Nat := if number.mantissa = Nat.pow 2 52 ∧ -1074 < number.exponent then 1 else 2
  -- everything is brought to whole multiples of a quarter of the last place
  let numerator := 4 * digits * Nat.pow 10 scale.toNat * Nat.pow 2 (-number.exponent).toNat
  let denominator := Nat.pow 10 (-scale).toNat * Nat.pow 2 number.exponent.toNat
  let low := (4 * number.mantissa - halfBelow) * denominator
  let high := (4 * number.mantissa + 2) * denominator
  if number.mantissa % 2 = 0 then low ≤ numerator && numerator ≤ high
  else low < numerator && numerator < high

/-- The multiple of `10 ^ scale` nearest to the number, the even one of two. -/
def Binary.nearest (number : Binary) (scale : Int) : Nat :=
  let numerator := number.mantissa * Nat.pow 2 number.exponent.toNat * Nat.pow 10 (-scale).toNat
  let denominator := Nat.pow 2 (-number.exponent).toNat * Nat.pow 10 scale.toNat
  let quotient := numerator / denominator
  let remainder := numerator % denominator
  if 2 * remainder < denominator then quotient
  else if denominator < 2 * remainder then quotient + 1
  else if quotient % 2 = 0 then quotient else quotient + 1

/-- The coarsest decimal grid, from the given scale down, of which a point next to the number reads
back as it, with that point; the nearest point is preferred, and then the one below. -/
def Binary.shortestFrom (number : Binary) (scale : Int) : Nat → Nat × Int
  | 0 => (number.nearest scale, scale)
  | attempts + 1 =>
    let near := number.nearest scale
    match [near, near - 1, near + 1].find? fun digits =>
        0 < digits && number.isRounding digits scale with
    | some digits => (digits, scale)
    | none => number.shortestFrom (scale - 1) attempts

/-- The fewest digits that read back as the number, and the power of ten of the last of them. -/
def Binary.shortest (number : Binary) : Nat × Int := number.shortestFrom 309 700

/-- The text of a decimal number: positional when its first digit stands at a place from -5 to 16
relative to the point, and with a signed exponent otherwise. -/
def render (digits : Text) (scale : Int) : Text :=
  let point := Int.ofNat digits.length + scale
  if 0 ≤ scale ∧ point ≤ 16 then digits ++ List.replicate scale.toNat '0' ++ ".0"
  else if 0 < point ∧ point ≤ 16 then
    digits.take point.toNat ++ ['.'] ++ digits.drop point.toNat
  else if -5 < point ∧ point ≤ 0 then "0." ++ List.replicate (-point).toNat '0' ++ digits
  else
    let exponent := (if point - 1 < 0 then ['-'] else ['+']) ++ Text.ofNat (point - 1).natAbs
    let fraction := digits.drop 1
    digits.take 1 ++ (if fraction.isEmpty then [] else ['.'] ++ fraction) ++ ['e'] ++ exponent

/-- The text of the finite number with the given bits. -/
def ofBits (bits : UInt64) : Text :=
  let sign : Text := if bits.toNat < Nat.pow 2 63 then [] else ['-']
  let number := Binary.ofBits bits
  if number.mantissa = 0 then sign ++ "0.0"
  else
    let (digits, scale) := number.shortest
    sign ++ render (Text.ofNat digits) scale

end WrapperGen.Decimal
