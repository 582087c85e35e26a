import HeapLens.Decimal.Binary

/-!
# The shortest decimal that reads back

Every real number strictly between the midpoints to a number's two neighbours reads
back as that number; the midpoints themselves do so when its mantissa is even.
`shortest` looks through the decimal grids, multiples of a power of ten, from the
coarsest on, and takes the first one with a point in this interval: of two such
points the one nearer to the number, and the upper one of two that are equally near.
The number itself lies on some grid, so the search ends there at the latest.

All comparisons are made between whole numbers, in quarters of the last binary
place.
-/

namespace HeapLens

/-- A decimal, `coefficient * 10 ^ exponent`. -/
structure Decimal where
  coefficient : Nat
  exponent : Int
  deriving DecidableEq, Repr

namespace Magnitude

/-- The number in quarters of its last place. -/
def quarters (m : Magnitude) : Nat := 4 * m.mantissa

/-- The lower midpoint, in quarters of the last place. -/
def low (m : Magnitude) : Nat := m.quarters - if m.narrowBelow then 1 else 2

def high (m : Magnitude) : Nat := m.quarters + 2

/-- A quarter of the last place is `fine / coarse` steps of the grid of multiples of
`10 ^ k`. -/
def fine (m : Magnitude) (k : Int) : Nat :=
  Nat.pow 2 (m.exponent - 2).toNat * Nat.pow 10 (-k).toNat

def coarse (m : Magnitude) (k : Int) : Nat :=
  Nat.pow 2 (2 - m.exponent).toNat * Nat.pow 10 k.toNat

/-- Whether `c * 10 ^ k` reads back as the number. -/
def readsBack (m : Magnitude) (k : Int) (c : Nat) : Bool :=
  let point := c * m.coarse k
  if m.mantissa % 2 = 0 then
    decide (m.low * m.fine k ≤ point ∧ point ≤ m.high * m.fine k)
  else decide (m.low * m.fine k < point ∧ point < m.high * m.fine k)

/-- The point of the grid at or below the number. -/
def below (m : Magnitude) (k : Int) : Nat := m.quarters * m.fine k / m.coarse k

/-- Whether the number is nearer to the grid's point below it than to the one
above. -/
def leansDown (m : Magnitude) (k : Int) : Bool :=
  let rest := m.quarters * m.fine k % m.coarse k
  decide (2 * rest < m.coarse k)

/-- The point of the grid of multiples of `10 ^ k` that stands for the number, if
one reads back. -/
def onGrid? (m : Magnitude) (k : Int) : Option Nat :=
  let c := m.below k
  match m.readsBack k c, m.readsBack k (c + 1) with
  | true, true => some (if m.leansDown k then c else c + 1)
  | true, false => some c
  | false, true => some (c + 1)
  | false, false => none

/-- The number itself as a decimal. -/
def exact (m : Magnitude) : Decimal :=
  if m.exponent < 0 then ⟨m.mantissa * Nat.pow 5 (-m.exponent).toNat, m.exponent⟩
  else ⟨m.mantissa * Nat.pow 2 m.exponent.toNat, 0⟩

/-- The first of the grids `k`, `k - 1`, … with a point that reads back; after
`grids` of them the number itself. -/
def search (m : Magnitude) : (grids : Nat) → (k : Int) → Decimal
  | 0, _ => m.exact
  | grids + 1, k =>
    match m.onGrid? k with
    | some c => ⟨c, k⟩
    | none => m.search grids (k - 1)

/-- The shortest decimal that reads back. The search begins at a power of ten above
the number. -/
def shortest (m : Magnitude) : Decimal :=
  let top := (Nat.toDigits 10
    (m.exact.coefficient / Nat.pow 10 (-m.exact.exponent).toNat)).length
  m.search (top - m.exact.exponent).toNat top

end Magnitude

/-! ## Positional text -/

/-- A decimal written out, without an exponent: all digits before the point, and
after it as many as the decimal has places. -/
def Decimal.positional (d : Decimal) : String :=
  let places := (-d.exponent).toNat
  let whole := toString (d.coefficient * Nat.pow 10 d.exponent.toNat / Nat.pow 10 places)
  if places = 0 then whole
  else
    let fraction := Nat.toDigits 10 (d.coefficient % Nat.pow 10 places)
    whole ++ "." ++ String.ofList (fraction.leftpad places '0')

/-- The text of a floating point number: the shortest decimal that reads back,
written out. Zero keeps its sign; what is not finite is named. -/
def FloatDatum.text : FloatDatum → String
  | .notANumber => "NaN"
  | .infinite negative => if negative then "-inf" else "inf"
  | .finite negative magnitude =>
    let digits :=
      if magnitude.mantissa = 0 then "0" else magnitude.shortest.positional
    if negative then "-" ++ digits else digits

end HeapLens
