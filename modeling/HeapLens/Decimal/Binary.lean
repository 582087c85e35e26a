/-!
# Binary floating point data

What the bits of a floating point number stand for: a number that is not one, an
infinity, or `mantissa * 2 ^ exponent` with a sign.
-/

namespace HeapLens

/-- A binary interchange format: a sign bit, then so many bits of exponent, then of
fraction. -/
structure BinaryFormat where
  exponentBits : Nat
  fractionBits : Nat
  deriving DecidableEq, Repr

/-- Four bytes. -/
def BinaryFormat.single : BinaryFormat := ⟨8, 23⟩

/-- Eight bytes. -/
def BinaryFormat.double : BinaryFormat := ⟨11, 52⟩

/-- The magnitude of a finite number, `mantissa * 2 ^ exponent`. -/
structure Magnitude where
  mantissa : Nat
  exponent : Int
  /-- Whether the next smaller number is only half as far away as the next larger
  one. -/
  narrowBelow : Bool
  deriving DecidableEq, Repr

inductive FloatDatum where
  | notANumber
  | infinite (negative : Bool)
  | finite (negative : Bool) (magnitude : Magnitude)
  deriving DecidableEq, Repr

/-- The number that `bits` stand for. Exponents are stored with a bias; the smallest
stored exponent belongs to the numbers without a leading one, the largest to those
that are not finite. -/
def BinaryFormat.decode (format : BinaryFormat) (bits : Nat) : FloatDatum :=
  let fraction := bits % Nat.pow 2 format.fractionBits
  let stored := bits / Nat.pow 2 format.fractionBits % Nat.pow 2 format.exponentBits
  let negative := bits / Nat.pow 2 (format.fractionBits + format.exponentBits) % 2 == 1
  let bias : Nat := Nat.pow 2 (format.exponentBits - 1)
  let lowest : Int := 2 - bias - format.fractionBits
  if stored = Nat.pow 2 format.exponentBits - 1 then
    if fraction = 0 then .infinite negative else .notANumber
  else if stored = 0 then .finite negative ⟨fraction, lowest, false⟩
  else
    .finite negative
      ⟨Nat.pow 2 format.fractionBits + fraction, lowest + (stored - 1),
        fraction == 0 && stored != 1⟩

end HeapLens
