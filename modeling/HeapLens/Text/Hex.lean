/-!
# Hexadecimal text

Addresses are written as `0x` and lowercase hexadecimal digits without leading
zeros, single bytes as exactly two digits.
-/

namespace HeapLens.Text

/-- The lowercase hexadecimal digits of `n`, without leading zeros. -/
def hexDigits (n : Nat) : List Char := Nat.toDigits 16 n

/-- The hexadecimal digits of `n` as text; zero is `0`. -/
def hex (n : Nat) : String := String.ofList (hexDigits n)

/-- An address, as `0x` and its digits. -/
def hexAddress (n : Nat) : String := "0x" ++ hex n

/-- A byte as two digits. -/
def hexByte (b : UInt8) : String :=
  String.ofList [Nat.digitChar (b.toNat / 16), Nat.digitChar (b.toNat % 16)]

end HeapLens.Text
