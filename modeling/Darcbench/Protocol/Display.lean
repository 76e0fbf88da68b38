import Darcbench.Protocol.Float
import Mathlib.Data.Nat.Log

/-!
# Numbers in messages

Messages show floating-point numbers with a fixed number of decimals.  How a
number is shown is a parameter.  For machine numbers it is the exact value,
rounded to the nearest decimal with ties to even.
-/

namespace Darcbench

/-- The format `{:.N}` of a floating-point number. -/
class F64.Display (F : Type) where
  fixed : ℕ → F → String

/-- The format `{}` of a floating-point number. -/
class F64.Shortest (F : Type) where
  shortest : F → String

namespace F64

/-- A quotient, rounded to the nearest integer with ties to even. -/
def roundTiesEven (num den : ℕ) : ℕ :=
  let quotient := num / den
  let rest := num % den
  if 2 * rest < den ∨ 2 * rest = den ∧ quotient % 2 = 0 then
    quotient
  else
    quotient + 1

/-- A number of units of the last decimal place. -/
def pointed (decimals units : ℕ) : String :=
  if decimals = 0 then
    toString units
  else
    let fraction := toString (units % 10 ^ decimals)
    toString (units / 10 ^ decimals) ++ "." ++
      "".pushn '0' (decimals - fraction.length) ++ fraction

open Float.Model in
def signText : UnpackedFloat.Sign → String
  | .positive => ""
  | .negative => "-"

open Float.Model in
def fixedText (decimals : ℕ) : UnpackedFloat → String
  | .notANumber => "NaN"
  | .infinity sign => signText sign ++ "inf"
  | .zero sign => signText sign ++ pointed decimals 0
  | .finite sign mantissa exponent _ =>
      let scaled := mantissa * 10 ^ decimals
      signText sign ++ pointed decimals
        (roundTiesEven (scaled * 2 ^ exponent.toNat) (2 ^ (-exponent).toNat))

instance : Display Float where
  fixed decimals a := fixedText decimals a.toModel.unpack

example : Display.fixed 1 (0.25 : Float) = "0.2" := by decide +kernel

/-- The power of ten of the first digit of a quotient. -/
def leadingExponent (num den : ℕ) : ℤ :=
  if den ≤ num then Nat.log 10 (num / den)
  else -(Nat.clog 10 ((den + num - 1) / num) : ℤ)

/-- The digits of a quotient with a number of places after the point, rounded
down. -/
def digitsAt (num den : ℕ) (places : ℤ) : ℕ :=
  num * 10 ^ places.toNat / (den * 10 ^ (-places).toNat)

/-- The number that a decimal reads back as. -/
def readBack (digits : ℕ) (places : ℤ) : Float :=
  OfScientific.ofScientific digits (decide (0 < places)) places.natAbs

/-- A decimal with so many digits that reads back as the number. -/
def decimal? (a : Float) (num den count : ℕ) : Option (ℕ × ℤ) :=
  let places : ℤ := count - 1 - leadingExponent num den
  let digits := digitsAt num den places
  let low := if readBack digits places == a then some (digits, places) else none
  let high :=
    if readBack (digits + 1) places == a then some (digits + 1, places)
    else none
  if roundTiesEven (num * 10 ^ places.toNat) (den * 10 ^ (-places).toNat) =
      digits then
    low <|> high
  else
    high <|> low

/-- Seventeen digits always read back. -/
def shortestText (a : Float) (num den : ℕ) : String :=
  match (List.range 17).findSome? fun n => decimal? a num den (n + 1) with
  | some (digits, places) =>
      pointed places.toNat (digits * 10 ^ (-places).toNat)
  | none => ""

open Float.Model in
instance : Shortest Float where
  shortest a :=
    match a.toModel.unpack with
    | .notANumber => "NaN"
    | .infinity sign => signText sign ++ "inf"
    | .zero sign => signText sign ++ "0"
    | .finite sign mantissa exponent _ =>
        signText sign ++ shortestText a.abs (mantissa * 2 ^ exponent.toNat)
          (2 ^ (-exponent).toNat)

end F64

end Darcbench
