/-!
# Binary numbers of 64 bits

The numbers that a registry file may hold besides whole ones: a sign, a mantissa below `2 ^ 53` and
a power of two not below `2 ^ (-1074)`, two infinities, and a value that is no number. A decimal is
read as the nearest of them, a tie going to the even mantissa; the arithmetic is exact, on whole
numbers.
-/

namespace PacketSmith

/-- A binary floating-point number of 64 bits. -/
inductive Binary64 where
  /-- No number. -/
  | nan
  /-- An infinity of either sign. -/
  | infinite (negative : Bool)
  /-- The number `± mantissa · 2 ^ exponent`. -/
  | finite (negative : Bool) (mantissa : Nat) (exponent : Int)
deriving DecidableEq, Repr

namespace Binary64

/-- A power of two. -/
def twoTo (n : Nat) : Nat := Nat.pow 2 n

/-- A power of ten. -/
def tenTo (n : Nat) : Nat := Nat.pow 10 n

/-- The smallest exponent of a finite number. -/
def leastExponent : Int := -1074

/-- The quotient of two numbers, rounded to the nearest whole number, a tie to the even one. -/
def roundDiv (n d : Nat) : Nat :=
  let q := n / d
  let r := n % d
  if 2 * r > d || (2 * r == d && q % 2 == 1) then q + 1 else q

/-- The fraction `n / (d · 2 ^ q)`, as a numerator and a denominator. -/
def scale (n d : Nat) (q : Int) : Nat × Nat :=
  if q ≥ 0 then (n, d * twoTo q.toNat) else (n * twoTo (-q).toNat, d)

/-- The number nearest to the positive fraction `n / d`. The first exponent is chosen so that the
quotient has 53 or 54 binary digits; one step mends the latter. -/
def ofFraction (negative : Bool) (n d : Nat) : Binary64 :=
  let q₀ : Int := (n.log2 : Int) - d.log2 - 53
  let s₀ := scale n d q₀
  let q₁ := if s₀.1 / s₀.2 ≥ twoTo 53 then q₀ + 1 else q₀
  let q := max q₁ leastExponent
  let s := scale n d q
  let m := roundDiv s.1 s.2
  let (m, q) := if m == twoTo 53 then (twoTo 52, q + 1) else (m, q)
  if q > 971 then infinite negative else finite negative m q

/-- How many decimal digits a number has. -/
def digitCount (n : Nat) : Nat := (Nat.toDigits 10 n).length

/-- The number nearest to `± n · 10 ^ e`. Decimals beyond the range are settled by their size, so
that no power of ten outgrows it. -/
def ofDecimal (negative : Bool) (n : Nat) (e : Int) : Binary64 :=
  let size := (digitCount n : Int) + e
  if n == 0 || size < -330 then finite negative 0 leastExponent
  else if size > 310 then infinite negative
  else if e ≥ 0 then ofFraction negative (n * tenTo e.toNat) 1
  else ofFraction negative n (tenTo (-e).toNat)

/-- The whole part of a finite number: its fraction is dropped. -/
def wholePart (negative : Bool) (m : Nat) (q : Int) : Int :=
  let n : Nat := if q ≥ 0 then m * twoTo q.toNat else m / twoTo (-q).toNat
  if negative then -(n : Int) else n

/-- The number is a zero of either sign. -/
def isZero : Binary64 → Bool
  | finite _ m _ => m == 0
  | _ => false

end Binary64
end PacketSmith
