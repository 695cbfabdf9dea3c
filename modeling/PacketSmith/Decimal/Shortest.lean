import PacketSmith.Decimal.Binary64

/-!
# The shortest decimal of a binary number

A finite binary number is written with the fewest decimal digits that read back as the same number,
and among those with the digits nearest to it. For one digit, two digits and so on up to seventeen,
the two neighbours of the number on that decimal grid are compared with the interval of the reals
that round to the number; the first grid with a hit gives the digits.
-/

namespace PacketSmith.Binary64

/-- The reals that round to a number, in quarter units of its last binary digit: the ends, and
whether they belong to it. -/
structure Interval where
  /-- The lower end. -/
  low : Nat
  /-- The upper end. -/
  high : Nat
  /-- The ends round to the number as well. -/
  closed : Bool

/-- The interval around `m · 2 ^ q`. Below a power of two the neighbour is half as far away. -/
def interval (m : Nat) (q : Int) : Interval where
  low := if m == twoTo 52 && q > leastExponent then 4 * m - 1 else 4 * m - 2
  high := 4 * m + 2
  closed := m % 2 == 0

/-- The interval, scaled by `u / v`, contains the number `x / v`. -/
def Interval.contains (i : Interval) (u x : Nat) : Bool :=
  if i.closed then i.low * u ≤ x && x ≤ i.high * u else i.low * u < x && x < i.high * u

/-- The decimal of a number on the grid of the multiples of `10 ^ k`, if one lies in its interval:
of two the nearer, of two as near the even one. The number is `4 · m · u / v` with `u / v = 2 ^ (q -
2)`. -/
def onGrid? (i : Interval) (m u v : Nat) (k : Int) : Option Nat :=
  let p := tenTo k.natAbs
  -- Everything below is multiplied by `v`, and by `p` too where the grid is finer than one.
  let unit := if k ≥ 0 then v * p else v
  let fine := if k ≥ 0 then u else u * p
  let value := 4 * m * fine
  let below := value / unit
  let lowHit := i.contains fine (below * unit)
  let highHit := i.contains fine ((below + 1) * unit)
  if lowHit && highHit then
    let down := value - below * unit
    let up := (below + 1) * unit - value
    some (if down < up || (down == up && below % 2 == 0) then below else below + 1)
  else if lowHit then some below
  else if highHit then some (below + 1)
  else none

/-- The place of the first decimal digit of `4 · m · u / v`: the number is at least `10 ^ place` and
below `10 ^ (place + 1)`. -/
def leadingPlace (m u v : Nat) : Int :=
  (digitCount (4 * m * u * tenTo 400 / v) : Int) - 401

/-- The first decimal found on the grids of `count` and more digits, as digits and a power of ten.
Seventeen digits tell any two numbers apart, so as many tries find one. -/
def firstOnGrid (i : Interval) (m u v : Nat) (place : Int) : (tries count : Nat) → Nat × Int
  | 0, _ => (4 * m * u / v, 0)
  | tries + 1, count =>
    let k := place + 1 - count
    match onGrid? i m u v k with
    | some d => (d, k)
    | none => firstOnGrid i m u v place tries (count + 1)

/-- The shortest decimal `d · 10 ^ k` that reads back as `m · 2 ^ q`, for a positive `m`. -/
def shortest (m : Nat) (q : Int) : Nat × Int :=
  let s := q - 2
  let u := if s ≥ 0 then twoTo s.toNat else 1
  let v := if s ≥ 0 then 1 else twoTo (-s).toNat
  firstOnGrid (interval m q) m u v (leadingPlace m u v) 17 1

/-- The decimal digits of a number without the zeros at its end. -/
def significantDigits (n : Nat) : List Char :=
  ((Nat.toDigits 10 n).reverse.dropWhile (· == '0')).reverse

/-- Where the notation of a number changes, and how an exponent is written. -/
structure Layout where
  /-- From this place of the first digit on, an exponent is written. -/
  large : Int
  /-- Up to this place of the first digit, an exponent is written. -/
  small : Int
  /-- The least number of digits of an exponent. -/
  exponentDigits : Nat

/-- The notation of numbers that stand where a text was expected: digits at their places from
`0.0001` up to sixteen places before the point, an exponent of at least two digits beyond. -/
def plainLayout : Layout := ⟨16, -5, 2⟩

/-- An exponent with its sign and its least number of digits. -/
def exponentText (n : Layout) (e : Int) : List Char :=
  let ds := Nat.toDigits 10 e.natAbs
  (if e < 0 then '-' else '+') :: (List.replicate (n.exponentDigits - ds.length) '0' ++ ds)

/-- Digits with the first at the given place: at their places with at least one digit after the
point, or one digit before the point and an exponent. -/
def layOut (n : Layout) (ds : List Char) (place : Int) : List Char :=
  if place ≥ n.large || place ≤ n.small then
    let fraction := ds.drop 1
    ds.take 1 ++ (if fraction.isEmpty then [] else '.' :: fraction) ++ 'e' :: exponentText n place
  else if place < 0 then
    '0' :: '.' :: (List.replicate (-place - 1).toNat '0' ++ ds)
  else
    let whole := place.toNat + 1
    let fraction := ds.drop whole
    ds.take whole ++ List.replicate (whole - ds.length) '0' ++
      '.' :: (if fraction.isEmpty then ['0'] else fraction)

/-- The text of a number. -/
def text : Binary64 → String
  | nan => "nan"
  | infinite false => "inf"
  | infinite true => "-inf"
  | finite negative m q =>
    let sign := if negative then ['-'] else []
    if m == 0 then String.ofList (sign ++ ['0', '.', '0'])
    else
      let (d, k) := shortest m q
      let place := k + digitCount d - 1
      String.ofList (sign ++ layOut plainLayout (significantDigits d) place)

end PacketSmith.Binary64
