/-!
# Decimals and doubles

A decimal `digits × 10^exp` is read as the double nearest to it, ties to an even mantissa, as
correct readers of floating-point text do.  A double is written back with the fewest
significant digits that read back as the same double (of two such, the nearer one), in
positional notation: no exponent, and at least one digit after the point.

A finite double is `m × 2^e` with `m < 2^53` and `-1074 ≤ e ≤ 971`; it is normal when
`m ≥ 2^52`.  The values that read as it lie between the midpoints to its neighbours, the
midpoints included when `m` is even.  The lower neighbour is closer by half when `m = 2^52` and
`e` is above the least exponent.

All arithmetic is exact, on natural numbers.
-/

namespace ForgeSync

namespace Decimal

/-- A double that is not zero, as `mantissa × 2^exponent`, or infinity. -/
inductive Double where
  | finite (mantissa : Nat) (exponent : Int)
  | infinite
  | zero
  deriving Repr, DecidableEq

/-- `a × 2^i × 10^j` compared with `b × 2^k × 10^l`. -/
def compareScaled (a : Nat) (i j : Int) (b : Nat) (k l : Int) : Ordering :=
  let two := min (min i k) 0
  let ten := min (min j l) 0
  let lhs := a * Nat.pow 2 (i - two).toNat * Nat.pow 10 (j - ten).toNat
  let rhs := b * Nat.pow 2 (k - two).toNat * Nat.pow 10 (l - ten).toNat
  compare lhs rhs

/-- The floor of `num / den` rounded to the nearest integer instead, ties to even. -/
def roundHalfEven (num den : Nat) : Nat :=
  let q := num / den
  let r := num % den
  if 2 * r > den then q + 1
  else if 2 * r == den then (if q % 2 == 1 then q + 1 else q)
  else q

/-- The exponent `e` with `2^e ≤ num / den < 2^(e+1)`, for positive numbers. -/
def binaryMagnitude (num den : Nat) : Int :=
  let k : Int := (num.log2 : Int) - den.log2
  if compareScaled num 0 0 den k 0 != .lt then k else k - 1

/-- The double nearest to `num / den`. -/
def nearest (num den : Nat) : Double :=
  if num == 0 || den == 0 then .zero
  else
    let e := max (binaryMagnitude num den - 52) (-1074)
    let n := num * Nat.pow 2 (-e).toNat
    let d := den * Nat.pow 2 e.toNat
    let m := roundHalfEven n d
    let (m, e) := if m == Nat.pow 2 53 then (Nat.pow 2 52, e + 1) else (m, e)
    if m == 0 then .zero
    else if e > 971 then .infinite
    else .finite m e

/-- The double nearest to `digits × 10^exp`.  Far outside the range of doubles the answer is
known without arithmetic on huge numbers. -/
def ofDecimal (digits : Nat) (exp : Int) : Double :=
  let size : Int := (toString digits).length
  if digits == 0 then .zero
  else if exp + size > 400 then .infinite
  else if exp + size < -400 then .zero
  else if 0 ≤ exp then nearest (digits * Nat.pow 10 exp.toNat) 1
  else nearest digits (Nat.pow 10 (-exp).toNat)

/-- The exponent `t` with `10^t ≤ m × 2^e < 10^(t+1)`, for `m > 0`. -/
def decimalMagnitude (m : Nat) (e : Int) : Int :=
  let guess : Int := ((m.log2 : Int) + e) * 30103 / 100000
  let up (t : Int) : Bool := compareScaled m e 0 1 0 (t + 1) != .lt
  let down (t : Int) : Bool := compareScaled m e 0 1 0 t == .lt
  let t := if up guess then guess + 1 else if down guess then guess - 1 else guess
  if up t then t + 1 else if down t then t - 1 else t

/-- The fewest significant digits that read back as the double `m × 2^e`: digits `d` and an
exponent `p` with the double nearest to `d × 10^p` being `m × 2^e`. -/
def shortest (m : Nat) (e : Int) : Nat × Int :=
  -- The double and its bounds, in units of 2^(e-2).
  let x := 4 * m
  let high := 4 * m + 2
  let low := if m == Nat.pow 2 52 && e > -1074 then 4 * m - 1 else 4 * m - 2
  let inclusive := m % 2 == 0
  let unit := e - 2
  let within (d : Nat) (p : Int) : Bool :=
    let lo := compareScaled d 0 p low unit 0
    let hi := compareScaled d 0 p high unit 0
    (if inclusive then lo != .lt else lo == .gt) && (if inclusive then hi != .gt else hi == .lt)
  let top := decimalMagnitude m e
  let attempt (k : Nat) : Option (Nat × Int) :=
    let p : Int := top - k + 1
    -- The grid points on either side of the double.
    let num := x * Nat.pow 2 unit.toNat * Nat.pow 10 (-p).toNat
    let den := Nat.pow 2 (-unit).toNat * Nat.pow 10 p.toNat
    let below := num / den
    let above := below + 1
    match within below p, within above p with
    | true, true =>
      match compareScaled (2 * x) unit 0 (2 * below + 1) 0 p with
      | .lt => some (below, p)
      | .gt => some (above, p)
      | .eq => some (if below % 2 == 0 then below else above, p)
    | true, false => some (below, p)
    | false, true => some (above, p)
    | false, false => none
  let found := ((List.range 17).map (· + 1)).findSome? attempt
  found.getD (m, e)

/-- Drop the zeros at the end of a decimal's digits. -/
def trimZeros (d : Nat) (p : Int) (fuel : Nat) : Nat × Int :=
  match fuel with
  | 0 => (d, p)
  | fuel + 1 => if d != 0 && d % 10 == 0 then trimZeros (d / 10) (p + 1) fuel else (d, p)

/-- `d × 10^p` in positional notation, with at least one digit after the point. -/
def positional (d : Nat) (p : Int) : String :=
  let s := toString d
  let n : Int := s.length
  if 0 ≤ p then s ++ String.ofList (List.replicate p.toNat '0') ++ ".0"
  else if -p < n then
    let cut := (n + p).toNat
    String.ofList (s.toList.take cut) ++ "." ++ String.ofList (s.toList.drop cut)
  else "0." ++ String.ofList (List.replicate (-p - n).toNat '0') ++ s

/-- The text of the double nearest to `±digits × 10^exp`. -/
def display (negative : Bool) (digits : Nat) (exp : Int) : String :=
  let sign := if negative then "-" else ""
  match ofDecimal digits exp with
  | .zero => sign ++ "0.0"
  | .infinite => sign ++ "inf"
  | .finite m e =>
    let (d, p) := shortest m e
    let (d, p) := trimZeros d p 20
    sign ++ positional d p

end Decimal

end ForgeSync
