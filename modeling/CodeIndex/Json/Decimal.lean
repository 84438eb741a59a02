/-!
# Doubles in decimal

Reading: the digits of a number that fit in 64 bits make a whole number, which is then multiplied or
divided by a power of ten. Writing: the fewest digits that lie nearer to the number than to any
other double, and of those the digits nearest to it.
-/

namespace CodeIndex.Decimal

/-! ## Reading -/

/-- Take up digits while the number they make fits in 64 bits. The rest is given back. -/
def takeFitting (n : Nat) : List Nat → Nat × List Nat
  | [] => (n, [])
  | d :: ds => if n * 10 + d < Nat.pow 2 64 then takeFitting (n * 10 + d) ds else (n, d :: ds)

/-- Ten to a power, as a double. -/
def power (e : Nat) : Float := Float.ofScientific 1 false e

/-- The greatest power of ten that is a double. -/
def maxPower : Nat := 308

/-- `n · 10^e` as a double, unless it is too large. -/
def scale? (n : Nat) (e : Int) : Option Float :=
  let x := n.toUInt64.toFloat
  if n = 0 then some 0
  else match e with
    | .ofNat e =>
      if e ≤ maxPower then
        let y := x * power e
        if y.isFinite then some y else none
      else none
    | .negSucc e =>
      let e := e + 1
      if e ≤ maxPower then some (x / power e)
      else if e ≤ 2 * maxPower then some (x / power maxPower / power (e - maxPower))
      else some 0

/-- The double that a number is read as: its whole digits, those after the point, and its
exponent. -/
def read? (whole fraction : List Nat) (exponent : Int) : Option Float :=
  let (n, skipped) := takeFitting 0 whole
  let (n, ignored) := takeFitting n fraction
  scale? n (exponent + skipped.length - (fraction.length - ignored.length : Nat))

/-! ## Writing -/

/-- A positive double as `m · 2^q`. -/
structure Parts where
  m : Nat
  q : Int

/-- The parts of a finite double's absolute value. -/
def parts (x : Float) : Parts :=
  let bits := x.toBits.toNat
  let field : Nat := bits / Nat.pow 2 52 % Nat.pow 2 11
  let rest : Nat := bits % Nat.pow 2 52
  if field = 0 then ⟨rest, -1074⟩ else ⟨Nat.pow 2 52 + rest, (field : Int) - 1075⟩

def isNegative (x : Float) : Bool := x.toBits.toNat ≥ Nat.pow 2 63

/-- The reals that are read as a double, in quarters of its last binary place. An even double takes
in both ends. -/
structure Interval where
  low : Nat
  high : Nat
  closed : Bool

def Parts.interval (p : Parts) : Interval :=
  let narrow := p.m = Nat.pow 2 52 && p.q > -1074
  ⟨4 * p.m - (if narrow then 1 else 2), 4 * p.m + 2, p.m % 2 = 0⟩

/-- The number `d · 10^e` lies in the interval of `m · 2^q`, compared as whole numbers. -/
def Interval.has (i : Interval) (q : Int) (d : Nat) (e : Int) : Bool :=
  let left := d * Nat.pow 10 e.toNat * Nat.pow 2 (2 - q).toNat
  let unit := Nat.pow 10 (-e).toNat * Nat.pow 2 (q - 2).toNat
  if i.closed then i.low * unit ≤ left && left ≤ i.high * unit
  else i.low * unit < left && left < i.high * unit

/-- The whole part of `m · 2^q / 10^e`. -/
def Parts.quotient (p : Parts) (e : Int) : Nat :=
  (p.m * Nat.pow 2 p.q.toNat * Nat.pow 10 (-e).toNat) /
    (Nat.pow 2 (-p.q).toNat * Nat.pow 10 e.toNat)

/-- `d` is at most as far from `m · 2^q / 10^e` as `d + 1` is; of two at the same distance the even
one is taken. -/
def Parts.roundsDown (p : Parts) (d : Nat) (e : Int) : Bool :=
  let twice := 2 * (p.m * Nat.pow 2 p.q.toNat * Nat.pow 10 (-e).toNat)
  let unit := Nat.pow 2 (-p.q).toNat * Nat.pow 10 e.toNat
  twice < (2 * d + 1) * unit || (twice = (2 * d + 1) * unit && d % 2 = 0)

/-- The digits at the grid of `10^e` that lie in the interval, nearest first. -/
def Parts.onGrid? (p : Parts) (e : Int) : Option Nat :=
  let d := p.quotient e
  let near := if p.roundsDown d e then [d, d + 1] else [d + 1, d]
  near.find? fun d => d > 0 && p.interval.has p.q d e

/-- The coarsest grid that has a point in the interval, from the grid of `10^e` downward. -/
def Parts.search (p : Parts) : Nat → Int → Nat × Int
  | 0, e => (p.quotient e, e)
  | n + 1, e => match p.onGrid? e with
    | some d => (d, e)
    | none => p.search n (e - 1)

/-- Take zeros off the end of digits. -/
def dropZeros : Nat → Nat → Int → Nat × Int
  | 0, d, e => (d, e)
  | n + 1, d, e => if d ≠ 0 && d % 10 = 0 then dropZeros n (d / 10) (e + 1) else (d, e)

/-- A power of ten above every double of the form `m · 2^q`. -/
def Parts.above (p : Parts) : Int :=
  let bits := p.q + 53
  (if bits < 0 then bits * 30 / 100 else bits * 31 / 100) + 2

/-- The shortest digits of a finite double that is not zero, and the power of ten they are counted
in. -/
def shortest (x : Float) : Nat × Int :=
  let p := parts x
  let (d, e) := p.search 50 p.above
  dropZeros 20 d e

def zeros (n : Nat) : String := String.ofList (List.replicate n '0')

/-- A finite double in decimal: with a point and no exponent from 10^-5 up to 10^16, else with one
digit before the point and an exponent. -/
def text (x : Float) : String :=
  let sign := if isNegative x then "-" else ""
  if (parts x).m = 0 then sign ++ "0.0"
  else
    let (d, e) := shortest x
    let digits := toString d
    let point : Int := digits.length + e
    sign ++
      if 0 ≤ e && point ≤ 16 then digits ++ zeros e.toNat ++ ".0"
      else if 0 < point && point ≤ 16 then
        (digits.take point.toNat).toString ++ "." ++ (digits.drop point.toNat).toString
      else if -5 < point && point ≤ 0 then "0." ++ zeros (-point).toNat ++ digits
      else
        let tail := if digits.length = 1 then "" else "." ++ (digits.drop 1).toString
        (digits.take 1).toString ++ tail ++ "e" ++ toString (point - 1)

end CodeIndex.Decimal
