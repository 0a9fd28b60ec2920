/-!
# Binary numbers of sixty-four bits

The numbers with a fraction that a settings file can hold: sign, fifty-three binary digits and an
exponent, two infinities, and a value that is no number. Everything is computed exactly on whole
numbers and rounded once at the end, to the nearest number and to the even one of two nearest.

* `ofRatio`, `ofDecimal`: the number nearest to a quotient or to a decimal numeral.
* `shortest`: the fewest decimal digits that lead back to the number.
* `text`: those digits, positional from `10 ^ -4` up to `10 ^ 16` and with an exponent elsewhere.
-/

namespace ImageSigning

/-- A number of sixty-four bits. -/
inductive Binary64 where
  /-- `m * 2 ^ q`, negated or not. Either `q` is the least exponent or `m` has all digits. -/
  | finite (negative : Bool) (m : Nat) (q : Int)
  | infinite (negative : Bool)
  | nan
  deriving DecidableEq, Repr

namespace Binary64

/-- Binary digits of a number. -/
def precision : Nat := 53

/-- The least exponent. -/
def leastExponent : Int := -1074

/-- The greatest exponent. -/
def greatestExponent : Int := 971

/-- Zero. -/
def zero : Binary64 := finite false 0 leastExponent

/-! ### Rounding -/

/-- The whole number nearest to a quotient, the even one of two nearest. -/
def nearest (num den : Nat) : Nat :=
  let q := num / den
  let r := num % den
  if den < 2 * r ∨ (2 * r = den ∧ q % 2 = 1) then q + 1 else q

/-- A quotient times `base ^ e` as a quotient. -/
def scale (base : Nat) (e : Int) (num den : Nat) : Nat × Nat :=
  (num * base.pow e.toNat, den * base.pow (-e).toNat)

/-- The exponent of the greatest power of two that is not above a quotient other than zero. -/
def binaryOrder (num den : Nat) : Int :=
  let guess : Int := num.log2 - den.log2
  let (n, d) := scale 2 (-guess) num den
  if n < d then guess - 1 else guess

/-- The number nearest to a quotient. -/
def ofRatio (negative : Bool) (num den : Nat) : Binary64 :=
  if num = 0 then finite negative 0 leastExponent
  else
    let q := max leastExponent (binaryOrder num den - (precision - 1))
    let (n, d) := scale 2 (-q) num den
    let m := nearest n d
    let (m, q) := if m = Nat.pow 2 precision then (m / 2, q + 1) else (m, q)
    if greatestExponent < q then infinite negative else finite negative m q

/-- Decimal digits of a number. -/
def digitCount (n : Nat) : Nat := (Nat.toDigits 10 n).length

/-- A decimal order that every number other than zero stays within. -/
def decimalLimit : Int := 400

/-- The number nearest to `n * 10 ^ e`. -/
def ofDecimal (negative : Bool) (n : Nat) (e : Int) : Binary64 :=
  if n = 0 then finite negative 0 leastExponent
  else
    let order := digitCount n + e
    if decimalLimit < order then infinite negative
    else if order < -decimalLimit then finite negative 0 leastExponent
    else
      let (num, den) := scale 10 e n 1
      ofRatio negative num den

/-- The number nearest to a natural number. -/
def ofNat (n : Nat) : Binary64 := ofRatio false n 1

/-! ### Arithmetic -/

/-- The size of a finite number as a quotient. -/
def magnitude (m : Nat) (q : Int) : Nat × Nat := scale 2 q m 1

/-- The number without its sign. -/
def abs : Binary64 → Binary64
  | finite _ m q => finite false m q
  | infinite _ => infinite false
  | nan => nan

/-- The number with its sign turned. -/
def neg : Binary64 → Binary64
  | finite s m q => finite (!s) m q
  | infinite s => infinite (!s)
  | nan => nan

/-- The sum of the sizes of two numbers. -/
def addAbs : Binary64 → Binary64 → Binary64
  | finite _ m q, finite _ m' q' =>
    let (a, b) := magnitude m q
    let (c, d) := magnitude m' q'
    ofRatio false (a * d + c * b) (b * d)
  | nan, _ | _, nan => nan
  | _, _ => infinite false

/-- The product of the sizes of two numbers. -/
def mulAbs : Binary64 → Binary64 → Binary64
  | finite _ m q, finite _ m' q' =>
    let (a, b) := magnitude m q
    let (c, d) := magnitude m' q'
    ofRatio false (a * c) (b * d)
  | nan, _ | _, nan => nan
  | finite _ 0 _, _ | _, finite _ 0 _ => nan
  | _, _ => infinite false

/-- The value of a finite number as a signed numerator and a denominator. -/
def ratio? : Binary64 → Option (Int × Nat)
  | finite negative m q =>
    let (n, d) := magnitude m q
    some (if negative then -n else n, d)
  | _ => none

/-- Whether the number is less than another. -/
def less : Binary64 → Binary64 → Bool
  | nan, _ | _, nan => false
  | infinite s, infinite t => s && !t
  | infinite s, _ => s
  | _, infinite t => !t
  | x, y =>
    match x.ratio?, y.ratio? with
    | some (a, b), some (c, d) => a * d < c * b
    | _, _ => false

/-- Whether two numbers have the same value; both zeros do. -/
def sameValue (x y : Binary64) : Bool :=
  match x, y with
  | nan, _ | _, nan => false
  | finite _ 0 _, finite _ 0 _ => true
  | x, y => x = y

/-- The whole number that the number is, if it is one. -/
def integer? (x : Binary64) : Option Int := do
  let (n, d) ← x.ratio?
  if n % d = 0 then some (n / d) else none

/-! ### Decimal digits -/

/-- The least `k` such that a quotient other than zero is below `10 ^ k`. -/
def decimalOrder (num den : Nat) : Int :=
  digitCount (num * Nat.pow 10 decimalLimit.toNat / den) - decimalLimit

/-- Whether a quotient lies among the values that round to `m * 2 ^ q`; those at the ends do if `m` is
even. Everything is compared in units of `2 ^ (q - 2)`. -/
def roundsTo (m : Nat) (q : Int) (num den : Nat) : Bool :=
  let below := if m = Nat.pow 2 (precision - 1) ∧ leastExponent < q then 1 else 2
  let (n, d) := scale 2 (2 - q) num den
  let low := (4 * m - below) * d
  let high := (4 * m + 2) * d
  if m % 2 = 0 then low ≤ n && n ≤ high else low < n && n < high

/-- The numeral of `count` digits that leads back to `m * 2 ^ q`, if there is one: its digits and its
decimal exponent. Of two the nearer is taken, and of two equally near ones the even one. -/
def numeralOf (m : Nat) (q : Int) (count : Nat) : Option (Nat × Int) :=
  let (num, den) := magnitude m q
  let e := decimalOrder num den - count
  let (n, d) := scale 10 (-e) num den
  let down := n / d
  let fits (c : Nat) : Bool :=
    let (a, b) := scale 10 e c 1
    roundsTo m q a b
  let near := nearest n d
  if fits near then some (near, e)
  else if fits down then some (down, e)
  else if fits (down + 1) then some (down + 1, e)
  else none

/-- The digits that are always enough. -/
def maxDigits : Nat := 17

/-- A numeral without zeros at its end. -/
def dropZeros : Nat → Nat × Int → Nat × Int
  | 0, x => x
  | fuel + 1, (n, e) => if n ≠ 0 ∧ n % 10 = 0 then dropZeros fuel (n / 10, e + 1) else (n, e)

/-- The fewest decimal digits that lead back to `m * 2 ^ q`, and their decimal exponent. -/
def shortest (m : Nat) (q : Int) : Nat × Int :=
  if m = 0 then (0, 0)
  else
    let found := (List.range maxDigits).findSome? fun i => numeralOf m q (i + 1)
    dropZeros maxDigits (found.getD (0, 0))

/-! ### Text -/

/-- Zeros. -/
def zeros (n : Int) : String := String.ofList (List.replicate n.toNat '0')

/-- An exponent of at least two digits with its sign. -/
def exponentText (e : Int) : String :=
  let digits := toString e.natAbs
  (if e < 0 then "-" else "+") ++ zeros (2 - digits.length) ++ digits

/-- Digits with a decimal point behind the first `place` of them; zeros fill what is missing. -/
def positional (digits : String) (place : Int) : String :=
  if place ≤ 0 then "0." ++ zeros (-place) ++ digits
  else if digits.length ≤ place then digits ++ zeros (place - digits.length) ++ ".0"
  else (digits.take place.toNat).toString ++ "." ++ (digits.drop place.toNat).toString

/-- Digits with a decimal point behind the first, and an exponent. -/
def scientific (digits : String) (e : Int) : String :=
  let rest := (digits.drop 1).toString
  (digits.take 1).toString ++ (if rest = "" then "" else "." ++ rest) ++ "e" ++ exponentText e

/-- The size of a finite number in decimal digits. -/
def magnitudeText (m : Nat) (q : Int) : String :=
  let (n, e) := shortest m q
  let digits := toString n
  let place := digits.length + e
  if m = 0 then "0.0"
  else if place ≤ -4 ∨ 16 < place then scientific digits (place - 1)
  else positional digits place

/-- The number in decimal digits. -/
def text : Binary64 → String
  | nan => "nan"
  | infinite negative => if negative then "-inf" else "inf"
  | finite negative m q => (if negative then "-" else "") ++ magnitudeText m q

end Binary64

end ImageSigning
