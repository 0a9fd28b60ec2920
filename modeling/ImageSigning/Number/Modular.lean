/-!
# Modular arithmetic

Powers, inverses and square roots modulo a number, and a primality test. Powers are taken by repeated
squaring; inverses and roots are powers and hold for a prime modulus.

* `powMod_lt`: a power is reduced.
* `powMod_eq`: repeated squaring computes the power.
-/

namespace ImageSigning.Number

/-- `acc * b ^ e` modulo `m`, with `fuel` at least the number of binary digits of `e`. -/
def powModFrom (m : Nat) : Nat → Nat → Nat → Nat → Nat
  | 0, acc, _, _ => acc
  | fuel + 1, acc, b, e =>
    if e = 0 then acc
    else powModFrom m fuel (if e % 2 = 1 then acc * b % m else acc) (b * b % m) (e / 2)

/-- `b ^ e` modulo `m`. -/
def powMod (b e m : Nat) : Nat := powModFrom m (e.log2 + 1) (1 % m) (b % m) e

/-- The inverse of `a` modulo the prime `p`. -/
def inverseMod (a p : Nat) : Nat := powMod a (p - 2) p

/-- How often two divides `n`, at most `fuel` times, and the odd rest. -/
def twosOf : Nat → Nat → Nat × Nat
  | 0, n => (0, n)
  | fuel + 1, n =>
    if n % 2 = 1 then (0, n)
    else
      let (s, odd) := twosOf fuel (n / 2)
      (s + 1, odd)

/-- The least `i` below `bound` with `t ^ (2 ^ i) = 1` modulo `p`, counted from `i`. -/
def orderExponent (p : Nat) : Nat → Nat → Nat → Nat
  | 0, i, _ => i
  | bound + 1, i, t => if t = 1 then i else orderExponent p bound (i + 1) (t * t % p)

/-- `x` squared `n` times modulo `p`. -/
def squareTimes (p : Nat) : Nat → Nat → Nat
  | 0, x => x
  | n + 1, x => squareTimes p n (x * x % p)

/-- The loop that corrects a candidate root `r` until its error `t` is one; `c` generates the group of
order `2 ^ m` that the error lies in. -/
def correctRoot (p : Nat) : Nat → Nat → Nat → Nat → Nat → Nat
  | 0, _, _, _, r => r
  | fuel + 1, m, c, t, r =>
    if t = 1 then r
    else
      let i := orderExponent p m 0 t
      let b := squareTimes p (m - i - 1) c
      correctRoot p fuel i (b * b % p) (t * (b * b % p) % p) (r * b % p)

/-- The least number from `z` on that is no square modulo `p`. -/
def nonSquare (p : Nat) : Nat → Nat → Nat
  | 0, z => z
  | fuel + 1, z => if powMod z ((p - 1) / 2) p = p - 1 then z else nonSquare p fuel (z + 1)

/-- A square root of `a` modulo the odd prime `p`, if there is one. -/
def sqrtMod? (a p : Nat) : Option Nat :=
  let a := a % p
  let root :=
    if a = 0 then 0
    else if p % 4 = 3 then powMod a ((p + 1) / 4) p
    else
      let (s, q) := twosOf (p.log2 + 1) (p - 1)
      correctRoot p (s + 1) s (powMod (nonSquare p 1000 2) q p) (powMod a q p)
        (powMod a ((q + 1) / 2) p)
  if root * root % p = a then some root else none

/-- Whether one of the next `s` squarings of `x` reaches `n - 1`. -/
def reachesMinusOne (n : Nat) : Nat → Nat → Bool
  | 0, _ => false
  | s + 1, x => x == n - 1 || reachesMinusOne n s (x * x % n)

/-- The bases that a candidate prime is tested with. -/
def witnesses : List Nat := [2, 3, 5, 7, 11, 13, 17, 19, 23, 29, 31, 37]

/-- Whether `n` passes the strong probable-prime test to every base of `witnesses`. -/
def isProbablePrime (n : Nat) : Bool :=
  if n < 2 then false
  else if witnesses.contains n then true
  else if witnesses.any fun w => n % w == 0 then false
  else
    let (s, odd) := twosOf (n.log2 + 1) (n - 1)
    witnesses.all fun w =>
      let x := powMod w odd n
      x == 1 || reachesMinusOne n s x

/-- A power modulo a number stays below it if the product so far does. -/
theorem powModFrom_lt {m : Nat} (fuel acc b e : Nat) (h : acc < m) :
    powModFrom m fuel acc b e < m := by
  induction fuel generalizing acc b e with
  | zero => exact h
  | succ fuel ih =>
    rw [powModFrom]
    split
    · exact h
    · apply ih
      split
      · exact Nat.mod_lt _ (by omega)
      · exact h

/-- A power is reduced. -/
theorem powMod_lt (b e : Nat) {m : Nat} (h : 0 < m) : powMod b e m < m :=
  powModFrom_lt _ _ _ _ (Nat.mod_lt _ h)

/-- With fuel for all its bits, a power is the one that repeated multiplication gives. -/
theorem powModFrom_eq (m : Nat) (fuel acc b e : Nat) (enough : e < Nat.pow 2 fuel) (h : acc % m = acc) :
    powModFrom m fuel acc b e = acc * b.pow e % m := by
  simp only [Nat.pow_eq] at enough ⊢
  induction fuel generalizing acc b e with
  | zero =>
    have : e = 0 := by omega
    simp [powModFrom, this, h]
  | succ fuel ih =>
    rw [powModFrom]
    split
    · rename_i zero
      simp [zero, h]
    · have half : e / 2 < Nat.pow 2 fuel := by rw [Nat.pow_eq]; rw [Nat.pow_succ] at enough; omega
      have square : (b * b % m).pow (e / 2) % m = b.pow (2 * (e / 2)) % m := by
        rw [Nat.pow_eq, Nat.pow_eq, ← Nat.pow_mod, Nat.pow_mul, Nat.pow_two]
      simp only [Nat.pow_eq] at square
      split
      · rename_i odd
        rw [ih _ _ _ half (Nat.mod_mod _ _), Nat.mul_mod, square, Nat.mod_mod, ← Nat.mul_mod,
          Nat.mul_assoc, ← Nat.pow_succ', show (2 * (e / 2)).succ = e by omega]
      · rename_i even
        rw [ih _ _ _ half h, Nat.mul_mod, square, ← Nat.mul_mod,
          show 2 * (e / 2) = e by omega]

/-- Repeated squaring computes the power. -/
theorem powMod_eq (b e m : Nat) : powMod b e m = b.pow e % m := by
  rw [powMod, powModFrom_eq _ _ _ _ _ Nat.lt_log2_self (by simp), Nat.pow_eq, Nat.pow_eq, Nat.mul_mod,
    ← Nat.pow_mod, Nat.mod_mod, ← Nat.mul_mod, Nat.one_mul]

end ImageSigning.Number
