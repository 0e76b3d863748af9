/-
# Powers and primes

`powMod b e m` is `b ^ e % m`, with one squaring and at most one product for each binary digit of
the exponent.

`isProbablyPrime` first tries the small primes as divisors and then asks, for several bases, for
what every prime fulfils: with `n - 1 = 2 ^ s · d` and `d` odd, the power of the base to `d` is one,
or one of its `s` first repeated squares is `n - 1`.  Below 3.3 · 10²⁴ the answer is exact.
-/
namespace Keyring.Rsa

/-! ## Powers modulo a number -/

/-- The remainder of `b ^ e` modulo `m`. -/
def powMod (b e m : Nat) : Nat :=
  if e = 0 then 1 % m
  else
    let half := powMod (b * b % m) (e / 2) m
    if e % 2 = 0 then half else half * b % m
termination_by e
decreasing_by omega

/-! ## Testing for primes -/

/-- The primes that are tried as divisors and then serve as bases. -/
def smallPrimes : List Nat :=
  [2, 3, 5, 7, 11, 13, 17, 19, 23, 29, 31, 37, 41]

/-- The exponent of two in `n` and the odd rest; zero is its own rest. -/
def splitTwos (n : Nat) : Nat × Nat :=
  if n = 0 ∨ n % 2 = 1 then (0, n)
  else
    let (s, d) := splitTwos (n / 2)
    (s + 1, d)
termination_by n
decreasing_by omega

/-- Whether `x` or one of its next repeated squares modulo `n`, `count` in all, is `n - 1`. -/
def reachesMinusOne (n : Nat) : (count x : Nat) → Bool
  | 0, _ => false
  | count + 1, x => x == n - 1 || reachesMinusOne n count (x * x % n)

/-- Whether the base `a` fails to show that the odd number `n` is composite. -/
def passes (n a : Nat) : Bool :=
  let (s, d) := splitTwos (n - 1)
  let x := powMod a d n
  x == 1 || reachesMinusOne n s x

/-- Whether `n` is two or more and no small prime shows that it is composite. -/
def isProbablyPrime (n : Nat) : Bool :=
  if n < 2 then false
  else if smallPrimes.contains n then true
  else if smallPrimes.any fun p => n % p == 0 then false
  else smallPrimes.all (passes n)

end Keyring.Rsa
