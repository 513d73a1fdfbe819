import ComputeDirectory.Crypto.Secp256k1
import Mathlib.Data.List.Prime
import Mathlib.NumberTheory.LucasPrimality
import Mathlib.Tactic.NormNum.Prime

/-!
# The number of field elements is prime

By Lucas's test a number `n` is prime if an element has the order `n - 1` modulo `n`: its power to
`n - 1` is one, and for no prime factor `q` of `n - 1` its power to `(n - 1) / q` is
(`prime_of_hasFullOrder`). The large factors of `fieldPrime - 1` are primes for the same reason, and
so are theirs, down to factors of eight digits, for which trial division will do. A certificate
lists them line by line, each after its own factors (`prime_of_areCertified`).

The powers are computed from half the exponent, so that a test takes a few hundred products
(`powMod_eq`).
-/

namespace ComputeDirectory.Crypto

/-! ## Powers -/

/-- The power of `base` modulo `modulus`, for exponents below `2 ^ bits`. -/
def powMod (modulus base : Nat) : (bits exponent : Nat) → Nat
  | 0, _ => 1 % modulus
  | bits + 1, exponent =>
    powMod modulus base bits (exponent / 2) ^ 2 * base ^ (exponent % 2) % modulus

theorem powMod_eq (modulus base : Nat) {bits exponent : Nat} (h : exponent < 2 ^ bits) :
    powMod modulus base bits exponent = base ^ exponent % modulus := by
  induction bits generalizing exponent with
  | zero =>
    have hzero : exponent = 0 := by simpa using h
    rw [powMod, hzero, pow_zero]
  | succ bits ih =>
    have hhalf : exponent / 2 < 2 ^ bits := by
      rw [pow_succ] at h
      omega
    calc
      powMod modulus base (bits + 1) exponent
          = (base ^ (exponent / 2) % modulus) ^ 2 * base ^ (exponent % 2) % modulus := by
        rw [powMod, ih hhalf]
      _ = (base ^ (exponent / 2)) ^ 2 * base ^ (exponent % 2) % modulus :=
        ((Nat.mod_modEq _ modulus).pow 2).mul_right _
      _ = base ^ exponent % modulus := by
        rw [← pow_mul, ← pow_add, Nat.div_add_mod']

/-! ## Lucas's test -/

/-- Whether `element` has the order `n - 1` modulo `n`. The `factors` are the prime factors of
`n - 1`, each as often as it divides. -/
def hasFullOrder (n element : Nat) (factors : List Nat) : Bool :=
  1 < n ∧ n ≤ 2 ^ 256 ∧ factors.prod = n - 1 ∧ powMod n element 256 (n - 1) = 1 ∧
    ∀ q ∈ factors, powMod n element 256 ((n - 1) / q) ≠ 1

theorem pow_eq_one_iff {n exponent : Nat} (element : Nat) (hn : 1 < n)
    (h : exponent < 2 ^ 256) :
    (element : ZMod n) ^ exponent = 1 ↔ powMod n element 256 exponent = 1 := by
  rw [powMod_eq n element h, ← Nat.cast_pow, ← Nat.cast_one, ZMod.natCast_eq_natCast_iff',
    Nat.mod_eq_of_lt hn]

theorem prime_of_hasFullOrder {n : Nat} (element : Nat) (factors : List Nat)
    (hprimes : ∀ q ∈ factors, q.Prime) (h : hasFullOrder n element factors = true) : n.Prime := by
  obtain ⟨hn, hbound, hprod, hfull, hpart⟩ := of_decide_eq_true h
  have hfactors : ∀ q : Nat, q.Prime → q ∣ n - 1 → q ∈ factors := by
    intro q hq hdvd
    rw [← hprod] at hdvd
    exact mem_list_primes_of_dvd_prod hq.prime (fun r hr => (hprimes r hr).prime) hdvd
  apply lucas_primality n (element : ZMod n)
  · exact (pow_eq_one_iff element hn (by omega)).2 hfull
  · intro q hq hdvd hone
    have hle : (n - 1) / q ≤ n - 1 := Nat.div_le_self _ _
    exact hpart q (hfactors q hq hdvd) ((pow_eq_one_iff element hn (by omega)).1 hone)

/-! ## Certificates -/

/-- A number, an element whose order shows that the number is prime, and the prime factors of its
predecessor, each as often as it divides. -/
structure PrattLine where
  number : Nat
  element : Nat
  factors : List Nat

/-- Whether every line passes the test, with factors that are known from before or from an earlier
line. -/
def areCertified : (known : List Nat) → List PrattLine → Bool
  | _, [] => true
  | known, line :: lines =>
    hasFullOrder line.number line.element line.factors && line.factors.all (known.contains ·) &&
      areCertified (line.number :: known) lines

theorem prime_of_areCertified {known : List Nat} {lines : List PrattLine}
    (hknown : ∀ q ∈ known, q.Prime) (h : areCertified known lines = true) :
    ∀ line ∈ lines, line.number.Prime := by
  induction lines generalizing known with
  | nil => exact List.forall_mem_nil _
  | cons line lines ih =>
    simp only [areCertified, Bool.and_eq_true, List.all_eq_true, List.contains_iff_mem] at h
    obtain ⟨⟨horder, hfactors⟩, hrest⟩ := h
    have hprime : line.number.Prime :=
      prime_of_hasFullOrder line.element line.factors (fun q hq => hknown q (hfactors q hq)) horder
    exact List.forall_mem_cons.2 ⟨hprime, ih (List.forall_mem_cons.2 ⟨hprime, hknown⟩) hrest⟩

namespace Secp256k1

/-- The prime factors that trial division finds. -/
def smallFactors : List Nat :=
  [2, 3, 5, 7, 11, 29, 31, 1627, 2621, 2657, 4423, 5323, 7723, 13441, 24809, 41201, 96557, 7240687,
    13331831, 107590001]

/-- The large prime factors, each after those of its predecessor, and at last the number of field
elements. -/
def fieldCertificate : List PrattLine :=
  [⟨173378833005251801, 6, [2, 2, 2, 5, 5, 2621, 24809, 13331831]⟩,
    ⟨22149492674086928081353, 5, [2, 2, 2, 3, 5323, 173378833005251801]⟩,
    ⟨132896956044521568488119, 6, [2, 3, 22149492674086928081353]⟩,
    ⟨255515944373312847190720520512484175977, 3,
      [2, 2, 2, 7, 7, 11, 1627, 2657, 4423, 41201, 96557, 107590001, 7240687]⟩,
    ⟨205115282021455665897114700593932402728804164701536103180137503955397371, 10,
      [2, 3, 5, 29, 29, 31, 7723, 132896956044521568488119,
        255515944373312847190720520512484175977]⟩,
    ⟨fieldPrime, 3, [2, 3, 7, 13441,
      205115282021455665897114700593932402728804164701536103180137503955397371]⟩]

theorem prime_smallFactors : ∀ q ∈ smallFactors, q.Prime := by
  norm_num [smallFactors]

theorem prime_fieldPrime : fieldPrime.Prime := by
  have hcertified : areCertified smallFactors fieldCertificate = true := by decide +kernel
  have hprimes := prime_of_areCertified prime_smallFactors hcertified
  simp only [fieldCertificate, List.forall_mem_cons] at hprimes
  obtain ⟨-, -, -, -, -, hprime, -⟩ := hprimes
  exact hprime

end Secp256k1

end ComputeDirectory.Crypto
