import DocPress.Number.Binary64

/-! When a result is finite. A quotient of numbers of which one is not much larger than the other is
nowhere near the largest number of the format, and the number that stands for it is not much larger
either. -/

namespace DocPress.Number.Binary64

attribute [local instance] instPowNat

/-- A finite number of a magnitude of at most `2 ^ k`. -/
def AtMost (k : Nat) (x : Binary64) : Prop :=
  ∃ s m e, x = finite s m e ∧ (ratio m e).1 ≤ (ratio m e).2 * 2 ^ k

theorem roundQuotient_le (num den : Nat) : roundQuotient num den ≤ num / den + 1 := by
  unfold roundQuotient
  dsimp only
  split
  · omega
  · split
    · omega
    · split <;> omega

theorem scale_bounds {num den k : Nat} (filled : num ≠ 0) (bound : num ≤ den * 2 ^ k) :
    -1074 ≤ scale num den ∧ scale num den ≤ max (-1074) ((k : Int) - 51) := by
  have below : num.log2 < den.log2 + 1 + k := by
    rw [Nat.log2_lt filled,Nat.pow_add]
    calc
      num ≤ den * 2 ^ k := bound
      _ < 2 ^ (den.log2 + 1) * 2 ^ k :=
        Nat.mul_lt_mul_of_pos_right Nat.lt_log2_self (Nat.two_pow_pos k)
  unfold scale
  dsimp only
  split <;> omega

/-- Bringing the mantissa below its bound does not change the number. -/
theorem carried_atMost {negative : Bool} {m k : Nat} {e : Int} (small : e < 971)
    (value : (ratio m e).1 ≤ (ratio m e).2 * 2 ^ k) : AtMost k (carried negative m e) := by
  unfold carried bounded
  by_cases full : m = 2 ^ 53
  · rw [if_pos full,if_neg (by omega)]
    refine ⟨_,_,_,rfl,?_⟩
    simp only [ratio,full] at value ⊢
    obtain below | above := Int.lt_or_le e 0
    · have none : e.toNat = 0 := by omega
      have next : (e + 1).toNat = 0 := by omega
      have double : 2 ^ (-e).toNat = 2 * 2 ^ (-(e + 1)).toNat := by
        rw [show (-e).toNat = (-(e + 1)).toNat + 1 by omega,Nat.pow_succ,Nat.mul_comm]
      rw [none,double,Nat.mul_assoc] at value
      rw [next]
      omega
    · have none : (-e).toNat = 0 := by omega
      have next : (-(e + 1)).toNat = 0 := by omega
      have double : 2 ^ (e + 1).toNat = 2 * 2 ^ e.toNat := by
        rw [show (e + 1).toNat = e.toNat + 1 by omega,Nat.pow_succ,Nat.mul_comm]
      rw [none] at value
      rw [next,double]
      omega
  · rw [if_neg full,if_neg (by omega)]
    exact ⟨_,_,_,rfl,value⟩

/-- The number for a quotient of at most `2 ^ k` is at most twice as large. -/
theorem ofRatio_atMost {negative : Bool} {num den k : Nat} (bound : num ≤ den * 2 ^ k)
    (small : k ≤ 1000) : AtMost (k + 1) (ofRatio negative num den) := by
  unfold ofRatio
  by_cases empty : num = 0
  · rw [if_pos empty]
    exact ⟨_,_,_,rfl,by rw [ratio,Nat.zero_mul]; exact Nat.zero_le _⟩
  rw [if_neg empty]
  obtain ⟨least,greatest⟩ := scale_bounds empty bound
  refine carried_atMost (by omega) ?_
  generalize scale num den = e at least greatest
  unfold ratio
  have round := roundQuotient_le (num * 2 ^ (-e).toNat) (den * 2 ^ e.toNat)
  have quotient : num * 2 ^ (-e).toNat / (den * 2 ^ e.toNat) * 2 ^ e.toNat ≤
      2 ^ (-e).toNat * 2 ^ k := by
    have filled : 0 < den := by
      refine Nat.pos_of_ne_zero fun zero => empty ?_
      rw [zero,Nat.zero_mul] at bound
      exact Nat.le_zero.mp bound
    calc
      num * 2 ^ (-e).toNat / (den * 2 ^ e.toNat) * 2 ^ e.toNat
        ≤ den * 2 ^ k * 2 ^ (-e).toNat / (den * 2 ^ e.toNat) * 2 ^ e.toNat :=
          Nat.mul_le_mul_right _ (Nat.div_le_div_right (Nat.mul_le_mul_right _ bound))
      _ = 2 ^ k * 2 ^ (-e).toNat / 2 ^ e.toNat * 2 ^ e.toNat := by
        rw [Nat.mul_assoc den,Nat.mul_div_mul_left _ _ filled]
      _ ≤ 2 ^ k * 2 ^ (-e).toNat := Nat.div_mul_le_self _ _
      _ = 2 ^ (-e).toNat * 2 ^ k := Nat.mul_comm _ _
  have unit : 2 ^ e.toNat ≤ 2 ^ (-e).toNat * 2 ^ k := by
    refine Nat.le_trans (Nat.pow_le_pow_right (by decide) (by omega : e.toNat ≤ k)) ?_
    exact Nat.le_mul_of_pos_left _ (Nat.two_pow_pos _)
  calc
    mantissaAt num den e * 2 ^ e.toNat
      ≤ (num * 2 ^ (-e).toNat / (den * 2 ^ e.toNat) + 1) * 2 ^ e.toNat :=
        Nat.mul_le_mul_right _ round
    _ ≤ 2 ^ (-e).toNat * 2 ^ k + 2 ^ (-e).toNat * 2 ^ k := by
      rw [Nat.succ_mul]
      exact Nat.add_le_add quotient unit
    _ = 2 ^ (-e).toNat * 2 ^ (k + 1) := by
      rw [← Nat.mul_two,Nat.mul_assoc,Nat.pow_succ]

theorem ofInt_atMost {n k : Nat} (bound : n ≤ 2 ^ k) (small : k ≤ 1000) :
    AtMost (k + 1) (ofInt n) :=
  ofRatio_atMost (by rwa [Int.natAbs_natCast,Nat.one_mul]) small

/-- A product is at most the product of the bounds, but for rounding. -/
theorem mul_atMost {x y : Binary64} {j k : Nat} (first : AtMost j x) (second : AtMost k y)
    (small : j + k ≤ 1000) : AtMost (j + k + 1) (x.mul y) := by
  obtain ⟨s,m,e,rfl,left⟩ := first
  obtain ⟨t,n,f,rfl,right⟩ := second
  refine ofRatio_atMost (Nat.le_trans (Nat.mul_le_mul left right) (Nat.le_of_eq ?_)) small
  rw [Nat.pow_add,Nat.mul_mul_mul_comm]
  rfl

end DocPress.Number.Binary64
