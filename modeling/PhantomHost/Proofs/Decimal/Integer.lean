import PhantomHost.Proofs.Decimal.Digits
import PhantomHost.Proofs.Decimal.Nearest
/-!
Integers that come from texts and from doubles have not too many digits to be read again.
-/
namespace PhantomHost.Decimal

open PhantomHost.Text

theorem ofDigits_lt {ds : List Nat} (h : ∀ d ∈ ds, d < 10) : ofDigits ds < 10 ^ ds.length := by
  induction ds with
  | nil => decide
  | cons d ds ih =>
      have hTail := ih fun e he => h e (List.mem_cons_of_mem _ he)
      have hFirst : d * 10 ^ ds.length ≤ 9 * 10 ^ ds.length :=
        Nat.mul_le_mul_right _ (Nat.le_of_lt_succ (h d List.mem_cons_self))
      have hSplit : ofDigits (d :: ds) = d * 10 ^ ds.length + ofDigits ds := by
        rw [← List.singleton_append, ofDigits_append]
        simp [ofDigits]
      rw [hSplit, List.length_cons, Nat.pow_succ]
      omega

theorem digitValue?_lt {c : Symbol} {d : Nat} (h : digitValue? c = some d) : d < 10 := by
  rw [digitValue?, Option.map_eq_some_iff] at h
  obtain ⟨start, hFound, rfl⟩ := h
  have hRange := List.find?_some hFound
  rw [Bool.and_eq_true, decide_eq_true_eq, decide_eq_true_eq] at hRange
  omega

theorem digitRun_lt (text : Text) : ∀ d ∈ (digitRun text).1, d < 10 := by
  fun_induction digitRun text with
  | case1 => simp
  | case2 c rest d hDigit ih =>
      intro e he
      rcases List.mem_cons.1 he with rfl | hMore
      · exact digitValue?_lt hDigit
      · exact ih e hMore
  | case3 c rest hDigit hSkip ih => exact ih
  | case4 c rest hDigit hSkip => simp

theorem digitsAt_lt (text : Text) : ∀ d ∈ (digitsAt text).1, d < 10 := by
  unfold digitsAt
  split
  · exact digitRun_lt text
  · simp

theorem readable_of_natAbs_eq {n : Int} {ds : List Nat} (hDigits : ∀ d ∈ ds, d < 10)
    (hLength : ds.length ≤ digitLimit) (hn : n.natAbs = ofDigits ds) : Readable n := by
  rw [Readable, hn]
  exact Nat.lt_of_lt_of_le (ofDigits_lt hDigits) (Nat.pow_le_pow_right (by decide) hLength)

/-- An integer that has been read from a text has not too many digits. -/
theorem readable_of_readInt {text : Text} {n : Int} (h : readInt text = .ok n) : Readable n := by
  unfold readInt at h
  simp only at h
  split at h
  · cases h
  · split at h
    · cases h
    · rename_i hLength
      split at h
      · cases h
      · cases h
        refine readable_of_natAbs_eq (digitsAt_lt _) (Nat.le_of_not_lt hLength) ?_
        split <;> omega

theorem twoTo_le {m n : Nat} (h : m ≤ n) : twoTo m ≤ twoTo n :=
  Nat.pow_le_pow_right (by decide) h

theorem twoTo_add (m n : Nat) : twoTo (m + n) = twoTo m * twoTo n :=
  Nat.pow_add 2 m n

theorem twoTo_le_tenTo (n : Nat) : twoTo n ≤ tenTo n :=
  Nat.pow_le_pow_left (by decide) n

theorem tenTo_eq (n : Nat) : tenTo n = 10 ^ n := rfl

theorem tenTo_le {m n : Nat} (h : m ≤ n) : tenTo m ≤ tenTo n :=
  Nat.pow_le_pow_right (by decide) h

theorem readable_of_lt_hundred {n : Int} (h : n.natAbs < 100) : Readable n := by
  rw [Readable, ← tenTo_eq]
  exact Nat.lt_of_lt_of_le h (tenTo_le (show 2 ≤ digitLimit by decide))

/-- The integer part of a finite double has not too many digits. -/
theorem readable_truncate {x : Float} (h : magnitude x < infinityBits) : Readable (truncate x) := by
  obtain ⟨-, hMantissa, -, -⟩ := isParts (magnitude x)
  have hExponent : (parts (magnitude x)).2 ≤ 971 := by
    have hField : magnitude x / twoTo 52 < 0x7FF := Nat.div_lt_of_lt_mul (by rwa [Nat.mul_comm])
    unfold parts
    simp only
    split
    · simp only
      omega
    · simp only
      omega
  have hNum : (ratio (magnitude x)).1 < twoTo 1024 := by
    unfold ratio
    simp only
    split
    · have hPower : twoTo (parts (magnitude x)).2.toNat ≤ twoTo 971 :=
        twoTo_le (by omega)
      calc (parts (magnitude x)).1 * twoTo (parts (magnitude x)).2.toNat
          ≤ (parts (magnitude x)).1 * twoTo 971 := Nat.mul_le_mul_left _ hPower
        _ < twoTo 53 * twoTo 971 := Nat.mul_lt_mul_of_pos_right hMantissa (twoTo_pos 971)
        _ = twoTo 1024 := (twoTo_add 53 971).symm
    · exact Nat.lt_of_lt_of_le hMantissa (twoTo_le (show 53 ≤ 1024 by decide))
  have hAbs : (truncate x).natAbs = (ratio (magnitude x)).1 / (ratio (magnitude x)).2 := by
    unfold truncate
    simp only
    split
    · rw [Int.natAbs_neg]
      rfl
    · rfl
  rw [Readable, hAbs, ← tenTo_eq]
  calc (ratio (magnitude x)).1 / (ratio (magnitude x)).2
      ≤ (ratio (magnitude x)).1 := Nat.div_le_self _ _
    _ < twoTo 1024 := hNum
    _ ≤ tenTo 1024 := twoTo_le_tenTo 1024
    _ ≤ tenTo digitLimit := tenTo_le (by decide)

end PhantomHost.Decimal
