import PhantomHost.Text.Units
/-!
A sequence of UTF-16 units is given back by the text that it stands for. So a text that has once been read
from units is not changed when it is written and read again, even if halves of pairs stand alone in it.
-/
namespace PhantomHost.Text

theorem toNat_lt_point (u : UInt16) : u.toNat < 0x110000 :=
  Nat.lt_trans u.toNat_lt (by decide)

/-- A unit that stands alone is its own point. -/
theorem pointUnits_toNat (u : UInt16) : pointUnits u.toNat = [u] := by
  have hUnit : u.toNat < 0x10000 := u.toNat_lt
  rw [pointUnits, if_pos hUnit, UInt16.ofNat_toNat]

/-- The point of a pair has the units of the pair. -/
theorem pointUnits_pair {u v : UInt16} (hHigh : isHigh u = true) (hLow : isLow v = true) :
    0x10000 + (u.toNat - 0xD800) * 0x400 + (v.toNat - 0xDC00) < 0x110000 ∧
    pointUnits (0x10000 + (u.toNat - 0xD800) * 0x400 + (v.toNat - 0xDC00)) = [u, v] := by
  simp only [isHigh, isLow, Bool.and_eq_true, decide_eq_true_eq, UInt16.le_iff_toNat_le] at hHigh hLow
  have h1 : (0xD800 : UInt16).toNat = 0xD800 := rfl
  have h2 : (0xDBFF : UInt16).toNat = 0xDBFF := rfl
  have h3 : (0xDC00 : UInt16).toNat = 0xDC00 := rfl
  have h4 : (0xDFFF : UInt16).toNat = 0xDFFF := rfl
  rw [h1, h2] at hHigh
  rw [h3, h4] at hLow
  have hFirst : 0xD800 + (0x10000 + (u.toNat - 0xD800) * 0x400 + (v.toNat - 0xDC00) - 0x10000) / 0x400 =
      u.toNat := by omega
  have hSecond : 0xDC00 + (0x10000 + (u.toNat - 0xD800) * 0x400 + (v.toNat - 0xDC00) - 0x10000) % 0x400 =
      v.toNat := by omega
  refine ⟨by omega, ?_⟩
  rw [pointUnits, if_neg (by omega), hFirst, hSecond, UInt16.ofNat_toNat, UInt16.ofNat_toNat]

/-- The points of units are code points, and have these units. -/
theorem points_spec (us : Units) : (∀ n ∈ points us, n < 0x110000) ∧ (points us).flatMap pointUnits = us := by
  fun_induction points us with
  | case1 => simp
  | case2 u =>
      refine ⟨?_, ?_⟩
      · intro n hn
        rw [List.mem_singleton.1 hn]
        exact toNat_lt_point u
      · rw [List.flatMap_cons, pointUnits_toNat]
        rfl
  | case3 u v rest hPair ih =>
      simp only [Bool.and_eq_true] at hPair
      obtain ⟨hPoint, hUnits⟩ := pointUnits_pair hPair.1 hPair.2
      refine ⟨?_, ?_⟩
      · intro n hn
        rcases List.mem_cons.1 hn with hFirst | hRest
        · rw [hFirst]
          exact hPoint
        · exact ih.1 n hRest
      · rw [List.flatMap_cons, hUnits, ih.2]
        rfl
  | case4 u v rest hPair ih =>
      refine ⟨?_, ?_⟩
      · intro n hn
        rcases List.mem_cons.1 hn with rfl | hRest
        · exact toNat_lt_point u
        · exact ih.1 n hRest
      · rw [List.flatMap_cons, pointUnits_toNat, ih.2]
        rfl

@[simp] theorem units_ofUnits (us : Units) : units (ofUnits us) = us := by
  obtain ⟨hPoints, hUnits⟩ := points_spec us
  have hCodes : (points us).map (fun n => pointUnits (Symbol.ofCode n).code) =
      (points us).map pointUnits :=
    List.map_congr_left fun n hn => by rw [Symbol.code_ofCode (hPoints n hn)]
  rw [units, ofUnits, List.flatMap_map, List.flatMap_def, hCodes, ← List.flatMap_def, hUnits]

end PhantomHost.Text
