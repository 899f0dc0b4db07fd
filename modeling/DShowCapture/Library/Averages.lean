/-
Averages of neighbours in a row that is read twice over.

Entry `c` of the averages is made of entries `2c` and `2c + 1` of the doubled row.  The position
therefore doubles with every step back, and any entry is reached from any other.
-/
import Mathlib.Data.Finset.Max

namespace Averages

variable {u : Nat → Nat} {m : Nat}

private theorem eq_mod (wraps : ∀ c, c < m → u (m + c) = u c) {c : Nat} (inRows : c < 2 * m) :
    u c = u (c % m) := by
  by_cases below : c < m
  · rw [Nat.mod_eq_of_lt below]
  · have again := wraps (c - m) (by omega)
    rw [Nat.add_sub_cancel' (by omega)] at again
    rw [again, Nat.mod_eq_sub_mod (by omega), Nat.mod_eq_of_lt (by omega)]

/-- The two neighbours that entry `c` averages, and so the neighbours behind them, are as large
as the largest entry. -/
private theorem largest_spreads {top : Nat} (positive : 0 < m)
    (wraps : ∀ c, c < m → u (m + c) = u c) (largest : ∀ c, c < m → u c ≤ top)
    (averages : ∀ c, c < m → u c = (u (2 * c) + u (2 * c + 1)) / 2) {first : Nat}
    (attained : u (first % m) = top) (rounds : Nat) :
    ∀ index, index < 2 ^ rounds → u ((2 ^ rounds * first + index) % m) = top := by
  induction rounds with
  | zero =>
      intro index inRange
      have only : index = 0 := by
        rw [Nat.pow_zero] at inRange
        omega
      rw [only, Nat.pow_zero, Nat.one_mul, Nat.add_zero, attained]
  | succ rounds ih =>
      intro index inRange
      have half := ih (index / 2) (by rw [Nat.pow_succ] at inRange; omega)
      let c := (2 ^ rounds * first + index / 2) % m
      have below : c < m := Nat.mod_lt _ positive
      have left := largest (2 * c % m) (Nat.mod_lt _ positive)
      have right := largest ((2 * c + 1) % m) (Nat.mod_lt _ positive)
      have between := averages c below
      rw [half, eq_mod wraps (by omega : 2 * c < 2 * m),
        eq_mod wraps (by omega : 2 * c + 1 < 2 * m)] at between
      have position : (2 ^ (rounds + 1) * first + index) % m = (2 * c + index % 2) % m := by
        have parts : 2 ^ (rounds + 1) * first + index =
            2 * (2 ^ rounds * first + index / 2) + index % 2 := by
          rw [Nat.pow_succ, Nat.mul_right_comm]
          omega
        rw [parts, Nat.add_mod, Nat.mul_mod, Nat.add_mod (2 * c), Nat.mul_mod 2 c, Nat.mod_mod]
      rw [position]
      rcases Nat.mod_two_eq_zero_or_one index with even | odd
      · rw [even, Nat.add_zero]
        omega
      · rw [odd]
        omega

theorem averages_iff_constant (wraps : ∀ c, c < m → u (m + c) = u c) :
    (∀ c, c < m → u c = (u (2 * c) + u (2 * c + 1)) / 2) ↔ ∀ c, c < m → u c = u 0 := by
  constructor
  · intro averages c inRange
    have positive := Nat.zero_lt_of_lt inRange
    obtain ⟨first, inRow, largest⟩ :=
      Finset.exists_max_image (Finset.range m) u ⟨c, Finset.mem_range.mpr inRange⟩
    rw [Finset.mem_range] at inRow
    have spreads := largest_spreads positive wraps
      (fun other inRow => largest other (Finset.mem_range.mpr inRow)) averages
      (congrArg u (Nat.mod_eq_of_lt inRow)) m
    have reached : ∀ other, other < m → u other = u first := by
      intro other inRange
      let start := 2 ^ m * first % m
      have startInRow : start < m := Nat.mod_lt _ positive
      have large := @Nat.lt_two_pow_self m
      have atOther := spreads ((m - start + other) % m)
        (Nat.lt_trans (Nat.mod_lt _ positive) large)
      have position : (2 ^ m * first + (m - start + other) % m) % m = other := by
        rw [Nat.add_mod, Nat.mod_mod, ← Nat.add_mod_mod]
        have turn : start + (m - start + other) = other + m := by omega
        rw [Nat.add_mod_mod, Nat.add_mod_mod, turn, Nat.add_mod_right, Nat.mod_eq_of_lt inRange]
      rw [position] at atOther
      exact atOther
    rw [reached c inRange, reached 0 positive]
  · intro constant c inRange
    have positive := Nat.zero_lt_of_lt inRange
    have all : ∀ other, other < 2 * m → u other = u 0 := by
      intro other inRows
      rw [eq_mod wraps inRows, constant _ (Nat.mod_lt other positive)]
    rw [all c (by omega), all (2 * c) (by omega), all (2 * c + 1) (by omega)]
    omega

end Averages
