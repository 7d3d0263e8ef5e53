import LineReview.Json.Numeral
import LineReview.Number.Text

set_option autoImplicit false

/-! Where the shortest decimal of a number lies. One is found, because the finest grid has a point
near every number, and it rounds to the number, so it is neither zero nor anywhere near the bound of
double precision. -/

namespace LineReview.Number

namespace Single

theorem mantissa_lt (single : Single) : single.mantissa < 2 * carry := by
  have small : single.fraction.val < carry := single.fraction.isLt
  unfold mantissa
  split <;> omega

theorem le_exponent (single : Single) : -149 ≤ single.exponent := by
  unfold exponent
  omega

theorem exponent_le {single : Single} (finite : single.isFinite = true) :
    single.exponent ≤ 104 := by
  have small : single.biased.val < 255 := by simpa [isFinite] using finite
  unfold exponent
  omega

end Single

namespace Neighbourhood

theorem holds_of_onGrid? {near : Neighbourhood} {tie : Tie} {scale : Int} {decimal : Decimal}
    (found : near.onGrid? tie scale = some decimal) :
    near.holds decimal.scale decimal.digits = true := by
  unfold onGrid? at found
  dsimp only at found
  split at found
  · cases found
  · cases found
    assumption
  · cases found
    assumption
  · cases found
    dsimp only
    split <;> assumption

theorem le_of_holds {near : Neighbourhood} {scale : Int} {multiple : Nat}
    (rounds : near.holds scale multiple = true) :
    near.low * near.quarterFactor scale ≤ multiple * near.gridFactor scale ∧
      multiple * near.gridFactor scale ≤ near.high * near.quarterFactor scale := by
  unfold holds at rounds
  dsimp only at rounds
  split at rounds
  · simpa using rounds
  · rw [Bool.and_eq_true, decide_eq_true_eq, decide_eq_true_eq] at rounds
    exact ⟨Nat.le_of_lt rounds.1, Nat.le_of_lt rounds.2⟩

theorem quarterFactor_pos (near : Neighbourhood) (scale : Int) : 0 < near.quarterFactor scale :=
  Nat.mul_pos (Nat.pow_pos (by decide)) (Nat.pow_pos (by decide))

/-- On a grid that is no wider than the quarters, the point below the number rounds to it. -/
theorem holds_floor {near : Neighbourhood} {scale : Int}
    (fine : near.gridFactor scale ≤ near.quarterFactor scale) (below : near.low < near.centre)
    (above : near.centre < near.high) :
    near.holds scale (near.floor scale) = true := by
  have positive := near.quarterFactor_pos scale
  have grid : 0 < near.gridFactor scale :=
    Nat.mul_pos (Nat.pow_pos (by decide)) (Nat.pow_pos (by decide))
  have point : near.floor scale * near.gridFactor scale ≤
      near.centre * near.quarterFactor scale :=
    Nat.div_mul_le_self _ _
  have next : near.centre * near.quarterFactor scale <
      near.floor scale * near.gridFactor scale + near.gridFactor scale := Nat.lt_div_mul_add grid
  have low : near.low * near.quarterFactor scale + near.quarterFactor scale ≤
      near.centre * near.quarterFactor scale := by
    rw [← Nat.succ_mul]
    exact Nat.mul_le_mul_right _ below
  have high : near.centre * near.quarterFactor scale < near.high * near.quarterFactor scale :=
    Nat.mul_lt_mul_of_pos_right above positive
  unfold holds
  dsimp only
  split <;> simp only [Bool.and_eq_true, decide_eq_true_eq] <;> constructor <;> omega

theorem isSome_onGrid? {near : Neighbourhood} {scale : Int}
    (rounds : near.holds scale (near.floor scale) = true) (tie : Tie) :
    (near.onGrid? tie scale).isSome = true := by
  unfold onGrid?
  dsimp only
  rw [rounds]
  cases near.holds scale (near.floor scale + 1) <;> rfl

variable {single : Single} {scale : Int} {multiple : Nat}

theorem low_lt_centre (nonzero : single.mantissa ≠ 0) :
    0 < (ofSingle single).low ∧ (ofSingle single).low < (ofSingle single).centre := by
  change 0 < 4 * single.mantissa - _ ∧ 4 * single.mantissa - _ < 4 * single.mantissa
  split <;> omega

/-- The finest grid is no wider than the quarters of the smallest number. -/
theorem gridFactor_le_quarterFactor (single : Single) :
    (ofSingle single).gridFactor (-59) ≤ (ofSingle single).quarterFactor (-59) := by
  have least := single.le_exponent
  have unit : (-(ofSingle single).unit).toNat ≤ 151 := by
    change (-(single.exponent - 2)).toNat ≤ 151
    omega
  calc Nat.pow 2 (-(ofSingle single).unit).toNat * Nat.pow 10 0
      ≤ Nat.pow 2 151 * Nat.pow 10 0 :=
        Nat.mul_le_mul_right _ (Nat.pow_le_pow_right (by decide) unit)
    _ ≤ Nat.pow 10 59 := by decide +kernel
    _ ≤ Nat.pow 2 (ofSingle single).unit.toNat * Nat.pow 10 59 :=
        Nat.le_mul_of_pos_left _ (Nat.pow_pos (by decide))

/-- Zero rounds to no other number. -/
theorem pos_of_holds (nonzero : single.mantissa ≠ 0)
    (rounds : (ofSingle single).holds scale multiple = true) : 0 < multiple := by
  have above := (le_of_holds rounds).1
  have positive := Nat.mul_pos (low_lt_centre nonzero).1 ((ofSingle single).quarterFactor_pos scale)
  rcases Nat.eq_zero_or_pos multiple with zero | some
  · rw [zero, Nat.zero_mul] at above
    omega
  · exact some

/-- What rounds to a number of single precision is far from the bound of double precision. -/
theorem lt_bound_of_holds (finite : single.isFinite = true)
    (rounds : (ofSingle single).holds scale multiple = true) :
    multiple * Nat.pow 10 scale.toNat < Json.Numeral.bound * Nat.pow 10 (-scale).toNat := by
  have high : (ofSingle single).high ≤ Nat.pow 2 26 := by
    have small := single.mantissa_lt
    change 4 * single.mantissa + 2 ≤ 67108864
    unfold Single.carry at small
    omega
  have unit : Nat.pow 2 (ofSingle single).unit.toNat ≤ Nat.pow 2 102 := by
    apply Nat.pow_le_pow_right (by decide)
    have small := Single.exponent_le finite
    change (single.exponent - 2).toNat ≤ 102
    omega
  have wide : Nat.pow 2 26 * Nat.pow 2 102 < Json.Numeral.bound := by decide +kernel
  calc multiple * Nat.pow 10 scale.toNat
      ≤ multiple * (ofSingle single).gridFactor scale := by
        apply Nat.mul_le_mul_left
        exact Nat.le_mul_of_pos_left _ (Nat.pow_pos (by decide))
    _ ≤ (ofSingle single).high * (ofSingle single).quarterFactor scale := (le_of_holds rounds).2
    _ = (ofSingle single).high * Nat.pow 2 (ofSingle single).unit.toNat * Nat.pow 10
      (-scale).toNat :=
        (Nat.mul_assoc _ _ _).symm
    _ ≤ Nat.pow 2 26 * Nat.pow 2 102 * Nat.pow 10 (-scale).toNat :=
      Nat.mul_le_mul_right _ (Nat.mul_le_mul high unit)
    _ < Json.Numeral.bound * Nat.pow 10 (-scale).toNat :=
      Nat.mul_lt_mul_of_pos_right wide (Nat.pow_pos (by decide))

end Neighbourhood

/-- The shortest decimal rounds to the number. -/
theorem holds_shortest {single : Single} (nonzero : single.mantissa ≠ 0) (tie : Tie) :
    (Neighbourhood.ofSingle single).holds (shortest tie single).scale
      (shortest tie single).digits = true := by
  have finest : (-59 : Int) ∈ scales := by decide
  have below := (Neighbourhood.low_lt_centre nonzero).2
  have above : (Neighbourhood.ofSingle single).centre < (Neighbourhood.ofSingle single).high :=
    Nat.lt_add_of_pos_right (by decide)
  have rounds := Neighbourhood.holds_floor
    (Neighbourhood.gridFactor_le_quarterFactor single) below above
  have some : (scales.findSome? ((Neighbourhood.ofSingle single).onGrid? tie)).isSome = true :=
    List.findSome?_isSome_iff.mpr ⟨-59, finest, Neighbourhood.isSome_onGrid? rounds tie⟩
  obtain ⟨decimal, found⟩ := Option.isSome_iff_exists.mp some
  obtain ⟨scale, -, onGrid⟩ := List.exists_of_findSome?_eq_some found
  rw [shortest, found]
  exact Neighbourhood.holds_of_onGrid? onGrid

end LineReview.Number
