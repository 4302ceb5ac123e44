import Solido.Token

namespace Solido

/-! The epoch schedule of `solana_program::epoch_schedule`, which the epoch gates read. Its
arithmetic saturates at `u64::MAX`, so the last epochs below that bound are cut short. -/

/-- `MINIMUM_SLOTS_PER_EPOCH`. -/
def minimumSlotsPerEpoch : Nat := 32

/-- `u64::trailing_zeros`: how many low bits are zero, `64` for zero. -/
def trailingZeros (n : Nat) : Nat := go 64 n
where
  go : Nat → Nat → Nat
    | 0, _ => 0
    | bits + 1, n => if n % 2 = 0 then go bits (n / 2) + 1 else 0

/-- `u64::next_power_of_two`: the least power of two at or above `n`, which panics when it
would be past `u64::MAX`. -/
def nextPowerOfTwo (n : Nat) : Except Failure Nat :=
  match (List.range 64).find? (fun k => n ≤ 2 ^ k) with
  | some k => .ok (2 ^ k)
  | none => .error (.panic "attempt to add with overflow")

theorem trailingZeros_go_two_pow : ∀ {k bits : Nat}, k ≤ bits → trailingZeros.go bits (2 ^ k) = k
  | 0, 0, _ => rfl
  | 0, _ + 1, _ => rfl
  | k + 1, bits + 1, h => by
      have hdiv : 2 ^ (k + 1) / 2 = 2 ^ k := by rw [Nat.pow_succ, Nat.mul_div_cancel _ Nat.zero_lt_two]
      simp [trailingZeros.go, Nat.pow_succ, hdiv, trailingZeros_go_two_pow (Nat.le_of_succ_le_succ h)]

theorem trailingZeros_two_pow {k : Nat} (h : k ≤ 64) : trailingZeros (2 ^ k) = k :=
  trailingZeros_go_two_pow h

theorem nextPowerOfTwo_eq_ok {n p : Nat} (h : nextPowerOfTwo n = .ok p) :
    ∃ k, k < 64 ∧ n ≤ 2 ^ k ∧ p = 2 ^ k := by
  unfold nextPowerOfTwo at h
  split at h
  · rename_i k hfind
    cases h
    have hle : n ≤ 2 ^ k := by simpa using List.find?_some hfind
    exact ⟨k, List.mem_range.mp (List.mem_of_find?_eq_some hfind), hle, rfl⟩
  · cases h

/-- `EpochSchedule`. -/
structure EpochSchedule where
  slotsPerEpoch : Nat
  leaderScheduleSlotOffset : Nat
  warmup : Bool
  firstNormalEpoch : Nat
  firstNormalSlot : Nat
  deriving DecidableEq, Repr

namespace EpochSchedule

/-- `EpochSchedule::custom`. With warm-up, epochs start at 32 slots and double until they
reach `slotsPerEpoch` rounded up to a power of two. -/
def custom (slotsPerEpoch leaderScheduleSlotOffset : Nat) (warmup : Bool) :
    Except Failure EpochSchedule :=
  if slotsPerEpoch < minimumSlotsPerEpoch then
    .error (.panic "assertion failed: slots_per_epoch >= MINIMUM_SLOTS_PER_EPOCH")
  else
    let firstNormal : Except Failure (Nat × Nat) :=
      if warmup then
        (nextPowerOfTwo slotsPerEpoch).map fun nextPowerOfTwo =>
          (trailingZeros nextPowerOfTwo - trailingZeros minimumSlotsPerEpoch,
            nextPowerOfTwo - minimumSlotsPerEpoch)
      else .ok (0, 0)
    firstNormal.map fun (firstNormalEpoch, firstNormalSlot) =>
      { slotsPerEpoch, leaderScheduleSlotOffset, warmup, firstNormalEpoch, firstNormalSlot }

/-- `EpochSchedule::get_slots_in_epoch`. -/
def getSlotsInEpoch (s : EpochSchedule) (epoch : Nat) : Nat :=
  if epoch < s.firstNormalEpoch then
    saturatingPow 2 (min (epoch % 2 ^ 32 + trailingZeros minimumSlotsPerEpoch) (2 ^ 32 - 1))
  else s.slotsPerEpoch

/-- `EpochSchedule::get_first_slot_in_epoch`. -/
def getFirstSlotInEpoch (s : EpochSchedule) (epoch : Nat) : Nat :=
  if epoch ≤ s.firstNormalEpoch then
    saturatingMul (saturatingPow 2 (epoch % 2 ^ 32) - 1) minimumSlotsPerEpoch
  else
    saturatingAdd (saturatingMul (epoch - s.firstNormalEpoch) s.slotsPerEpoch) s.firstNormalSlot

/-- `EpochSchedule::default`: 432000 slots per epoch, with warm-up. -/
def default : EpochSchedule := ⟨432000, 432000, true, 14, 524256⟩

theorem custom_default : custom 432000 432000 true = .ok default := rfl

/-- What `custom` guarantees: the warm-up epochs fit below `u64::MAX`, and the first normal
slot is where the warm-up epochs, doubling from 32 slots, end. -/
structure WellFormed (s : EpochSchedule) : Prop where
  minimumSlotsPerEpoch_le : minimumSlotsPerEpoch ≤ s.slotsPerEpoch
  firstNormalEpoch_le : s.firstNormalEpoch ≤ 59
  firstNormalSlot_eq : s.firstNormalSlot + minimumSlotsPerEpoch = 2 ^ (s.firstNormalEpoch + 5)

theorem custom_wellFormed {slotsPerEpoch offset : Nat} {warmup : Bool} {s : EpochSchedule}
    (h : custom slotsPerEpoch offset warmup = .ok s) : s.WellFormed := by
  unfold custom at h
  split at h
  · cases h
  rename_i hslots
  cases warmup with
  | false =>
      cases h
      exact ⟨Nat.not_lt.mp hslots, Nat.zero_le _, by simp [minimumSlotsPerEpoch]⟩
  | true =>
      cases hpower : nextPowerOfTwo slotsPerEpoch with
      | error => simp [hpower, Except.map] at h
      | ok p =>
          obtain ⟨k, hk, hle, rfl⟩ := nextPowerOfTwo_eq_ok hpower
          simp only [hpower, Except.map, ite_true, Except.ok.injEq] at h
          subst h
          have hmin : trailingZeros 32 = 5 := by decide
          have htz : trailingZeros (2 ^ k) = k := trailingZeros_two_pow (Nat.le_of_lt hk)
          have hfive : 5 ≤ k := by
            by_contra hlt
            have : 2 ^ k ≤ 2 ^ 4 := Nat.pow_le_pow_right Nat.zero_lt_two (by omega)
            simp only [minimumSlotsPerEpoch] at *
            omega
          have hpow : 2 ^ 5 ≤ 2 ^ k := Nat.pow_le_pow_right Nat.zero_lt_two hfive
          refine ⟨Nat.not_lt.mp hslots, ?_, ?_⟩ <;> dsimp only <;>
            simp only [htz, hmin, minimumSlotsPerEpoch]
          · omega
          · rw [Nat.sub_add_cancel hfive]
            omega

variable {s : EpochSchedule}

theorem getFirstSlotInEpoch_le (s : EpochSchedule) (epoch : Nat) :
    s.getFirstSlotInEpoch epoch ≤ u64Max := by
  unfold getFirstSlotInEpoch saturatingAdd saturatingMul
  split <;> omega

theorem firstNormalSlot_le (h : s.WellFormed) : s.firstNormalSlot + 32 ≤ 2 ^ 64 := by
  have := Nat.pow_le_pow_right Nat.zero_lt_two (Nat.add_le_add_right h.firstNormalEpoch_le 5)
  have := h.firstNormalSlot_eq
  simp only [minimumSlotsPerEpoch] at *
  omega

theorem getFirstSlotInEpoch_of_le (h : s.WellFormed) {epoch : Nat}
    (he : epoch ≤ s.firstNormalEpoch) : s.getFirstSlotInEpoch epoch = (2 ^ epoch - 1) * 32 := by
  have hp : 2 ^ epoch ≤ 2 ^ 59 :=
    Nat.pow_le_pow_right Nat.zero_lt_two (Nat.le_trans he h.firstNormalEpoch_le)
  have hmod : epoch % 2 ^ 32 = epoch :=
    Nat.mod_eq_of_lt (by have := h.firstNormalEpoch_le; omega)
  simp only [getFirstSlotInEpoch, if_pos he, hmod, saturatingMul, saturatingPow,
    minimumSlotsPerEpoch, u64Max]
  omega

theorem getFirstSlotInEpoch_of_lt (h : s.WellFormed) {epoch : Nat}
    (he : s.firstNormalEpoch < epoch) :
    s.getFirstSlotInEpoch epoch =
      min ((epoch - s.firstNormalEpoch) * s.slotsPerEpoch + s.firstNormalSlot) u64Max := by
  have hfit := firstNormalSlot_le h
  simp only [getFirstSlotInEpoch, if_neg (Nat.not_le.mpr he), saturatingAdd, saturatingMul,
    u64Max] at hfit ⊢
  generalize (epoch - s.firstNormalEpoch) * s.slotsPerEpoch = a
  omega

theorem getSlotsInEpoch_of_lt (h : s.WellFormed) {epoch : Nat}
    (he : epoch < s.firstNormalEpoch) : s.getSlotsInEpoch epoch = 2 ^ (epoch + 5) := by
  have hle := h.firstNormalEpoch_le
  have hp : 2 ^ (epoch + 5) ≤ 2 ^ 63 :=
    Nat.pow_le_pow_right Nat.zero_lt_two (by have := h.firstNormalEpoch_le; omega)
  have hmod : epoch % 2 ^ 32 = epoch :=
    Nat.mod_eq_of_lt (by have := h.firstNormalEpoch_le; omega)
  have hmin : trailingZeros minimumSlotsPerEpoch = 5 := by decide
  simp only [getSlotsInEpoch, if_pos he, hmod, hmin,
    Nat.min_eq_left (by omega : epoch + 5 ≤ 2 ^ 32 - 1), saturatingPow, u64Max]
  omega

theorem getSlotsInEpoch_of_le {epoch : Nat} (he : s.firstNormalEpoch ≤ epoch) :
    s.getSlotsInEpoch epoch = s.slotsPerEpoch :=
  if_neg (Nat.not_lt.mpr he)

theorem getSlotsInEpoch_pos (h : s.WellFormed) (epoch : Nat) : 0 < s.getSlotsInEpoch epoch := by
  rcases Nat.lt_or_ge epoch s.firstNormalEpoch with hlt | hge
  · rw [getSlotsInEpoch_of_lt h hlt]
    exact Nat.two_pow_pos _
  · have hslots := h.minimumSlotsPerEpoch_le
    rw [getSlotsInEpoch_of_le hge]
    simp only [minimumSlotsPerEpoch] at hslots
    omega

/-- Each epoch starts where the one before it ends, unless that end is past `u64::MAX`. -/
theorem getFirstSlotInEpoch_succ (h : s.WellFormed) (epoch : Nat) :
    s.getFirstSlotInEpoch (epoch + 1) =
      min (s.getFirstSlotInEpoch epoch + s.getSlotsInEpoch epoch) u64Max := by
  have hslot := h.firstNormalSlot_eq
  rcases Nat.lt_trichotomy epoch s.firstNormalEpoch with hlt | rfl | hgt
  · have hp : 2 ^ epoch ≤ 2 ^ 58 :=
      Nat.pow_le_pow_right Nat.zero_lt_two (by have := h.firstNormalEpoch_le; omega)
    rw [getFirstSlotInEpoch_of_le h hlt, getFirstSlotInEpoch_of_le h (Nat.le_of_lt hlt),
      getSlotsInEpoch_of_lt h hlt, Nat.pow_succ, Nat.pow_add]
    simp only [u64Max]
    omega
  · have hp : 2 ^ s.firstNormalEpoch ≤ 2 ^ 59 :=
      Nat.pow_le_pow_right Nat.zero_lt_two h.firstNormalEpoch_le
    rw [getFirstSlotInEpoch_of_lt h (by omega : _ < s.firstNormalEpoch + 1), getFirstSlotInEpoch_of_le h (Nat.le_refl _),
      getSlotsInEpoch_of_le (Nat.le_refl _), Nat.add_sub_cancel_left, Nat.one_mul]
    simp only [minimumSlotsPerEpoch, Nat.pow_add] at hslot
    omega
  · rw [getFirstSlotInEpoch_of_lt h (Nat.lt_succ_of_lt hgt), getFirstSlotInEpoch_of_lt h hgt,
      getSlotsInEpoch_of_le (Nat.le_of_lt hgt),
      show epoch + 1 - s.firstNormalEpoch = epoch - s.firstNormalEpoch + 1 by omega,
      Nat.add_mul, Nat.one_mul]
    generalize (epoch - s.firstNormalEpoch) * s.slotsPerEpoch = a
    omega

end EpochSchedule

end Solido
