import Solido.Snapshot

namespace Solido

namespace SolidoState

/-! The two epoch gates: `is_at_epoch_end`, and the stake/unstake gate of `stake_time`. -/

/-- `slots_into_current_epoch`. -/
def slotsIntoCurrentEpoch (s : SolidoState) : Except Failure Nat :=
  subU64 s.clock.slot (s.epochSchedule.getFirstSlotInEpoch s.clock.epoch)

/-- `is_at_epoch_end`: whether the part of the epoch gone by has reached the threshold. -/
def isAtEpochEnd (s : SolidoState) : Except Failure Bool := do
  let slotsIntoCurrentEpoch ← s.slotsIntoCurrentEpoch
  let slotsPerEpoch := s.epochSchedule.getSlotsInEpoch s.clock.epoch
  let epochProgress : Rational := ⟨slotsIntoCurrentEpoch, slotsPerEpoch⟩
  let nearEpochEnd : Rational := ⟨s.endOfEpochThreshold, 100⟩
  pure (decide (epochProgress ≥ nearEpochEnd))

/-- `confirm_should_stake_unstake_in_current_slot`: `some ()` when staking and unstaking may
happen in this slot. Near the epoch's end it measures the epoch by the first slot of the next. -/
def confirmShouldStakeUnstakeInCurrentSlot (s : SolidoState) : Except Failure (Option Unit) :=
  match s.stakeTime with
  | .anytime => .ok (some ())
  | .onlyNearEpochEnd => do
      let slotsEpochBegin := s.epochSchedule.getFirstSlotInEpoch s.clock.epoch
      let nextEpochBegin := s.epochSchedule.getFirstSlotInEpoch (← addU64 s.clock.epoch 1)
      let slotsPerEpoch ← expect "Next epoch's slot should be always greater than previous."
        (checkedSub nextEpochBegin slotsEpochBegin)
      let slotPastEpoch ← expect
        "Current slot is less than the beginning of the epoch's slot. This shouldn't happen."
        (checkedSub s.clock.slot slotsEpochBegin)
      let ratio : Rational := ⟨slotPastEpoch, slotsPerEpoch⟩
      let theshold : Rational := ⟨s.endOfEpochThreshold, 100⟩
      pure (if ratio > theshold then some () else none)

/-- The snapshot with the clock moved to another slot. -/
def withSlot (s : SolidoState) (slot : Nat) : SolidoState :=
  { s with clock := { s.clock with slot } }

@[simp] theorem withSlot_clock_slot (s : SolidoState) (slot : Nat) :
    (s.withSlot slot).clock.slot = slot := rfl

@[simp] theorem withSlot_clock_epoch (s : SolidoState) (slot : Nat) :
    (s.withSlot slot).clock.epoch = s.clock.epoch := rfl

@[simp] theorem withSlot_epochSchedule (s : SolidoState) (slot : Nat) :
    (s.withSlot slot).epochSchedule = s.epochSchedule := rfl

@[simp] theorem withSlot_stakeTime (s : SolidoState) (slot : Nat) :
    (s.withSlot slot).stakeTime = s.stakeTime := rfl

@[simp] theorem withSlot_endOfEpochThreshold (s : SolidoState) (slot : Nat) :
    (s.withSlot slot).endOfEpochThreshold = s.endOfEpochThreshold := rfl

variable {s : SolidoState}

theorem isAtEpochEnd_of_le (h : s.epochSchedule.getFirstSlotInEpoch s.clock.epoch ≤ s.clock.slot) :
    s.isAtEpochEnd = .ok (decide (s.endOfEpochThreshold *
      s.epochSchedule.getSlotsInEpoch s.clock.epoch ≤
        (s.clock.slot - s.epochSchedule.getFirstSlotInEpoch s.clock.epoch) * 100)) := by
  simp [isAtEpochEnd, slotsIntoCurrentEpoch, subU64_of_le h]

theorem confirmShouldStakeUnstakeInCurrentSlot_of_anytime (h : s.stakeTime = .anytime) :
    s.confirmShouldStakeUnstakeInCurrentSlot = .ok (some ()) := by
  simp [confirmShouldStakeUnstakeInCurrentSlot, h]

theorem confirmShouldStakeUnstakeInCurrentSlot_of_onlyNearEpochEnd
    (hmode : s.stakeTime = .onlyNearEpochEnd) (hepoch : s.clock.epoch + 1 ≤ u64Max)
    (hnext : s.epochSchedule.getFirstSlotInEpoch s.clock.epoch ≤
      s.epochSchedule.getFirstSlotInEpoch (s.clock.epoch + 1))
    (hslot : s.epochSchedule.getFirstSlotInEpoch s.clock.epoch ≤ s.clock.slot) :
    s.confirmShouldStakeUnstakeInCurrentSlot =
      .ok (if s.endOfEpochThreshold * (s.epochSchedule.getFirstSlotInEpoch (s.clock.epoch + 1) -
          s.epochSchedule.getFirstSlotInEpoch s.clock.epoch) <
        (s.clock.slot - s.epochSchedule.getFirstSlotInEpoch s.clock.epoch) * 100
      then some () else none) := by
  simp [confirmShouldStakeUnstakeInCurrentSlot, hmode, addU64_of_le hepoch, checkedSub_of_le hnext,
    checkedSub_of_le hslot]

/-- A schedule with at least one slot per epoch reaches `u64::MAX` by epoch `u64::MAX`, so an epoch
that ends below that bound is not the last `u64`. -/
theorem epoch_lt_of_end_le (hwf : s.epochSchedule.WellFormed)
    (hend : s.epochSchedule.getFirstSlotInEpoch s.clock.epoch +
      s.epochSchedule.getSlotsInEpoch s.clock.epoch ≤ u64Max) :
    s.clock.epoch < u64Max := by
  by_contra hge
  have hnormal : s.epochSchedule.firstNormalEpoch < s.clock.epoch := by
    have := hwf.firstNormalEpoch_le
    simp only [u64Max] at hge
    omega
  have hslots := hwf.minimumSlotsPerEpoch_le
  have hpow : 32 * (s.epochSchedule.firstNormalEpoch + 1) ≤ 2 ^ (s.epochSchedule.firstNormalEpoch + 5) := by
    rw [Nat.pow_add]
    have := Nat.lt_two_pow s.epochSchedule.firstNormalEpoch
    omega
  have hmul : s.clock.epoch - s.epochSchedule.firstNormalEpoch ≤
      (s.clock.epoch - s.epochSchedule.firstNormalEpoch) * s.epochSchedule.slotsPerEpoch :=
    Nat.le_mul_of_pos_right _ (by simp only [minimumSlotsPerEpoch] at hslots; omega)
  have hslot := hwf.firstNormalSlot_eq
  rw [EpochSchedule.getFirstSlotInEpoch_of_lt hwf hnormal,
    EpochSchedule.getSlotsInEpoch_of_le (Nat.le_of_lt hnormal)] at hend
  simp only [minimumSlotsPerEpoch] at hslot hslots
  omega

/-- Below `u64::MAX` the stake gate measures the epoch with `get_slots_in_epoch` as well. -/
theorem confirmShouldStakeUnstakeInCurrentSlot_of_end_le (hwf : s.epochSchedule.WellFormed)
    (hmode : s.stakeTime = .onlyNearEpochEnd)
    (hslot : s.epochSchedule.getFirstSlotInEpoch s.clock.epoch ≤ s.clock.slot)
    (hend : s.epochSchedule.getFirstSlotInEpoch s.clock.epoch +
      s.epochSchedule.getSlotsInEpoch s.clock.epoch ≤ u64Max) :
    s.confirmShouldStakeUnstakeInCurrentSlot =
      .ok (if s.endOfEpochThreshold * s.epochSchedule.getSlotsInEpoch s.clock.epoch <
          (s.clock.slot - s.epochSchedule.getFirstSlotInEpoch s.clock.epoch) * 100
        then some () else none) := by
  have hnext := EpochSchedule.getFirstSlotInEpoch_succ hwf s.clock.epoch
  rw [Nat.min_eq_left hend] at hnext
  rw [confirmShouldStakeUnstakeInCurrentSlot_of_onlyNearEpochEnd hmode
    (epoch_lt_of_end_le hwf hend) (by omega) hslot, hnext, Nat.add_sub_cancel_left]

theorem confirmShouldStakeUnstakeInCurrentSlot_isOk (hwf : s.epochSchedule.WellFormed)
    (hslot : s.epochSchedule.getFirstSlotInEpoch s.clock.epoch ≤ s.clock.slot)
    (hend : s.epochSchedule.getFirstSlotInEpoch s.clock.epoch +
      s.epochSchedule.getSlotsInEpoch s.clock.epoch ≤ u64Max) :
    ∃ gate, s.confirmShouldStakeUnstakeInCurrentSlot = .ok gate := by
  cases hmode : s.stakeTime with
  | anytime => exact ⟨_, confirmShouldStakeUnstakeInCurrentSlot_of_anytime hmode⟩
  | onlyNearEpochEnd =>
      exact ⟨_, confirmShouldStakeUnstakeInCurrentSlot_of_end_le hwf hmode hslot hend⟩

theorem le_of_isAtEpochEnd_eq_ok {atEnd : Bool} (h : s.isAtEpochEnd = .ok atEnd) :
    s.epochSchedule.getFirstSlotInEpoch s.clock.epoch ≤ s.clock.slot := by
  by_contra hlt
  simp [isAtEpochEnd, slotsIntoCurrentEpoch, subU64_of_lt (Nat.lt_of_not_le hlt)] at h

/-- Once `is_at_epoch_end` holds, it holds at every later slot of the same epoch. -/
theorem isAtEpochEnd_withSlot {slot : Nat} (hle : s.clock.slot ≤ slot)
    (h : s.isAtEpochEnd = .ok true) : (s.withSlot slot).isAtEpochEnd = .ok true := by
  have hlo := le_of_isAtEpochEnd_eq_ok h
  have hlo' : s.epochSchedule.getFirstSlotInEpoch s.clock.epoch ≤ slot := by omega
  rw [isAtEpochEnd_of_le hlo] at h
  rw [isAtEpochEnd_of_le (s := s.withSlot slot) hlo']
  simp only [withSlot_clock_slot, withSlot_clock_epoch, withSlot_epochSchedule,
    withSlot_endOfEpochThreshold, Except.ok.injEq, decide_eq_true_eq] at h ⊢
  omega

/-- Near the epoch's end the stake gate opens only where none of its steps panicked, and then
strictly past the threshold of the epoch it measures up to the first slot of the next. -/
theorem confirmShouldStakeUnstakeInCurrentSlot_eq_some (hmode : s.stakeTime = .onlyNearEpochEnd)
    (h : s.confirmShouldStakeUnstakeInCurrentSlot = .ok (some ())) :
    s.clock.epoch + 1 ≤ u64Max ∧
      s.epochSchedule.getFirstSlotInEpoch s.clock.epoch ≤
        s.epochSchedule.getFirstSlotInEpoch (s.clock.epoch + 1) ∧
      s.epochSchedule.getFirstSlotInEpoch s.clock.epoch ≤ s.clock.slot ∧
      s.endOfEpochThreshold * (s.epochSchedule.getFirstSlotInEpoch (s.clock.epoch + 1) -
          s.epochSchedule.getFirstSlotInEpoch s.clock.epoch) <
        (s.clock.slot - s.epochSchedule.getFirstSlotInEpoch s.clock.epoch) * 100 := by
  have hepoch : s.clock.epoch + 1 ≤ u64Max := by
    by_contra hgt
    simp [confirmShouldStakeUnstakeInCurrentSlot, hmode, addU64, hgt] at h
  have hnext : s.epochSchedule.getFirstSlotInEpoch s.clock.epoch ≤
      s.epochSchedule.getFirstSlotInEpoch (s.clock.epoch + 1) := by
    by_contra hgt
    simp [confirmShouldStakeUnstakeInCurrentSlot, hmode, addU64_of_le hepoch, checkedSub, hgt] at h
  have hslot : s.epochSchedule.getFirstSlotInEpoch s.clock.epoch ≤ s.clock.slot := by
    by_contra hgt
    simp [confirmShouldStakeUnstakeInCurrentSlot, hmode, addU64_of_le hepoch, checkedSub, hnext,
      hgt] at h
  rw [confirmShouldStakeUnstakeInCurrentSlot_of_onlyNearEpochEnd hmode hepoch hnext hslot] at h
  split at h
  · exact ⟨hepoch, hnext, hslot, ‹_›⟩
  · cases h

/-- Once open, the stake gate stays open at every later slot of the same epoch, whatever the
schedule: the epoch it measures does not depend on the slot. -/
theorem confirmShouldStakeUnstakeInCurrentSlot_withSlot {slot : Nat} (hle : s.clock.slot ≤ slot)
    (h : s.confirmShouldStakeUnstakeInCurrentSlot = .ok (some ())) :
    (s.withSlot slot).confirmShouldStakeUnstakeInCurrentSlot = .ok (some ()) := by
  cases hmode : s.stakeTime with
  | anytime => exact confirmShouldStakeUnstakeInCurrentSlot_of_anytime hmode
  | onlyNearEpochEnd =>
      obtain ⟨hepoch, hnext, hslot, hopen⟩ := confirmShouldStakeUnstakeInCurrentSlot_eq_some hmode h
      have hslot' : s.epochSchedule.getFirstSlotInEpoch s.clock.epoch ≤ slot := by omega
      rw [confirmShouldStakeUnstakeInCurrentSlot_of_onlyNearEpochEnd (s := s.withSlot slot) hmode
        hepoch hnext hslot']
      simp only [withSlot_clock_slot, withSlot_clock_epoch, withSlot_epochSchedule,
        withSlot_endOfEpochThreshold]
      rw [if_pos (by omega)]

/-- For a schedule built by `custom` and a slot inside its epoch: `is_at_epoch_end` does not
underflow and holds from the threshold on, and each gate, once open, stays open for the rest of
the epoch. For an epoch that ends at or below `u64::MAX`, near the epoch's end the stake gate
does not panic and opens strictly past the threshold, so only where the two meet exactly is one
open and not the other. -/
theorem epochGates_of_custom {slotsPerEpoch offset : Nat} {warmup : Bool}
    (hcustom : EpochSchedule.custom slotsPerEpoch offset warmup = .ok s.epochSchedule)
    (hlo : s.epochSchedule.getFirstSlotInEpoch s.clock.epoch ≤ s.clock.slot) :
    s.isAtEpochEnd = .ok (decide (s.endOfEpochThreshold *
      s.epochSchedule.getSlotsInEpoch s.clock.epoch ≤
        (s.clock.slot - s.epochSchedule.getFirstSlotInEpoch s.clock.epoch) * 100)) ∧
    (∀ slot, s.clock.slot ≤ slot → slot < s.epochSchedule.getFirstSlotInEpoch (s.clock.epoch + 1) →
      (s.isAtEpochEnd = .ok true → (s.withSlot slot).isAtEpochEnd = .ok true) ∧
      (s.confirmShouldStakeUnstakeInCurrentSlot = .ok (some ()) →
        (s.withSlot slot).confirmShouldStakeUnstakeInCurrentSlot = .ok (some ()))) ∧
    (s.epochSchedule.getFirstSlotInEpoch s.clock.epoch +
        s.epochSchedule.getSlotsInEpoch s.clock.epoch ≤ u64Max →
      s.stakeTime = .onlyNearEpochEnd →
      s.confirmShouldStakeUnstakeInCurrentSlot =
        .ok (if s.endOfEpochThreshold * s.epochSchedule.getSlotsInEpoch s.clock.epoch <
            (s.clock.slot - s.epochSchedule.getFirstSlotInEpoch s.clock.epoch) * 100
          then some () else none) ∧
      (s.confirmShouldStakeUnstakeInCurrentSlot = .ok (some ()) → s.isAtEpochEnd = .ok true) ∧
      (s.confirmShouldStakeUnstakeInCurrentSlot = .ok none → s.isAtEpochEnd = .ok true →
        s.endOfEpochThreshold * s.epochSchedule.getSlotsInEpoch s.clock.epoch =
          (s.clock.slot - s.epochSchedule.getFirstSlotInEpoch s.clock.epoch) * 100)) := by
  have hatEnd := isAtEpochEnd_of_le hlo
  refine ⟨hatEnd, fun slot hle _ => ⟨isAtEpochEnd_withSlot hle,
    confirmShouldStakeUnstakeInCurrentSlot_withSlot hle⟩, fun hend hmode => ?_⟩
  rw [confirmShouldStakeUnstakeInCurrentSlot_of_end_le (EpochSchedule.custom_wellFormed hcustom)
    hmode hlo hend, hatEnd]
  refine ⟨rfl, ?_, ?_⟩ <;> split <;> simp <;> omega

/-- Slot 93 of epoch 1 of the default schedule, where `test_above_epoch_threshold` looks. -/
def nearEpochEndSnapshot : SolidoState :=
  { newEmptySolido with stakeTime := .onlyNearEpochEnd, clock := ⟨32 + 61, 1⟩ }

theorem epochGates_of_custom_default :
    EpochSchedule.custom 432000 432000 true = .ok nearEpochEndSnapshot.epochSchedule ∧
    nearEpochEndSnapshot.epochSchedule.getFirstSlotInEpoch nearEpochEndSnapshot.clock.epoch ≤
      nearEpochEndSnapshot.clock.slot ∧
    nearEpochEndSnapshot.isAtEpochEnd = .ok (decide (nearEpochEndSnapshot.endOfEpochThreshold *
      nearEpochEndSnapshot.epochSchedule.getSlotsInEpoch nearEpochEndSnapshot.clock.epoch ≤
        (nearEpochEndSnapshot.clock.slot - nearEpochEndSnapshot.epochSchedule.getFirstSlotInEpoch
          nearEpochEndSnapshot.clock.epoch) * 100)) ∧
    (∀ slot, nearEpochEndSnapshot.clock.slot ≤ slot →
      slot < nearEpochEndSnapshot.epochSchedule.getFirstSlotInEpoch
        (nearEpochEndSnapshot.clock.epoch + 1) →
      (nearEpochEndSnapshot.isAtEpochEnd = .ok true →
        (nearEpochEndSnapshot.withSlot slot).isAtEpochEnd = .ok true) ∧
      (nearEpochEndSnapshot.confirmShouldStakeUnstakeInCurrentSlot = .ok (some ()) →
        (nearEpochEndSnapshot.withSlot slot).confirmShouldStakeUnstakeInCurrentSlot =
          .ok (some ()))) ∧
    (nearEpochEndSnapshot.epochSchedule.getFirstSlotInEpoch nearEpochEndSnapshot.clock.epoch +
        nearEpochEndSnapshot.epochSchedule.getSlotsInEpoch nearEpochEndSnapshot.clock.epoch ≤
          u64Max →
      nearEpochEndSnapshot.stakeTime = .onlyNearEpochEnd →
      nearEpochEndSnapshot.confirmShouldStakeUnstakeInCurrentSlot =
        .ok (if nearEpochEndSnapshot.endOfEpochThreshold *
            nearEpochEndSnapshot.epochSchedule.getSlotsInEpoch nearEpochEndSnapshot.clock.epoch <
            (nearEpochEndSnapshot.clock.slot - nearEpochEndSnapshot.epochSchedule.getFirstSlotInEpoch
              nearEpochEndSnapshot.clock.epoch) * 100
          then some () else none) ∧
      (nearEpochEndSnapshot.confirmShouldStakeUnstakeInCurrentSlot = .ok (some ()) →
        nearEpochEndSnapshot.isAtEpochEnd = .ok true) ∧
      (nearEpochEndSnapshot.confirmShouldStakeUnstakeInCurrentSlot = .ok none →
        nearEpochEndSnapshot.isAtEpochEnd = .ok true →
        nearEpochEndSnapshot.endOfEpochThreshold *
            nearEpochEndSnapshot.epochSchedule.getSlotsInEpoch nearEpochEndSnapshot.clock.epoch =
          (nearEpochEndSnapshot.clock.slot - nearEpochEndSnapshot.epochSchedule.getFirstSlotInEpoch
            nearEpochEndSnapshot.clock.epoch) * 100)) :=
  ⟨EpochSchedule.custom_default, by decide,
    epochGates_of_custom EpochSchedule.custom_default (by decide)⟩

/-- The last epoch of 32-slot epochs without warm-up that starts below `u64::MAX`, at slot 16 of
it, with a 50% threshold. -/
def saturatedEpochSnapshot : SolidoState :=
  { newEmptySolido with
    epochSchedule := ⟨32, 32, false, 0, 0⟩
    stakeTime := .onlyNearEpochEnd
    clock := ⟨2 ^ 64 - 16, 2 ^ 59 - 1⟩
    endOfEpochThreshold := 50 }

/-- There the next epoch's first slot saturates at `u64::MAX`, so the stake gate measures an
epoch of 31 slots: it is open, although 16 slots are exactly half of the 32 the schedule counts. -/
theorem saturatedEpoch_gate_open_at_half :
    EpochSchedule.custom 32 32 false = .ok saturatedEpochSnapshot.epochSchedule ∧
      saturatedEpochSnapshot.epochSchedule.getFirstSlotInEpoch saturatedEpochSnapshot.clock.epoch ≤
        saturatedEpochSnapshot.clock.slot ∧
      saturatedEpochSnapshot.clock.slot < saturatedEpochSnapshot.epochSchedule.getFirstSlotInEpoch
        (saturatedEpochSnapshot.clock.epoch + 1) ∧
      saturatedEpochSnapshot.confirmShouldStakeUnstakeInCurrentSlot = .ok (some ()) ∧
      ¬ saturatedEpochSnapshot.endOfEpochThreshold *
          saturatedEpochSnapshot.epochSchedule.getSlotsInEpoch saturatedEpochSnapshot.clock.epoch <
        (saturatedEpochSnapshot.clock.slot - saturatedEpochSnapshot.epochSchedule.getFirstSlotInEpoch
          saturatedEpochSnapshot.clock.epoch) * 100 :=
  ⟨rfl, by decide, by decide, rfl, by decide⟩

/-- `test_below_epoch_threshold` and `test_above_epoch_threshold`: epoch 1 of the default
schedule is the 64 slots from slot 32, so at 95% the gate is shut at slot 33 and open at 93. -/
example : ({ newEmptySolido with stakeTime := .onlyNearEpochEnd, clock := ⟨33, 1⟩ }
    ).confirmShouldStakeUnstakeInCurrentSlot = .ok none := rfl

example : nearEpochEndSnapshot.confirmShouldStakeUnstakeInCurrentSlot = .ok (some ()) := rfl

end SolidoState

end Solido
