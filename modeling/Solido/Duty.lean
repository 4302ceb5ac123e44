import Solido.EpochGate

namespace Solido

namespace SolidoState

/-! Maintainer duty: slots are cut into slices of 100, each slice belongs to one maintainer in
list order, and nobody is on duty in the last 10 slots of a slice. -/

/-- `get_current_maintainer_duty`. -/
def getCurrentMaintainerDuty (s : SolidoState) : Option Pubkey :=
  if h : s.maintainers.entries = [] then none
  else
    let dutySlice := s.clock.slot / maintainerDutySliceLength
    let slotInDutySlice := s.clock.slot % maintainerDutySliceLength
    if slotInDutySlice ≥ maintainerDutySliceLength - maintainerDutyPauseLength then none
    else
      let maintainerIndex := dutySlice % s.maintainers.len
      some (s.maintainers.entries.get
        ⟨maintainerIndex, Nat.mod_lt _ (List.length_pos.mpr h)⟩).pubkey

/-- `get_next_maintainer_duty_slot`: the first slot of the maintainer's next slice, counted from
the start of the current cycle of slices. -/
def getNextMaintainerDutySlot (s : SolidoState) (maintainer : Pubkey) :
    Except Failure (Option Nat) :=
  if s.maintainers.entries = [] then .ok none
  else do
    let cycleLength ← mulU64 s.maintainers.len maintainerDutySliceLength
    let currentCycleStartSlot ← mulU64 (s.clock.slot / cycleLength) cycleLength
    match s.maintainers.entries.findIdx? fun m => m.pubkey == maintainer with
    | none => pure none
    | some selfIndex => do
        let selfSliceStartSlot ←
          addU64 currentCycleStartSlot (← mulU64 selfIndex maintainerDutySliceLength)
        if selfSliceStartSlot ≤ s.clock.slot then
          some <$> addU64 selfSliceStartSlot cycleLength
        else pure (some selfSliceStartSlot)

@[simp] theorem withSlot_maintainers (s : SolidoState) (slot : Nat) :
    (s.withSlot slot).maintainers = s.maintainers := rfl

variable {s : SolidoState}

theorem getCurrentMaintainerDuty_eq (hpos : 0 < s.maintainers.entries.length) :
    s.getCurrentMaintainerDuty =
      if s.clock.slot % 100 < 90 then
        some (s.maintainers.entries.get
          ⟨s.clock.slot / 100 % s.maintainers.entries.length, Nat.mod_lt _ hpos⟩).pubkey
      else none := by
  have hne : s.maintainers.entries ≠ [] := List.ne_nil_of_length_pos hpos
  simp only [getCurrentMaintainerDuty, hne, dite_false, maintainerDutySliceLength,
    maintainerDutyPauseLength, AccountList.len]
  split <;> split <;> first | rfl | omega

theorem getCurrentMaintainerDuty_eq_none_iff (hpos : 0 < s.maintainers.entries.length) :
    s.getCurrentMaintainerDuty = none ↔ 90 ≤ s.clock.slot % 100 := by
  rw [getCurrentMaintainerDuty_eq hpos]
  split <;> simp <;> omega

/-- With distinct keys, the maintainer at `index` is on duty exactly in the first 90 slots of the
slices whose number is `index` modulo the number of maintainers. -/
theorem getCurrentMaintainerDuty_eq_some_iff
    (hnodup : (s.maintainers.entries.map Maintainer.pubkey).Nodup) {index : Nat}
    (hindex : index < s.maintainers.entries.length)
    {m : Pubkey} (hm : (s.maintainers.entries.get ⟨index, hindex⟩).pubkey = m) :
    s.getCurrentMaintainerDuty = some m ↔
      s.clock.slot % 100 < 90 ∧ s.clock.slot / 100 % s.maintainers.entries.length = index := by
  have hpos : 0 < s.maintainers.entries.length := Nat.lt_of_le_of_lt (Nat.zero_le _) hindex
  rw [getCurrentMaintainerDuty_eq hpos]
  split
  · rename_i hslice
    simp only [Option.some.injEq, hslice, true_and, ← hm]
    have hinj := @List.Nodup.getElem_inj_iff _ _ hnodup
      (s.clock.slot / 100 % s.maintainers.entries.length) (by simpa using Nat.mod_lt _ hpos)
      index (by simpa using hindex)
    simpa using hinj
  · rename_i hslice
    simp [hslice]

/-- Without overflow, the next duty slot is the start of the maintainer's slice in the current
cycle, or in the next cycle once that start is not after the current slot. -/
theorem getNextMaintainerDutySlot_eq (hpos : 0 < s.maintainers.entries.length)
    (hfit : s.clock.slot + s.maintainers.entries.length * 100 ≤ u64Max) (key : Pubkey) :
    s.getNextMaintainerDutySlot key =
      .ok ((s.maintainers.entries.findIdx? fun m => m.pubkey == key).map fun i =>
        let start := s.clock.slot / (s.maintainers.entries.length * 100) *
          (s.maintainers.entries.length * 100) + i * 100
        if start ≤ s.clock.slot then start + s.maintainers.entries.length * 100 else start) := by
  have hne := List.ne_nil_of_length_pos hpos
  have hcycle := Nat.div_mul_le_self s.clock.slot (s.maintainers.entries.length * 100)
  have hnext := @Nat.lt_div_mul_add s.clock.slot _ (by omega : 0 < s.maintainers.entries.length * 100)
  have hstart : s.clock.slot / (s.maintainers.entries.length * 100) *
      (s.maintainers.entries.length * 100) ≤ u64Max := by omega
  simp only [getNextMaintainerDutySlot, hne, if_false, AccountList.len, maintainerDutySliceLength,
    mulU64_of_le (by omega : s.maintainers.entries.length * 100 ≤ u64Max), mulU64_of_le hstart,
    ok_bind]
  generalize s.clock.slot / (s.maintainers.entries.length * 100) *
    (s.maintainers.entries.length * 100) = start at *
  cases hfind : s.maintainers.entries.findIdx? fun m => m.pubkey == key with
  | none => rfl
  | some i =>
      have hi : i < s.maintainers.entries.length :=
        (List.findIdx?_eq_some_iff_findIdx_eq.mp hfind).1
      simp only [mulU64_of_le (by omega : i * 100 ≤ u64Max), ok_bind,
        addU64_of_le (by omega : start + i * 100 ≤ u64Max), Option.map_some']
      split
      · simp [addU64_of_le (by omega : start + i * 100 + s.maintainers.entries.length * 100 ≤ u64Max),
          *]
      · simp [*]

/-- The slot `get_next_maintainer_duty_slot` computes for the maintainer at `index` is a slice
start after `slot`, at most one cycle later, whose slice number is `index` modulo the number of
maintainers. -/
theorem nextDutySlot_bounds {slot n index next : Nat} (hpos : 0 < n) (hindex : index < n)
    (hnext : next =
      if slot / (n * 100) * (n * 100) + index * 100 ≤ slot then
        slot / (n * 100) * (n * 100) + index * 100 + n * 100
      else slot / (n * 100) * (n * 100) + index * 100) :
    slot < next ∧ next ≤ slot + n * 100 ∧ next % 100 = 0 ∧ next / 100 % n = index := by
  have hcycle := Nat.div_mul_le_self slot (n * 100)
  have hlast := @Nat.lt_div_mul_add slot _ (by omega : 0 < n * 100)
  have hk : slot / (n * 100) * (n * 100) = n * (slot / (n * 100)) * 100 := by
    rw [Nat.mul_comm n (slot / (n * 100)), Nat.mul_assoc]
  rw [hk] at hcycle hlast hnext
  generalize slot / (n * 100) = k at *
  split at hnext
  · have hslice : next / 100 = n * (k + 1) + index := by
      rw [Nat.mul_succ]
      omega
    refine ⟨by omega, by omega, by omega, ?_⟩
    rw [hslice, Nat.mul_add_mod, Nat.mod_eq_of_lt hindex]
  · have hslice : next / 100 = n * k + index := by omega
    refine ⟨by omega, by omega, by omega, ?_⟩
    rw [hslice, Nat.mul_add_mod, Nat.mod_eq_of_lt hindex]

theorem findIdx?_pubkey_of_mem {maintainers : List Maintainer} {m : Pubkey}
    (hm : m ∈ maintainers.map Maintainer.pubkey) :
    ∃ index, ∃ hindex : index < maintainers.length,
      maintainers.findIdx? (fun x => x.pubkey == m) = some index ∧
        (maintainers.get ⟨index, hindex⟩).pubkey = m := by
  obtain ⟨x, hx, rfl⟩ := List.mem_map.mp hm
  have hany : maintainers.any (fun y => y.pubkey == x.pubkey) = true :=
    List.any_eq_true.mpr ⟨x, hx, beq_self_eq_true _⟩
  obtain ⟨index, hfind⟩ := Option.isSome_iff_exists.mp (List.findIdx?_isSome.trans hany)
  obtain ⟨hindex, hpk, -⟩ := List.findIdx?_eq_some_iff_getElem.mp hfind
  exact ⟨index, hindex, hfind, by simpa using hpk⟩

/-- The next duty slot of a maintainer is the first slice start after the current slot at which
it is on duty; it holds the next 90 slots, and nobody holds the 10 before. A key that is not a
maintainer has no next duty slot. -/
theorem getNextMaintainerDutySlot_spec (hpos : 0 < s.maintainers.entries.length)
    (hnodup : (s.maintainers.entries.map Maintainer.pubkey).Nodup)
    (hslot : s.clock.slot + 2 * s.maintainers.entries.length * 100 < 2 ^ 64) :
    (∀ m ∈ s.maintainers.entries.map Maintainer.pubkey, ∃ next,
      s.getNextMaintainerDutySlot m = .ok (some next) ∧
      s.clock.slot < next ∧ next ≤ s.clock.slot + s.maintainers.entries.length * 100 ∧
      next % maintainerDutySliceLength = 0 ∧
      (s.withSlot next).getCurrentMaintainerDuty = some m ∧
      (∀ slot, s.clock.slot < slot → slot % maintainerDutySliceLength = 0 →
        (s.withSlot slot).getCurrentMaintainerDuty = some m → next ≤ slot) ∧
      (∀ slot, next ≤ slot → slot < next + 90 →
        (s.withSlot slot).getCurrentMaintainerDuty = some m) ∧
      (∀ slot, next - 10 ≤ slot → slot < next → (s.withSlot slot).getCurrentMaintainerDuty = none)) ∧
    ∀ key, s.getNextMaintainerDutySlot key = .ok none ↔
      key ∉ s.maintainers.entries.map Maintainer.pubkey := by
  have hfit : s.clock.slot + s.maintainers.entries.length * 100 ≤ u64Max := by
    simp only [u64Max]
    omega
  refine ⟨fun m hm => ?_, fun key => ?_⟩
  · obtain ⟨index, hindex, hfind, hget⟩ := findIdx?_pubkey_of_mem hm
    obtain ⟨next, hnext⟩ : ∃ next, next =
        if s.clock.slot / (s.maintainers.entries.length * 100) * (s.maintainers.entries.length * 100) +
            index * 100 ≤ s.clock.slot then
          s.clock.slot / (s.maintainers.entries.length * 100) * (s.maintainers.entries.length * 100) +
            index * 100 + s.maintainers.entries.length * 100
        else s.clock.slot / (s.maintainers.entries.length * 100) * (s.maintainers.entries.length * 100) +
          index * 100 := ⟨_, rfl⟩
    obtain ⟨hlt, hle, hmod, hdiv⟩ := nextDutySlot_bounds hpos hindex hnext
    have hduty : ∀ slot, (s.withSlot slot).getCurrentMaintainerDuty = some m ↔
        slot % 100 < 90 ∧ slot / 100 % s.maintainers.entries.length = index := fun slot =>
      @getCurrentMaintainerDuty_eq_some_iff (s.withSlot slot) hnodup index hindex m hget
    have hpause : ∀ slot, (s.withSlot slot).getCurrentMaintainerDuty = none ↔ 90 ≤ slot % 100 :=
      fun slot => @getCurrentMaintainerDuty_eq_none_iff (s.withSlot slot) hpos
    refine ⟨next, by rw [getNextMaintainerDutySlot_eq hpos hfit, hfind, hnext]; rfl, hlt, hle, hmod,
      (hduty _).mpr ⟨by omega, hdiv⟩, fun slot hafter hstart hon => ?_,
      fun slot hfrom hto => (hduty slot).mpr ⟨by omega, ?_⟩,
      fun slot hfrom hto => (hpause slot).mpr (by omega)⟩
    · obtain ⟨-, hslice⟩ := (hduty slot).mp hon
      have hslot100 : slot % 100 = 0 := hstart
      by_contra hbefore
      have hdvd : s.maintainers.entries.length ∣ next / 100 - slot / 100 :=
        Nat.dvd_of_mod_eq_zero (Nat.sub_mod_eq_zero_of_mod_eq (hdiv.trans hslice.symm))
      have := Nat.le_of_dvd (by omega) hdvd
      omega
    · rw [← hdiv]
      congr 1
      omega
  · rw [getNextMaintainerDutySlot_eq hpos hfit]
    simp only [Except.ok.injEq, Option.map_eq_none', List.findIdx?_eq_none_iff,
      beq_eq_false_iff_ne, ne_eq, List.mem_map, not_exists, not_and]

/-- Three maintainers at slot 100, as `next_maintainer_duty_slot_agrees_with_current_duty` starts. -/
def threeMaintainersSnapshot : SolidoState :=
  { newEmptySolido with maintainers := ⟨[⟨⟨4⟩⟩, ⟨⟨5⟩⟩, ⟨⟨6⟩⟩], by decide⟩, clock := ⟨100, 0⟩ }

example : threeMaintainersSnapshot.getNextMaintainerDutySlot ⟨5⟩ = .ok (some 400) := rfl

theorem getNextMaintainerDutySlot_spec_three :
    0 < threeMaintainersSnapshot.maintainers.entries.length ∧
    (threeMaintainersSnapshot.maintainers.entries.map Maintainer.pubkey).Nodup ∧
    threeMaintainersSnapshot.clock.slot +
      2 * threeMaintainersSnapshot.maintainers.entries.length * 100 < 2 ^ 64 ∧
    (∀ m ∈ threeMaintainersSnapshot.maintainers.entries.map Maintainer.pubkey, ∃ next,
      threeMaintainersSnapshot.getNextMaintainerDutySlot m = .ok (some next) ∧
      threeMaintainersSnapshot.clock.slot < next ∧
      next ≤ threeMaintainersSnapshot.clock.slot +
        threeMaintainersSnapshot.maintainers.entries.length * 100 ∧
      next % maintainerDutySliceLength = 0 ∧
      (threeMaintainersSnapshot.withSlot next).getCurrentMaintainerDuty = some m ∧
      (∀ slot, threeMaintainersSnapshot.clock.slot < slot → slot % maintainerDutySliceLength = 0 →
        (threeMaintainersSnapshot.withSlot slot).getCurrentMaintainerDuty = some m → next ≤ slot) ∧
      (∀ slot, next ≤ slot → slot < next + 90 →
        (threeMaintainersSnapshot.withSlot slot).getCurrentMaintainerDuty = some m) ∧
      (∀ slot, next - 10 ≤ slot → slot < next →
        (threeMaintainersSnapshot.withSlot slot).getCurrentMaintainerDuty = none)) ∧
    ∀ key, threeMaintainersSnapshot.getNextMaintainerDutySlot key = .ok none ↔
      key ∉ threeMaintainersSnapshot.maintainers.entries.map Maintainer.pubkey :=
  ⟨by decide, by decide, by decide,
    getNextMaintainerDutySlot_spec (by decide) (by decide) (by decide)⟩

/-! Equal shares: counting the slots of one full cycle. -/

/-- Counting a periodic property over one period gives the same number wherever the window of
slots starts. -/
theorem countP_range_shift {p : Nat → Bool} {period : Nat} (hp : ∀ x, p (x + period) = p x) :
    ∀ start, (List.range period).countP (fun k => p (start + k)) = (List.range period).countP p
  | 0 => by simp
  | start + 1 => by
      have hwindow := congrArg (List.countP fun k => p (start + k)) (List.range_succ_eq_map period)
      rw [List.range_succ, List.countP_append, List.countP_singleton, List.countP_cons,
        List.countP_map, hp, Nat.add_zero] at hwindow
      rw [← countP_range_shift hp start]
      have hshift : ((fun k => p (start + k)) ∘ Nat.succ) = fun k => p (start + 1 + k) := by
        funext k
        simp only [Function.comp, Nat.succ_eq_add_one, Nat.add_assoc, Nat.add_comm 1]
      rw [hshift] at hwindow
      omega

theorem countP_range_succ_mul_hundred (p : Nat → Bool) (n : Nat) :
    (List.range ((n + 1) * 100)).countP p =
      (List.range (n * 100)).countP p + (List.range 100).countP fun r => p (n * 100 + r) := by
  rw [Nat.succ_mul, List.range_add, List.countP_append, List.countP_map]
  rfl

/-- In `n` whole slices, slice `index` has 90 slots before its pause when `index < n`. -/
theorem countP_range_slice (index : Nat) :
    ∀ n, (List.range (n * 100)).countP (fun k => decide (k % 100 < 90 ∧ k / 100 = index)) =
      if index < n then 90 else 0
  | 0 => by simp
  | n + 1 => by
      rw [countP_range_succ_mul_hundred, countP_range_slice index n,
        @List.countP_congr _ _ (fun r => decide (r < 90 ∧ n = index)) _ fun r hr => by
          have := List.mem_range.mp hr
          simp only [decide_eq_true_eq]
          constructor <;> rintro ⟨h1, h2⟩ <;> exact ⟨by omega, by omega⟩]
      by_cases hn : n = index
      · subst hn
        simp only [and_true, Nat.lt_irrefl, if_false, Nat.lt_succ_self, if_true, Nat.zero_add]
        decide
      · have hzero : (List.range 100).countP (fun r => decide (r < 90 ∧ n = index)) = 0 :=
          List.countP_eq_zero.mpr fun r _ => by simp [hn]
        rw [hzero]
        split <;> split <;> omega

/-- In `n` whole slices, 10 slots of each are in a pause. -/
theorem countP_range_pause : ∀ n,
    (List.range (n * 100)).countP (fun k => decide (90 ≤ k % 100)) = 10 * n
  | 0 => by simp
  | n + 1 => by
      rw [countP_range_succ_mul_hundred, countP_range_pause n,
        @List.countP_congr _ _ (fun r => decide (90 ≤ r)) _ fun r hr => by
          have := List.mem_range.mp hr
          simp only [decide_eq_true_eq]
          omega]
      have hpause : (List.range 100).countP (fun r => decide (90 ≤ r)) = 10 := by decide
      omega

/-- The duty function repeats after a full cycle of slices. -/
theorem getCurrentMaintainerDuty_periodic (hpos : 0 < s.maintainers.entries.length) (slot : Nat) :
    (s.withSlot (slot + s.maintainers.entries.length * 100)).getCurrentMaintainerDuty =
      (s.withSlot slot).getCurrentMaintainerDuty := by
  rw [@getCurrentMaintainerDuty_eq (s.withSlot (slot + s.maintainers.entries.length * 100)) hpos,
    @getCurrentMaintainerDuty_eq (s.withSlot slot) hpos]
  have hmod : (slot + s.maintainers.entries.length * 100) % 100 = slot % 100 := by omega
  have hdiv : (slot + s.maintainers.entries.length * 100) / 100 % s.maintainers.entries.length =
      slot / 100 % s.maintainers.entries.length := by
    rw [show (slot + s.maintainers.entries.length * 100) / 100 =
      slot / 100 + s.maintainers.entries.length by omega, Nat.add_mod_right]
  simp only [withSlot_clock_slot, withSlot_maintainers, hmod, List.get_eq_getElem, hdiv]

/-- Over any window of one full cycle, each of the `n` maintainers is on duty for 90 slots and
nobody for `10 · n`: the slots whose offset in their slice is at least 90. -/
theorem getCurrentMaintainerDuty_equal_shares (hpos : 0 < s.maintainers.entries.length)
    (hnodup : (s.maintainers.entries.map Maintainer.pubkey).Nodup) :
    (∀ m ∈ s.maintainers.entries.map Maintainer.pubkey,
      (List.range (s.maintainers.entries.length * 100)).countP
        (fun k => (s.withSlot (s.clock.slot + k)).getCurrentMaintainerDuty = some m) = 90) ∧
    (List.range (s.maintainers.entries.length * 100)).countP
        (fun k => (s.withSlot (s.clock.slot + k)).getCurrentMaintainerDuty = none) =
      10 * s.maintainers.entries.length ∧
    (∀ slot, (s.withSlot slot).getCurrentMaintainerDuty = none ↔ 90 ≤ slot % 100) ∧
    ∀ slot, (s.withSlot (slot + s.maintainers.entries.length * 100)).getCurrentMaintainerDuty =
      (s.withSlot slot).getCurrentMaintainerDuty := by
  have hperiodic := getCurrentMaintainerDuty_periodic hpos
  have hpause : ∀ slot, (s.withSlot slot).getCurrentMaintainerDuty = none ↔ 90 ≤ slot % 100 :=
    fun slot => @getCurrentMaintainerDuty_eq_none_iff (s.withSlot slot) hpos
  refine ⟨fun m hm => ?_, ?_, hpause, hperiodic⟩
  · obtain ⟨index, hindex, -, hget⟩ := findIdx?_pubkey_of_mem hm
    rw [@countP_range_shift (fun k => decide ((s.withSlot k).getCurrentMaintainerDuty = some m)) _
        (fun x => by simp only [hperiodic]) s.clock.slot,
      @List.countP_congr _ _ (fun k => decide (k % 100 < 90 ∧ k / 100 = index)) _ fun k hk => by
        have hk := List.mem_range.mp hk
        have hslice : k / 100 < s.maintainers.entries.length := by omega
        simp only [decide_eq_true_eq,
          @getCurrentMaintainerDuty_eq_some_iff (s.withSlot k) hnodup index hindex m hget,
          withSlot_clock_slot, withSlot_maintainers, Nat.mod_eq_of_lt hslice],
      countP_range_slice, if_pos hindex]
  · rw [@countP_range_shift (fun k => decide ((s.withSlot k).getCurrentMaintainerDuty = none)) _
        (fun x => by simp only [hperiodic]) s.clock.slot,
      @List.countP_congr _ _ (fun k => decide (90 ≤ k % 100)) _ fun k _ => by
        simp only [decide_eq_true_eq, hpause],
      countP_range_pause]

theorem getCurrentMaintainerDuty_equal_shares_three :
    0 < threeMaintainersSnapshot.maintainers.entries.length ∧
    (threeMaintainersSnapshot.maintainers.entries.map Maintainer.pubkey).Nodup ∧
    (∀ m ∈ threeMaintainersSnapshot.maintainers.entries.map Maintainer.pubkey,
      (List.range (threeMaintainersSnapshot.maintainers.entries.length * 100)).countP
        (fun k => (threeMaintainersSnapshot.withSlot
          (threeMaintainersSnapshot.clock.slot + k)).getCurrentMaintainerDuty = some m) = 90) ∧
    (List.range (threeMaintainersSnapshot.maintainers.entries.length * 100)).countP
        (fun k => (threeMaintainersSnapshot.withSlot
          (threeMaintainersSnapshot.clock.slot + k)).getCurrentMaintainerDuty = none) =
      10 * threeMaintainersSnapshot.maintainers.entries.length ∧
    (∀ slot, (threeMaintainersSnapshot.withSlot slot).getCurrentMaintainerDuty = none ↔
      90 ≤ slot % 100) ∧
    ∀ slot, (threeMaintainersSnapshot.withSlot
        (slot + threeMaintainersSnapshot.maintainers.entries.length * 100)).getCurrentMaintainerDuty =
      (threeMaintainersSnapshot.withSlot slot).getCurrentMaintainerDuty :=
  ⟨by decide, by decide, getCurrentMaintainerDuty_equal_shares (by decide) (by decide)⟩

end SolidoState

end Solido
