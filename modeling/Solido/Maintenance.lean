import Solido.BalanceUpdate

namespace Solido

namespace SolidoState

variable (c : Collaborators) (s : SolidoState)

/-! Choosing one step of maintenance, and performing it. -/

/-- The selector of `try_perform_maintenance`: try the steps one by one, in this order, and keep
the first that produces an instruction. -/
def instructionOutput : Except Failure (Option MaintenanceInstruction) :=
  orElse (orElse (orElse (orElse (orElse (orElse (orElse (orElse (orElse (orElse (.ok none)
    fun _ => s.tryMergeOnAllStakes c)
    fun _ => s.tryUpdateExchangeRate)
    fun _ => s.tryUpdateValidatorPerfs)
    fun _ => s.tryReactivateIfComplies c)
    fun _ => s.tryUnstakeFromInactiveValidator c)
    fun _ => s.tryUpdateStakeAccountBalance c)
    fun _ => s.tryDeactivateIfViolates c)
    fun _ => s.tryStakeDeposit c)
    fun _ => s.tryUnstakeFromActiveValidators c)
    fun _ => s.tryRemovePendingValidators c

/-- The balance of the acting maintainer's account, if the maintainer is listed. -/
def maintainerBalance : Option Nat :=
  ((s.maintainers.entries.zip s.maintainerBalances).find? fun entry =>
    entry.1.pubkey = s.maintainerAddress).map Prod.snd

/-- The funding check of `try_perform_maintenance`: refuse to run with less than 0.1 SOL to pay
the fees. -/
def checkMaintainerBalance : Except Failure Unit :=
  let minimumMaintainerBalance := 100000000
  match s.maintainerBalance with
  | some balance =>
      if balance < minimumMaintainerBalance then
        .error (.maintenanceError ("Balance of the maintainer account " ++
          toString s.maintainerAddress ++ " is less than " ++
          c.displayLamports minimumMaintainerBalance ++ ". Please fund the maintainer account."))
      else .ok ()
  | none => .ok ()

/-- `try_perform_maintenance`: check the funding, then sign and send the first instruction the
selector produces, and report what it does. -/
def tryPerformMaintenance (config : SnapshotConfig) : Except Failure (Option MaintenanceOutput) := do
  s.checkMaintainerBalance c
  match ← s.instructionOutput c with
  | some maintenanceInstruction => do
      query (config.signAndSendTransaction [maintenanceInstruction.instruction]
        (config.signer :: maintenanceInstruction.additionalSigners))
      pure (some maintenanceInstruction.output)
  | none => pure none

end SolidoState

/-- `run_perform_maintenance`: take a snapshot, and perform one step of maintenance on it. -/
def runPerformMaintenance (c : Collaborators) (config : SnapshotConfig)
    (solidoProgramId solidoAddress : Pubkey) (stakeTime : StakeTime) (endOfEpochThreshold : Nat) :
    Except Failure (Option MaintenanceOutput) := do
  let state ← SolidoState.new c config solidoProgramId solidoAddress stakeTime endOfEpochThreshold
  state.tryPerformMaintenance c config

/-! The selector as a loop over its steps. -/

/-- What the selector does with the result of one step: go on after `None`, stop otherwise. -/
def selectStep {α : Type} (step : Except Failure (Option α)) : Except Failure (Flow α) :=
  step >>= fun
    | some a => .ok (.done (some a))
    | none => .ok .next

section Selector

variable {α : Type}

theorem orElse_assoc (first : Except Failure (Option α)) (second third : Unit → Except Failure (Option α)) :
    orElse (orElse first second) third = orElse first fun _ => orElse (second ()) third := by
  rcases first with _ | (_ | _) <;> rfl

theorem orElse_ok_none (first : Except Failure (Option α)) :
    orElse first (fun _ => .ok none) = first := by
  rcases first with _ | (_ | _) <;> rfl

theorem firstDone_selectStep_cons (step : Except Failure (Option α))
    (steps : List (Except Failure (Option α))) :
    firstDone selectStep (step :: steps) = orElse step fun _ => firstDone selectStep steps := by
  rcases step with _ | (_ | _) <;> rfl

/-- A chain of `or_else` is the loop over its steps that stops at the first `Some`. -/
theorem foldl_orElse (steps : List (Except Failure (Option α))) (first : Except Failure (Option α)) :
    steps.foldl (fun chain step => orElse chain fun _ => step) first =
      orElse first fun _ => firstDone selectStep steps := by
  induction steps generalizing first with
  | nil => exact (orElse_ok_none first).symm
  | cons step rest ih => rw [List.foldl_cons, ih, orElse_assoc, firstDone_selectStep_cons]

theorem selectStep_eq_next {step : Except Failure (Option α)} :
    selectStep step = .ok .next ↔ step = .ok none := by
  rcases step with _ | (_ | _) <;> simp [selectStep]

theorem selectStep_eq_done {step : Except Failure (Option α)} {a : α} :
    selectStep step = .ok (.done (some a)) ↔ step = .ok (some a) := by
  rcases step with _ | (_ | _) <;> simp [selectStep]

theorem selectStep_isOk {step : Except Failure (Option α)} (h : ∃ result, step = .ok result) :
    ∃ flow, selectStep step = .ok flow := by
  obtain ⟨_ | _, rfl⟩ := h <;> exact ⟨_, rfl⟩

end Selector

namespace SolidoState

variable (c : Collaborators) (s : SolidoState)

/-- The steps of the selector, in the order it tries them. -/
def maintenanceSteps : List (Except Failure (Option MaintenanceInstruction)) :=
  [s.tryMergeOnAllStakes c, s.tryUpdateExchangeRate, s.tryUpdateValidatorPerfs,
    s.tryReactivateIfComplies c, s.tryUnstakeFromInactiveValidator c,
    s.tryUpdateStakeAccountBalance c, s.tryDeactivateIfViolates c, s.tryStakeDeposit c,
    s.tryUnstakeFromActiveValidators c, s.tryRemovePendingValidators c]

theorem instructionOutput_eq_firstDone :
    s.instructionOutput c = firstDone selectStep (s.maintenanceSteps c) :=
  (foldl_orElse (s.maintenanceSteps c) (.ok none)).trans (orElse_none _)

variable {c : Collaborators} {s : SolidoState} {mi : MaintenanceInstruction}

/-- The selector returns the instruction of the first step that has one; every step before it
returned `None`. -/
theorem instructionOutput_eq_ok_some (h : s.instructionOutput c = .ok (some mi)) :
    ∃ front step back, s.maintenanceSteps c = front ++ step :: back ∧
      (∀ earlier ∈ front, earlier = .ok none) ∧ step = .ok (some mi) := by
  rw [instructionOutput_eq_firstDone] at h
  obtain ⟨front, step, back, hsteps, hfront, hstep⟩ := firstDone_eq_ok_some h
  exact ⟨front, step, back, hsteps, fun x hx => selectStep_eq_next.mp (hfront x hx),
    selectStep_eq_done.mp hstep⟩

theorem mem_of_instructionOutput_eq_ok_some (h : s.instructionOutput c = .ok (some mi)) :
    s.tryMergeOnAllStakes c = .ok (some mi) ∨ s.tryUpdateExchangeRate = .ok (some mi) ∨
      s.tryUpdateValidatorPerfs = .ok (some mi) ∨ s.tryReactivateIfComplies c = .ok (some mi) ∨
      s.tryUnstakeFromInactiveValidator c = .ok (some mi) ∨
      s.tryUpdateStakeAccountBalance c = .ok (some mi) ∨
      s.tryDeactivateIfViolates c = .ok (some mi) ∨ s.tryStakeDeposit c = .ok (some mi) ∨
      s.tryUnstakeFromActiveValidators c = .ok (some mi) ∨
      s.tryRemovePendingValidators c = .ok (some mi) := by
  obtain ⟨front, step, back, hsteps, -, rfl⟩ := instructionOutput_eq_ok_some h
  have hmem : Except.ok (some mi) ∈ s.maintenanceSteps c := by simp [hsteps]
  simpa only [maintenanceSteps, List.mem_cons, List.mem_singleton, List.not_mem_nil, or_false,
    @eq_comm _ (Except.ok (some mi))] using hmem

/-- `try_perform_maintenance` reports an instruction only once the funding check passed, and
after sending the instruction the selector chose. -/
theorem tryPerformMaintenance_eq_ok_some {config : SnapshotConfig} {output : MaintenanceOutput}
    (h : s.tryPerformMaintenance c config = .ok (some output)) :
    s.checkMaintainerBalance c = .ok () ∧ ∃ mi, s.instructionOutput c = .ok (some mi) ∧
      config.signAndSendTransaction [mi.instruction] (config.signer :: mi.additionalSigners) =
        .ok () ∧ output = mi.output := by
  simp only [tryPerformMaintenance, bind_eq_ok] at h
  obtain ⟨⟨⟩, hcheck, selected, hselected, h⟩ := h
  split at h
  · rename_i mi
    obtain ⟨⟨⟩, hsend, h⟩ := bind_eq_ok.mp h
    cases h
    rcases hsent : config.signAndSendTransaction [mi.instruction]
      (config.signer :: mi.additionalSigners) with _ | ⟨⟨⟩⟩
    · simp [hsent] at hsend
    · exact ⟨hcheck, mi, hselected, hsent, rfl⟩
  · cases h

theorem checkMaintainerBalance_of_funded
    (hfunded : ∀ balance ∈ s.maintainerBalance, 100000000 ≤ balance) :
    s.checkMaintainerBalance c = .ok () := by
  unfold checkMaintainerBalance
  split
  · next balance hbalance => simp [Nat.not_lt.mpr (hfunded balance hbalance)]
  · rfl

theorem checkMaintainerBalance_noPanic : NoPanic (s.checkMaintainerBalance c) := by
  unfold checkMaintainerBalance
  split
  · dsimp only
    split <;> trivial
  · trivial

/-- Once the selector returns, `try_perform_maintenance` does not panic: an underfunded maintainer
and a transaction the network refuses are errors it hands back. -/
theorem tryPerformMaintenance_noPanic {config : SnapshotConfig}
    {result : Option MaintenanceInstruction} (h : s.instructionOutput c = .ok result) :
    NoPanic (s.tryPerformMaintenance c config) := by
  unfold tryPerformMaintenance
  refine checkMaintainerBalance_noPanic.bind fun _ _ => ?_
  rw [h, ok_bind]
  cases result with
  | none => trivial
  | some mi => exact (noPanic_query _).bind fun _ _ => trivial

theorem tryPerformMaintenance_of_instructionOutput {config : SnapshotConfig}
    {result : Option MaintenanceInstruction} (hfunded : s.checkMaintainerBalance c = .ok ())
    (hsend : ∀ mi : MaintenanceInstruction,
      config.signAndSendTransaction [mi.instruction] (config.signer :: mi.additionalSigners) = .ok ())
    (h : s.instructionOutput c = .ok result) :
    s.tryPerformMaintenance c config = .ok (result.map MaintenanceInstruction.output) := by
  unfold tryPerformMaintenance
  rw [hfunded, ok_bind, h, ok_bind]
  cases result with
  | none => rfl
  | some mi => simp [query, hsend mi, Except.mapError, Except.map]

/-! What moves stake. -/

/-- An instruction of the selector comes from the stake deposit, from one of the two unstakes, or
is neither a deposit nor an unstake. -/
theorem instructionOutput_eq_ok_some_cases (h : s.instructionOutput c = .ok (some mi)) :
    s.tryStakeDeposit c = .ok (some mi) ∨ s.tryUnstakeFromActiveValidators c = .ok (some mi) ∨
      s.tryUnstakeFromInactiveValidator c = .ok (some mi) ∨
      (∀ vote stakeAccount amount, mi.output ≠ .stakeDeposit vote stakeAccount amount) ∧
        (∀ unstake, mi.output ≠ .unstakeFromInactiveValidator unstake) ∧
        ∀ unstake, mi.output ≠ .unstakeFromActiveValidator unstake := by
  rcases mem_of_instructionOutput_eq_ok_some h with h | h | h | h | h | h | h | h | h | h
  · obtain ⟨_, _, -, hdone⟩ := tryMergeOnAllStakes_eq_ok_some h
    obtain ⟨_, _, _, _, -, -, rfl⟩ := mergeOnStakes_eq_done hdone
    simp [MaintenanceInstruction.new]
  · simp [tryUpdateExchangeRate_output h]
  · obtain ⟨_, hout | ⟨_, _, hout⟩⟩ := tryUpdateValidatorPerfs_output h <;> simp [hout]
  · obtain ⟨_, hout⟩ := tryReactivateIfComplies_output h
    simp [hout]
  · exact .inr (.inr (.inl h))
  · obtain ⟨_, -, hdone⟩ := tryUpdateStakeAccountBalance_eq_ok_some h
    obtain ⟨_, _, _, rfl⟩ := updateStakeAccountBalance_eq_done hdone
    simp [MaintenanceInstruction.new]
  · obtain ⟨_, hout⟩ := tryDeactivateIfViolates_output h
    simp [hout]
  · exact .inl h
  · exact .inr (.inl h)
  · obtain ⟨_, hout⟩ := tryRemovePendingValidators_output h
    simp [hout]

/-- With the stake gate closed, the selector neither deposits stake nor unstakes from an active
validator: those two steps return `None`, and no other step reports either. -/
theorem instructionOutput_of_closed_gate
    (hgate : s.confirmShouldStakeUnstakeInCurrentSlot = .ok none)
    (h : s.instructionOutput c = .ok (some mi)) :
    (∀ vote stakeAccount amount, mi.output ≠ .stakeDeposit vote stakeAccount amount) ∧
      ∀ unstake, mi.output ≠ .unstakeFromActiveValidator unstake := by
  rcases instructionOutput_eq_ok_some_cases h with h | h | h | ⟨hdeposit, -, hunstake⟩
  · cases (tryStakeDeposit_of_closed hgate).symm.trans h
  · cases (tryUnstakeFromActiveValidators_of_closed hgate).symm.trans h
  · obtain ⟨_, hout⟩ := tryUnstakeFromInactiveValidator_output h
    simp [hout]
  · exact ⟨hdeposit, hunstake⟩

/-- With stake time `OnlyNearEpochEnd`, up to the threshold of an epoch that ends within a `u64`,
the maintainer neither deposits stake nor unstakes from an active validator. -/
theorem instructionOutput_before_stakeWindow (hwf : s.epochSchedule.WellFormed)
    (hmode : s.stakeTime = .onlyNearEpochEnd)
    (hslot : s.epochSchedule.getFirstSlotInEpoch s.clock.epoch ≤ s.clock.slot)
    (hend : s.epochSchedule.getFirstSlotInEpoch s.clock.epoch +
      s.epochSchedule.getSlotsInEpoch s.clock.epoch ≤ u64Max)
    (hbefore : (s.clock.slot - s.epochSchedule.getFirstSlotInEpoch s.clock.epoch) * 100 ≤
      s.endOfEpochThreshold * s.epochSchedule.getSlotsInEpoch s.clock.epoch)
    (h : s.instructionOutput c = .ok (some mi)) :
    (∀ vote stakeAccount amount, mi.output ≠ .stakeDeposit vote stakeAccount amount) ∧
      ∀ unstake, mi.output ≠ .unstakeFromActiveValidator unstake := by
  refine instructionOutput_of_closed_gate ?_ h
  rw [confirmShouldStakeUnstakeInCurrentSlot_of_end_le hwf hmode hslot hend,
    if_neg (Nat.not_lt.mpr hbefore)]

/-- `oneValidatorSnapshot` with stake time `OnlyNearEpochEnd`, at slot 40: eight slots into epoch
1 of the default schedule, whose exchange rate is not yet updated. -/
def earlyEpochSnapshot : SolidoState :=
  { oneValidatorSnapshot with stakeTime := .onlyNearEpochEnd, clock := ⟨40, 1⟩ }

theorem instructionOutput_before_stakeWindow_early : ∃ mi,
    earlyEpochSnapshot.epochSchedule.WellFormed ∧
    earlyEpochSnapshot.stakeTime = .onlyNearEpochEnd ∧
    earlyEpochSnapshot.epochSchedule.getFirstSlotInEpoch earlyEpochSnapshot.clock.epoch ≤
      earlyEpochSnapshot.clock.slot ∧
    earlyEpochSnapshot.epochSchedule.getFirstSlotInEpoch earlyEpochSnapshot.clock.epoch +
      earlyEpochSnapshot.epochSchedule.getSlotsInEpoch earlyEpochSnapshot.clock.epoch ≤ u64Max ∧
    (earlyEpochSnapshot.clock.slot -
        earlyEpochSnapshot.epochSchedule.getFirstSlotInEpoch earlyEpochSnapshot.clock.epoch) * 100 ≤
      earlyEpochSnapshot.endOfEpochThreshold *
        earlyEpochSnapshot.epochSchedule.getSlotsInEpoch earlyEpochSnapshot.clock.epoch ∧
    earlyEpochSnapshot.instructionOutput Uniform.collaborators = .ok (some mi) ∧
    (∀ vote stakeAccount amount, mi.output ≠ .stakeDeposit vote stakeAccount amount) ∧
      ∀ unstake, mi.output ≠ .unstakeFromActiveValidator unstake := by
  have hwf := EpochSchedule.custom_wellFormed EpochSchedule.custom_default
  obtain ⟨mi, hmi⟩ : ∃ mi,
      earlyEpochSnapshot.instructionOutput Uniform.collaborators = .ok (some mi) := ⟨_, rfl⟩
  exact ⟨mi, hwf, rfl, by decide, by decide, by decide, hmi,
    instructionOutput_before_stakeWindow hwf rfl (by decide) (by decide) (by decide) hmi⟩

/-- `oneValidatorSnapshot` signed by a key that is not a listed maintainer. -/
def unlistedMaintainerSnapshot : SolidoState :=
  { oneValidatorSnapshot with maintainerAddress := ⟨5⟩ }

/-- While the exchange rate is stale, the selector merges stake accounts or updates the rate, and
nothing else is sent. -/
theorem instructionOutput_of_stale_exchangeRate (s : SolidoState) (c : Collaborators)
    (hstale : s.solido.exchangeRate.computedInEpoch < s.clock.epoch) :
    ∃ mi, s.instructionOutput c = .ok (some mi) ∧
      ((s.tryMergeOnAllStakes c = .ok (some mi) ∧ ∃ vote fromStake toStake fromSeed toSeed,
          mi.output = .mergeStake vote fromStake toStake fromSeed toSeed) ∨
        mi.output = .updateExchangeRate) ∧
      ∀ config output, s.tryPerformMaintenance c config = .ok (some output) →
        (∃ vote fromStake toStake fromSeed toSeed,
          output = .mergeStake vote fromStake toStake fromSeed toSeed) ∨
        output = .updateExchangeRate := by
  have hchain : ∃ mi, s.instructionOutput c = .ok (some mi) ∧
      ((s.tryMergeOnAllStakes c = .ok (some mi) ∧ ∃ vote fromStake toStake fromSeed toSeed,
          mi.output = .mergeStake vote fromStake toStake fromSeed toSeed) ∨
        mi.output = .updateExchangeRate) := by
    obtain ⟨merged, hmerge⟩ := tryMergeOnAllStakes_isOk (c := c) (s := s)
    cases merged with
    | some mi =>
        obtain ⟨validator, stakeAccounts, -, hbody⟩ := tryMergeOnAllStakes_eq_ok_some hmerge
        obtain ⟨_, _, _, _, -, -, rfl⟩ := mergeOnStakes_eq_done hbody
        exact ⟨_, by simp [instructionOutput, hmerge], .inl ⟨hmerge, _, _, _, _, _, rfl⟩⟩
    | none =>
        refine ⟨_, ?_, .inr (tryUpdateExchangeRate_output (tryUpdateExchangeRate_of_lt hstale))⟩
        simp [instructionOutput, hmerge, tryUpdateExchangeRate_of_lt hstale]
  obtain ⟨mi, hmi, hkind⟩ := hchain
  refine ⟨mi, hmi, hkind, fun config output h => ?_⟩
  obtain ⟨-, selected, hselected, -, rfl⟩ := tryPerformMaintenance_eq_ok_some h
  cases hmi.symm.trans hselected
  exact hkind.imp_left And.right

/-- `twoValidatorSnapshot` in the next epoch, before its exchange rate is updated: the unstake
from its first validator, above its target, is still to be made. -/
def staleTwoValidatorSnapshot : SolidoState := { twoValidatorSnapshot with clock := ⟨40, 1⟩ }

theorem instructionOutput_of_stale_exchangeRate_two_validators :
    staleTwoValidatorSnapshot.solido.exchangeRate.computedInEpoch <
        staleTwoValidatorSnapshot.clock.epoch ∧
      (∃ unstake, staleTwoValidatorSnapshot.tryUnstakeFromActiveValidators Uniform.collaborators =
        .ok (some unstake)) ∧
      ∃ mi, staleTwoValidatorSnapshot.instructionOutput Uniform.collaborators = .ok (some mi) ∧
        ((staleTwoValidatorSnapshot.tryMergeOnAllStakes Uniform.collaborators = .ok (some mi) ∧
            ∃ vote fromStake toStake fromSeed toSeed,
              mi.output = .mergeStake vote fromStake toStake fromSeed toSeed) ∨
          mi.output = .updateExchangeRate) ∧
        ∀ config output, staleTwoValidatorSnapshot.tryPerformMaintenance Uniform.collaborators
            config = .ok (some output) →
          (∃ vote fromStake toStake fromSeed toSeed,
            output = .mergeStake vote fromStake toStake fromSeed toSeed) ∨
          output = .updateExchangeRate :=
  have hstale : staleTwoValidatorSnapshot.solido.exchangeRate.computedInEpoch <
      staleTwoValidatorSnapshot.clock.epoch := by decide
  ⟨hstale, ⟨_, rfl⟩,
    instructionOutput_of_stale_exchangeRate staleTwoValidatorSnapshot Uniform.collaborators hstale⟩

/-! The cap on unstake accounts. -/

/-- `twoValidatorSnapshot` after its first validator was deactivated, with no unstake account. -/
def deactivatedValidatorSnapshot : SolidoState :=
  { twoValidatorSnapshot with
    validatorUnstakeAccounts := [[], []]
    validators := ⟨[⟨⟨7⟩, ⟨0, 1⟩, ⟨0, 0⟩, 5000000000, false⟩,
      ⟨⟨9⟩, ⟨0, 1⟩, ⟨0, 0⟩, 1000000000, true⟩], by decide⟩ }

/-- The active path takes the validator the allocator picks and does not look at its unstake
accounts: the first validator of `twoValidatorSnapshot` already has three, and is given a fourth
at seed 3. -/
theorem activeUnstake_exceeds_maximumUnstakeAccounts (client : SnapshotClient) :
    twoValidatorSnapshot.tryPerformMaintenance Uniform.collaborators (acceptingConfig client) =
        .ok (some (.unstakeFromActiveValidator ⟨⟨7⟩, ⟨7000⟩, ⟨7031⟩, 0, 3, 2000000000⟩)) ∧
      twoValidatorSnapshot.validators.entries.map
          (fun v => (v.pubkey, v.unstakeSeeds.end - v.unstakeSeeds.begin)) =
        [(⟨7⟩, maximumUnstakeAccounts), (⟨9⟩, 0)] :=
  ⟨rfl, rfl⟩

end SolidoState

/-! A validator that closed its vote account. -/

/-- The snapshot of `closedVoteAccountClient` has two validators and two vote entries, but one
performance, one block production rate, one of each balance and one info; the on-chain
performance update then reads the second validator's performance out of range. -/
theorem closedVoteAccount_misaligns_validator_vectors :
    (SolidoState.new Uniform.collaborators (SolidoState.acceptingConfig closedVoteAccountClient)
        ⟨1⟩ ⟨2⟩ .anytime 95).map (fun s => (s.validators.entries.length,
          s.validatorVoteAccounts.length, s.validatorPerfs.length,
          s.validatorBlockProductionRates.length, s.validatorVoteAccountBalances.length,
          s.validatorIdentityAccountBalances.length, s.validatorInfos.length)) =
        .ok (2, 2, 1, 1, 1, 1, 1) ∧
      runPerformMaintenance Uniform.collaborators (SolidoState.acceptingConfig closedVoteAccountClient)
        ⟨1⟩ ⟨2⟩ .anytime 95 = .error (.panic "index out of bounds: the len is 1 but the index is 1") :=
  ⟨rfl, rfl⟩

end Solido
