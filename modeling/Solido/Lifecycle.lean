import Solido.Perf

namespace Solido

namespace SolidoState

variable (c : Collaborators) (s : SolidoState)

/-! Deactivating, reactivating and removing validators. -/

/-- The loop body of `try_reactivate_if_complies`: an inactive validator whose vote account is
open and which performs well again. -/
def reactivateIfComplies : Nat × Validator × Option VoteState →
    Except Failure (Flow MaintenanceInstruction)
  | (i, validator, voteState) => do
      let complies ← (if validator.isInactive then
          match voteState with
          | none => pure false
          | some voteState =>
              c.doesPerformWell s.solido.criteria voteState.commission <$> index s.validatorPerfs i
        else pure false)
      if complies then
        pure (.done (some (.new (.reactivateIfComplies s.solidoProgramId
          ⟨s.solidoAddress, validator.pubkey, s.solido.validatorList, s.solido.validatorPerfList⟩)
          (.reactivateIfComplies validator.pubkey))))
      else pure .next

/-- `try_reactivate_if_complies`: only at the end of the epoch. -/
def tryReactivateIfComplies : Except Failure (Option MaintenanceInstruction) := do
  if !(← s.isAtEpochEnd) then pure none
  else firstDone (s.reactivateIfComplies c) (s.validators.entries.zip s.validatorVoteAccounts).enum

/-- The loop body of `try_deactivate_if_violates`: an active validator whose vote account is
closed or which does not perform well. -/
def deactivateIfViolates : Nat × Validator × Option VoteState →
    Except Failure (Flow MaintenanceInstruction)
  | (i, validator, voteState) =>
      let deactivate : Flow MaintenanceInstruction :=
        .done (some (.new (.deactivateIfViolates s.solidoProgramId
          ⟨s.solidoAddress, validator.pubkey, s.solido.validatorList, s.solido.validatorPerfList⟩)
          (.deactivateIfViolates validator.pubkey)))
      if !validator.isActive then .ok .next
      else match voteState with
        | some voteState => do
            let perf ← index s.validatorPerfs i
            pure (if c.doesPerformWell s.solido.criteria voteState.commission perf then .next
              else deactivate)
        | none => .ok deactivate

/-- `try_deactivate_if_violates`. -/
def tryDeactivateIfViolates : Except Failure (Option MaintenanceInstruction) :=
  firstDone (s.deactivateIfViolates c) (s.validators.entries.zip s.validatorVoteAccounts).enum

/-- The loop body of `try_remove_pending_validators`. -/
def removePendingValidator : Nat × Validator → Except Failure (Flow MaintenanceInstruction)
  | (validatorIndex, validator) =>
      if !c.checkCanBeRemoved validator then .ok .next
      else do
        let index ← expectResult "Too many validators" "TryFromIntError(())"
          (u32TryFrom validatorIndex)
        pure (.done (some (.new (.removeValidator s.solidoProgramId
          ⟨s.solidoAddress, validator.pubkey, s.solido.validatorList⟩ index)
          (.removeValidator validator.pubkey))))

/-- `try_remove_pending_validators`. -/
def tryRemovePendingValidators : Except Failure (Option MaintenanceInstruction) :=
  firstDone (s.removePendingValidator c) s.validators.entries.enum

/-! Which validator each lifecycle step picks, in the words of the spec. -/

/-- Modelled from the spec: a validator to deactivate is an active one whose vote account is
closed or which does not perform well. -/
def violatesCriteria (x : Nat × Validator × Option VoteState) : Bool :=
  x.2.1.isActive && x.2.2.elim true fun voteState =>
    !c.doesPerformWell s.solido.criteria voteState.commission (s.validatorPerfs.getD x.1 none)

/-- Modelled from the spec: a validator to reactivate is an inactive one whose vote account is
open and which performs well again. -/
def compliesWithCriteria (x : Nat × Validator × Option VoteState) : Bool :=
  x.2.1.isInactive && x.2.2.elim false fun voteState =>
    c.doesPerformWell s.solido.criteria voteState.commission (s.validatorPerfs.getD x.1 none)

section LifecycleSpec

variable {c : Collaborators} {s : SolidoState} {mi : MaintenanceInstruction}

theorem tryReactivateIfComplies_output (h : s.tryReactivateIfComplies c = .ok (some mi)) :
    ∃ vote, mi.output = .reactivateIfComplies vote := by
  obtain ⟨atEpochEnd, -, h⟩ := bind_eq_ok.mp h
  split at h
  · cases h
  · obtain ⟨x, -, hx⟩ := mem_of_firstDone_eq_ok_some h
    simp only [reactivateIfComplies, bind_eq_ok] at hx
    obtain ⟨_, -, hx⟩ := hx
    split at hx <;> cases hx
    exact ⟨_, rfl⟩

theorem tryDeactivateIfViolates_output (h : s.tryDeactivateIfViolates c = .ok (some mi)) :
    ∃ vote, mi.output = .deactivateIfViolates vote := by
  obtain ⟨x, -, hx⟩ := mem_of_firstDone_eq_ok_some h
  simp only [deactivateIfViolates] at hx
  split at hx
  · cases hx
  · split at hx
    · obtain ⟨_, -, hx⟩ := bind_eq_ok.mp hx
      split at hx <;> cases hx
      exact ⟨_, rfl⟩
    · cases hx
      exact ⟨_, rfl⟩

theorem tryRemovePendingValidators_output (h : s.tryRemovePendingValidators c = .ok (some mi)) :
    ∃ vote, mi.output = .removeValidator vote := by
  obtain ⟨x, -, hx⟩ := mem_of_firstDone_eq_ok_some h
  simp only [removePendingValidator] at hx
  split at hx
  · cases hx
  · obtain ⟨_, -, hx⟩ := bind_eq_ok.mp hx
    cases hx
    exact ⟨_, rfl⟩

theorem deactivateIfViolates_of_mem (hperfs : s.validatorPerfs.length = s.validators.entries.length)
    {x : Nat × Validator × Option VoteState}
    (hx : x ∈ (s.validators.entries.zip s.validatorVoteAccounts).enum) :
    s.deactivateIfViolates c x = .ok (if s.violatesCriteria c x then
      .done (some (.new (.deactivateIfViolates s.solidoProgramId
        ⟨s.solidoAddress, x.2.1.pubkey, s.solido.validatorList, s.solido.validatorPerfList⟩)
        (.deactivateIfViolates x.2.1.pubkey)))
      else .next) := by
  obtain ⟨i, validator, voteState⟩ := x
  have hperf := perfs_index_of_mem hperfs hx
  simp only [deactivateIfViolates, violatesCriteria]
  generalize s.validatorPerfs.getD i none = perf at hperf ⊢
  cases hactive : validator.isActive
  · simp
  · cases voteState with
    | none => simp
    | some voteState =>
        cases hwell : c.doesPerformWell s.solido.criteria voteState.commission perf <;>
          simp [hperf, hwell]

theorem reactivateIfComplies_of_mem (hperfs : s.validatorPerfs.length = s.validators.entries.length)
    {x : Nat × Validator × Option VoteState}
    (hx : x ∈ (s.validators.entries.zip s.validatorVoteAccounts).enum) :
    s.reactivateIfComplies c x = .ok (if s.compliesWithCriteria c x then
      .done (some (.new (.reactivateIfComplies s.solidoProgramId
        ⟨s.solidoAddress, x.2.1.pubkey, s.solido.validatorList, s.solido.validatorPerfList⟩)
        (.reactivateIfComplies x.2.1.pubkey)))
      else .next) := by
  obtain ⟨i, validator, voteState⟩ := x
  have hperf := perfs_index_of_mem hperfs hx
  simp only [reactivateIfComplies, compliesWithCriteria]
  generalize s.validatorPerfs.getD i none = perf at hperf ⊢
  cases hinactive : validator.isInactive
  · simp
  · cases voteState with
    | none => simp
    | some voteState =>
        cases hwell : c.doesPerformWell s.solido.criteria voteState.commission perf <;>
          simp [hperf, hwell]

theorem removePendingValidator_of_mem {x : Nat × Validator} (hx : x ∈ s.validators.entries.enum) :
    s.removePendingValidator c x = .ok (if c.checkCanBeRemoved x.2 then
      .done (some (.new (.removeValidator s.solidoProgramId
        ⟨s.solidoAddress, x.2.pubkey, s.solido.validatorList⟩ x.1) (.removeValidator x.2.pubkey)))
      else .next) := by
  obtain ⟨i, validator⟩ := x
  have hlt : i < 2 ^ 32 := lt_trans (List.mem_enum hx).1 s.validators.length_lt
  cases hremovable : c.checkCanBeRemoved validator <;>
    simp [removePendingValidator, hremovable, u32TryFrom_of_lt hlt]

theorem tryDeactivateIfViolates_isOk
    (hperfs : s.validatorPerfs.length = s.validators.entries.length) :
    ∃ result, s.tryDeactivateIfViolates c = .ok result :=
  firstDone_isOk fun _ hx => ⟨_, deactivateIfViolates_of_mem hperfs hx⟩

theorem tryReactivateIfComplies_isOk
    (hperfs : s.validatorPerfs.length = s.validators.entries.length)
    (hslot : s.epochSchedule.getFirstSlotInEpoch s.clock.epoch ≤ s.clock.slot) :
    ∃ result, s.tryReactivateIfComplies c = .ok result := by
  unfold tryReactivateIfComplies
  rw [isAtEpochEnd_of_le hslot, ok_bind]
  split
  · exact ⟨_, rfl⟩
  · exact firstDone_isOk fun _ hx => ⟨_, reactivateIfComplies_of_mem hperfs hx⟩

theorem tryRemovePendingValidators_isOk : ∃ result, s.tryRemovePendingValidators c = .ok result :=
  firstDone_isOk fun _ hx => ⟨_, removePendingValidator_of_mem hx⟩

end LifecycleSpec

/-! Unstaking from a validator that is no longer active. -/

/-- `get_unstake_instruction`: unstake `amount` from the account into a new unstake account at
the end seed of the validator's unstake window. -/
def getUnstakeInstruction (validator : Validator) (stakeAccount : Pubkey × StakeAccount)
    (amount : Nat) : Option (Pubkey × Instruction) := do
  let validatorUnstakeAccount := c.findStakeAccountAddress validator s.solidoProgramId
    s.solidoAddress validator.unstakeSeeds.end .unstake
  let validatorIndex ← s.validators.position validator.pubkey
  let maintainerIndex ← s.maintainers.position s.maintainerAddress
  pure (validatorUnstakeAccount, .unstake s.solidoProgramId
    ⟨s.solidoAddress, s.maintainerAddress, validator.pubkey, stakeAccount.1,
      validatorUnstakeAccount, s.getStakeAuthority c, s.solido.validatorList,
      s.solido.maintainerList⟩
    amount validatorIndex maintainerIndex)

/-- The loop body of `try_unstake_from_inactive_validator`: unstake all of the first stake
account of an inactive validator that has room for one more unstake account. A `?` on the
instruction leaves the whole function. -/
def unstakeFromInactiveValidator : Validator × List (Pubkey × StakeAccount) →
    Except Failure (Flow MaintenanceInstruction)
  | (validator, stakeAccounts) =>
      if validator.isActive then .ok .next
      else do
        let unstakeAccounts ← subU64 validator.unstakeSeeds.end validator.unstakeSeeds.begin
        if unstakeAccounts ≥ maximumUnstakeAccounts then pure .next
        else match stakeAccounts with
          | [] => pure .next
          | stakeAccount :: _ => pure (.done do
              let amount := stakeAccount.2.balance.total
              let (unstakeAccount, unstakeInstruction) ←
                s.getUnstakeInstruction c validator stakeAccount amount
              pure (.new unstakeInstruction (.unstakeFromInactiveValidator
                ⟨validator.pubkey, stakeAccount.1, unstakeAccount, validator.stakeSeeds.begin,
                  validator.unstakeSeeds.end, amount⟩)))

/-- `try_unstake_from_inactive_validator`. -/
def tryUnstakeFromInactiveValidator : Except Failure (Option MaintenanceInstruction) :=
  firstDone (s.unstakeFromInactiveValidator c) (s.validators.entries.zip s.validatorStakeAccounts)

section UnstakeSpec

variable {c : Collaborators} {s : SolidoState} {mi : MaintenanceInstruction}

/-- An unstake instruction moves from the given account into the account derived from the end of
the validator's unstake window, and names the validator and the maintainer by position. -/
theorem getUnstakeInstruction_eq_some {validator : Validator}
    {stakeAccount : Pubkey × StakeAccount} {amount : Nat} {unstakeAccount : Pubkey}
    {instruction : Instruction}
    (h : s.getUnstakeInstruction c validator stakeAccount amount =
      some (unstakeAccount, instruction)) :
    unstakeAccount = c.findStakeAccountAddress validator s.solidoProgramId s.solidoAddress
      validator.unstakeSeeds.end .unstake ∧
    ∃ validatorIndex maintainerIndex, s.validators.position validator.pubkey = some validatorIndex ∧
      s.maintainers.position s.maintainerAddress = some maintainerIndex ∧
      instruction = .unstake s.solidoProgramId
        ⟨s.solidoAddress, s.maintainerAddress, validator.pubkey, stakeAccount.1, unstakeAccount,
          s.getStakeAuthority c, s.solido.validatorList, s.solido.maintainerList⟩
        amount validatorIndex maintainerIndex := by
  simp only [getUnstakeInstruction, Option.bind_eq_bind, Option.bind_eq_some, Option.pure_def,
    Option.some.injEq, Prod.mk.injEq] at h
  obtain ⟨validatorIndex, hv, maintainerIndex, hm, rfl, rfl⟩ := h
  exact ⟨rfl, validatorIndex, maintainerIndex, hv, hm, rfl⟩

theorem getUnstakeInstruction_isSome {validator : Validator} {validatorIndex maintainerIndex : Nat}
    (hv : s.validators.position validator.pubkey = some validatorIndex)
    (hm : s.maintainers.position s.maintainerAddress = some maintainerIndex)
    (stakeAccount : Pubkey × StakeAccount) (amount : Nat) :
    (s.getUnstakeInstruction c validator stakeAccount amount).isSome := by
  simp [getUnstakeInstruction, hv, hm]

/-- The inactive path unstakes the whole first stake account of an inactive validator, and only
when the validator has fewer than the maximum of unstake accounts. -/
theorem unstakeFromInactiveValidator_eq_done {validator : Validator}
    {stakeAccounts : List (Pubkey × StakeAccount)}
    (h : s.unstakeFromInactiveValidator c (validator, stakeAccounts) = .ok (.done (some mi))) :
    validator.isActive = false ∧ validator.unstakeSeeds.begin ≤ validator.unstakeSeeds.end ∧
      validator.unstakeSeeds.end - validator.unstakeSeeds.begin < maximumUnstakeAccounts ∧
      ∃ stakeAccount rest unstakeAccount instruction, stakeAccounts = stakeAccount :: rest ∧
        s.getUnstakeInstruction c validator stakeAccount stakeAccount.2.balance.total =
          some (unstakeAccount, instruction) ∧
        mi = .new instruction (.unstakeFromInactiveValidator ⟨validator.pubkey, stakeAccount.1,
          unstakeAccount, validator.stakeSeeds.begin, validator.unstakeSeeds.end,
          stakeAccount.2.balance.total⟩) := by
  simp only [unstakeFromInactiveValidator] at h
  split at h
  · cases h
  · rename_i hactive
    obtain ⟨count, hcount, h⟩ := bind_eq_ok.mp h
    obtain ⟨hle, rfl⟩ := subU64_eq_ok.mp hcount
    split at h
    · cases h
    · split at h
      · cases h
      · simp only [pure_eq_ok, Except.ok.injEq, Flow.done.injEq, Option.bind_eq_bind,
          Option.bind_eq_some] at h
        obtain ⟨⟨unstakeAccount, instruction⟩, hget, h⟩ := h
        cases h
        exact ⟨by simpa using hactive, hle, by omega, _, _, unstakeAccount, instruction, rfl, hget,
          rfl⟩

/-- The inactive path passes over an active validator, and over an inactive one whose unstake
window is full or that has no stake account; at any other it unstakes or panics. -/
theorem unstakeFromInactiveValidator_eq_next_iff {validator : Validator}
    {stakeAccounts : List (Pubkey × StakeAccount)} :
    s.unstakeFromInactiveValidator c (validator, stakeAccounts) = .ok .next ↔
      validator.isActive = true ∨ validator.unstakeSeeds.begin ≤ validator.unstakeSeeds.end ∧
        (maximumUnstakeAccounts ≤ validator.unstakeSeeds.end - validator.unstakeSeeds.begin ∨
          stakeAccounts = []) := by
  simp only [unstakeFromInactiveValidator]
  split
  · simp [*]
  · rename_i hactive
    by_cases hle : validator.unstakeSeeds.begin ≤ validator.unstakeSeeds.end
    · rw [subU64_of_le hle, ok_bind]
      split
      · simp [*]
      · cases stakeAccounts <;> simp [*]
    · simp [subU64_of_lt (Nat.lt_of_not_le hle), hactive, hle]

theorem tryUnstakeFromInactiveValidator_eq_ok_some
    (h : s.tryUnstakeFromInactiveValidator c = .ok (some mi)) :
    ∃ validator stakeAccounts,
      (validator, stakeAccounts) ∈ s.validators.entries.zip s.validatorStakeAccounts ∧
      s.unstakeFromInactiveValidator c (validator, stakeAccounts) = .ok (.done (some mi)) := by
  obtain ⟨⟨validator, stakeAccounts⟩, hmem, hbody⟩ := mem_of_firstDone_eq_ok_some h
  exact ⟨validator, stakeAccounts, hmem, hbody⟩

theorem tryUnstakeFromInactiveValidator_output
    (h : s.tryUnstakeFromInactiveValidator c = .ok (some mi)) :
    ∃ unstake, mi.output = .unstakeFromInactiveValidator unstake := by
  obtain ⟨_, _, -, hdone⟩ := tryUnstakeFromInactiveValidator_eq_ok_some h
  obtain ⟨-, -, -, _, _, _, _, -, -, rfl⟩ := unstakeFromInactiveValidator_eq_done hdone
  exact ⟨_, rfl⟩

theorem tryUnstakeFromInactiveValidator_isOk
    (hseeds : ∀ v ∈ s.validators.entries, v.unstakeSeeds.begin ≤ v.unstakeSeeds.end) :
    ∃ result, s.tryUnstakeFromInactiveValidator c = .ok result := by
  refine firstDone_isOk fun ⟨validator, accounts⟩ hx => ?_
  simp only [unstakeFromInactiveValidator]
  split
  · exact ⟨_, rfl⟩
  · rw [subU64_of_le (hseeds validator (List.of_mem_zip hx).1), ok_bind]
    split
    · exact ⟨_, rfl⟩
    · split <;> exact ⟨_, rfl⟩

end UnstakeSpec

end SolidoState

end Solido
