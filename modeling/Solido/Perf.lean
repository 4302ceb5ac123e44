import Solido.Tasks

namespace Solido

namespace SolidoState

variable (c : Collaborators) (s : SolidoState)

/-! Validator performance. -/

/-- The accounts of both validator performance updates. -/
def validatorPerfAccounts (validator : Validator) : UpdateValidatorPerfAccountsMeta :=
  ⟨s.solidoAddress, validator.pubkey, s.solido.validatorList, s.solido.validatorPerfList⟩

/-- The loop body of `do_update_onchain_validator_perfs`: record the commission at the epoch's
end, or at once when it went above the maximum. -/
def updateOnchainValidatorPerf : Nat × Validator × Option VoteState →
    Except Failure (Flow MaintenanceInstruction)
  | (_, _, none) => .ok .next
  | (i, validator, some voteState) => do
      let maybePerf ← index s.validatorPerfs i
      let expired ← (if maybePerf.elim true fun perf => perf.commissionUpdatedAt < s.clock.epoch
        then s.isAtEpochEnd else pure false)
      let currentCommission := voteState.commission
      let exceedsMax := maybePerf.elim false fun perf =>
        currentCommission > s.solido.criteria.maxCommission && currentCommission > perf.commission
      if expired || exceedsMax then
        pure (.done (some (.new (.updateOnchainValidatorPerf s.solidoProgramId
          (s.validatorPerfAccounts validator)) (.updateOnchainValidatorPerf validator.pubkey))))
      else pure .next

/-- `do_update_onchain_validator_perfs`. -/
def doUpdateOnchainValidatorPerfs : Except Failure (Option MaintenanceInstruction) :=
  firstDone s.updateOnchainValidatorPerf (s.validators.entries.zip s.validatorVoteAccounts).enum

/-- The loop body of `do_update_offchain_validator_perfs`: report block production and vote
success once per epoch. -/
def updateOffchainValidatorPerf : Nat × Validator → Except Failure (Flow MaintenanceInstruction)
  | (i, validator) => do
      let perf ← index s.validatorPerfs i
      let shouldUpdate := perf.elim true fun perf =>
        perf.rest.elim true fun rest => s.clock.epoch > rest.updatedAt
      if !shouldUpdate then pure .next else
      match ← index s.validatorVoteAccounts i with
      | none => pure .next
      | some voteState => do
          let blockProductionRate := (← index s.validatorBlockProductionRates i).getD u64Max
          let slotsPerEpoch := s.epochSchedule.getSlotsInEpoch s.clock.epoch
          let voteSuccessRate ← per64 (min voteState.credits slotsPerEpoch) slotsPerEpoch
          pure (.done (some (.new (.updateOffchainValidatorPerf s.solidoProgramId
            blockProductionRate voteSuccessRate (s.validatorPerfAccounts validator))
            (.updateOffchainValidatorPerf validator.pubkey blockProductionRate voteSuccessRate))))

/-- `do_update_offchain_validator_perfs`: only at the end of the epoch. -/
def doUpdateOffchainValidatorPerfs : Except Failure (Option MaintenanceInstruction) := do
  if !(← s.isAtEpochEnd) then pure none
  else firstDone s.updateOffchainValidatorPerf s.validators.entries.enum

/-- `try_update_validator_perfs`. -/
def tryUpdateValidatorPerfs : Except Failure (Option MaintenanceInstruction) :=
  orElse (orElse (.ok none) fun _ => s.doUpdateOnchainValidatorPerfs)
    fun _ => s.doUpdateOffchainValidatorPerfs

section PerfSpec

variable {s : SolidoState} {mi : MaintenanceInstruction}

theorem updateOnchainValidatorPerf_output {x : Nat × Validator × Option VoteState}
    (h : s.updateOnchainValidatorPerf x = .ok (.done (some mi))) :
    mi.output = .updateOnchainValidatorPerf x.2.1.pubkey := by
  obtain ⟨i, validator, _ | voteState⟩ := x
  · cases h
  · simp only [updateOnchainValidatorPerf, bind_eq_ok] at h
    obtain ⟨_, -, _, -, h⟩ := h
    split at h <;> cases h
    rfl

theorem updateOffchainValidatorPerf_output {x : Nat × Validator}
    (h : s.updateOffchainValidatorPerf x = .ok (.done (some mi))) :
    ∃ blockProductionRate voteSuccessRate,
      mi.output = .updateOffchainValidatorPerf x.2.pubkey blockProductionRate voteSuccessRate := by
  simp only [updateOffchainValidatorPerf, bind_eq_ok] at h
  obtain ⟨_, -, h⟩ := h
  split at h
  · cases h
  · obtain ⟨_ | voteState, -, h⟩ := bind_eq_ok.mp h
    · cases h
    · simp only [bind_eq_ok, pure_eq_ok] at h
      obtain ⟨_, -, _, -, h⟩ := h
      cases h
      exact ⟨_, _, rfl⟩

/-- Both performance updates report the validator they update. -/
theorem tryUpdateValidatorPerfs_output (h : s.tryUpdateValidatorPerfs = .ok (some mi)) :
    ∃ vote, mi.output = .updateOnchainValidatorPerf vote ∨
      ∃ blockProductionRate voteSuccessRate,
        mi.output = .updateOffchainValidatorPerf vote blockProductionRate voteSuccessRate := by
  rcases orElse_eq_ok_some.mp h with h | ⟨-, h⟩
  · obtain ⟨x, -, hx⟩ := mem_of_firstDone_eq_ok_some h
    exact ⟨_, .inl (updateOnchainValidatorPerf_output hx)⟩
  · obtain ⟨atEpochEnd, -, h⟩ := bind_eq_ok.mp h
    split at h
    · cases h
    · obtain ⟨x, -, hx⟩ := mem_of_firstDone_eq_ok_some h
      exact ⟨_, .inr (updateOffchainValidatorPerf_output hx)⟩

theorem perfs_index_of_mem {i : Nat} {validator : Validator} {voteState : Option VoteState}
    (hperfs : s.validatorPerfs.length = s.validators.entries.length)
    (hx : (i, validator, voteState) ∈ (s.validators.entries.zip s.validatorVoteAccounts).enum) :
    index s.validatorPerfs i = .ok (s.validatorPerfs.getD i none) := by
  have hlt := (List.mem_enum hx).1
  simp only [List.length_zip] at hlt
  rw [index_of_lt (by omega), List.getD_eq_getElem _ _ (by omega)]

theorem doUpdateOnchainValidatorPerfs_isOk
    (hperfs : s.validatorPerfs.length = s.validators.entries.length)
    (hslot : s.epochSchedule.getFirstSlotInEpoch s.clock.epoch ≤ s.clock.slot) :
    ∃ result, s.doUpdateOnchainValidatorPerfs = .ok result := by
  refine firstDone_isOk fun ⟨i, validator, voteState⟩ hx => ?_
  cases voteState with
  | none => exact ⟨_, rfl⟩
  | some voteState =>
      simp only [updateOnchainValidatorPerf, perfs_index_of_mem hperfs hx, ok_bind]
      split <;> simp only [isAtEpochEnd_of_le hslot, ok_bind, pure_eq_ok] <;> split <;>
        exact ⟨_, rfl⟩

theorem doUpdateOffchainValidatorPerfs_isOk
    (hperfs : s.validatorPerfs.length = s.validators.entries.length)
    (hvotes : s.validatorVoteAccounts.length = s.validators.entries.length)
    (hrates : s.validatorBlockProductionRates.length = s.validators.entries.length)
    (hslot : s.epochSchedule.getFirstSlotInEpoch s.clock.epoch ≤ s.clock.slot)
    (hslots : 0 < s.epochSchedule.getSlotsInEpoch s.clock.epoch) :
    ∃ result, s.doUpdateOffchainValidatorPerfs = .ok result := by
  unfold doUpdateOffchainValidatorPerfs
  rw [isAtEpochEnd_of_le hslot, ok_bind]
  split
  · exact ⟨_, rfl⟩
  · refine firstDone_isOk fun ⟨i, validator⟩ hx => ?_
    have hi := (List.mem_enum hx).1
    simp only [updateOffchainValidatorPerf, index_of_lt (hperfs ▸ hi), ok_bind]
    split
    · exact ⟨_, rfl⟩
    · rw [index_of_lt (hvotes ▸ hi), ok_bind]
      split
      · exact ⟨_, rfl⟩
      · simp [index_of_lt (hrates ▸ hi), per64, Nat.pos_iff_ne_zero.mp hslots]

theorem tryUpdateValidatorPerfs_isOk
    (hperfs : s.validatorPerfs.length = s.validators.entries.length)
    (hvotes : s.validatorVoteAccounts.length = s.validators.entries.length)
    (hrates : s.validatorBlockProductionRates.length = s.validators.entries.length)
    (hslot : s.epochSchedule.getFirstSlotInEpoch s.clock.epoch ≤ s.clock.slot)
    (hslots : 0 < s.epochSchedule.getSlotsInEpoch s.clock.epoch) :
    ∃ result, s.tryUpdateValidatorPerfs = .ok result :=
  orElse_isOk (doUpdateOnchainValidatorPerfs_isOk hperfs hslot)
    (doUpdateOffchainValidatorPerfs_isOk hperfs hvotes hrates hslot hslots)

end PerfSpec

end SolidoState

end Solido
