import Solido.EpochGate

namespace Solido

/-! The loops of the maintenance steps: visit the items in order and leave at the first one that
has an instruction. -/

/-- What one pass of a loop body does: `continue`, or leave the function with a result. -/
inductive Flow (α : Type)
  | next
  | done (result : Option α)

/-- A `for` loop whose body may `continue`, `return` or panic; `None` when it runs off the end. -/
def firstDone {β α : Type} (body : β → Except Failure (Flow α)) :
    List β → Except Failure (Option α)
  | [] => .ok none
  | b :: bs => body b >>= fun
    | .next => firstDone body bs
    | .done result => .ok result

section FirstDone

variable {β α : Type} {body : β → Except Failure (Flow α)}

@[simp] theorem firstDone_nil : firstDone body [] = .ok none := rfl

theorem firstDone_cons_next {b : β} {bs : List β} (h : body b = .ok .next) :
    firstDone body (b :: bs) = firstDone body bs := by
  simp [firstDone, h]

theorem firstDone_cons_done {b : β} {bs : List β} {result : Option α}
    (h : body b = .ok (.done result)) : firstDone body (b :: bs) = .ok result := by
  simp [firstDone, h]

/-- Items the body passes over do not change the loop's result. -/
theorem firstDone_append_of_next {front : List β} (back : List β)
    (h : ∀ b ∈ front, body b = .ok .next) : firstDone body (front ++ back) = firstDone body back := by
  induction front with
  | nil => rfl
  | cons b bs ih =>
      rw [List.cons_append, firstDone_cons_next (h b (List.mem_cons_self _ _))]
      exact ih fun x hx => h x (List.mem_cons_of_mem _ hx)

theorem firstDone_of_next {l : List β} (h : ∀ b ∈ l, body b = .ok .next) :
    firstDone body l = .ok none := by
  simpa using firstDone_append_of_next [] h

/-- A loop that returns an instruction returns the one of the first item that does not
`continue`. -/
theorem firstDone_eq_ok_some {l : List β} {a : α} (h : firstDone body l = .ok (some a)) :
    ∃ front b back, l = front ++ b :: back ∧ (∀ x ∈ front, body x = .ok .next) ∧
      body b = .ok (.done (some a)) := by
  induction l with
  | nil => cases h
  | cons b bs ih =>
      simp only [firstDone, bind_eq_ok] at h
      obtain ⟨flow, hflow, h⟩ := h
      cases flow with
      | next =>
          obtain ⟨front, x, back, rfl, hfront, hx⟩ := ih h
          exact ⟨b :: front, x, back, rfl, by simpa [hflow] using hfront, hx⟩
      | done result =>
          cases h
          exact ⟨[], b, bs, rfl, by simp, hflow⟩

theorem mem_of_firstDone_eq_ok_some {l : List β} {a : α} (h : firstDone body l = .ok (some a)) :
    ∃ b ∈ l, body b = .ok (.done (some a)) := by
  obtain ⟨front, b, back, rfl, -, hb⟩ := firstDone_eq_ok_some h
  exact ⟨b, by simp, hb⟩

/-- A loop whose body never panics does not panic. -/
theorem firstDone_isOk {l : List β} (h : ∀ b ∈ l, ∃ flow, body b = .ok flow) :
    ∃ result, firstDone body l = .ok result := by
  induction l with
  | nil => exact ⟨none, rfl⟩
  | cons b bs ih =>
      obtain ⟨flow, hflow⟩ := h b (List.mem_cons_self _ _)
      cases flow with
      | next => simpa [firstDone_cons_next hflow] using ih fun x hx => h x (List.mem_cons_of_mem _ hx)
      | done result => exact ⟨result, firstDone_cons_done hflow⟩

/-- A loop whose body only tests each item returns the instruction of the first item that
passes the test. -/
theorem firstDone_eq_find? {p : β → Bool} {g : β → α} {l : List β}
    (h : ∀ b ∈ l, body b = .ok (if p b then .done (some (g b)) else .next)) :
    firstDone body l = .ok ((l.find? p).map g) := by
  induction l with
  | nil => rfl
  | cons b bs ih =>
      have hb := h b (List.mem_cons_self _ _)
      by_cases hp : p b
      · rw [firstDone_cons_done (by simpa [hp] using hb), List.find?_cons_of_pos _ hp]
        rfl
      · rw [firstDone_cons_next (by simpa [hp] using hb), List.find?_cons_of_neg _ hp]
        exact ih fun x hx => h x (List.mem_cons_of_mem _ hx)

/-- A loop whose body never leaves without a result finds nothing exactly when it passes over
every item. -/
theorem firstDone_eq_ok_none_iff {l : List β} (h : ∀ b ∈ l, body b ≠ .ok (.done none)) :
    firstDone body l = .ok none ↔ ∀ b ∈ l, body b = .ok .next := by
  induction l with
  | nil => simp
  | cons b bs ih =>
      have ih := ih fun x hx => h x (List.mem_cons_of_mem _ hx)
      rcases hbody : body b with _ | _ | (_ | _)
      · simp [firstDone, hbody]
      · simp [firstDone, hbody, ih]
      · exact absurd hbody (h b (List.mem_cons_self _ _))
      · simp [firstDone, hbody]

end FirstDone

namespace SolidoState

variable (c : Collaborators) (s : SolidoState)

/-! Merging stake accounts and the exchange rate. -/

/-- `get_merge_instruction`: merge the account at `fromSeed` into the one at `toSeed`, both
addresses derived again from their seeds. -/
def getMergeInstruction (validator : Validator) (fromSeed toSeed : Nat) : Option Instruction := do
  let fromStake :=
    c.findStakeAccountAddress validator s.solidoProgramId s.solidoAddress fromSeed .stake
  let toStake := c.findStakeAccountAddress validator s.solidoProgramId s.solidoAddress toSeed .stake
  let validatorIndex ← s.validators.position validator.pubkey
  pure (.mergeStake s.solidoProgramId
    { lido := s.solidoAddress, validatorVoteAccount := validator.pubkey, fromStake, toStake,
      stakeAuthority := s.getStakeAuthority c, validatorList := s.solido.validatorList }
    validatorIndex)

/-- The body of the loop of `try_merge_on_all_stakes`: merge a validator's first account into
its second when they can merge. A `?` on the instruction leaves the whole function. -/
def mergeOnStakes (validator : Validator) :
    List (Pubkey × StakeAccount) → Flow MaintenanceInstruction
  | fromStake :: toStake :: _ =>
      if c.canMerge toStake.2 fromStake.2 then
        .done do
          let instruction ← s.getMergeInstruction c validator fromStake.2.seed toStake.2.seed
          pure (.new instruction (.mergeStake validator.pubkey fromStake.1 toStake.1
            fromStake.2.seed toStake.2.seed))
      else .next
  | _ => .next

/-- `try_merge_on_all_stakes`. -/
def tryMergeOnAllStakes : Except Failure (Option MaintenanceInstruction) :=
  firstDone (fun (validator, stakeAccounts) => .ok (s.mergeOnStakes c validator stakeAccounts))
    (s.validators.entries.zip s.validatorStakeAccounts)

/-- Modelled from the spec: a validator's first two stake accounts can merge. -/
def canMergeFirstTwo : List (Pubkey × StakeAccount) → Bool
  | fromStake :: toStake :: _ => c.canMerge toStake.2 fromStake.2
  | _ => false

/-- `try_update_exchange_rate`: update the rate once per epoch. -/
def tryUpdateExchangeRate : Except Failure (Option MaintenanceInstruction) :=
  if s.solido.exchangeRate.computedInEpoch ≥ s.clock.epoch then .ok none
  else .ok (some (.new (.updateExchangeRate s.solidoProgramId
    ⟨s.solidoAddress, s.reserveAddress, s.solido.stSolMint, s.solido.validatorList⟩)
    .updateExchangeRate))

section MergeSpec

variable {c : Collaborators} {s : SolidoState} {mi : MaintenanceInstruction}

/-- A merge takes a validator's first two accounts, and the instruction derives both addresses
again from the seeds the accounts record. -/
theorem mergeOnStakes_eq_done {validator : Validator} {stakeAccounts : List (Pubkey × StakeAccount)}
    (h : s.mergeOnStakes c validator stakeAccounts = .done (some mi)) :
    ∃ fromStake toStake rest validatorIndex, stakeAccounts = fromStake :: toStake :: rest ∧
      s.validators.position validator.pubkey = some validatorIndex ∧
      mi = .new (.mergeStake s.solidoProgramId
        ⟨s.solidoAddress, validator.pubkey,
          c.findStakeAccountAddress validator s.solidoProgramId s.solidoAddress fromStake.2.seed
            .stake,
          c.findStakeAccountAddress validator s.solidoProgramId s.solidoAddress toStake.2.seed
            .stake,
          s.getStakeAuthority c, s.solido.validatorList⟩ validatorIndex)
        (.mergeStake validator.pubkey fromStake.1 toStake.1 fromStake.2.seed toStake.2.seed) := by
  unfold mergeOnStakes at h
  split at h
  · split at h
    · simp only [getMergeInstruction, Flow.done.injEq, Option.bind_eq_bind, Option.bind_eq_some,
        Option.pure_def, Option.some.injEq] at h
      obtain ⟨_, ⟨validatorIndex, hindex, rfl⟩, rfl⟩ := h
      exact ⟨_, _, _, validatorIndex, rfl, hindex, rfl⟩
    · cases h
  · cases h

theorem tryMergeOnAllStakes_isOk : ∃ result, s.tryMergeOnAllStakes c = .ok result :=
  firstDone_isOk fun _ _ => ⟨_, rfl⟩

theorem tryMergeOnAllStakes_eq_ok_some (h : s.tryMergeOnAllStakes c = .ok (some mi)) :
    ∃ validator stakeAccounts,
      (validator, stakeAccounts) ∈ s.validators.entries.zip s.validatorStakeAccounts ∧
      s.mergeOnStakes c validator stakeAccounts = .done (some mi) := by
  obtain ⟨⟨validator, stakeAccounts⟩, hmem, hbody⟩ := mem_of_firstDone_eq_ok_some h
  exact ⟨validator, stakeAccounts, hmem, by simpa using hbody⟩

theorem mergeOnStakes_eq_next_iff {validator : Validator} {accounts : List (Pubkey × StakeAccount)} :
    s.mergeOnStakes c validator accounts = .next ↔ canMergeFirstTwo c accounts = false := by
  match accounts with
  | [] | [_] => simp [mergeOnStakes, canMergeFirstTwo]
  | fromStake :: toStake :: rest =>
      cases hmerge : c.canMerge toStake.2 fromStake.2 <;>
        simp [mergeOnStakes, canMergeFirstTwo, hmerge]

theorem mergeOnStakes_ne_done_none {validator : Validator} {accounts : List (Pubkey × StakeAccount)}
    (hv : validator ∈ s.validators.entries) : s.mergeOnStakes c validator accounts ≠ .done none := by
  obtain ⟨validatorIndex, hindex⟩ := AccountList.position_of_mem hv
  have hindex : s.validators.position validator.pubkey = some validatorIndex := hindex
  match accounts with
  | [] | [_] => simp [mergeOnStakes]
  | fromStake :: toStake :: rest =>
      cases hmerge : c.canMerge toStake.2 fromStake.2 <;>
        simp [mergeOnStakes, hmerge, getMergeInstruction, hindex]


/-- One active validator with two fully active stake accounts of two SOL each. -/
def mergeableSnapshot : SolidoState :=
  { newEmptySolido with
    validatorStakeAccounts := [[(⟨7000⟩, ⟨⟨0, 0, 2000000000, 0⟩, 0, 0⟩),
      (⟨7010⟩, ⟨⟨0, 0, 2000000000, 0⟩, 1, 0⟩)]]
    validatorUnstakeAccounts := [[]]
    validators := ⟨[⟨⟨7⟩, ⟨0, 2⟩, ⟨0, 0⟩, 4000000000, true⟩], by decide⟩ }

theorem tryUpdateExchangeRate_of_lt (h : s.solido.exchangeRate.computedInEpoch < s.clock.epoch) :
    s.tryUpdateExchangeRate = .ok (some (.new (.updateExchangeRate s.solidoProgramId
      ⟨s.solidoAddress, s.reserveAddress, s.solido.stSolMint, s.solido.validatorList⟩)
      .updateExchangeRate)) :=
  if_neg (Nat.not_le.mpr h)

theorem tryUpdateExchangeRate_isOk : ∃ result, s.tryUpdateExchangeRate = .ok result := by
  unfold tryUpdateExchangeRate
  split <;> exact ⟨_, rfl⟩

theorem tryUpdateExchangeRate_output (h : s.tryUpdateExchangeRate = .ok (some mi)) :
    mi.output = .updateExchangeRate := by
  unfold tryUpdateExchangeRate at h
  split at h <;> cases h
  rfl

end MergeSpec

end SolidoState

end Solido
