import Solido.Safety

namespace Solido

/-! The loop of `SolidoState::new` reads each validator alone and pushes what it read to the end of
the eight vectors. So the loop computes one row per validator, and the vectors are the rows laid
end to end. With every vote account open each row has one entry per vector, and the `i`-th entry
of every vector is the `i`-th validator's own. -/

section Loops

variable {ε α β γ : Type}

theorem ok_map (f : α → β) (a : α) : (f <$> Except.ok a : Except ε β) = .ok (f a) := rfl

/-- A `foldlM` whose step appends what a fallible function computes of the element alone is that
function mapped over the list, folded. -/
theorem foldlM_eq_map_mapM {f : β → α → Except ε β} {g : α → Except ε γ} {app : β → γ → β}
    (hf : ∀ acc x, f acc x = app acc <$> g x) :
    ∀ (xs : List α) (acc : β), xs.foldlM f acc = (fun rows => rows.foldl app acc) <$> xs.mapM g
  | [], _ => rfl
  | x :: xs, acc => by
      rw [List.foldlM_cons, List.mapM_cons, hf]
      rcases g x with e | row
      · rfl
      · simp only [ok_map, ok_bind, foldlM_eq_map_mapM hf xs]
        rcases xs.mapM g with e | rows <;> rfl

/-- A successful `mapM` computes the `i`-th result from the `i`-th element. -/
theorem mapM_eq_ok_getElem? {g : α → Except ε γ} :
    ∀ {xs : List α} {rows : List γ}, xs.mapM g = .ok rows →
      rows.length = xs.length ∧
        ∀ (i : Nat) row, rows[i]? = some row ↔ ∃ x, xs[i]? = some x ∧ g x = .ok row
  | [], rows, h => by
      cases h
      simp
  | x :: xs, rows, h => by
      simp only [List.mapM_cons, bind_eq_ok, pure_eq_ok, Except.ok.injEq] at h
      obtain ⟨row, hrow, rest, hrest, rfl⟩ := h
      obtain ⟨hlen, hget⟩ := mapM_eq_ok_getElem? hrest
      refine ⟨by simp [hlen], fun i y => ?_⟩
      cases i with
      | zero => simp [hrow]
      | succ i => simpa using hget i y

/-- A `mapM` whose function fails, wherever it fails, with one error fails with that error
exactly when some element makes the function fail. -/
theorem mapM_eq_error_iff {g : α → Except ε γ} {P : α → Prop} {e₀ : ε}
    (hg : ∀ x e, g x = .error e ↔ P x ∧ e = e₀) :
    ∀ {xs : List α} {e : ε}, xs.mapM g = .error e ↔ (∃ x ∈ xs, P x) ∧ e = e₀
  | [], e => by
      rw [List.mapM_nil]
      simp
  | x :: xs, e => by
      rw [List.mapM_cons]
      simp only [List.mem_cons, exists_eq_or_imp]
      rcases h : g x with e' | y
      · obtain ⟨hx, rfl⟩ := (hg x e').mp h
        simp [hx, eq_comm]
      · have hx : ¬P x := fun hx => by simp [(hg x e₀).mpr ⟨hx, rfl⟩] at h
        rw [ok_bind, or_iff_right hx, ← mapM_eq_error_iff hg]
        rcases xs.mapM g with e' | ys <;> simp

/-- Lists of one element each, laid end to end, are indexed as the list of them. -/
theorem getElem?_flatMap_of_length_eq_one {f : α → List β} :
    ∀ {rows : List α}, (∀ row ∈ rows, (f row).length = 1) →
      ∀ (i : Nat) row, rows[i]? = some row → ((rows.flatMap f)[i]?).toList = f row
  | [], _, _, _, hrow => by simp at hrow
  | r :: rows, h, i, row, hrow => by
      obtain ⟨a, ha⟩ := List.length_eq_one.mp (h r (List.mem_cons_self r rows))
      cases i with
      | zero =>
          obtain rfl : r = row := by simpa using hrow
          simp [ha]
      | succ i =>
          simpa [ha] using getElem?_flatMap_of_length_eq_one
            (fun row' hrow' => h row' (List.mem_cons_of_mem r hrow')) i row (by simpa using hrow)

theorem sum_map_flatMap (rows : List α) (f : α → List β) (g : β → Nat) :
    ((rows.flatMap f).map g).sum = (rows.map fun row => ((f row).map g).sum).sum := by
  induction rows with
  | nil => rfl
  | cons row rows ih => simp [ih]

end Loops

namespace ValidatorVecs

/-- The vectors of `a`, each followed by the same vector of `b`. -/
def append (a b : ValidatorVecs) : ValidatorVecs :=
  ⟨a.stakeAccounts ++ b.stakeAccounts, a.unstakeAccounts ++ b.unstakeAccounts,
    a.voteAccountBalances ++ b.voteAccountBalances,
    a.identityAccountBalances ++ b.identityAccountBalances, a.voteAccounts ++ b.voteAccounts,
    a.perfs ++ b.perfs, a.blockProductionRates ++ b.blockProductionRates, a.infos ++ b.infos⟩

/-- Rows laid end to end. -/
def concat (rows : List ValidatorVecs) : ValidatorVecs :=
  ⟨rows.flatMap stakeAccounts, rows.flatMap unstakeAccounts, rows.flatMap voteAccountBalances,
    rows.flatMap identityAccountBalances, rows.flatMap voteAccounts, rows.flatMap perfs,
    rows.flatMap blockProductionRates, rows.flatMap infos⟩

/-- The `i`-th entry of each vector, as a row. -/
def nth (vecs : ValidatorVecs) (i : Nat) : ValidatorVecs :=
  ⟨vecs.stakeAccounts[i]?.toList, vecs.unstakeAccounts[i]?.toList,
    vecs.voteAccountBalances[i]?.toList, vecs.identityAccountBalances[i]?.toList,
    vecs.voteAccounts[i]?.toList, vecs.perfs[i]?.toList, vecs.blockProductionRates[i]?.toList,
    vecs.infos[i]?.toList⟩

/-- A row of one entry per vector: what the loop body pushes for a validator whose vote account is
open. -/
structure Single (row : ValidatorVecs) : Prop where
  stakeAccounts_length : row.stakeAccounts.length = 1
  unstakeAccounts_length : row.unstakeAccounts.length = 1
  voteAccountBalances_length : row.voteAccountBalances.length = 1
  identityAccountBalances_length : row.identityAccountBalances.length = 1
  voteAccounts_length : row.voteAccounts.length = 1
  perfs_length : row.perfs.length = 1
  blockProductionRates_length : row.blockProductionRates.length = 1
  infos_length : row.infos.length = 1

theorem foldl_append : ∀ (rows : List ValidatorVecs) (acc : ValidatorVecs),
    rows.foldl append acc = acc.append (concat rows)
  | [], ⟨_, _, _, _, _, _, _, _⟩ => by simp [append, concat]
  | row :: rows, acc => by
      simp only [List.foldl_cons, foldl_append rows]
      simp [append, concat, List.append_assoc]

theorem concat_nth {rows : List ValidatorVecs} (hrows : ∀ row ∈ rows, row.Single) {i : Nat}
    {row : ValidatorVecs} (hrow : rows[i]? = some row) : (concat rows).nth i = row := by
  have h {β : Type} (f : ValidatorVecs → List β) (hf : ∀ row, row.Single → (f row).length = 1) :=
    getElem?_flatMap_of_length_eq_one (fun row' hrow' => hf row' (hrows row' hrow')) i row hrow
  simp only [nth, concat, h stakeAccounts fun _ hr => hr.stakeAccounts_length,
    h unstakeAccounts fun _ hr => hr.unstakeAccounts_length,
    h voteAccountBalances fun _ hr => hr.voteAccountBalances_length,
    h identityAccountBalances fun _ hr => hr.identityAccountBalances_length,
    h voteAccounts fun _ hr => hr.voteAccounts_length, h perfs fun _ hr => hr.perfs_length,
    h blockProductionRates fun _ hr => hr.blockProductionRates_length,
    h infos fun _ hr => hr.infos_length]

end ValidatorVecs

namespace SolidoState

variable {c : Collaborators} {config : SnapshotConfig} {solidoProgramId solidoAddress : Pubkey}
  {rent : Rent} {clock : Clock} {stakeHistory : StakeHistory}
  {allValidatorPerfs : AccountList ValidatorPerf} {allBlockProductionRates : Pubkey → Option Nat}

theorem pushVoteAccount_eq_map (vecs : ValidatorVecs) (validator : Validator) :
    pushVoteAccount config rent allValidatorPerfs allBlockProductionRates vecs validator =
      vecs.append <$>
        pushVoteAccount config rent allValidatorPerfs allBlockProductionRates .empty validator := by
  unfold pushVoteAccount
  split
  · simp only [map_bind, map_pure, ValidatorVecs.append, ValidatorVecs.empty, List.nil_append,
      List.append_nil]
  · simp only [map_pure, ValidatorVecs.append, ValidatorVecs.empty, List.nil_append,
      List.append_nil]
  · rfl

theorem pushValidator_eq_map (vecs : ValidatorVecs) (validator : Validator) :
    pushValidator c config solidoProgramId solidoAddress rent clock stakeHistory allValidatorPerfs
        allBlockProductionRates vecs validator =
      vecs.append <$> pushValidator c config solidoProgramId solidoAddress rent clock stakeHistory
        allValidatorPerfs allBlockProductionRates .empty validator := by
  unfold pushValidator
  rw [pushVoteAccount_eq_map vecs]
  rcases pushVoteAccount config rent allValidatorPerfs allBlockProductionRates .empty validator
    with e | row
  · rfl
  · simp only [ok_map, ok_bind, map_bind, map_pure, ValidatorVecs.append, List.append_assoc]

/-- The loop of `new` is its body run on each validator alone, from empty vectors, with the rows
laid end to end. -/
theorem foldlM_pushValidator_eq_concat {validators : List Validator} {vecs : ValidatorVecs}
    (h : validators.foldlM (pushValidator c config solidoProgramId solidoAddress rent clock
      stakeHistory allValidatorPerfs allBlockProductionRates) .empty = .ok vecs) :
    ∃ rows, validators.mapM (pushValidator c config solidoProgramId solidoAddress rent clock
        stakeHistory allValidatorPerfs allBlockProductionRates .empty) = .ok rows ∧
      ValidatorVecs.concat rows = vecs := by
  rw [foldlM_eq_map_mapM pushValidator_eq_map] at h
  rcases hrows : validators.mapM _ with e | rows <;> rw [hrows] at h
  · cases h
  · refine ⟨rows, rfl, ?_⟩
    cases h
    simp [ValidatorVecs.foldl_append, ValidatorVecs.append, ValidatorVecs.empty]

/-- The row of a validator whose vote account is open has one entry per vector. -/
theorem pushValidator_empty_single {validator : Validator} {row : ValidatorVecs}
    (h : pushValidator c config solidoProgramId solidoAddress rent clock stakeHistory
      allValidatorPerfs allBlockProductionRates .empty validator = .ok row)
    (hopen : ∀ voteAccount ∈ row.voteAccounts, voteAccount.isSome) : row.Single := by
  simp only [pushValidator, bind_eq_ok, pure_eq_ok, Except.ok.injEq] at h
  obtain ⟨vecs, hvecs, _, -, _, -, rfl⟩ := h
  unfold pushVoteAccount at hvecs
  split at hvecs
  · simp only [bind_eq_ok, pure_eq_ok, Except.ok.injEq] at hvecs
    obtain ⟨_, -, _, -, _, -, _, -, _, -, rfl⟩ := hvecs
    exact ⟨rfl, rfl, rfl, rfl, rfl, rfl, rfl, rfl⟩
  · cases hvecs
    simp [ValidatorVecs.empty] at hopen
  · cases hvecs

section New

variable {stakeTime : StakeTime} {endOfEpochThreshold : Nat} {s : SolidoState}

/-- What a snapshot that `new` returns was read from: its loop ran with the snapshot's own rent,
clock and stake history and the performances and block production rates the client gave, and its
maintainer balances are the client's balances of the maintainers' accounts. -/
theorem new_reads
    (h : SolidoState.new c config solidoProgramId solidoAddress stakeTime endOfEpochThreshold =
      .ok s) :
    (∃ allValidatorPerfs allBlockProductionRates,
      config.client.getValidatorPerfList s.solido.validatorPerfList = .ok allValidatorPerfs ∧
      config.client.getAllBlockProductionRates = .ok allBlockProductionRates ∧
      s.validators.entries.foldlM (SolidoState.pushValidator c config s.solidoProgramId
        s.solidoAddress s.rent s.clock s.stakeHistory allValidatorPerfs allBlockProductionRates)
        .empty = .ok s.validatorVecs) ∧
    s.maintainers.entries.mapM (fun maintainer =>
      (·.lamports) <$> query (config.client.getAccount maintainer.pubkey)) =
        .ok s.maintainerBalances := by
  simp only [SolidoState.new, bind_eq_ok, pure_eq_ok, Except.ok.injEq] at h
  obtain ⟨_, -, _, -, _, hperfs, _, -, _, -, _, -, _, -, _, -, _, -, _, -, _, -, _, -,
    _, hrates, _, hvecs, _, hbalances, rfl⟩ := h
  exact ⟨⟨_, _, query_eq_ok.mp hperfs, query_eq_ok.mp hrates, hvecs⟩, hbalances⟩

/-- With every vote account open, the `i`-th entries of the eight vectors of a snapshot that `new`
returns are what the loop body reads of the `i`-th validator alone, from the client's
performances and block production rates and the snapshot's rent, clock and stake history. -/
theorem new_validatorVecs_nth
    (h : SolidoState.new c config solidoProgramId solidoAddress stakeTime endOfEpochThreshold =
      .ok s)
    (hopen : ∀ voteAccount ∈ s.validatorVoteAccounts, voteAccount.isSome) :
    ∃ allValidatorPerfs allBlockProductionRates,
      config.client.getValidatorPerfList s.solido.validatorPerfList = .ok allValidatorPerfs ∧
      config.client.getAllBlockProductionRates = .ok allBlockProductionRates ∧
      ∀ (i : Nat) validator, s.validators.entries[i]? = some validator →
        SolidoState.pushValidator c config s.solidoProgramId s.solidoAddress s.rent s.clock
          s.stakeHistory allValidatorPerfs allBlockProductionRates .empty validator =
            .ok (s.validatorVecs.nth i) := by
  obtain ⟨perfs, rates, hperfs, hrates, hfold⟩ := (new_reads h).1
  obtain ⟨rows, hrows, hconcat⟩ := foldlM_pushValidator_eq_concat hfold
  obtain ⟨hlen, hget⟩ := mapM_eq_ok_getElem? hrows
  have hsingle : ∀ row ∈ rows, row.Single := fun row hrow => by
    obtain ⟨i, hi⟩ := List.mem_iff_getElem?.mp hrow
    obtain ⟨_, -, hpush⟩ := (hget i row).mp hi
    refine pushValidator_empty_single hpush fun voteAccount hvoteAccount => hopen _ ?_
    rw [show s.validatorVoteAccounts = s.validatorVecs.voteAccounts from rfl, ← hconcat]
    exact List.mem_flatMap.mpr ⟨row, hrow, hvoteAccount⟩
  refine ⟨perfs, rates, hperfs, hrates, fun i validator hvalidator => ?_⟩
  obtain ⟨row, hrow⟩ : ∃ row, rows[i]? = some row :=
    Option.isSome_iff_exists.mp (by simp [hlen, (List.getElem?_eq_some_iff.mp hvalidator).1])
  obtain ⟨_, hv, hpush⟩ := (hget i row).mp hrow
  rw [← hconcat, ValidatorVecs.concat_nth hsingle hrow, ← Option.some_injective _ (hv.symm.trans
    hvalidator)]
  exact hpush

/-- The snapshot of the ledger with two staked validators, row by row. -/
theorem new_validatorVecs_nth_staked : SolidoState.new rentKeepingCollaborators
    (acceptingConfig stakedClient) ⟨1⟩ ⟨2⟩ .anytime 95 = .ok stakedSnapshot ∧
      (∀ voteAccount ∈ stakedSnapshot.validatorVoteAccounts, voteAccount.isSome) ∧
      ∃ allValidatorPerfs allBlockProductionRates,
        stakedClient.getValidatorPerfList stakedSnapshot.solido.validatorPerfList =
          .ok allValidatorPerfs ∧
        stakedClient.getAllBlockProductionRates = .ok allBlockProductionRates ∧
        ∀ (i : Nat) validator, stakedSnapshot.validators.entries[i]? = some validator →
          SolidoState.pushValidator rentKeepingCollaborators (acceptingConfig stakedClient)
            stakedSnapshot.solidoProgramId stakedSnapshot.solidoAddress stakedSnapshot.rent
            stakedSnapshot.clock stakedSnapshot.stakeHistory allValidatorPerfs
            allBlockProductionRates .empty validator = .ok (stakedSnapshot.validatorVecs.nth i) :=
  ⟨new_stakedClient, stakedSnapshot_open,
    new_validatorVecs_nth new_stakedClient stakedSnapshot_open⟩

end New

end SolidoState

end Solido
