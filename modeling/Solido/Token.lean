import Mathlib

namespace Solido

/-! Rust's `u64`, the errors of a snapshot, and the two ways a computation stops early. -/

/-- The largest value of a `u64`. -/
def u64Max : Nat := 2 ^ 64 - 1

/-- Modelled from the spec: `solido_cli_common::snapshot::SnapshotError`. An account that is not
in the snapshot yet is `MissingAccount`; a closed account, like any other failure of a query,
is `OtherError`. -/
inductive SnapshotError
  | missingAccount
  | otherError (message : String)
  deriving DecidableEq, Repr

/-- How a computation of the maintainer ends without a value: an error of the snapshot that `?`
hands to the caller, a `MaintenanceError` it reports, or a panic (an `expect`, an `assert_eq!`, an
index out of range, an overflow). -/
inductive Failure
  | error (err : SnapshotError)
  | maintenanceError (message : String)
  | panic (message : String)
  deriving DecidableEq, Repr

@[simp] theorem ok_bind {ε α β : Type} (a : α) (f : α → Except ε β) :
    (Except.ok a >>= f) = f a := rfl

@[simp] theorem error_bind {ε α β : Type} (e : ε) (f : α → Except ε β) :
    (Except.error e >>= f) = Except.error e := rfl

@[simp] theorem pure_eq_ok {ε α : Type} (a : α) : (pure a : Except ε α) = .ok a := rfl

theorem bind_eq_ok {ε α β : Type} {x : Except ε α} {f : α → Except ε β} {b : β} :
    (x >>= f) = .ok b ↔ ∃ a, x = .ok a ∧ f a = .ok b := by
  cases x <;> simp

/-- `?` on a query of the snapshot client. -/
def query {α : Type} (result : Except SnapshotError α) : Except Failure α :=
  result.mapError .error

@[simp] theorem query_ok {α : Type} (a : α) : query (.ok a) = .ok a := rfl

@[simp] theorem query_error {α : Type} (e : SnapshotError) :
    query (.error e : Except SnapshotError α) = .error (.error e) := rfl

theorem query_eq_ok {α : Type} {result : Except SnapshotError α} {a : α} :
    query result = .ok a ↔ result = .ok a := by
  cases result <;> simp

/-- `Option::expect`: the value, or a panic with the message. -/
def expect {α : Type} (message : String) : Option α → Except Failure α
  | some a => .ok a
  | none => .error (.panic message)

@[simp] theorem expect_some {α : Type} (message : String) (a : α) :
    expect message (some a) = .ok a := rfl

@[simp] theorem expect_none {α : Type} (message : String) :
    expect message (none : Option α) = .error (.panic message) := rfl

theorem expect_eq_ok {α : Type} {message : String} {o : Option α} {a : α} :
    expect message o = .ok a ↔ o = some a := by
  cases o <;> simp

/-- `Result::expect`, on a result whose error prints as `errorDebug`: the value, or a panic with
the message, a colon and the error. -/
def expectResult {α : Type} (message errorDebug : String) (result : Option α) : Except Failure α :=
  expect (message ++ ": " ++ errorDebug) result

@[simp] theorem expectResult_some {α : Type} (message errorDebug : String) (a : α) :
    expectResult message errorDebug (some a) = .ok a := rfl

@[simp] theorem expectResult_none {α : Type} (message errorDebug : String) :
    expectResult message errorDebug (none : Option α) =
      .error (.panic (message ++ ": " ++ errorDebug)) := rfl

/-- The message of `assert_eq!` with a message, when its two sides differ. -/
def assertEqMessage (left right message : String) : String :=
  "assertion `left == right` failed: " ++ message ++ "\n  left: " ++ left ++ "\n right: " ++ right

/-- Indexing a `Vec`, which panics out of range. -/
def index {α : Type} (xs : List α) (i : Nat) : Except Failure α :=
  expect ("index out of bounds: the len is " ++ toString xs.length ++
    " but the index is " ++ toString i) xs[i]?

theorem index_of_lt {α : Type} {xs : List α} {i : Nat} (h : i < xs.length) :
    index xs i = .ok xs[i] := by
  simp [index, h]

theorem index_eq_ok {α : Type} {xs : List α} {i : Nat} {a : α} :
    index xs i = .ok a ↔ xs[i]? = some a := by
  unfold index
  cases xs[i]? <;> simp [expect]

/-- The computation ends with a value, or with an error it hands to the caller or reports, but
not with a panic. -/
def NoPanic {α : Type} : Except Failure α → Prop
  | .error (.panic _) => False
  | _ => True

instance {α : Type} (x : Except Failure α) : Decidable (NoPanic x) :=
  match x with
  | .error (.panic _) => isFalse id
  | .error (.error _) | .error (.maintenanceError _) | .ok _ => isTrue trivial

section NoPanic

variable {α β : Type}

theorem noPanic_of_eq_ok {x : Except Failure α} {a : α} (h : x = .ok a) : NoPanic x := h ▸ trivial

theorem noPanic_query (result : Except SnapshotError α) : NoPanic (query result) := by
  cases result <;> trivial

theorem NoPanic.bind {x : Except Failure α} {f : α → Except Failure β} (hx : NoPanic x)
    (hf : ∀ a, x = .ok a → NoPanic (f a)) : NoPanic (x >>= f) := by
  rcases x with (_ | _ | _) | a
  exacts [trivial, trivial, (hx : False).elim, hf a rfl]

theorem NoPanic.map {x : Except Failure α} (g : α → β) (hx : NoPanic x) : NoPanic (g <$> x) := by
  rcases x with (_ | _ | _) | a
  exacts [trivial, trivial, (hx : False).elim, trivial]

theorem noPanic_mapM {f : α → Except Failure β} :
    ∀ {l : List α}, (∀ a ∈ l, NoPanic (f a)) → NoPanic (l.mapM f)
  | [], _ => trivial
  | a :: l, h => by
      rw [List.mapM_cons]
      exact (h a (List.mem_cons_self a l)).bind fun _ _ =>
        (noPanic_mapM fun a' ha' => h a' (List.mem_cons_of_mem a ha')).bind fun _ _ => trivial

theorem noPanic_foldlM {f : β → α → Except Failure β} :
    ∀ {l : List α} {b : β}, (∀ b, ∀ a ∈ l, NoPanic (f b a)) → NoPanic (l.foldlM f b)
  | [], _, _ => trivial
  | a :: l, b, h => by
      rw [List.foldlM_cons]
      exact (h b a (List.mem_cons_self a l)).bind fun _ _ =>
        noPanic_foldlM fun b' a' ha' => h b' a' (List.mem_cons_of_mem a ha')

end NoPanic

/-! Checked and saturating `u64` arithmetic, as the maintainer and its libraries use it. -/

/-- `a + b` on `u64`, which panics on overflow. -/
def addU64 (a b : Nat) : Except Failure Nat :=
  if a + b ≤ u64Max then .ok (a + b) else .error (.panic "attempt to add with overflow")

/-- `a * b` on `u64`, which panics on overflow. -/
def mulU64 (a b : Nat) : Except Failure Nat :=
  if a * b ≤ u64Max then .ok (a * b) else .error (.panic "attempt to multiply with overflow")

/-- `a - b` on `u64`, which panics below zero. -/
def subU64 (a b : Nat) : Except Failure Nat :=
  if b ≤ a then .ok (a - b) else .error (.panic "attempt to subtract with overflow")

/-- `u64::checked_sub`. -/
def checkedSub (a b : Nat) : Option Nat :=
  if b ≤ a then some (a - b) else none

/-- `u64::checked_add`. -/
def checkedAdd (a b : Nat) : Option Nat :=
  if a + b ≤ u64Max then some (a + b) else none

/-- `u64::saturating_add`. -/
def saturatingAdd (a b : Nat) : Nat := min (a + b) u64Max

/-- `u64::saturating_mul`. -/
def saturatingMul (a b : Nat) : Nat := min (a * b) u64Max

/-- `u64::saturating_pow`. -/
def saturatingPow (a n : Nat) : Nat := min (a ^ n) u64Max

/-- `u32::try_from` of a `usize`, `None` when the value does not fit. -/
def u32TryFrom (n : Nat) : Option Nat := if n < 2 ^ 32 then some n else none

theorem addU64_of_le {a b : Nat} (h : a + b ≤ u64Max) : addU64 a b = .ok (a + b) := if_pos h

theorem mulU64_of_le {a b : Nat} (h : a * b ≤ u64Max) : mulU64 a b = .ok (a * b) := if_pos h

theorem subU64_of_le {a b : Nat} (h : b ≤ a) : subU64 a b = .ok (a - b) := if_pos h

theorem subU64_of_lt {a b : Nat} (h : a < b) :
    subU64 a b = .error (.panic "attempt to subtract with overflow") :=
  if_neg (Nat.not_le.mpr h)

theorem subU64_eq_ok {a b c : Nat} : subU64 a b = .ok c ↔ b ≤ a ∧ c = a - b := by
  unfold subU64
  split <;> simp [*, eq_comm]

theorem u32TryFrom_of_lt {n : Nat} (h : n < 2 ^ 32) : u32TryFrom n = some n := if_pos h

theorem checkedSub_of_le {a b : Nat} (h : b ≤ a) : checkedSub a b = some (a - b) := if_pos h

theorem checkedAdd_of_le {a b : Nat} (h : a + b ≤ u64Max) : checkedAdd a b = some (a + b) := if_pos h

theorem checkedSub_eq_some {a b c : Nat} : checkedSub a b = some c ↔ b ≤ a ∧ c = a - b := by
  unfold checkedSub
  split <;> simp [*, eq_comm]

theorem checkedAdd_eq_some {a b c : Nat} :
    checkedAdd a b = some c ↔ a + b ≤ u64Max ∧ c = a + b := by
  unfold checkedAdd
  split <;> simp [*, eq_comm]

/-! Balances and ratios of the `lido` crate. A balance, `lido::token::Lamports`, is a `Nat`: its
`+` and `-` are `checkedAdd` and `checkedSub`, whose `None` is an `ArithmeticError`. -/

/-- Modelled from the spec: `lido::token::Rational`, a numerator over a denominator. -/
structure Rational where
  numerator : Nat
  denominator : Nat
  deriving DecidableEq, Repr

namespace Rational

/-- Modelled from the spec: ratios are ordered by cross-multiplication. -/
instance : LT Rational := ⟨fun a b => a.numerator * b.denominator < b.numerator * a.denominator⟩

/-- Modelled from the spec: ratios are ordered by cross-multiplication. -/
instance : LE Rational := ⟨fun a b => a.numerator * b.denominator ≤ b.numerator * a.denominator⟩

instance (a b : Rational) : Decidable (a < b) :=
  inferInstanceAs (Decidable (a.numerator * b.denominator < b.numerator * a.denominator))

instance (a b : Rational) : Decidable (a ≤ b) :=
  inferInstanceAs (Decidable (a.numerator * b.denominator ≤ b.numerator * a.denominator))

@[simp] theorem lt_def (a b : Rational) :
    a < b ↔ a.numerator * b.denominator < b.numerator * a.denominator := Iff.rfl

@[simp] theorem le_def (a b : Rational) :
    a ≤ b ↔ a.numerator * b.denominator ≤ b.numerator * a.denominator := Iff.rfl

end Rational

/-! `Option::or_else` in a computation that may panic. -/

/-- `first.or_else(|| second())`: the second runs only when the first gave `None`. -/
def orElse {α : Type} (first : Except Failure (Option α))
    (second : Unit → Except Failure (Option α)) : Except Failure (Option α) :=
  first >>= fun
    | some a => .ok (some a)
    | none => second ()

@[simp] theorem orElse_some {α : Type} (a : α) (second : Unit → Except Failure (Option α)) :
    orElse (.ok (some a)) second = .ok (some a) := rfl

@[simp] theorem orElse_none {α : Type} (second : Unit → Except Failure (Option α)) :
    orElse (.ok none) second = second () := rfl

@[simp] theorem orElse_error {α : Type} (f : Failure) (second : Unit → Except Failure (Option α)) :
    orElse (.error f) second = .error f := rfl

theorem orElse_eq_ok_some {α : Type} {first : Except Failure (Option α)}
    {second : Unit → Except Failure (Option α)} {a : α} :
    orElse first second = .ok (some a) ↔
      first = .ok (some a) ∨ (first = .ok none ∧ second () = .ok (some a)) := by
  rcases first with f | (_ | b) <;> simp [eq_comm]

theorem orElse_isOk {α : Type} {first : Except Failure (Option α)}
    {second : Unit → Except Failure (Option α)} (hfirst : ∃ a, first = .ok a)
    (hsecond : ∃ b, second () = .ok b) : ∃ result, orElse first second = .ok result := by
  obtain ⟨_ | a, rfl⟩ := hfirst
  · exact hsecond
  · exact ⟨_, rfl⟩

end Solido
