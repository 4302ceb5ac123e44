import Solido.Metrics

namespace Solido

/-! `write_prometheus` on the writer it is given. Each `write_metric(out, ..)?` writes one family
after those already written, or hands back the writer's `io::Error`; the panics of the function
come between the writes, so what was written before a panic stays written but is not returned. -/

/-- An `io::Error` of the writer, by its text. -/
structure IoError where
  message : String
  deriving DecidableEq, Repr

/-- The `io::Write` that `write_prometheus` writes to, as `write_metric` sees it: given what was
written before, writing one more family either succeeds or fails with an `io::Error`. What a
failed `write_metric` wrote of its family is left out. -/
abbrev MetricSink := List MetricFamily → MetricFamily → Option IoError

/-- What `write_prometheus` runs in: an `io::Result` over the families written so far, under the
panics of the program. -/
abbrev WriteM := ExceptT IoError (StateT (List MetricFamily) (Except Failure))

/-- `write_metric`: the family is written after the others, or the writer's error is returned. -/
def writeMetric (sink : MetricSink) (family : MetricFamily) : WriteM Unit :=
  ExceptT.mk fun written => match sink written family with
    | some e => pure (.error e, written)
    | none => pure (.ok (), written ++ [family])

/-- The families written one after another until the writer fails: whether it failed, and all
that was written. -/
def writeAll (sink : MetricSink) (written : List MetricFamily) :
    List MetricFamily → Except IoError Unit × List MetricFamily
  | [] => (.ok (), written)
  | family :: families =>
      match sink written family with
      | some e => (.error e, written)
      | none => writeAll sink (written ++ [family]) families

/-- Whether the writer accepts each of the families, after those before it. -/
def accepts (sink : MetricSink) (written : List MetricFamily) : List MetricFamily → Bool
  | [] => true
  | family :: families => (sink written family).isNone && accepts sink (written ++ [family]) families

/-- `write_prometheus`, writing to `sink`: each family as soon as it is built, so that the
underflow of the previous epoch comes after the first four and the loop's panic after the
maintainers' balances. -/
def SolidoState.writePrometheusTo (sink : MetricSink) (s : SolidoState) (input : MetricsInput) :
    WriteM Unit := do
  s.headerFamilies.forM (writeMetric sink)
  let previousEpoch ← subU64 s.clock.epoch 1
  (s.stakeSolFamilies previousEpoch).forM (writeMetric sink)
  writeMetric sink s.maintainerBalanceFamily
  let metrics ← (s.metricsRows.foldlM (pushValidatorMetrics input) s.initialValidatorMetrics :
    Except Failure ValidatorMetrics)
  (s.familiesAfterLoop input metrics).forM (writeMetric sink)
  input.solidoMetrics.forM (writeMetric sink)

/-! Runs of the writer, from what was already written. -/

section Runs

variable (sink : MetricSink)

theorem WriteM.run_bind {α β : Type} (x : WriteM α) (f : α → WriteM β)
    (written : List MetricFamily) :
    (x >>= f).run.run written = x.run.run written >>= fun
      | (.ok a, written) => (f a).run.run written
      | (.error e, written) => .ok (.error e, written) := by
  simp only [ExceptT.run_bind, StateT.run_bind]
  congr 1
  funext ⟨r, w⟩
  cases r <;> rfl

theorem WriteM.run_lift_bind {α β : Type} (x : Except Failure α) (f : α → WriteM β)
    (written : List MetricFamily) :
    ((monadLift x : WriteM α) >>= f).run.run written = x >>= fun a => (f a).run.run written := by
  rw [WriteM.run_bind]
  cases x <;> rfl

theorem WriteM.lift_ok {α : Type} (a : α) :
    (monadLift (Except.ok a : Except Failure α) : WriteM α) = pure a := rfl

theorem writeMetric_run (family : MetricFamily) (written : List MetricFamily) :
    (writeMetric sink family).run.run written = .ok (writeAll sink written [family]) := by
  cases h : sink written family <;>
    simp only [writeMetric, writeAll, ExceptT.run_mk, StateT.run, h] <;> rfl

theorem forM_writeMetric_run :
    ∀ (families written : List MetricFamily),
      (families.forM (writeMetric sink)).run.run written = .ok (writeAll sink written families)
  | [], written => rfl
  | family :: families, written => by
      rw [List.forM_cons', WriteM.run_bind, writeMetric_run]
      cases h : sink written family <;>
        simp only [writeAll, h, ok_bind, forM_writeMetric_run families]

theorem forM_writeMetric_bind_run {β : Type} (families : List MetricFamily)
    (f : PUnit → WriteM β) (written : List MetricFamily) :
    (families.forM (writeMetric sink) >>= f).run.run written =
      match writeAll sink written families with
      | (.ok (), written) => (f ⟨⟩).run.run written
      | (.error e, written) => .ok (.error e, written) := by
  rw [WriteM.run_bind, forM_writeMetric_run, ok_bind]
  rcases writeAll sink written families with ⟨_ | ⟨⟩, _⟩ <;> rfl

theorem writeMetric_bind_run {β : Type} (family : MetricFamily) (f : Unit → WriteM β)
    (written : List MetricFamily) :
    (writeMetric sink family >>= f).run.run written =
      match writeAll sink written [family] with
      | (.ok (), written) => (f ()).run.run written
      | (.error e, written) => .ok (.error e, written) := by
  rw [WriteM.run_bind, writeMetric_run, ok_bind]
  rcases writeAll sink written [family] with ⟨_ | ⟨⟩, _⟩ <;> rfl

/-- A run of writes either writes every family, each accepted after those before it, or stops at
the first the writer refuses, with its error and only the families before it written. -/
theorem writeAll_cases : ∀ (written families : List MetricFamily),
    writeAll sink written families = (.ok (), written ++ families) ∧
        accepts sink written families = true ∨
      ∃ front family back e, families = front ++ family :: back ∧
        accepts sink written front = true ∧ sink (written ++ front) family = some e ∧
        writeAll sink written families = (.error e, written ++ front)
  | written, [] => .inl ⟨by simp [writeAll], rfl⟩
  | written, family :: families => by
      cases hsink : sink written family with
      | some e => exact .inr ⟨[], family, families, e, rfl, rfl, by simpa using hsink,
          by simp [writeAll, hsink]⟩
      | none =>
          rcases writeAll_cases (written ++ [family]) families with
            ⟨hall, haccepts⟩ | ⟨front, next, back, e, rfl, haccepts, hnext, hall⟩
          · exact .inl ⟨by simp [writeAll, hsink, hall], by simp [accepts, hsink, haccepts]⟩
          · exact .inr ⟨family :: front, next, back, e, rfl, by simp [accepts, hsink, haccepts],
              by simpa using hnext, by simp [writeAll, hsink, hall]⟩

theorem writeAll_of_accepting (haccepts : ∀ written family, sink written family = none) :
    ∀ (written families : List MetricFamily),
      writeAll sink written families = (.ok (), written ++ families)
  | written, [] => by simp [writeAll]
  | written, family :: families => by
      simp [writeAll, haccepts, writeAll_of_accepting haccepts _ families]

end Runs

namespace SolidoState

variable {s : SolidoState} {input : MetricsInput} (sink : MetricSink)

/-- Once neither panic happens, `write_prometheus` is the writing of the families of
`prometheusFamilies`, one after another. -/
theorem writePrometheusTo_eq_forM {previousEpoch : Nat} {metrics : ValidatorMetrics}
    (hprevious : subU64 s.clock.epoch 1 = .ok previousEpoch)
    (hmetrics : s.metricsRows.foldlM (pushValidatorMetrics input) s.initialValidatorMetrics =
      .ok metrics) :
    s.writePrometheusTo sink input =
      (s.prometheusFamilies input (s.stakeSolFamilies previousEpoch) metrics).forM
        (writeMetric sink) := by
  simp only [writePrometheusTo, hprevious, hmetrics, liftM, WriteM.lift_ok, pure_bind,
    prometheusFamilies, List.forM_append, List.forM_cons', bind_assoc]

/-- With a writer that never fails, `write_prometheus` writes, after what was written before,
exactly the families of `writePrometheus`, and panics where it does. -/
theorem writePrometheusTo_of_accepting (haccepts : ∀ written family, sink written family = none)
    (written : List MetricFamily) :
    (s.writePrometheusTo sink input).run.run written =
      (fun families => (.ok (), written ++ families)) <$> s.writePrometheus input := by
  rcases hprevious : subU64 s.clock.epoch 1 with failure | previousEpoch
  · simp only [writePrometheusTo, writePrometheus, hprevious, forM_writeMetric_bind_run,
      WriteM.run_lift_bind, writeAll_of_accepting sink haccepts, error_bind]
    rfl
  rcases hmetrics : s.metricsRows.foldlM (pushValidatorMetrics input) s.initialValidatorMetrics
    with failure | metrics
  · simp only [writePrometheusTo, writePrometheus, hprevious, hmetrics, forM_writeMetric_bind_run,
      writeMetric_bind_run, WriteM.run_lift_bind, liftM, writeAll_of_accepting sink haccepts,
      ok_bind, error_bind]
    rfl
  · rw [writePrometheusTo_eq_forM sink hprevious hmetrics, forM_writeMetric_run,
      writeAll_of_accepting sink haccepts]
    simp [writePrometheus, hprevious, hmetrics]

/-- A writer that breaks after the first four families: the stake of epoch 0 is refused, and
only the families of the clock and the schedule are written. -/
example : (listedSnapshot.writePrometheusTo
    (fun written _ => if written.length < 4 then none else some ⟨"Broken pipe"⟩) listedInput).run.run
      [] = .ok (.error ⟨"Broken pipe"⟩, listedSnapshot.headerFamilies) := rfl

end SolidoState

end Solido
