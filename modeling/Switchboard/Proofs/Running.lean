import Switchboard.Proofs.Evaluation

/-!
# Runs with their trace

Where a theorem speaks of what was reported, or of the order in which things
ran, the trace has to be kept. A sequence that ended with a value is taken
apart by `run_bind_eq_value` and put together by `run_bind_of_value`; in
between, every step is an equation of the form `a.run w = ⟨exit, w', trace⟩`.

Cancellation is never lifted in any of the worlds that a run comes through
(`worlds_cancelled`), so that a run whose signal is never cancelled is one at
whose end it is not cancelled (`isCancelled_run`).
-/

namespace Switchboard

variable {σ α β : Type}

/-! ## Sequencing -/

@[simp] theorem Run.after_nil (r : Run σ α) : r.after [] = r := rfl

@[simp] theorem Run.after_mk (before : Trace) (exit : Exit α) (w : World σ) (t : Trace) :
    Run.after before ⟨exit, w, t⟩ = ⟨exit, w, before ++ t⟩ := rfl

@[simp] theorem Run.after_after (first second : Trace) (r : Run σ α) :
    (r.after second).after first = r.after (first ++ second) := by
  simp [Run.after]

theorem Run.after_eq {before t : Trace} {r : Run σ α} {exit : Exit α} {w : World σ} :
    r.after before = ⟨exit, w, t⟩ ↔ ∃ t', r = ⟨exit, w, t'⟩ ∧ t = before ++ t' := by
  constructor
  · intro h
    cases h
    exact ⟨r.trace, rfl, rfl⟩
  · rintro ⟨t', rfl, rfl⟩
    rfl

namespace Action

theorem eval_eq_iff {a : Action σ α} {w w' : World σ} {exit : Exit α} :
    a.eval w = (exit, w') ↔ ∃ t, a.run w = ⟨exit, w', t⟩ := by
  constructor
  · intro h
    cases h
    exact ⟨(a.run w).trace, rfl⟩
  · rintro ⟨t, h⟩
    rw [eval, h]

@[simp] theorem run_pure (x : α) (w : World σ) :
    (pure x : Action σ α).run w = ⟨.value x, w, []⟩ := rfl

theorem run_bind_of_value {a : Action σ α} {w w' : World σ} {x : α} {t : Trace}
    (h : a.run w = ⟨.value x, w', t⟩) (f : α → Action σ β) :
    (a >>= f).run w = ((f x).run w').after t := by
  have hrun : (a >>= f).run w = (a.run w).andThen f := run_bind a f w
  rw [hrun, h]
  rfl

theorem run_bind_of_panic {a : Action σ α} {w w' : World σ} {p : Panic} {t : Trace}
    (h : a.run w = ⟨.panicked p, w', t⟩) (f : α → Action σ β) :
    (a >>= f).run w = ⟨.panicked p, w', t⟩ := by
  have hrun : (a >>= f).run w = (a.run w).andThen f := run_bind a f w
  rw [hrun, h]
  rfl

/-- A sequence ends with a value just if both of its parts do, the second one
in the world that the first one left. -/
theorem run_bind_eq_value {a : Action σ α} {f : α → Action σ β} {w w' : World σ} {y : β}
    {t : Trace} :
    (a >>= f).run w = ⟨.value y, w', t⟩ ↔
      ∃ x w₁ t₁ t₂, a.run w = ⟨.value x, w₁, t₁⟩ ∧ (f x).run w₁ = ⟨.value y, w', t₂⟩ ∧
        t = t₁ ++ t₂ := by
  constructor
  · intro h
    rcases ha : a.run w with ⟨exit, w₁, t₁⟩
    cases exit with
    | panicked p =>
        rw [run_bind_of_panic ha] at h
        cases h
    | value x =>
        rw [run_bind_of_value ha] at h
        obtain ⟨t₂, hf, rfl⟩ := Run.after_eq.mp h
        exact ⟨x, w₁, t₁, t₂, rfl, hf, rfl⟩
  · rintro ⟨x, w₁, t₁, t₂, ha, hf, rfl⟩
    rw [run_bind_of_value ha, hf]
    rfl

/-- A change of the value is a change of how the run ends, and no more. -/
theorem run_map (f : α → β) (a : Action σ α) (w : World σ) :
    (f <$> a).run w = ⟨(a.run w).exit.map f, (a.run w).world, (a.run w).trace⟩ := by
  rcases ha : a.run w with ⟨exit, w', t⟩
  rw [map_eq_pure_bind]
  cases exit with
  | value x =>
      rw [run_bind_of_value ha, run_pure, Run.after_mk, List.append_nil]
      rfl
  | panicked p => exact run_bind_of_panic ha _

/-- In a span a run ends the same way; only its events show the span. -/
theorem run_within_eq {span : Span} {a : Action σ α} {w w' : World σ} {exit : Exit α} {t : Trace} :
    (a.within span).run w = ⟨exit, w', t⟩ ↔
      ∃ t', a.run w = ⟨exit, w', t'⟩ ∧ t = t'.map (Report.inside span) := by
  rw [run_within]
  constructor
  · intro h
    cases h
    exact ⟨(a.run w).trace, rfl, rfl⟩
  · rintro ⟨t', ha, rfl⟩
    rw [ha]

/-! ## Single steps -/

@[simp] theorem run_log_bind (level : Level) (message : String) (fields : List Field)
    (f : Unit → Action σ β) (w : World σ) :
    (log level message fields >>= f).run w =
      ((f ()).run w).after [.event { level, message, fields }] := rfl

@[simp] theorem run_isCancelled_bind (signal : Signal) (f : Bool → Action σ β) (w : World σ) :
    (isCancelled signal >>= f).run w = (f (w.sources.isCancelled signal)).run w := rfl

end Action

/-! ## The worlds of a run -/

/-- The worlds that a run comes through, from the one in which it starts to the
one that it leaves. -/
def Action.worlds : Action σ α → World σ → List (World σ)
  | done _, w => [w]
  | panic _, w => [w]
  | report _ rest, w => w :: rest.worlds w
  | get rest, w => w :: (rest w.state).worlds w
  | put s rest, w => w :: rest.worlds { w with state := s }
  | make c rest, w => w :: (rest ⟨w.nextMark, c⟩).worlds { w with nextMark := w.nextMark + 1 }
  | observe sig rest, w => w :: (rest (w.sources.isCancelled sig)).worlds w
  | cancel id rest, w => w :: rest.worlds { w with sources := w.sources.cancel id }
  | drop id rest, w => w :: rest.worlds { w with sources := w.sources.drop id }
  | suspend rest, w => w :: rest.worlds w

theorem Action.worlds_eq_cons (a : Action σ α) (w : World σ) :
    ∃ later, a.worlds w = w :: later := by
  cases a <;> exact ⟨_, rfl⟩

theorem Action.getLast?_worlds (a : Action σ α) (w : World σ) :
    (a.worlds w).getLast? = some (a.run w).world := by
  have hcons {w v : World σ} {later : List (World σ)} (h : later.getLast? = some v) :
      (w :: later).getLast? = some v := by
    rw [List.getLast?_cons, h]
    rfl
  induction a generalizing w with
  | done _ => rfl
  | panic _ => rfl
  | report _ _ ih | get _ ih | put _ _ ih | make _ _ ih | observe _ _ ih | cancel _ _ ih
  | drop _ _ ih | suspend _ ih => exact hcons (ih ..)

/-! ## Cancellation stays -/

theorem Source.cancelled_cancel {s : Source} (h : s.cancelled = true) :
    s.cancel.cancelled = true := by
  unfold Source.cancel
  split
  · exact h
  · rfl

theorem Sources.isCancelled_modify (change : Source → Source)
    (hchange : ∀ s, s.cancelled = true → (change s).cancelled = true) (id : SourceId)
    {sources : Sources} {signal : Signal} (h : sources.isCancelled signal = true) :
    Sources.isCancelled (sources.modify id change) signal = true := by
  cases signal with
  | never => cases h
  | source i =>
      simp only [Sources.isCancelled, List.getElem?_modify] at h ⊢
      cases hs : sources[i]? with
      | none =>
          rw [hs] at h
          cases h
      | some s =>
          rw [hs] at h
          by_cases hid : id = i
          · simpa [hid] using hchange s h
          · simpa [hid] using h

/-- If cancellation has been requested in the first world, it has in the second. -/
def StaysCancelled (signal : Signal) (w w' : World σ) : Prop :=
  w.sources.isCancelled signal = true → w'.sources.isCancelled signal = true

/-- A step before a run in which nothing lifts the cancellation. -/
theorem StaysCancelled.before {signal : Signal} {w w' : World σ}
    (hstep : StaysCancelled signal w w') {rest : Action σ α}
    (hrest : (rest.worlds w').Pairwise (StaysCancelled signal)) :
    (w :: rest.worlds w').Pairwise (StaysCancelled signal) := by
  refine .cons (fun v hv hw => ?_) hrest
  obtain ⟨later, hworlds⟩ := rest.worlds_eq_cons w'
  rw [hworlds] at hrest hv
  rcases List.mem_cons.mp hv with rfl | hlater
  · exact hstep hw
  · exact List.rel_of_pairwise_cons hrest hlater (hstep hw)

/-- Nothing in a run lifts a cancellation. -/
theorem Action.worlds_cancelled (signal : Signal) (a : Action σ α) (w : World σ) :
    (a.worlds w).Pairwise (StaysCancelled signal) := by
  induction a generalizing w with
  | done _ => exact List.pairwise_singleton _ _
  | panic _ => exact List.pairwise_singleton _ _
  | cancel id _ ih =>
      refine StaysCancelled.before ?_ (ih _)
      exact Sources.isCancelled_modify Source.cancel (fun _ => Source.cancelled_cancel) id
  | drop id _ ih =>
      refine StaysCancelled.before ?_ (ih _)
      exact Sources.isCancelled_modify Source.drop (fun _ hs => hs) id
  | report _ _ ih | get _ ih | put _ _ ih | make _ _ ih | observe _ _ ih | suspend _ ih =>
      refine StaysCancelled.before ?_ (ih ..)
      exact fun h => h

/-- Whatever an action does, a signal that is cancelled stays cancelled. One
that is not cancelled when a run ends was not cancelled at any point of it. -/
theorem Action.isCancelled_run {signal : Signal} (a : Action σ α) {w : World σ}
    (h : w.sources.isCancelled signal = true) :
    (a.run w).world.sources.isCancelled signal = true := by
  have hended : (a.run w).world ∈ a.worlds w := List.mem_of_getLast? (a.getLast?_worlds w)
  have hstays := a.worlds_cancelled signal w
  obtain ⟨later, hworlds⟩ := a.worlds_eq_cons w
  rw [hworlds] at hended hstays
  rcases List.mem_cons.mp hended with hsame | hlater
  · rw [hsame]
    exact h
  · exact List.rel_of_pairwise_cons hstays hlater h

theorem Action.isCancelled_of_run {signal : Signal} {a : Action σ α} {w w' : World σ}
    {exit : Exit α} {t : Trace} (hrun : a.run w = ⟨exit, w', t⟩)
    (h : w.sources.isCancelled signal = true) : w'.sources.isCancelled signal = true := by
  have hended := a.isCancelled_run h
  rw [hrun] at hended
  exact hended

theorem Action.open_of_run {signal : Signal} (a : Action σ α) {w : World σ}
    (h : (a.run w).world.sources.isCancelled signal = false) :
    w.sources.isCancelled signal = false := by
  cases hw : w.sources.isCancelled signal with
  | false => rfl
  | true => cases h.symm.trans (a.isCancelled_run hw)

end Switchboard
