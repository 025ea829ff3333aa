import Switchboard.Proofs.Broadcast

/-!
# The two strategies

A broadcast that stops at the first failure and one that goes on are the same
up to that failure. `strategies_agree` compares the two from the same world:
what the first one reports is the beginning of what the second one reports,
they succeed together, and the failure at which the first one stops is the
first one that the second one lists.

The deliveries of the longer broadcast are split at its first failure
(`Delivered.split_failure`); the shorter one makes the first part of them and
ends with the delivery that failed.
-/

namespace Switchboard

variable {σ ρ ν : Type} [Requests ρ] [Messages ν]

theorem Trace.journal_prefix {t t' : Trace} (h : t <+: t') : t.journal <+: t'.journal :=
  h.filterMap _

theorem Delivery.reports_failed {n : ν} {index : Nat} {f : Failure} {after : World σ} {t : Trace} :
    reports n ⟨index, .error f, after, t⟩ = t ++ [warning n ⟨index, f⟩] := rfl

namespace Mediator

/-- The same mediator with another strategy. -/
def withStrategy (m : Mediator σ ρ ν) (strategy : PublishStrategy) : Mediator σ ρ ν :=
  { m with config := { m.config with strategy } }

variable {m : Mediator σ ρ ν} {n : ν} {event : Body n} {signal : Signal} {index : Nat}
  {ran : List (Listener σ n)} {w w' : World σ} {ds : List (Delivery σ)}

/-- How a single delivery goes does not depend on the strategy. -/
theorem Delivered.exchange {strategy : PublishStrategy} (other : PublishStrategy)
    (h : (m.withStrategy strategy).Delivered n event signal index ran w ds w') :
    (m.withStrategy other).Delivered n event signal index ran w ds w' := by
  induction h with
  | none index w => exact .none index w
  | next hopen hrun _ ih => exact .next hopen hrun ih

/-- Deliveries with a failure among them, split at the first one. -/
theorem Delivered.split_failure (h : m.Delivered n event signal index ran w ds w')
    {failed : HandlerFailure} {others : List HandlerFailure}
    (hfailed : failures ds = failed :: others) :
    ∃ before listener after ds₁ ds₂ w₁ w₂ t, ran = before ++ listener :: after ∧
      ds = ds₁ ++ ⟨failed.index, .error failed.failure, w₂, t⟩ :: ds₂ ∧
      m.Delivered n event signal index before w ds₁ w₁ ∧ failures ds₁ = [] ∧
      before.length + index = failed.index ∧ w₁.sources.isCancelled signal = false ∧
      (m.deliver n event signal failed.index listener).run w₁ =
        ⟨.value (.error failed.failure), w₂, t⟩ := by
  induction h with
  | none index w => cases hfailed
  | @next index listener rest w w₁ w' o t ds hopen hrun hrest ih =>
      cases o with
      | error f =>
          rw [failures_cons_error rfl] at hfailed
          cases hfailed
          exact ⟨[], listener, rest, [], ds, w, w₁, t, rfl, rfl, .none index w, rfl,
            Nat.zero_add index, hopen, hrun⟩
      | ok _ =>
          rw [failures_cons_ok rfl] at hfailed
          obtain ⟨before, failing, after, ds₁, ds₂, v, v', t', rfl, rfl, hds, hnone, hindex, hv,
            hfailing⟩ := ih hfailed
          refine ⟨listener :: before, failing, after, ⟨index, .ok (), w₁, t⟩ :: ds₁, ds₂, v, v', t',
            rfl, rfl, .next hopen hrun hds, ?_, ?_, hv, hfailing⟩
          · rw [failures_cons_ok rfl]
            exact hnone
          · rw [List.length_cons, ← hindex]
            omega

/-- Without a failure among the deliveries, a broadcast makes all of them
under either strategy. -/
theorem run_broadcast_faultless (hds : m.Delivered n event signal 0 ran w ds w')
    (hnone : failures ds = []) :
    (m.broadcast n event signal 0 [] ran).run w =
      ⟨.value (.ok ()), w', ds.flatMap (Delivery.reports n)⟩ := by
  rw [← List.append_nil ran, run_broadcast_delivered hds fun _ => hnone, hnone]
  simp [broadcast]

/-- With a failure among the deliveries, a broadcast that stops makes those up
to the first one that failed. -/
theorem run_broadcast_stopping (hds : m.Delivered n event signal 0 ran w ds w')
    (hstrategy : m.config.strategy = .stopOnFirstError) {failed : HandlerFailure}
    {others : List HandlerFailure} (hfailed : failures ds = failed :: others) :
    ∃ w₁ t, (m.broadcast n event signal 0 [] ran).run w =
        ⟨.value (.error (.notificationFailed (Messages.name n) failed)), w₁, t⟩ ∧
      t <+: ds.flatMap (Delivery.reports n) := by
  obtain ⟨before, listener, after, ds₁, ds₂, w₁, w₂, t, rfl, rfl, hds₁, hnone, hindex, hopen,
    hfailing⟩ := hds.split_failure hfailed
  refine ⟨w₂, ds₁.flatMap (Delivery.reports n) ++ (t ++ [Delivery.warning n failed]), ?_, ?_⟩
  · rw [run_broadcast_delivered hds₁ (fun _ => hnone), hnone, List.append_nil, hindex,
      run_broadcast_error hopen hfailing, hstrategy]
    rfl
  · rw [List.flatMap_append, List.flatMap_cons, Delivery.reports_failed]
    exact (List.prefix_append_right_inj _).mpr (List.prefix_append _ _)

/-- Two broadcasts of a notification from the same world, one of a mediator
that stops at the first failure and one of a mediator that goes on, where the
second one does not panic and its signal is not cancelled. Then the first one
does not panic either, and it reports the same up to where it ends. Both succeed
or neither does, and if they do, they leave the same world. The first one stops
at a failure just if that is the first one in the answer of the second. -/
theorem strategies_agree {m : Mediator σ ρ ν} {n : ν} {event : Body n} {signal : Signal}
    {w w' : World σ} {all : Except DispatchError Unit} {t : Trace}
    (hall : ((m.withStrategy .continueOnError).publish n event signal).run w =
      ⟨.value all, w', t⟩)
    (hopen : w'.sources.isCancelled signal = false) :
    ∃ first w₁ t₁, ((m.withStrategy .stopOnFirstError).publish n event signal).run w =
        ⟨.value first, w₁, t₁⟩ ∧
      t₁ <+: t ∧ t₁.journal <+: t.journal ∧
      (first = .ok () ↔ all = .ok ()) ∧
      (first = .ok () → t₁ = t ∧ t₁.journal = t.journal ∧ w₁ = w') ∧
      ∀ i f, first = .error (.notificationFailed (Messages.name n) ⟨i, f⟩) ↔
        ∃ others, all = .error (.notificationsFailed (Messages.name n) (⟨i, f⟩ :: others)) := by
  obtain ⟨listeners, w₀, t₀, t₁, hlisteners, hbroadcast, rfl⟩ := publish_eq_value hall
  obtain ⟨ran, rest, ds, t₂, rfl, hds, hended, rfl⟩ := broadcast_cases hbroadcast
  cases hended with
  | stopped hstrategy => cases hstrategy
  | cancelled hcancelled => cases hopen.symm.trans hcancelled
  | completed _ =>
      have hstops := hds.exchange .stopOnFirstError
      rw [List.append_nil] at hlisteners
      rw [List.append_nil, List.append_nil, List.nil_append]
      have hpublish : ((m.withStrategy .stopOnFirstError).publish n event signal).run w = _ :=
        run_publish hlisteners
      cases hfailures : failures ds with
      | nil =>
          rw [run_broadcast_faultless hstops hfailures] at hpublish
          refine ⟨_, _, _, hpublish, List.prefix_rfl, List.prefix_rfl, ?_, ?_, ?_⟩
          · simp
          · exact fun _ => ⟨rfl, rfl, rfl⟩
          · simp
      | cons failed others =>
          obtain ⟨w₁, t, hrun, hprefix⟩ := run_broadcast_stopping hstops rfl hfailures
          rw [hrun] at hpublish
          have hreported : t₀ ++ [opened n ran.length] ++ t <+:
              t₀ ++ [opened n ran.length] ++ ds.flatMap (Delivery.reports n) :=
            (List.prefix_append_right_inj _).mpr hprefix
          refine ⟨_, _, _, hpublish, hreported, Trace.journal_prefix hreported, ?_, ?_, ?_⟩
          · simp [broadcastResult]
          · intro hok
            cases hok
          · simp [broadcastResult]

/-- Counts what is delivered to it, and fails from the second time on. -/
def tiring {M : Type} (name : String) : Handler Nat M Unit := fun _ _ => do
  let count ← Action.state
  Action.setState (count + 1)
  Action.record name
  return if count = 0 then .ok () else .error ⟨count, .conflict "tired"⟩

theorem tiring_listeners_agree :
    let r : Registry Nat Empty Catalog.Notification := .ofList [
      .listener .deleted (.singleton (tiring "first")),
      .listener .deleted (.factory (do Action.record "build second"; return tiring "second")),
      .listener .deleted (.singleton (tiring "third")),
      .listenerInterceptor .deleted (.singleton (.recording "around"))]
    let m : Mediator Nat Empty Catalog.Notification := ⟨r.lookup, {}⟩
    let run (strategy : PublishStrategy) :=
      ((m.withStrategy strategy).publish .deleted (⟨⟨7⟩⟩ : Catalog.ItemDeleted) .never).run
        { state := 0 }
    (run .continueOnError).world.sources.isCancelled .never = false ∧
      (run .continueOnError).exit = .value (.error (.notificationsFailed "ItemDeleted"
        [⟨1, 1, .conflict "tired"⟩, ⟨2, 2, .conflict "tired"⟩])) ∧
      (run .stopOnFirstError).trace.journal <+: ["build second", "around-before", "first",
        "around-after", "around-before", "second", "around-after", "around-before", "third",
        "around-after"] ∧
      (run .stopOnFirstError).exit = .value (.error (.notificationFailed "ItemDeleted"
        ⟨1, 1, .conflict "tired"⟩)) := by
  intro r m run
  have hall : run .continueOnError = ⟨.value (.error (.notificationsFailed "ItemDeleted"
      [⟨1, 1, .conflict "tired"⟩, ⟨2, 2, .conflict "tired"⟩])), (run .continueOnError).world,
    (run .continueOnError).trace⟩ := rfl
  obtain ⟨first, w₁, t₁, hfirst, -, hjournal, -, -, hstopped⟩ := strategies_agree hall rfl
  obtain rfl := (hstopped 1 ⟨1, .conflict "tired"⟩).mpr ⟨_, rfl⟩
  have hstops : run .stopOnFirstError = ⟨_, w₁, t₁⟩ := hfirst
  rw [hstops]
  exact ⟨rfl, rfl, hjournal, rfl⟩

end Mediator

end Switchboard
