import Switchboard.Mediator
import Switchboard.Proofs.Running

/-!
# Deliveries

A broadcast delivers to its listeners one after the other. `Delivered` is a
number of such deliveries in a row, each started in the world that the one
before it left, and `Concluded` is how a broadcast can end after them: nobody
is left, a failure stopped it, or the signal was found cancelled.

- `broadcast_cases`: every broadcast that ends is made up of these two;
- `run_broadcast_delivered`: deliveries that do not end a broadcast are made,
  and then it goes on with the listeners that are left.
-/

namespace Switchboard

variable {σ ρ ν : Type} [Requests ρ] [Messages ν]

/-! ## Deliveries -/

/-- A delivery that was made: the number of the listener, and the outcome with
which its chain ended. -/
structure Delivery (σ : Type) where
  index : Nat
  outcome : Outcome Unit
  after : World σ
  trace : Trace

namespace Delivery

def failure? (d : Delivery σ) : Option HandlerFailure :=
  match d.outcome with
  | .ok () => none
  | .error f => some ⟨d.index, f⟩

theorem failure?_eq_some {d : Delivery σ} {failed : HandlerFailure} :
    d.failure? = some failed ↔ d.index = failed.index ∧ d.outcome = .error failed.failure := by
  obtain ⟨index, outcome, after, trace⟩ := d
  obtain ⟨i, f⟩ := failed
  cases outcome <;> simp [failure?]

/-- The warning of the mediator about a listener that failed. -/
def warning (n : ν) (failed : HandlerFailure) : Report :=
  .event {
    level := .warn
    message := "Notification handler failed"
    fields := [(Topic.notification n).field,
      ("handler_index", Decimal.format failed.index), ("error", failed.failure.format)] }

/-- What the chain reported, and then the mediator of the chain. -/
def reports (n : ν) (d : Delivery σ) : Trace :=
  d.trace ++ (d.failure?.map (warning n)).toList

end Delivery

/-- The listeners that failed, in the order of delivery. -/
def failures (ds : List (Delivery σ)) : List HandlerFailure :=
  ds.filterMap Delivery.failure?

theorem failures_cons_ok {d : Delivery σ} (h : d.outcome = .ok ()) (ds : List (Delivery σ)) :
    failures (d :: ds) = failures ds := by
  simp [failures, Delivery.failure?, h]

theorem failures_cons_error {d : Delivery σ} {f : Failure} (h : d.outcome = .error f)
    (ds : List (Delivery σ)) : failures (d :: ds) = ⟨d.index, f⟩ :: failures ds := by
  simp [failures, Delivery.failure?, h]

namespace Mediator

variable (m : Mediator σ ρ ν) (n : ν) (event : Body n) (signal : Signal)

/-- Deliveries one after the other, from listener number `index` on: each chain
is started under a signal that is not cancelled, in the world that the one
before it left, and has ended when the next one is started. -/
inductive Delivered :
    (index : Nat) → List (Listener σ n) → World σ → List (Delivery σ) → World σ → Prop
  | none (index : Nat) (w : World σ) : Delivered index [] w [] w
  | next {index : Nat} {listener : Listener σ n} {rest : List (Listener σ n)}
      {w w₁ w' : World σ} {o : Outcome Unit} {t : Trace} {ds : List (Delivery σ)}
      (hopen : w.sources.isCancelled signal = false)
      (hrun : (m.deliver n event signal index listener).run w = ⟨.value o, w₁, t⟩)
      (hrest : Delivered (index + 1) rest w₁ ds w') :
      Delivered index (listener :: rest) w (⟨index, o, w₁, t⟩ :: ds) w'

/-- The event of a broadcast that was cancelled in front of a listener. -/
def skipped (index : Nat) : Report :=
  .event {
    level := .debug
    message := "Publish cancelled, skipping remaining handlers"
    fields := [(Topic.notification n).field, ("delivered", Decimal.format index)] }

/-- How a broadcast ends after the deliveries `ds`, with the listeners `rest`
left and `before` the failures of earlier ones: its answer and what it still
reports. -/
inductive Concluded (index : Nat) (before : List HandlerFailure) :
    List (Delivery σ) → List (Listener σ n) → World σ →
      Except DispatchError Unit → Trace → Prop
  | completed {ds : List (Delivery σ)} {w : World σ}
      (hok : m.config.strategy = .stopOnFirstError → failures ds = []) :
      Concluded index before ds [] w (broadcastResult n (before ++ failures ds)) []
  | stopped {ds : List (Delivery σ)} {rest : List (Listener σ n)} {w : World σ}
      {failed : HandlerFailure} (hstrategy : m.config.strategy = .stopOnFirstError)
      (hlast : ds.length + index = failed.index + 1) (hfailed : failures ds = [failed]) :
      Concluded index before ds rest w (.error (.notificationFailed (Messages.name n) failed)) []
  | cancelled {ds : List (Delivery σ)} {listener : Listener σ n} {rest : List (Listener σ n)}
      {w : World σ} {delivered : Nat} (hcancelled : w.sources.isCancelled signal = true)
      (hok : m.config.strategy = .stopOnFirstError → failures ds = [])
      (hdelivered : ds.length + index = delivered) :
      Concluded index before ds (listener :: rest) w
        (.error (.publishCancelled (Messages.name n) delivered)) [skipped n delivered]

theorem broadcastResult_append (n : ν) (before : List HandlerFailure) (failed : HandlerFailure) :
    broadcastResult n (before ++ [failed]) =
      .error (.notificationsFailed (Messages.name n) (before ++ [failed])) := by
  simp [broadcastResult]

variable {m n event signal}
variable {index : Nat} {before : List HandlerFailure} {listener : Listener σ n}
  {rest : List (Listener σ n)} {w w₁ : World σ} {t₁ : Trace} {f : Failure}

/-! ## One step of a broadcast -/

theorem run_broadcast_cancelled (h : w.sources.isCancelled signal = true) :
    (m.broadcast n event signal index before (listener :: rest)).run w =
      ⟨.value (.error (.publishCancelled (Messages.name n) index)), w, [skipped n index]⟩ := by
  simp only [broadcast, Action.run_isCancelled_bind, h, if_true, Action.run_log_bind]
  rfl

theorem run_broadcast_ok (hopen : w.sources.isCancelled signal = false)
    (hrun : (m.deliver n event signal index listener).run w = ⟨.value (.ok ()), w₁, t₁⟩) :
    (m.broadcast n event signal index before (listener :: rest)).run w =
      ((m.broadcast n event signal (index + 1) before rest).run w₁).after t₁ := by
  simp only [broadcast, Action.run_isCancelled_bind, hopen, Bool.false_eq_true, if_false,
    Action.run_bind_of_value hrun]

theorem run_broadcast_error (hopen : w.sources.isCancelled signal = false)
    (hrun : (m.deliver n event signal index listener).run w = ⟨.value (.error f), w₁, t₁⟩) :
    (m.broadcast n event signal index before (listener :: rest)).run w =
      match m.config.strategy with
      | .stopOnFirstError =>
        ⟨.value (.error (.notificationFailed (Messages.name n) ⟨index, f⟩)), w₁,
          t₁ ++ [Delivery.warning n ⟨index, f⟩]⟩
      | .continueOnError =>
        ((m.broadcast n event signal (index + 1) (before ++ [⟨index, f⟩]) rest).run w₁).after
          (t₁ ++ [Delivery.warning n ⟨index, f⟩]) := by
  simp only [broadcast, Action.run_isCancelled_bind, hopen, Bool.false_eq_true, if_false,
    Action.run_bind_of_value hrun, Action.run_log_bind]
  cases m.config.strategy with
  | stopOnFirstError => rfl
  | continueOnError => exact Run.after_after _ _ _

theorem run_broadcast_panicked {p : Panic} (hopen : w.sources.isCancelled signal = false)
    (hrun : (m.deliver n event signal index listener).run w = ⟨.panicked p, w₁, t₁⟩) :
    (m.broadcast n event signal index before (listener :: rest)).run w =
      ⟨.panicked p, w₁, t₁⟩ := by
  simp only [broadcast, Action.run_isCancelled_bind, hopen, Bool.false_eq_true, if_false]
  exact Action.run_bind_of_panic hrun _

/-! ## The whole broadcast -/

variable {ran : List (Listener σ n)} {d : Delivery σ} {ds : List (Delivery σ)} {w' : World σ}
  {result : Except DispatchError Unit} {t : Trace}

theorem Concluded.cons_ok (hd : d.outcome = .ok ())
    (h : m.Concluded n signal (index + 1) before ds rest w result t) :
    m.Concluded n signal index before (d :: ds) rest w result t := by
  have hfailures : failures (d :: ds) = failures ds := failures_cons_ok hd ds
  cases h with
  | completed hok =>
      rw [← hfailures] at hok ⊢
      exact .completed hok
  | stopped hstrategy hlast hfailed =>
      exact .stopped hstrategy (by rw [List.length_cons]; omega) (hfailures.trans hfailed)
  | cancelled hcancelled hok hdelivered =>
      rw [← hfailures] at hok
      exact .cancelled hcancelled hok (by rw [List.length_cons]; omega)

theorem Concluded.cons_error (hd : d.outcome = .error f)
    (hstrategy : m.config.strategy = .continueOnError)
    (h : m.Concluded n signal (index + 1) (before ++ [⟨d.index, f⟩]) ds rest w result t) :
    m.Concluded n signal index before (d :: ds) rest w result t := by
  have hfailures : before ++ [⟨d.index, f⟩] ++ failures ds = before ++ failures (d :: ds) := by
    rw [failures_cons_error hd, List.append_assoc, List.singleton_append]
  have hgo : m.config.strategy = .stopOnFirstError → failures (d :: ds) = [] := by
    rw [hstrategy]
    exact nofun
  cases h with
  | completed _ =>
      rw [hfailures]
      exact .completed hgo
  | stopped hstop =>
      rw [hstrategy] at hstop
      cases hstop
  | cancelled hcancelled _ hdelivered =>
      exact .cancelled hcancelled hgo (by rw [List.length_cons]; omega)

/-- A broadcast that ends has delivered to a first part of its listeners, and
then come to one of its three ends. -/
theorem broadcast_cases {listeners : List (Listener σ n)}
    (h : (m.broadcast n event signal index before listeners).run w = ⟨.value result, w', t⟩) :
    ∃ ran rest ds t', listeners = ran ++ rest ∧ m.Delivered n event signal index ran w ds w' ∧
      m.Concluded n signal index before ds rest w' result t' ∧
      t = ds.flatMap (Delivery.reports n) ++ t' := by
  induction listeners generalizing index before w t with
  | nil =>
      cases h
      have hended : m.Concluded n signal index before [] [] w'
          (broadcastResult n (before ++ failures [])) [] := .completed fun _ => rfl
      rw [failures, List.filterMap_nil, List.append_nil] at hended
      exact ⟨[], [], [], [], rfl, .none index w', hended, rfl⟩
  | cons listener rest ih =>
      cases hsig : w.sources.isCancelled signal with
      | true =>
          rw [run_broadcast_cancelled hsig] at h
          cases h
          exact ⟨[], listener :: rest, [], _, rfl, .none index w',
            .cancelled hsig (fun _ => rfl) (Nat.zero_add index), rfl⟩
      | false =>
          rcases hrun : (m.deliver n event signal index listener).run w with ⟨exit, w₁, t₁⟩
          cases exit with
          | panicked p =>
              rw [run_broadcast_panicked hsig hrun] at h
              cases h
          | value o =>
              cases o with
              | ok _ =>
                  rw [run_broadcast_ok hsig hrun] at h
                  obtain ⟨t₂, hrest, rfl⟩ := Run.after_eq.mp h
                  obtain ⟨ran, left, ds, t', rfl, hds, hended, rfl⟩ := ih hrest
                  refine ⟨listener :: ran, left, _, t', rfl, .next hsig hrun hds,
                    hended.cons_ok rfl, ?_⟩
                  simp [Delivery.reports, Delivery.failure?]
              | error f =>
                  rw [run_broadcast_error hsig hrun] at h
                  cases hstrategy : m.config.strategy with
                  | stopOnFirstError =>
                      rw [hstrategy] at h
                      cases h
                      refine ⟨[listener], rest, _, [], rfl, .next hsig hrun (.none _ _),
                        .stopped hstrategy (Nat.add_comm 1 index) rfl, ?_⟩
                      simp [Delivery.reports, Delivery.failure?]
                  | continueOnError =>
                      rw [hstrategy] at h
                      obtain ⟨t₂, hrest, rfl⟩ := Run.after_eq.mp h
                      obtain ⟨ran, left, ds, t', rfl, hds, hended, rfl⟩ := ih hrest
                      refine ⟨listener :: ran, left, _, t', rfl, .next hsig hrun hds,
                        hended.cons_error rfl hstrategy, ?_⟩
                      simp [Delivery.reports, Delivery.failure?]

/-- After deliveries that do not end it, a broadcast goes on with the
listeners that are left. -/
theorem run_broadcast_delivered (hds : m.Delivered n event signal index ran w ds w')
    (hok : m.config.strategy = .stopOnFirstError → failures ds = [])
    (rest : List (Listener σ n)) :
    (m.broadcast n event signal index before (ran ++ rest)).run w =
      ((m.broadcast n event signal (ran.length + index) (before ++ failures ds) rest).run w').after
        (ds.flatMap (Delivery.reports n)) := by
  induction hds generalizing before with
  | none index w =>
      rw [List.nil_append, failures, List.filterMap_nil, List.append_nil]
      simp
  | @next index listener ran w w₁ w' o t ds hopen hrun _ ih =>
      cases o with
      | ok _ =>
          rw [failures_cons_ok rfl] at hok ⊢
          rw [List.cons_append, run_broadcast_ok hopen hrun, ih hok]
          simp [Delivery.reports, Delivery.failure?, Nat.add_right_comm, Nat.add_assoc]
      | error f =>
          have hstrategy : m.config.strategy = .continueOnError := by
            cases h : m.config.strategy with
            | continueOnError => rfl
            | stopOnFirstError => cases hok h
          have hgo : m.config.strategy = .stopOnFirstError → failures ds = [] := by
            rw [hstrategy]
            exact nofun
          rw [List.cons_append, run_broadcast_error hopen hrun, hstrategy]
          simp only [ih hgo]
          rw [failures_cons_error rfl]
          simp [Delivery.reports, Delivery.failure?, Nat.add_right_comm, Nat.add_assoc]

namespace Delivered

theorem length_eq (h : m.Delivered n event signal index ran w ds w') :
    ds.length = ran.length := by
  induction h with
  | none => rfl
  | next _ _ _ ih => rw [List.length_cons, List.length_cons, ih]

theorem map_index (h : m.Delivered n event signal index ran w ds w') :
    ds.map Delivery.index = List.range' index ds.length := by
  induction h with
  | none => rfl
  | next _ _ _ ih => rw [List.map_cons, List.length_cons, List.range'_succ, ih]

theorem index_eq (h : m.Delivered n event signal index ran w ds w') {i : Nat}
    (hd : ds[i]? = some d) : d.index = index + i := by
  have hmap : (ds.map Delivery.index)[i]? = some d.index := by rw [List.getElem?_map, hd]; rfl
  have hlt : i < ds.length := (List.getElem?_eq_some_iff.mp hd).1
  rw [h.map_index, List.getElem?_range' hlt, Nat.one_mul] at hmap
  exact (Option.some.inj hmap).symm

/-- Failures are listed by ascending number of the listener. -/
theorem failures_ascending (h : m.Delivered n event signal index ran w ds w') :
    (failures ds).Pairwise fun a b => a.index < b.index := by
  have hds : ds.Pairwise fun a b => a.index < b.index := by
    rw [← List.pairwise_map, h.map_index]
    exact List.pairwise_lt_range'
  refine List.Pairwise.filterMap _ ?_ hds
  intro a b hab failed ha failed' hb
  rw [← (Delivery.failure?_eq_some.mp ha).1, ← (Delivery.failure?_eq_some.mp hb).1]
  exact hab

/-- The failures are those of the chains that failed, each under the number of
its listener. -/
theorem mem_failures (h : m.Delivered n event signal 0 ran w ds w') {i : Nat} {f : Failure} :
    ⟨i, f⟩ ∈ failures ds ↔ ∃ d, ds[i]? = some d ∧ d.outcome = .error f := by
  rw [failures, List.mem_filterMap]
  constructor
  · rintro ⟨d, hmem, hfailure⟩
    obtain ⟨hindex, houtcome⟩ := Delivery.failure?_eq_some.mp hfailure
    obtain ⟨j, hj⟩ := List.mem_iff_getElem?.mp hmem
    have hij : j = i := by rw [← Nat.zero_add j, ← h.index_eq hj]; exact hindex
    exact ⟨d, hij ▸ hj, houtcome⟩
  · rintro ⟨d, hi, houtcome⟩
    have hindex : d.index = i := by rw [h.index_eq hi, Nat.zero_add]
    exact ⟨d, List.mem_of_getElem? hi, Delivery.failure?_eq_some.mpr ⟨hindex, houtcome⟩⟩

end Delivered

end Mediator

end Switchboard
