import Switchboard.Proofs.Broadcast
import Switchboard.Proofs.Passage

/-!
# Attendance

Which listeners a cancelled broadcast has entered. A delivery enters its
listener just once (`Mediator.Enters`) or not at all (`Mediator.Misses`); both
say so by leaving open which listener it is. It is entered if and only if the
way to it does not end before, so the count of a cancelled broadcast is exact
whenever no chain ends before its listener (`cancelled_broadcast_count`). It is
not exact otherwise: a listener behind an interceptor that answers itself is
passed over and counted (`muted_listener_is_counted`).
-/

namespace Switchboard

variable {σ ρ ν : Type} [Requests ρ] [Messages ν]

namespace Mediator

/-! ## A single delivery -/

/-- Whichever the listener is, the delivery enters it just once, from one and
the same stage; what is done afterwards sees only how it has ended. -/
def Enters (m : Mediator σ ρ ν) (n : ν) (event : Body n) (signal : Signal) (index : Nat)
    (w : World σ) : Prop :=
  ∃ (s : Stage σ (Body n)) (finish : Finish σ Unit) (t : Trace), ∀ listener,
    (m.deliver n event signal index listener).run w =
      ((m.instrumented (publishSpan n index)
        ((listener s.message s.signal).attempt >>= finish)).run s.world).after t

/-- The delivery goes the same way with any other listener, so it does not enter
its own. -/
def Misses (m : Mediator σ ρ ν) (n : ν) (event : Body n) (signal : Signal) (index : Nat)
    (w : World σ) : Prop :=
  ∀ listener other, (m.deliver n event signal index listener).run w =
    (m.deliver n event signal index other).run w

/-- How the way to a listener ends, for a delivery that is started in the world
`w`. -/
def WayEnds (m : Mediator σ ρ ν) (n : ν) (event : Body n) (signal : Signal) (w : World σ)
    (ending : Ending) : Prop :=
  ∃ outer inner w₀ t₀ finishes s t,
    (m.lookup.listenerInterceptors n).run w = ⟨.value (outer ++ inner), w₀, t₀⟩ ∧
    Passed inner.isEmpty outer ⟨event, signal, w₀⟩ finishes s t ∧ Ends inner s ending

variable {m : Mediator σ ρ ν} {n : ν} {event : Body n} {signal : Signal} {index : Nat}
  {w w' : World σ} {ending : Ending}

theorem length_seen (span : Span) (t : Trace) : (m.seen span t).length = t.length := by
  unfold seen
  split
  · exact List.length_map _
  · rfl

/-- The two exclude each other: a listener that reports something leaves a
longer trace than one that does not, if they are entered. -/
theorem Enters.not_misses (h : m.Enters n event signal index w) :
    ¬ m.Misses n event signal index w := by
  obtain ⟨s, finish, t, henters⟩ := h
  intro hmisses
  have hsame := hmisses (fun _ _ => .panic .other) fun _ _ => .report (.entry "") (.panic .other)
  rw [henters, henters, run_instrumented, run_instrumented, Action.run_attempt_bind,
    Action.run_attempt_bind] at hsame
  have hlength := congrArg (fun r => r.trace.length) hsame
  simp [Run.after, Action.run, length_seen] at hlength

theorem wayEnds_of_run {listener : Listener σ n} {o : Outcome Unit} {t : Trace}
    (h : (m.deliver n event signal index listener).run w = ⟨.value o, w', t⟩) :
    ∃ ending, m.WayEnds n event signal w ending := by
  obtain ⟨links, w₀, t₀, -, hlinks, -, -⟩ := Action.run_bind_eq_value.mp h
  obtain ⟨outer, inner, finishes, s, t, ending, rfl, hpassed, hends⟩ :=
    chain_ends links ⟨event, signal, w₀⟩
  exact ⟨ending, outer, inner, w₀, t₀, finishes, s, t, hlinks, hpassed, hends⟩

/-- A delivery is the way to its listener, what is still ahead there, and the
way back. -/
theorem run_deliver {outer inner : List (ListenerInterceptor σ n)} {w₀ : World σ}
    {t₀ t : Trace} {finishes : List (Finish σ Unit)} {s : Stage σ (Body n)}
    (hlinks : (m.lookup.listenerInterceptors n).run w = ⟨.value (outer ++ inner), w₀, t₀⟩)
    (hpassed : Passed inner.isEmpty outer ⟨event, signal, w₀⟩ finishes s t)
    (index : Nat) (listener : Listener σ n) :
    (m.deliver n event signal index listener).run w =
      ((m.instrumented (publishSpan n index)
        ((chain (.notification n) listener inner s.message s.signal).attempt >>=
          wayOut finishes)).run s.world).after (t₀ ++ m.seen (publishSpan n index) t) := by
  rw [deliver, Action.run_bind_of_value hlinks,
    run_instrumented_after (hpassed.run_chain (.notification n) listener), Run.after_after]

theorem WayEnds.enters (h : m.WayEnds n event signal w .handled) (index : Nat) :
    m.Enters n event signal index w := by
  obtain ⟨outer, inner, w₀, t₀, finishes, s, t, hlinks, hpassed, hends⟩ := h
  cases hends with
  | handled hopen =>
      refine ⟨s, wayOut finishes, t₀ ++ m.seen (publishSpan n index) t, fun listener => ?_⟩
      rw [run_deliver hlinks hpassed, run_instrumented, run_instrumented, Action.run_attempt_bind,
        Action.run_attempt_bind, run_chain_nil hopen]

theorem WayEnds.misses (h : m.WayEnds n event signal w ending) (hending : ending ≠ .handled)
    (index : Nat) : m.Misses n event signal index w := by
  obtain ⟨outer, inner, w₀, t₀, finishes, s, t, hlinks, hpassed, hends⟩ := h
  intro listener other
  rw [run_deliver hlinks hpassed, run_deliver hlinks hpassed, run_instrumented, run_instrumented,
    Action.run_attempt_bind, Action.run_attempt_bind, hends.run_chain hending _ listener other]

/-- A delivery that does not panic enters its listener if and only if its chain
does not end before. -/
theorem enters_iff_wayEnds {listener : Listener σ n} {o : Outcome Unit} {t : Trace}
    (h : (m.deliver n event signal index listener).run w = ⟨.value o, w', t⟩) :
    m.Enters n event signal index w ↔ m.WayEnds n event signal w .handled := by
  constructor
  · intro henters
    obtain ⟨ending, hway⟩ := wayEnds_of_run h
    by_cases hending : ending = .handled
    · exact hending ▸ hway
    · exact absurd (hway.misses hending index) henters.not_misses
  · exact fun hway => hway.enters index

/-! ## A broadcast that was cancelled -/

/-- The worlds in which deliveries were started one after the other from the
world `w`, and last the one that they left. -/
def starts (w : World σ) (ds : List (Delivery σ)) : List (World σ) :=
  w :: ds.map Delivery.after

theorem Delivered.run_of_start {ran : List (Listener σ n)} {ds : List (Delivery σ)} {i : Nat}
    {v : World σ} (h : m.Delivered n event signal index ran w ds w') (hi : i < ds.length)
    (hv : (starts w ds)[i]? = some v) :
    ∃ listener o v' t, (m.deliver n event signal (index + i) listener).run v =
      ⟨.value o, v', t⟩ := by
  induction h generalizing i with
  | none index w => cases hi
  | @next index listener rest w w₁ w' o t ds hopen hrun hrest ih =>
      cases i with
      | zero =>
          cases hv
          exact ⟨listener, o, w₁, t, hrun⟩
      | succ i =>
          have hi' : i < ds.length := Nat.lt_of_succ_lt_succ hi
          obtain ⟨later, o', v', t', hlater⟩ := ih hi' hv
          rw [Nat.add_right_comm] at hlater
          exact ⟨later, o', v', t', hlater⟩

/-- The answer that a broadcast was cancelled is given in front of a listener,
and names the number of deliveries before it. -/
theorem Concluded.of_cancelled {before : List HandlerFailure} {ds : List (Delivery σ)}
    {rest : List (Listener σ n)} {type : String} {d : Nat} {t : Trace}
    (h : m.Concluded n signal index before ds rest w (.error (.publishCancelled type d)) t) :
    w.sources.isCancelled signal = true ∧ rest ≠ [] ∧ ds.length + index = d ∧
      (m.config.strategy = .stopOnFirstError → failures ds = []) := by
  generalize hresult : Except.error (DispatchError.publishCancelled type d) = result at h
  cases h with
  | completed hok =>
      unfold broadcastResult at hresult
      split at hresult <;> cases hresult
  | stopped => cases hresult
  | cancelled hcancelled hok hdelivered =>
      cases hresult
      exact ⟨hcancelled, List.cons_ne_nil _ _, hdelivered, hok⟩

/-- A broadcast that answers that it was cancelled after `d` listeners has
delivered to the first `d` of them, to each of these once and in their order,
and to no other, whoever the others are. A delivery has entered its listener just
once if and only if its chain came to it; if all of them did, the `d` listeners
were entered, each just once and in order, and nobody else was. -/
theorem cancelled_broadcast_count {m : Mediator σ ρ ν} {r : Registry σ ρ ν}
    (hlookup : m.lookup = r.lookup) {n : ν} {event : Body n} {signal : Signal} {w w' : World σ}
    {type : String} {d : Nat} {t : Trace}
    (hrun : (m.publish n event signal).run w =
      ⟨.value (.error (.publishCancelled type d)), w', t⟩) :
    ∃ listeners w₀ t₀ ds, (m.lookup.listeners n).run w = ⟨.value listeners, w₀, t₀⟩ ∧
      List.Forall₂ Registration.Yields (r.listeners n) listeners ∧ d < listeners.length ∧
      m.Delivered n event signal 0 (listeners.take d) w₀ ds w' ∧ ds.length = d ∧
      (∀ others, others ≠ [] →
        (m.broadcast n event signal 0 [] (listeners.take d ++ others)).run w₀ =
          (m.broadcast n event signal 0 [] listeners).run w₀) ∧
      ∀ i v, i < d → (starts w₀ ds)[i]? = some v →
        (m.Enters n event signal i v ↔ m.WayEnds n event signal v .handled) := by
  obtain ⟨listeners, w₀, t₀, t₁, hlisteners, hbroadcast, rfl⟩ := publish_eq_value hrun
  have hregistered : List.Forall₂ Registration.Yields (r.listeners n) listeners := by
    rw [hlookup] at hlisteners
    exact resolveAll_yields hlisteners
  obtain ⟨ran, rest, ds, t₂, rfl, hds, hended, rfl⟩ := broadcast_cases hbroadcast
  obtain ⟨hcancelled, hrest, rfl, hok⟩ := hended.of_cancelled
  have hskipped (others : List (Listener σ n)) (hothers : others ≠ []) :
      (m.broadcast n event signal 0 [] (ran ++ others)).run w₀ =
        ⟨.value (.error (.publishCancelled (Messages.name n) ran.length)), w',
          ds.flatMap (Delivery.reports n) ++ [skipped n ran.length]⟩ := by
    obtain ⟨next, left, rfl⟩ := List.exists_cons_of_ne_nil hothers
    rw [run_broadcast_delivered hds hok, run_broadcast_cancelled hcancelled]
    rfl
  have htake : (ran ++ rest).take ds.length = ran := by rw [hds.length_eq, List.take_left]
  refine ⟨ran ++ rest, w₀, t₀, ds, hlisteners, hregistered, ?_, ?_, rfl, ?_, ?_⟩
  · rw [Nat.add_zero, hds.length_eq, List.length_append]
    have : 0 < rest.length := List.length_pos_iff.mpr hrest
    omega
  · rw [Nat.add_zero, htake]
    exact hds
  · intro others hothers
    rw [Nat.add_zero, htake, hskipped others hothers, hskipped rest hrest]
  · intro i v hi hv
    obtain ⟨listener, o, v', t, hdelivery⟩ := hds.run_of_start hi hv
    rw [Nat.zero_add] at hdelivery
    exact enters_iff_wayEnds hdelivery

/-- Lets the notification through, and cancels a source once the rest of the
chain has ended. -/
def cancellingAfterwards {M : Type} (source : SourceId) : Interceptor σ M Unit where
  name := "CancellingBehavior"
  enter message signal _ :=
    return .forward message signal fun o => .cancel source (return o)

theorem first_of_two_attended :
    let r : Registry Unit Empty Catalog.Notification := .ofList [
      .listener .deleted (.singleton (.recording "first" ())),
      .listener .deleted (.singleton (.recording "second" ())),
      .listenerInterceptor .deleted (.singleton (cancellingAfterwards 0))]
    let m : Mediator Unit Empty Catalog.Notification := ⟨r.lookup, {}⟩
    let event : Catalog.ItemDeleted := ⟨⟨7⟩⟩
    let w : World Unit := { state := (), sources := [{}] }
    let run := (m.publish .deleted event (.source 0)).run w
    run.exit = .value (.error (.publishCancelled "ItemDeleted" 1)) ∧
      run.trace.journal = ["first"] ∧
      m.Enters Catalog.Notification.deleted event (.source 0) 0 w := by
  intro r m event w run
  have hrun : (m.publish .deleted event (.source 0)).run w =
      ⟨.value (.error (.publishCancelled "ItemDeleted" 1)), run.world, run.trace⟩ := rfl
  obtain ⟨listeners, w₀, t₀, ds, hlisteners, -, -, -, -, -, hattended⟩ :=
    cancelled_broadcast_count (r := r) rfl hrun
  cases hlisteners
  have hway : m.WayEnds Catalog.Notification.deleted event (.source 0) w .handled :=
    ⟨[cancellingAfterwards 0], [], w, [], _, ⟨event, .source 0, w⟩, _, rfl,
      .next rfl rfl (.none _), .handled rfl⟩
  exact ⟨rfl, rfl, (hattended 0 w Nat.zero_lt_one rfl).mpr hway⟩

/-- Answers every notification itself. -/
def muting {M : Type} : Interceptor σ M Unit where
  name := "MutingBehavior"
  enter _ _ _ := return .answer (.ok ())

/-- A listener that an interceptor keeps its notifications from is not entered,
and yet the broadcast counts it. -/
theorem muted_listener_is_counted :
    let r : Registry Unit Empty Catalog.Notification := .ofList [
      .listener .deleted (.singleton (.recording "first" ())),
      .listener .deleted (.singleton (.recording "second" ())),
      .listenerInterceptor .deleted (.singleton (cancellingAfterwards 0)),
      .listenerInterceptor .deleted (.singleton muting)]
    let m : Mediator Unit Empty Catalog.Notification := ⟨r.lookup, {}⟩
    let event : Catalog.ItemDeleted := ⟨⟨7⟩⟩
    let w : World Unit := { state := (), sources := [{}] }
    let run := (m.publish .deleted event (.source 0)).run w
    run.exit = .value (.error (.publishCancelled "ItemDeleted" 1)) ∧
      run.trace.journal = [] ∧
      ¬ m.Enters Catalog.Notification.deleted event (.source 0) 0 w := by
  intro r m event w run
  have hmisses : m.Misses Catalog.Notification.deleted event (.source 0) 0 w := fun _ _ => rfl
  exact ⟨rfl, rfl, fun henters => henters.not_misses hmisses⟩

end Mediator

end Switchboard
