import Switchboard.Proofs.Broadcast
import Switchboard.Proofs.Metering

/-!
# What a call builds

A call of a request builds its handler and then the interceptors, if the request
type has just one handler, whatever becomes of the call (`run_send_metered`). A
broadcast builds all of its listeners first, and the interceptors anew for every
chain that it starts (`run_publish_metered`); there is a chain for each listener
that it comes to with the signal not cancelled (`visits_iff`).
-/

namespace Switchboard

variable {σ ρ ν : Type} [Requests ρ] [Messages ν]

/-! ## A single call -/

namespace Registry

def mediator (r : Registry σ ρ ν) (config : Config) : Mediator σ ρ ν :=
  { lookup := r.lookup, config }

/-- What a call of a request builds, in this order. -/
def sendBuilds (r : Registry σ ρ ν) (k : ρ) : List (Slot ρ ν) :=
  match r.handlers k with
  | [only] => only.noted (.handler k 0) ++ notedAll (.interceptor k) (r.interceptors k)
  | _ => []

theorem sendBuilds_of_one {r : Registry σ ρ ν} {k : ρ} {only : Registration σ (RequestHandler σ k)}
    (hone : r.handlers k = [only]) :
    r.sendBuilds k =
      only.noted (.handler k 0) ++ notedAll (.interceptor k) (r.interceptors k) := by
  simp only [sendBuilds, hone]

theorem sendBuilds_of_length_ne_one {r : Registry σ ρ ν} {k : ρ}
    (h : (r.handlers k).length ≠ 1) : r.sendBuilds k = [] := by
  match hone : r.handlers k with
  | [] => simp only [sendBuilds, hone]
  | [only] => exact absurd (by rw [hone]; rfl) h
  | first :: second :: more => simp only [sendBuilds, hone]

/-- What one chain of a notification builds. -/
def chainBuilds (r : Registry σ ρ ν) (n : ν) : List (Slot ρ ν) :=
  notedAll (.listenerInterceptor n) (r.listenerInterceptors n)

/-- What a broadcast builds that starts so many chains. -/
def publishBuilds (r : Registry σ ρ ν) (n : ν) (chains : Nat) : List (Slot ρ ν) :=
  notedAll (.listener n) (r.listeners n) ++ (List.replicate chains (r.chainBuilds n)).flatten

end Registry

namespace Mediator

/-- How many chains a broadcast starts for the listeners from number `index` on. -/
def chainsFrom (m : Mediator σ ρ ν) (n : ν) (event : Body n) (signal : Signal) (index : Nat) :
    List (Listener σ n) → World σ → Nat
  | [], _ => 0
  | listener :: rest, w =>
    if w.sources.isCancelled signal then 0
    else match (m.deliver n event signal index listener).run w with
      | ⟨.value (.ok ()), w', _⟩ => m.chainsFrom n event signal (index + 1) rest w' + 1
      | ⟨.value (.error _), w', _⟩ => match m.config.strategy with
        | .stopOnFirstError => 1
        | .continueOnError => m.chainsFrom n event signal (index + 1) rest w' + 1
      | ⟨.panicked _, _, _⟩ => 1

/-- How many chains a broadcast starts. -/
def chains (m : Mediator σ ρ ν) (n : ν) (event : Body n) (signal : Signal) (w : World σ) : Nat :=
  match (m.lookup.listeners n).run w with
  | ⟨.value listeners, w₀, _⟩ => m.chainsFrom n event signal 0 listeners w₀
  | ⟨.panicked _, _, _⟩ => 0

variable {m : Mediator σ ρ ν} {r : Registry σ ρ ν}

theorem run_send_unresolved {k : ρ} {e : DispatchError}
    (h : m.lookup.handler k = pure (.error e)) (request : Body k) (signal : Signal) (w : World σ) :
    (m.send k request signal).run w = ⟨.value (.error e), w, [.event {
      level := .error
      message := "Dispatch failed"
      fields := [(Topic.request k).field, ("error", e.message)] }]⟩ := by
  rw [send, h]
  rfl

/-- Without just one handler the lookup is an error, metered or not. -/
theorem handler_unresolved {k : ρ} (config : Config) (h : (r.handlers k).length ≠ 1) :
    ∃ e, (r.mediator config).lookup.handler k = pure (.error e) ∧
      (r.metered.mediator config).lookup.handler k = pure (.error e) := by
  have hmetered : r.metered.handlers k =
      (r.handlers k).mapIdx fun i c => c.metered (.handler k i) Handler.lift := rfl
  show ∃ e, r.resolveHandler k = pure (.error e) ∧ r.metered.resolveHandler k = pure (.error e)
  unfold Registry.resolveHandler
  rw [hmetered]
  match hhandlers : r.handlers k with
  | [] => exact ⟨_, rfl, rfl⟩
  | [only] => exact absurd (by rw [hhandlers]; rfl) h
  | first :: second :: more =>
      refine ⟨_, rfl, ?_⟩
      simp only [List.mapIdx_cons, List.length_cons, List.length_mapIdx]

/-- A metered call is the call, and notes the builds of its request type. -/
theorem run_send_metered (hcalm : r.Calm) (config : Config) (k : ρ) (request : Body k)
    (signal : Signal) (w : World σ) (log : List (Slot ρ ν)) :
    ((r.metered.mediator config).send k request signal).run (w.beside log) =
      (((r.mediator config).send k request signal).run w).beside (log ++ r.sendBuilds k) := by
  by_cases hlength : (r.handlers k).length = 1
  · obtain ⟨only, hone⟩ := List.length_eq_one_iff.mp hlength
    have hone' : r.metered.handlers k = [only.metered (.handler k 0) Handler.lift] := by
      show (r.handlers k).mapIdx _ = _
      rw [hone]
      rfl
    have honly : only.Calm := hcalm.handlers k only (by rw [hone]; exact List.mem_singleton_self _)
    obtain ⟨handler, w₀, t₀, hhandler⟩ := honly w
    obtain ⟨links, w₁, t₁, hlinks, hlinks'⟩ :=
      run_resolveAll_metered (hcalm.interceptors k) (Slot.interceptor k) Interceptor.lift w₀
    obtain ⟨hfound, hbuilt⟩ := run_lookups (m := r.mediator config) rfl hone hhandler hlinks
    obtain ⟨hfound', hbuilt'⟩ := run_lookups (m := r.metered.mediator config) rfl hone'
      (Registration.run_resolve_metered hhandler (.handler k 0) Handler.lift log) (hlinks' _)
    rw [run_send_eq hfound hbuilt, run_send_eq hfound' hbuilt', run_chain_lift,
      Registry.sendBuilds_of_one hone, List.length_map, ← List.append_assoc]
    rfl
  · obtain ⟨e, hnone, hnone'⟩ := handler_unresolved config hlength
    rw [run_send_unresolved hnone, run_send_unresolved hnone',
      Registry.sendBuilds_of_length_ne_one hlength, List.append_nil]
    rfl

section Publish

variable (config : Config) {n : ν} (event : Body n) (signal : Signal)

/-- A metered delivery is the delivery, and notes the builds of one chain. -/
theorem run_deliver_metered (hcalm : r.Calm) (index : Nat) (listener : Listener σ n) (w : World σ)
    (log : List (Slot ρ ν)) :
    ((r.metered.mediator config).deliver n event signal index (Handler.lift listener)).run
        (w.beside log) =
      (((r.mediator config).deliver n event signal index listener).run w).beside
        (log ++ r.chainBuilds n) := by
  obtain ⟨links, w₀, t₀, hlinks, hlinks'⟩ := run_resolveAll_metered (hcalm.listenerInterceptors n)
    (Slot.listenerInterceptor n) Interceptor.lift w
  rcases hchain : (chain (.notification n) listener links event signal).run w₀ with ⟨exit, w', t⟩
  have hchain' := run_chain_lift (.notification n) listener links event signal w₀
    (log ++ r.chainBuilds n)
  rw [hchain] at hchain'
  have hdeliver : ((r.mediator config).deliver n event signal index listener).run w = _ :=
    run_deliver_eq hlinks index listener hchain
  have hdeliver' : ((r.metered.mediator config).deliver n event signal index
      (Handler.lift listener)).run (w.beside log) = _ :=
    run_deliver_eq (hlinks' log) index (Handler.lift listener) hchain'
  rw [hdeliver, hdeliver']
  rfl

/-- A metered broadcast is the broadcast, and notes the builds of one chain for every
chain that it starts. -/
theorem run_broadcast_metered (hcalm : r.Calm) (index : Nat) (before : List HandlerFailure)
    (listeners : List (Listener σ n)) (w : World σ) (log : List (Slot ρ ν)) :
    ((r.metered.mediator config).broadcast n event signal index before
        (listeners.map Handler.lift)).run (w.beside log) =
      (((r.mediator config).broadcast n event signal index before listeners).run w).beside
        (log ++ (List.replicate ((r.mediator config).chainsFrom n event signal index listeners w)
          (r.chainBuilds n)).flatten) := by
  -- the two broadcasts go the same way at every listener, and so does the count of chains
  induction listeners generalizing index before w log with
  | nil =>
      rw [chainsFrom, List.replicate_zero, List.flatten_nil, List.append_nil]
      rfl
  | cons listener rest ih =>
      have hdeliver := run_deliver_metered config event signal hcalm index listener w log
      rw [List.map_cons]
      cases hsig : w.sources.isCancelled signal with
      | true =>
          have hsig' : (w.beside log).sources.isCancelled signal = true := hsig
          rw [run_broadcast_cancelled hsig, run_broadcast_cancelled hsig', chainsFrom, hsig]
          simp [Run.beside]
      | false =>
          have hsig' : (w.beside log).sources.isCancelled signal = false := hsig
          rcases hrun : ((r.mediator config).deliver n event signal index listener).run w with
            ⟨exit, w₁, t⟩
          rw [hrun] at hdeliver
          cases exit with
          | panicked p =>
              rw [run_broadcast_panicked hsig hrun, run_broadcast_panicked hsig' hdeliver]
              simp [chainsFrom, hsig, hrun, Run.beside]
          | value o =>
              cases o with
              | ok _ =>
                  rw [run_broadcast_ok hsig hrun, run_broadcast_ok hsig' hdeliver, ih]
                  simp [chainsFrom, hsig, hrun, Run.after_beside, List.replicate_succ]
              | error f =>
                  rw [run_broadcast_error hsig hrun, run_broadcast_error hsig' hdeliver]
                  have hconfig : (r.metered.mediator config).config.strategy =
                    (r.mediator config).config.strategy := rfl
                  rw [hconfig]
                  cases hstrategy : (r.mediator config).config.strategy with
                  | stopOnFirstError => simp [chainsFrom, hsig, hrun, hstrategy, Run.beside]
                  | continueOnError =>
                      simp [ih, chainsFrom, hsig, hrun, hstrategy, Run.after_beside,
                        List.replicate_succ]

/-- A metered broadcast builds its listeners, and then the interceptors for every chain
that it starts. -/
theorem run_publish_metered (hcalm : r.Calm) (w : World σ) (log : List (Slot ρ ν)) :
    ((r.metered.mediator config).publish n event signal).run (w.beside log) =
      (((r.mediator config).publish n event signal).run w).beside
        (log ++ r.publishBuilds n ((r.mediator config).chains n event signal w)) := by
  obtain ⟨listeners, w₀, t₀, hlisteners, hlisteners'⟩ := run_resolveAll_metered (hcalm.listeners n)
    (Slot.listener n) Handler.lift w
  have hfound : ((r.mediator config).lookup.listeners n).run w = ⟨.value listeners, w₀, t₀⟩ :=
    hlisteners
  have hchains : (r.mediator config).chains n event signal w =
      (r.mediator config).chainsFrom n event signal 0 listeners w₀ := by
    rw [chains, hfound]
  have hpublish' : ((r.metered.mediator config).publish n event signal).run (w.beside log) = _ :=
    run_publish (hlisteners' log)
  rw [hpublish', run_publish hfound, run_broadcast_metered config event signal hcalm,
    List.length_map, hchains, Registry.publishBuilds, ← List.append_assoc]
  rfl

end Publish

/-! ## The chains of a broadcast -/

/-- A broadcast to `listeners`, the first of which has number `index`, comes to the
one at place `i` with the signal not cancelled: it has delivered to all before it,
without a failure if it stops at the first one. -/
def VisitsFrom (m : Mediator σ ρ ν) (n : ν) (event : Body n) (signal : Signal) (index : Nat)
    (listeners : List (Listener σ n)) (w : World σ) (i : Nat) : Prop :=
  i < listeners.length ∧ ∃ ds v, m.Delivered n event signal index (listeners.take i) w ds v ∧
    (m.config.strategy = .stopOnFirstError → failures ds = []) ∧
    v.sources.isCancelled signal = false

/-- The broadcast comes to listener number `i` with the signal not cancelled. -/
def Visits (m : Mediator σ ρ ν) (n : ν) (event : Body n) (signal : Signal) (w : World σ)
    (i : Nat) : Prop :=
  ∃ listeners w₀ t₀, (m.lookup.listeners n).run w = ⟨.value listeners, w₀, t₀⟩ ∧
    m.VisitsFrom n event signal 0 listeners w₀ i

section Chains

variable {n : ν} {event : Body n} {signal : Signal} {index i : Nat} {listener : Listener σ n}
  {rest : List (Listener σ n)} {w w₁ : World σ} {t : Trace}

theorem failures_cons_eq_nil {d : Delivery σ} {ds : List (Delivery σ)} :
    failures (d :: ds) = [] ↔ d.outcome = .ok () ∧ failures ds = [] := by
  cases ho : d.outcome with
  | ok _ => simp [failures_cons_ok ho]
  | error f => simp [failures_cons_error ho]

theorem not_visitsFrom_cancelled (h : w.sources.isCancelled signal = true) :
    ¬ m.VisitsFrom n event signal index (listener :: rest) w i := by
  rintro ⟨-, ds, v, hds, -, hopen⟩
  cases i with
  | zero =>
      cases hds
      cases h.symm.trans hopen
  | succ i =>
      cases hds with
      | next hfirst => cases h.symm.trans hfirst

theorem visitsFrom_zero (hopen : w.sources.isCancelled signal = false) :
    m.VisitsFrom n event signal index (listener :: rest) w 0 :=
  ⟨Nat.zero_lt_succ _, [], w, .none index w, fun _ => rfl, hopen⟩

theorem not_visitsFrom_panicked {p : Panic}
    (hrun : (m.deliver n event signal index listener).run w = ⟨.panicked p, w₁, t⟩) :
    ¬ m.VisitsFrom n event signal index (listener :: rest) w (i + 1) := by
  rintro ⟨-, ds, v, hds, -⟩
  cases hds with
  | next _ hrun' => cases hrun.symm.trans hrun'

/-- A broadcast comes to a later listener if the first delivery does not end it, and it
comes there from the world that this one leaves. -/
theorem visitsFrom_succ {o : Outcome Unit} (hopen : w.sources.isCancelled signal = false)
    (hrun : (m.deliver n event signal index listener).run w = ⟨.value o, w₁, t⟩) :
    m.VisitsFrom n event signal index (listener :: rest) w (i + 1) ↔
      (m.config.strategy = .stopOnFirstError → o = .ok ()) ∧
        m.VisitsFrom n event signal (index + 1) rest w₁ i := by
  constructor
  · rintro ⟨hi, ds, v, hds, hnone, hlast⟩
    cases hds with
    | next _ hrun' hrest =>
        cases hrun.symm.trans hrun'
        exact ⟨fun h => (failures_cons_eq_nil.mp (hnone h)).1, Nat.lt_of_succ_lt_succ hi, _, v,
          hrest, fun h => (failures_cons_eq_nil.mp (hnone h)).2, hlast⟩
  · rintro ⟨hok, hi, ds, v, hds, hnone, hlast⟩
    exact ⟨Nat.succ_lt_succ hi, _, v, .next hopen hrun hds,
      fun h => failures_cons_eq_nil.mpr ⟨hok h, hnone h⟩, hlast⟩

/-- After a delivery that has ended, a broadcast goes on or is over. -/
theorem chainsFrom_delivered {o : Outcome Unit} (hopen : w.sources.isCancelled signal = false)
    (hrun : (m.deliver n event signal index listener).run w = ⟨.value o, w₁, t⟩)
    (rest : List (Listener σ n)) :
    ((m.config.strategy = .stopOnFirstError → o = .ok ()) ∧
      m.chainsFrom n event signal index (listener :: rest) w =
        m.chainsFrom n event signal (index + 1) rest w₁ + 1) ∨
    (¬ (m.config.strategy = .stopOnFirstError → o = .ok ()) ∧
      m.chainsFrom n event signal index (listener :: rest) w = 1) := by
  cases o with
  | ok _ => exact .inl ⟨fun _ => rfl, by simp [chainsFrom, hopen, hrun]⟩
  | error f =>
      cases hstrategy : m.config.strategy with
      | stopOnFirstError => exact .inr ⟨by simp, by simp [chainsFrom, hopen, hrun, hstrategy]⟩
      | continueOnError => exact .inl ⟨nofun, by simp [chainsFrom, hopen, hrun, hstrategy]⟩

/-- The chains are those of the listeners that the broadcast comes to. -/
theorem visitsFrom_iff {listeners : List (Listener σ n)} :
    m.VisitsFrom n event signal index listeners w i ↔
      i < m.chainsFrom n event signal index listeners w := by
  induction listeners generalizing index i w with
  | nil => simp [VisitsFrom, chainsFrom]
  | cons listener rest ih =>
      cases hsig : w.sources.isCancelled signal with
      | true =>
          have hnone : m.chainsFrom n event signal index (listener :: rest) w = 0 := by
            simp [chainsFrom, hsig]
          rw [hnone]
          exact iff_of_false (not_visitsFrom_cancelled hsig) (Nat.not_lt_zero i)
      | false =>
          rcases hrun : (m.deliver n event signal index listener).run w with ⟨exit, w₁, t⟩
          cases exit with
          | panicked p =>
              have hone : m.chainsFrom n event signal index (listener :: rest) w = 1 := by
                simp [chainsFrom, hsig, hrun]
              rw [hone]
              cases i with
              | zero => exact iff_of_true (visitsFrom_zero hsig) Nat.zero_lt_one
              | succ i => exact iff_of_false (not_visitsFrom_panicked hrun) (by omega)
          | value o =>
              rcases chainsFrom_delivered hsig hrun rest with ⟨hok, hcount⟩ | ⟨hover, hcount⟩
              · rw [hcount]
                cases i with
                | zero => exact iff_of_true (visitsFrom_zero hsig) (Nat.succ_pos _)
                | succ i =>
                    rw [visitsFrom_succ hsig hrun, ih, Nat.succ_lt_succ_iff]
                    exact and_iff_right hok
              · rw [hcount]
                cases i with
                | zero => exact iff_of_true (visitsFrom_zero hsig) Nat.zero_lt_one
                | succ i =>
                    rw [visitsFrom_succ hsig hrun]
                    exact iff_of_false (fun h => hover h.1) (by omega)

theorem visits_iff : m.Visits n event signal w i ↔ i < m.chains n event signal w := by
  rcases hlisteners : (m.lookup.listeners n).run w with ⟨exit, w₀, t₀⟩
  cases exit with
  | value listeners =>
      have hchains : m.chains n event signal w = m.chainsFrom n event signal 0 listeners w₀ := by
        rw [chains, hlisteners]
      rw [hchains, ← visitsFrom_iff]
      constructor
      · rintro ⟨_, _, _, hfound, hvisits⟩
        cases hlisteners.symm.trans hfound
        exact hvisits
      · intro hvisits
        exact ⟨listeners, w₀, t₀, hlisteners, hvisits⟩
  | panicked p =>
      have hnone : m.chains n event signal w = 0 := by rw [chains, hlisteners]
      rw [hnone]
      refine iff_of_false ?_ (Nat.not_lt_zero i)
      rintro ⟨_, _, _, hfound, -⟩
      cases hlisteners.symm.trans hfound

end Chains

end Mediator

end Switchboard
