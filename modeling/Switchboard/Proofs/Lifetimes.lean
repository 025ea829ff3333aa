import Mathlib.Algebra.BigOperators.Ring.List
import Mathlib.Algebra.Ring.Nat
import Switchboard.Proofs.Builds

/-!
# Lifetimes

How often the factories of a registry are called in the course of any number of
calls (`Mediator.factories_called`).

What a single call builds is known, so the metered run of a session is put together
call by call, and each count is a sum over the calls. The calls are those of the
session: what its components do, calls of their own included, is in their actions.
-/

namespace Switchboard

variable {σ τ κ ρ ν α : Type}

/-! ## Counting what is noted -/

namespace Registration

/-- How many components one resolution builds. -/
def builds : Registration σ α → Nat
  | .singleton _ => 0
  | .factory _ => 1

theorem count_noted [DecidableEq κ] (c : Registration σ α) (slot : κ) :
    (c.noted slot).count slot = c.builds := by
  cases c with
  | singleton component => rfl
  | factory build => exact List.count_singleton_self

theorem mem_noted {c : Registration σ α} {slot s : κ} (h : s ∈ c.noted slot) : s = slot := by
  cases c with
  | singleton component => cases h
  | factory build => exact List.mem_singleton.mp h

end Registration

theorem mem_notedAll {slot : Nat → κ} {cs : List (Registration σ α)} {s : κ}
    (h : s ∈ notedAll slot cs) : ∃ i, s = slot i := by
  induction cs generalizing slot with
  | nil => cases h
  | cons c cs ih =>
      rw [notedAll_cons] at h
      rcases List.mem_append.mp h with hfirst | hrest
      · exact ⟨0, Registration.mem_noted hfirst⟩
      · obtain ⟨i, rfl⟩ := ih hrest
        exact ⟨i + 1, rfl⟩

theorem count_notedAll [DecidableEq κ] {slot : Nat → κ} (hslot : Function.Injective slot)
    {cs : List (Registration σ α)} {i : Nat} {c : Registration σ α} (h : cs[i]? = some c) :
    (notedAll slot cs).count (slot i) = c.builds := by
  induction cs generalizing slot i with
  | nil => cases h
  | cons first cs ih =>
      rw [notedAll_cons, List.count_append]
      cases i with
      | zero =>
          cases h
          have hlater : slot 0 ∉ notedAll (fun i => slot (i + 1)) cs := by
            intro hmem
            obtain ⟨i, hi⟩ := mem_notedAll hmem
            cases hslot hi
          rw [Registration.count_noted, List.count_eq_zero_of_not_mem hlater, Nat.add_zero]
      | succ i =>
          have hfirst : slot (i + 1) ∉ first.noted (slot 0) := by
            intro hmem
            cases hslot (Registration.mem_noted hmem)
          have hlater : Function.Injective fun i => slot (i + 1) :=
            fun i j hij => Nat.succ.inj (hslot hij)
          rw [List.count_eq_zero_of_not_mem hfirst, Nat.zero_add]
          exact ih hlater h

/-! ## Calls -/

variable [Requests ρ] [Messages ν]

/-- Something that a caller does. -/
inductive Call (σ ρ ν : Type) [Requests ρ] [Messages ν] where
  | send (k : ρ) (request : Body k) (signal : Signal)
  | publish (n : ν) (event : Body n) (signal : Signal)
  /-- Anything without the mediator, as cancelling a source. -/
  | act (a : Action σ Unit)

/-- What is answered to a caller. -/
inductive Answer (ρ : Type) [Requests ρ] where
  | sent (k : ρ) (result : Except DispatchError (Outcome (Reply k)))
  | published (result : Except DispatchError Unit)
  | acted

namespace Call

def lift : Call σ ρ ν → Call (σ × τ) ρ ν
  | .send k request signal => .send k request signal
  | .publish n event signal => .publish n event signal
  | .act a => .act a.lift

def perform (m : Mediator σ ρ ν) : Call σ ρ ν → Action σ (Answer ρ)
  | .send k request signal => .sent k <$> m.send k request signal
  | .publish n event signal => .published <$> m.publish n event signal
  | .act a => (fun _ => .acted) <$> a

/-- What a call builds that is made in the world `w`, in this order. -/
def builds (r : Registry σ ρ ν) (config : Config) (w : World σ) :
    Call σ ρ ν → List (Slot ρ ν)
  | .send k _ _ => r.sendBuilds k
  | .publish n event signal => r.publishBuilds n ((r.mediator config).chains n event signal w)
  | .act _ => []

/-- How many chains of one notification type a call starts that is made in the world `w`. -/
def chainsOf [DecidableEq ν] (m : Mediator σ ρ ν) (n : ν) (w : World σ) : Call σ ρ ν → Nat
  | .publish n' event signal => if n' = n then m.chains n' event signal w else 0
  | _ => 0

def sends [DecidableEq ρ] (k : ρ) : Call σ ρ ν → Bool
  | .send k' _ _ => k' = k
  | _ => false

def publishes [DecidableEq ν] (n : ν) : Call σ ρ ν → Bool
  | .publish n' _ _ => n' = n
  | _ => false

end Call

namespace Mediator

/-- One call after the other, each after the one before has ended, if only with a
panic. -/
def session (m : Mediator σ ρ ν) : List (Call σ ρ ν) → Action σ (List (Exit (Answer ρ)))
  | [] => pure []
  | call :: calls => do
    let ended ← (call.perform m).attempt
    List.cons ended <$> m.session calls

/-- The calls of a session, each with the world in which it is made. -/
def openings (m : Mediator σ ρ ν) : List (Call σ ρ ν) → World σ → List (Call σ ρ ν × World σ)
  | [], _ => []
  | call :: calls, w => (call, w) :: m.openings calls ((call.perform m).run w).world

end Mediator

/-- What a session builds, call after call. -/
def Registry.sessionBuilds (r : Registry σ ρ ν) (config : Config) (calls : List (Call σ ρ ν))
    (w : World σ) : List (Slot ρ ν) :=
  ((r.mediator config).openings calls w).flatMap fun opening =>
    opening.1.builds r config opening.2

/-- A sum over the calls of one kind. -/
theorem Mediator.sum_openings (m : Mediator σ ρ ν) (p : Call σ ρ ν → Bool) (x : Nat)
    (calls : List (Call σ ρ ν)) (w : World σ) :
    ((m.openings calls w).map fun opening => if p opening.1 then x else 0).sum =
      x * calls.countP p := by
  induction calls generalizing w with
  | nil => rfl
  | cons call calls ih =>
      rw [openings, List.map_cons, List.sum_cons, ih, List.countP_cons, Nat.mul_add, Nat.add_comm]
      cases p call <;> simp

variable {r : Registry σ ρ ν}

theorem Call.run_perform_metered (hcalm : r.Calm) (config : Config) (call : Call σ ρ ν)
    (w : World σ) (log : List (Slot ρ ν)) :
    (call.lift.perform (r.metered.mediator config)).run (w.beside log) =
      ((call.perform (r.mediator config)).run w).beside (log ++ call.builds r config w) := by
  cases call with
  | send k request signal =>
      exact Action.run_map_beside (Mediator.run_send_metered hcalm config k request signal w log) _
  | publish n event signal =>
      exact Action.run_map_beside (Mediator.run_publish_metered config event signal hcalm w log) _
  | act a =>
      rw [builds, List.append_nil]
      exact Action.run_map_beside (Action.run_lift a w log) _

/-- A metered session is the session, and notes the builds of call after call. -/
theorem Mediator.run_session_metered (hcalm : r.Calm) (config : Config)
    (calls : List (Call σ ρ ν)) (w : World σ) (log : List (Slot ρ ν)) :
    ((r.metered.mediator config).session (calls.map Call.lift)).run (w.beside log) =
      (((r.mediator config).session calls).run w).beside
        (log ++ r.sessionBuilds config calls w) := by
  induction calls generalizing w log with
  | nil =>
      rw [Registry.sessionBuilds, openings, List.flatMap_nil, List.append_nil]
      rfl
  | cons call calls ih =>
      have hcall := call.run_perform_metered hcalm config w log
      rw [List.map_cons, session, session, Action.run_attempt_bind, Action.run_attempt_bind, hcall,
        Registry.sessionBuilds, openings, List.flatMap_cons, ← List.append_assoc, Run.after_beside]
      exact congrArg _ (Action.run_map_beside (ih _ _) _)

/-! ## Counts over a single call -/

theorem Call.chainsOf_eq_zero [DecidableEq ν] {m : Mediator σ ρ ν} {n : ν} {w : World σ}
    {call : Call σ ρ ν} (h : call.publishes n = false) : call.chainsOf m n w = 0 := by
  cases call with
  | publish n' event signal =>
      have hn : n' ≠ n := of_decide_eq_false h
      simp [chainsOf, hn]
  | send k request signal => rfl
  | act a => rfl

theorem type_of_mem_sendBuilds {k : ρ} {s : Slot ρ ν} (h : s ∈ r.sendBuilds k) :
    s.type = .inl k := by
  by_cases hlength : (r.handlers k).length = 1
  · obtain ⟨only, hone⟩ := List.length_eq_one_iff.mp hlength
    rw [Registry.sendBuilds_of_one hone] at h
    rcases List.mem_append.mp h with hhandler | hlink
    · rw [Registration.mem_noted hhandler]
      rfl
    · obtain ⟨i, rfl⟩ := mem_notedAll hlink
      rfl
  · rw [Registry.sendBuilds_of_length_ne_one hlength] at h
    cases h

theorem mem_chains {n : ν} {chains : Nat} {s : Slot ρ ν}
    (h : s ∈ (List.replicate chains (r.chainBuilds n)).flatten) :
    ∃ i, s = .listenerInterceptor n i := by
  obtain ⟨chain, hchain, hlink⟩ := List.mem_flatten.mp h
  rw [List.eq_of_mem_replicate hchain] at hlink
  exact mem_notedAll hlink

theorem type_of_mem_publishBuilds {n : ν} {chains : Nat} {s : Slot ρ ν}
    (h : s ∈ r.publishBuilds n chains) : s.type = .inr n := by
  rcases List.mem_append.mp h with hlistener | hlinks
  · obtain ⟨i, rfl⟩ := mem_notedAll hlistener
    rfl
  · obtain ⟨i, rfl⟩ := mem_chains hlinks
    rfl

section

variable [DecidableEq ρ] [DecidableEq ν]

theorem count_sendBuilds_handler {k : ρ} {i : Nat} {c : Registration σ (RequestHandler σ k)}
    (hc : (r.handlers k)[i]? = some c) :
    (r.sendBuilds k).count (.handler k i) = if (r.handlers k).length = 1 then c.builds else 0 := by
  by_cases hlength : (r.handlers k).length = 1
  · obtain ⟨only, hone⟩ := List.length_eq_one_iff.mp hlength
    rw [if_pos hlength, Registry.sendBuilds_of_one hone, List.count_append]
    rw [hone] at hc
    obtain ⟨rfl, rfl⟩ : i = 0 ∧ only = c := by
      cases i with
      | zero => exact ⟨rfl, Option.some.inj hc⟩
      | succ i => cases hc
    have hlinks : (Slot.handler k 0 : Slot ρ ν) ∉ notedAll (.interceptor k) (r.interceptors k) := by
      intro hmem
      obtain ⟨i, hi⟩ := mem_notedAll hmem
      cases hi
    rw [Registration.count_noted, List.count_eq_zero_of_not_mem hlinks, Nat.add_zero]
  · rw [if_neg hlength, Registry.sendBuilds_of_length_ne_one hlength, List.count_nil]

theorem count_sendBuilds_interceptor {k : ρ} {i : Nat}
    {c : Registration σ (RequestInterceptor σ k)} (hc : (r.interceptors k)[i]? = some c) :
    (r.sendBuilds k).count (.interceptor k i) =
      if (r.handlers k).length = 1 then c.builds else 0 := by
  by_cases hlength : (r.handlers k).length = 1
  · obtain ⟨only, hone⟩ := List.length_eq_one_iff.mp hlength
    have hhandler : (Slot.interceptor k i : Slot ρ ν) ∉ only.noted (.handler k 0) := by
      intro hmem
      cases Registration.mem_noted hmem
    have hslot : Function.Injective (Slot.interceptor k : Nat → Slot ρ ν) := by
      rintro i j ⟨⟩
      rfl
    rw [if_pos hlength, Registry.sendBuilds_of_one hone, List.count_append,
      List.count_eq_zero_of_not_mem hhandler, Nat.zero_add, count_notedAll hslot hc]
  · rw [if_neg hlength, Registry.sendBuilds_of_length_ne_one hlength, List.count_nil]

theorem count_publishBuilds_listener {n : ν} {i : Nat} {c : Registration σ (Listener σ n)}
    (hc : (r.listeners n)[i]? = some c) (chains : Nat) :
    (r.publishBuilds n chains).count (.listener n i) = c.builds := by
  have hslot : Function.Injective (Slot.listener n : Nat → Slot ρ ν) := by
    rintro i j ⟨⟩
    rfl
  have hlinks : (Slot.listener n i : Slot ρ ν) ∉
      (List.replicate chains (r.chainBuilds n)).flatten := by
    intro hmem
    obtain ⟨j, hj⟩ := mem_chains hmem
    cases hj
  rw [Registry.publishBuilds, List.count_append, count_notedAll hslot hc,
    List.count_eq_zero_of_not_mem hlinks, Nat.add_zero]

theorem count_publishBuilds_listenerInterceptor {n : ν} {i : Nat}
    {c : Registration σ (ListenerInterceptor σ n)} (hc : (r.listenerInterceptors n)[i]? = some c)
    (chains : Nat) :
    (r.publishBuilds n chains).count (.listenerInterceptor n i) = c.builds * chains := by
  have hslot : Function.Injective (Slot.listenerInterceptor n : Nat → Slot ρ ν) := by
    rintro i j ⟨⟩
    rfl
  have hlisteners : (Slot.listenerInterceptor n i : Slot ρ ν) ∉
      notedAll (.listener n) (r.listeners n) := by
    intro hmem
    obtain ⟨j, hj⟩ := mem_notedAll hmem
    cases hj
  rw [Registry.publishBuilds, List.count_append, List.count_eq_zero_of_not_mem hlisteners,
    List.count_flatten, List.map_replicate, List.sum_replicate_nat, Registry.chainBuilds,
    count_notedAll hslot hc, Nat.zero_add, Nat.mul_comm]

/-- A call builds what is registered for its own message type only. -/
theorem Call.count_builds_request (config : Config) (w : World σ) {k : ρ} {s : Slot ρ ν}
    (hs : s.type = .inl k) (call : Call σ ρ ν) :
    (call.builds r config w).count s = if call.sends k then (r.sendBuilds k).count s else 0 := by
  cases call with
  | send k' request signal =>
      by_cases hk : k' = k
      · subst hk
        simp [builds, sends]
      · have hother : s ∉ r.sendBuilds k' := by
          intro hmem
          exact hk (Sum.inl.inj ((type_of_mem_sendBuilds hmem).symm.trans hs))
        simp [builds, sends, hk, List.count_eq_zero_of_not_mem hother]
  | publish n event signal =>
      have hother : s ∉ r.publishBuilds n ((r.mediator config).chains n event signal w) := by
        intro hmem
        cases (type_of_mem_publishBuilds hmem).symm.trans hs
      simp [builds, sends, List.count_eq_zero_of_not_mem hother]
  | act a => simp [builds, sends]

theorem Call.count_builds_notification (config : Config) (w : World σ) {n : ν} {s : Slot ρ ν}
    (hs : s.type = .inr n) (call : Call σ ρ ν) :
    (call.builds r config w).count s = if call.publishes n then
      (r.publishBuilds n (call.chainsOf (r.mediator config) n w)).count s else 0 := by
  cases call with
  | publish n' event signal =>
      by_cases hn : n' = n
      · subst hn
        simp [builds, publishes, chainsOf]
      · have hother : s ∉ r.publishBuilds n' ((r.mediator config).chains n' event signal w) := by
          intro hmem
          exact hn (Sum.inr.inj ((type_of_mem_publishBuilds hmem).symm.trans hs))
        simp [builds, publishes, hn, List.count_eq_zero_of_not_mem hother]
  | send k request signal =>
      have hother : s ∉ r.sendBuilds k := by
        intro hmem
        cases (type_of_mem_sendBuilds hmem).symm.trans hs
      simp [builds, publishes, List.count_eq_zero_of_not_mem hother]
  | act a => simp [builds, publishes]

/-! ## Counts over a session -/

variable (r) (config : Config) (calls : List (Call σ ρ ν)) (w : World σ)

theorem Registry.count_sessionBuilds (s : Slot ρ ν) :
    (r.sessionBuilds config calls w).count s =
      (((r.mediator config).openings calls w).map fun opening =>
        (opening.1.builds r config opening.2).count s).sum := by
  rw [sessionBuilds, List.count_flatMap]
  rfl

theorem Registry.count_sessionBuilds_request {k : ρ} {s : Slot ρ ν} (hs : s.type = .inl k) :
    (r.sessionBuilds config calls w).count s =
      (r.sendBuilds k).count s * calls.countP (Call.sends k) := by
  have hcall (call : Call σ ρ ν) (v : World σ) := call.count_builds_request (r := r) config v hs
  simp only [count_sessionBuilds, hcall, Mediator.sum_openings]

/-- How many chains of one notification type a session starts. -/
def Mediator.chainsStarted (m : Mediator σ ρ ν) (n : ν) (calls : List (Call σ ρ ν))
    (w : World σ) : Nat :=
  ((m.openings calls w).map fun opening => opening.1.chainsOf m n opening.2).sum

/-- A session calls each factory as often as its registration says, and builds no
singleton. -/
structure Registry.BuiltAsRegistered : Prop where
  /-- Once for each call of the request type, if it is its only handler. -/
  handler : ∀ k i c, (r.handlers k)[i]? = some c →
    (r.sessionBuilds config calls w).count (.handler k i) =
      if (r.handlers k).length = 1 then c.builds * calls.countP (Call.sends k) else 0
  /-- Once for each call of the request type, if that has just one handler. -/
  interceptor : ∀ k i c, (r.interceptors k)[i]? = some c →
    (r.sessionBuilds config calls w).count (.interceptor k i) =
      if (r.handlers k).length = 1 then c.builds * calls.countP (Call.sends k) else 0
  /-- Once for each broadcast of the notification type. -/
  listener : ∀ n i c, (r.listeners n)[i]? = some c →
    (r.sessionBuilds config calls w).count (.listener n i) =
      c.builds * calls.countP (Call.publishes n)
  /-- Once for each chain that the broadcasts of the notification type start. -/
  listenerInterceptor : ∀ n i c, (r.listenerInterceptors n)[i]? = some c →
    (r.sessionBuilds config calls w).count (.listenerInterceptor n i) =
      c.builds * (r.mediator config).chainsStarted n calls w

theorem Registry.builtAsRegistered : r.BuiltAsRegistered config calls w where
  handler k i c hc := by
    rw [r.count_sessionBuilds_request config calls w rfl, count_sendBuilds_handler hc, ite_mul,
      Nat.zero_mul]
  interceptor k i c hc := by
    rw [r.count_sessionBuilds_request config calls w rfl, count_sendBuilds_interceptor hc, ite_mul,
      Nat.zero_mul]
  listener n i c hc := by
    have hcall (call : Call σ ρ ν) (v : World σ) :
        (call.builds r config v).count (.listener n i) =
          if call.publishes n then c.builds else 0 := by
      rw [Call.count_builds_notification config v rfl, count_publishBuilds_listener hc]
    simp only [count_sessionBuilds, hcall, Mediator.sum_openings]
  listenerInterceptor n i c hc := by
    have hcall (call : Call σ ρ ν) (v : World σ) :
        (call.builds r config v).count (.listenerInterceptor n i) =
          c.builds * call.chainsOf (r.mediator config) n v := by
      rw [Call.count_builds_notification config v rfl, count_publishBuilds_listenerInterceptor hc]
      cases hpublishes : call.publishes n with
      | true => rfl
      | false => simp [Call.chainsOf_eq_zero hpublishes]
    simp only [count_sessionBuilds, hcall]
    exact List.sum_map_mul_left _ _ _

end

/-! ## Sessions -/

theorem Registry.run_build [DecidableEq ρ] [DecidableEq ν] (entries : List (Entry σ ρ ν))
    (w : World σ) : ∃ t, (build entries).run w = ⟨.value (ofList entries), w, t⟩ :=
  ⟨_, rfl⟩

/-- Any number of calls and broadcasts through a registry whose factories do not
panic, whatever the caller does in between and however they end. If every factory
notes that it is called, the session answers and reports the same and leaves the same
world, and the notes are, call after call, the builds of each (`Call.builds`): the
handler and then the interceptors in the order of registration for a request type with
just one handler, and nothing else for a request; for a notification all its listeners,
and then the interceptors once for each chain that is started. There is a chain for
each listener that the broadcast comes to with the signal not cancelled. So each
factory is called as often as its registration says, and none is when a registry is
put together. -/
theorem Mediator.factories_called [DecidableEq ρ] [DecidableEq ν] {r : Registry σ ρ ν}
    (hcalm : r.Calm) (config : Config) (calls : List (Call σ ρ ν)) (w : World σ) :
    (∀ log, ((r.metered.mediator config).session (calls.map Call.lift)).run (w.beside log) =
      (((r.mediator config).session calls).run w).beside
        (log ++ r.sessionBuilds config calls w)) ∧
    r.BuiltAsRegistered config calls w ∧
    (∀ n event signal v i, (r.mediator config).Visits n event signal v i ↔
      i < (r.mediator config).chains n event signal v) ∧
    (∀ n event signal v, r.listeners n = [] → (r.mediator config).chains n event signal v = 0) ∧
    ∀ (entries : List (Entry (σ × List (Slot ρ ν)) ρ ν)) v,
      ∃ t, (Registry.build entries).run v = ⟨.value (.ofList entries), v, t⟩ := by
  refine ⟨run_session_metered hcalm config calls w, r.builtAsRegistered config calls w,
    fun _ _ _ _ _ => visits_iff, ?_, Registry.run_build⟩
  intro n event signal v hnone
  have hlisteners : ((r.mediator config).lookup.listeners n).run v = ⟨.value [], v, []⟩ := by
    show (resolveAll (r.listeners n)).run v = _
    rw [hnone]
    rfl
  rw [chains, hlisteners]
  rfl

/-- A request whose signal is cancelled, a broadcast that stops at the first listener,
a request with two handlers, and a broadcast that is cancelled from the start. -/
theorem Mediator.builds_of_four_calls :
    let r : Registry Unit Catalog.Request Catalog.Notification := .ofList [
      .handler .delete (.factory (return .recording "delete" ())),
      .interceptor .delete (.factory (return .recording "outer")),
      .interceptor .delete (.singleton (.recording "middle")),
      .interceptor .delete (.factory (return .recording "inner")),
      .handler .get (.factory (return .recording "get" none)),
      .handler .get (.factory (return .recording "get again" none)),
      .listener .deleted (.factory (return .failing "first" ⟨0, .conflict "busy"⟩)),
      .listener .deleted (.factory (return .recording "second" ())),
      .listenerInterceptor .deleted (.factory (return .recording "around"))]
    let request : Catalog.DeleteItem := ⟨⟨7⟩⟩
    let event : Catalog.ItemDeleted := ⟨⟨7⟩⟩
    let calls : List (Call Unit Catalog.Request Catalog.Notification) := [
      .send .delete request (.source 0), .publish .deleted event .never,
      .send .get (⟨⟨7⟩⟩ : Catalog.GetItem) .never, .publish .deleted event (.source 0)]
    let w : World Unit := { state := (), sources := [{ cancelled := true }] }
    r.Calm ∧
      (((r.metered.mediator {}).session (calls.map Call.lift)).run (w.beside [])).world.state.2 = [
        .handler .delete 0, .interceptor .delete 0, .interceptor .delete 2,
        .listener .deleted 0, .listener .deleted 1, .listenerInterceptor .deleted 0,
        .listener .deleted 0, .listener .deleted 1] := by
  intro r request event calls w
  have hcalm : r.Calm := by
    refine Registry.calm_ofList ?_
    simp only [List.forall_mem_cons]
    have hreturns {α : Type} (a : α) : (Registration.factory (return a : Action Unit α)).Calm :=
      fun w => ⟨a, w, [], rfl⟩
    exact ⟨hreturns _, hreturns _, fun w => ⟨_, w, [], rfl⟩, hreturns _, hreturns _, hreturns _,
      hreturns _, hreturns _, hreturns _, nofun⟩
  obtain ⟨hrun, -⟩ := factories_called hcalm {} calls w
  rw [hrun]
  exact ⟨hcalm, rfl⟩

end Switchboard
