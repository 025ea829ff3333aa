import Switchboard.Proofs.Attendance
import Switchboard.Proofs.Likeness

/-!
# Requests and notifications

A request to a handler and a notification to a single listener run the same,
whatever interceptors are around, if those around the one and around the other
are pairwise like (`request_like_notification`). They differ in what is logged
and in the form of the answer (`Corresponds`).
-/

namespace Switchboard

variable {σ ρ ν : Type} [Requests ρ] [Messages ν]

/-! ## Registrations -/

section

variable {α α' : Type} {like : α → α' → Prop}

/-- Resolved from the same world, both registrations act alike and yield related
components. -/
def Registration.Like (like : α → α' → Prop) (c : Registration σ α) (c' : Registration σ α') :
    Prop :=
  c.resolve.Alike like c'.resolve

theorem Registration.singleton_like {component : α} {component' : α'}
    (h : like component component') :
    Like like (.singleton component : Registration σ α) (.singleton component') :=
  .pure h

theorem resolveAll_alike {cs : List (Registration σ α)} {cs' : List (Registration σ α')}
    (h : List.Forall₂ (Registration.Like like) cs cs') :
    (resolveAll cs).Alike (List.Forall₂ like) (resolveAll cs') := by
  induction h with
  | nil => exact .pure .nil
  | cons hfirst _ ih =>
      exact .bind hfirst fun _ _ hc => .bind ih fun _ _ hcs => .pure (.cons hc hcs)

end

/-! ## Answers -/

/-- The answer to a request and the answer to a notification that say the same of
one handler: it succeeded, or it failed with the very failure that the broadcast
reports of listener number zero, in the form that goes with its strategy. -/
inductive Corresponds {R : Type} (n : ν) :
    PublishStrategy → Except DispatchError (Outcome R) → Except DispatchError Unit → Prop
  | succeeded (strategy : PublishStrategy) (reply : R) :
      Corresponds n strategy (.ok (.ok reply)) (.ok ())
  | stopped (f : Failure) :
      Corresponds n .stopOnFirstError (.ok (.error f))
        (.error (.notificationFailed (Messages.name n) ⟨0, f⟩))
  | collected (f : Failure) :
      Corresponds n .continueOnError (.ok (.error f))
        (.error (.notificationsFailed (Messages.name n) [⟨0, f⟩]))

namespace Mediator

variable {m : Mediator σ ρ ν} {n : ν} {event : Body n} {signal : Signal}
  {listener : Listener σ n} {w w' : World σ}

/-- What a broadcast to a single listener answers. -/
def soleAnswer (n : ν) (strategy : PublishStrategy) : Outcome Unit → Except DispatchError Unit
  | .ok () => .ok ()
  | .error f => match strategy with
    | .stopOnFirstError => .error (.notificationFailed (Messages.name n) ⟨0, f⟩)
    | .continueOnError => .error (.notificationsFailed (Messages.name n) [⟨0, f⟩])

theorem corresponds_soleAnswer {R : Type} {reply : R → Unit → Prop} {o : Outcome R}
    {o' : Outcome Unit} (h : OutcomeLike reply o o') (strategy : PublishStrategy) :
    Corresponds n strategy (.ok o) (soleAnswer n strategy o') := by
  cases h with
  | ok h => exact .succeeded strategy _
  | error f =>
      cases strategy with
      | stopOnFirstError => exact .stopped f
      | continueOnError => exact .collected f

/-- A broadcast to a single listener is the delivery to it. -/
theorem run_broadcast_sole {exit : Exit (Outcome Unit)} {t : Trace}
    (hopen : w.sources.isCancelled signal = false)
    (hrun : (m.deliver n event signal 0 listener).run w = ⟨exit, w', t⟩) :
    ∃ t', (m.broadcast n event signal 0 [] [listener]).run w =
        ⟨exit.map (soleAnswer n m.config.strategy), w', t'⟩ ∧ t'.journal = t.journal := by
  cases exit with
  | panicked p => exact ⟨t, run_broadcast_panicked hopen hrun, rfl⟩
  | value o =>
      cases o with
      | ok _ => exact ⟨t ++ [], run_broadcast_ok hopen hrun, by simp⟩
      | error f =>
          refine ⟨t ++ [Delivery.warning n ⟨0, f⟩], ?_, by simp [Delivery.warning]⟩
          rw [run_broadcast_error hopen hrun]
          cases hstrategy : m.config.strategy with
          | stopOnFirstError => simp [soleAnswer]
          | continueOnError => simp [soleAnswer, broadcast, broadcastResult]

/-- A call and a broadcast to a single listener whose chains run alike run alike. -/
theorem send_like_publish {k : ρ} {request : Body k} {handler : RequestHandler σ k}
    {links : List (RequestInterceptor σ k)} {links' : List (ListenerInterceptor σ n)}
    {reply : Reply k → Unit → Prop} {w₀ w₁ : World σ} {t₀ t₀' t₁ t₁' : Trace}
    (hhandler : (m.lookup.handler k).run w = ⟨.value (.ok handler), w₀, t₀⟩)
    (hlistener : (m.lookup.listeners n).run w = ⟨.value [listener], w₀, t₀'⟩)
    (hlinks : (m.lookup.interceptors k).run w₀ = ⟨.value links, w₁, t₁⟩)
    (hlinks' : (m.lookup.listenerInterceptors n).run w₀ = ⟨.value links', w₁, t₁'⟩)
    (ht₀ : t₀.journal = t₀'.journal) (ht₁ : t₁.journal = t₁'.journal)
    (hopen : w₀.sources.isCancelled signal = false)
    (hchain : ((chain (.request k) handler links request signal).run w₁).Like (OutcomeLike reply)
      ((chain (.notification n) listener links' event signal).run w₁)) :
    ((m.send k request signal).run w).Like (Corresponds n m.config.strategy)
      ((m.publish n event signal).run w) := by
  rw [run_send_eq hhandler hlinks, run_publish hlistener]
  rcases hrun : (chain (.request k) handler links request signal).run w₁ with ⟨exit, w', t⟩
  rcases hrun' : (chain (.notification n) listener links' event signal).run w₁ with
    ⟨exit', w'', t'⟩
  rw [hrun, hrun'] at hchain
  obtain ⟨hexit, rfl, ht⟩ := hchain
  obtain ⟨t₂, hbroadcast, ht₂⟩ := run_broadcast_sole hopen (run_deliver_eq hlinks' 0 listener hrun')
  rw [hbroadcast]
  refine ⟨?_, rfl, ?_⟩
  · cases hexit with
    | value ho => exact .value (corresponds_soleAnswer ho _)
    | panicked p => exact .panicked p
  · have hjournal : t.journal = t'.journal := ht
    simp [sentRun, dispatching, journal_completed, opened, ht₀, ht₁, ht₂, hjournal]

/-- Interceptors that panic when they are built end a call and a broadcast alike. -/
theorem send_like_publish_of_panic {k : ρ} {request : Body k} {handler : RequestHandler σ k}
    {p : Panic} {w₀ w₁ : World σ} {t₀ t₀' t₁ t₁' : Trace}
    (hhandler : (m.lookup.handler k).run w = ⟨.value (.ok handler), w₀, t₀⟩)
    (hlistener : (m.lookup.listeners n).run w = ⟨.value [listener], w₀, t₀'⟩)
    (hlinks : (m.lookup.interceptors k).run w₀ = ⟨.panicked p, w₁, t₁⟩)
    (hlinks' : (m.lookup.listenerInterceptors n).run w₀ = ⟨.panicked p, w₁, t₁'⟩)
    (ht₀ : t₀.journal = t₀'.journal) (ht₁ : t₁.journal = t₁'.journal)
    (hopen : w₀.sources.isCancelled signal = false) :
    ((m.send k request signal).run w).Like (Corresponds n m.config.strategy)
      ((m.publish n event signal).run w) := by
  have hsend : (m.send k request signal).run w =
      (⟨.panicked p, w₁, t₁⟩ : Run σ (Except DispatchError (Outcome (Reply k)))).after t₀ := by
    rw [send, Action.run_bind_of_value hhandler]
    simp only [Action.run_bind_of_panic hlinks]
  have hdeliver : (m.deliver n event signal 0 listener).run w₀ = ⟨.panicked p, w₁, t₁'⟩ :=
    Action.run_bind_of_panic hlinks' _
  rw [hsend, run_publish hlistener, run_broadcast_panicked hopen hdeliver]
  exact ⟨.panicked p, rfl, by simp [opened, ht₀, ht₁]⟩

/-- A call that has found its handler and a broadcast that has found its only listener
run alike, if these and the interceptors around them are alike. -/
theorem send_like_publish_of_found {k : ρ} {handler : RequestHandler σ k}
    {message : Body k → Body n → Prop} {reply : Reply k → Unit → Prop} {w₀ : World σ}
    {t₀ t₀' : Trace} (hhandler : (m.lookup.handler k).run w = ⟨.value (.ok handler), w₀, t₀⟩)
    (hlistener : (m.lookup.listeners n).run w = ⟨.value [listener], w₀, t₀'⟩)
    (ht₀ : t₀.journal = t₀'.journal) (hlike : HandlerLike message reply handler listener)
    (hlinks : (m.lookup.interceptors k).Alike (List.Forall₂ (Interceptor.Like message reply))
      (m.lookup.listenerInterceptors n))
    {request : Body k} (hsame : message request event)
    (hopen : w₀.sources.isCancelled signal = false) :
    ((m.send k request signal).run w).Like (Corresponds n m.config.strategy)
      ((m.publish n event signal).run w) := by
  rcases (hlinks w₀).cases with ⟨links, links', w₁, t₁, t₁', hbuilt, hbuilt', hpairs, ht₁⟩ |
    ⟨p, w₁, t₁, t₁', hbuilt, hbuilt', ht₁⟩
  · have hchain := chain_like (.request k) (.notification n) hlike hpairs request event hsame signal
    exact send_like_publish hhandler hlistener hbuilt hbuilt' ht₀ ht₁ hopen (hchain w₁)
  · exact send_like_publish_of_panic hhandler hlistener hbuilt hbuilt' ht₀ ht₁ hopen

section

variable {r : Registry σ ρ ν} (hlookup : m.lookup = r.lookup)

include hlookup

theorem lookup_handler_of_one {k : ρ} {only : Registration σ (RequestHandler σ k)}
    (hone : r.handlers k = [only]) : m.lookup.handler k = .ok <$> only.resolve := by
  rw [hlookup]
  show r.resolveHandler k = _
  simp only [Registry.resolveHandler, hone]
  rfl

theorem lookup_listeners_of_one {only : Registration σ (Listener σ n)}
    (hone : r.listeners n = [only]) : m.lookup.listeners n = (fun l => [l]) <$> only.resolve := by
  rw [hlookup]
  show resolveAll (r.listeners n) = _
  rw [hone]
  rfl

theorem lookup_interceptors_alike {k : ρ} {message : Body k → Body n → Prop}
    {reply : Reply k → Unit → Prop}
    (hlinks : List.Forall₂ (Registration.Like (Interceptor.Like message reply))
      (r.interceptors k) (r.listenerInterceptors n)) :
    (m.lookup.interceptors k).Alike (List.Forall₂ (Interceptor.Like message reply))
      (m.lookup.listenerInterceptors n) := by
  rw [hlookup]
  exact resolveAll_alike hlinks

end

/-- A request type with one handler and a notification type with one listener, like
each other, with pairwise like interceptors around them. Then a call and a broadcast
from the same world run alike, if the signal is not cancelled once the handler has
been looked up (a singleton is looked up without a change): they leave the same world
and the same journal, and their answers correspond, or they panic with the same payload. -/
theorem request_like_notification {m : Mediator σ ρ ν} {r : Registry σ ρ ν}
    (hlookup : m.lookup = r.lookup) {k : ρ} {n : ν} {handler : Registration σ (RequestHandler σ k)}
    {listener : Registration σ (Listener σ n)} (hhandler : r.handlers k = [handler])
    (hlistener : r.listeners n = [listener]) {message : Body k → Body n → Prop}
    {reply : Reply k → Unit → Prop} (hlike : handler.Like (HandlerLike message reply) listener)
    (hlinks : List.Forall₂ (Registration.Like (Interceptor.Like message reply))
      (r.interceptors k) (r.listenerInterceptors n))
    {request : Body k} {event : Body n} (hsame : message request event) {signal : Signal}
    {w : World σ} (hopen : (handler.resolve.run w).world.sources.isCancelled signal = false) :
    ((m.send k request signal).run w).Like (Corresponds n m.config.strategy)
      ((m.publish n event signal).run w) := by
  have hfound := lookup_handler_of_one hlookup hhandler
  have hfound' := lookup_listeners_of_one hlookup hlistener
  have hlookups := lookup_interceptors_alike hlookup hlinks
  rcases (hlike w).cases with ⟨h, l, w₀, t₀, t₀', hrun, hrun', hhl, ht₀⟩ |
    ⟨p, w₀, t₀, t₀', hrun, hrun', ht₀⟩
  · have hh : (m.lookup.handler k).run w = ⟨.value (.ok h), w₀, t₀⟩ := by
      rw [hfound, Action.run_map, hrun]
      rfl
    have hl : (m.lookup.listeners n).run w = ⟨.value [l], w₀, t₀'⟩ := by
      rw [hfound', Action.run_map, hrun']
      rfl
    rw [hrun] at hopen
    exact send_like_publish_of_found hh hl ht₀ hhl hlookups hsame hopen
  · -- a factory that panics ends both calls before anything else is looked up
    have hh : (m.lookup.handler k).run w = ⟨.panicked p, w₀, t₀⟩ := by
      rw [hfound, Action.run_map, hrun]
      rfl
    have hl : (m.lookup.listeners n).run w = ⟨.panicked p, w₀, t₀'⟩ := by
      rw [hfound', Action.run_map, hrun']
      rfl
    rw [send, publish, Action.run_bind_of_panic hh, Action.run_bind_of_panic hl]
    exact ⟨.panicked p, rfl, ht₀⟩

/-- A singleton handler and a singleton listener are looked up without a change, so that the
signal need only not be cancelled when the call and the broadcast begin. -/
theorem singletons_alike {m : Mediator σ ρ ν} {r : Registry σ ρ ν}
    (hlookup : m.lookup = r.lookup) {k : ρ} {n : ν} {handler : RequestHandler σ k}
    {listener : Listener σ n} (hhandler : r.handlers k = [.singleton handler])
    (hlistener : r.listeners n = [.singleton listener]) {message : Body k → Body n → Prop}
    {reply : Reply k → Unit → Prop} (hlike : HandlerLike message reply handler listener)
    (hlinks : List.Forall₂ (Registration.Like (Interceptor.Like message reply))
      (r.interceptors k) (r.listenerInterceptors n))
    {request : Body k} {event : Body n} (hsame : message request event) {signal : Signal}
    {w : World σ} (hopen : w.sources.isCancelled signal = false) :
    ((m.send k request signal).run w).Like (Corresponds n m.config.strategy)
      ((m.publish n event signal).run w) := by
  have hh : (m.lookup.handler k).run w = ⟨.value (.ok handler), w, []⟩ := by
    rw [lookup_handler_of_one hlookup hhandler]
    rfl
  have hl : (m.lookup.listeners n).run w = ⟨.value [listener], w, []⟩ := by
    rw [lookup_listeners_of_one hlookup hlistener]
    rfl
  exact send_like_publish_of_found hh hl rfl hlike (lookup_interceptors_alike hlookup hlinks) hsame
    hopen

/-- Records its name and panics. -/
def crashing (name : String) (_ : Signal) : Action σ (Outcome Unit) := do
  Action.record name
  Action.panic (.text "lost the index")

theorem crash_on_deletion :
    let r : Registry Unit Catalog.Request Catalog.Notification := .ofList [
      .handler .delete (.singleton (.uniform (crashing "index"))),
      .interceptor .delete (.singleton (.recording "A")),
      .interceptor .delete (.singleton (.logging Catalog.Request.delete)),
      .interceptor .delete (.singleton (.uniform (cancellingAfterwards 0))),
      .interceptor .delete (.singleton (.panicBoundary (.request Catalog.Request.delete))),
      .listener .deleted (.singleton (.uniform (crashing "index"))),
      .listenerInterceptor .deleted (.singleton (.recording "A")),
      .listenerInterceptor .deleted (.singleton (.listenerLogging Catalog.Notification.deleted)),
      .listenerInterceptor .deleted (.singleton (.uniform (cancellingAfterwards 0))),
      .listenerInterceptor .deleted
        (.singleton (.panicBoundary (.notification Catalog.Notification.deleted)))]
    let m : Mediator Unit Catalog.Request Catalog.Notification :=
      ⟨r.lookup, { strategy := .continueOnError }⟩
    let request : Catalog.DeleteItem := ⟨⟨7⟩⟩
    let event : Catalog.ItemDeleted := ⟨⟨7⟩⟩
    let w : World Unit := { state := (), sources := [{}] }
    let run := (m.send .delete request (.source 0)).run w
    let run' := (m.publish .deleted event (.source 0)).run w
    run.Like (Corresponds Catalog.Notification.deleted .continueOnError) run' ∧
      run.exit = .value (.ok (.error ⟨0, .unexpected "lost the index"⟩)) ∧
      run'.exit = .value (.error (.notificationsFailed "ItemDeleted"
        [⟨0, 0, .unexpected "lost the index"⟩])) ∧
      run.trace.journal = ["A-before", "index", "A-after"] := by
  intro r m request event w run run'
  let same : Body Catalog.Request.delete → Body Catalog.Notification.deleted → Prop :=
    fun (a : Catalog.DeleteItem) (b : Catalog.ItemDeleted) => a.id = b.id
  let reply : Reply Catalog.Request.delete → Unit → Prop := @Eq Unit
  have hlinks : List.Forall₂ (Registration.Like (Interceptor.Like same reply))
      (r.interceptors .delete) (r.listenerInterceptors .deleted) :=
    .cons (Registration.singleton_like (Interceptor.recording_like "A")) <|
    .cons (Registration.singleton_like (Interceptor.logging_like _ _)) <|
    .cons (Registration.singleton_like (Interceptor.uniform_like _)) <|
    .cons (Registration.singleton_like (Interceptor.panicBoundary_like _ _)) .nil
  have hlike : ((m.send .delete request (.source 0)).run w).Like
      (Corresponds Catalog.Notification.deleted m.config.strategy)
      ((m.publish .deleted event (.source 0)).run w) := by
    refine request_like_notification (r := r) rfl rfl rfl ?_ hlinks rfl rfl
    exact Registration.singleton_like (Handler.uniform_like (fun _ => rfl) _)
  have hbroadcast : run'.exit = .value (.error (.notificationsFailed "ItemDeleted"
      [⟨0, 0, .unexpected "lost the index"⟩])) := by decide +kernel
  have hcall : run.exit = .value (.ok (.error ⟨0, .unexpected "lost the index"⟩)) := by
    have hexit : run.exit.Like _ run'.exit := hlike.exit
    rw [hbroadcast] at hexit
    generalize run.exit = exit at hexit
    cases hexit with
    | value h =>
        cases h
        rfl
  exact ⟨hlike, hcall, hbroadcast, by decide +kernel⟩

end Mediator

end Switchboard
