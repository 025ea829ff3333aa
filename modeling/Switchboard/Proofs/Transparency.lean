import Mathlib.Logic.Function.Basic
import Switchboard.Proofs.Broadcast
import Switchboard.Proofs.Logging

/-!
# Transparency

Two mediators that differ only in links which log. Their lookups end the same
way, chain for chain they run the same but for the log (`LinksAlike`), and so do
their calls and broadcasts (`Mediator.AlikeButLog.sameButLog`).

- `insertsLog`: what a lookup finds with logging registered among the others;
- `Mediator.logging_changes_only_log`: logging added to the registry.
-/

namespace Switchboard

variable {σ α M R : Type}

/-! ## Looking the links up -/

/-- Resolving with one more registration, which costs nothing, among the others. -/
theorem resolveAll_inserted {inserted : Registration σ α} {c : α}
    (hinserted : inserted.resolve = pure c) (before after : List (Registration σ α))
    (w : World σ) :
    (∃ p w' t, (resolveAll (before ++ after)).run w = ⟨.panicked p, w', t⟩ ∧
      (resolveAll (before ++ inserted :: after)).run w = ⟨.panicked p, w', t⟩) ∨
    ∃ outer inner w' t, (resolveAll (before ++ after)).run w = ⟨.value (outer ++ inner), w', t⟩ ∧
      (resolveAll (before ++ inserted :: after)).run w = ⟨.value (outer ++ c :: inner), w', t⟩ ∧
      List.Forall₂ Registration.Yields before outer := by
  induction before generalizing w with
  | nil =>
      have hfirst : resolveAll (inserted :: after) =
          (resolveAll after >>= fun cs => pure (c :: cs)) := by
        rw [resolveAll, hinserted, pure_bind]
      rcases hafter : (resolveAll after).run w with ⟨exit, w', t⟩
      cases exit with
      | panicked p =>
          refine .inl ⟨p, w', t, hafter, ?_⟩
          rw [List.nil_append, hfirst, Action.run_bind_of_panic hafter]
      | value inner =>
          refine .inr ⟨[], inner, w', t, hafter, ?_, .nil⟩
          rw [List.nil_append, hfirst, Action.run_bind_of_value hafter]
          simp
  | cons r before ih =>
      rcases hfirst : r.resolve.run w with ⟨exit, w₁, t₁⟩
      cases exit with
      | panicked p =>
          exact .inl ⟨p, w₁, t₁, Action.run_bind_of_panic hfirst _,
            Action.run_bind_of_panic hfirst _⟩
      | value first =>
          simp only [List.cons_append, resolveAll, Action.run_bind_of_value hfirst]
          rcases ih w₁ with ⟨p, w', t, hplain, hmore⟩ |
            ⟨outer, inner, w', t, hplain, hmore, hyields⟩
          · refine .inl ⟨p, w', t₁ ++ t, ?_, ?_⟩
            · rw [Action.run_bind_of_panic hplain, Run.after_mk]
            · rw [Action.run_bind_of_panic hmore, Run.after_mk]
          · refine .inr ⟨first :: outer, inner, w', t₁ ++ t, ?_, ?_,
              .cons ⟨w, w₁, t₁, hfirst⟩ hyields⟩
            · rw [Action.run_bind_of_value hplain]
              simp
            · rw [Action.run_bind_of_value hmore]
              simp

theorem blind_of_yields {rs : List (Registration σ (Interceptor σ M R))}
    {links : List (Interceptor σ M R)} (h : List.Forall₂ Registration.Yields rs links)
    (hblind : ∀ r ∈ rs, ∀ link, r.Yields link → link.Blind) : ∀ link ∈ links, link.Blind := by
  induction h with
  | nil => exact nofun
  | cons hyields _ ih =>
      exact List.forall_mem_cons.mpr ⟨hblind _ List.mem_cons_self _ hyields,
        ih fun r hr => hblind r (List.mem_cons_of_mem _ hr)⟩

/-- What resolving yields with a link that only logs among the others. -/
theorem resolveAll_addsLog {inserted : Registration σ (Interceptor σ M R)}
    {link : Interceptor σ M R} {l : LogPair M R} (hinserted : inserted.resolve = pure link)
    (hlink : link.OnlyLogs l) {before : List (Registration σ (Interceptor σ M R))}
    (hblind : ∀ c ∈ before, ∀ other, c.Yields other → other.Blind) (topic : Topic)
    (after : List (Registration σ (Interceptor σ M R))) (w : World σ) :
    (∃ p w' t, (resolveAll (before ++ after)).run w = ⟨.panicked p, w', t⟩ ∧
      (resolveAll (before ++ inserted :: after)).run w = ⟨.panicked p, w', t⟩) ∨
    ∃ outer inner w' t, (resolveAll (before ++ after)).run w = ⟨.value (outer ++ inner), w', t⟩ ∧
      (resolveAll (before ++ inserted :: after)).run w = ⟨.value (outer ++ link :: inner), w', t⟩ ∧
      outer.length = before.length ∧ ∀ handler message signal,
        AddsLog l link topic handler outer inner ⟨message, signal, w'⟩ := by
  rcases resolveAll_inserted hinserted before after w with
    hpanics | ⟨outer, inner, w', t, hplain, hlogged, hyields⟩
  · exact .inl hpanics
  · have houter : ∀ other ∈ outer, other.Blind := blind_of_yields hyields hblind
    exact .inr ⟨outer, inner, w', t, hplain, hlogged, hyields.length_eq.symm,
      fun handler message signal => addsLog hlink houter topic handler inner _⟩

/-- Two lookups of links end the same way, and whatever handler they stand around,
their chains differ in the log only. -/
def LinksAlike (topic : Topic) (a a' : Action σ (List (Interceptor σ M R))) : Prop :=
  ∀ w, (∃ p w' t, a.run w = ⟨.panicked p, w', t⟩ ∧ a'.run w = ⟨.panicked p, w', t⟩) ∨
    ∃ links links' w' t, a.run w = ⟨.value links, w', t⟩ ∧ a'.run w = ⟨.value links', w', t⟩ ∧
      ∀ handler message signal, ((chain topic handler links message signal).run w').SameButLog
        ((chain topic handler links' message signal).run w')

theorem linksAlike_inserted {inserted : Registration σ (Interceptor σ M R)}
    {link : Interceptor σ M R} {l : LogPair M R} (hinserted : inserted.resolve = pure link)
    (hlink : link.OnlyLogs l) {before : List (Registration σ (Interceptor σ M R))}
    (hblind : ∀ c ∈ before, ∀ other, c.Yields other → other.Blind) (topic : Topic)
    (after : List (Registration σ (Interceptor σ M R))) :
    LinksAlike topic (resolveAll (before ++ after)) (resolveAll (before ++ inserted :: after)) := by
  intro w
  rcases resolveAll_addsLog hinserted hlink hblind topic after w with
    hpanics | ⟨outer, inner, w', t, hplain, hlogged, -, hadds⟩
  · exact .inl hpanics
  · exact .inr ⟨_, _, w', t, hplain, hlogged, fun handler message signal =>
      (hadds handler message signal).same⟩

theorem LinksAlike.refl (topic : Topic) (a : Action σ (List (Interceptor σ M R))) :
    LinksAlike topic a a := by
  intro w
  rcases ha : a.run w with ⟨exit, w', t⟩
  cases exit with
  | panicked p => exact .inl ⟨p, w', t, rfl, rfl⟩
  | value links => exact .inr ⟨links, links, w', t, rfl, rfl, fun _ _ _ => ⟨rfl, rfl, rfl⟩⟩

/-- The second lookup yields what the first one does, with a link that only logs at
one place among the others. -/
def InsertsLog (l : LogPair M R) (link : Interceptor σ M R) (topic : Topic) (place : Nat)
    (a a' : Action σ (List (Interceptor σ M R))) : Prop :=
  ∀ w links w' t, a.run w = ⟨.value links, w', t⟩ → ∃ outer inner, links = outer ++ inner ∧
    outer.length = place ∧ a'.run w = ⟨.value (outer ++ link :: inner), w', t⟩ ∧
    ∀ handler message signal, AddsLog l link topic handler outer inner ⟨message, signal, w'⟩

theorem insertsLog {inserted : Registration σ (Interceptor σ M R)}
    {link : Interceptor σ M R} {l : LogPair M R} (hinserted : inserted.resolve = pure link)
    (hlink : link.OnlyLogs l) {before : List (Registration σ (Interceptor σ M R))}
    (hblind : ∀ c ∈ before, ∀ other, c.Yields other → other.Blind) (topic : Topic)
    (after : List (Registration σ (Interceptor σ M R))) :
    InsertsLog l link topic before.length (resolveAll (before ++ after))
      (resolveAll (before ++ inserted :: after)) := by
  intro w links w' t hlinks
  rcases resolveAll_addsLog hinserted hlink hblind topic after w with
    ⟨p, w₁, t₁, hpanics, -⟩ | ⟨outer, inner, w₁, t₁, hplain, hlogged, hlength, hadds⟩
  · cases hlinks.symm.trans hpanics
  · cases hlinks.symm.trans hplain
    exact ⟨outer, inner, rfl, hlength, hlogged, hadds⟩

namespace Registry

variable {ρ ν : Type} [Requests ρ] [Messages ν]

/-- The registry with other interceptors of one request type. -/
def withInterceptors [DecidableEq ρ] (r : Registry σ ρ ν) (k : ρ)
    (rs : List (Registration σ (RequestInterceptor σ k))) : Registry σ ρ ν :=
  { r with interceptors := Function.update r.interceptors k rs }

/-- The registry with other interceptors of one notification type. -/
def withListenerInterceptors [DecidableEq ν] (r : Registry σ ρ ν) (n : ν)
    (rs : List (Registration σ (ListenerInterceptor σ n))) : Registry σ ρ ν :=
  { r with listenerInterceptors := Function.update r.listenerInterceptors n rs }

end Registry

/-! ## Calls and broadcasts -/

theorem Run.SameButLog.after {r r' : Run σ α} (h : r.SameButLog r') {t t' : Trace}
    (ht : t.journal = t'.journal) : (r.after t).SameButLog (r'.after t') :=
  ⟨h.exit, h.world, by simp [Run.after, ht, h.journal]⟩

namespace Mediator

variable {ρ ν : Type} [Requests ρ] [Messages ν]

/-- Two deliveries with the same outcome, that leave the same world and journal. -/
structure SameDelivery (d d' : Delivery σ) : Prop where
  index : d.index = d'.index
  outcome : d.outcome = d'.outcome
  after : d.after = d'.after
  journal : d.trace.journal = d'.trace.journal

/-- From every world, calls and broadcasts run the same but for the log, and a
broadcast makes the same deliveries. -/
structure SameButLog (m m' : Mediator σ ρ ν) : Prop where
  send : ∀ k request signal w,
    ((m.send k request signal).run w).SameButLog ((m'.send k request signal).run w)
  publish : ∀ n event signal w,
    ((m.publish n event signal).run w).SameButLog ((m'.publish n event signal).run w)
  delivered : ∀ n event signal index ran w ds w',
    m.Delivered n event signal index ran w ds w' →
      ∃ ds', m'.Delivered n event signal index ran w ds' w' ∧ List.Forall₂ SameDelivery ds ds'

theorem sentRun_sameButLog {k : ρ} {r r' : Run σ (Outcome (Reply k))} (h : r.SameButLog r')
    (m m' : Mediator σ ρ ν) (before : Trace) (count count' : Nat) :
    (m.sentRun k before count r).SameButLog (m'.sentRun k before count' r') where
  exit := by simp only [sentRun, h.exit]
  world := h.world
  journal := by simp [sentRun, dispatching, journal_completed, h.journal]

/-- The two mediators are the same but for links that show in the log only. -/
structure AlikeButLog (m m' : Mediator σ ρ ν) : Prop where
  config : m.config = m'.config
  handler : ∀ k, m.lookup.handler k = m'.lookup.handler k
  interceptors : ∀ k, LinksAlike (.request k) (m.lookup.interceptors k) (m'.lookup.interceptors k)
  listeners : ∀ n, m.lookup.listeners n = m'.lookup.listeners n
  listenerInterceptors : ∀ n, LinksAlike (.notification n) (m.lookup.listenerInterceptors n)
    (m'.lookup.listenerInterceptors n)

namespace AlikeButLog

variable {m m' : Mediator σ ρ ν}

theorem send (h : m.AlikeButLog m') (k : ρ) (request : Body k) (signal : Signal) (w : World σ) :
    ((m.send k request signal).run w).SameButLog ((m'.send k request signal).run w) := by
  rcases hhandler : (m.lookup.handler k).run w with ⟨exit, w₀, t₀⟩
  have hhandler' : (m'.lookup.handler k).run w = ⟨exit, w₀, t₀⟩ := by rw [← h.handler, hhandler]
  cases exit with
  | panicked p =>
      rw [Mediator.send, Mediator.send, Action.run_bind_of_panic hhandler,
        Action.run_bind_of_panic hhandler']
      exact ⟨rfl, rfl, rfl⟩
  | value found =>
      cases found with
      | error e =>
          rw [Mediator.send, Mediator.send, Action.run_bind_of_value hhandler,
            Action.run_bind_of_value hhandler']
          exact ⟨rfl, rfl, rfl⟩
      | ok handler =>
          rcases h.interceptors k w₀ with
            ⟨p, w₁, t₁, hlinks, hlinks'⟩ | ⟨links, links', w₁, t₁, hlinks, hlinks', hchains⟩
          · rw [Mediator.send, Mediator.send, Action.run_bind_of_value hhandler,
              Action.run_bind_of_value hhandler']
            simp only [Action.run_bind_of_panic hlinks, Action.run_bind_of_panic hlinks']
            exact ⟨rfl, rfl, rfl⟩
          · rw [run_send_eq hhandler hlinks, run_send_eq hhandler' hlinks']
            exact sentRun_sameButLog (hchains handler request signal) m m' _ _ _

theorem deliver (h : m.AlikeButLog m') (n : ν) (event : Body n) (signal : Signal) (index : Nat)
    (listener : Listener σ n) (w : World σ) :
    ((m.deliver n event signal index listener).run w).SameButLog
      ((m'.deliver n event signal index listener).run w) := by
  rcases h.listenerInterceptors n w with
    ⟨p, w₁, t₁, hlinks, hlinks'⟩ | ⟨links, links', w₁, t₁, hlinks, hlinks', hchains⟩
  · rw [Mediator.deliver, Mediator.deliver, Action.run_bind_of_panic hlinks,
      Action.run_bind_of_panic hlinks']
    exact ⟨rfl, rfl, rfl⟩
  · have hchain := hchains listener event signal
    rw [run_deliver_eq hlinks index listener rfl, run_deliver_eq hlinks' index listener rfl]
    exact ⟨hchain.exit, hchain.world, by simp [hchain.journal]⟩

theorem broadcast (h : m.AlikeButLog m') (n : ν) (event : Body n) (signal : Signal) (index : Nat)
    (failures : List HandlerFailure) (listeners : List (Listener σ n)) (w : World σ) :
    ((m.broadcast n event signal index failures listeners).run w).SameButLog
      ((m'.broadcast n event signal index failures listeners).run w) := by
  induction listeners generalizing index failures w with
  | nil => exact ⟨rfl, rfl, rfl⟩
  | cons listener rest ih =>
      cases hsig : w.sources.isCancelled signal with
      | true =>
          rw [run_broadcast_cancelled hsig, run_broadcast_cancelled hsig]
          exact ⟨rfl, rfl, rfl⟩
      | false =>
          have hdeliver := h.deliver n event signal index listener w
          rcases hrun : (m.deliver n event signal index listener).run w with ⟨exit, w₁, t⟩
          rcases hrun' : (m'.deliver n event signal index listener).run w with ⟨exit', w₁', t'⟩
          rw [hrun, hrun'] at hdeliver
          obtain ⟨rfl, rfl, hjournal⟩ : exit = exit' ∧ w₁ = w₁' ∧ t.journal = t'.journal :=
            ⟨hdeliver.exit, hdeliver.world, hdeliver.journal⟩
          rcases exit with (f | _) | p
          · rw [run_broadcast_error hsig hrun, run_broadcast_error hsig hrun', ← h.config]
            cases m.config.strategy with
            | stopOnFirstError => exact ⟨rfl, rfl, by simp [hjournal]⟩
            | continueOnError => exact (ih ..).after (by simp [hjournal])
          · rw [run_broadcast_ok hsig hrun, run_broadcast_ok hsig hrun']
            exact (ih ..).after hjournal
          · rw [run_broadcast_panicked hsig hrun, run_broadcast_panicked hsig hrun']
            exact ⟨rfl, rfl, hjournal⟩

theorem publish (h : m.AlikeButLog m') (n : ν) (event : Body n) (signal : Signal) (w : World σ) :
    ((m.publish n event signal).run w).SameButLog ((m'.publish n event signal).run w) := by
  rcases hlisteners : (m.lookup.listeners n).run w with ⟨exit, w₀, t₀⟩
  have hlisteners' : (m'.lookup.listeners n).run w = ⟨exit, w₀, t₀⟩ := by
    rw [← h.listeners, hlisteners]
  cases exit with
  | panicked p =>
      rw [Mediator.publish, Mediator.publish, Action.run_bind_of_panic hlisteners,
        Action.run_bind_of_panic hlisteners']
      exact ⟨rfl, rfl, rfl⟩
  | value listeners =>
      rw [run_publish hlisteners, run_publish hlisteners']
      exact (h.broadcast n event signal 0 [] listeners w₀).after rfl

theorem delivered (h : m.AlikeButLog m') {n : ν} {event : Body n} {signal : Signal} {index : Nat}
    {ran : List (Listener σ n)} {w w' : World σ} {ds : List (Delivery σ)}
    (hds : m.Delivered n event signal index ran w ds w') :
    ∃ ds', m'.Delivered n event signal index ran w ds' w' ∧ List.Forall₂ SameDelivery ds ds' := by
  induction hds with
  | none index w => exact ⟨[], .none index w, .nil⟩
  | @next index listener rest w w₁ w' o t ds hopen hrun _ ih =>
      obtain ⟨ds', hds', hsame⟩ := ih
      have hdeliver := h.deliver n event signal index listener w
      rcases hrun' : (m'.deliver n event signal index listener).run w with ⟨exit', w₁', t'⟩
      rw [hrun, hrun'] at hdeliver
      obtain ⟨rfl, rfl, hjournal⟩ : .value o = exit' ∧ w₁ = w₁' ∧ t.journal = t'.journal :=
        ⟨hdeliver.exit, hdeliver.world, hdeliver.journal⟩
      exact ⟨_, .next hopen hrun' hds', .cons ⟨rfl, rfl, rfl, hjournal⟩ hsame⟩

theorem sameButLog (h : m.AlikeButLog m') : m.SameButLog m' where
  send := h.send
  publish := h.publish
  delivered _ _ _ _ _ _ _ _ hds := h.delivered hds

end AlikeButLog

section

variable {r : Registry σ ρ ν} {config : Config}

theorem alikeButLog_interceptors [DecidableEq ρ] {k : ρ}
    {before after : List (Registration σ (RequestInterceptor σ k))}
    {inserted : Registration σ (RequestInterceptor σ k)}
    (hsplit : r.interceptors k = before ++ after) (hinserted : inserted.resolve = pure (.logging k))
    (hblind : ∀ c ∈ before, ∀ link, c.Yields link → link.Blind) :
    AlikeButLog ⟨r.lookup, config⟩
      ⟨(r.withInterceptors k (before ++ inserted :: after)).lookup, config⟩ where
  config := rfl
  handler _ := rfl
  interceptors i := by
    simp only [Registry.lookup, Registry.withInterceptors]
    by_cases hi : i = k
    · subst hi
      rw [Function.update_self, hsplit]
      exact linksAlike_inserted hinserted (Interceptor.logging_onlyLogs i) hblind _ after
    · rw [Function.update_of_ne hi]
      exact .refl _ _
  listeners _ := rfl
  listenerInterceptors _ := .refl _ _

theorem alikeButLog_listenerInterceptors [DecidableEq ν] {n : ν}
    {before after : List (Registration σ (ListenerInterceptor σ n))}
    {inserted : Registration σ (ListenerInterceptor σ n)}
    (hsplit : r.listenerInterceptors n = before ++ after)
    (hinserted : inserted.resolve = pure (.listenerLogging n))
    (hblind : ∀ c ∈ before, ∀ link, c.Yields link → link.Blind) :
    AlikeButLog ⟨r.lookup, config⟩
      ⟨(r.withListenerInterceptors n (before ++ inserted :: after)).lookup, config⟩ where
  config := rfl
  handler _ := rfl
  interceptors _ := .refl _ _
  listeners _ := rfl
  listenerInterceptors i := by
    simp only [Registry.lookup, Registry.withListenerInterceptors]
    by_cases hi : i = n
    · subst hi
      rw [Function.update_self, hsplit]
      exact linksAlike_inserted hinserted (Interceptor.listenerLogging_onlyLogs i) hblind _ after
    · rw [Function.update_of_ne hi]
      exact .refl _ _

end

/-- Logging, put anywhere among the interceptors of one request type or of one
notification type, singleton or built anew for each chain, if the interceptors
outside of it do not ask whether the handler is next. Then all calls and all
broadcasts run the same but for the log: from every world, with every message and
every signal, whoever cancels it, and whatever panics. The chains of that type
enter the same other links at the same stages, and what the log gets is one event
for a message that comes to the place of the logging with its signal not cancelled,
and one for the outcome of the deeper part, if that does not panic. -/
theorem logging_changes_only_log [DecidableEq ρ] [DecidableEq ν] (r : Registry σ ρ ν)
    (config : Config) :
    (∀ (k : ρ) (before after : List (Registration σ (RequestInterceptor σ k)))
        (inserted : Registration σ (RequestInterceptor σ k)),
      r.interceptors k = before ++ after → inserted.resolve = pure (.logging k) →
      (∀ c ∈ before, ∀ link, c.Yields link → link.Blind) →
      let m : Mediator σ ρ ν := ⟨r.lookup, config⟩
      let m' : Mediator σ ρ ν :=
        ⟨(r.withInterceptors k (before ++ inserted :: after)).lookup, config⟩
      m.SameButLog m' ∧ InsertsLog (Interceptor.requestLog k) (.logging k) (.request k)
        before.length (m.lookup.interceptors k) (m'.lookup.interceptors k)) ∧
    (∀ (n : ν) (before after : List (Registration σ (ListenerInterceptor σ n)))
        (inserted : Registration σ (ListenerInterceptor σ n)),
      r.listenerInterceptors n = before ++ after → inserted.resolve = pure (.listenerLogging n) →
      (∀ c ∈ before, ∀ link, c.Yields link → link.Blind) →
      let m : Mediator σ ρ ν := ⟨r.lookup, config⟩
      let m' : Mediator σ ρ ν :=
        ⟨(r.withListenerInterceptors n (before ++ inserted :: after)).lookup, config⟩
      m.SameButLog m' ∧ InsertsLog (Interceptor.notificationLog n) (.listenerLogging n)
        (.notification n) before.length (m.lookup.listenerInterceptors n)
        (m'.lookup.listenerInterceptors n)) := by
  refine ⟨fun k before after inserted hsplit hinserted hblind => ⟨?_, ?_⟩,
    fun n before after inserted hsplit hinserted hblind => ⟨?_, ?_⟩⟩
  · exact (alikeButLog_interceptors hsplit hinserted hblind).sameButLog
  · simp only [Registry.lookup, Registry.withInterceptors, Function.update_self, hsplit]
    exact insertsLog hinserted (Interceptor.logging_onlyLogs k) hblind _ after
  · exact (alikeButLog_listenerInterceptors hsplit hinserted hblind).sameButLog
  · simp only [Registry.lookup, Registry.withListenerInterceptors, Function.update_self, hsplit]
    exact insertsLog hinserted (Interceptor.listenerLogging_onlyLogs n) hblind _ after

theorem logging_between_recordings :
    let r : Registry Unit Catalog.Request Empty := .ofList [
      .handler .delete (.singleton (.recording "handler" ())),
      .interceptor .delete (.singleton (.recording "A")),
      .interceptor .delete (.singleton (.recording "B"))]
    let logged : Registry Unit Catalog.Request Empty := r.withInterceptors .delete
      [.singleton (.recording "A"), .singleton (.logging Catalog.Request.delete),
        .singleton (.recording "B")]
    let request : Catalog.DeleteItem := ⟨⟨7⟩⟩
    let run := ((Mediator.mk r.lookup {}).send .delete request .never).run { state := () }
    let run' := ((Mediator.mk logged.lookup {}).send .delete request .never).run { state := () }
    run.SameButLog run' ∧
      run'.trace.journal = ["A-before", "B-before", "handler", "B-after", "A-after"] ∧
      run'.trace.events.map Event.message = ["Dispatching request", "Handling request",
        "Request handled", "Request completed"] := by
  intro r logged request run run'
  have hblind : ∀ c ∈ ([.singleton (.recording "A")] :
      List (Registration Unit (RequestInterceptor Unit Catalog.Request.delete))),
      ∀ link, c.Yields link → link.Blind := by
    intro c hc link hyields
    obtain rfl := List.mem_singleton.mp hc
    obtain ⟨w, w', t, hrun⟩ := hyields
    cases hrun
    exact fun _ _ _ => rfl
  obtain ⟨hsame, -⟩ := (logging_changes_only_log r {}).1 .delete _ [.singleton (.recording "B")]
    (.singleton (.logging Catalog.Request.delete)) rfl rfl hblind
  exact ⟨hsame.send .delete request .never { state := () }, rfl, rfl⟩

end Mediator

end Switchboard
