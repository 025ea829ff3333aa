import Switchboard.Proofs.Broadcast
import Switchboard.Proofs.Passage

/-!
# Interrupted calls

What cancellation does to a call, by the point at which it is requested. Before
the chain or on the way in it keeps every link that is still ahead from being
entered, and the links that have been passed finish from the failure that the
boundary makes. From the point on where the message turns around, it changes
nothing: the way out has no boundary.

- `Passed.interrupted`: the signal comes to the next boundary as it was given;
- `Mediator.send_handsOut`: what becomes of an outcome that is there;
- `Mediator.interrupted_send`: the points of a call one after the other.
-/

namespace Switchboard

variable {σ M R : Type}

/-! ## The signal of a chain -/

/-- Lets a message go on only with the signal that it came with. -/
def Interceptor.KeepsSignal (link : Interceptor σ M R) : Prop :=
  ∀ message signal handlerNext w message' signal' finish w' t,
    (link.enter message signal handlerNext).run w =
      ⟨.value (.proceed message' signal' finish), w', t⟩ → signal' = signal

theorem Passed.signal_eq {last : Bool} {outer : List (Interceptor σ M R)} {s s' : Stage σ M}
    {finishes : List (Finish σ R)} {t : Trace} (h : Passed last outer s finishes s' t)
    (hkeeps : ∀ link ∈ outer, link.KeepsSignal) : s'.signal = s.signal := by
  induction h with
  | none s => rfl
  | @next link rest s s' message signal finish w _ _ _ _ henter _ ih =>
      have hsignal : signal = s.signal := hkeeps link List.mem_cons_self _ _ _ _ _ _ _ _ _ henter
      rw [ih fun later hlater => hkeeps later (List.mem_cons_of_mem _ hlater)]
      exact hsignal

/-- If the signal is cancelled in a link that then lets the message go on, the
message comes to the next boundary with that same signal. -/
theorem Passed.interrupted {outer inner : List (Interceptor σ M R)} {link : Interceptor σ M R}
    {s s' : Stage σ M} {finishes : List (Finish σ R)} {t t' : Trace}
    (h : Passed false outer s finishes s' t)
    (hkeeps : ∀ l ∈ outer ++ link :: inner, l.KeepsSignal)
    (hopen : s'.world.sources.isCancelled s.signal = false) {message : M} {signal : Signal}
    {finish : Finish σ R} {v : World σ}
    (henter : (link.enter s'.message s'.signal inner.isEmpty).run s'.world =
      ⟨.value (.proceed message signal finish), v, t'⟩)
    (hv : v.sources.isCancelled s.signal = true) :
    Passed inner.isEmpty (outer ++ [link]) s (finishes ++ [finish]) ⟨message, signal, v⟩ (t ++ t') ∧
      (Stage.mk message signal v).cancelled = true := by
  have hs : s'.signal = s.signal := h.signal_eq fun l hl => hkeeps l (List.mem_append_left _ hl)
  have hlink : link.KeepsSignal := hkeeps link (List.mem_append_right _ List.mem_cons_self)
  obtain rfl : signal = s'.signal := hlink _ _ _ _ _ _ _ _ _ henter
  rw [← hs] at hopen hv
  exact ⟨h.snoc hopen henter, hv⟩

/-! ## Handing an outcome out -/

/-- Hands on every outcome as it is, whatever else it does. -/
def HandsBack (finish : Finish σ R) : Prop :=
  ∀ o w, ((finish (.value o)).run w).exit = .value o

theorem exit_wayOut {finishes : List (Finish σ R)} (h : ∀ finish ∈ finishes, HandsBack finish)
    (o : Outcome R) (w : World σ) : ((wayOut finishes (.value o)).run w).exit = .value o := by
  induction finishes with
  | nil => rfl
  | cons finish finishes ih =>
      have hinner := ih fun later hlater => h later (List.mem_cons_of_mem _ hlater)
      rw [wayOut, Action.run_attempt_bind, hinner]
      exact h finish List.mem_cons_self o _

/-- A call hands out an outcome that was there in the world `v`: the links that
have been passed finish from it, the innermost one first, and what they make of it
is what the call returns. Nothing else is recorded after that world. If all of the
links hand on what they are given, the call returns the very same outcome. -/
structure HandsOut (run : Run σ (Except DispatchError (Outcome R))) (finishes : List (Finish σ R))
    (o : Outcome R) (v : World σ) : Prop where
  exit_eq : run.exit = ((wayOut finishes (.value o)).run v).exit.map .ok
  world_eq : run.world = ((wayOut finishes (.value o)).run v).world
  recorded : ((wayOut finishes (.value o)).run v).trace.journal <:+ run.trace.journal
  unchanged : (∀ finish ∈ finishes, HandsBack finish) → run.exit = .value (.ok o)

/-! ## Calls -/

namespace Mediator

variable {ρ ν : Type} [Requests ρ] [Messages ν] {m : Mediator σ ρ ν} {k : ρ} {request : Body k}
  {signal : Signal} {handler : RequestHandler σ k} {w w₀ w₁ v : World σ} {t₀ t₁ t t' : Trace}

/-- A call hands out the outcome with which the rest of its chain has ended. -/
theorem send_handsOut {links outer inner : List (RequestInterceptor σ k)}
    (hhandler : (m.lookup.handler k).run w = ⟨.value (.ok handler), w₀, t₀⟩)
    (hlinks : (m.lookup.interceptors k).run w₀ = ⟨.value links, w₁, t₁⟩)
    (hsplit : links = outer ++ inner) {finishes : List (Finish σ (Reply k))} {s : Stage σ (Body k)}
    (hpassed : Passed inner.isEmpty outer ⟨request, signal, w₁⟩ finishes s t)
    {o : Outcome (Reply k)}
    (hinner : (chain (.request k) handler inner s.message s.signal).run s.world =
      ⟨.value o, v, t'⟩) :
    HandsOut ((m.send k request signal).run w) finishes o v := by
  have hchain := hpassed.run_chain (.request k) handler
  rw [← hsplit, Action.run_attempt_bind, hinner] at hchain
  obtain ⟨t'', hsend, hjournal⟩ := run_send hhandler hlinks hchain
  rw [hsend]
  refine ⟨rfl, rfl, ?_, fun hback => ?_⟩
  · simp only [hjournal, Run.after, Trace.journal_append, ← List.append_assoc]
    exact List.suffix_append _ _
  · exact congrArg (Exit.map Except.ok) (exit_wayOut hback o v)

/-- A call whose interceptors let a message go on only with the signal that it
came with, by the point at which that signal is cancelled.

If it is cancelled before the chain is started, no link is entered, whichever they
are, and the call returns a fresh failure of kind `cancelled` (`shutFailure`). If it
is cancelled in a link that was entered before and lets the message go on, no deeper
link is entered, whichever they are: the rest of the chain ends with such a failure,
and the links up to this one finish from it as they do from any other outcome. An outcome with which
the rest of a chain has ended, be it the handler or any links with it, is handed
out in the same way, and cancellation plays no part any more. It is never
lifted. -/
theorem interrupted_send {r : Registry σ ρ ν} (hlookup : m.lookup = r.lookup)
    {only : Registration σ (RequestHandler σ k)} (hone : r.handlers k = [only])
    {links : List (RequestInterceptor σ k)}
    (hhandler : only.resolve.run w = ⟨.value handler, w₀, t₀⟩)
    (hlinks : (resolveAll (r.interceptors k)).run w₀ = ⟨.value links, w₁, t₁⟩)
    (hkeeps : ∀ link ∈ links, link.KeepsSignal) (request : Body k) (signal : Signal) :
    (w.sources.isCancelled signal = true ∨ w₁.sources.isCancelled signal = true →
      (∀ (other : RequestHandler σ k) (others : List (RequestInterceptor σ k)),
        (chain (.request k) other others request signal).run w₁ = shutRun (.request k) w₁) ∧
      ((m.send k request signal).run w).exit = .value (.ok (.error (shutFailure w₁)))) ∧
    (∀ outer link inner finishes s t message passedOn finish v t', links = outer ++ link :: inner →
      Passed false outer ⟨request, signal, w₁⟩ finishes s t →
      s.world.sources.isCancelled signal = false →
      (link.enter s.message s.signal inner.isEmpty).run s.world =
        ⟨.value (.proceed message passedOn finish), v, t'⟩ →
      v.sources.isCancelled signal = true →
      (∀ (other : RequestHandler σ k) (deeper : List (RequestInterceptor σ k)),
        (chain (.request k) other deeper message passedOn).run v = shutRun (.request k) v ∧
        (deeper.isEmpty = inner.isEmpty →
          (chain (.request k) other (outer ++ link :: deeper) request signal).run w₁ =
            (chain (.request k) handler links request signal).run w₁)) ∧
      HandsOut ((m.send k request signal).run w) (finishes ++ [finish])
        (.error (shutFailure v)) v.marked) ∧
    (∀ outer inner finishes s t o v t', links = outer ++ inner →
      Passed inner.isEmpty outer ⟨request, signal, w₁⟩ finishes s t →
      (chain (.request k) handler inner s.message s.signal).run s.world = ⟨.value o, v, t'⟩ →
      HandsOut ((m.send k request signal).run w) finishes o v) ∧
    ((m.send k request signal).worlds w).Pairwise (StaysCancelled signal) := by
  obtain ⟨hfound, haround⟩ := run_lookups hlookup hone hhandler hlinks
  refine ⟨fun hcancelled => ?_, ?_, ?_, Action.worlds_cancelled signal _ w⟩
  · -- before the chain is started
    have hw₁ : w₁.sources.isCancelled signal = true := by
      rcases hcancelled with hw | hw₁
      · exact Action.isCancelled_of_run hlinks (Action.isCancelled_of_run hhandler hw)
      · exact hw₁
    have hshut := run_chain_shut (R := Reply k) (s := ⟨request, signal, w₁⟩) hw₁ (.request k)
    have hout := send_handsOut hfound haround rfl (.none _) (hshut handler links)
    exact ⟨hshut, hout.unchanged nofun⟩
  · -- in a link that lets the message go on
    intro outer link inner finishes s t message passedOn finish v t' hsplit hpassed hopen henter hv
    subst hsplit
    obtain ⟨hway, hcancelled⟩ := hpassed.interrupted hkeeps hopen henter hv
    have hshut := run_chain_shut (R := Reply k) hcancelled (.request k)
    refine ⟨fun other deeper => ⟨hshut other deeper, fun hdeeper => ?_⟩,
      send_handsOut hfound haround (List.append_cons ..) hway (hshut handler inner)⟩
    have hway' := hway
    rw [← hdeeper] at hway'
    rw [List.append_cons outer link deeper, List.append_cons outer link inner, hway.run_chain,
      hway'.run_chain, Action.run_attempt_bind, Action.run_attempt_bind, hshut other deeper,
      hshut handler inner]
  · -- after the rest of the chain has ended
    intro outer inner finishes s t o v t' hsplit hpassed hinner
    exact send_handsOut hfound haround hsplit hpassed hinner

theorem cancelled_in_the_second_of_three_links :
    let r : Registry Unit Catalog.Request Empty := .ofList [
      .handler .delete (.singleton (.recording "handler" ())),
      .interceptor .delete (.singleton (.recording "outer")),
      .interceptor .delete (.singleton (cancelling 0)),
      .interceptor .delete (.singleton (.recording "inner"))]
    let m : Mediator Unit Catalog.Request Empty := ⟨r.lookup, {}⟩
    let request : Catalog.DeleteItem := ⟨⟨7⟩⟩
    let w : World Unit := { state := (), sources := [{}] }
    let run := (m.send .delete request (.source 0)).run w
    (∃ f, run.exit = .value (.ok (.error f)) ∧ f.mark = w.nextMark ∧ f.kind = .cancelled) ∧
      run.trace.journal = ["outer-before", "outer-after"] ∧
      run.world.sources.isCancelled (.source 0) = true := by
  intro r m request w run
  have hkeeps : ∀ link ∈ ([.recording "outer", cancelling 0, .recording "inner"] :
      List (Interceptor Unit Catalog.DeleteItem Unit)), link.KeepsSignal := by
    simp only [List.forall_mem_cons, List.not_mem_nil, false_implies, implies_true, and_true]
    refine ⟨?_, ?_, ?_⟩ <;> intro _ _ _ _ _ _ _ _ _ henter <;> cases henter <;> rfl
  obtain ⟨-, hinside, -, -⟩ := interrupted_send (m := m) (r := r) (k := .delete) (w := w)
    rfl rfl rfl rfl hkeeps request (.source 0)
  obtain ⟨finishes, hpassed, hback⟩ : ∃ finishes : List (Finish Unit Unit),
      Passed false [.recording "outer"] ⟨request, .source 0, w⟩ finishes ⟨request, .source 0, w⟩
        ([.entry "outer-before"] ++ []) ∧ ∀ finish ∈ finishes, HandsBack finish :=
    ⟨_, .next rfl rfl (.none _), List.forall_mem_singleton.mpr fun _ _ => rfl⟩
  obtain ⟨-, hout⟩ := hinside [.recording "outer"] (cancelling 0) [.recording "inner"] finishes _ _
    request (.source 0) _ { w with sources := [{ cancelled := true, changes := 1 }] } _ rfl hpassed
    rfl rfl rfl
  have hexit := hout.unchanged
    (List.forall_mem_append.mpr ⟨hback, List.forall_mem_singleton.mpr fun _ _ => rfl⟩)
  exact ⟨⟨_, hexit, rfl, rfl⟩, rfl, rfl⟩

end Mediator

end Switchboard
