import Mathlib.Data.List.Forall2
import Switchboard.Catalog.Message
import Switchboard.Interceptor.Double
import Switchboard.Proofs.Passage

/-!
# The onion

Interceptors that record what they do lie around a handler like the layers of
an onion. The first one registered is the outermost: it begins first and is
done last. A layer may also stop a message and answer with a failure of its
own, and then the call turns around there.

- `chain_layered`: what such a chain reports, where it turns around and what
  it hands back;
- `Mediator.layered_send`: the same of a call.
-/

namespace Switchboard

variable {σ M R : Type}

/-! ## Layers -/

/-- What an interceptor does with a message that reaches it. -/
inductive Layer where
  /-- Records that the rest of the chain begins and that it has ended, and hands
  on what it is given. -/
  | records (name : String)
  /-- Answers with a failure of its own. -/
  | stops
deriving DecidableEq, Repr

namespace Layer

/-- The number of the first layer that stops the message, or of all layers if
there is none. -/
def turn (layers : List Layer) : Nat :=
  layers.findIdx (· = stops)

def name? : Layer → Option String
  | records name => some name
  | stops => none

/-- The names of the layers that the message passes. -/
def passed (layers : List Layer) : List String :=
  (layers.take (turn layers)).filterMap name?

/-- All layers are passed, or the first one that is not stops the message. -/
theorem split (layers : List Layer) :
    turn layers = layers.length ∧ layers = (passed layers).map records ∨
      ∃ deeper, turn layers = (passed layers).length ∧
        layers = (passed layers).map records ++ stops :: deeper := by
  induction layers with
  | nil => exact Or.inl ⟨rfl, rfl⟩
  | cons layer rest ih =>
      cases layer with
      | stops => exact Or.inr ⟨rest, rfl, rfl⟩
      | records name =>
          have hturn : turn (records name :: rest) = turn rest + 1 := by
            simp [turn, List.findIdx_cons]
          have hpassed : passed (records name :: rest) = name :: passed rest := by
            rw [passed, hturn]
            rfl
          rw [hturn, hpassed]
          rcases ih with ⟨hall, hrest⟩ | ⟨deeper, hstop, hrest⟩
          · exact Or.inl ⟨congrArg (· + 1) hall, congrArg (records name :: ·) hrest⟩
          · exact Or.inr ⟨deeper, congrArg (· + 1) hstop, congrArg (records name :: ·) hrest⟩

end Layer

/-- The finish of a layer that records: it hands on the outcome that it is given. -/
def Closes (name : String) (finish : Finish σ R) : Prop :=
  ∀ o w, ∃ w' t, (finish (.value o)).run w = ⟨.value o, w', t⟩ ∧ t.journal = [name ++ "-after"]

/-- The interceptor is a layer of this kind to a message and its signal. It may
do anything else to the world, as long as the journal does not show it. -/
def Interceptor.Plays (link : Interceptor σ M R) (message : M) (signal : Signal) :
    Layer → Prop
  | .records name => ∀ handlerNext w, ∃ finish w' t,
    (link.enter message signal handlerNext).run w =
        ⟨.value (.proceed message signal finish), w', t⟩ ∧
      t.journal = [name ++ "-before"] ∧ Closes name finish
  | .stops => ∀ handlerNext w, ∃ f w' t,
    (link.enter message signal handlerNext).run w = ⟨.value (.answer (.error f)), w', t⟩ ∧
      t.journal = []

theorem Interceptor.recording_plays (name : String) (message : M) (signal : Signal) :
    (recording name : Interceptor σ M R).Plays message signal (.records name) :=
  fun _ w => ⟨_, w, [.entry (name ++ "-before")], rfl, rfl,
    fun _ v => ⟨v, [.entry (name ++ "-after")], rfl, rfl⟩⟩

theorem Interceptor.shortCircuit_plays (f : Failure) (message : M) (signal : Signal) :
    (shortCircuit f : Interceptor σ M R).Plays message signal .stops :=
  fun _ w => ⟨f, w, [], rfl, rfl⟩

/-! ## Passing the layers -/

variable {topic : Topic} {handler : Handler σ M R} {message : M} {signal : Signal}

/-- A message passes the layers that record, if its signal is not cancelled
when the chain has ended. -/
theorem passed_of_records {outer : List (Interceptor σ M R)} {names : List String}
    (houter : List.Forall₂ (fun link name => link.Plays message signal (.records name)) outer names)
    (inner : List (Interceptor σ M R)) {w : World σ}
    (hopen : ((chain topic handler (outer ++ inner) message signal).run w).world.sources.isCancelled
      signal = false) :
    ∃ finishes w' t, Passed inner.isEmpty outer ⟨message, signal, w⟩ finishes
        ⟨message, signal, w'⟩ t ∧
      t.journal = names.map (· ++ "-before") ∧ List.Forall₂ Closes names finishes := by
  induction houter generalizing w with
  | nil => exact ⟨[], w, [], .none _, rfl, .nil⟩
  | @cons link name rest names hlink _ ih =>
      -- Cancellation is never lifted, so this boundary is open if the last world is.
      have hw : w.sources.isCancelled signal = false := Action.open_of_run _ hopen
      obtain ⟨finish, w₁, t₁, henter, hbefore, hcloses⟩ := hlink (rest ++ inner).isEmpty w
      have hrun := run_chain_proceeds (s := ⟨message, signal, w⟩) hw henter topic handler
      rw [List.cons_append, hrun, Action.run_attempt_bind] at hopen
      obtain ⟨finishes, w', t₂, hpassed, hbefores, hfinishes⟩ := ih (Action.open_of_run _ hopen)
      rw [isEmpty_append] at henter
      refine ⟨finish :: finishes, w', t₁ ++ t₂, .next hw henter hpassed, ?_,
        .cons hcloses hfinishes⟩
      rw [Trace.journal_append, hbefore, hbefores]
      rfl

/-- On the way out the layers close in the reverse order. -/
theorem run_wayOut {names : List String} {finishes : List (Finish σ R)}
    (h : List.Forall₂ Closes names finishes) (o : Outcome R) (w : World σ) :
    ∃ w' t, (wayOut finishes (.value o)).run w = ⟨.value o, w', t⟩ ∧
      t.journal = names.reverse.map (· ++ "-after") := by
  induction h generalizing w with
  | nil => exact ⟨w, [], rfl, rfl⟩
  | @cons name finish names finishes hcloses _ ih =>
      obtain ⟨w₁, t₁, hinner, hafters⟩ := ih w
      obtain ⟨w₂, t₂, hfinish, hafter⟩ := hcloses o w₁
      refine ⟨w₂, t₁ ++ t₂, ?_, ?_⟩
      · rw [wayOut, Action.run_attempt_bind, hinner, hfinish]
        rfl
      · rw [Trace.journal_append, hafters, hafter, List.reverse_cons, List.map_append]
        rfl

/-- Around what the rest of the chain records, the layers record that they begin
and, in the reverse order, that they are done. An outcome of the rest becomes that
of the chain. -/
theorem run_layers {outer : List (Interceptor σ M R)} {names : List String}
    (houter : List.Forall₂ (fun link name => link.Plays message signal (.records name)) outer names)
    (inner : List (Interceptor σ M R)) {w : World σ}
    (hopen : ((chain topic handler (outer ++ inner) message signal).run w).world.sources.isCancelled
      signal = false) :
    ∃ finishes v t₁, Passed inner.isEmpty outer ⟨message, signal, w⟩ finishes
        ⟨message, signal, v⟩ t₁ ∧
      v.sources.isCancelled signal = false ∧
      ∀ o v' t₂, (chain topic handler inner message signal).run v = ⟨.value o, v', t₂⟩ →
        ∃ w' t, (chain topic handler (outer ++ inner) message signal).run w = ⟨.value o, w', t⟩ ∧
          t.journal = names.map (· ++ "-before") ++ t₂.journal ++
            names.reverse.map (· ++ "-after") := by
  obtain ⟨finishes, v, t₁, hpassed, hbefores, hcloses⟩ := passed_of_records houter inner hopen
  have hchain := hpassed.run_chain topic handler
  refine ⟨finishes, v, t₁, hpassed, ?_, fun o v' t₂ hinner => ?_⟩
  · rw [hchain] at hopen
    exact Action.open_of_run _ hopen
  · obtain ⟨w', t₃, hout, hafters⟩ := run_wayOut hcloses o v'
    rw [Action.run_attempt_bind, hinner, hout, Run.after_mk, Run.after_mk] at hchain
    refine ⟨w', _, hchain, ?_⟩
    rw [Trace.journal_append, Trace.journal_append, hbefores, hafters, List.append_assoc]

/-! ## Where the message turns around -/

/-- Whichever its handler is, the chain enters it just once, in the world `v` and
with the message and the signal as they were given. What is done afterwards sees
only how the handler has ended. -/
def Reaches (topic : Topic) (links : List (Interceptor σ M R)) (message : M) (signal : Signal)
    (w v : World σ) : Prop :=
  ∃ before finish, ∀ handler : Handler σ M R, (chain topic handler links message signal).run w =
    (((handler message signal).attempt >>= finish).run v).after before

/-- The chain enters its handler just once and hands back its outcome; the
handler records `entries`. -/
def EntersHandler (topic : Topic) (handler : Handler σ M R) (links : List (Interceptor σ M R))
    (message : M) (signal : Signal) (w : World σ) (o : Outcome R) (entries : List String) : Prop :=
  ∃ v v' t, Reaches topic links message signal w v ∧
    (handler message signal).run v = ⟨.value o, v', t⟩ ∧ t.journal = entries

/-- The message comes past the links in front of number `index`. The chain enters
that one and hands back the failure that it answers with, and it enters neither
the handler nor a deeper link: whatever these are, it runs the same. -/
def StopsAt (topic : Topic) (handler : Handler σ M R) (links : List (Interceptor σ M R))
    (message : M) (signal : Signal) (w : World σ) (index : Nat) (o : Outcome R) : Prop :=
  ∃ outer link inner finishes v v' before t f, links = outer ++ link :: inner ∧
    outer.length = index ∧
    Passed false outer ⟨message, signal, w⟩ finishes ⟨message, signal, v⟩ before ∧
    (link.enter message signal inner.isEmpty).run v = ⟨.value (.answer (.error f)), v', t⟩ ∧
    o = .error f ∧
    ∀ other deeper, deeper.isEmpty = inner.isEmpty →
      (chain topic other (outer ++ link :: deeper) message signal).run w =
        (chain topic handler links message signal).run w

/-- A message that no layer stops reaches the handler. -/
theorem entersHandler_of_records {links : List (Interceptor σ M R)} {names : List String}
    (hlinks : List.Forall₂ (fun link name => link.Plays message signal (.records name)) links names)
    {w : World σ} (hcalm : ∀ v, Reaches topic links message signal w v →
      ∀ p, ((handler message signal).run v).exit ≠ .panicked p)
    (hopen : ((chain topic handler links message signal).run w).world.sources.isCancelled
      signal = false) :
    ∃ o w' t entries, (chain topic handler links message signal).run w = ⟨.value o, w', t⟩ ∧
      t.journal = names.map (· ++ "-before") ++ entries ++ names.reverse.map (· ++ "-after") ∧
      EntersHandler topic handler links message signal w o entries := by
  rw [← List.append_nil links] at hopen
  obtain ⟨finishes, v, t₁, hpassed, hv, hends⟩ := run_layers hlinks [] hopen
  have hnil (other : Handler σ M R) := run_chain_nil (s := ⟨message, signal, v⟩) hv topic other
  have hreaches : Reaches topic links message signal w v := by
    refine ⟨t₁, wayOut finishes, fun other => ?_⟩
    have hchain := hpassed.run_chain topic other
    rw [List.append_nil] at hchain
    rw [hchain, Action.run_attempt_bind, Action.run_attempt_bind, hnil other]
  rcases hhandler : (handler message signal).run v with ⟨exit, v', t₂⟩
  cases exit with
  | panicked p =>
      have hquiet := hcalm v hreaches p
      rw [hhandler] at hquiet
      exact absurd rfl hquiet
  | value o =>
      obtain ⟨w', t, hrun, hjournal⟩ := hends o v' t₂ ((hnil handler).trans hhandler)
      rw [List.append_nil] at hrun
      exact ⟨o, w', t, t₂.journal, hrun, hjournal, v, v', t₂, hreaches, hhandler, rfl⟩

/-- The first layer that stops the message answers in the place of the handler. -/
theorem stopsAt_of_stops {outer inner : List (Interceptor σ M R)} {link : Interceptor σ M R}
    {names : List String}
    (houter : List.Forall₂ (fun link name => link.Plays message signal (.records name)) outer names)
    (hlink : link.Plays message signal .stops) {w : World σ}
    (hopen : ((chain topic handler (outer ++ link :: inner) message signal).run
      w).world.sources.isCancelled signal = false) :
    ∃ o w' t, (chain topic handler (outer ++ link :: inner) message signal).run w =
        ⟨.value o, w', t⟩ ∧
      t.journal = names.map (· ++ "-before") ++ names.reverse.map (· ++ "-after") ∧
      StopsAt topic handler (outer ++ link :: inner) message signal w outer.length o := by
  obtain ⟨finishes, v, t₁, hpassed, hv, hends⟩ := run_layers houter (link :: inner) hopen
  obtain ⟨f, v', t₂, henter, hsilent⟩ := hlink inner.isEmpty v
  have hstop (other : Handler σ M R) (rest : List (Interceptor σ M R))
      (hrest : rest.isEmpty = inner.isEmpty) :
      (chain topic other (link :: rest) message signal).run v = ⟨.value (.error f), v', t₂⟩ := by
    rw [← hrest] at henter
    exact run_chain_answers (s := ⟨message, signal, v⟩) hv henter topic other
  obtain ⟨w', t, hrun, hjournal⟩ := hends _ _ _ (hstop handler inner rfl)
  rw [hsilent, List.append_nil] at hjournal
  refine ⟨.error f, w', t, hrun, hjournal, outer, link, inner, finishes, v, v', t₁, t₂, f, rfl, rfl,
    hpassed, henter, rfl, fun other deeper hdeeper => ?_⟩
  have hpassed' : Passed (link :: deeper).isEmpty outer _ finishes _ t₁ := hpassed
  rw [hpassed.run_chain, hpassed'.run_chain, Action.run_attempt_bind, Action.run_attempt_bind,
    hstop other deeper hdeeper, hstop handler inner rfl]

/-- A chain of layers whose handler does not panic where it is entered, and whose
signal is not cancelled as long as the chain runs. -/
theorem chain_layered {links : List (Interceptor σ M R)} {layers : List Layer}
    (hlayers : List.Forall₂ (fun link layer => link.Plays message signal layer) links layers)
    {w : World σ} (hcalm : ∀ v, Reaches topic links message signal w v →
      ∀ p, ((handler message signal).run v).exit ≠ .panicked p)
    (hopen : ((chain topic handler links message signal).run w).world.sources.isCancelled
      signal = false) :
    ∃ o w' t entries, (chain topic handler links message signal).run w = ⟨.value o, w', t⟩ ∧
      t.journal = (Layer.passed layers).map (· ++ "-before") ++ entries ++
        (Layer.passed layers).reverse.map (· ++ "-after") ∧
      (Layer.turn layers = layers.length →
        EntersHandler topic handler links message signal w o entries) ∧
      (Layer.turn layers < layers.length → entries = [] ∧
        StopsAt topic handler links message signal w (Layer.turn layers) o) := by
  rcases Layer.split layers with ⟨hall, hsplit⟩ | ⟨deeper, hstop, hsplit⟩
  · rw [hsplit, List.forall₂_map_right_iff] at hlayers
    obtain ⟨o, w', t, entries, hrun, hjournal, henters⟩ :=
      entersHandler_of_records hlayers hcalm hopen
    exact ⟨o, w', t, entries, hrun, hjournal, fun _ => henters,
      fun hless => absurd hall (Nat.ne_of_lt hless)⟩
  · obtain ⟨outer, link, inner, rfl, houter, hlink⟩ :
        ∃ outer link inner, links = outer ++ link :: inner ∧
          List.Forall₂ (fun link name => link.Plays message signal (.records name)) outer
            (Layer.passed layers) ∧
          link.Plays message signal .stops := by
      rw [hsplit] at hlayers
      have htake := List.forall₂_take_append _ _ _ hlayers
      have hdrop := List.forall₂_drop_append _ _ _ hlayers
      obtain ⟨link, inner, hlink, -, hinner⟩ := List.forall₂_cons_right_iff.mp hdrop
      refine ⟨_, link, inner, ?_, List.forall₂_map_right_iff.mp htake, hlink⟩
      rw [← hinner, List.take_append_drop]
    have hlength : outer.length = Layer.turn layers := houter.length_eq.trans hstop.symm
    have hshort : (Layer.passed layers).length < layers.length := by
      conv_rhs => rw [hsplit]
      simp
    obtain ⟨o, w', t, hrun, hjournal, hstops⟩ := stopsAt_of_stops houter hlink hopen
    rw [hlength] at hstops
    refine ⟨o, w', t, [], hrun, ?_, fun hall => ?_, fun _ => ⟨rfl, hstops⟩⟩
    · rw [List.append_nil, hjournal]
    · omega

/-! ## Calls -/

namespace Mediator

variable {ρ ν : Type} [Requests ρ] [Messages ν]

/-- A call whose interceptors are layers of an onion, whose handler does not panic
where it is entered, and whose signal is not cancelled as long as the call runs. It
returns. The layers in front of the first one that stops the message record that
they begin, from the outside in, and that they are done, from the inside out. In
between, if no layer stops the message, the handler is entered just once and records
its own entries, and the call returns its outcome; else the call returns the failure
of the layer that stops the message, and enters neither a deeper layer nor the
handler. -/
theorem layered_send {m : Mediator σ ρ ν} {r : Registry σ ρ ν} (hlookup : m.lookup = r.lookup)
    {k : ρ} {only : Registration σ (RequestHandler σ k)} (hone : r.handlers k = [only])
    {handler : RequestHandler σ k} {links : List (RequestInterceptor σ k)} {w w₀ w₁ : World σ}
    {t₀ t₁ : Trace} (hhandler : only.resolve.run w = ⟨.value handler, w₀, t₀⟩)
    (hlinks : (resolveAll (r.interceptors k)).run w₀ = ⟨.value links, w₁, t₁⟩)
    {request : Body k} {signal : Signal} {layers : List Layer}
    (hlayers : List.Forall₂ (fun link layer => link.Plays request signal layer) links layers)
    (hcalm : ∀ v, Reaches (.request k) links request signal w₁ v →
      ∀ p, ((handler request signal).run v).exit ≠ .panicked p)
    (hopen : ((m.send k request signal).run w).world.sources.isCancelled signal = false) :
    ∃ o entries, ((m.send k request signal).run w).exit = .value (.ok o) ∧
      ((m.send k request signal).run w).trace.journal = t₀.journal ++ t₁.journal ++
        ((Layer.passed layers).map (· ++ "-before") ++ entries ++
          (Layer.passed layers).reverse.map (· ++ "-after")) ∧
      (Layer.turn layers = layers.length →
        EntersHandler (.request k) handler links request signal w₁ o entries) ∧
      (Layer.turn layers < layers.length → entries = [] ∧
        StopsAt (.request k) handler links request signal w₁ (Layer.turn layers) o) := by
  obtain ⟨hfound, haround⟩ := run_lookups hlookup hone hhandler hlinks
  rcases hchain : (chain (.request k) handler links request signal).run w₁ with ⟨exit, v, t⟩
  obtain ⟨t', hsend, hjournal⟩ := run_send hfound haround hchain
  rw [hsend] at hopen ⊢
  have hended : ((chain (.request k) handler links request signal).run
      w₁).world.sources.isCancelled signal = false := by
    rw [hchain]
    exact hopen
  obtain ⟨o, w', t'', entries, hrun, hentries, hall, hstop⟩ := chain_layered hlayers hcalm hended
  cases hchain.symm.trans hrun
  exact ⟨o, entries, rfl, by rw [hjournal, hentries], hall, hstop⟩

theorem third_of_four_layers_refuses :
    let refusal : Failure := ⟨100, .forbidden "nope"⟩
    let r : Registry Unit Catalog.Request Empty := .ofList [
      .handler .delete (.singleton (.recording "handler" ())),
      .interceptor .delete (.singleton (.recording "A")),
      .interceptor .delete (.factory (do Action.record "build B"; return .recording "B")),
      .interceptor .delete (.singleton (.shortCircuit refusal)),
      .interceptor .delete (.singleton (.recording "C"))]
    let m : Mediator Unit Catalog.Request Empty := ⟨r.lookup, {}⟩
    let request : Catalog.DeleteItem := ⟨⟨7⟩⟩
    let run := (m.send .delete request .never).run { state := () }
    run.world.sources.isCancelled .never = false ∧
      run.exit = .value (.ok (.error refusal)) ∧
      run.trace.journal = ["build B", "A-before", "B-before", "B-after", "A-after"] ∧
      StopsAt (.request Catalog.Request.delete) (.recording "handler" ())
        [.recording "A", .recording "B", .shortCircuit refusal, .recording "C"] request .never
        ({ state := () } : World Unit) 2 (.error refusal) := by
  intro refusal r m request run
  have hlayers : List.Forall₂
      (fun (link : Interceptor Unit Catalog.DeleteItem Unit) layer =>
        link.Plays request .never layer)
      [.recording "A", .recording "B", .shortCircuit refusal, .recording "C"]
      [.records "A", .records "B", .stops, .records "C"] :=
    .cons (Interceptor.recording_plays "A" _ _) (.cons (Interceptor.recording_plays "B" _ _)
      (.cons (Interceptor.shortCircuit_plays refusal _ _)
        (.cons (Interceptor.recording_plays "C" _ _) .nil)))
  obtain ⟨o, entries, hexit, hjournal, -, hstop⟩ :=
    layered_send (m := m) (r := r) (k := .delete) (w := { state := () }) rfl rfl rfl rfl hlayers
      (fun _ _ => nofun) rfl
  obtain ⟨rfl, hstops⟩ := hstop (by decide)
  cases hexit
  exact ⟨rfl, rfl, hjournal, hstops⟩

end Mediator

end Switchboard
