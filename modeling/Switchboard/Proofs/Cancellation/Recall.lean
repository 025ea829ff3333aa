import Switchboard.Proofs.Cancellation.History

/-!
# What is recalled of a history

`cancellation_recalled` is what can be said of cancellation after any history
of sources, signals and waiters: a signal is cancelled just if its source was
cancelled before it was dropped; this is never lifted, and never comes about
once the source was dropped; checks and polls answer by it; and to cancel a
second time shows in nothing that is answered later on.

For the last of these, sessions that differ in what they keep for the waiters
cannot be told apart (`Session.Alike.run_eq`).
-/

namespace Switchboard.Cancellation

open Operation

namespace Session

/-! ## Signals and waiters -/

theorem Stepped.signals {s s' : Session} {op : Operation} {reply : Reply}
    (h : Stepped s op reply s') : s.signals <+: s'.signals := by
  cases h with
  | source => exact List.prefix_append _ _
  | signal => exact List.prefix_append _ _
  | clone => exact List.prefix_append _ _
  | never => exact List.prefix_append _ _
  | cancel | drop | check | wait | poll | idle => exact List.prefix_rfl

/-- A poll does not change what a waiter waits for. -/
theorem waiting_poll {s : Session} {i : Nat} {w : Waiter} (h : s.waiters[i]? = some w) :
    (s.waiters.set i (w.poll s.sources)).map Waiter.signal = s.waiters.map Waiter.signal := by
  obtain ⟨hlt, rfl⟩ := List.getElem?_eq_some_iff.mp h
  rw [List.map_set]
  show (s.waiters.map Waiter.signal).set i s.waiters[i].signal = _
  rw [← List.getElem_map (f := Waiter.signal) (h := by simpa using hlt), List.set_getElem_self]

theorem Stepped.waiting {s s' : Session} {op : Operation} {reply : Reply}
    (h : Stepped s op reply s') :
    s.waiters.map Waiter.signal <+: s'.waiters.map Waiter.signal := by
  cases h with
  | wait h =>
      rw [List.map_append]
      exact List.prefix_append _ _
  | poll h => exact (waiting_poll h).symm ▸ List.prefix_rfl
  | source | signal | clone | never | cancel | drop | check | idle => exact List.prefix_rfl

/-- What stands in front of a step stands in front of any number of steps. -/
theorem prefix_after {α : Type} {view : Session → List α}
    (hstep : ∀ s op, view s <+: view (s.step op).2) (s : Session) (ops : List Operation) :
    view s <+: view (s.after ops) := by
  induction ops using List.reverseRecOn with
  | nil => exact List.prefix_rfl
  | append_singleton ops op ih =>
      rw [after_append_singleton]
      exact ih.trans (hstep _ op)

/-! ## What can be told of a session -/

/-- What can be told of a source: whether it is cancelled, and whether it was
dropped. -/
def flags (s : Source) : Bool × Bool :=
  (s.cancelled, s.dropped)

/-- Two sessions that differ in nothing but what is kept for the waiters: how
often a source was cancelled, and what a waiter has seen. -/
structure Alike (s s' : Session) : Prop where
  sources : s.sources.map flags = s'.sources.map flags
  signals : s.signals = s'.signals
  waiters : s.waiters.map Waiter.signal = s'.waiters.map Waiter.signal

/-- At each place of two lists that a view makes equal there is nothing in both,
or something that is seen as the same. -/
theorem getElem?_cases {α β : Type} {view : α → β} {xs ys : List α}
    (h : xs.map view = ys.map view) (i : Nat) :
    (xs[i]? = none ∧ ys[i]? = none) ∨
      ∃ x y, xs[i]? = some x ∧ ys[i]? = some y ∧ view x = view y := by
  have hi := congrArg (·[i]?) h
  simp only [List.getElem?_map] at hi
  cases hx : xs[i]? with
  | none =>
      rw [hx] at hi
      exact .inl ⟨rfl, Option.map_eq_none_iff.mp hi.symm⟩
  | some x =>
      rw [hx] at hi
      obtain ⟨y, hy, hview⟩ := Option.map_eq_some_iff.mp hi.symm
      exact .inr ⟨x, y, rfl, hy, hview.symm⟩

namespace Alike

variable {s s' : Session} (h : Alike s s')
include h

theorem isCancelled_eq (signal : Signal) : s.isCancelled signal = s'.isCancelled signal := by
  cases signal with
  | never => rfl
  | source id =>
      simp only [isCancelled, Sources.isCancelled]
      rcases getElem?_cases h.sources id with ⟨ha, hb⟩ | ⟨a, b, ha, hb, hflags⟩
      · rw [ha, hb]
      · rw [ha, hb]
        exact congrArg Prod.fst hflags

theorem cancelled_eq : s.cancelled = s'.cancelled := by
  rw [cancelled, cancelled, h.signals]
  exact List.map_congr_left fun signal _ => h.isCancelled_eq signal

theorem addSignal (signal : Signal) : Alike (s.addSignal signal) (s'.addSignal signal) where
  sources := h.sources
  signals := congrArg (· ++ [signal]) h.signals
  waiters := h.waiters

theorem grow (source : Source) :
    Alike { s with sources := s.sources ++ [source] }
      { s' with sources := s'.sources ++ [source] } where
  sources := by rw [List.map_append, List.map_append, h.sources]
  signals := h.signals
  waiters := h.waiters

theorem modify (id : SourceId) {change : Source → Source}
    (hchange : ∀ a b, flags a = flags b → flags (change a) = flags (change b)) :
    Alike { s with sources := s.sources.modify id change }
      { s' with sources := s'.sources.modify id change } where
  sources := by
    refine List.ext_getElem? fun i => ?_
    simp only [List.getElem?_map, List.getElem?_modify]
    rcases getElem?_cases h.sources i with ⟨ha, hb⟩ | ⟨a, b, ha, hb, hflags⟩
    · rw [ha, hb]
    · rw [ha, hb]
      refine congrArg some ?_
      split
      · exact hchange a b hflags
      · exact hflags
  signals := h.signals
  waiters := h.waiters

theorem wait (signal : Signal) :
    Alike { s with waiters := s.waiters ++ [{ signal }] }
      { s' with waiters := s'.waiters ++ [{ signal }] } where
  sources := h.sources
  signals := h.signals
  waiters := by rw [List.map_append, List.map_append, h.waiters]

/-- Alike sessions answer alike and stay alike. -/
theorem step (hs : s.Sound) (hs' : s'.Sound) (op : Operation) :
    (s.step op).1 = (s'.step op).1 ∧ Alike (s.step op).2 (s'.step op).2 := by
  cases op with
  | source =>
      have hlength : s.sources.length = s'.sources.length := by
        simpa using congrArg List.length h.sources
      simp only [Session.step, hlength]
      exact ⟨trivial, (h.grow {}).addSignal _⟩
  | never => exact ⟨rfl, h.addSignal .never⟩
  | cancel id =>
      refine ⟨rfl, h.modify id fun a b hab => ?_⟩
      obtain ⟨hcancelled, hdropped⟩ := Prod.mk.injEq .. |>.mp hab
      cases hb : b.dropped <;> simp_all [flags, Source.cancel]
  | drop id =>
      refine ⟨rfl, h.modify id fun a b hab => ?_⟩
      exact congrArg (fun f => (f.1, true)) hab
  | signal id =>
      simp only [Session.step]
      rcases getElem?_cases h.sources id with ⟨ha, hb⟩ | ⟨a, b, ha, hb, hflags⟩
      · rw [ha, hb]
        exact ⟨rfl, h⟩
      · have hdropped : a.dropped = b.dropped := congrArg Prod.snd hflags
        simp only [ha, hb, hdropped]
        refine ⟨trivial, ?_⟩
        split
        · exact h
        · exact h.addSignal _
  | clone i =>
      have hi : s.signals[i]? = s'.signals[i]? := by rw [h.signals]
      simp only [Session.step, hi]
      cases s'.signals[i]? with
      | none => exact ⟨rfl, h⟩
      | some signal => exact ⟨rfl, h.addSignal signal⟩
  | check i =>
      have hi : s.signals[i]? = s'.signals[i]? := by rw [h.signals]
      simp only [Session.step, hi]
      cases s'.signals[i]? with
      | none => exact ⟨rfl, h⟩
      | some signal => exact ⟨by simp only [Session.check, h.isCancelled_eq], h⟩
  | wait i =>
      have hi : s.signals[i]? = s'.signals[i]? := by rw [h.signals]
      simp only [Session.step, hi]
      cases s'.signals[i]? with
      | none => exact ⟨rfl, h⟩
      | some signal => exact ⟨rfl, h.wait signal⟩
  | poll i =>
      rcases getElem?_cases h.waiters i with ⟨ha, hb⟩ | ⟨a, b, ha, hb, hsignal⟩
      · simp only [Session.step, ha, hb]
        exact ⟨trivial, h⟩
      · refine ⟨?_, ?_⟩
        · rw [poll_answers hs ha, poll_answers hs' hb, h.isCancelled_eq, hsignal]
        · simp only [Session.step, ha, hb]
          exact ⟨h.sources, h.signals, by rw [waiting_poll ha, waiting_poll hb, h.waiters]⟩

/-- Whatever is done next, alike sessions cannot be told apart. -/
theorem run_eq (hs : s.Sound) (hs' : s'.Sound) (ops : List Operation) :
    s.run ops = s'.run ops := by
  induction ops generalizing s s' with
  | nil => rfl
  | cons op ops ih =>
      obtain ⟨hreply, hnext⟩ := h.step hs hs' op
      simp only [run, hreply, hnext.cancelled_eq,
        ih hnext ((stepped s op).sound hs) ((stepped s' op).sound hs')]

end Alike

theorem alike_cancel_cancel (s : Session) (id : SourceId) :
    Alike (s.after [.cancel id, .cancel id]) (s.after [.cancel id]) where
  sources := by
    show ((s.sources.cancel id).cancel id).map flags = (s.sources.cancel id).map flags
    refine List.ext_getElem? fun i => ?_
    simp only [Sources.cancel, List.modify_modify_eq, List.getElem?_map, List.getElem?_modify]
    cases s.sources[i]? with
    | none => rfl
    | some source =>
        by_cases hid : id = i
        · cases hdropped : source.dropped <;> simp [hid, flags, Source.cancel, hdropped]
        · simp [hid]
  signals := rfl
  waiters := rfl

end Session

/-! ## After any history -/

/-- What is made after the operations `ops`: signals of the sources that they
are asked from, and waiters for the signals that they are made for. -/
structure Session.Makes (ops : List Operation) (s : Session) : Prop where
  source : (s.step .source).2.signals = s.signals ++ [.source (sourceCount ops)]
  signal : ∀ id, id < sourceCount ops → ¬ Dropped id ops →
    (s.step (.signal id)).2.signals = s.signals ++ [.source id]
  clone : ∀ i signal, s.signals[i]? = some signal →
    (s.step (.clone i)).2.signals = s.signals ++ [signal]
  never : (s.step .never).2.signals = s.signals ++ [.never]
  wait : ∀ i signal, s.signals[i]? = some signal →
    (s.step (.wait i)).2.waiters = s.waiters ++ [{ signal := signal }]

theorem Session.Recalls.makes {ops : List Operation} {s : Session} (h : Recalls ops s) :
    s.Makes ops where
  source := by rw [← h.count]; rfl
  signal id hid hkept := by
    rw [← h.count] at hid
    have hsource := List.getElem?_eq_getElem hid
    have hdropped : s.sources[id].dropped = false :=
      Bool.eq_false_iff.mpr (mt (h.dropped hsource).mp hkept)
    simp only [step, hsource, hdropped]
    rfl
  clone i signal hi := by
    simp only [step, hi]
    rfl
  never := rfl
  wait i signal hi := by simp only [step, hi]

/-- A check fails, with a failure of kind `cancelled`, just if the signal is
cancelled. -/
theorem Session.check_answers {s : Session} {i : Nat} {signal : Signal}
    (h : s.signals[i]? = some signal) :
    ∃ result, (s.step (.check i)).1 = .checked result ∧
      ((∃ cause, result = .error cause ∧ cause.kind = .cancelled) ↔ s.isCancelled signal = true) ∧
      (result = .ok () ↔ s.isCancelled signal = false) := by
  refine ⟨s.check signal, by simp only [step, h], ?_⟩
  unfold check
  cases s.isCancelled signal with
  | true => exact ⟨iff_of_true ⟨.cancelled, rfl, rfl⟩ rfl, by simp⟩
  | false => exact ⟨by simp, iff_of_true rfl rfl⟩

/-- After any operations, and whatever is done next: a signal is cancelled just
if its source was cancelled before it was dropped, no matter when the signal
was made and whether it was cloned. It stays cancelled; the signal of no
source, and one whose source was dropped without a request, never become so.
To cancel again shows in no answer. A check fails just if its signal is
cancelled, and a poll is ready just if the signal of the waiter is, whatever
the waiter was polled before. -/
theorem cancellation_recalled (ops : List Operation) :
    let s := Session.after {} ops
    (∀ signal, s.isCancelled signal = true ↔ ∃ id, signal = .source id ∧ Cancelled id ops) ∧
      s.Makes ops ∧
      (∀ more, s.signals <+: (s.after more).signals ∧
        s.waiters.map Waiter.signal <+: (s.after more).waiters.map Waiter.signal) ∧
      (∀ more signal, s.isCancelled signal = true → (s.after more).isCancelled signal = true) ∧
      (∀ more, (s.after more).isCancelled .never = false) ∧
      (∀ more id, Dropped id ops → s.isCancelled (.source id) = false →
        (s.after more).isCancelled (.source id) = false) ∧
      (∀ id, (s.after [.cancel id, .cancel id]).cancelled = (s.after [.cancel id]).cancelled ∧
        ∀ more, (s.after [.cancel id, .cancel id]).run more = (s.after [.cancel id]).run more) ∧
      (∀ i signal, s.signals[i]? = some signal →
        ∃ result, (s.step (.check i)).1 = .checked result ∧
          ((∃ cause, result = .error cause ∧ cause.kind = .cancelled) ↔
            s.isCancelled signal = true) ∧
          (result = .ok () ↔ s.isCancelled signal = false)) ∧
      ∀ i w, s.waiters[i]? = some w → (s.step (.poll i)).1 = .polled (s.isCancelled w.signal) := by
  intro s
  have hs : s.Sound := Session.Sound.start.after ops
  have hrecalls : s.Recalls ops := Session.recalls_after ops
  have hlater (more : List Operation) : (s.after more).Recalls (ops ++ more) := by
    rw [← Session.after_append]
    exact Session.recalls_after (ops ++ more)
  refine ⟨fun signal => ?_, hrecalls.makes, fun more => ⟨?_, ?_⟩, fun more signal h => ?_,
    fun _ => rfl, fun more id hdropped hopen => ?_, fun id => ?_,
    fun i signal => Session.check_answers, fun i w => Session.poll_answers hs⟩
  · cases signal with
    | never => exact iff_of_false nofun nofun
    | source id => rw [hrecalls.isCancelled_source]; simp
  · exact Session.prefix_after (fun s op => (s.stepped op).signals) s more
  · exact Session.prefix_after (fun s op => (s.stepped op).waiting) s more
  · cases signal with
    | never => cases h
    | source id =>
        rw [hrecalls.isCancelled_source] at h
        exact ((hlater more).isCancelled_source id).mpr (MadeWhen.append h more)
  · rw [Bool.eq_false_iff, ne_eq, hrecalls.isCancelled_source] at hopen
    rw [Bool.eq_false_iff, ne_eq, (hlater more).isCancelled_source]
    exact not_cancelled_of_dropped hdropped hopen more
  · have halike := Session.alike_cancel_cancel s id
    exact ⟨halike.cancelled_eq, halike.run_eq (hs.after _) (hs.after _)⟩

end Switchboard.Cancellation
