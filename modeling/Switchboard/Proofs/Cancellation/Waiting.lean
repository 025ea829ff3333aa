import Switchboard.Cancellation.Session
import Switchboard.Proofs.Running

/-!
# Waiting

A waiter keeps a phase of its own and looks at its source only when there is
something new. All the same it answers every poll with the flag of its signal
(`Session.poll_answers`): a waiter that sleeps has seen no change, a stranded
one has a source that nobody can cancel any more, and a finished one has a
source that is cancelled. `Session.Sound` states this of all the waiters of a
session, and every operation keeps it (`Stepped.sound`).
-/

namespace Switchboard

/-! ## Sources -/

namespace Source

/-- Changes are counted, and a source that has changed is cancelled. -/
def Counted (s : Source) : Prop :=
  s.cancelled = true ↔ s.changes ≠ 0

theorem counted_new : Counted {} := by
  simp [Counted]

theorem Counted.cancel {s : Source} (h : s.Counted) : s.cancel.Counted := by
  unfold Source.cancel
  split
  · exact h
  · exact iff_of_true rfl (Nat.succ_ne_zero _)

theorem Counted.drop {s : Source} (h : s.Counted) : s.drop.Counted := h

end Source

/-! ## Waiters -/

namespace Waiter

/-- The phase of a waiter fits its source. -/
def Phase.Fits (s : Source) : Phase → Prop
  | .fresh => True
  | .asleep seen => seen = 0
  | .stranded => s.dropped = true ∧ s.cancelled = false
  | .finished => s.cancelled = true

variable {s : Source} {phase : Phase}

theorem fits_look (h : s.Counted) : (look s).Fits s := by
  unfold look
  split
  · assumption
  · rename_i hopen
    split
    · exact ⟨‹_›, Bool.eq_false_iff.mpr hopen⟩
    · show s.changes = 0
      exact Decidable.not_not.mp (mt h.mpr hopen)

theorem look_eq_finished : look s = .finished ↔ s.cancelled = true := by
  unfold look
  cases s.cancelled <;> cases s.dropped <;> simp

namespace Phase.Fits

theorem advance (h : s.Counted) (hfits : phase.Fits s) : (advance s phase).Fits s := by
  cases phase with
  | fresh => exact fits_look h
  | stranded => exact hfits
  | finished => exact hfits
  | asleep seen =>
      simp only [Waiter.advance]
      by_cases hseen : s.changes = seen
      · have hopen : s.cancelled = false :=
          Bool.eq_false_iff.mpr fun hc => h.mp hc (hseen.trans hfits)
        cases hdropped : s.dropped with
        | true => simpa [hseen] using ⟨hdropped, hopen⟩
        | false => simpa [hseen] using hfits
      · rw [if_pos hseen]
        exact fits_look h

/-- Whatever a waiter has seen before, a poll finishes it just if its source is
cancelled. -/
theorem finished_iff (h : s.Counted) (hfits : phase.Fits s) :
    Waiter.advance s phase = .finished ↔ s.cancelled = true := by
  cases phase with
  | fresh => exact look_eq_finished
  | stranded => exact iff_of_false nofun (Bool.eq_false_iff.mp hfits.2)
  | finished => exact iff_of_true rfl hfits
  | asleep seen =>
      simp only [Waiter.advance]
      by_cases hseen : s.changes = seen
      -- nothing has changed, so the source is not cancelled, dropped or not
      · have hopen : ¬ s.cancelled = true := fun hc => h.mp hc (hseen.trans hfits)
        cases s.dropped <;> simp [hseen, hopen]
      · rw [if_pos hseen]
        exact look_eq_finished

theorem cancel (hfits : phase.Fits s) : phase.Fits s.cancel := by
  cases phase with
  | fresh => exact hfits
  | asleep seen => exact hfits
  | stranded =>
      rw [Source.cancel, if_pos hfits.1]
      exact hfits
  | finished => exact Source.cancelled_cancel hfits

theorem drop (hfits : phase.Fits s) : phase.Fits s.drop := by
  cases phase with
  | fresh => exact hfits
  | asleep seen => exact hfits
  | stranded => exact ⟨rfl, hfits.2⟩
  | finished => exact hfits

end Phase.Fits

/-! ## The source of a signal -/

theorem cancelled_sourceOf (sources : Sources) (signal : Signal) :
    (sourceOf sources signal).cancelled = sources.isCancelled signal := by
  cases signal with
  | never => rfl
  | source id =>
      simp only [sourceOf, Sources.isCancelled]
      cases sources[id]? <;> rfl

theorem counted_sourceOf {sources : Sources} (h : ∀ source ∈ sources, source.Counted)
    (signal : Signal) : (sourceOf sources signal).Counted := by
  cases signal with
  | never => exact Source.counted_new
  | source id =>
      simp only [sourceOf]
      cases hid : sources[id]? with
      | none => exact Source.counted_new
      | some source => exact h source (List.mem_of_getElem? hid)

/-- A change of one source changes the source of a signal in the same way, or
not at all. -/
theorem sourceOf_modify (sources : Sources) (id : SourceId) (change : Source → Source)
    (signal : Signal) :
    sourceOf (sources.modify id change) signal = sourceOf sources signal ∨
      sourceOf (sources.modify id change) signal = change (sourceOf sources signal) := by
  cases signal with
  | never => exact .inl rfl
  | source i =>
      simp only [sourceOf, List.getElem?_modify]
      cases sources[i]? with
      | none => exact .inl rfl
      | some source =>
          by_cases hid : id = i
          · exact .inr (by simp [hid])
          · exact .inl (by simp [hid])

end Waiter

/-- The source of the signal is one of so many. -/
def Signal.Within (count : Nat) : Signal → Prop
  | .never => True
  | .source id => id < count

theorem Signal.Within.mono {m n : Nat} {signal : Signal} (h : signal.Within m) (hle : m ≤ n) :
    signal.Within n := by
  cases signal with
  | never => trivial
  | source id => exact Nat.lt_of_lt_of_le h hle

/-- A new source is not the source of an older signal. -/
theorem Waiter.sourceOf_append {sources : Sources} {signal : Signal}
    (h : signal.Within sources.length) (source : Source) :
    sourceOf (sources ++ [source]) signal = sourceOf sources signal := by
  cases signal with
  | never => rfl
  | source id =>
      simp only [sourceOf]
      rw [List.getElem?_append_left h]

/-! ## Sessions -/

/-- Neither creates a source nor changes one. -/
def Cancellation.Operation.keepsSources : Operation → Bool
  | source | cancel _ | drop _ => false
  | signal _ | clone _ | never | check _ | wait _ | poll _ => true

namespace Cancellation.Session

/-- What every session keeps. -/
structure Sound (s : Session) : Prop where
  counted : ∀ source ∈ s.sources, source.Counted
  signals : ∀ signal ∈ s.signals, signal.Within s.sources.length
  waiters : ∀ w ∈ s.waiters,
    w.signal.Within s.sources.length ∧ w.phase.Fits (Waiter.sourceOf s.sources w.signal)

namespace Sound

variable {s : Session}

theorem start : Sound {} where
  counted := nofun
  signals := nofun
  waiters := nofun

theorem grow (hs : s.Sound) : Sound { s with sources := s.sources ++ [({} : Source)] } where
  counted source hmem := by
    rcases List.mem_append.mp hmem with hold | hnew
    · exact hs.counted source hold
    · rw [List.mem_singleton.mp hnew]
      exact Source.counted_new
  signals signal hmem := (hs.signals signal hmem).mono (by simp)
  waiters w hmem := by
    obtain ⟨hwithin, hfits⟩ := hs.waiters w hmem
    refine ⟨hwithin.mono (by simp), ?_⟩
    rw [Waiter.sourceOf_append hwithin]
    exact hfits

theorem addSignal (hs : s.Sound) {signal : Signal} (h : signal.Within s.sources.length) :
    (s.addSignal signal).Sound where
  counted := hs.counted
  signals other hmem := by
    rcases List.mem_append.mp hmem with hold | hnew
    · exact hs.signals other hold
    · rw [List.mem_singleton.mp hnew]
      exact h
  waiters := hs.waiters

/-- A change of one source that waiters can follow. -/
theorem modify (hs : s.Sound) (id : SourceId) {change : Source → Source}
    (hcounted : ∀ source, source.Counted → (change source).Counted)
    (hfits : ∀ source phase, Waiter.Phase.Fits source phase → phase.Fits (change source)) :
    Sound { s with sources := s.sources.modify id change } where
  counted source hmem := by
    obtain ⟨i, hi⟩ := List.mem_iff_getElem?.mp hmem
    rw [List.getElem?_modify] at hi
    cases hold : s.sources[i]? with
    | none =>
        rw [hold] at hi
        cases hi
    | some old =>
        have hcount := hs.counted old (List.mem_of_getElem? hold)
        rw [hold] at hi
        cases hi
        split
        · exact hcounted old hcount
        · exact hcount
  signals signal hmem := by
    rw [List.length_modify]
    exact hs.signals signal hmem
  waiters w hmem := by
    obtain ⟨hwithin, hold⟩ := hs.waiters w hmem
    refine ⟨by rwa [List.length_modify], ?_⟩
    rcases Waiter.sourceOf_modify s.sources id change w.signal with hsame | hchanged
    · rwa [hsame]
    · rw [hchanged]
      exact hfits _ _ hold

theorem wait (hs : s.Sound) {i : Nat} {signal : Signal} (h : s.signals[i]? = some signal) :
    Sound { s with waiters := s.waiters ++ [{ signal }] } where
  counted := hs.counted
  signals := hs.signals
  waiters w hmem := by
    rcases List.mem_append.mp hmem with hold | hnew
    · exact hs.waiters w hold
    · rw [List.mem_singleton.mp hnew]
      exact ⟨hs.signals signal (List.mem_of_getElem? h), trivial⟩

theorem poll (hs : s.Sound) {i : Nat} {w : Waiter} (h : s.waiters[i]? = some w) :
    Sound { s with waiters := s.waiters.set i (w.poll s.sources) } where
  counted := hs.counted
  signals := hs.signals
  waiters other hmem := by
    rcases List.mem_or_eq_of_mem_set hmem with hold | rfl
    · exact hs.waiters other hold
    · obtain ⟨hwithin, hfits⟩ := hs.waiters w (List.mem_of_getElem? h)
      exact ⟨hwithin, hfits.advance (Waiter.counted_sourceOf hs.counted w.signal)⟩

end Sound

/-! ## What an operation does -/

/-- Everything that an operation can answer, and the session that it can leave. -/
inductive Stepped (s : Session) : Operation → Reply → Session → Prop
  | source : Stepped s .source .done
      (addSignal { s with sources := s.sources ++ [({} : Source)] } (.source s.sources.length))
  | cancel (id : SourceId) :
      Stepped s (.cancel id) .done { s with sources := s.sources.cancel id }
  | drop (id : SourceId) : Stepped s (.drop id) .done { s with sources := s.sources.drop id }
  | signal {id : SourceId} {source : Source} (h : s.sources[id]? = some source)
      (hkept : source.dropped = false) :
      Stepped s (.signal id) .done (s.addSignal (.source id))
  | clone {i : Nat} {signal : Signal} (h : s.signals[i]? = some signal) :
      Stepped s (.clone i) .done (s.addSignal signal)
  | never : Stepped s .never .done (s.addSignal .never)
  | check {i : Nat} {signal : Signal} (h : s.signals[i]? = some signal) :
      Stepped s (.check i) (.checked (s.check signal)) s
  | wait {i : Nat} {signal : Signal} (h : s.signals[i]? = some signal) :
      Stepped s (.wait i) .done { s with waiters := s.waiters ++ [{ signal }] }
  | poll {i : Nat} {w : Waiter} (h : s.waiters[i]? = some w) :
      Stepped s (.poll i) (.polled (w.poll s.sources).isReady)
        { s with waiters := s.waiters.set i (w.poll s.sources) }
  /-- The number names nothing, or a source that has been dropped. -/
  | idle {op : Operation} (hkeeps : op.keepsSources = true) : Stepped s op .done s

theorem stepped (s : Session) (op : Operation) : Stepped s op (s.step op).1 (s.step op).2 := by
  cases op with
  | source => exact .source
  | cancel id => exact .cancel id
  | drop id => exact .drop id
  | never => exact .never
  | signal id =>
      simp only [step]
      split
      · rename_i source h
        cases hdropped : source.dropped with
        | true => exact .idle rfl
        | false => exact .signal h hdropped
      · exact .idle rfl
  | clone i =>
      simp only [step]
      split
      · exact .clone ‹_›
      · exact .idle rfl
  | check i =>
      simp only [step]
      split
      · exact .check ‹_›
      · exact .idle rfl
  | wait i =>
      simp only [step]
      split
      · exact .wait ‹_›
      · exact .idle rfl
  | poll i =>
      simp only [step]
      split
      · exact .poll ‹_›
      · exact .idle rfl

variable {s s' : Session} {op : Operation} {reply : Reply}

theorem Stepped.sound (h : Stepped s op reply s') (hs : s.Sound) : s'.Sound := by
  cases h with
  | source => exact hs.grow.addSignal (by simp [Signal.Within])
  | cancel id => exact hs.modify id (fun _ h => h.cancel) (fun _ _ h => h.cancel)
  | drop id => exact hs.modify id (fun _ h => h.drop) (fun _ _ h => h.drop)
  | @signal id source h _ =>
      have hid : (Signal.source id).Within s.sources.length :=
        (List.getElem?_eq_some_iff.mp h).1
      exact hs.addSignal hid
  | clone h => exact hs.addSignal (hs.signals _ (List.mem_of_getElem? h))
  | never => exact hs.addSignal trivial
  | check _ => exact hs
  | wait h => exact hs.wait h
  | poll h => exact hs.poll h
  | idle => exact hs

/-- A poll answers the flag of the signal, whatever the waiter was polled before. -/
theorem poll_answers (hs : s.Sound) {i : Nat} {w : Waiter}
    (h : s.waiters[i]? = some w) :
    (s.step (.poll i)).1 = .polled (s.isCancelled w.signal) := by
  obtain ⟨-, hfits⟩ := hs.waiters w (List.mem_of_getElem? h)
  have hready : (w.poll s.sources).isReady = s.isCancelled w.signal := by
    rw [Session.isCancelled, ← Waiter.cancelled_sourceOf, Bool.eq_iff_iff, Waiter.isReady,
      decide_eq_true_iff]
    exact hfits.finished_iff (Waiter.counted_sourceOf hs.counted w.signal)
  simp only [Session.step, h, hready]

end Cancellation.Session

end Switchboard
