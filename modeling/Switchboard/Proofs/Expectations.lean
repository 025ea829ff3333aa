import Mathlib.Data.List.Basic
import Switchboard.Mock
import Switchboard.Proofs.Passage
import Switchboard.Scenario.State

/-!
# Expectations

A mock is used through handles, the original and its clones. A clone holds the
references of the handle that it was cloned from, so what is written through one
of them is read through all (`Mock.Handle.CloneOf.read_write`): they share what
the mock expects and what it has counted. A history says what was done through
them and how each operation ended. `Mock.due` reads off what came before an
operation how it has to end: expectations are met in the order in which they were
queued, none is lost or met twice, and a request that finds none panics and
leaves the mock as usable as it was.

`Mock.lossless_fifo` says that every history of every mock is of this kind.
-/

namespace Switchboard

/-! ## Clones -/

namespace Mock.Handle

variable {R : Type}

theorem read_write (h : Handle) (c : Cells R) (m : Mock R) : h.read (h.write c m) = m := by
  simp [read, write]

/-- A handle itself, and what is cloned from it, from its clones and so on. -/
inductive CloneOf (original : Handle) : Handle → Prop
  | self : CloneOf original original
  | clone {h : Handle} (hof : CloneOf original h) : CloneOf original h.clone

theorem CloneOf.queue {original h : Handle} (hof : CloneOf original h) :
    h.queue = original.queue := by
  induction hof with
  | self => rfl
  | clone _ ih => exact ih

theorem CloneOf.counter {original h : Handle} (hof : CloneOf original h) :
    h.counter = original.counter := by
  induction hof with
  | self => rfl
  | clone _ ih => exact ih

theorem CloneOf.read_eq {original h : Handle} (hof : CloneOf original h) (c : Cells R) :
    h.read c = original.read c := by
  rw [read, read, hof.queue, hof.counter]

/-- What is written through one clone is read through every other. -/
theorem CloneOf.read_write {original h g : Handle} (hh : CloneOf original h)
    (hg : CloneOf original g) (c : Cells R) (m : Mock R) : h.read (g.write c m) = m := by
  rw [hh.read_eq, ← hg.read_eq, g.read_write]

end Mock.Handle

namespace Scenario.State

theorem cells_setMock (s : State) (h : Mock.Handle) (k : Request) (mock : Mock (Reply k)) :
    (s.setMock h k mock).cells k = h.write (s.cells k) mock :=
  dif_pos rfl

end Scenario.State

namespace Mock

deriving instance DecidableEq for Mock

variable {ι σ M R : Type}

/-! ## Handles -/

/-- Handles on one mock, the original and its clones: what is stored through one
of them is seen through all. -/
structure Handles (ι σ R : Type) where
  original : ι
  view : ι → σ → Mock R
  store : ι → σ → Mock R → σ
  shared : ∀ i j s m, view i (store j s m) = m

/-- A handle on a mock of a scenario and all its clones. -/
def Handles.clones (original : Handle) (k : Scenario.Request) :
    Handles { h : Handle // original.CloneOf h } Scenario.State (Reply k) where
  original := ⟨original, .self⟩
  view h s := s.mock h k
  store h s mock := s.setMock h k mock
  shared h g s mock := by
    show (h : Handle).read ((s.setMock g k mock).cells k) = mock
    rw [s.cells_setMock, h.2.read_write g.2]

inductive Operation (M R : Type) where
  | returnOk (value : R)
  | returnErr (failure : Failure)
  | request (message : M) (signal : Signal)
  | calls
  | verify

/-- An operation, and the handle that it is carried out through. -/
structure Use (ι M R : Type) where
  handle : ι
  operation : Operation M R

inductive Answer (R : Type) where
  | queued
  | answered (outcome : Outcome R)
  | counted (calls : Nat)
  | verified
deriving DecidableEq

def Use.perform (h : Handles ι σ R) (u : Use ι M R) : Action σ (Answer R) :=
  match u.operation with
  | .returnOk value => do
    Action.modifyState fun s => h.store u.handle s ((h.view u.handle s).expect (.ok value))
    return .queued
  | .returnErr failure => do
    Action.modifyState fun s => h.store u.handle s ((h.view u.handle s).expect (.error failure))
    return .queued
  | .request message signal =>
    .answered <$> Mock.handler (h.view u.handle) (h.store u.handle) message signal
  | .calls => do return .counted (h.view u.handle (← Action.state)).calls
  | .verify => do
    Action.resume (h.view u.handle (← Action.state)).verify
    return .verified

/-! ## Histories -/

/-- What was done, and how it ended. -/
structure Turn (ι M R : Type) where
  use : Use ι M R
  ended : Exit (Answer R)

/-- The panic of a verification that finds some expectations left. -/
def leftover (n : Nat) : Panic :=
  .text ("Not all expectations were met. " ++ Decimal.format n ++ " remaining")

/-- A verification that panicked. Nothing is done with a mock after it. -/
def Turn.isFatal (t : Turn ι M R) : Bool :=
  match t.use.operation, t.ended with
  | .verify, .panicked _ => true
  | _, _ => false

/-- Uses a mock, up to the first verification that panics. Other panics are caught. -/
def Handles.session (h : Handles ι σ R) : List (Use ι M R) → Action σ (List (Turn ι M R))
  | [] => pure []
  | u :: uses => do
    let t : Turn ι M R := ⟨u, ← (u.perform h).attempt⟩
    if t.isFatal then return [t] else List.cons t <$> h.session uses

/-- The world with a new mock in it. -/
def Handles.fresh (h : Handles ι σ R) (w : World σ) : World σ :=
  { w with state := h.store h.original w.state {} }

def Operation.expectation? : Operation M R → Option (Outcome R)
  | .returnOk value => some (.ok value)
  | .returnErr failure => some (.error failure)
  | _ => none

def Operation.isRequest : Operation M R → Bool
  | .request .. => true
  | _ => false

def Turn.outcome? (t : Turn ι M R) : Option (Outcome R) :=
  match t.ended with
  | .value (.answered outcome) => some outcome
  | _ => none

/-- The expectations in the order in which they were queued. -/
def queued (history : List (Turn ι M R)) : List (Outcome R) :=
  history.filterMap (·.use.operation.expectation?)

/-- The answers to requests, in their order. -/
def answered (history : List (Turn ι M R)) : List (Outcome R) :=
  history.filterMap Turn.outcome?

/-- How many requests were made, those included that panicked. -/
def requests (history : List (Turn ι M R)) : Nat :=
  history.countP (·.use.operation.isRequest)

/-- How an operation ends after what was done before it. -/
def due (before : List (Turn ι M R)) : Operation M R → Exit (Answer R)
  | .returnOk _ => .value .queued
  | .returnErr _ => .value .queued
  | .request _ _ =>
    if h : (answered before).length < (queued before).length then
      .value (.answered (queued before)[(answered before).length])
    else .panicked unexpected
  | .calls => .value (.counted (requests before))
  | .verify =>
    if (answered before).length < (queued before).length then
      .panicked (leftover ((queued before).length - (answered before).length))
    else .value .verified

theorem queued_append_singleton (history : List (Turn ι M R)) (t : Turn ι M R) :
    queued (history ++ [t]) = queued history ++ t.use.operation.expectation?.toList := by
  rw [queued, List.filterMap_append, queued]
  cases h : t.use.operation.expectation? <;> simp [h]

theorem answered_append_singleton (history : List (Turn ι M R)) (t : Turn ι M R) :
    answered (history ++ [t]) = answered history ++ t.outcome?.toList := by
  rw [answered, List.filterMap_append, answered]
  cases h : t.outcome? <;> simp [h]

theorem requests_append_singleton (history : List (Turn ι M R)) (t : Turn ι M R) :
    requests (history ++ [t]) = requests history + if t.use.operation.isRequest then 1 else 0 := by
  rw [requests, List.countP_append, List.countP_singleton, requests]

/-! ## What a mock keeps -/

/-- All handles see the mock `m`. -/
def Handles.See (h : Handles ι σ R) (s : σ) (m : Mock R) : Prop :=
  ∀ i, h.view i s = m

theorem Handles.see_store (h : Handles ι σ R) (i : ι) (s : σ) (m : Mock R) :
    h.See (h.store i s m) m :=
  fun j => h.shared j i s m

/-- What a mock holds after a history: the expectations that no request has met, in
the order in which they were queued, and the number of requests. -/
structure Kept (history : List (Turn ι M R)) (m : Mock R) : Prop where
  queue : queued history = answered history ++ m.pending
  calls : m.calls = requests history

theorem kept_nil : Kept ([] : List (Turn ι M R)) ({} : Mock R) := ⟨rfl, rfl⟩

variable {h : Handles ι σ R} {w : World σ} {m : Mock R} {before : List (Turn ι M R)}

/-- One more turn moves expectations from the callers to the mock, or from the mock to
a request. -/
theorem Kept.extend (hkept : Kept before m) {t : Turn ι M R} {m' : Mock R}
    (hqueue : m.pending ++ t.use.operation.expectation?.toList = t.outcome?.toList ++ m'.pending)
    (hcalls : m'.calls = m.calls + if t.use.operation.isRequest then 1 else 0) :
    Kept (before ++ [t]) m' where
  queue := by
    rw [queued_append_singleton, answered_append_singleton, hkept.queue, List.append_assoc, hqueue,
      List.append_assoc]
  calls := by rw [requests_append_singleton, hcalls, hkept.calls]

theorem Kept.length_queued (hkept : Kept before m) :
    (queued before).length = (answered before).length + m.pending.length := by
  rw [hkept.queue, List.length_append]

theorem Kept.due_request (hkept : Kept before m) (message : M) (signal : Signal) :
    due before (.request message signal) = match m.pending with
      | [] => .panicked unexpected
      | outcome :: _ => .value (.answered outcome) := by
  have hlength := hkept.length_queued
  rw [due]
  cases hpending : m.pending with
  | nil =>
      rw [hpending] at hlength
      exact dif_neg (by rw [hlength]; exact Nat.lt_irrefl _)
  | cons outcome pending =>
      rw [hpending, List.length_cons] at hlength
      rw [dif_pos (by omega)]
      simp [hkept.queue, hpending]

theorem Kept.due_verify (hkept : Kept before m) :
    due before (.verify : Operation M R) = match m.pending with
      | [] => .value .verified
      | left => .panicked (leftover left.length) := by
  have hlength := hkept.length_queued
  rw [due]
  cases hpending : m.pending with
  | nil =>
      rw [hpending] at hlength
      exact if_neg (by rw [hlength]; exact Nat.lt_irrefl _)
  | cons outcome pending =>
      rw [hpending] at hlength
      rw [hlength, Nat.add_sub_cancel_left]
      exact if_pos (by rw [List.length_cons]; omega)

/-- A request is answered by what the mock serves, or it panics. -/
theorem run_handler (view : σ → Mock R) (store : σ → Mock R → σ) (message : M) (signal : Signal)
    (w : World σ) :
    (handler view store message signal).run w =
      ⟨(view w.state).pending.head?.elim (.panicked unexpected) .value,
        { w with state := store w.state (view w.state).serve.2 }, []⟩ := by
  have hstate : (Action.state : Action σ σ).run w = ⟨.value w.state, w, []⟩ := rfl
  rcases hview : view w.state with ⟨pending, calls⟩
  rw [handler, Action.run_bind_of_value hstate, hview]
  cases pending <;> rfl

/-- An operation ends as it is due, and the mock keeps what it has to. -/
theorem Use.run_perform (hsee : h.See w.state m) (hkept : Kept before m) (u : Use ι M R) :
    ∃ w' m', (u.perform h).run w = ⟨due before u.operation, w', []⟩ ∧ h.See w'.state m' ∧
      Kept (before ++ [⟨u, due before u.operation⟩]) m' := by
  obtain ⟨i, operation⟩ := u
  have hview : h.view i w.state = m := hsee i
  cases operation with
  | returnOk value =>
      refine ⟨_, m.expect (.ok value), rfl, ?_, hkept.extend rfl rfl⟩
      rw [← hview]
      exact h.see_store i _ _
  | returnErr failure =>
      refine ⟨_, m.expect (.error failure), rfl, ?_, hkept.extend rfl rfl⟩
      rw [← hview]
      exact h.see_store i _ _
  | request message signal =>
      obtain ⟨pending, calls⟩ := m
      refine ⟨{ w with state := h.store i w.state (serve ⟨pending, calls⟩).2 }, _, ?_,
        h.see_store i _ _, ?_⟩
      · rw [hkept.due_request, perform, Action.run_map, run_handler, hview]
        cases pending <;> rfl
      · rw [hkept.due_request]
        cases pending with
        | nil => exact hkept.extend rfl rfl
        | cons outcome pending => exact hkept.extend (List.append_nil _) rfl
  | calls =>
      refine ⟨w, m, ?_, hsee, hkept.extend (List.append_nil _) rfl⟩
      rw [due, ← hkept.calls, ← hview]
      rfl
  | verify =>
      refine ⟨w, m, ?_, hsee, ?_⟩
      · have hverified : (Use.perform h ⟨i, (.verify : Operation M R)⟩).run w =
            (Action.resume m.verify >>= fun _ => pure .verified).run w := by
          rw [← hview]
          rfl
        rw [hverified, hkept.due_verify, Mock.verify]
        cases m.pending <;> rfl
      · rw [hkept.due_verify]
        refine hkept.extend ((List.append_nil _).trans ?_) rfl
        cases m.pending <;> rfl

/-! ## What a history shows -/

/-- The history has a turn for each use, or it ends with a verification that panicked,
the only one of them. -/
inductive Covers : List (Use ι M R) → List (Turn ι M R) → Prop
  | done : Covers [] []
  | next {t : Turn ι M R} {uses : List (Use ι M R)} {history : List (Turn ι M R)}
      (hgoes : t.isFatal = false) (hrest : Covers uses history) :
      Covers (t.use :: uses) (t :: history)
  | failed {t : Turn ι M R} (hfatal : t.isFatal = true) (uses : List (Use ι M R)) :
      Covers (t.use :: uses) [t]

theorem run_session (hsee : h.See w.state m) (hkept : Kept before m) (uses : List (Use ι M R)) :
    ∃ later w' m', (h.session uses).run w = ⟨.value later, w', []⟩ ∧ Covers uses later ∧
      h.See w'.state m' ∧ Kept (before ++ later) m' ∧
      ∀ front t back, later = front ++ t :: back →
        t.ended = due (before ++ front) t.use.operation := by
  induction uses generalizing w m before with
  | nil =>
      refine ⟨[], w, m, rfl, .done, hsee, by rwa [List.append_nil], ?_⟩
      intro front t back hsplit
      cases front <;> cases hsplit
  | cons u uses ih =>
      obtain ⟨w₁, m₁, hrun, hsee₁, hkept₁⟩ := u.run_perform hsee hkept
      rw [Handles.session, Action.run_attempt_bind, hrun]
      cases hfatal : Turn.isFatal ⟨u, due before u.operation⟩ with
      | true =>
          refine ⟨[⟨u, due before u.operation⟩], w₁, m₁, ?_, .failed hfatal uses, hsee₁, hkept₁, ?_⟩
          · simp [hfatal]
          · intro front t back hsplit
            cases front with
            | nil =>
                cases hsplit
                rw [List.append_nil]
            | cons first front => simp at hsplit
      | false =>
          obtain ⟨later, w', m', hlater, hcovers, hsee', hkept', hdue⟩ := ih hsee₁ hkept₁
          refine ⟨⟨u, due before u.operation⟩ :: later, w', m', ?_, .next hfatal hcovers, hsee',
            ?_, ?_⟩
          · simp [hfatal, Action.run_map, hlater]
          · rwa [List.append_cons]
          · intro front t back hsplit
            cases front with
            | nil =>
                cases hsplit
                rw [List.append_nil]
            | cons first front =>
                cases hsplit
                rw [List.append_cons]
                exact hdue front t back rfl

/-- Whatever is done with a new mock through any of its handles, up to the first
verification that panics, every operation ends as it is due, and in the end each
handle sees the expectations that no request has met, and the number of requests. -/
theorem lossless_fifo (h : Handles ι σ R) (uses : List (Use ι M R)) (w : World σ) :
    ∃ history w', (h.session uses).run (h.fresh w) = ⟨.value history, w', []⟩ ∧
      Covers uses history ∧
      (∀ before t after, history = before ++ t :: after →
        t.ended = due before t.use.operation) ∧
      ∀ i, Kept history (h.view i w'.state) := by
  have hfresh : h.See (h.fresh w).state {} := h.see_store h.original w.state {}
  obtain ⟨history, w', m, hrun, hcovers, hsee, hkept, hdue⟩ := run_session hfresh kept_nil uses
  refine ⟨history, w', hrun, hcovers, hdue, fun i => ?_⟩
  rw [hsee i]
  exact hkept

/-- A request that finds no expectation panics and is counted; the next one is answered
again. What is expected through a handle is served through its clone, and the reverse. -/
theorem clone_serves_and_is_served :
    let h : Handles _ Scenario.State Int64 := .clones (.named "prices") (.inr .alpha)
    let original := h.original
    let clone : { h // Handle.CloneOf (.named "prices") h } := ⟨_, .clone original.2⟩
    let request : Operation Scenario.Alpha Int64 := .request ⟨0⟩ .never
    let uses : List (Use _ Scenario.Alpha Int64) := [⟨original, .returnOk 1⟩, ⟨clone, request⟩,
      ⟨original, request⟩, ⟨clone, .returnOk 2⟩, ⟨original, request⟩, ⟨clone, .calls⟩,
      ⟨original, .returnOk 3⟩, ⟨clone, .verify⟩, ⟨original, request⟩]
    ∃ history w', (h.session uses).run (h.fresh { state := {} }) = ⟨.value history, w', []⟩ ∧
      history.map Turn.ended = [.value .queued, .value (.answered (.ok 1)),
        .panicked (.text "Unexpected request: no expectation left"), .value .queued,
        .value (.answered (.ok 2)), .value (.counted 3), .value .queued,
        .panicked (.text "Not all expectations were met. 1 remaining")] ∧
      Kept history { pending := [.ok 3], calls := 3 } := by
  intro h original clone request uses
  obtain ⟨history, w', hrun, -, -, hkept⟩ := lossless_fifo h uses { state := {} }
  have hexit : ((h.session uses).run (h.fresh { state := {} })).exit.map (List.map Turn.ended) =
      .value [.value .queued, .value (.answered (.ok 1)),
        .panicked (.text "Unexpected request: no expectation left"), .value .queued,
        .value (.answered (.ok 2)), .value (.counted 3), .value .queued,
        .panicked (.text "Not all expectations were met. 1 remaining")] := by
    decide +kernel
  have hleft : h.view clone ((h.session uses).run (h.fresh { state := {} })).world.state =
      { pending := [.ok 3], calls := 3 } := by
    decide +kernel
  rw [hrun] at hexit hleft
  exact ⟨history, w', hrun, Exit.value.inj hexit, hleft ▸ hkept clone⟩

end Mock

end Switchboard
