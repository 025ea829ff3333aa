import Switchboard.Proofs.Catalog.Announcement
import Switchboard.Proofs.Catalog.Decision

/-!
# Calls that fail

A call that fails leaves everything as it was (`failed_call_atomic`): the
items, the last id given out, the audit log and the index. It fails before
anything is announced. That no listener is entered, and nothing around one, is
stated by exchanging them (`Client.hearing`): whatever the mediator finds for a
notification, be it listeners that panic or no listeners at all, the call runs
the same.
-/

namespace Switchboard.Catalog

/-! ## The side of the listeners -/

section Hearing

variable {σ ρ ν : Type} [Requests ρ] [Messages ν]

/-- The client with other listeners and other interceptors around them. -/
def Client.hearing (c : Client σ ρ ν)
    (listeners : (n : Notification ⊕ ν) → Action σ (List (Listener σ n)))
    (around : (n : Notification ⊕ ν) → Action σ (List (ListenerInterceptor σ n))) :
    Client σ ρ ν :=
  { c with mediator.lookup :=
    { c.mediator.lookup with listeners, listenerInterceptors := around } }

variable {c : Client σ ρ ν} {w w' : World σ} {e : Error} {t : Trace}
  (listeners : (n : Notification ⊕ ν) → Action σ (List (Listener σ n)))
  (around : (n : Notification ⊕ ν) → Action σ (List (ListenerInterceptor σ n)))

/-- A write that fails has sent its request and no more, and requests do not
see the listeners. -/
theorem Client.Written.hearing {op : Operation} (h : c.Written op w (.error e) w' t) :
    (c.hearing listeners around).Written op w (.error e) w' t := by
  cases h with
  | refused hsend herror => exact .refused hsend herror
  | undispatched hsend => exact .undispatched hsend

theorem Client.run_write_hearing {op : Operation} {refuse : Failure → Action σ Unit}
    (hrefuse : ∀ f w, (refuse f).run w = ⟨.value (), w, op.refusal f⟩)
    (h : (c.write op refuse).run w = ⟨.value (.error e), w', t⟩) :
    ((c.hearing listeners around).write op refuse).run w = ⟨.value (.error e), w', t⟩ :=
  (run_write hrefuse).mpr (((run_write hrefuse).mp h).hearing listeners around)

theorem run_map_eq_error {α β : Type} {a : Action σ (Except Error α)} {f : α → β} :
    (do return (← a).map f).run w = ⟨.value (.error e), w', t⟩ ↔
      a.run w = ⟨.value (.error e), w', t⟩ := by
  rw [Action.run_bind_eq_value]
  constructor
  · rintro ⟨x, w₁, t₁, t₂, hrun, hmap, rfl⟩
    cases x with
    | error e' =>
        cases hmap
        rw [List.append_nil]
        exact hrun
    | ok a => cases hmap
  · intro h
    exact ⟨_, w', t, [], h, rfl, (List.append_nil t).symm⟩

theorem Call.run_hearing {call : Call} (h : (call.run c).run w = ⟨.value (.error e), w', t⟩) :
    (call.run (c.hearing listeners around)).run w = ⟨.value (.error e), w', t⟩ := by
  cases call with
  | create name price =>
      rw [Call.run, run_map_eq_error, Client.create_eq_write] at h ⊢
      exact Client.run_write_hearing listeners around (fun _ _ => rfl) h
  | rename id name =>
      rw [Call.run, run_map_eq_error, Client.rename_eq_write] at h ⊢
      exact Client.run_write_hearing listeners around (fun _ _ => rfl) h
  | delete id =>
      rw [Call.run, run_map_eq_error, Client.delete_eq_write] at h ⊢
      exact Client.run_write_hearing listeners around (fun _ _ => rfl) h
  -- reads announce nothing
  | get id => exact h
  | require id => exact h
  | describe id => exact h

end Hearing

/-! ## Why calls of the catalog fail -/

/-- The kinds of the failures that calls of the catalog end in. -/
def expectedKinds : List Failure.Kind :=
  [.validation, .conflict, .notFound, .cancelled]

@[simp] theorem Store.duplicate_expected (name : String) :
    (duplicate name).kind ∈ expectedKinds := by
  simp [expectedKinds, duplicate, Failure.Cause.conflict]

@[simp] theorem Store.missing_expected (id : ItemId) : (missing id).kind ∈ expectedKinds := by
  simp [expectedKinds, missing, Failure.Cause.notFound]

@[simp] theorem validation_expected (errors : List FieldError) :
    (Failure.Cause.validation errors).kind ∈ expectedKinds := by
  simp [expectedKinds, Failure.Cause.validation]

@[simp] theorem cancelled_expected : Failure.Cause.cancelled.kind ∈ expectedKinds := by
  decide

theorem Store.insert_error {s : Store} {name : String} {price : Binary64} {cause : Failure.Cause}
    (h : s.insert name price = .error cause) : cause.kind ∈ expectedKinds := by
  unfold Store.insert at h
  split at h
  · cases h
    simp
  · cases h

theorem Store.rename_error {s : Store} {id : ItemId} {name : String} {cause : Failure.Cause}
    (h : s.rename id name = .error cause) : cause.kind ∈ expectedKinds := by
  unfold Store.rename at h
  split at h
  · cases h
    simp
  · split at h
    · cases h
      simp
    · cases h

theorem Store.remove_error {s : Store} {id : ItemId} {cause : Failure.Cause}
    (h : s.remove id = .error cause) : cause.kind ∈ expectedKinds := by
  unfold Store.remove at h
  split at h
  · cases h
    simp
  · cases h

theorem map_eq_error {ε α β : Type} {x : Except ε α} {f : α → β} {e : ε}
    (h : x.map f = .error e) : x = .error e := by
  cases x with
  | error e' =>
      cases h
      rfl
  | ok a => cases h

theorem Request.effect_error {limit : Nat} {s : Store} {k : Request} {body : Body k}
    {cause : Failure.Cause} (h : k.effect limit s body = .error cause) :
    cause.kind ∈ expectedKinds := by
  cases k with
  | create =>
      simp only [effect] at h
      split at h
      · exact Store.insert_error (map_eq_error h)
      · cases h
        simp
  | get => cases h
  | rename =>
      simp only [effect] at h
      split at h
      · exact Store.rename_error h
      · cases h
        simp
  | delete => exact Store.remove_error (map_eq_error h)

theorem Request.answer_error {limit : Nat} {cancelled : Bool} {s : Store} {k : Request}
    {body : Body k} {cause : Failure.Cause} (h : k.answer limit cancelled s body = .error cause) :
    cause.kind ∈ expectedKinds := by
  unfold answer at h
  split at h
  · cases h
    simp
  · exact effect_error h

theorem Call.effect_error {limit : Nat} {cancelled : Bool} {s : State} {call : Call}
    {cause : Failure.Cause} (h : call.effect limit cancelled s = .error cause) :
    cause.kind ∈ expectedKinds := by
  cases call with
  | create _ _ | rename _ _ | delete _ =>
      simp only [effect] at h
      split at h
      · cases h
      · rename_i hanswer
        cases h
        exact Request.answer_error hanswer
  | get id =>
      simp only [effect] at h
      split at h
      · cases h
        simp
      · cases h
  | require id =>
      simp only [effect] at h
      split at h
      · cases h
        simp
      · split at h
        · cases h
        · cases h
          simp
  | describe id =>
      simp only [effect] at h
      split at h
      · cases h
      · split at h <;> cases h

theorem Error.ofFailure_expected {f : Failure} (h : f.kind ∈ expectedKinds) :
    (∀ g, ofFailure f ≠ .failed g) ∧ ∀ d, ofFailure f ≠ .dispatch d := by
  unfold ofFailure
  cases hkind : f.kind with
  | validation | notFound | conflict | cancelled => simp
  | unauthorized | forbidden | unexpected =>
      rw [hkind] at h
      exact absurd h (by decide)

/-- After any session, a call that fails leaves all four parts of the state as
they were, the id that comes next included, and its run does not depend on who
listens. It fails for one of the four expected reasons. -/
theorem failed_call_atomic (config : Config) (turns : List Turn) (turn : Turn) {e : Error}
    (hfailed : (turn.perform config (session config turns).world).1 = .value (.error e)) :
    let w := (session config turns).world
    let s := w.state
    let s' := (turn.perform config w).2.state
    (s'.store.items = s.store.items ∧ s'.store.lastId = s.store.lastId ∧ s'.audit = s.audit ∧
        s'.index = s.index) ∧
      ((∀ f, e ≠ .failed f) ∧ ∀ d, e ≠ .dispatch d) ∧
      let c : Client State Empty Empty := client config turn.signal
      ∀ listeners around,
        (turn.call.run (c.hearing listeners around)).run { w with sources := turn.sources } =
          (turn.call.run c).run { w with sources := turn.sources } := by
  intro w s s'
  cases heffect : turn.call.effect config.maxNameLength.toNat turn.cancelled w.state with
  | ok result =>
      obtain ⟨w', hperform, -⟩ := turn.perform_of_ok (w := w) heffect
      rw [hperform] at hfailed
      cases hfailed
  | error cause =>
      obtain ⟨mark, w', hperform, hstate⟩ := turn.perform_of_error heffect
      have hs : s' = s := by
        show (turn.perform config w).2.state = w.state
        rw [hperform, hstate]
      rw [hperform] at hfailed
      cases hfailed
      refine ⟨?_, Error.ofFailure_expected (Call.effect_error heffect), ?_⟩
      · rw [hs]
        exact ⟨rfl, rfl, rfl, rfl⟩
      · intro c listeners around
        obtain ⟨t, hrun⟩ := Action.eval_eq_iff.mp hperform
        rw [hrun]
        exact Call.run_hearing listeners around hrun

theorem refused_duplicate_leaves_catalog :
    let turns : List Turn := [⟨[], .never, .create "Lamp" ⟨0x4024000000000000⟩⟩]
    let turn : Turn := ⟨[], .never, .create " LAMP " ⟨0x4024000000000000⟩⟩
    let w := (session {} turns).world
    let c : Client State Empty Empty := client {} .never
    (turn.perform {} w).1 =
        .value (.error (.duplicate "an item named 'LAMP' already exists")) ∧
      (turn.perform {} w).2.state.store.items =
        [(1, ⟨⟨1⟩, "Lamp", ⟨0x4024000000000000⟩⟩)] ∧
      (turn.perform {} w).2.state.store.lastId = 1 ∧
      (turn.call.run (c.hearing (fun _ => .panic .other) fun _ => .panic .other)).run
          { w with sources := [] } =
        (turn.call.run c).run { w with sources := [] } := by
  intro turns turn w c
  have hstore : w.state.store = ⟨[(1, ⟨⟨1⟩, "Lamp", ⟨0x4024000000000000⟩⟩)], 1⟩ := by rfl
  have hlive : w.state.store.get? ⟨1⟩ = some ⟨⟨1⟩, "Lamp", ⟨0x4024000000000000⟩⟩ := by
    rw [hstore]
    rfl
  have hclash : foldName "Lamp" = foldName (Text.trim " LAMP ") := by decide
  have hmessage : "an item named '" ++ Text.trim " LAMP " ++ "' already exists" =
      "an item named 'LAMP' already exists" := by decide
  have hdecided : CreateDecided ({} : Config).maxNameLength.toNat w.state.store
      ⟨w.state.store.lastId + 1⟩ " LAMP " ⟨0x4024000000000000⟩ (turn.perform {} w).1 :=
    create_decided rfl (session_sound {} turns) " LAMP " ⟨0x4024000000000000⟩
  have hfailed := hdecided.2.1 (by decide)
    ⟨⟨1⟩, ⟨⟨1⟩, "Lamp", ⟨0x4024000000000000⟩⟩, hlive, hclash⟩
  rw [hmessage] at hfailed
  obtain ⟨⟨hitems, hlastId, -⟩, -, hunheard⟩ := failed_call_atomic {} turns turn hfailed
  refine ⟨hfailed, ?_, ?_, hunheard (fun _ => .panic .other) fun _ => .panic .other⟩
  · rw [hitems, hstore]
  · rw [hlastId, hstore]

end Switchboard.Catalog
