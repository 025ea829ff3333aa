import Switchboard.Catalog.Client
import Switchboard.Proofs.Running

/-!
# Writes and their announcements

The three writes of the client go the same way (`Client.write`): a request is
sent, and if it is committed, the change is published. `committed_write_succeeds`
says how such a write ends and what it reports, over any mediator at all: what
comes of the announcement never changes the answer, and nothing is announced
unless the request succeeded.
-/

namespace Switchboard.Catalog

/-- What makes up a write of the client. -/
structure Operation where
  span : Span
  request : Request
  body : Body request
  notification : Notification
  /-- What announces the change, from the reply to the request. -/
  event : Reply request → Body notification
  /-- What the client reports of a request that failed. -/
  refusal : Failure → Trace

namespace Operation

def create (name : String) (price : Binary64) : Operation where
  span := ⟨"create_item", [("name", name), ("price", Decimal.formatDiagnostic price)]⟩
  request := .create
  body := (⟨name, price⟩ : CreateItem)
  notification := .created
  event (id : ItemId) := (⟨id, Text.trim name⟩ : ItemCreated)
  refusal f :=
    [.event { level := .warn, message := "Item not created", fields := [("code", f.code)] }]

def rename (id : ItemId) (name : String) : Operation where
  span := ⟨"rename_item", [("id", id.describe), ("name", name)]⟩
  request := .rename
  body := (⟨id, name⟩ : RenameItem)
  notification := .renamed
  event (item : Item) := (⟨item.id, item.name⟩ : ItemRenamed)
  refusal _ := []

def delete (id : ItemId) : Operation where
  span := ⟨"delete_item", [("id", id.describe)]⟩
  request := .delete
  body := (⟨id⟩ : DeleteItem)
  notification := .deleted
  event _ := (⟨id⟩ : ItemDeleted)
  refusal _ := []

end Operation

namespace Client

variable {σ ρ ν : Type} [Requests ρ] [Messages ν]

/-- The warning about a publish that went wrong. -/
def unannounced : Except DispatchError Unit → Trace
  | .ok () => []
  | .error e => [.event {
      level := .warn
      message := "Change committed but not fully announced"
      fields := [("error", e.message)] }]

/-- The events of an operation: that its request goes out, and the others, all
of them in its span. -/
def shown (op : Operation) (t : Trace) : Trace :=
  (.event { level := .debug, message := "Sending request", fields := [] } :: t).map
    (Report.inside op.span)

/-- The error that a failure becomes for the caller of the catalog, by its kind. -/
inductive Becomes (f : Failure) : Error → Prop
  | notFound (h : f.kind = .notFound) : Becomes f (.notFound f.message)
  | invalid (h : f.kind = .validation) : Becomes f (.invalid f)
  | duplicate (h : f.kind = .conflict) : Becomes f (.duplicate f.message)
  | cancelled (h : f.kind = .cancelled) : Becomes f .cancelled
  | failed (h : f.kind = .unauthorized ∨ f.kind = .forbidden ∨ f.kind = .unexpected) :
      Becomes f (.failed f)

theorem becomes_iff {f : Failure} {e : Error} : Becomes f e ↔ .ofFailure f = e := by
  constructor
  · intro h
    cases h with
    | notFound h | invalid h | duplicate h | cancelled h => simp only [Error.ofFailure, h]
    | failed h => rcases h with h | h | h <;> simp only [Error.ofFailure, h]
  · rintro rfl
    unfold Error.ofFailure
    cases h : f.kind with
    | validation => exact .invalid h
    | notFound => exact .notFound h
    | conflict => exact .duplicate h
    | unauthorized => exact .failed (.inl h)
    | forbidden => exact .failed (.inr (.inl h))
    | cancelled => exact .cancelled h
    | unexpected => exact .failed (.inr (.inr h))

/-- How a write can go that does not panic: its answer, the world that it
leaves and what it reports. -/
inductive Written (c : Client σ ρ ν) (op : Operation) (w : World σ) :
    Except Error (Reply op.request) → World σ → Trace → Prop
  /-- The request succeeds, and one notification is published in the world that
  it left. The result of publishing is reported and no more. -/
  | committed {reply : Reply op.request} {w₁ w₂ : World σ} {t₁ t₂ : Trace}
      {result : Except DispatchError Unit}
      (hsend : (c.mediator.send (.inl op.request) op.body c.signal).run w =
        ⟨.value (.ok (.ok reply)), w₁, t₁⟩)
      (hpublish : (c.mediator.publish (.inl op.notification) (op.event reply) c.signal).run w₁ =
        ⟨.value result, w₂, t₂⟩) :
      Written c op w (.ok reply) w₂ (shown op (t₁ ++ t₂ ++ unannounced result))
  /-- The request fails, and nothing is published. -/
  | refused {f : Failure} {e : Error} {w₁ : World σ} {t₁ : Trace}
      (hsend : (c.mediator.send (.inl op.request) op.body c.signal).run w =
        ⟨.value (.ok (.error f)), w₁, t₁⟩) (herror : Becomes f e) :
      Written c op w (.error e) w₁ (shown op (t₁ ++ op.refusal f))
  /-- The request is not carried out, and nothing is published. -/
  | undispatched {e : DispatchError} {w₁ : World σ} {t₁ : Trace}
      (hsend : (c.mediator.send (.inl op.request) op.body c.signal).run w =
        ⟨.value (.error e), w₁, t₁⟩) :
      Written c op w (.error (.dispatch e)) w₁ (shown op t₁)

/-- What a write does with the answer to its request. -/
def conclude (c : Client σ ρ ν) (op : Operation) (refuse : Failure → Action σ Unit) :
    Except DispatchError (Outcome (Reply op.request)) →
      Action σ (Except Error (Reply op.request))
  | .error e => return .error (.dispatch e)
  | .ok (.error f) => do
    refuse f
    return .error (.ofFailure f)
  | .ok (.ok reply) => do
    c.announce op.notification (op.event reply)
    return .ok reply

/-- Any of the three writes. -/
def write (c : Client σ ρ ν) (op : Operation) (refuse : Failure → Action σ Unit) :
    Action σ (Except Error (Reply op.request)) :=
  Action.within op.span do
    sending
    c.conclude op refuse (← c.request op.request op.body)

theorem eq_write (c : Client σ ρ ν) (op : Operation) (refuse : Failure → Action σ Unit)
    {f : Except DispatchError (Outcome (Reply op.request)) →
      Action σ (Except Error (Reply op.request))}
    (h : ∀ answer, f answer = c.conclude op refuse answer) :
    (Action.within op.span do sending; f (← c.request op.request op.body)) =
      c.write op refuse := by
  rw [funext h]
  rfl

theorem create_eq_write (c : Client σ ρ ν) (name : String) (price : Binary64) :
    c.create name price = c.write (.create name price)
      fun f => Action.log .warn "Item not created" [("code", f.code)] :=
  eq_write c (.create name price) _ fun answer => by rcases answer with e | f | reply <;> rfl

theorem rename_eq_write (c : Client σ ρ ν) (id : ItemId) (name : String) :
    c.rename id name = c.write (.rename id name) fun _ => pure () :=
  eq_write c (.rename id name) _ fun answer => by rcases answer with e | f | reply <;> rfl

theorem delete_eq_write (c : Client σ ρ ν) (id : ItemId) :
    c.delete id = c.write (.delete id) fun _ => pure () :=
  eq_write c (.delete id) _ fun answer => by rcases answer with e | f | reply <;> rfl

/-! ## How a write runs -/

variable {c : Client σ ρ ν} {op : Operation} {refuse : Failure → Action σ Unit}
  {w w' : World σ} {t : Trace}

theorem run_announce {n : Notification} {event : Body n} :
    (c.announce n event).run w = ⟨.value (), w', t⟩ ↔
      ∃ result t', (c.mediator.publish (.inl n) event c.signal).run w = ⟨.value result, w', t'⟩ ∧
        t = t' ++ unannounced result := by
  constructor
  · intro h
    obtain ⟨result, w₁, t₁, t₂, hpublish, hreport, rfl⟩ := Action.run_bind_eq_value.mp h
    cases result with
    | ok _ =>
        cases hreport
        exact ⟨_, t₁, hpublish, rfl⟩
    | error e =>
        cases hreport
        exact ⟨_, t₁, hpublish, rfl⟩
  · rintro ⟨result, t', hpublish, rfl⟩
    refine Action.run_bind_eq_value.mpr ⟨result, w', t', _, hpublish, ?_, rfl⟩
    cases result <;> rfl

theorem run_write_eq {exit : Exit (Except Error (Reply op.request))} :
    (c.write op refuse).run w = ⟨exit, w', t⟩ ↔
      ∃ t', (c.request op.request op.body >>= c.conclude op refuse).run w = ⟨exit, w', t'⟩ ∧
        t = shown op t' := by
  simp only [write, sending, Action.run_within_eq, Action.run_log_bind, Run.after_eq]
  constructor
  · rintro ⟨_, ⟨t', hrest, rfl⟩, rfl⟩
    exact ⟨t', hrest, rfl⟩
  · rintro ⟨t', hrest, rfl⟩
    exact ⟨_, ⟨t', hrest, rfl⟩, rfl⟩

theorem run_write (hrefuse : ∀ f w, (refuse f).run w = ⟨.value (), w, op.refusal f⟩)
    {result : Except Error (Reply op.request)} :
    (c.write op refuse).run w = ⟨.value result, w', t⟩ ↔ c.Written op w result w' t := by
  rw [run_write_eq]
  constructor
  · rintro ⟨_, hrun, rfl⟩
    obtain ⟨answer, w₁, t₁, t₂, hsend, hconclude, rfl⟩ := Action.run_bind_eq_value.mp hrun
    rcases answer with e | f | reply
    · cases hconclude
      rw [List.append_nil]
      exact .undispatched hsend
    · obtain ⟨_, w₂, t₃, _, hrefused, hanswer, rfl⟩ := Action.run_bind_eq_value.mp hconclude
      rw [hrefuse] at hrefused
      cases hrefused
      cases hanswer
      rw [List.append_nil]
      exact .refused hsend (becomes_iff.mpr rfl)
    · obtain ⟨_, w₂, _, _, hannounced, hanswer, rfl⟩ := Action.run_bind_eq_value.mp hconclude
      obtain ⟨result, t₃, hpublish, rfl⟩ := run_announce.mp hannounced
      cases hanswer
      rw [List.append_nil, ← List.append_assoc]
      exact .committed hsend hpublish
  · intro h
    cases h with
    | committed hsend hpublish =>
        refine ⟨_, ?_, rfl⟩
        rw [Action.run_bind_of_value (a := c.request op.request op.body) hsend]
        simp only [conclude]
        rw [Action.run_bind_of_value (run_announce.mpr ⟨_, _, hpublish, rfl⟩)]
        simp
    | refused hsend herror =>
        obtain rfl := becomes_iff.mp herror
        refine ⟨_, ?_, rfl⟩
        rw [Action.run_bind_of_value (a := c.request op.request op.body) hsend]
        simp only [conclude]
        rw [Action.run_bind_of_value (hrefuse _ _)]
        simp
    | undispatched hsend =>
        refine ⟨_, ?_, rfl⟩
        rw [Action.run_bind_of_value (a := c.request op.request op.body) hsend]
        simp [conclude]

end Client

/-- An error that carries a failure carries the very one that it was made of. -/
theorem Error.ofFailure_carries {f g : Failure}
    (h : ofFailure f = .invalid g ∨ ofFailure f = .failed g) : g = f := by
  rcases f with ⟨mark, ⟨kind, code, message, fields⟩⟩
  cases kind <;> rcases h with h | h <;> cases h <;> rfl

/-- The three writes over any mediator, with any listeners, and under any
signal, whoever cancels it and when. A write that does not panic answers what
its request was answered with; if that was a success, one notification is
published afterwards, and what comes of it is at most a warning; if not,
nothing is published. -/
theorem committed_write_succeeds {σ ρ ν : Type} [Requests ρ] [Messages ν] (c : Client σ ρ ν)
    (w w' : World σ) (t : Trace) :
    (∀ name price result, (c.create name price).run w = ⟨.value result, w', t⟩ ↔
        c.Written (.create name price) w result w' t) ∧
      (∀ id name result, (c.rename id name).run w = ⟨.value result, w', t⟩ ↔
        c.Written (.rename id name) w result w' t) ∧
      (∀ id result, (c.delete id).run w = ⟨.value result, w', t⟩ ↔
        c.Written (.delete id) w result w' t) ∧
      ∀ f g, Error.ofFailure f = .invalid g ∨ Error.ofFailure f = .failed g → g = f := by
  refine ⟨fun name price result => ?_, fun id name result => ?_, fun id result => ?_,
    fun f g => Error.ofFailure_carries⟩
  · rw [c.create_eq_write]
    exact Client.run_write fun _ _ => rfl
  · rw [c.rename_eq_write]
    exact Client.run_write fun _ _ => rfl
  · rw [c.delete_eq_write]
    exact Client.run_write fun _ _ => rfl

end Switchboard.Catalog
