import Switchboard.Proofs.Passage

/-!
# Metering

How often a factory is called is not seen in the result of a call. A metered
registry shows it: its components work on a state with a log beside it, of which
only the factories know. Each of them notes in the log the slot that it is
registered in, and then builds what it always builds.

- `Action.lift` carries an action over to the larger state, and `lift_chain` says
  that the chain of lifted components is the lifted chain;
- `run_resolveAll_metered`: what resolving notes, and that it changes nothing else.
-/

namespace Switchboard

variable {σ τ κ ρ ν α β M R : Type}

/-! ## Beside a second state -/

def World.beside (w : World σ) (s : τ) : World (σ × τ) :=
  ⟨(w.state, s), w.sources, w.nextMark⟩

def Run.beside (r : Run σ α) (s : τ) : Run (σ × τ) α :=
  ⟨r.exit, r.world.beside s, r.trace⟩

theorem Run.after_beside (t : Trace) (r : Run σ α) (s : τ) :
    (r.after t).beside s = (r.beside s).after t := rfl

namespace Action

/-- The same action beside a second state, which it neither reads nor changes. -/
def lift : Action σ α → Action (σ × τ) α
  | done a => done a
  | panic p => panic p
  | report r rest => report r rest.lift
  | get rest => get fun s => (rest s.1).lift
  | put s rest => get fun s' => put (s, s'.2) rest.lift
  | make c rest => make c fun x => (rest x).lift
  | observe sig rest => observe sig fun b => (rest b).lift
  | cancel id rest => cancel id rest.lift
  | drop id rest => drop id rest.lift
  | suspend rest => suspend rest.lift

theorem run_lift (a : Action σ α) (w : World σ) (s : τ) :
    a.lift.run (w.beside s) = (a.run w).beside s := by
  induction a generalizing w with
  | done a => rfl
  | panic p => rfl
  | report r rest ih =>
      simp only [lift, run, ih]
      rfl
  | get rest ih => exact ih w.state w
  | put state rest ih => exact ih { w with state }
  | make c rest ih => exact ih ⟨w.nextMark, c⟩ { w with nextMark := w.nextMark + 1 }
  | observe sig rest ih => exact ih (w.sources.isCancelled sig) w
  | cancel id rest ih => exact ih { w with sources := w.sources.cancel id }
  | drop id rest ih => exact ih { w with sources := w.sources.drop id }
  | suspend rest ih => exact ih w

theorem run_map_beside {a : Action σ α} {a' : Action (σ × τ) α} {w : World σ} {s s' : τ}
    (h : a'.run (w.beside s) = (a.run w).beside s') (f : α → β) :
    (f <$> a').run (w.beside s) = ((f <$> a).run w).beside s' := by
  rw [run_map, run_map, h]
  rfl

theorem lift_bind (a : Action σ α) (f : α → Action σ β) :
    (a >>= f).lift = (a.lift : Action (σ × τ) α) >>= fun x => (f x).lift := by
  induction a with
  | done _ => rfl
  | panic _ => rfl
  | report r _ ih => exact congrArg (report r) ih
  | get _ ih => exact congrArg get (funext fun s => ih s.1)
  | put s _ ih => exact congrArg get (funext fun s' => congrArg (put (s, s'.2)) ih)
  | make c _ ih => exact congrArg (make c) (funext ih)
  | observe sig _ ih => exact congrArg (observe sig) (funext ih)
  | cancel id _ ih => exact congrArg (cancel id) ih
  | drop id _ ih => exact congrArg (drop id) ih
  | suspend _ ih => exact congrArg suspend ih

theorem lift_attempt (a : Action σ α) :
    a.attempt.lift = (a.lift : Action (σ × τ) α).attempt := by
  induction a with
  | done _ => rfl
  | panic _ => rfl
  | report r _ ih => exact congrArg (report r) ih
  | get _ ih => exact congrArg get (funext fun s => ih s.1)
  | put s _ ih => exact congrArg get (funext fun s' => congrArg (put (s, s'.2)) ih)
  | make c _ ih => exact congrArg (make c) (funext ih)
  | observe sig _ ih => exact congrArg (observe sig) (funext ih)
  | cancel id _ ih => exact congrArg (cancel id) ih
  | drop id _ ih => exact congrArg (drop id) ih
  | suspend _ ih => exact congrArg suspend ih

end Action

/-! ## Components beside a second state -/

def Handler.lift (handler : Handler σ M R) : Handler (σ × τ) M R :=
  fun message signal => (handler message signal).lift

def Verdict.lift : Verdict σ M R → Verdict (σ × τ) M R
  | .answer o => .answer o
  | .proceed message signal finish => .proceed message signal fun ended => (finish ended).lift

def Interceptor.lift (link : Interceptor σ M R) : Interceptor (σ × τ) M R where
  name := link.name
  enter message signal handlerNext := do
    let verdict ← (link.enter message signal handlerNext).lift
    return verdict.lift

theorem lift_boundary (topic : Topic) (signal : Signal) (link : Action σ (Outcome R)) :
    (boundary topic signal link).lift = boundary topic signal (link.lift : Action (σ × τ) _) :=
  congrArg (Action.observe signal) (funext fun cancelled => by cases cancelled <;> rfl)

theorem lift_chain (topic : Topic) (handler : Handler σ M R) (links : List (Interceptor σ M R))
    (message : M) (signal : Signal) :
    (chain topic handler links message signal).lift =
      chain topic (Handler.lift handler : Handler (σ × τ) M R) (links.map Interceptor.lift)
        message signal := by
  induction links generalizing message signal with
  | nil => exact lift_boundary topic signal _
  | cons link rest ih =>
      -- both sides enter the link first, and then go by its verdict
      rw [chain, lift_boundary, Action.lift_bind, List.map_cons, chain, List.isEmpty_map]
      simp only [Interceptor.lift, bind_assoc, pure_bind]
      congr 2
      funext verdict
      cases verdict with
      | answer o => rfl
      | proceed message signal finish =>
          simp only [Verdict.lift, Action.lift_bind, Action.lift_attempt, ih]

theorem run_chain_lift (topic : Topic) (handler : Handler σ M R) (links : List (Interceptor σ M R))
    (message : M) (signal : Signal) (w : World σ) (s : τ) :
    (chain topic (Handler.lift handler) (links.map Interceptor.lift) message signal).run
        (w.beside s) =
      ((chain topic handler links message signal).run w).beside s := by
  rw [← lift_chain, Action.run_lift]

/-! ## Registrations that note what they build -/

namespace Registration

/-- The registration with its component carried over to the larger state. A factory
notes `slot` whenever it is called. -/
def metered (slot : κ) (lift : α → β) : Registration σ α → Registration (σ × List κ) β
  | .singleton component => .singleton (lift component)
  | .factory build => .factory do
    Action.modifyState fun (s, log) => (s, log ++ [slot])
    return lift (← build.lift)

/-- What a resolution notes. -/
def noted (slot : κ) : Registration σ α → List κ
  | .singleton _ => []
  | .factory _ => [slot]

/-- A factory that never panics, or a singleton. -/
def Calm (c : Registration σ α) : Prop :=
  ∀ w, ∃ x w' t, c.resolve.run w = ⟨.value x, w', t⟩

theorem run_resolve_metered {c : Registration σ α} {w w' : World σ} {x : α} {t : Trace}
    (h : c.resolve.run w = ⟨.value x, w', t⟩) (slot : κ) (lift : α → β) (log : List κ) :
    (c.metered slot lift).resolve.run (w.beside log) =
      ⟨.value (lift x), w'.beside (log ++ c.noted slot), t⟩ := by
  cases c with
  | singleton component =>
      cases h
      rw [noted, List.append_nil]
      rfl
  | factory build =>
      have hbuild : build.lift.run (w.beside (log ++ [slot])) =
          ⟨.value x, w'.beside (log ++ [slot]), t⟩ := by
        rw [Action.run_lift, show build.run w = _ from h]
        rfl
      have hnoted : (Action.modifyState fun (s, log) => (s, log ++ [slot])).run (w.beside log) =
          ⟨.value (), w.beside (log ++ [slot]), []⟩ := rfl
      rw [metered, resolve, Action.run_bind_of_value hnoted, Action.run_bind_of_value hbuild,
        Action.run_pure]
      simp [noted]

end Registration

/-- What resolving the registrations of a list notes, one after the other. -/
def notedAll (slot : Nat → κ) (cs : List (Registration σ α)) : List κ :=
  (cs.mapIdx fun i c => c.noted (slot i)).flatten

@[simp] theorem notedAll_nil (slot : Nat → κ) :
    notedAll slot ([] : List (Registration σ α)) = [] := rfl

theorem notedAll_cons (slot : Nat → κ) (c : Registration σ α) (cs : List (Registration σ α)) :
    notedAll slot (c :: cs) = c.noted (slot 0) ++ notedAll (fun i => slot (i + 1)) cs := by
  rw [notedAll, List.mapIdx_cons, List.flatten_cons, notedAll]

/-- Resolving calm registrations yields the same components, metered or not, and
notes each factory once. -/
theorem run_resolveAll_metered {cs : List (Registration σ α)} (hcalm : ∀ c ∈ cs, c.Calm)
    (slot : Nat → κ) (lift : α → β) (w : World σ) :
    ∃ xs w' t, (resolveAll cs).run w = ⟨.value xs, w', t⟩ ∧
      ∀ log, (resolveAll (cs.mapIdx fun i c => c.metered (slot i) lift)).run (w.beside log) =
        ⟨.value (xs.map lift), w'.beside (log ++ notedAll slot cs), t⟩ := by
  induction cs generalizing slot w with
  | nil =>
      refine ⟨[], w, [], rfl, fun log => ?_⟩
      rw [notedAll_nil, List.append_nil]
      rfl
  | cons c cs ih =>
      obtain ⟨x, w₁, t₁, hx⟩ := hcalm c List.mem_cons_self w
      obtain ⟨xs, w', t₂, hxs, hmetered⟩ :=
        ih (fun c hc => hcalm c (List.mem_cons_of_mem _ hc)) (fun i => slot (i + 1)) w₁
      refine ⟨x :: xs, w', t₁ ++ t₂, ?_, fun log => ?_⟩
      · rw [resolveAll, Action.run_bind_of_value hx, Action.run_bind_of_value hxs]
        simp
      · rw [List.mapIdx_cons, resolveAll,
          Action.run_bind_of_value (Registration.run_resolve_metered hx _ lift log),
          Action.run_bind_of_value (hmetered _), notedAll_cons]
        simp

/-! ## Metered registries -/

/-- Where a component is registered: the list, and the number in it. -/
inductive Slot (ρ ν : Type) where
  | handler (k : ρ) (i : Nat)
  | interceptor (k : ρ) (i : Nat)
  | listener (n : ν) (i : Nat)
  | listenerInterceptor (n : ν) (i : Nat)
deriving DecidableEq, Repr

/-- The message type that a slot is for. -/
def Slot.type : Slot ρ ν → ρ ⊕ ν
  | .handler k _ => .inl k
  | .interceptor k _ => .inl k
  | .listener n _ => .inr n
  | .listenerInterceptor n _ => .inr n

namespace Registry

variable [Requests ρ] [Messages ν]

/-- The registry whose factories note their slots when they are called. -/
def metered (r : Registry σ ρ ν) : Registry (σ × List (Slot ρ ν)) ρ ν where
  handlers k := (r.handlers k).mapIdx fun i c => c.metered (.handler k i) Handler.lift
  interceptors k := (r.interceptors k).mapIdx fun i c => c.metered (.interceptor k i) .lift
  listeners n := (r.listeners n).mapIdx fun i c => c.metered (.listener n i) Handler.lift
  listenerInterceptors n :=
    (r.listenerInterceptors n).mapIdx fun i c => c.metered (.listenerInterceptor n i) .lift
  requests := r.requests
  notifications := r.notifications

/-- No factory panics. -/
structure Calm (r : Registry σ ρ ν) : Prop where
  handlers : ∀ k, ∀ c ∈ r.handlers k, c.Calm
  interceptors : ∀ k, ∀ c ∈ r.interceptors k, c.Calm
  listeners : ∀ n, ∀ c ∈ r.listeners n, c.Calm
  listenerInterceptors : ∀ n, ∀ c ∈ r.listenerInterceptors n, c.Calm

end Registry

section

variable [Requests ρ] [Messages ν]

def Entry.Calm : Entry σ ρ ν → Prop
  | .handler _ c => c.Calm
  | .interceptor _ c => c.Calm
  | .listener _ c => c.Calm
  | .listenerInterceptor _ c => c.Calm

/-- What holds of a table and of an element holds of the table with that element. -/
theorem forall_mem_appendAt {ι : Type} [DecidableEq ι] {β : ι → Type}
    {table : (i : ι) → List (β i)} {p : (i : ι) → β i → Prop}
    (htable : ∀ i, ∀ b ∈ table i, p i b) {j : ι} {b : β j} (hb : p j b) :
    ∀ i, ∀ b' ∈ appendAt table j b i, p i b' := by
  intro i b' hmem
  unfold appendAt at hmem
  by_cases hij : j = i
  · subst hij
    rw [dif_pos rfl] at hmem
    rcases List.mem_append.mp hmem with hold | hnew
    · exact htable j b' hold
    · rw [List.mem_singleton.mp hnew]
      exact hb
  · rw [dif_neg hij] at hmem
    exact htable i b' hmem

variable [DecidableEq ρ] [DecidableEq ν]

theorem Registry.Calm.add {r : Registry σ ρ ν} (hr : r.Calm) {e : Entry σ ρ ν} (he : e.Calm) :
    (r.add e).Calm := by
  cases e with
  | handler k c => exact { hr with handlers := forall_mem_appendAt hr.handlers he }
  | interceptor k c => exact { hr with interceptors := forall_mem_appendAt hr.interceptors he }
  | listener n c => exact { hr with listeners := forall_mem_appendAt hr.listeners he }
  | listenerInterceptor n c =>
      exact { hr with
        listenerInterceptors := forall_mem_appendAt hr.listenerInterceptors he }

/-- Registrations without a factory that panics make a registry without one. -/
theorem Registry.calm_ofList {entries : List (Entry σ ρ ν)} (h : ∀ e ∈ entries, e.Calm) :
    (ofList entries).Calm := by
  have hfold (r : Registry σ ρ ν) (hr : r.Calm) : (entries.foldl Registry.add r).Calm := by
    induction entries generalizing r with
    | nil => exact hr
    | cons e rest ih =>
        exact ih (fun e' he' => h e' (List.mem_cons_of_mem e he')) _
          (hr.add (h e List.mem_cons_self))
  exact hfold empty ⟨nofun, nofun, nofun, nofun⟩

end

end Switchboard
