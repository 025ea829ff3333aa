import Mathlib.Data.List.Induction
import Switchboard.Proofs.Builds

/-!
# What was registered

`Registry.build_answersBy`: whatever is registered, and in whatever order, the
registry answers by just that. A place is a role together with a message type,
the type itself and not its name, so types of one name do not share a place.

- `listed_ofList`: in each place there is what was registered there;
- `requests_ofList`, `notifications_ofList`: the names of the handled types,
  in the order in which the types were first registered;
- `send_eq_refused`: a call without just one handler to go to.
-/

namespace Switchboard

variable {σ κ ρ ν : Type}

/-! ## Lookups and calls -/

theorem resolveAll_eq_mapM {α : Type} (cs : List (Registration σ α)) :
    resolveAll cs = cs.mapM Registration.resolve := by
  induction cs with
  | nil => rfl
  | cons c cs ih => rw [resolveAll, List.mapM_cons, ih]

section

variable [Requests ρ] [Messages ν]

/-- What is wrong with a request type that has so many handlers. -/
def wiringError (k : ρ) : (count : Nat) → Option DispatchError
  | 0 => some (.missingHandler (Messages.name k))
  | 1 => none
  | count => some (.ambiguousHandler (Messages.name k) count)

/-- A call that reports the error once and ends with it. There is no component in it. -/
def refused (k : ρ) (e : DispatchError) : Action σ (Except DispatchError (Outcome (Reply k))) := do
  Action.log .error "Dispatch failed" [(Topic.request k).field, ("error", e.message)]
  return .error e

theorem Registry.resolveHandler_of_wiringError {r : Registry σ ρ ν} {k : ρ} {e : DispatchError}
    (h : wiringError k (r.handlers k).length = some e) : r.resolveHandler k = pure (.error e) := by
  unfold resolveHandler
  match hhandlers : r.handlers k with
  | [] =>
      rw [hhandlers] at h
      cases h
      rfl
  | [only] =>
      rw [hhandlers] at h
      cases h
  | first :: second :: more =>
      rw [hhandlers] at h
      cases h
      rfl

theorem Mediator.send_eq_refused {m : Mediator σ ρ ν} {k : ρ} {e : DispatchError}
    (h : m.lookup.handler k = pure (.error e)) (request : Body k) (signal : Signal) :
    m.send k request signal = refused k e := by
  rw [send, h]
  rfl

end

/-! ## Places -/

/-- Where a component is registered: in which role, and for which message type. -/
inductive Place (ρ ν : Type) where
  | handler (k : ρ)
  | interceptor (k : ρ)
  | listener (n : ν)
  | listenerInterceptor (n : ν)
deriving DecidableEq, Repr

section

variable [Requests ρ] [Messages ν]

/-- What is registered in a place. -/
def Place.Component (σ : Type) : Place ρ ν → Type
  | .handler k => RequestHandler σ k
  | .interceptor k => RequestInterceptor σ k
  | .listener n => Listener σ n
  | .listenerInterceptor n => ListenerInterceptor σ n

namespace Entry

def place : Entry σ ρ ν → Place ρ ν
  | .handler k _ => .handler k
  | .interceptor k _ => .interceptor k
  | .listener n _ => .listener n
  | .listenerInterceptor n _ => .listenerInterceptor n

def registration : (e : Entry σ ρ ν) → Registration σ (e.place.Component σ)
  | .handler _ c => c
  | .interceptor _ c => c
  | .listener _ c => c
  | .listenerInterceptor _ c => c

/-- What an entry registers in one place. -/
def at? [DecidableEq ρ] [DecidableEq ν] (p : Place ρ ν) (e : Entry σ ρ ν) :
    Option (Registration σ (p.Component σ)) :=
  if h : e.place = p then some (h ▸ e.registration) else none

end Entry

/-- What a registry has in one place. -/
def Registry.listed (r : Registry σ ρ ν) : (p : Place ρ ν) → List (Registration σ (p.Component σ))
  | .handler k => r.handlers k
  | .interceptor k => r.interceptors k
  | .listener n => r.listeners n
  | .listenerInterceptor n => r.listenerInterceptors n

variable [DecidableEq ρ] [DecidableEq ν]

/-- The registrations that are made in one place, in the order in which they are made. -/
def registered (entries : List (Entry σ ρ ν)) (p : Place ρ ν) :
    List (Registration σ (p.Component σ)) :=
  entries.filterMap (Entry.at? p)

/-- The number of the first entry for a place. -/
def firstAt (entries : List (Entry σ ρ ν)) (p : Place ρ ν) : Nat :=
  entries.findIdx (·.place = p)

variable {entries : List (Entry σ ρ ν)} {e : Entry σ ρ ν} {p : Place ρ ν}

theorem Entry.at?_place (e : Entry σ ρ ν) : e.at? e.place = some e.registration :=
  dif_pos rfl

theorem Entry.at?_of_ne (h : e.place ≠ p) : e.at? p = none :=
  dif_neg h

theorem registered_append_singleton :
    registered (entries ++ [e]) p = registered entries p ++ (e.at? p).toList := by
  rw [registered, List.filterMap_append, List.filterMap_cons]
  cases e.at? p <;> rfl

theorem registered_eq_nil : registered entries p = [] ↔ ∀ e ∈ entries, e.place ≠ p := by
  rw [registered, List.filterMap_eq_nil_iff]
  simp [Entry.at?]

/-! ## Tables -/

section

variable [DecidableEq κ] {β : κ → Type} {table : (k : κ) → List (β k)} {k i : κ} {b : β k}

theorem appendAt_self : appendAt table k b k = table k ++ [b] :=
  dif_pos rfl

theorem appendAt_of_ne (h : k ≠ i) : appendAt table k b i = table i :=
  dif_neg h

end

namespace Registry

theorem listed_add_place (r : Registry σ ρ ν) (e : Entry σ ρ ν) :
    (r.add e).listed e.place = r.listed e.place ++ [e.registration] := by
  cases e <;> exact appendAt_self

theorem listed_add_of_ne (r : Registry σ ρ ν) (h : e.place ≠ p) :
    (r.add e).listed p = r.listed p := by
  cases e with
  | handler k c =>
      cases p with
      | handler i => exact appendAt_of_ne fun hk => h (congrArg Place.handler hk)
      | interceptor | listener | listenerInterceptor => rfl
  | interceptor k c =>
      cases p with
      | interceptor i => exact appendAt_of_ne fun hk => h (congrArg Place.interceptor hk)
      | handler | listener | listenerInterceptor => rfl
  | listener n c =>
      cases p with
      | listener i => exact appendAt_of_ne fun hn => h (congrArg Place.listener hn)
      | handler | interceptor | listenerInterceptor => rfl
  | listenerInterceptor n c =>
      cases p with
      | listenerInterceptor i =>
          exact appendAt_of_ne fun hn => h (congrArg Place.listenerInterceptor hn)
      | handler | interceptor | listener => rfl

theorem ofList_append_singleton :
    ofList (entries ++ [e]) = (ofList entries).add e := by
  rw [ofList, List.foldl_append]
  rfl

/-- In each place there is what was registered there, in this order, and nothing else. -/
theorem listed_ofList (entries : List (Entry σ ρ ν)) (p : Place ρ ν) :
    (ofList entries).listed p = registered entries p := by
  induction entries using List.reverseRecOn with
  | nil => cases p <;> rfl
  | append_singleton entries e ih =>
      rw [registered_append_singleton, ofList_append_singleton]
      by_cases hplace : e.place = p
      · subst hplace
        rw [listed_add_place, ih, Entry.at?_place]
        rfl
      · rw [listed_add_of_ne _ hplace, ih, Entry.at?_of_ne hplace, Option.toList_none,
          List.append_nil]

end Registry

/-! ## Names -/

/-- The names are those of the types with a registration in their place, one for
each type, ordered by the first registration of the type. -/
def NamesByFirst [Messages κ] (entries : List (Entry σ ρ ν)) (place : κ → Place ρ ν)
    (names : List String) : Prop :=
  ∃ types : List κ, names = types.map Messages.name ∧
    (∀ k, k ∈ types ↔ registered entries (place k) ≠ []) ∧
    types.Pairwise fun a b => firstAt entries (place a) < firstAt entries (place b)

theorem firstAt_lt (h : registered entries p ≠ []) : firstAt entries p < entries.length := by
  rw [ne_eq, registered_eq_nil] at h
  push Not at h
  obtain ⟨e, hmem, hplace⟩ := h
  exact List.findIdx_lt_length_of_exists ⟨e, hmem, decide_eq_true hplace⟩

/-- Later entries do not change which one is the first. -/
theorem firstAt_append (h : registered entries p ≠ []) :
    firstAt (entries ++ [e]) p = firstAt entries p := by
  have hlt : entries.findIdx (·.place = p) < entries.length := firstAt_lt h
  rw [firstAt, List.findIdx_append, if_pos hlt, firstAt]

theorem firstAt_append_new (h : registered entries e.place = []) :
    firstAt (entries ++ [e]) e.place = entries.length := by
  have hnone : entries.findIdx (·.place = e.place) = entries.length :=
    List.findIdx_eq_length.mpr fun e' he' =>
      decide_eq_false (registered_eq_nil.mp h e' he')
  rw [firstAt, List.findIdx_append, hnone, if_neg (Nat.lt_irrefl _)]
  simp

namespace NamesByFirst

variable {place : κ → Place ρ ν}

/-- A further entry does not change the order of the types that had one. -/
theorem pairwise_append {types : List κ} (hmem : ∀ k ∈ types, registered entries (place k) ≠ [])
    (hfirst : types.Pairwise fun a b => firstAt entries (place a) < firstAt entries (place b)) :
    types.Pairwise fun a b =>
      firstAt (entries ++ [e]) (place a) < firstAt (entries ++ [e]) (place b) := by
  refine hfirst.imp_of_mem fun {a b} ha hb hab => ?_
  rwa [firstAt_append (hmem a ha), firstAt_append (hmem b hb)]

variable [Messages κ] {names : List String}

/-- An entry in another role, or for a type that had one before, adds no name. -/
theorem append_old (h : NamesByFirst entries place names)
    (hold : ∀ k, e.place = place k → registered entries (place k) ≠ []) :
    NamesByFirst (entries ++ [e]) place names := by
  obtain ⟨types, rfl, hmem, hfirst⟩ := h
  refine ⟨types, rfl, fun k => (hmem k).trans ?_, pairwise_append (fun k => (hmem k).mp) hfirst⟩
  rw [registered_append_singleton]
  by_cases hplace : e.place = place k
  · simp [hold k hplace]
  · simp [Entry.at?_of_ne hplace]

/-- The first entry for a type adds its name, even if another type is called so. -/
theorem append_new (h : NamesByFirst entries place names) (hinj : Function.Injective place)
    {k : κ} (hplace : e.place = place k) (hnew : registered entries e.place = []) :
    NamesByFirst (entries ++ [e]) place (names ++ [Messages.name k]) := by
  obtain ⟨types, rfl, hmem, hfirst⟩ := h
  refine ⟨types ++ [k], by simp, fun i => ?_, ?_⟩
  · rw [List.mem_append, List.mem_singleton, hmem, registered_append_singleton]
    by_cases hi : i = k
    · subst hi
      rw [← hplace, Entry.at?_place]
      simp
    · have hne : e.place ≠ place i := fun he => hi (hinj (he.symm.trans hplace))
      simp [Entry.at?_of_ne hne, hi]
  · refine List.pairwise_append.mpr
      ⟨pairwise_append (fun i => (hmem i).mp) hfirst, List.pairwise_singleton _ _, ?_⟩
    intro i hi j hj
    obtain rfl := List.mem_singleton.mp hj
    have hi := (hmem i).mp hi
    rw [firstAt_append hi, ← hplace, firstAt_append_new hnew]
    exact firstAt_lt hi

theorem append (h : NamesByFirst entries place names) (hinj : Function.Injective place) {k : κ}
    (hplace : e.place = place k) :
    NamesByFirst (entries ++ [e]) place
      (if (registered entries (place k)).isEmpty then names ++ [Messages.name k] else names) := by
  split
  · rename_i hempty
    exact h.append_new hinj hplace (hplace ▸ List.isEmpty_iff.mp hempty)
  · rename_i hfull
    refine h.append_old fun i hi => ?_
    rw [← hi, hplace]
    exact fun hnil => hfull (List.isEmpty_iff.mpr hnil)

end NamesByFirst

namespace Registry

theorem requests_ofList (entries : List (Entry σ ρ ν)) :
    NamesByFirst entries Place.handler (ofList entries).requests := by
  induction entries using List.reverseRecOn with
  | nil => exact ⟨[], rfl, by simp [registered], .nil⟩
  | append_singleton entries e ih =>
      rw [ofList_append_singleton]
      cases e with
      | handler k c =>
          have hnames := ih.append (e := .handler k c) (fun _ _ => Place.handler.inj) rfl
          rwa [← listed_ofList] at hnames
      | interceptor | listener | listenerInterceptor => exact ih.append_old nofun

theorem notifications_ofList (entries : List (Entry σ ρ ν)) :
    NamesByFirst entries Place.listener (ofList entries).notifications := by
  induction entries using List.reverseRecOn with
  | nil => exact ⟨[], rfl, by simp [registered], .nil⟩
  | append_singleton entries e ih =>
      rw [ofList_append_singleton]
      cases e with
      | listener n c =>
          have hnames := ih.append (e := .listener n c) (fun _ _ => Place.listener.inj) rfl
          rwa [← listed_ofList] at hnames
      | handler | interceptor | listenerInterceptor => exact ih.append_old nofun

end Registry

/-! ## What a registry answers -/

namespace Registry

/-- The registry answers by the registrations `entries`. -/
structure AnswersBy (r : Registry σ ρ ν) (entries : List (Entry σ ρ ν)) : Prop where
  /-- In each place there is what was registered there, in this order. -/
  listed : ∀ p, r.listed p = registered entries p
  interceptors : ∀ k, r.lookup.interceptors k =
    (registered entries (.interceptor k)).mapM Registration.resolve
  listeners : ∀ n, r.lookup.listeners n =
    (registered entries (.listener n)).mapM Registration.resolve
  listenerInterceptors : ∀ n, r.lookup.listenerInterceptors n =
    (registered entries (.listenerInterceptor n)).mapM Registration.resolve
  /-- The only handler of a type is found. -/
  handler : ∀ k only, registered entries (.handler k) = [only] →
    r.lookup.handler k = Except.ok <$> only.resolve
  /-- Without a handler, or with several, there is an error instead. A call is then
  `refused`, whatever the components are, and the same if factories note that they
  are called: none is. -/
  unresolved : ∀ k e, wiringError k (registered entries (.handler k)).length = some e →
    r.lookup.handler k = pure (.error e) ∧
    ∀ config request signal,
      (r.mediator config).send k request signal = refused k e ∧
      (r.metered.mediator config).send k request signal = refused k e
  requests : NamesByFirst entries Place.handler r.requests
  notifications : NamesByFirst entries Place.listener r.notifications

/-- The registry that is built answers by the registrations that were made: by all
of them, and in each place by those for this place only. -/
theorem build_answersBy (entries : List (Entry σ ρ ν)) (w : World σ) :
    ∃ r t, (build entries).run w = ⟨.value r, w, t⟩ ∧ r.AnswersBy entries := by
  have hlisted := listed_ofList entries
  refine ⟨ofList entries, _, rfl, {
    listed := hlisted
    interceptors k := ?_
    listeners n := ?_
    listenerInterceptors n := ?_
    handler k only honly := ?_
    unresolved k e he := ?_
    requests := requests_ofList entries
    notifications := notifications_ofList entries }⟩
  · rw [← hlisted]
    exact resolveAll_eq_mapM _
  · rw [← hlisted]
    exact resolveAll_eq_mapM _
  · rw [← hlisted]
    exact resolveAll_eq_mapM _
  · have hhandlers : (ofList entries).handlers k = [only] := (hlisted (.handler k)).trans honly
    show (ofList entries).resolveHandler k = _
    rw [resolveHandler, hhandlers, map_eq_pure_bind]
    rfl
  · rw [← hlisted] at he
    have hmetered : wiringError k ((ofList entries).metered.handlers k).length = some e := by
      rw [← he]
      exact congrArg _ List.length_mapIdx
    exact ⟨resolveHandler_of_wiringError he, fun config request signal =>
      ⟨Mediator.send_eq_refused (resolveHandler_of_wiringError he) request signal,
        Mediator.send_eq_refused (resolveHandler_of_wiringError hmetered) request signal⟩⟩

end Registry

end

end Switchboard

