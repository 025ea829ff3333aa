import Switchboard.Proofs.Catalog.Decision
import Switchboard.Proofs.Catalog.Disturbance
import Switchboard.Proofs.Text

/-!
# Only valid items are stored

The store checks nothing of what it is given; that every item in it is valid is
up to the validators and the handlers together, on both ways in. Validators look at
the trimmed name and handlers store one trimmed anew, so trimming has to be
idempotent (`Text.trim_trim`).

`Call.Stored.origin` is what one call can do: an item that it leaves was there
before, under the same price, or is the one that the call creates. `Stocked` is
what a run of calls keeps. The calls are `Visit`s, during which others may cancel
signals at any point, and the invariant is claimed of every state, those in the
middle of a call included.
-/

namespace Switchboard

namespace Catalog

/-! ## Valid items -/

/-- A name that may be stored: with something in it, no blanks around it, and not too long. -/
structure ValidName (limit : Nat) (name : String) : Prop where
  not_empty : name ≠ ""
  trimmed : Text.trim name = name
  short : Text.count name ≤ limit

/-- A price that may be stored: finite and above zero. -/
structure ValidPrice (price : Binary64) : Prop where
  finite : price.isFinite = true
  not_nan : price.isNaN = false
  not_infinite : ∀ negative, price ≠ .infinity negative
  not_zero : price.isZero = false
  not_negative : price.isNegative = false

structure Item.Valid (limit : Nat) (item : Item) : Prop where
  name : ValidName limit item.name
  price : ValidPrice item.price

variable {limit : Nat} {name : String} {price : Binary64}

/-- A name that may be stored neither begins nor ends with a blank. -/
theorem ValidName.bare (h : ValidName limit name) : Text.Bare name.toList :=
  Text.trim_eq_self_iff.mp h.trimmed

/-- A name that is not rejected may be stored as it is trimmed. -/
theorem validName_trim (h : badName limit name = []) : ValidName limit (Text.trim name) := by
  have hgood : ¬ (Text.trim name = "" ∨ limit < Text.count (Text.trim name)) := fun hbad => by
    rw [badName, if_pos hbad] at h
    cases h
  obtain ⟨hempty, hlong⟩ := not_or.mp hgood
  exact ⟨hempty, Text.trim_trim name, Nat.le_of_not_lt hlong⟩

theorem validPrice_of_badPrice (h : badPrice price = []) : ValidPrice price := by
  have hgood : price.isFinite ∧ price.isPositive := by
    rw [badPrice_eq] at h
    by_contra hbad
    rw [if_neg hbad] at h
    cases h
  obtain ⟨hfinite, hpositive⟩ := hgood
  simp only [Binary64.isPositive, Bool.and_eq_true, Bool.not_eq_true'] at hpositive
  obtain ⟨⟨hnan, hzero⟩, hnegative⟩ := hpositive
  refine ⟨hfinite, hnan, fun negative hinfinite => ?_, hzero, hnegative⟩
  have : price.isFinite = false := by
    rw [Binary64.isFinite_eq_false_iff]
    cases negative with
    | false => exact .inr (.inl hinfinite)
    | true => exact .inr (.inr hinfinite)
  exact Bool.noConfusion (hfinite.symm.trans this)

theorem valid_of_validateCreate (h : validateCreate limit ⟨name, price⟩ = []) (id : ItemId) :
    Item.Valid limit ⟨id, Text.trim name, price⟩ := by
  have hfields := validateCreate_fields limit name price
  rw [h] at hfields
  obtain ⟨hname, hprice⟩ := List.append_eq_nil_iff.mp hfields.symm
  exact ⟨validName_trim hname, validPrice_of_badPrice hprice⟩

theorem validName_of_validateRename {id : ItemId} (h : validateRename limit ⟨id, name⟩ = []) :
    ValidName limit (Text.trim name) := by
  have hfields := validateRename_fields limit id name
  rw [h] at hfields
  exact validName_trim hfields.symm

/-! ## What one call keeps -/

namespace Call.Stored

variable {s s' : Store} {call : Call} {reply : Call.Reply}

theorem sound (hs : s.Sound) (h : call.Stored limit s reply s') : s'.Sound := by
  cases h with
  | created _ h => exact hs.insert h
  | renamed _ h => exact hs.rename h
  | deleted h => exact hs.remove h
  | read _ => exact hs

/-- An item that a call leaves was there before, with the same price and a name that was
valid if the old one was, or it is valid, under the next id, and created by the call. -/
theorem origin (hs : s.Sound) (h : call.Stored limit s reply s') {item : Item}
    (hmem : item ∈ s'.toList) :
    (∃ old ∈ s.toList, old.id = item.id ∧ old.price = item.price ∧
        (old.Valid limit → item.Valid limit)) ∨
      ∃ name, call = .create name item.price ∧ reply = .id item.id ∧
        item.id = ⟨s.lastId + 1⟩ ∧ item.Valid limit := by
  have hkept (hget : s.get? item.id = some item) : ∃ old ∈ s.toList, old.id = item.id ∧
      old.price = item.price ∧ (old.Valid limit → item.Valid limit) :=
    ⟨item, hs.mem_toList.mpr hget, rfl, rfl, id⟩
  have hfound := (h.sound hs).mem_toList.mp hmem
  cases h with
  | @created name _ _ _ hvalid h =>
      rw [Store.get?_insert h] at hfound
      split at hfound
      · cases hfound
        obtain ⟨-, rfl, -⟩ := Store.insert_eq_ok h
        exact .inr ⟨name, rfl, rfl, rfl, valid_of_validateCreate hvalid _⟩
      · exact .inl (hkept hfound)
  | renamed hvalid h =>
      rw [Store.get?_rename h] at hfound
      split at hfound
      · cases hfound
        obtain ⟨old, hold, -, rfl, -⟩ := Store.rename_eq_ok h
        obtain rfl := hs.id_eq hold
        refine .inl ⟨old, hs.mem_toList.mpr hold, rfl, rfl, fun hvalidOld => ?_⟩
        exact ⟨validName_of_validateRename hvalid, hvalidOld.price⟩
      · exact .inl (hkept hfound)
  | deleted h =>
      rw [Store.get?_remove h] at hfound
      split at hfound
      · cases hfound
      · exact .inl (hkept hfound)
  | read _ => exact .inl (hkept hfound)

end Call.Stored

/-- One of the writes created the item, and was called with its price. -/
def Item.CreatedIn (ws : List Write) (item : Item) : Prop :=
  ∃ name, Write.created item.id name item.price ∈ ws

/-- The invariant of a run of calls: the state that it left, and the writes of it that
succeeded. -/
structure Stocked (limit : Nat) (s : State) (ws : List Write) : Prop where
  sound : s.store.Sound
  numbered : Numbered s ws
  valid : ∀ item ∈ s.store.toList, item.Valid limit
  created : ∀ item ∈ s.store.toList, item.CreatedIn ws

namespace Stocked

variable {s s' : State} {ws : List Write}

theorem start : Stocked limit {} [] := ⟨Store.sound_empty, rfl, nofun, nofun⟩

theorem of_store_eq (h : Stocked limit s ws) (hstore : s'.store = s.store) :
    Stocked limit s' ws where
  sound := hstore ▸ h.sound
  numbered := by
    rw [Numbered, hstore]
    exact h.numbered
  valid := hstore ▸ h.valid
  created := hstore ▸ h.created

/-- An item that a call leaves was created by one of the writes before, or is the next one
and created by the call. -/
theorem accounts (h : Stocked limit s ws) {call : Call} {reply : Call.Reply} {store : Store}
    (hstored : call.Stored limit s.store reply store) {item : Item} (hmem : item ∈ store.toList) :
    item.Valid limit ∧ (item.CreatedIn ws ∨ item.id = ⟨(issued ws).length + 1⟩ ∧
      ∃ name, call = .create name item.price ∧ reply = .id item.id) := by
  rcases hstored.origin h.sound hmem with ⟨old, hold, hid, hprice, hvalid⟩ |
    ⟨name, hcall, hreply, hid, hvalid⟩
  · obtain ⟨name, hcreated⟩ := h.created old hold
    rw [hid, hprice] at hcreated
    exact ⟨hvalid (h.valid old hold), .inl ⟨name, hcreated⟩⟩
  · rw [h.numbered.lastId_eq] at hid
    exact ⟨hvalid, .inr ⟨hid, name, hcall, hreply⟩⟩

theorem stored (h : Stocked limit s ws) {turn : Turn} {reply : Call.Reply}
    (hstored : turn.call.Stored limit s.store reply s'.store) :
    Stocked limit s' (ws ++ (write? (turn, .value (.ok reply))).toList) where
  sound := hstored.sound h.sound
  numbered := by
    obtain ⟨sources, signal, call⟩ := turn
    generalize hstore : s'.store = store at hstored
    cases hstored with
    | created _ hinsert => exact h.numbered.created (hstore ▸ hinsert) _
    | renamed _ hrename =>
        obtain ⟨-, -, -, -, rfl⟩ := Store.rename_eq_ok hrename
        exact h.numbered.other (by rw [hstore]) rfl
    | deleted hremove =>
        obtain ⟨-, rfl⟩ := Store.remove_eq_ok hremove
        exact h.numbered.other (by rw [hstore]) rfl
    | read hreads =>
        rw [write?_read hreads, Option.toList_none, List.append_nil]
        exact (h.of_store_eq hstore).numbered
  valid item hmem := (h.accounts hstored hmem).1
  created item hmem := by
    rcases (h.accounts hstored hmem).2 with ⟨name, hcreated⟩ | ⟨-, name, hcall, rfl⟩
    · exact ⟨name, List.mem_append_left _ hcreated⟩
    · obtain ⟨sources, signal, call⟩ := turn
      obtain rfl : call = _ := hcall
      exact ⟨name, List.mem_append_right _ List.mem_cons_self⟩

end Stocked

/-! ## Runs of calls under interference -/

/-- A call of a client during which others may cancel signals: what is carried out is the
call with their steps woven in. -/
structure Visit (config : Config) where
  turn : Turn
  deed : Action State (Except Error Call.Reply)
  disturbed :
    (turn.call.run (client config turn.signal : Client State Empty Empty)).Disturbed deed

/-- A visit during which nobody else does anything. -/
def Visit.alone (config : Config) (turn : Turn) : Visit config where
  turn := turn
  deed := turn.call.run (client config turn.signal : Client State Empty Empty)
  disturbed := .refl _

namespace Visit

variable {config : Config} (visit : Visit config) (w : World State)

/-- The world that a visit finds: the sources may have changed since the one before. -/
def found : World State :=
  { w with sources := visit.turn.sources }

def perform : Exit (Except Error Call.Reply) × World State :=
  visit.deed.eval (visit.found w)

theorem ensures : visit.deed.Ensures
    (visit.turn.call.Between config.maxNameLength.toNat w.state)
    (visit.turn.call.Ended config.maxNameLength.toNat w.state) (visit.found w).state :=
  (ensures_call config visit.turn.signal visit.turn.call w.state).disturbed visit.disturbed

/-- A visit fails and leaves the store alone, or it does what its call can do. -/
theorem perform_ended : visit.turn.call.Ended config.maxNameLength.toNat w.state
    (visit.perform w).1 (visit.perform w).2.state :=
  (visit.ensures w).run

/-- On the way it does as well. -/
theorem worlds_between : ∀ v ∈ visit.deed.worlds (visit.found w),
    visit.turn.call.Between config.maxNameLength.toNat w.state v.state :=
  (visit.ensures w).worlds

end Visit

section

variable {config : Config}

/-- The transcript of any number of visits, from the empty catalog on. -/
def visited (visits : List (Visit config)) :
    Transcript State (Visit config) (Except Error Call.Reply) :=
  .of Visit.perform { state := {} } visits

/-- A transcript of visits with nothing kept of the others. -/
def turnsOf (t : Transcript State (Visit config) (Except Error Call.Reply)) :
    Transcript State Turn (Except Error Call.Reply) where
  world := t.world
  entries := t.entries.map fun (visit, exit) => (visit.turn, exit)

variable (t : Transcript State (Visit config) (Except Error Call.Reply)) (visit : Visit config)

theorem turnsOf_extend : turnsOf (t.extend Visit.perform visit) =
    { world := (visit.perform t.world).2,
      entries := (turnsOf t).entries ++ [(visit.turn, (visit.perform t.world).1)] } := by
  simp [turnsOf, Transcript.extend]

/-- Without others, visits are the turns of a session. -/
theorem turnsOf_visited_alone (turns : List Turn) :
    turnsOf (visited (turns.map (.alone config))) = session config turns := by
  have hextend (t : Transcript State (Visit config) (Except Error Call.Reply)) (turn : Turn) :
      (turnsOf t).extend (Turn.perform config) turn =
        turnsOf (t.extend Visit.perform (.alone config turn)) :=
    (turnsOf_extend t (.alone config turn)).symm
  rw [visited, Transcript.of, List.foldl_map, ← List.foldl_hom turnsOf hextend]
  rfl

theorem stocked_visited (visits : List (Visit config)) :
    Stocked config.maxNameLength.toNat (visited visits).world.state
      (writes (turnsOf (visited visits)).entries) := by
  refine Transcript.invariant
    (P := fun t => Stocked _ t.world.state (writes (turnsOf t).entries)) _
    .start (fun t visit ht => ?_) visits
  rw [turnsOf_extend, writes_append]
  show Stocked _ (visit.perform t.world).2.state _
  rcases visit.perform_ended t.world with ⟨e, hexit, hstore⟩ | ⟨reply, hexit, hstored⟩
  · rw [hexit, write?_error, Option.toList_none, List.append_nil]
    exact ht.of_store_eq hstore
  · rw [hexit]
    exact ht.stored hstored

/-- Nothing invalid is ever stored. After any number of calls every stored item is valid
and has, bit for bit, the price that the one creation of its id was called with; and so
it is at every point of a further call, except that there the item may be the one
that this call creates. -/
theorem only_valid_items_stored (config : Config) (visits : List (Visit config)) :
    let limit := config.maxNameLength.toNat
    let t := turnsOf (visited visits)
    let ws := writes t.entries
    (issued ws).Nodup ∧
      (∀ item ∈ t.world.state.store.toList, item.Valid limit ∧ item.CreatedIn ws) ∧
      ∀ next : Visit config, ∀ w ∈ next.deed.worlds (next.found t.world),
        ∀ item ∈ w.state.store.toList, item.Valid limit ∧
          (item.CreatedIn ws ∨ item.id = ⟨(issued ws).length + 1⟩ ∧
            ∃ name, next.turn.call = .create name item.price) := by
  intro limit t ws
  have ht : Stocked limit t.world.state ws := stocked_visited visits
  refine ⟨ht.numbered.nodup, fun item hmem => ⟨ht.valid item hmem, ht.created item hmem⟩, ?_⟩
  intro next w hw item hmem
  rcases next.worlds_between t.world w hw with hstore | ⟨reply, hstored⟩
  · rw [hstore] at hmem
    exact ⟨ht.valid item hmem, .inl (ht.created item hmem)⟩
  · obtain ⟨hvalid, hcreated⟩ := ht.accounts hstored hmem
    exact ⟨hvalid, hcreated.imp_right fun ⟨hid, name, hcall, _⟩ => ⟨hid, name, hcall⟩⟩

theorem padded_name_stored_bare :
    let visits : List (Visit { maxNameLength := 9 }) := [
      .alone _ ⟨[], .never, .create "\u2003Desk lamp\u00A0" ⟨0x4024000000000000⟩⟩,
      .alone _ ⟨[], .never, .rename ⟨1⟩ "\u2003\u00A0"⟩]
    let t := turnsOf (visited visits)
    let item : Item := ⟨⟨1⟩, "Desk lamp", ⟨0x4024000000000000⟩⟩
    t.world.state.store.toList = [item] ∧ item.Valid 9 ∧ Text.Bare item.name.toList ∧
      item.CreatedIn (writes t.entries) := by
  intro visits t item
  have hlist : t.world.state.store.toList = [item] := by decide +kernel
  have hmem : item ∈ t.world.state.store.toList := by
    rw [hlist]
    exact List.mem_singleton_self item
  obtain ⟨-, hstored, -⟩ := only_valid_items_stored { maxNameLength := 9 } visits
  obtain ⟨hvalid, hcreated⟩ := hstored item hmem
  exact ⟨hlist, hvalid, hvalid.name.bare, hcreated⟩

end

end Catalog

end Switchboard
