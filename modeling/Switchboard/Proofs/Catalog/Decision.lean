import Switchboard.Proofs.Catalog.Session

/-!
# What decides a write

Every write is decided by three layers, one after the other: validation, which
looks at the request alone, then the existence of the item, then the names of
the other items. `write_decision` states the three together, after any session.

`badName` and `badPrice` are the rules of validation, told by the names of the
fields they reject.
-/

namespace Switchboard.Catalog

/-! ## The rules of validation -/

/-- Rejects the name of a request: nothing is left of it, or too much. -/
def badName (limit : Nat) (name : String) : List String :=
  if Text.trim name = "" ∨ limit < Text.count (Text.trim name) then ["name"] else []

/-- Rejects the price of a request: NaN, infinite, zero or negative. -/
def badPrice (price : Binary64) : List String :=
  if price.isNaN ∨ price = .infinity false ∨ price = .infinity true ∨ price.isZero ∨
      price.isNegative then ["price"]
  else []

theorem nameErrors_fields (limit : Nat) (name : String) :
    (nameErrors limit name).map (·.field) = badName limit name := by
  unfold nameErrors badName
  by_cases hblank : Text.trim name = ""
  · simp [hblank]
  · by_cases hlong : limit < Text.count (Text.trim name)
    · simp [hblank, hlong]
    · simp [hblank, hlong]

theorem badPrice_eq (price : Binary64) :
    badPrice price = if price.isFinite ∧ price.isPositive then [] else ["price"] := by
  unfold badPrice
  by_cases hfinite : price.isFinite = false
  · have hrejected : ¬(price.isFinite ∧ price.isPositive) := by simp [hfinite]
    rw [if_neg hrejected]
    rcases (Binary64.isFinite_eq_false_iff price).mp hfinite with hnan | hpos | hneg
    · exact if_pos (Or.inl hnan)
    · exact if_pos (Or.inr (Or.inl hpos))
    · exact if_pos (Or.inr (Or.inr (Or.inl hneg)))
  · have hgood := mt (Binary64.isFinite_eq_false_iff price).mpr hfinite
    simp only [not_or, Bool.not_eq_true] at hgood
    obtain ⟨hnan, hpos, hneg⟩ := hgood
    rw [Bool.not_eq_false] at hfinite
    cases hzero : price.isZero <;> cases hnegative : price.isNegative <;>
      simp [Binary64.isPositive, hfinite, hnan, hpos, hneg, hzero, hnegative]

theorem priceErrors_fields (price : Binary64) :
    (priceErrors price).map (·.field) = badPrice price := by
  rw [badPrice_eq, priceErrors]
  by_cases hgood : price.isFinite ∧ price.isPositive
  · simp [hgood]
  · rw [if_neg hgood, if_neg fun h => hgood (Bool.and_eq_true_iff.mp h)]
    rfl

theorem validateCreate_fields (limit : Nat) (name : String) (price : Binary64) :
    (validateCreate limit ⟨name, price⟩).map (·.field) = badName limit name ++ badPrice price := by
  rw [validateCreate, List.map_append, nameErrors_fields, priceErrors_fields]

theorem validateRename_fields (limit : Nat) (id : ItemId) (name : String) :
    (validateRename limit ⟨id, name⟩).map (·.field) = badName limit name :=
  nameErrors_fields limit name

theorem invalid_of_rejected {exit : Exit (Except Error Call.Reply)} {mark : Nat}
    {errors : List FieldError}
    (h : exit = .value (.error (.ofFailure ⟨mark, .validation errors⟩))) :
    ∃ f, exit = .value (.error (.invalid f)) ∧
      (Error.invalid f).invalidFields = errors.map (·.field) :=
  ⟨⟨mark, .validation errors⟩, h, rfl⟩

/-! ## How each write ends

`s` is the store that a write finds, `exit` is how the write ends. The causes
exclude each other, so each is the answer exactly in the case that is given
for it. -/

/-- Creating: the request must be valid, then the name must be free. -/
def CreateDecided (limit : Nat) (s : Store) (next : ItemId) (name : String) (price : Binary64)
    (exit : Exit (Except Error Call.Reply)) : Prop :=
  let bad := badName limit name ++ badPrice price
  let clash := ∃ other item, s.get? other = some item ∧
    foldName item.name = foldName (Text.trim name)
  (bad ≠ [] → ∃ f, exit = .value (.error (.invalid f)) ∧ (Error.invalid f).invalidFields = bad) ∧
    (bad = [] → clash → exit =
      .value (.error (.duplicate ("an item named '" ++ Text.trim name ++ "' already exists")))) ∧
    (bad = [] → ¬ clash → exit = .value (.ok (.id next)))

/-- Renaming: the name must be valid, then the item must be there, then no
other item may have the name. -/
def RenameDecided (limit : Nat) (s : Store) (id : ItemId) (name : String)
    (exit : Exit (Except Error Call.Reply)) : Prop :=
  let bad := badName limit name
  let clash := ∃ other item, other ≠ id ∧ s.get? other = some item ∧
    foldName item.name = foldName (Text.trim name)
  (bad ≠ [] → ∃ f, exit = .value (.error (.invalid f)) ∧ (Error.invalid f).invalidFields = bad) ∧
    (bad = [] → s.get? id = none →
      exit = .value (.error (.notFound (id.format ++ " was not found")))) ∧
    ∀ item, s.get? id = some item →
      (bad = [] → clash → exit = .value
        (.error (.duplicate ("an item named '" ++ Text.trim name ++ "' already exists")))) ∧
      (bad = [] → ¬ clash → exit = .value (.ok (.item ⟨id, Text.trim name, item.price⟩)))

/-- Deleting: the item must be there. -/
def DeleteDecided (s : Store) (id : ItemId) (exit : Exit (Except Error Call.Reply)) : Prop :=
  (s.get? id = none → exit = .value (.error (.notFound (id.format ++ " was not found")))) ∧
    ((s.get? id).isSome → exit = .value (.ok .unit))

/-! ## The decisions -/

section Decisions

variable {limit : Nat} {s : State} {name : String} {price : Binary64} {id : ItemId}

theorem create_rejected (h : badName limit name ++ badPrice price ≠ []) :
    (Call.create name price).effect limit false s =
      .error (.validation (validateCreate limit ⟨name, price⟩)) := by
  have hinvalid : validateCreate limit ⟨name, price⟩ ≠ [] := by
    intro hvalid
    rw [← validateCreate_fields, hvalid] at h
    exact h rfl
  simp [Call.effect, Request.answer, Request.effect, hinvalid]

theorem create_accepted (s : State) (h : badName limit name ++ badPrice price = []) :
    (Call.create name price).effect limit false s =
      match s.store.insert (Text.trim name) price with
      | .ok (item, store) => .ok (.id item.id,
          State.announced .created ⟨item.id, Text.trim name⟩ { s with store })
      | .error cause => .error cause := by
  have hvalid : validateCreate limit ⟨name, price⟩ = [] := by
    rw [← validateCreate_fields] at h
    exact List.map_eq_nil_iff.mp h
  simp only [Call.effect, Request.answer, Request.effect, hvalid, Bool.false_eq_true, if_false,
    if_true]
  cases s.store.insert (Text.trim name) price <;> rfl

theorem rename_rejected (h : badName limit name ≠ []) :
    (Call.rename id name).effect limit false s =
      .error (.validation (validateRename limit ⟨id, name⟩)) := by
  have hinvalid : validateRename limit ⟨id, name⟩ ≠ [] := by
    intro hvalid
    rw [← validateRename_fields limit id, hvalid] at h
    exact h rfl
  simp [Call.effect, Request.answer, Request.effect, hinvalid]

theorem rename_accepted (s : State) (id : ItemId) (h : badName limit name = []) :
    (Call.rename id name).effect limit false s =
      match s.store.rename id (Text.trim name) with
      | .ok (item, store) => .ok (.item item,
          State.announced .renamed ⟨item.id, item.name⟩ { s with store })
      | .error cause => .error cause := by
  have hvalid : validateRename limit ⟨id, name⟩ = [] := by
    rw [← validateRename_fields limit id] at h
    exact List.map_eq_nil_iff.mp h
  simp only [Call.effect, Request.answer, Request.effect, hvalid, Bool.false_eq_true, if_false,
    if_true]
  cases s.store.rename id (Text.trim name) <;> rfl

end Decisions

section Turns

variable {config : Config} {sources : Sources} {signal : Signal} {w : World State}

theorem create_decided (hopen : sources.isCancelled signal = false) (hs : w.state.store.Sound)
    (name : String) (price : Binary64) :
    CreateDecided config.maxNameLength.toNat w.state.store ⟨w.state.store.lastId + 1⟩ name price
      (Turn.perform config ⟨sources, signal, .create name price⟩ w).1 := by
  refine ⟨fun hbad => ?_, fun hgood hclash => ?_, fun hgood hfree => ?_⟩
  · obtain ⟨⟨mark, hexit⟩, -⟩ := Turn.perform_open_error hopen (create_rejected hbad)
    obtain ⟨f, hf, hfields⟩ := invalid_of_rejected hexit
    exact ⟨f, hf, hfields.trans (validateCreate_fields _ name price)⟩
  · have heffect := create_accepted w.state hgood
    rw [Store.insert_of_taken (hs.nameTaken_none_iff.mpr hclash)] at heffect
    obtain ⟨⟨mark, hexit⟩, -⟩ := Turn.perform_open_error hopen heffect
    exact hexit
  · have heffect := create_accepted w.state hgood
    rw [Store.insert_of_free (Bool.eq_false_iff.mpr (mt hs.nameTaken_none_iff.mp hfree))] at heffect
    exact (Turn.perform_open_ok hopen heffect).1

theorem rename_decided (hopen : sources.isCancelled signal = false) (hs : w.state.store.Sound)
    (id : ItemId) (name : String) :
    RenameDecided config.maxNameLength.toNat w.state.store id name
      (Turn.perform config ⟨sources, signal, .rename id name⟩ w).1 := by
  refine ⟨fun hbad => ?_, fun hgood hmissing => ?_, fun item hget => ⟨fun hgood hclash => ?_,
    fun hgood hfree => ?_⟩⟩
  · obtain ⟨⟨mark, hexit⟩, -⟩ := Turn.perform_open_error hopen (rename_rejected hbad)
    obtain ⟨f, hf, hfields⟩ := invalid_of_rejected hexit
    exact ⟨f, hf, hfields.trans (validateRename_fields _ id name)⟩
  · have heffect := rename_accepted w.state id hgood
    rw [Store.rename_of_missing hmissing] at heffect
    obtain ⟨⟨mark, hexit⟩, -⟩ := Turn.perform_open_error hopen heffect
    exact hexit
  · have heffect := rename_accepted w.state id hgood
    rw [Store.rename_of_taken hget (hs.nameTaken_some_iff.mpr hclash)] at heffect
    obtain ⟨⟨mark, hexit⟩, -⟩ := Turn.perform_open_error hopen heffect
    exact hexit
  · have heffect := rename_accepted w.state id hgood
    have hfree := Bool.eq_false_iff.mpr (mt hs.nameTaken_some_iff.mp hfree)
    rw [Store.rename_of_free hget hfree] at heffect
    obtain rfl := hs.id_eq hget
    exact (Turn.perform_open_ok hopen heffect).1

theorem delete_decided (hopen : sources.isCancelled signal = false) (id : ItemId) :
    DeleteDecided w.state.store id (Turn.perform config ⟨sources, signal, .delete id⟩ w).1 := by
  constructor
  · intro hmissing
    have heffect : (Call.delete id).effect config.maxNameLength.toNat false w.state =
        .error (Store.missing id) := by
      simp [Call.effect, Request.answer, Request.effect, Store.remove_of_missing hmissing,
        Except.map]
    obtain ⟨⟨mark, hexit⟩, -⟩ := Turn.perform_open_error hopen heffect
    exact hexit
  · intro hlive
    obtain ⟨item, hget⟩ := Option.isSome_iff_exists.mp hlive
    have heffect : ∃ s, (Call.delete id).effect config.maxNameLength.toNat false w.state =
        .ok (.unit, s) := by
      simp [Call.effect, Request.answer, Request.effect, Store.remove_of_found hget, Except.map]
    obtain ⟨s, heffect⟩ := heffect
    exact (Turn.perform_open_ok hopen heffect).1

end Turns

/-- After any session, a write under a signal that is not cancelled is decided
by the request and the store alone. The id that a creation answers is one more
than the number of creations that succeeded before it. -/
theorem write_decision (config : Config) (turns : List Turn) (sources : Sources)
    (signal : Signal) (hopen : sources.isCancelled signal = false) :
    let t := session config turns
    let s := t.world.state.store
    let limit := config.maxNameLength.toNat
    let next : ItemId := ⟨(issued (writes t.entries)).length + 1⟩
    let exit (call : Call) := (Turn.perform config ⟨sources, signal, call⟩ t.world).1
    (∀ name price, CreateDecided limit s next name price (exit (.create name price))) ∧
      (∀ id name, RenameDecided limit s id name (exit (.rename id name))) ∧
      ∀ id, DeleteDecided s id (exit (.delete id)) := by
  intro t s limit next exit
  have hs : s.Sound := session_sound config turns
  have hnumbered : Numbered t.world.state (writes t.entries) := session_numbered config turns
  have hnext : next = ⟨s.lastId + 1⟩ := by rw [hnumbered.lastId_eq]
  refine ⟨fun name price => ?_, fun id name => ?_, fun id => ?_⟩
  · rw [hnext]
    exact create_decided hopen hs name price
  · exact rename_decided hopen hs id name
  · exact delete_decided hopen id

theorem spelled_otherwise_decided :
    Sources.isCancelled [] .never = false ∧
      (Turn.perform {} ⟨[], .never, .create " LAMP " ⟨0x4024000000000000⟩⟩
        (session {} [⟨[], .never, .create "Lamp" ⟨0x4024000000000000⟩⟩]).world).1 =
        .value (.error (.duplicate "an item named 'LAMP' already exists")) := by
  have hlive : Store.get?
      (session {} [⟨[], .never, .create "Lamp" ⟨0x4024000000000000⟩⟩]).world.state.store ⟨1⟩ =
        some ⟨⟨1⟩, "Lamp", ⟨0x4024000000000000⟩⟩ := by rfl
  have hclash : foldName "Lamp" = foldName (Text.trim " LAMP ") := by decide
  have hmessage : "an item named '" ++ Text.trim " LAMP " ++ "' already exists" =
      "an item named 'LAMP' already exists" := by decide
  have hdecided := (write_decision {} [⟨[], .never, .create "Lamp" ⟨0x4024000000000000⟩⟩]
    [] .never rfl).1 " LAMP " ⟨0x4024000000000000⟩
  have hduplicate := hdecided.2.1 (by decide) ⟨⟨1⟩, _, hlive, hclash⟩
  rw [hmessage] at hduplicate
  exact ⟨rfl, hduplicate⟩

end Switchboard.Catalog
