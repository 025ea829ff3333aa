import Switchboard.Catalog.Handler
import Switchboard.Proofs.Catalog.Index

/-!
# Searching for a part of a name

The index and a search fold what they are given each for itself, and folding reads
the neighbourhood of a capital sigma: `Σ` at the end of a word has a form of its own.
A part of a name may end where the name goes on, so its fold need not be a part of
the fold of the name.

That is the only way in which a search misses a name. `search_finds_part` finds every
part whose sigmas end a word in the name just if they do in the part, and says that
elsewhere the folded name does not read as the folded part; `final_sigma_hides_name`
is a name that is missed.
-/

namespace Switchboard

namespace Text

/-! ## Folding between neighbours -/

/-- Whether a sigma ends a word between these texts, the first one nearest
character first. -/
def endsWord (before after : List Char) : Bool :=
  meetsCased before && !meetsCased after

/-- The lower-case form of one character between these texts. -/
def image (before after : List Char) (c : Char) : List Char :=
  if c = '\u03A3' then
    if endsWord before after then ['\u03C2'] else ['\u03C3']
  else if c = '\u0130' then ['i', '\u0307']
  else [lowerChar c]

/-- Lower-cases a part of a text that stands between these two. -/
def lowerBetween (before after : List Char) : List Char → List Char
  | [] => []
  | c :: rest => image before (rest ++ after) c ++ lowerBetween (c :: before) after rest

theorem lowerFrom_eq (before cs : List Char) : lowerFrom before cs = lowerBetween before [] cs := by
  induction cs generalizing before with
  | nil => rfl
  | cons c rest ih => rw [lowerFrom, ih, lowerBetween, List.append_nil]; rfl

theorem lowerBetween_append (before after xs ys : List Char) :
    lowerBetween before after (xs ++ ys) =
      lowerBetween before (ys ++ after) xs ++ lowerBetween (xs.reverse ++ before) after ys := by
  induction xs generalizing before with
  | nil => rfl
  | cons c xs ih => simp [lowerBetween, ih]

/-- A part of a text folds as it does between what stands around it. -/
theorem toList_lowercase_of_part {s : String} {front part back : List Char}
    (h : s.toList = front ++ part ++ back) :
    (lowercase s).toList = lowerBetween [] (part ++ back) front ++
      lowerBetween front.reverse back part ++
      lowerBetween (part.reverse ++ front.reverse) [] back := by
  rw [lowercase, String.toList_ofList, h, lowerFrom_eq, lowerBetween_append, lowerBetween_append]
  simp

/-- Each capital sigma of `cs` ends a word between the first two texts just if it does
between the other two. -/
def SameEndings (before after before' after' cs : List Char) : Prop :=
  ∀ front back, cs = front ++ '\u03A3' :: back →
    endsWord (front.reverse ++ before) (back ++ after) =
      endsWord (front.reverse ++ before') (back ++ after')

theorem sameEndings_nil (before after before' after' : List Char) :
    SameEndings before after before' after' [] := by
  intro front back h
  cases front <;> cases h

theorem sameEndings_cons {before after before' after' : List Char} {c : Char} {cs : List Char} :
    SameEndings before after before' after' (c :: cs) ↔
      (c = '\u03A3' → endsWord before (cs ++ after) = endsWord before' (cs ++ after')) ∧
        SameEndings (c :: before) after (c :: before') after' cs := by
  constructor
  · intro h
    refine ⟨fun hc => h [] cs (by rw [hc]; rfl), fun front back hsplit => ?_⟩
    have hlater := h (c :: front) back (by rw [hsplit]; rfl)
    simpa using hlater
  · rintro ⟨hfirst, hlater⟩ front back hsplit
    cases front with
    | nil =>
        cases hsplit
        exact hfirst rfl
    | cons c' front =>
        cases hsplit
        simpa using hlater front back rfl

instance decidableSameEndings : (before after before' after' cs : List Char) →
    Decidable (SameEndings before after before' after' cs)
  | before, after, before', after', [] => isTrue (sameEndings_nil before after before' after')
  | before, after, before', after', c :: cs =>
    have := decidableSameEndings (c :: before) after (c :: before') after' cs
    decidable_of_iff _ sameEndings_cons.symm

theorem image_eq_iff {before after before' after' : List Char} {c : Char} :
    image before after c = image before' after' c ↔
      (c = '\u03A3' → endsWord before after = endsWord before' after') := by
  by_cases hc : c = '\u03A3'
  · cases h : endsWord before after <;> cases h' : endsWord before' after' <;> simp [image, *]
  · simp [image, hc]

theorem length_image (before after before' after' : List Char) (c : Char) :
    (image before after c).length = (image before' after' c).length := by
  unfold image
  split
  · split <;> split <;> rfl
  · rfl

/-- Between two pairs of texts a part folds the same just if its sigmas end the same
words. -/
theorem lowerBetween_eq_iff {before after before' after' cs : List Char} :
    lowerBetween before after cs = lowerBetween before' after' cs ↔
      SameEndings before after before' after' cs := by
  induction cs generalizing before before' with
  | nil => exact iff_of_true rfl (sameEndings_nil before after before' after')
  | cons c cs ih =>
      rw [sameEndings_cons, ← image_eq_iff, ← ih]
      constructor
      · intro h
        exact List.append_inj h (length_image ..)
      · rintro ⟨hfirst, hlater⟩
        rw [lowerBetween, lowerBetween, hfirst, hlater]

end Text

namespace Catalog

/-! ## The names in an index -/

/-- An event that the index hears of. -/
abbrev Heard := (n : Notification) × Body n

def Index.after (events : List Heard) : Index :=
  events.foldl (fun index e => indexChange e.1 e.2 index) .empty

/-- The name of an item, after an event, if it was `name?` before. -/
def Heard.rename (id : ItemId) (name? : Option String) : Heard → Option String
  | ⟨.created, (e : ItemCreated)⟩ => if e.id = id then some e.name else name?
  | ⟨.renamed, (e : ItemRenamed)⟩ => if e.id = id then some e.name else name?
  | ⟨.deleted, (e : ItemDeleted)⟩ => if e.id = id then none else name?

/-- The name under which an item is indexed after these events. -/
def nameAfter (id : ItemId) (events : List Heard) : Option String :=
  events.foldl (Heard.rename id) none

namespace Index

/-- An index that holds the folded names of the items that have one. -/
structure Names (index : Index) (name? : ItemId → Option String) : Prop where
  sorted : OrderedMap.Sorted index
  find? : ∀ id, OrderedMap.find? id.value index = (name? id).map foldName

namespace Names

variable {index : Index} {name? : ItemId → Option String}

theorem put (h : index.Names name?) (id : ItemId) (name : String) :
    Names (index.put id name) fun other => if id = other then some name else name? other where
  sorted := OrderedMap.sorted_insert h.sorted
  find? other := by
    rw [Index.put, OrderedMap.find?_insert, h.find?]
    simp only [ItemId.ext_iff]
    split <;> rfl

theorem remove (h : index.Names name?) (id : ItemId) :
    Names (index.remove id) fun other => if id = other then none else name? other where
  sorted := OrderedMap.sorted_erase h.sorted
  find? other := by
    rw [Index.remove, OrderedMap.find?_erase, h.find?]
    simp only [ItemId.ext_iff]
    split <;> rfl

theorem hear (h : index.Names name?) (e : Heard) :
    Names (indexChange e.1 e.2 index) fun id => e.rename id (name? id) := by
  obtain ⟨n, e⟩ := e
  cases n with
  | created => exact h.put _ _
  | renamed => exact h.put _ _
  | deleted => exact h.remove _

theorem hear_all (h : index.Names name?) (events : List Heard) :
    Names (events.foldl (fun index e => indexChange e.1 e.2 index) index) fun id =>
      events.foldl (Heard.rename id) (name? id) := by
  induction events generalizing index name? with
  | nil => exact h
  | cons e events ih => exact ih (h.hear e)

end Names

theorem names_after (events : List Heard) : (after events).Names (nameAfter · events) :=
  Names.hear_all ⟨OrderedMap.sorted_empty, fun _ => rfl⟩ events

end Index

/-! ## Parts of names -/

section

variable {events : List Heard} {id : ItemId} {name term : String} {front back : List Char}

theorem lowerBetween_eq_foldName :
    Text.lowerBetween front.reverse back term.toList = (foldName term).toList ↔
      Text.SameEndings front.reverse back [] [] term.toList := by
  rw [foldName, Text.lowercase, String.toList_ofList, Text.lowerFrom_eq, Text.lowerBetween_eq_iff]

theorem mem_search_of_sameEndings (hindexed : nameAfter id events = some name)
    (hpart : name.toList = front ++ term.toList ++ back)
    (hendings : Text.SameEndings front.reverse back [] [] term.toList) :
    id ∈ (Index.after events).search term := by
  have hnames := Index.names_after events
  have hname : (foldName name).toList = _ := Text.toList_lowercase_of_part hpart
  rw [Index.mem_search hnames.sorted]
  refine ⟨foldName name, by rw [hnames.find?, hindexed]; rfl, ?_⟩
  rw [hname, lowerBetween_eq_foldName.mpr hendings]
  exact List.infix_append _ _ _

/-- A part without a capital sigma is found in every name. -/
theorem mem_search_of_no_sigma (hindexed : nameAfter id events = some name)
    (hpart : term.toList <:+: name.toList) (hsigma : '\u03A3' ∉ term.toList) :
    id ∈ (Index.after events).search term := by
  obtain ⟨front, back, hname⟩ := hpart
  refine mem_search_of_sameEndings hindexed hname.symm fun x y hsplit => ?_
  rw [hsplit] at hsigma
  exact absurd (List.mem_append_right x List.mem_cons_self) hsigma

/-- A part of a name is found if each capital sigma of it ends a word in the name just
if it does in the part alone. That is just if the folded name reads, at this place, as
the folded part. -/
theorem search_finds_part (hindexed : nameAfter id events = some name)
    (hpart : name.toList = front ++ term.toList ++ back) :
    (Text.SameEndings front.reverse back [] [] term.toList →
      id ∈ (Index.after events).search term) ∧
    (Text.SameEndings front.reverse back [] [] term.toList ↔
      (foldName name).toList = Text.lowerBetween [] (term.toList ++ back) front ++
        (foldName term).toList ++
        Text.lowerBetween (term.toList.reverse ++ front.reverse) [] back) := by
  refine ⟨mem_search_of_sameEndings hindexed hpart, ?_⟩
  have hname : (foldName name).toList = _ := Text.toList_lowercase_of_part hpart
  rw [hname, List.append_left_inj, List.append_right_inj, lowerBetween_eq_foldName]

end

/-- The term begins inside of a word, has a whole word end in it, and ends inside of one. -/
theorem greek_part_found :
    let events : List Heard := [⟨.created, ⟨⟨1⟩, "ΣΑΣΑ"⟩⟩, ⟨.renamed, ⟨⟨1⟩, "ΛΟΓΟΣ, ΣΑΣΑ"⟩⟩]
    nameAfter ⟨1⟩ events = some "ΛΟΓΟΣ, ΣΑΣΑ" ∧
      "ΛΟΓΟΣ, ΣΑΣΑ".toList = "ΛΟ".toList ++ "ΓΟΣ, ΣΑ".toList ++ "ΣΑ".toList ∧
      ⟨1⟩ ∈ (Index.after events).search "ΓΟΣ, ΣΑ" := by
  intro events
  have hindexed : nameAfter ⟨1⟩ events = some "ΛΟΓΟΣ, ΣΑΣΑ" := by decide
  have hpart : "ΛΟΓΟΣ, ΣΑΣΑ".toList = "ΛΟ".toList ++ "ΓΟΣ, ΣΑ".toList ++ "ΣΑ".toList := by decide
  exact ⟨hindexed, hpart, (search_finds_part hindexed hpart).1 (by decide +kernel)⟩

/-- The last sigma of the term ends a word, and in the name it does not. -/
theorem final_sigma_hides_name :
    ¬∀ (events : List Heard) (id : ItemId) (name term : String),
      nameAfter id events = some name → term.toList <:+: name.toList →
        id ∈ (Index.after events).search term := by
  intro h
  have hfound := h [⟨.created, ⟨⟨1⟩, "ΣΑΣΑ"⟩⟩] ⟨1⟩ "ΣΑΣΑ" "ΣΑΣ" (by decide) (by decide)
  exact absurd hfound (by decide +kernel)

end Catalog

end Switchboard
