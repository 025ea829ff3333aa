import Switchboard.Proofs.Json.Tokens

/-!
# Reading documents

`read?_eq_some_iff`: the reader accepts the documents of the grammar and nothing
else, each with its value. Both directions go by induction on the depth. Given
more depth than the text has characters, the three readers read every text of
the grammar (`readers_complete`); what they read is of the grammar at any depth
(`readers_sound`).
-/

namespace Switchboard.Json

/-! ## The first character of a value -/

/-- What a value can begin with. -/
def starts : List Char :=
  ['n', 't', 'f', '"', '[', '{', '-', '0', '1', '2', '3', '4', '5', '6', '7', '8', '9']

/-- The text begins like a value. -/
def Starts (cs : List Char) : Prop :=
  ∃ c rest, cs = c :: rest ∧ c ∈ starts

theorem Starts.append {cs : List Char} (h : Starts cs) (rest : List Char) :
    Starts (cs ++ rest) := by
  obtain ⟨c, cs, rfl, hc⟩ := h
  exact ⟨c, cs ++ rest, rfl, hc⟩

theorem Starts.skipSpace_eq {cs : List Char} (h : Starts cs) : skipSpace cs = cs := by
  have hall : ∀ c ∈ starts, isSpace c = false := forall_mem_of_all (by decide)
  obtain ⟨c, cs, rfl, hc⟩ := h
  exact skipSpace_cons (hall c hc) cs

/-- A text that begins like a value does not close a list. -/
theorem Starts.not_closing {c : Char} {cs : List Char} (h : Starts (c :: cs)) :
    c ≠ ']' ∧ c ≠ '}' := by
  have hall : ∀ c ∈ starts, c ≠ ']' ∧ c ≠ '}' := forall_mem_of_all (by decide)
  obtain ⟨_, _, heq, hc⟩ := h
  cases heq
  exact hall c hc

/-- What a number can begin with. -/
def numberStarts : List Char :=
  ['-', '0', '1', '2', '3', '4', '5', '6', '7', '8', '9']

theorem number_starts {cs : List Char} {x : Decimal.Numeral} (h : Number cs x) :
    ∃ c rest, cs = c :: rest ∧ c ∈ numberStarts := by
  have hall : ∀ d < 10, Decimal.digitChar d ∈ numberStarts := by decide
  cases h with
  | @mk negative whole fraction exponent ds fs e hwhole hfraction hexponent =>
      obtain ⟨⟨rfl, hds⟩, hne, -⟩ := hwhole
      cases negative with
      | true => exact ⟨'-', _, rfl, List.mem_cons_self⟩
      | false =>
          match ds, hne with
          | d :: ds, _ => exact ⟨_, _, rfl, hall d (hds d List.mem_cons_self)⟩

theorem value_starts {cs : List Char} {json : Json} (h : Value cs json) : Starts cs := by
  cases h with
  | null => exact ⟨_, _, rfl, by decide⟩
  | true => exact ⟨_, _, rfl, by decide⟩
  | false => exact ⟨_, _, rfl, by decide⟩
  | number h =>
      have hall : ∀ c ∈ numberStarts, c ∈ starts := forall_mem_of_all (by decide)
      obtain ⟨c, rest, rfl, hc⟩ := number_starts h
      exact ⟨c, rest, rfl, hall c hc⟩
  | string h =>
      cases h with
      | mk h => exact ⟨_, _, rfl, by decide⟩
  | emptyArray => exact ⟨_, _, rfl, by decide⟩
  | array => exact ⟨_, _, rfl, by decide⟩
  | emptyObject => exact ⟨_, _, rfl, by decide⟩
  | object => exact ⟨_, _, rfl, by decide⟩

theorem member_starts {cs : List Char} {member : Text × Json} (h : Member Value cs member) :
    Starts cs := by
  cases h with
  | mk hname => cases hname with
    | mk h => exact ⟨_, _, rfl, by decide⟩

theorem separated_starts {α : Type} {Element : List Char → α → Prop}
    (helement : ∀ {cs a}, Element cs a → Starts cs) {cs : List Char} {as : List α}
    (h : Separated Element cs as) : Starts cs := by
  cases h with
  | last h => exact (helement h).append _
  | next h => exact (helement h).append _

/-! ## Values -/

theorem readValue_number {c : Char} (hc : c ∈ numberStarts) (depth : Nat) (cs : List Char) :
    readValue (depth + 1) (c :: cs) =
      (readNumber (c :: cs)).bind fun (x, rest) => some (.number x, rest) := by
  have hall : ∀ c ∈ numberStarts,
      c ≠ 'n' ∧ c ≠ 't' ∧ c ≠ 'f' ∧ c ≠ '"' ∧ c ≠ '[' ∧ c ≠ '{' := forall_mem_of_all (by decide)
  obtain ⟨hn, ht, hf, hquote, hbracket, hbrace⟩ := hall c hc
  conv => lhs; unfold readValue
  split
  · rename_i heq
    exact absurd (List.cons.inj heq).1 hn
  · rename_i heq
    exact absurd (List.cons.inj heq).1 ht
  · rename_i heq
    exact absurd (List.cons.inj heq).1 hf
  · rename_i heq
    exact absurd (List.cons.inj heq).1 hquote
  · rename_i heq
    exact absurd (List.cons.inj heq).1 hbracket
  · rename_i heq
    exact absurd (List.cons.inj heq).1 hbrace
  · rfl

theorem readValue_bracket {cs before : List Char} (hbefore : Spaces before) (h : Starts cs)
    (depth : Nat) :
    readValue (depth + 1) ('[' :: (before ++ cs)) =
      (readItems depth cs).bind fun (items, rest) => some (.array items, rest) := by
  simp only [readValue, skipSpace_append hbefore, h.skipSpace_eq]
  split
  · exact absurd rfl h.not_closing.1
  · rfl

theorem readValue_brace {cs before : List Char} (hbefore : Spaces before) (h : Starts cs)
    (depth : Nat) :
    readValue (depth + 1) ('{' :: (before ++ cs)) =
      (readMembers depth cs).bind fun (members, rest) => some (.object members, rest) := by
  simp only [readValue, skipSpace_append hbefore, h.skipSpace_eq]
  split
  · exact absurd rfl h.not_closing.2
  · rfl

theorem ends_after {after : List Char} (hafter : Spaces after) {c : Char} (hc : c ∈ endings)
    (rest : List Char) : Ends (after ++ c :: rest) := by
  cases after with
  | nil =>
      rintro _ ⟨⟩
      exact hc
  | cons space after =>
      rintro _ ⟨⟩
      exact List.mem_append_left [',', ']', '}'] (hafter space List.mem_cons_self)

/-- Values whose texts are shorter than the depth are read. -/
def ReadsValues (depth : Nat) : Prop :=
  ∀ {cs json rest}, Value cs json → cs.length < depth → Ends rest →
    readValue depth (cs ++ rest) = some (json, rest)

def ReadsItems (depth : Nat) : Prop :=
  ∀ {cs items}, Separated Value cs items → cs.length + 1 < depth → ∀ rest,
    readItems depth (cs ++ ']' :: rest) = some (items, rest)

def ReadsMembers (depth : Nat) : Prop :=
  ∀ {cs members}, Separated (Member Value) cs members → cs.length + 1 < depth → ∀ rest,
    readMembers depth (cs ++ '}' :: rest) = some (members, rest)

theorem readsItems_succ {depth : Nat} (hvalues : ReadsValues depth) (hitems : ReadsItems depth) :
    ReadsItems (depth + 1) := by
  intro cs items h hlength rest
  cases h with
  | @last cs after item h hafter =>
      rw [List.length_append] at hlength
      have hread := hvalues h (by omega) (ends_after hafter (show ']' ∈ endings by decide) rest)
      rw [List.append_assoc, readItems, hread]
      simp only [Option.bind_eq_bind, Option.bind_some, skipSpace_append hafter]
      rfl
  | @next cs after before more item items h hafter hbefore hmore =>
      simp only [List.length_append, List.length_cons] at hlength
      have hread := hvalues h (by omega)
        (ends_after hafter (show ',' ∈ endings by decide) (before ++ (more ++ ']' :: rest)))
      have hrest := hitems hmore (by omega) rest
      have hstarts := (separated_starts value_starts hmore).append (']' :: rest)
      simp only [List.append_assoc, List.cons_append, readItems, hread, Option.bind_eq_bind,
        Option.bind_some, skipSpace_append hafter, skipSpace_cons (show isSpace ',' = false from rfl),
        skipSpace_append hbefore, hstarts.skipSpace_eq, hrest]
      rfl

/-- Reads a member, and leaves what comes after it. -/
theorem readMembers_member {depth : Nat} (hvalues : ReadsValues depth) {cs rest : List Char}
    {member : Text × Json} (h : Member Value cs member) (hlength : cs.length < depth + 1)
    (hrest : Ends rest) :
    readMembers (depth + 1) (cs ++ rest) = match skipSpace rest with
      | '}' :: rest => some ([member], rest)
      | ',' :: rest =>
        (readMembers depth (skipSpace rest)).bind fun (ms, rest) => some (member :: ms, rest)
      | _ => none := by
  cases h with
  | @mk name after before cs text json hname hafter hbefore h =>
      obtain ⟨body, rfl, hbody⟩ := readText_of_literal hname
      simp only [List.cons_append, List.length_cons, List.length_append] at hlength
      have hread := hvalues h (by omega) hrest
      simp only [List.cons_append, List.append_assoc, readMembers, hbody, Option.bind_eq_bind,
        Option.bind_some, skipSpace_append hafter, skipSpace_cons (show isSpace ':' = false from rfl),
        skipSpace_append hbefore, ((value_starts h).append rest).skipSpace_eq, hread]
      rfl

theorem readsMembers_succ {depth : Nat} (hvalues : ReadsValues depth)
    (hmembers : ReadsMembers depth) : ReadsMembers (depth + 1) := by
  intro cs members h hlength rest
  cases h with
  | @last cs after member h hafter =>
      rw [List.length_append] at hlength
      rw [List.append_assoc, readMembers_member hvalues h (by omega)
        (ends_after hafter (show '}' ∈ endings by decide) rest), skipSpace_append hafter]
      rfl
  | @next cs after before more member members h hafter hbefore hmore =>
      simp only [List.length_append, List.length_cons] at hlength
      have hrest := hmembers hmore (by omega) rest
      have hstarts := (separated_starts member_starts hmore).append ('}' :: rest)
      rw [List.append_assoc, List.append_assoc, List.cons_append, List.append_assoc,
        readMembers_member hvalues h (by omega) (ends_after hafter (show ',' ∈ endings by decide) _),
        skipSpace_append hafter, skipSpace_cons (show isSpace ',' = false from rfl)]
      simp only [skipSpace_append hbefore, hstarts.skipSpace_eq, hrest, Option.bind_some]

theorem readsValues_succ {depth : Nat} (hitems : ReadsItems depth)
    (hmembers : ReadsMembers depth) : ReadsValues (depth + 1) := by
  intro cs json rest h hlength hrest
  cases h with
  | null => rfl
  | true => rfl
  | false => rfl
  | number h =>
      obtain ⟨c, tail, rfl, hc⟩ := number_starts h
      rw [List.cons_append, readValue_number hc, ← List.cons_append, readNumber_append h hrest]
      rfl
  | string h =>
      obtain ⟨body, rfl, hbody⟩ := readText_of_literal h
      simp only [List.cons_append, readValue, hbody, Option.bind_eq_bind, Option.bind_some,
        Option.pure_def]
  | @emptyArray inside h =>
      simp only [List.cons_append, List.append_assoc, readValue, skipSpace_append h]
      rfl
  | @array before cs items hbefore h =>
      simp only [List.length_cons, List.length_append] at hlength
      have hstarts := (separated_starts value_starts h).append (']' :: rest)
      simp only [List.cons_append, List.append_assoc, List.nil_append]
      rw [readValue_bracket hbefore hstarts, hitems h (by omega) rest, Option.bind_some]
  | @emptyObject inside h =>
      simp only [List.cons_append, List.append_assoc, readValue, skipSpace_append h]
      rfl
  | @object before cs members hbefore h =>
      simp only [List.length_cons, List.length_append] at hlength
      have hstarts := (separated_starts member_starts h).append ('}' :: rest)
      simp only [List.cons_append, List.append_assoc, List.nil_append]
      rw [readValue_brace hbefore hstarts, hmembers h (by omega) rest, Option.bind_some]

theorem readers_complete (depth : Nat) : ReadsValues depth ∧ ReadsItems depth ∧ ReadsMembers depth := by
  induction depth with
  | zero => exact ⟨fun _ h => absurd h (Nat.not_lt_zero _), fun _ h => absurd h (Nat.not_lt_zero _),
      fun _ h => absurd h (Nat.not_lt_zero _)⟩
  | succ depth ih =>
      obtain ⟨hvalues, hitems, hmembers⟩ := ih
      exact ⟨readsValues_succ hitems hmembers, readsItems_succ hvalues hitems,
        readsMembers_succ hvalues hmembers⟩

/-! ## What is read is a value -/

/-- What is read at the front of a text is a value. -/
def ValuesSound (depth : Nat) : Prop :=
  ∀ {cs json rest}, readValue depth cs = some (json, rest) →
    ∃ text, cs = text ++ rest ∧ Value text json

def ItemsSound (depth : Nat) : Prop :=
  ∀ {cs items rest}, readItems depth cs = some (items, rest) →
    ∃ text, cs = text ++ ']' :: rest ∧ Separated Value text items

def MembersSound (depth : Nat) : Prop :=
  ∀ {cs members rest}, readMembers depth cs = some (members, rest) →
    ∃ text, cs = text ++ '}' :: rest ∧ Separated (Member Value) text members

theorem itemsSound_succ {depth : Nat} (hvalues : ValuesSound depth) (hitems : ItemsSound depth) :
    ItemsSound (depth + 1) := by
  intro cs items rest h
  rw [readItems] at h
  obtain ⟨⟨item, rest₁⟩, hread, hnext⟩ := Option.bind_eq_some_iff.mp h
  obtain ⟨text, rfl, hitem⟩ := hvalues hread
  obtain ⟨after, hafter, hspaces⟩ := skipSpace_sound rest₁
  rw [hafter]
  dsimp only at hnext
  split at hnext
  · rename_i heq
    cases hnext
    exact ⟨text ++ after, by rw [heq, List.append_assoc], .last hitem hspaces⟩
  · rename_i rest₂ heq
    obtain ⟨⟨items, rest₃⟩, hmore, hdone⟩ := Option.bind_eq_some_iff.mp hnext
    cases hdone
    obtain ⟨before, hbefore, hspaces'⟩ := skipSpace_sound rest₂
    obtain ⟨more, hmore, hitems⟩ := hitems hmore
    refine ⟨_, ?_, .next hitem hspaces hspaces' hitems⟩
    rw [heq, hbefore, hmore]
    simp only [List.append_assoc, List.cons_append]
  · cases hnext

theorem membersSound_succ {depth : Nat} (hvalues : ValuesSound depth)
    (hmembers : MembersSound depth) : MembersSound (depth + 1) := by
  intro cs members rest h
  unfold readMembers at h
  split at h
  · obtain ⟨⟨name, rest₁⟩, hname, hcolon⟩ := Option.bind_eq_some_iff.mp h
    obtain ⟨literal, heq, hliteral⟩ := readText_sound hname
    obtain ⟨after, hafter, hspaces⟩ := skipSpace_sound rest₁
    rw [heq, hafter]
    dsimp only at hcolon
    split at hcolon
    · rename_i rest₂ hrest₂
      obtain ⟨⟨value, rest₃⟩, hvalue, hnext⟩ := Option.bind_eq_some_iff.mp hcolon
      obtain ⟨before, hbefore, hspaces'⟩ := skipSpace_sound rest₂
      obtain ⟨text, htext, hvalue⟩ := hvalues hvalue
      obtain ⟨after', hafter', hspaces''⟩ := skipSpace_sound rest₃
      have hmember := Member.mk hliteral hspaces hspaces' hvalue
      rw [hrest₂, hbefore, htext, hafter']
      dsimp only at hnext
      split at hnext
      · rename_i hrest₄
        cases hnext
        refine ⟨_, ?_, .last hmember hspaces''⟩
        rw [hrest₄]
        simp only [List.append_assoc, List.cons_append]
      · rename_i rest₄ hrest₄
        obtain ⟨⟨members, rest₅⟩, hmore, hdone⟩ := Option.bind_eq_some_iff.mp hnext
        cases hdone
        obtain ⟨before', hbefore', hspaces₃⟩ := skipSpace_sound rest₄
        obtain ⟨more, hmore, hmembers⟩ := hmembers hmore
        refine ⟨_, ?_, .next hmember hspaces'' hspaces₃ hmembers⟩
        rw [hrest₄, hbefore', hmore]
        simp only [List.append_assoc, List.cons_append]
      · cases hnext
    · cases hcolon
  · cases h

theorem valuesSound_succ {depth : Nat} (hitems : ItemsSound depth)
    (hmembers : MembersSound depth) : ValuesSound (depth + 1) := by
  intro cs json rest h
  unfold readValue at h
  split at h
  · cases h
    exact ⟨['n', 'u', 'l', 'l'], rfl, .null⟩
  · cases h
    exact ⟨['t', 'r', 'u', 'e'], rfl, .true⟩
  · cases h
    exact ⟨['f', 'a', 'l', 's', 'e'], rfl, .false⟩
  · obtain ⟨⟨text, rest₁⟩, hread, h⟩ := Option.bind_eq_some_iff.mp h
    cases h
    obtain ⟨literal, heq, hliteral⟩ := readText_sound hread
    exact ⟨literal, heq, .string hliteral⟩
  · rename_i rest₁
    obtain ⟨before, hbefore, hspaces⟩ := skipSpace_sound rest₁
    rw [hbefore]
    split at h
    · rename_i heq
      cases h
      refine ⟨_, ?_, .emptyArray hspaces⟩
      rw [heq]
      simp
    · obtain ⟨⟨items, rest₂⟩, hread, h⟩ := Option.bind_eq_some_iff.mp h
      cases h
      obtain ⟨text, heq, hitems⟩ := hitems hread
      refine ⟨_, ?_, .array hspaces hitems⟩
      rw [heq]
      simp
  · rename_i rest₁
    obtain ⟨before, hbefore, hspaces⟩ := skipSpace_sound rest₁
    rw [hbefore]
    split at h
    · rename_i heq
      cases h
      refine ⟨_, ?_, .emptyObject hspaces⟩
      rw [heq]
      simp
    · obtain ⟨⟨members, rest₂⟩, hread, h⟩ := Option.bind_eq_some_iff.mp h
      cases h
      obtain ⟨text, heq, hmembers⟩ := hmembers hread
      refine ⟨_, ?_, .object hspaces hmembers⟩
      rw [heq]
      simp
  · obtain ⟨⟨x, rest₁⟩, hread, h⟩ := Option.bind_eq_some_iff.mp h
    cases h
    obtain ⟨text, heq, hnumber⟩ := readNumber_sound hread
    exact ⟨text, heq, .number hnumber⟩

theorem readers_sound (depth : Nat) : ValuesSound depth ∧ ItemsSound depth ∧ MembersSound depth := by
  induction depth with
  | zero => refine ⟨?_, ?_, ?_⟩ <;> intro _ _ _ h <;> cases h
  | succ depth ih =>
      obtain ⟨hvalues, hitems, hmembers⟩ := ih
      exact ⟨valuesSound_succ hitems hmembers, itemsSound_succ hvalues hitems,
        membersSound_succ hvalues hmembers⟩

/-! ## Documents -/

/-- A text is read as a value just if it is a document of that value. -/
theorem read?_eq_some_iff {text : String} {json : Json} :
    read? text = some json ↔ Document text json := by
  constructor
  · intro h
    obtain ⟨before, hbefore, hspaces⟩ := skipSpace_sound text.toList
    unfold read? at h
    dsimp only at h
    split at h
    · cases h
    · rename_i hread
      split at h
      · rename_i hend
        cases h
        obtain ⟨cs, hcs, hvalue⟩ := (readers_sound _).1 hread
        obtain ⟨after, hafter, hspaces'⟩ := skipSpace_sound _
        rw [List.isEmpty_iff.mp hend, List.append_nil] at hafter
        exact ⟨before, cs, after, by rw [← hafter, ← hcs, ← hbefore], hspaces, hvalue, hspaces'⟩
      · cases h
  · rintro ⟨before, cs, after, htext, hbefore, hvalue, hafter⟩
    have hstart : skipSpace text.toList = cs ++ after := by
      rw [htext, skipSpace_append hbefore, ((value_starts hvalue).append after).skipSpace_eq]
    have hends : Ends after := fun c hc =>
      List.mem_append_left [',', ']', '}'] (hafter c (List.mem_of_mem_head? hc))
    have hlength : cs.length < (cs ++ after).length + 1 := by
      rw [List.length_append]
      omega
    have hend : skipSpace after = [] := by
      rw [← List.append_nil after, skipSpace_append hafter]
      rfl
    simp only [read?, hstart, (readers_complete _).1 hvalue hlength hends, hend, List.isEmpty_nil, if_true]

end Switchboard.Json
