import Switchboard.Proofs.Json.Records

/-!
# Failures in JSON

A failure is written and never read, so that its JSON loses nothing has to be
shown on the written side: the text determines the document (`print_injective`),
and the document determines the cause (`Failure.Cause.toJson_injective`). The
member that is left out when a failure has no fields is no exception, since it
is there whenever a failure has some.
-/

namespace Switchboard

open Json (Faithful)

theorem Json.print_injective {a b : Json} (ha : Faithful a) (hb : Faithful b)
    (h : a.print = b.print) : a = b := by
  have hread := read?_print ha
  rw [h, read?_print hb] at hread
  exact (Option.some.inj hread).symm

theorem FieldError.toJson_injective {a b : FieldError} (h : a.toJson = b.toJson) : a = b := by
  have hread := a.ofJson?_toJson
  rw [h, b.ofJson?_toJson] at hread
  exact (Option.some.inj hread).symm

theorem Json.ofText_injective {s t : String} (h : ofText s = ofText t) : s = t := by
  cases h
  rfl

theorem Json.ofMembers_injective {members members' : List (String × Json)}
    (h : ofMembers members = ofMembers members') : members = members' := by
  refine (List.map_inj_right ?_).mp (Json.object.inj h)
  rintro ⟨name, value⟩ ⟨name', value'⟩ hm
  cases hm
  rfl

theorem Failure.Kind.toJson_injective {a b : Failure.Kind} (h : a.toJson = b.toJson) : a = b := by
  have hname : a.name = b.name := Json.ofText_injective h
  revert hname
  cases a <;> cases b <;> decide

namespace Failure.Cause

/-- The member with the invalid fields, which is there only if there are some. -/
def fieldsMember (errors : List FieldError) : List (String × Json) :=
  if errors.isEmpty then [] else [("fields", .array (errors.map FieldError.toJson))]

theorem fieldsMember_injective {errors errors' : List FieldError}
    (h : fieldsMember errors = fieldsMember errors') : errors = errors' := by
  cases errors with
  | nil =>
      cases errors' with
      | nil => rfl
      | cons e es => cases h
  | cons e es =>
      cases errors' with
      | nil => cases h
      | cons e' es' =>
          have hitems := (Prod.mk.inj (List.cons.inj h).1).2
          exact (List.map_inj_right fun _ _ => FieldError.toJson_injective).mp
            (Json.array.inj hitems)

theorem faithful_toJson (c : Cause) : Faithful c.toJson := by
  have hfields : Faithful (.array (c.fields.map FieldError.toJson)) := by
    refine .array fun item hitem => ?_
    obtain ⟨e, -, rfl⟩ := List.mem_map.mp hitem
    exact e.faithful_toJson
  have hmember : ∀ m ∈ fieldsMember c.fields, Faithful m.2 := by
    unfold fieldsMember
    split
    · exact List.forall_mem_nil _
    · exact List.forall_mem_singleton.mpr hfields
  refine .object (List.forall_mem_append.mpr ⟨?_, hmember⟩)
  exact List.forall_mem_cons.mpr ⟨.text _, List.forall_mem_cons.mpr
    ⟨.text _, List.forall_mem_singleton.mpr (.text _)⟩⟩

theorem toJson_injective {a b : Cause} (h : a.toJson = b.toJson) : a = b := by
  obtain ⟨kind, code, message, errors⟩ := a
  obtain ⟨kind', code', message', errors'⟩ := b
  have hmembers := Json.ofMembers_injective h
  obtain ⟨hkind, hrest⟩ := List.cons.inj hmembers
  obtain ⟨hcode, hrest⟩ := List.cons.inj hrest
  obtain ⟨hmessage, hfields⟩ := List.cons.inj hrest
  obtain rfl : kind = kind' := Kind.toJson_injective (Prod.mk.inj hkind).2
  obtain rfl : code = code' := Json.ofText_injective (Prod.mk.inj hcode).2
  obtain rfl : message = message' := Json.ofText_injective (Prod.mk.inj hmessage).2
  obtain rfl : errors = errors' := fieldsMember_injective hfields
  rfl

end Failure.Cause

namespace Failure

theorem beq_iff {a b : Failure} : (a == b) = true ↔ a.cause = b.cause := by
  show (decide (a = b) || decide (a.cause = b.cause)) = true ↔ _
  rw [Bool.or_eq_true, decide_eq_true_eq, decide_eq_true_eq]
  exact or_iff_right_of_imp (congrArg cause)

/-- The text of a failure determines its content, and its content the text.
Failures that are the very same have the same content. -/
theorem print_eq_iff (a b : Failure) :
    (a.toJson.print = b.toJson.print ↔ (a == b) = true) ∧ (a = b → (a == b) = true) := by
  constructor
  · rw [beq_iff]
    constructor
    · intro h
      exact Cause.toJson_injective
        (Json.print_injective a.cause.faithful_toJson b.cause.faithful_toJson h)
    · intro h
      rw [toJson, toJson, h]
  · intro h
    exact beq_iff.mpr (congrArg cause h)

end Failure

end Switchboard
