import Switchboard.Catalog.Config
import Switchboard.Failure.Json
import Switchboard.Proofs.Json.Printing

/-!
# Records in JSON

Reading a record undoes writing it (`records_decode`), for the records that can
be read: field errors and the two configurations. A configuration is also read
from objects that hold a part of its fields, written in any way that the
grammar allows and among any other members (`Json.Holds`): the fields that are
missing have their defaults.
-/

namespace Switchboard

namespace Json

/-! ## Fields among other members -/

/-- An object that has some of the fields of a record: those that are kept are
there once each, with their values, and the others are not there. Nothing is
said of members of other names, nor of the order. -/
structure Holds (fields : List (String × Json)) (keep : String → Bool)
    (members : List (Text × Json)) : Prop where
  /-- The name of every member is a text. -/
  names : ∀ m ∈ members, m.1.isSome
  once : ∀ f ∈ fields,
    (members.filter fun m => m.1 = some f.1) = if keep f.1 then [(some f.1, f.2)] else []

theorem valuesOf_eq (name : String) (members : List (Text × Json)) :
    valuesOf name members = (members.filter fun m => m.1 = some name).map (·.2) := by
  induction members with
  | nil => rfl
  | cons m members ih =>
      rw [valuesOf] at ih ⊢
      by_cases hm : m.1 = some name
      · simp [hm, ih]
      · simp [hm, ih]

namespace Holds

variable {fields : List (String × Json)} {keep : String → Bool} {members : List (Text × Json)}

theorem field?_eq (h : Holds fields keep members) {name : String} {value : Json}
    (hfield : (name, value) ∈ fields) :
    field? members name = some (if keep name then some value else none) := by
  rw [field?, valuesOf_eq, h.once _ hfield]
  cases keep name <;> rfl

theorem fields?_eq (h : Holds fields keep members) :
    fields? (fields.map (·.1)) (.object members) =
      some (fields.map fun f => if keep f.1 then some f.2 else none) := by
  have hread {fs : List (String × Json)} (hfs : ∀ f ∈ fs, f ∈ fields) :
      (fs.map (·.1)).mapM (field? members) =
        some (fs.map fun f => if keep f.1 then some f.2 else none) := by
    induction fs with
    | nil => rfl
    | cons f fs ih =>
        obtain ⟨hf, hfs⟩ := List.forall_mem_cons.mp hfs
        rw [List.map_cons, List.mapM_cons, h.field?_eq hf, ih hfs]
        rfl
  rw [fields?, if_pos (List.all_eq_true.mpr h.names)]
  exact hread fun _ hf => hf

end Holds

/-- A record is read back from what it is printed as. -/
theorem decode_print {α : Type} {toJson : α → Json} {ofJson? : Json → Option α} {a : α}
    (hfaithful : Faithful (toJson a)) (h : ofJson? (toJson a) = some a) :
    (read? (toJson a).print).bind ofJson? = some a := by
  rw [read?_print hfaithful, Option.bind_some, h]

end Json

open Json (Holds Faithful Document)

/-! ## Field errors -/

namespace FieldError

theorem faithful_toJson (e : FieldError) : Faithful e.toJson :=
  .object (List.forall_mem_cons.mpr ⟨.text _, List.forall_mem_singleton.mpr (.text _)⟩)

theorem ofJson?_toJson (e : FieldError) : ofJson? e.toJson = some e := by
  simp [ofJson?, toJson, Json.ofMembers, Json.fields?, Json.field?, Json.valuesOf, Json.required,
    Json.ofText, Json.text?]

end FieldError

/-! ## Configurations -/

namespace PublishStrategy

theorem ofJson?_toJson (s : PublishStrategy) : ofJson? s.toJson = some s := by
  cases s <;> rfl

end PublishStrategy

namespace Config

/-- The fields of a configuration, by their names. -/
def fields (c : Config) : List (String × Json) :=
  [("publish_strategy", c.strategy.toJson), ("instrument", .bool c.instrument)]

theorem faithful_toJson (c : Config) : Faithful c.toJson :=
  .object (List.forall_mem_cons.mpr ⟨.text _, List.forall_mem_singleton.mpr (.bool _)⟩)

theorem ofJson?_of_holds {c : Config} {keep : String → Bool} {members : List (Json.Text × Json)}
    (h : Holds c.fields keep members) :
    ofJson? (.object members) = some {
      strategy := if keep "publish_strategy" then c.strategy else ({} : Config).strategy
      instrument := if keep "instrument" then c.instrument else ({} : Config).instrument } := by
  have hfields := h.fields?_eq
  simp only [fields, List.map_cons, List.map_nil] at hfields
  rw [ofJson?, hfields]
  cases keep "publish_strategy" <;> cases keep "instrument" <;>
    simp [Json.orDefault, PublishStrategy.ofJson?_toJson, Json.bool?]

theorem ofJson?_toJson (c : Config) : ofJson? c.toJson = some c := by
  have hall : Holds c.fields (fun _ => true) [(some "publish_strategy", c.strategy.toJson),
      (some "instrument", .bool c.instrument)] := by
    refine ⟨by simp, ?_⟩
    simp [fields]
  exact ofJson?_of_holds hall

end Config

namespace Catalog.Config

/-- The fields of a configuration, by their names. -/
def fields (c : Config) : List (String × Json) :=
  [("max_name_len", .ofNat c.maxNameLength.toNat), ("publish_strategy", c.strategy.toJson)]

theorem faithful_toJson (c : Config) : Faithful c.toJson :=
  .object (List.forall_mem_cons.mpr
    ⟨Json.faithful_ofNat _, List.forall_mem_singleton.mpr (.text _)⟩)

theorem natural?_ofNat (n : UInt64) : (Json.ofNat n.toNat).natural? = some n.toNat := by
  have hlt : n.toNat < UInt64.size := n.toNat_lt
  simp [Json.ofNat, Json.natural?, Decimal.Numeral.ofNat, Decimal.ofDigits_digits, hlt]

theorem ofJson?_of_holds {c : Config} {keep : String → Bool} {members : List (Json.Text × Json)}
    (h : Holds c.fields keep members) :
    ofJson? (.object members) = some {
      maxNameLength :=
        if keep "max_name_len" then c.maxNameLength else ({} : Config).maxNameLength
      strategy := if keep "publish_strategy" then c.strategy else ({} : Config).strategy } := by
  have hfields := h.fields?_eq
  simp only [fields, List.map_cons, List.map_nil] at hfields
  rw [ofJson?, hfields]
  cases keep "max_name_len" <;> cases keep "publish_strategy" <;>
    simp [Json.orDefault, PublishStrategy.ofJson?_toJson, natural?_ofNat]

theorem ofJson?_toJson (c : Config) : ofJson? c.toJson = some c := by
  have hall : Holds c.fields (fun _ => true) [(some "max_name_len", .ofNat c.maxNameLength.toNat),
      (some "publish_strategy", c.strategy.toJson)] := by
    refine ⟨by simp, ?_⟩
    simp [fields]
  exact ofJson?_of_holds hall

end Catalog.Config

/-- Reading undoes writing, for field errors and both configurations. Of a
configuration any part of the fields will do, in any document that holds them:
the fields that are missing are read as their defaults. -/
theorem Json.records_decode :
    (∀ e : FieldError, (read? e.toJson.print).bind FieldError.ofJson? = some e) ∧
      (∀ c : Config, (read? c.toJson.print).bind Config.ofJson? = some c) ∧
      (∀ c : Catalog.Config, (read? c.toJson.print).bind Catalog.Config.ofJson? = some c) ∧
      (∀ (c : Config) (keep : String → Bool) (members : List (Text × Json)) (text : String),
        Holds c.fields keep members → Document text (.object members) →
        (read? text).bind Config.ofJson? = some {
          strategy := if keep "publish_strategy" then c.strategy else ({} : Config).strategy
          instrument := if keep "instrument" then c.instrument else ({} : Config).instrument }) ∧
      ∀ (c : Catalog.Config) (keep : String → Bool) (members : List (Text × Json)) (text : String),
        Holds c.fields keep members → Document text (.object members) →
        (read? text).bind Catalog.Config.ofJson? = some {
          maxNameLength :=
            if keep "max_name_len" then c.maxNameLength else ({} : Catalog.Config).maxNameLength
          strategy :=
            if keep "publish_strategy" then c.strategy else ({} : Catalog.Config).strategy } := by
  refine ⟨fun e => decode_print e.faithful_toJson e.ofJson?_toJson,
    fun c => decode_print c.faithful_toJson c.ofJson?_toJson,
    fun c => decode_print c.faithful_toJson c.ofJson?_toJson,
    fun c keep members text h hdocument => ?_, fun c keep members text h hdocument => ?_⟩
  · rw [read?_eq_some_iff.mpr hdocument, Option.bind_some]
    exact Config.ofJson?_of_holds h
  · rw [read?_eq_some_iff.mpr hdocument, Option.bind_some]
    exact Catalog.Config.ofJson?_of_holds h

/-- Both fields of one configuration in the other order, among members of another name,
and one of the two fields of the other. -/
theorem Json.part_of_configuration_decoded :
    (read? ("\x7b\"x\":[null,\x7b\x7d],\"publish_strategy\":\"continue_on_error\"," ++
        "\"x\":7,\"max_name_len\":8\x7d")).bind Catalog.Config.ofJson? =
        some { maxNameLength := 8, strategy := .continueOnError } ∧
      (read? "\x7b\"max_name_len\":8,\"instrument\":false\x7d").bind Config.ofJson? =
        some { strategy := .stopOnFirstError, instrument := false } := by
  constructor
  · let members : List (String × Json) := [("x", .array [.null, .ofMembers []]),
      ("publish_strategy", .ofText "continue_on_error"), ("x", .ofNat 7), ("max_name_len", .ofNat 8)]
    have hfaithful : Faithful (ofMembers members) := by
      refine .object (List.forall_mem_cons.mpr ⟨.array ?_, List.forall_mem_cons.mpr
        ⟨.text _, List.forall_mem_cons.mpr ⟨faithful_ofNat 7,
          List.forall_mem_singleton.mpr (faithful_ofNat 8)⟩⟩⟩)
      exact List.forall_mem_cons.mpr ⟨.null, List.forall_mem_singleton.mpr
        (.object (List.forall_mem_nil _))⟩
    have hholds : Holds (Catalog.Config.fields ⟨8, .continueOnError⟩) (fun _ => true)
        (members.map fun m => (some m.1, m.2)) := by
      refine ⟨by simp [members], ?_⟩
      simp [Catalog.Config.fields, members, PublishStrategy.toJson, PublishStrategy.name]
    have htext : (ofMembers members).print =
        "\x7b\"x\":[null,\x7b\x7d],\"publish_strategy\":\"continue_on_error\"," ++
          "\"x\":7,\"max_name_len\":8\x7d" := by
      decide +kernel
    rw [← htext]
    exact records_decode.2.2.2.2 _ _ _ _ hholds (document_print hfaithful)
  · let members : List (String × Json) := [("max_name_len", .ofNat 8), ("instrument", .bool false)]
    have hfaithful : Faithful (ofMembers members) :=
      .object (List.forall_mem_cons.mpr ⟨faithful_ofNat 8, List.forall_mem_singleton.mpr (.bool _)⟩)
    have hholds : Holds (Config.fields ⟨.continueOnError, false⟩) (· = "instrument")
        (members.map fun m => (some m.1, m.2)) := by
      refine ⟨by simp [members], ?_⟩
      simp [Config.fields, members]
    have htext : (ofMembers members).print =
        "\x7b\"max_name_len\":8,\"instrument\":false\x7d" := by
      decide +kernel
    rw [← htext]
    exact records_decode.2.2.2.1 _ _ _ _ hholds (document_print hfaithful)

/-- The strategy spelled with an escape, with blanks around the tokens. The
literal of the last member has no text, which is all right where nobody wants it. -/
example : (Json.read? ("\x7b \"x\" : [1, \x7b\"y\": -2.5e+3\x7d], " ++
      "\"publish_strategy\":\"continue_on\\u005ferror\", \"x\":\"\\ud800\" \x7d")).bind
      Catalog.Config.ofJson? = some ({ strategy := .continueOnError } : Catalog.Config) := by
  decide +kernel

end Switchboard
