import Mathlib.Data.List.Basic
import Switchboard.Catalog.Handler

/-!
# Reading the audit log back

The audit log is text, but nothing of the ids is lost in it: `replay` goes
through the entries, reads the id out of each and keeps track of which items
are there. `replayEntry_created` and `replayEntry_deleted` say that it reads
the entries of the audit listener as they were meant, whatever the names of
the items are.
-/

namespace Switchboard.Catalog

/-! ## Numbers at the start of a text -/

def leadingDigits : List Char → List Nat
  | [] => []
  | c :: cs => match Decimal.digitValue? c with
    | some d => d :: leadingDigits cs
    | none => []

theorem leadingDigits_append {ds : List Nat} (hds : ∀ d ∈ ds, d < 10) {rest : List Char}
    (hrest : leadingDigits rest = []) :
    leadingDigits (ds.map Decimal.digitChar ++ rest) = ds := by
  induction ds with
  | nil => exact hrest
  | cons d ds ih =>
      have hd := Decimal.digitValue?_digitChar d (hds d List.mem_cons_self)
      simp only [List.map_cons, List.cons_append, leadingDigits, hd]
      rw [ih fun e he => hds e (List.mem_cons_of_mem d he)]

/-- The id that a text starts with. -/
def leadingId (text : List Char) : ItemId :=
  ⟨Decimal.ofDigits (leadingDigits text)⟩

theorem leadingId_format (id : ItemId) {rest : List Char} (hrest : leadingDigits rest = []) :
    leadingId ((Decimal.format id.value).toList ++ rest) = id := by
  rw [leadingId, Decimal.format, String.toList_ofList,
    leadingDigits_append (Decimal.digits_lt_ten id.value) hrest, Decimal.ofDigits_digits]

/-! ## Replaying -/

/-- The items that are there after one more entry. -/
def replayEntry (live : List ItemId) (entry : String) : List ItemId :=
  match entry.toList.dropPrefix? "created item_".toList with
  | some rest => live ++ [leadingId rest]
  | none => match entry.toList.dropPrefix? "deleted item_".toList with
    | some rest => live.filter (· ≠ leadingId rest)
    | none => live

def replay (audit : List String) : List ItemId :=
  audit.foldl replayEntry []

theorem replay_append_singleton (audit : List String) (entry : String) :
    replay (audit ++ [entry]) = replayEntry (replay audit) entry := by
  rw [replay, List.foldl_append]
  rfl

theorem dropPrefix?_append (word rest : List Char) : (word ++ rest).dropPrefix? word = some rest :=
  List.dropPrefix?_append_of_beq rest BEq.rfl

def createdLine (id : ItemId) (name : String) : String :=
  "created " ++ id.format ++ " '" ++ name ++ "'"

def deletedLine (id : ItemId) : String :=
  "deleted " ++ id.format

theorem replayEntry_created (live : List ItemId) (id : ItemId) (name : String) :
    replayEntry live (createdLine id name) = live ++ [id] := by
  have htext : (createdLine id name).toList = "created item_".toList ++
      ((Decimal.format id.value).toList ++ (" '".toList ++ (name.toList ++ "'".toList))) := by
    simp [createdLine, ItemId.format]
  rw [replayEntry, htext, dropPrefix?_append]
  show live ++ [leadingId _] = live ++ [id]
  rw [leadingId_format id rfl]

theorem replayEntry_deleted (live : List ItemId) (id : ItemId) :
    replayEntry live (deletedLine id) = live.filter (· ≠ id) := by
  have htext : (deletedLine id).toList =
      "deleted item_".toList ++ ((Decimal.format id.value).toList ++ []) := by
    simp [deletedLine, ItemId.format]
  have hcreated (rest : List Char) :
      ("deleted item_".toList ++ rest).dropPrefix? "created item_".toList = none := rfl
  rw [replayEntry, htext, hcreated, dropPrefix?_append]
  show live.filter (· ≠ leadingId _) = live.filter (· ≠ id)
  rw [leadingId_format id rfl]

end Switchboard.Catalog
