import Switchboard.Json.Printer
import Switchboard.Proofs.Json.Reading

/-!
# Printing and reading back

`read?_print`: what is printed is read back, for every value that has a printed
form of its own (`Faithful`). The printed form of such a value is one of the
spellings that the grammar allows (`value_chars`), and the reader knows them
all.
-/

namespace Switchboard

/-! ## Digits -/

theorem Decimal.digits_no_leading_zero (n : Nat) :
    (digits n).head? = some 0 → digits n = [0] := by
  fun_induction digits n with
  | case1 n _ =>
      intro h
      rw [Option.some.inj h]
  | case2 n hn ih =>
      intro h
      have hhead : (digits (n / 10)).head? = some 0 := by
        obtain ⟨d, ds, hds⟩ := List.exists_cons_of_ne_nil (digits_ne_nil (n / 10))
        rw [← h, hds]
        rfl
      have hzero := ofDigits_digits (n / 10)
      rw [ih hhead] at hzero
      have hzero : n / 10 = 0 := hzero.symm
      omega

namespace Json

/-! ## Numbers -/

theorem digits_format (n : Nat) : Digits (Decimal.format n).toList (Decimal.digits n) := by
  rw [Decimal.format, String.toList_ofList]
  exact ⟨rfl, Decimal.digits_lt_ten n⟩

theorem exponent_chars (e : Int) : Exponent (Decimal.exponentChars .always e) (some e) := by
  have hne := Decimal.digits_ne_nil e.natAbs
  unfold Decimal.exponentChars Decimal.formatInt
  by_cases he : e < 0
  · have hdown := Exponent.down (show 'e' ∈ ['e', 'E'] by decide) (digits_format e.natAbs) hne
    rw [Decimal.ofDigits_digits, show -(e.natAbs : Int) = e by omega] at hdown
    simp only [he, if_true, String.toList_append]
    exact hdown
  · have hup := Exponent.up (show 'e' ∈ ['e', 'E'] by decide)
      (show ['+'] ∈ [[], ['+']] by decide) (digits_format e.natAbs) hne
    rw [Decimal.ofDigits_digits, show (e.natAbs : Int) = e by omega] at hup
    simp only [he, if_false]
    exact hup

/-- A numeral that can be written in JSON. -/
structure Writable (x : Decimal.Numeral) : Prop where
  digits : ∀ d ∈ x.whole, d < 10
  nonempty : x.whole ≠ []
  noLeadingZero : x.whole.head? = some 0 → x.whole = [0]
  fraction : ∀ d ∈ x.fraction, d < 10

theorem writable_ofNat (n : Nat) : Writable (.ofNat n) where
  digits := Decimal.digits_lt_ten n
  nonempty := Decimal.digits_ne_nil n
  noLeadingZero := Decimal.digits_no_leading_zero n
  fraction := List.forall_mem_nil _

theorem number_chars {x : Decimal.Numeral} (h : Writable x) : Number (x.chars .always) x := by
  obtain ⟨negative, ds, fs, e⟩ := x
  have hwhole : Whole (ds.map Decimal.digitChar) ds :=
    ⟨⟨rfl, h.digits⟩, h.nonempty, h.noLeadingZero⟩
  have hfraction : Fraction (if fs.isEmpty then [] else '.' :: fs.map Decimal.digitChar) fs := by
    cases fs with
    | nil => exact .none
    | cons d fs => exact .digits ⟨rfl, h.fraction⟩ (List.cons_ne_nil _ _)
  have hnumber {exponent : List Char} {e : Option Int} (he : Exponent exponent e) :=
    @Number.mk negative _ _ _ _ _ _ hwhole hfraction he
  simp only [← List.append_assoc] at hnumber
  cases e with
  | none => exact hnumber .none
  | some e => exact hnumber (exponent_chars e)

/-! ## Strings -/

theorem hex_hexDigit {n : Nat} (h : n < 16) : Hex (hexDigit n) n := by
  unfold hexDigit
  split
  · exact .digit ‹_›
  · exact .lower (by omega) h

/-- A control character as it is written where there is no letter for it. -/
theorem spelling_control {c : Char} (h : c.toNat < 0x20) :
    Spelling ['\\', 'u', '0', '0', hexDigit (c.toNat / 16), hexDigit (c.toNat % 16)] (.char c) := by
  have hzero : Hex '0' 0 := Hex.digit (n := 0) (by decide)
  have hspelling := Spelling.unicode hzero hzero (hex_hexDigit (n := c.toNat / 16) (by omega))
    (hex_hexDigit (n := c.toNat % 16) (by omega))
  have hcode : ((0 * 16 + 0) * 16 + c.toNat / 16) * 16 + c.toNat % 16 = c.toNat := by omega
  rw [hcode, Piece.ofUnit, if_neg (by omega), Char.ofNat_toNat] at hspelling
  exact hspelling

theorem spelling_escapeChar (c : Char) : Spelling (escapeChar c) (.char c) := by
  unfold escapeChar
  by_cases hquote : c = '"'
  · subst hquote
    exact .letter (by decide)
  by_cases hbackslash : c = '\\'
  · subst hbackslash
    exact .letter (by decide)
  simp only [hquote, hbackslash, if_false]
  -- the five control characters that have a letter
  iterate 5
    split
    · rename_i hc
      subst hc
      exact .letter (by decide)
  split
  · exact spelling_control ‹_›
  · exact .raw hquote hbackslash (Nat.not_lt.mp ‹_›)

theorem pieces_escaped (cs : List Char) : Pieces (cs.flatMap escapeChar) (cs.map .char) := by
  induction cs with
  | nil => exact .nil
  | cons c cs ih => exact .cons (spelling_escapeChar c) ih

theorem joinPieces_chars (cs : List Char) : joinPieces (cs.map .char) = some cs := by
  induction cs with
  | nil => rfl
  | cons c cs ih => rw [List.map_cons, joinPieces, ih, Option.map_some]

theorem literal_printText (s : String) : Literal (printText (some s)) (some s) := by
  have hliteral := Literal.mk (pieces_escaped s.toList)
  rw [joinPieces_chars, Option.map_some, String.ofList_toList] at hliteral
  exact hliteral

/-! ## Values -/

/-- A value that has a printed form of its own: its texts are texts, and its
numerals can be written. -/
inductive Faithful : Json → Prop
  | null : Faithful .null
  | bool (b : Bool) : Faithful (.bool b)
  | number {x : Decimal.Numeral} (h : Writable x) : Faithful (.number x)
  | text (s : String) : Faithful (.ofText s)
  | array {items : List Json} (h : ∀ item ∈ items, Faithful item) : Faithful (.array items)
  | object {members : List (String × Json)} (h : ∀ m ∈ members, Faithful m.2) :
      Faithful (.ofMembers members)

theorem faithful_ofNat (n : Nat) : Faithful (.ofNat n) := .number (writable_ofNat n)

theorem separated_itemsChars {item : Json} {items : List Json}
    (h : ∀ i ∈ item :: items, Value i.chars i) :
    ∃ cs, item.chars ++ itemsChars items = cs ++ [']'] ∧ Separated Value cs (item :: items) := by
  obtain ⟨hitem, hitems⟩ := List.forall_mem_cons.mp h
  induction items generalizing item with
  | nil =>
      have hlast := Separated.last hitem Spaces.nil
      rw [List.append_nil] at hlast
      exact ⟨_, rfl, hlast⟩
  | cons next items ih =>
      obtain ⟨hnext, hrest⟩ := List.forall_mem_cons.mp hitems
      obtain ⟨cs, hcs, hseparated⟩ := ih hitems hnext hrest
      refine ⟨_, ?_, .next hitem Spaces.nil Spaces.nil hseparated⟩
      rw [itemsChars, hcs]
      simp

theorem separated_membersChars {m : String × Json} {members : List (String × Json)}
    (h : ∀ m' ∈ m :: members, Value m'.2.chars m'.2) :
    ∃ cs, memberChars (some m.1, m.2) ++ membersChars (members.map fun m => (some m.1, m.2)) =
        cs ++ ['}'] ∧
      Separated (Member Value) cs ((m :: members).map fun m => (some m.1, m.2)) := by
  obtain ⟨hm, hmembers⟩ := List.forall_mem_cons.mp h
  have hmember := Member.mk (literal_printText m.1) Spaces.nil Spaces.nil hm
  induction members generalizing m with
  | nil =>
      have hlast := Separated.last hmember Spaces.nil
      rw [List.append_nil] at hlast
      exact ⟨_, rfl, hlast⟩
  | cons next members ih =>
      obtain ⟨hnext, hrest⟩ := List.forall_mem_cons.mp hmembers
      obtain ⟨cs, hcs, hseparated⟩ := ih hmembers hnext hrest
        (.mk (literal_printText next.1) Spaces.nil Spaces.nil hnext)
      refine ⟨_, ?_, .next hmember Spaces.nil Spaces.nil hseparated⟩
      rw [List.map_cons, membersChars, hcs]
      simp [memberChars]

/-- The printed form is one of the spellings of the value. -/
theorem value_chars {json : Json} (h : Faithful json) : Value json.chars json := by
  induction h with
  | null => exact .null
  | bool b =>
      cases b with
      | true => exact .true
      | false => exact .false
  | number h => exact .number (number_chars h)
  | text s => exact .string (literal_printText s)
  | @array items _ ih =>
      cases items with
      | nil => exact .emptyArray Spaces.nil
      | cons item items =>
          obtain ⟨cs, hcs, hitems⟩ := separated_itemsChars ih
          rw [chars, hcs]
          exact .array Spaces.nil hitems
  | @object members _ ih =>
      cases members with
      | nil => exact .emptyObject Spaces.nil
      | cons m members =>
          obtain ⟨cs, hcs, hmembers⟩ := separated_membersChars ih
          rw [ofMembers, List.map_cons, chars, hcs]
          exact .object Spaces.nil hmembers

theorem document_print {json : Json} (h : Faithful json) : Document json.print json :=
  ⟨[], json.chars, [], by rw [print, String.toList_ofList, List.append_nil]; rfl, Spaces.nil,
    value_chars h, Spaces.nil⟩

/-- What is printed is read back. -/
theorem read?_print {json : Json} (h : Faithful json) : read? json.print = some json :=
  read?_eq_some_iff.mpr (document_print h)

end Json

end Switchboard
