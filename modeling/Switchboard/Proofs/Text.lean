import Mathlib.Data.List.DropRight
import Switchboard.Decimal.Digits
import Switchboard.Text.Blank
import Switchboard.Text.Quoted

/-!
# Trimmed and quoted texts

Two functions on texts, said without how they go about it. Trimming takes blanks off
both ends and nothing else, until neither end is blank (`Text.trim_spec`); so a text
that has none there is left as it is (`Text.trim_eq_self_iff`). Quoting puts quotes
around a text of plain characters and does no more to it (`Text.quote_of_plain`).
-/

namespace Switchboard

namespace Text

/-! ## Trimming -/

/-- The code points with the property `White_Space`. -/
def whiteSpace : List Nat :=
  [0x9, 0xA, 0xB, 0xC, 0xD, 0x20, 0x85, 0xA0, 0x1680, 0x2000, 0x2001, 0x2002, 0x2003, 0x2004,
    0x2005, 0x2006, 0x2007, 0x2008, 0x2009, 0x200A, 0x2028, 0x2029, 0x202F, 0x205F, 0x3000]

theorem isBlank_iff {c : Char} : isBlank c = true ↔ c.toNat ∈ whiteSpace := by
  simp only [isBlank, whiteSpace, List.mem_cons, List.not_mem_nil, or_false, Bool.or_eq_true,
    Bool.and_eq_true, decide_eq_true_eq, beq_iff_eq]
  omega

/-- Neither the first of the characters nor the last is blank. -/
structure Bare (cs : List Char) : Prop where
  first : ∀ c ∈ cs.head?, c.toNat ∉ whiteSpace
  last : ∀ c ∈ cs.getLast?, c.toNat ∉ whiteSpace

theorem bare_trimChars (cs : List Char) : Bare (trimChars cs) where
  first := by
    intro c hc hblank
    -- what is left starts with the character that the blanks in front were dropped up to
    have hprefix : trimChars cs <+: cs.dropWhile isBlank := List.rdropWhile_prefix _ _
    obtain ⟨rest, hrest⟩ := List.head?_eq_some_iff.mp hc
    obtain ⟨tail, htail⟩ := hprefix
    have hhead := List.head?_dropWhile_not isBlank cs
    rw [← htail, hrest] at hhead
    have hnot : isBlank c = false := by simpa using hhead
    exact absurd (isBlank_iff.mpr hblank) (by rw [hnot]; decide)
  last := by
    intro c hc hblank
    have hne : trimChars cs ≠ [] := by
      intro hnil
      rw [hnil] at hc
      cases hc
    have hlast : (trimChars cs).getLast hne = c :=
      Option.some.inj ((List.getLast?_eq_getLast_of_ne_nil hne).symm.trans hc)
    have hnot : ¬ isBlank ((trimChars cs).getLast hne) = true :=
      List.rdropWhile_last_not isBlank (cs.dropWhile isBlank) hne
    rw [hlast] at hnot
    exact hnot (isBlank_iff.mpr hblank)

theorem trimChars_eq_self {cs : List Char} (h : Bare cs) : trimChars cs = cs := by
  have hfirst : cs.dropWhile isBlank = cs := by
    cases cs with
    | nil => rfl
    | cons c rest => exact List.dropWhile_cons_of_neg (mt isBlank_iff.mp (h.first c rfl))
  show (cs.dropWhile isBlank).rdropWhile isBlank = cs
  rw [hfirst, List.rdropWhile_eq_self_iff]
  exact fun hne hblank => h.last _ (List.getLast?_eq_getLast_of_ne_nil hne) (isBlank_iff.mp hblank)

/-- What trimming takes off is blank and stood at the ends, and what is left has no
blanks at its own. -/
theorem trim_spec (s : String) :
    Bare (trim s).toList ∧ ∃ front back, s.toList = front ++ (trim s).toList ++ back ∧
      ∀ c ∈ front ++ back, c.toNat ∈ whiteSpace := by
  rw [trim, String.toList_ofList]
  refine ⟨bare_trimChars _, s.toList.takeWhile isBlank,
    (s.toList.dropWhile isBlank).rtakeWhile isBlank, ?_, ?_⟩
  · show _ = _ ++ (s.toList.dropWhile isBlank).rdropWhile isBlank ++ _
    rw [List.append_assoc, List.rdropWhile_append_rtakeWhile, List.takeWhile_append_dropWhile]
  · intro c hc
    rcases List.mem_append.mp hc with hc | hc
    · exact isBlank_iff.mp (List.mem_takeWhile_imp hc)
    · exact isBlank_iff.mp (List.mem_rtakeWhile_imp hc)

theorem trim_eq_self_iff {s : String} : trim s = s ↔ Bare s.toList := by
  constructor
  · intro h
    rw [← h]
    exact (trim_spec s).1
  · intro h
    rw [trim, trimChars_eq_self h, String.ofList_toList]

theorem trim_trim (s : String) : trim (trim s) = trim s :=
  trim_eq_self_iff.mpr (trim_spec s).1

/-! ## Quoting -/

/-- A printable character of ASCII that needs no escape between quotes. -/
def Plain (c : Char) : Prop :=
  (32 ≤ c.toNat ∧ c.toNat ≤ 126) ∧ c ≠ '"' ∧ c ≠ '\\'

instance (c : Char) : Decidable (Plain c) :=
  inferInstanceAs (Decidable (_ ∧ _))

theorem isPrintable_of_ascii {c : Char} (h : 32 ≤ c.toNat ∧ c.toNat ≤ 126) :
    isPrintable c = true := by
  by_cases hspace : c = ' '
  · simp [isPrintable, hspace]
  · have hruns : (unprintableRuns.all fun run => decide (126 < run.1 ∨ run.2 ≤ 32)) = true := by
      decide +kernel
    have hne : c.toNat ≠ 32 := fun heq => hspace (Char.toNat_inj.mp (heq.trans rfl))
    have hnone : (unprintableRuns.any fun run => run.1 ≤ c.toNat && c.toNat ≤ run.2) = false := by
      refine List.any_eq_false.mpr fun run hrun => ?_
      have hbeside := of_decide_eq_true (List.all_eq_true.mp hruns run hrun)
      simp only [Bool.and_eq_true, decide_eq_true_eq]
      omega
    rw [isPrintable, hnone]
    exact Bool.or_true _

theorem quoteChar_of_plain {c : Char} (h : Plain c) : quoteChar c = [c] := by
  obtain ⟨hascii, hquote, hslash⟩ := h
  have hcontrol {d : Char} (hd : d.toNat < 32) : c ≠ d := by
    rintro rfl
    omega
  rw [quoteChar, if_neg hquote, if_neg hslash, if_neg (hcontrol (by decide)),
    if_neg (hcontrol (by decide)), if_neg (hcontrol (by decide)), if_neg (hcontrol (by decide)),
    if_pos (isPrintable_of_ascii hascii)]

/-- A text of such characters. -/
def PlainText (s : String) : Prop :=
  ∀ c ∈ s.toList, Plain c

instance (s : String) : Decidable (PlainText s) :=
  List.decidableBAll Plain s.toList

theorem PlainText.append {s t : String} (hs : PlainText s) (ht : PlainText t) :
    PlainText (s ++ t) := by
  intro c hc
  rw [String.toList_append] at hc
  exact (List.mem_append.mp hc).elim (hs c) (ht c)

theorem quote_of_plain {s : String} (h : PlainText s) : quote s = "\"" ++ s ++ "\"" := by
  have hchars : s.toList.flatMap quoteChar = s.toList := by
    rw [List.flatMap_congr fun c hc => quoteChar_of_plain (h c hc)]
    exact List.flatMap_singleton' _
  rw [quote, hchars, ← String.toList_inj]
  simp

end Text

theorem Decimal.plainText_format (n : Nat) : Text.PlainText (format n) := by
  have hdigit : ∀ d < 10, Text.Plain (digitChar d) := by decide
  intro c hc
  rw [format, String.toList_ofList] at hc
  obtain ⟨d, hd, rfl⟩ := List.mem_map.mp hc
  exact hdigit d (digits_lt_ten n d hd)

end Switchboard
