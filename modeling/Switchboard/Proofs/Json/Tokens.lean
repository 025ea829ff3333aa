import Switchboard.Proofs.Json.Grammar

/-!
# Reading tokens

The readers of numbers and of string literals against the grammar. Each has two
lemmas: `…_append` says that it reads what the grammar allows and stops behind
it, `…_sound` that what it reads is allowed.

Where a token has no closing character of its own, the first lemma asks what
comes next: a digit would belong to the digits before it (`NoDigit`), and a
number is complete before `endings` only (`Ends`).
-/

namespace Switchboard.Json

/-! ## Blanks -/

theorem isSpace_iff {c : Char} : isSpace c = true ↔ c ∈ [' ', '\n', '\t', '\r'] := by
  simp [isSpace, or_assoc]

theorem Spaces.nil : Spaces [] := List.forall_mem_nil _

theorem skipSpace_append {s : List Char} (hs : Spaces s) (cs : List Char) :
    skipSpace (s ++ cs) = skipSpace cs := by
  induction s with
  | nil => rfl
  | cons c s ih =>
      obtain ⟨hc, hs⟩ := List.forall_mem_cons.mp hs
      rw [List.cons_append, skipSpace, List.dropWhile_cons_of_pos (isSpace_iff.mpr hc)]
      exact ih hs

theorem skipSpace_cons {c : Char} (hc : isSpace c = false) (cs : List Char) :
    skipSpace (c :: cs) = c :: cs :=
  List.dropWhile_cons_of_neg (Bool.eq_false_iff.mp hc)

theorem skipSpace_sound (cs : List Char) : ∃ s, cs = s ++ skipSpace cs ∧ Spaces s := by
  refine ⟨cs.takeWhile isSpace, List.takeWhile_append_dropWhile.symm, fun c hc => ?_⟩
  exact isSpace_iff.mp (List.all_eq_true.mp List.all_takeWhile c hc)

/-! ## Numbers -/

/-- A text that does not go on with a decimal digit. -/
def NoDigit (cs : List Char) : Prop :=
  ∀ c ∈ cs.head?, Decimal.digitValue? c = none

theorem takeDigits_of_noDigit {rest : List Char} (h : NoDigit rest) :
    takeDigits rest = ([], rest) := by
  cases rest with
  | nil => rfl
  | cons c rest => rw [takeDigits, h c rfl]

theorem takeDigits_append {cs : List Char} {ds : List Nat} (h : Digits cs ds) {rest : List Char}
    (hrest : NoDigit rest) : takeDigits (cs ++ rest) = (ds, rest) := by
  obtain ⟨rfl, hds⟩ := h
  induction ds with
  | nil => exact takeDigits_of_noDigit hrest
  | cons d ds ih =>
      obtain ⟨hd, hds⟩ := List.forall_mem_cons.mp hds
      rw [List.map_cons, List.cons_append, takeDigits, Decimal.digitValue?_digitChar d hd]
      simp only [ih hds]

theorem takeDigits_sound {cs rest : List Char} {ds : List Nat} (h : takeDigits cs = (ds, rest)) :
    ∃ digits, cs = digits ++ rest ∧ Digits digits ds := by
  induction cs generalizing ds with
  | nil =>
      cases h
      exact ⟨[], rfl, rfl, List.forall_mem_nil _⟩
  | cons c cs ih =>
      rw [takeDigits] at h
      cases hc : Decimal.digitValue? c with
      | none =>
          rw [hc] at h
          cases h
          exact ⟨[], rfl, rfl, List.forall_mem_nil _⟩
      | some d =>
          obtain ⟨hd, rfl⟩ := Decimal.digitChar_of_digitValue? hc
          rw [hc] at h
          rcases htake : takeDigits cs with ⟨ds', rest'⟩
          rw [htake] at h
          cases h
          obtain ⟨digits, rfl, rfl, hds⟩ := ih htake
          exact ⟨_, rfl, rfl, List.forall_mem_cons.mpr ⟨hd, hds⟩⟩

/-- What can stand behind a number. -/
def endings : List Char :=
  [' ', '\n', '\t', '\r', ',', ']', '}']

/-- A text before which a number is complete. -/
def Ends (cs : List Char) : Prop :=
  ∀ c ∈ cs.head?, c ∈ endings

theorem Ends.noDigit {cs : List Char} (h : Ends cs) : NoDigit cs := by
  have hall : ∀ c ∈ endings, Decimal.digitValue? c = none := forall_mem_of_all (by decide)
  exact fun c hc => hall c (h c hc)

/-- What can stand behind the digits of a number that has no fraction. -/
theorem head_exponent {cs rest : List Char} {e : Option Int} (h : Exponent cs e)
    (hrest : Ends rest) : ∀ c ∈ (cs ++ rest).head?, c ∈ 'e' :: 'E' :: endings := by
  cases h with
  | none => exact fun c hc => List.mem_cons_of_mem _ (List.mem_cons_of_mem _ (hrest c hc))
  | up he | down he =>
      rintro _ ⟨⟩
      exact List.mem_append_left endings he

theorem noDigit_exponent {cs rest : List Char} {e : Option Int} (h : Exponent cs e)
    (hrest : Ends rest) : NoDigit (cs ++ rest) := by
  have hall : ∀ c ∈ 'e' :: 'E' :: endings, Decimal.digitValue? c = none :=
    forall_mem_of_all (by decide)
  exact fun c hc => hall c (head_exponent h hrest c hc)

theorem noDigit_fraction {cs rest : List Char} {ds : List Nat} (h : Fraction cs ds)
    (hrest : NoDigit rest) : NoDigit (cs ++ rest) := by
  cases h with
  | none => exact hrest
  | digits =>
      rintro _ ⟨⟩
      decide

theorem readWhole_append {cs : List Char} {ds : List Nat} (h : Whole cs ds) {rest : List Char}
    (hrest : NoDigit rest) : readWhole (cs ++ rest) = some (ds, rest) := by
  obtain ⟨hdigits, hne, hzero⟩ := h
  rw [readWhole, takeDigits_append hdigits hrest]
  match ds, hne with
  | [d], _ => cases d <;> rfl
  | 0 :: d :: ds, _ => cases hzero rfl
  | (n + 1) :: d :: ds, _ => rfl

theorem readWhole_sound {cs rest : List Char} {ds : List Nat}
    (h : readWhole cs = some (ds, rest)) : ∃ whole, cs = whole ++ rest ∧ Whole whole ds := by
  unfold readWhole at h
  split at h
  · cases h
  · cases h
  · rename_i ds' rest' hne hzero htake
    cases h
    obtain ⟨whole, rfl, hdigits⟩ := takeDigits_sound htake
    refine ⟨whole, rfl, hdigits, hne, fun hhead => ?_⟩
    match ds, hhead with
    | [0], _ => rfl
    | 0 :: d :: ds, _ => exact (hzero d ds rfl).elim

theorem readFraction_append {cs : List Char} {ds : List Nat} (h : Fraction cs ds)
    {rest : List Char} (hrest : NoDigit rest) (hpoint : rest.head? ≠ some '.') :
    readFraction (cs ++ rest) = some (ds, rest) := by
  cases h with
  | none =>
      rw [List.nil_append, readFraction]
      rintro cs rfl
      exact hpoint rfl
  | digits hdigits hne =>
      obtain ⟨d, ds, rfl⟩ := List.exists_cons_of_ne_nil hne
      rw [List.cons_append, readFraction, takeDigits_append hdigits hrest]

theorem readFraction_sound {cs rest : List Char} {ds : List Nat}
    (h : readFraction cs = some (ds, rest)) :
    ∃ fraction, cs = fraction ++ rest ∧ Fraction fraction ds := by
  unfold readFraction at h
  split at h
  · split at h
    · cases h
    · rename_i hne htake
      cases h
      obtain ⟨digits, rfl, hdigits⟩ := takeDigits_sound htake
      exact ⟨'.' :: digits, rfl, .digits hdigits hne⟩
  · cases h
    exact ⟨[], rfl, .none⟩

theorem exponentDigits_append {cs : List Char} {ds : List Nat} (h : Digits cs ds) (hne : ds ≠ [])
    {rest : List Char} (hrest : NoDigit rest) (negative : Bool) :
    exponentDigits negative (cs ++ rest) = some (some
      (if negative then -(Decimal.ofDigits ds : Int) else Decimal.ofDigits ds), rest) := by
  obtain ⟨d, ds, rfl⟩ := List.exists_cons_of_ne_nil hne
  rw [exponentDigits, takeDigits_append h hrest]

theorem exponentDigits_sound {cs rest : List Char} {negative : Bool} {e : Option Int}
    (h : exponentDigits negative cs = some (e, rest)) :
    ∃ digits ds, cs = digits ++ rest ∧ Digits digits ds ∧ ds ≠ [] ∧
      e = some (if negative then -(Decimal.ofDigits ds : Int) else Decimal.ofDigits ds) := by
  unfold exponentDigits at h
  split at h
  · cases h
  · rename_i hne htake
    cases h
    obtain ⟨digits, rfl, hdigits⟩ := takeDigits_sound htake
    exact ⟨digits, _, rfl, hdigits, hne, rfl⟩

theorem readExponent_letter {e : Char} (he : e ∈ ['e', 'E']) (cs : List Char) :
    readExponent (e :: cs) = match cs with
      | '-' :: cs => exponentDigits true cs
      | '+' :: cs => exponentDigits false cs
      | cs => exponentDigits false cs := by
  have hall : ∀ e ∈ ['e', 'E'], (e = 'e' || e = 'E') = true := forall_mem_of_all (by decide)
  exact if_pos (hall e he)

/-- Digits do not begin with a sign. -/
theorem Digits.not_sign {cs : List Char} {ds : List Nat} (h : Digits cs ds) (hne : ds ≠ []) :
    ∃ c rest, cs = c :: rest ∧ c ≠ '-' ∧ c ≠ '+' := by
  have hall : ∀ d < 10, Decimal.digitChar d ≠ '-' ∧ Decimal.digitChar d ≠ '+' := by decide
  obtain ⟨rfl, hds⟩ := h
  match ds, hne with
  | d :: ds, _ => exact ⟨_, _, rfl, hall d (hds d List.mem_cons_self)⟩

theorem readExponent_append {cs : List Char} {e : Option Int} (h : Exponent cs e)
    {rest : List Char} (hrest : Ends rest) : readExponent (cs ++ rest) = some (e, rest) := by
  cases h with
  | none =>
      have hall : ∀ c ∈ endings, (c = 'e' || c = 'E') = false := forall_mem_of_all (by decide)
      cases rest with
      | nil => rfl
      | cons c rest =>
          unfold readExponent
          simp only [List.nil_append, hall c (hrest c rfl), Bool.false_eq_true, if_false]
  | up he hsign hdigits hne =>
      rw [List.cons_append, readExponent_letter he, List.append_assoc]
      rcases List.mem_cons.mp hsign with rfl | hplus
      · obtain ⟨c, cs', rfl, hminus, hplus⟩ := hdigits.not_sign hne
        rw [List.nil_append]
        split
        · rename_i heq
          cases heq
          exact absurd rfl hminus
        · rename_i heq
          cases heq
          exact absurd rfl hplus
        · exact exponentDigits_append hdigits hne hrest.noDigit false
      · obtain rfl := List.mem_singleton.mp hplus
        exact exponentDigits_append hdigits hne hrest.noDigit false
  | down he hdigits hne =>
      rw [List.cons_append, readExponent_letter he, List.cons_append]
      exact exponentDigits_append hdigits hne hrest.noDigit true

theorem readExponent_sound {cs rest : List Char} {e : Option Int}
    (h : readExponent cs = some (e, rest)) :
    ∃ exponent, cs = exponent ++ rest ∧ Exponent exponent e := by
  cases cs with
  | nil =>
      cases h
      exact ⟨[], rfl, .none⟩
  | cons c cs =>
      by_cases hc : c ∈ ['e', 'E']
      · rw [readExponent_letter hc] at h
        split at h
        · obtain ⟨digits, ds, rfl, hdigits, hne, rfl⟩ := exponentDigits_sound h
          exact ⟨c :: '-' :: digits, rfl, .down hc hdigits hne⟩
        · obtain ⟨digits, ds, rfl, hdigits, hne, rfl⟩ := exponentDigits_sound h
          exact ⟨c :: '+' :: digits, rfl,
            .up hc (List.mem_cons_of_mem _ List.mem_cons_self) hdigits hne⟩
        · obtain ⟨digits, ds, rfl, hdigits, hne, rfl⟩ := exponentDigits_sound h
          exact ⟨c :: digits, rfl, .up hc List.mem_cons_self hdigits hne⟩
      · have hno : (c = 'e' || c = 'E') = false := by simpa using hc
        unfold readExponent at h
        simp only [hno, Bool.false_eq_true, if_false] at h
        cases h
        exact ⟨[], rfl, .none⟩

theorem readUnsigned_append {whole fraction exponent : List Char} {ds fs : List Nat}
    {e : Option Int} (hwhole : Whole whole ds) (hfraction : Fraction fraction fs)
    (hexponent : Exponent exponent e) {rest : List Char} (hrest : Ends rest) (negative : Bool) :
    readUnsigned negative (whole ++ (fraction ++ (exponent ++ rest))) =
      some (⟨negative, ds, fs, e⟩, rest) := by
  have hnoDigit := noDigit_exponent hexponent hrest
  have hpoint : (exponent ++ rest).head? ≠ some '.' := fun h =>
    absurd (head_exponent hexponent hrest '.' h) (by decide)
  simp only [readUnsigned, readWhole_append hwhole (noDigit_fraction hfraction hnoDigit),
    readFraction_append hfraction hnoDigit hpoint, readExponent_append hexponent hrest,
    Option.bind_eq_bind, Option.bind_some, Option.pure_def]

theorem readUnsigned_sound {cs rest : List Char} {negative : Bool} {x : Decimal.Numeral}
    (h : readUnsigned negative cs = some (x, rest)) :
    ∃ text, cs = text ++ rest ∧ Number ((if negative then ['-'] else []) ++ text) x := by
  simp only [readUnsigned, Option.bind_eq_bind, Option.bind_eq_some_iff, Option.pure_def,
    Prod.exists] at h
  obtain ⟨ds, cs₁, hwhole, fs, cs₂, hfraction, e, cs₃, hexponent, hx⟩ := h
  cases hx
  obtain ⟨whole, rfl, hds⟩ := readWhole_sound hwhole
  obtain ⟨fraction, rfl, hfs⟩ := readFraction_sound hfraction
  obtain ⟨exponent, rfl, he⟩ := readExponent_sound hexponent
  refine ⟨whole ++ (fraction ++ exponent), ?_, .mk hds hfs he⟩
  rw [List.append_assoc, List.append_assoc]

theorem readNumber_append {cs : List Char} {x : Decimal.Numeral} (h : Number cs x)
    {rest : List Char} (hrest : Ends rest) : readNumber (cs ++ rest) = some (x, rest) := by
  cases h with
  | @mk negative whole fraction exponent ds fs e hwhole hfraction hexponent =>
      have hread := readUnsigned_append hwhole hfraction hexponent hrest negative
      simp only [List.append_assoc]
      cases negative with
      | true => exact hread
      | false =>
          -- no digit is taken for a sign
          obtain ⟨c, cs, rfl, hminus, -⟩ := hwhole.1.not_sign hwhole.2.1
          rw [← hread]
          exact readNumber.eq_2 _ fun _ heq => hminus (List.cons.inj heq).1

theorem readNumber_sound {cs rest : List Char} {x : Decimal.Numeral}
    (h : readNumber cs = some (x, rest)) : ∃ text, cs = text ++ rest ∧ Number text x := by
  unfold readNumber at h
  split at h
  · obtain ⟨text, rfl, hnumber⟩ := readUnsigned_sound h
    exact ⟨'-' :: text, rfl, hnumber⟩
  · exact readUnsigned_sound h

/-! ## Strings -/

theorem hexValue?_of_hex {c : Char} {n : Nat} (h : Hex c n) : hexValue? c = some n := by
  have hdigit : ∀ n < 10, hexValue? (Char.ofNat (48 + n)) = some n := by decide
  have hletter : ∀ n < 16, 10 ≤ n → hexValue? (Char.ofNat (87 + n)) = some n ∧
      hexValue? (Char.ofNat (55 + n)) = some n := by decide
  cases h with
  | digit h => exact hdigit n h
  | lower h h' => exact (hletter n h' h).1
  | upper h h' => exact (hletter n h' h).2

theorem Hex.of_toNat {c : Char} {low n : Nat} (hlow : low ≤ c.toNat) (hn : c.toNat - low = n)
    (h : Hex (Char.ofNat (low + n)) n) : Hex c n := by
  rw [← hn, Nat.add_sub_cancel' hlow, Char.ofNat_toNat, hn] at h
  exact h

theorem hex_of_hexValue? {c : Char} {n : Nat} (h : hexValue? c = some n) : Hex c n := by
  have hle {a b : Char} : a ≤ b ↔ a.toNat ≤ b.toNat := by
    rw [Char.le_def, UInt32.le_iff_toNat_le]
    rfl
  unfold hexValue? at h
  simp only [hle] at h
  split at h
  · rename_i hc
    have hlow : 48 ≤ c.toNat := hc.1
    have hhigh : c.toNat ≤ 57 := hc.2
    exact .of_toNat hlow (Option.some.inj h) (.digit (by cases h; omega))
  · split at h
    · rename_i hc
      have hlow : 97 ≤ c.toNat := hc.1
      have hhigh : c.toNat ≤ 102 := hc.2
      cases h
      exact .of_toNat (by omega) rfl (.lower (by omega) (by omega))
    · split at h
      · rename_i hc
        have hlow : 65 ≤ c.toNat := hc.1
        have hhigh : c.toNat ≤ 70 := hc.2
        cases h
        exact .of_toNat (by omega) rfl (.upper (by omega) (by omega))
      · cases h

theorem hexPiece?_of_hex {a b c d : Char} {k l m n : Nat} (ha : Hex a k) (hb : Hex b l)
    (hc : Hex c m) (hd : Hex d n) :
    hexPiece? a b c d = some (.ofUnit (((k * 16 + l) * 16 + m) * 16 + n)) := by
  simp only [hexPiece?, hexValue?_of_hex ha, hexValue?_of_hex hb, hexValue?_of_hex hc,
    hexValue?_of_hex hd, Option.bind_eq_bind, Option.bind_some, Option.pure_def, Piece.ofUnit]

theorem spelling_of_hexPiece? {a b c d : Char} {p : Piece} (h : hexPiece? a b c d = some p) :
    Spelling ['\\', 'u', a, b, c, d] p := by
  simp only [hexPiece?, Option.bind_eq_bind, Option.bind_eq_some_iff, Option.pure_def] at h
  obtain ⟨k, ha, l, hb, m, hc, n, hd, hp⟩ := h
  cases hp
  exact .unicode (hex_of_hexValue? ha) (hex_of_hexValue? hb) (hex_of_hexValue? hc)
    (hex_of_hexValue? hd)

theorem escaped?_eq_some_iff {l c : Char} : escaped? l = some c ↔ (l, c) ∈ escapes := by
  constructor
  · intro h
    unfold escaped? at h
    split at h
    · rename_i hl
      cases h
      simp only [Bool.or_eq_true, decide_eq_true_eq] at hl
      rcases hl with (rfl | rfl) | rfl <;> decide
    · repeat' split at h
      all_goals cases h
      all_goals
        subst_vars
        decide
  · intro h
    have hall : ∀ e ∈ escapes, escaped? e.1 = some e.2 := forall_mem_of_all (by decide)
    exact hall (l, c) h

/-- Goes on with the rest of a literal after a piece of it. -/
def readAfter (p : Piece) (cs : List Char) : Option (List Piece × List Char) := do
  let (ps, rest) ← readPieces cs
  return (p :: ps, rest)

theorem readPieces_raw {c : Char} (hquote : c ≠ '"') (hbackslash : c ≠ '\\') (cs : List Char) :
    readPieces (c :: cs) = if c.toNat < 0x20 then none else readAfter (.char c) cs := by
  conv => lhs; unfold readPieces
  split
  · rename_i heq
    cases heq
  · rename_i heq
    exact absurd (List.cons.inj heq).1 hquote
  · rename_i heq
    exact absurd (List.cons.inj heq).1 hbackslash
  · rename_i heq
    exact absurd (List.cons.inj heq).1 hbackslash
  · rename_i heq
    cases heq
    simp only [hbackslash, false_or]
    rfl

theorem readPieces_letter {l : Char} (hu : l ≠ 'u') (cs : List Char) :
    readPieces ('\\' :: l :: cs) = (escaped? l).bind fun c => readAfter (.char c) cs := by
  conv => lhs; unfold readPieces
  split
  · rename_i heq
    cases heq
  · rename_i heq
    cases heq
  · rename_i heq
    cases heq
    exact absurd rfl hu
  · rename_i heq
    cases heq
    rfl
  · rename_i hno heq
    cases heq
    exact (hno _ _ rfl rfl).elim

theorem readPieces_unicode (a b c d : Char) (cs : List Char) :
    readPieces ('\\' :: 'u' :: a :: b :: c :: d :: cs) =
      (hexPiece? a b c d).bind fun p => readAfter p cs := rfl

theorem readAfter_eq {p : Piece} {cs rest : List Char} {ps : List Piece}
    (h : readPieces cs = some (ps, rest)) : readAfter p cs = some (p :: ps, rest) := by
  rw [readAfter, h]
  rfl

theorem readAfter_eq_some {p : Piece} {cs rest : List Char} {ps : List Piece}
    (h : readAfter p cs = some (ps, rest)) :
    ∃ ps', readPieces cs = some (ps', rest) ∧ ps = p :: ps' := by
  simp only [readAfter, Option.bind_eq_bind, Option.bind_eq_some_iff, Option.pure_def,
    Prod.exists] at h
  obtain ⟨ps', rest', hread, heq⟩ := h
  cases heq
  exact ⟨ps', hread, rfl⟩

theorem readPieces_append {cs : List Char} {ps : List Piece} (h : Pieces cs ps)
    (rest : List Char) : readPieces (cs ++ '"' :: rest) = some (ps, rest) := by
  have hletters : ∀ e ∈ escapes, e.1 ≠ 'u' := forall_mem_of_all (by decide)
  induction h with
  | nil => rfl
  | @cons cs tail p ps h _ ih =>
      rw [List.append_assoc]
      cases h with
      | @raw c hquote hbackslash hcontrol =>
          rw [List.singleton_append, readPieces_raw hquote hbackslash,
            if_neg (Nat.not_lt.mpr hcontrol), readAfter_eq ih]
      | @letter l c h =>
          rw [List.cons_append, List.singleton_append, readPieces_letter (hletters _ h),
            escaped?_eq_some_iff.mpr h, Option.bind_some, readAfter_eq ih]
      | unicode ha hb hc hd =>
          simp only [List.cons_append, List.nil_append, readPieces_unicode,
            hexPiece?_of_hex ha hb hc hd, Option.bind_some, readAfter_eq ih]

theorem readAfter_sound {s cs rest : List Char} {p : Piece} {ps : List Piece}
    (hs : Spelling s p) (h : readAfter p cs = some (ps, rest))
    (ih : ∀ {rest : List Char} {ps : List Piece}, readPieces cs = some (ps, rest) →
      ∃ text, cs = text ++ '"' :: rest ∧ Pieces text ps) :
    ∃ text, s ++ cs = text ++ '"' :: rest ∧ Pieces text ps := by
  obtain ⟨ps', hread, rfl⟩ := readAfter_eq_some h
  obtain ⟨text, rfl, hpieces⟩ := ih hread
  exact ⟨s ++ text, (List.append_assoc _ _ _).symm, .cons hs hpieces⟩

theorem readPieces_sound {cs rest : List Char} {ps : List Piece}
    (h : readPieces cs = some (ps, rest)) : ∃ text, cs = text ++ '"' :: rest ∧ Pieces text ps := by
  fun_induction readPieces cs generalizing ps rest with
  | case1 => cases h
  | case2 =>
      cases h
      exact ⟨[], rfl, .nil⟩
  | case3 a b c d cs ih =>
      obtain ⟨p, hp, h⟩ := Option.bind_eq_some_iff.mp h
      exact readAfter_sound (spelling_of_hexPiece? hp) h ih
  | case4 l cs hu ih =>
      obtain ⟨c, hc, h⟩ := Option.bind_eq_some_iff.mp h
      exact readAfter_sound (.letter (escaped?_eq_some_iff.mp hc)) h ih
  | case5 => cases h
  | case6 c cs hquote _ _ hraw ih =>
      obtain ⟨hbackslash, hcontrol⟩ := not_or.mp hraw
      exact readAfter_sound (.raw hquote hbackslash (Nat.not_lt.mp hcontrol)) h ih

/-- After the opening quote. -/
theorem readText_append {cs : List Char} {ps : List Piece} (h : Pieces cs ps) (rest : List Char) :
    readText (cs ++ '"' :: rest) = some ((joinPieces ps).map String.ofList, rest) := by
  rw [readText, readPieces_append h]
  rfl

theorem readText_sound {cs rest : List Char} {text : Text}
    (h : readText cs = some (text, rest)) :
    ∃ literal, '"' :: cs = literal ++ rest ∧ Literal literal text := by
  obtain ⟨⟨ps, rest'⟩, hread, heq⟩ := Option.bind_eq_some_iff.mp h
  cases heq
  obtain ⟨cs, rfl, hpieces⟩ := readPieces_sound hread
  exact ⟨'"' :: (cs ++ ['"']), by simp, .mk hpieces⟩

theorem readText_of_literal {cs : List Char} {text : Text} (h : Literal cs text) :
    ∃ body, cs = '"' :: body ∧ ∀ rest, readText (body ++ rest) = some (text, rest) := by
  cases h with
  | @mk cs ps h =>
      refine ⟨cs ++ ['"'], rfl, fun rest => ?_⟩
      rw [List.append_assoc]
      exact readText_append h rest

end Switchboard.Json
