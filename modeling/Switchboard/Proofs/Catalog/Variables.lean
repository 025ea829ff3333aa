import Mathlib.Data.List.Forall2
import Mathlib.Data.List.Induction
import Switchboard.Catalog.Config

/-!
# The variables, read exactly

Which texts are settings, said without the readers: `Decimal.Denotes` is what a text of
decimal digits stands for, `Spelling` which characters stand for those of a strategy word.
`ofLookup_exact` then says which variables make a configuration, and which one, and what
is reported of those that do not.

The digits are read without a bound first and compared with it afterwards, so a number that
is accepted is the one that the text denotes.
-/

namespace Switchboard

/-! ## Decimal texts -/

namespace Decimal

/-- The number that one decimal digit or more denote. -/
inductive Denotes : List Char → Nat → Prop
  | digit {d : Nat} (hd : d < 10) : Denotes [digitChar d] d
  | append {cs : List Char} {n d : Nat} (h : Denotes cs n) (hd : d < 10) :
      Denotes (cs ++ [digitChar d]) (10 * n + d)

theorem mapM_digitValue?_eq_some {cs : List Char} {ds : List Nat} :
    cs.mapM digitValue? = some ds ↔ (∀ d ∈ ds, d < 10) ∧ cs = ds.map digitChar := by
  induction cs generalizing ds with
  | nil => cases ds <;> simp
  | cons c cs ih =>
      simp only [List.mapM_cons, Option.bind_eq_bind, Option.bind_eq_some_iff, Option.pure_def,
        Option.some.injEq]
      constructor
      · rintro ⟨d, hd, rest, hrest, rfl⟩
        obtain ⟨hlt, rfl⟩ := digitChar_of_digitValue? hd
        obtain ⟨hall, rfl⟩ := ih.mp hrest
        exact ⟨List.forall_mem_cons.mpr ⟨hlt, hall⟩, rfl⟩
      · rintro ⟨hall, hcs⟩
        cases ds with
        | nil => cases hcs
        | cons d ds =>
            obtain ⟨hlt, hall⟩ := List.forall_mem_cons.mp hall
            cases hcs
            exact ⟨d, digitValue?_digitChar d hlt, ds, ih.mpr ⟨hall, rfl⟩, rfl⟩

theorem denotes_iff {cs : List Char} {n : Nat} :
    Denotes cs n ↔
      ∃ ds, ds ≠ [] ∧ (∀ d ∈ ds, d < 10) ∧ cs = ds.map digitChar ∧ n = ofDigits ds := by
  constructor
  · intro h
    induction h with
    | @digit d hd => exact ⟨[d], by simp, by simpa using hd, rfl, by simp [ofDigits]⟩
    | @append cs n d _ hd ih =>
        obtain ⟨ds, -, hall, rfl, rfl⟩ := ih
        refine ⟨ds ++ [d], by simp, ?_, by simp, (ofDigits_append_singleton ds d).symm⟩
        intro e he
        rcases List.mem_append.mp he with he | he
        · exact hall e he
        · rw [List.mem_singleton.mp he]
          exact hd
  · rintro ⟨ds, hne, hall, rfl, rfl⟩
    induction ds using List.reverseRecOn with
    | nil => exact absurd rfl hne
    | append_singleton ds d ih =>
        have hd : d < 10 := hall d (by simp)
        rw [ofDigits_append_singleton, List.map_append]
        by_cases hds : ds = []
        · subst hds
          simpa [ofDigits] using Denotes.digit hd
        · exact .append (ih hds fun e he => hall e (List.mem_append_left _ he)) hd

end Decimal

/-! ## Strategy words -/

namespace PublishStrategy

/-- The words by which a strategy is chosen. -/
def words : PublishStrategy → List String
  | stopOnFirstError => ["stop_on_first_error", "stop"]
  | continueOnError => ["continue_on_error", "continue"]

/-- The characters that can stand for one of a word: that one, its capital, and a dash for
an underscore. -/
inductive Spelling : Char → Char → Prop
  | same (c : Char) : Spelling c c
  | capital {c small : Char} (hcapital : 'A' ≤ c ∧ c ≤ 'Z') (hsmall : small.toNat = c.toNat + 32) :
      Spelling c small
  | dash : Spelling '-' '_'

/-- The text is one of the words of a strategy, with blanks around it at most. -/
def Named (text : String) (s : PublishStrategy) : Prop :=
  ∃ word ∈ s.words, List.Forall₂ Spelling (Text.trim text).toList word.toList

/-- What `normalize` makes of one character. -/
def normalizeChar (c : Char) : Char :=
  let c := if 'A' ≤ c ∧ c ≤ 'Z' then Char.ofNat (c.toNat + 32) else c
  if c = '-' then '_' else c

theorem toList_normalize (text : String) :
    (normalize text).toList = (Text.trim text).toList.map normalizeChar := by
  simp [normalize, Text.lowercaseAscii, normalizeChar, Function.comp_def]

/-- Neither a capital nor a dash. -/
def Plain (c : Char) : Prop :=
  ¬('A' ≤ c ∧ c ≤ 'Z') ∧ c ≠ '-'

instance (c : Char) : Decidable (Plain c) :=
  inferInstanceAs (Decidable (_ ∧ _))

theorem toNat_lower {c : Char} (h : 'A' ≤ c ∧ c ≤ 'Z') :
    (Char.ofNat (c.toNat + 32)).toNat = c.toNat + 32 := by
  have hhigh : c.toNat ≤ 90 := h.2
  have hvalid : (c.toNat + 32).isValidChar := Or.inl (by omega)
  rw [Char.ofNat, dif_pos hvalid]
  rfl

theorem spelling_iff {c c' : Char} (h : Plain c') : Spelling c c' ↔ normalizeChar c = c' := by
  obtain ⟨hcapital, hdash⟩ := h
  constructor
  · intro hspelling
    cases hspelling with
    | same => simp [normalizeChar, hcapital, hdash]
    | capital hc hsmall =>
        have hlower : Char.ofNat (c.toNat + 32) = c' := by rw [← hsmall, Char.ofNat_toNat]
        simp [normalizeChar, hc, hlower, hdash]
    | dash => decide
  · rintro rfl
    by_cases hc : 'A' ≤ c ∧ c ≤ 'Z'
    · have hsmall := toNat_lower hc
      have hne : Char.ofNat (c.toNat + 32) ≠ '-' := fun heq => by
        have hlow : 65 ≤ c.toNat := hc.1
        have hdash : 45 = c.toNat + 32 := by rw [← hsmall, heq]; rfl
        omega
      have hnormal : normalizeChar c = Char.ofNat (c.toNat + 32) := by simp [normalizeChar, hc, hne]
      rw [hnormal]
      exact .capital hc hsmall
    · by_cases hd : c = '-'
      · subst hd
        exact .dash
      · have hnormal : normalizeChar c = c := by simp [normalizeChar, hc, hd]
        rw [hnormal]
        exact .same c

theorem forall₂_spelling_iff {cs word : List Char} (h : ∀ c ∈ word, Plain c) :
    List.Forall₂ Spelling cs word ↔ cs.map normalizeChar = word := by
  induction word generalizing cs with
  | nil => cases cs <;> simp
  | cons c' word ih =>
      obtain ⟨hc', hword⟩ := List.forall_mem_cons.mp h
      cases cs with
      | nil => simp
      | cons c cs => simp [spelling_iff hc', ih hword]

theorem plain_words (s : PublishStrategy) : ∀ word ∈ s.words, ∀ c ∈ word.toList, Plain c := by
  have hall : (s.words.all fun word => word.toList.all fun c => decide (Plain c)) = true := by
    cases s <;> decide
  simpa only [List.all_eq_true, decide_eq_true_eq] using hall

theorem named_iff {text : String} {s : PublishStrategy} : Named text s ↔ normalize text ∈ s.words := by
  have hword (word : String) (h : word ∈ s.words) :
      List.Forall₂ Spelling (Text.trim text).toList word.toList ↔ normalize text = word := by
    rw [forall₂_spelling_iff (plain_words s word h), ← toList_normalize, String.toList_inj]
  constructor
  · rintro ⟨word, hmem, hspelled⟩
    rw [(hword word hmem).mp hspelled]
    exact hmem
  · intro hmem
    exact ⟨_, hmem, (hword _ hmem).mpr rfl⟩

/-- A word names one strategy at most, and `parse` finds it. -/
theorem parse_eq_ok_iff {text : String} {s : PublishStrategy} :
    parse text = .ok s ↔ Named text s := by
  rw [named_iff, parse]
  by_cases hstop : normalize text = "stop_on_first_error" ∨ normalize text = "stop"
  · rw [if_pos hstop]
    rcases hstop with h | h <;> cases s <;> simp [words, h]
  · by_cases hgo : normalize text = "continue_on_error" ∨ normalize text = "continue"
    · rw [if_neg hstop, if_pos hgo]
      rcases hgo with h | h <;> cases s <;> simp [words, h]
    · rw [if_neg hstop, if_neg hgo]
      cases s with
      | stopOnFirstError => simp [words, hstop]
      | continueOnError => simp [words, hgo]

theorem word_of_parse_eq_error {text : String} {e : UnknownWord} (h : parse text = .error e) :
    e.word = text := by
  simp only [parse] at h
  split at h
  · cases h
  · split at h
    · cases h
    · cases h
      rfl

theorem parse_eq_error_iff {text : String} {e : UnknownWord} :
    parse text = .error e ↔ (¬∃ s, Named text s) ∧ e = ⟨text⟩ := by
  simp only [← parse_eq_ok_iff]
  cases hparse : parse text with
  | ok s => simp
  | error e' =>
      have hword : e' = ⟨text⟩ := congrArg UnknownWord.mk (word_of_parse_eq_error hparse)
      simp [hword, eq_comm]

end PublishStrategy

namespace Catalog

/-! ## Limits -/

/-- The text denotes a length limit: decimal digits for a positive number of 64 bits, with a
plus sign before them and blanks around it at most. -/
def DenotesLimit (text : String) (n : Nat) : Prop :=
  ∃ digits, ((Text.trim text).toList = digits ∨ (Text.trim text).toList = '+' :: digits) ∧
    Decimal.Denotes digits n ∧ 1 ≤ n ∧ n < UInt64.size

namespace Config

/-- What `parseNumber?` makes of a text after its sign. -/
def digits? (cs : List Char) : Option UInt64 :=
  if cs.isEmpty then none
  else match cs.mapM Decimal.digitValue? with
    | none => none
    | some ds =>
      let n := Decimal.ofDigits ds
      if n < UInt64.size then some (UInt64.ofNat n) else none

theorem digits?_eq_some_iff {cs : List Char} {n : UInt64} :
    digits? cs = some n ↔ Decimal.Denotes cs n.toNat := by
  rw [Decimal.denotes_iff]
  constructor
  · intro h
    simp only [digits?] at h
    split at h
    · cases h
    · rename_i hne
      split at h
      · cases h
      · rename_i ds hds
        split at h
        · rename_i hlt
          cases h
          obtain ⟨hall, rfl⟩ := Decimal.mapM_digitValue?_eq_some.mp hds
          refine ⟨ds, ?_, hall, rfl, UInt64.toNat_ofNat_of_lt' hlt⟩
          rintro rfl
          exact hne rfl
        · cases h
  · rintro ⟨ds, hne, hall, rfl, hn⟩
    have hds := Decimal.mapM_digitValue?_eq_some.mpr ⟨hall, rfl⟩
    have hlt : n.toNat < UInt64.size := n.toNat_lt
    simp only [digits?, List.isEmpty_iff, List.map_eq_nil_iff, hne, if_false, hds, ← hn,
      UInt64.ofNat_toNat, hlt, if_true]

theorem parseNumber?_plus (cs : List Char) : parseNumber? ('+' :: cs) = digits? cs := rfl

theorem parseNumber?_of_no_plus {cs : List Char} (h : ∀ rest, cs ≠ '+' :: rest) :
    parseNumber? cs = digits? cs := by
  unfold parseNumber?
  split
  · exact absurd rfl (h _)
  · rfl

theorem not_denotes_plus (cs : List Char) (n : Nat) : ¬Decimal.Denotes ('+' :: cs) n := by
  rw [Decimal.denotes_iff]
  rintro ⟨ds, -, hall, hcs, -⟩
  cases ds with
  | nil => cases hcs
  | cons d ds =>
      have hplus : ∀ d < 10, '+' ≠ Decimal.digitChar d := by decide
      exact hplus d (hall d List.mem_cons_self) (List.cons.inj hcs).1

theorem parseNumber?_eq_some_iff {cs : List Char} {n : UInt64} :
    parseNumber? cs = some n ↔
      ∃ digits, (cs = digits ∨ cs = '+' :: digits) ∧ Decimal.Denotes digits n.toNat := by
  by_cases hplus : ∃ rest, cs = '+' :: rest
  · obtain ⟨rest, rfl⟩ := hplus
    rw [parseNumber?_plus, digits?_eq_some_iff]
    constructor
    · exact fun h => ⟨rest, .inr rfl, h⟩
    · rintro ⟨digits, rfl | hcs, h⟩
      · exact absurd h (not_denotes_plus _ _)
      · rw [(List.cons.inj hcs).2]
        exact h
  · have hno : ∀ rest, cs ≠ '+' :: rest := fun rest h => hplus ⟨rest, h⟩
    rw [parseNumber?_of_no_plus hno, digits?_eq_some_iff]
    constructor
    · exact fun h => ⟨cs, .inl rfl, h⟩
    · rintro ⟨digits, rfl | hcs, h⟩
      · exact h
      · exact absurd hcs (hno digits)

theorem parseLimit?_eq_some_iff {text : String} {n : UInt64} :
    parseLimit? text = some n ↔ DenotesLimit text n.toNat := by
  have hzero : n = 0 ↔ n.toNat = 0 := UInt64.toNat_inj.symm
  have hlt : n.toNat < UInt64.size := n.toNat_lt
  constructor
  · intro h
    unfold parseLimit? at h
    split at h
    · rename_i m hm
      split at h
      · cases h
      · rename_i hne
        cases h
        obtain ⟨digits, hsign, hdenotes⟩ := parseNumber?_eq_some_iff.mp hm
        exact ⟨digits, hsign, hdenotes, Nat.pos_of_ne_zero (mt hzero.mpr hne), hlt⟩
    · cases h
  · rintro ⟨digits, hsign, hdenotes, hpos, -⟩
    have hnumber := parseNumber?_eq_some_iff.mpr ⟨digits, hsign, hdenotes⟩
    have hne : n ≠ 0 := mt hzero.mp (Nat.ne_of_gt hpos)
    rw [parseLimit?, hnumber]
    exact if_neg hne

theorem parseLimit?_eq_none_iff {text : String} :
    parseLimit? text = none ↔ ¬∃ n, DenotesLimit text n := by
  constructor
  · rintro h ⟨n, hn⟩
    obtain ⟨-, -, -, -, hlt⟩ := id hn
    rw [← UInt64.toNat_ofNat_of_lt' hlt, ← parseLimit?_eq_some_iff, h] at hn
    cases hn
  · intro h
    cases hparse : parseLimit? text with
    | none => rfl
    | some n => exact absurd ⟨_, parseLimit?_eq_some_iff.mp hparse⟩ h

/-! ## Zeros in front -/

theorem ofDigits_zeros (k : Nat) (ds : List Nat) :
    Decimal.ofDigits (List.replicate k 0 ++ ds) = Decimal.ofDigits ds := by
  induction k with
  | zero => rfl
  | succ k ih => exact ih

/-- The second text has `k` more zeros in front of its digits than the first one. -/
def ZerosAdded (k : Nat) (text text' : String) : Prop :=
  ∃ sign ds, (sign = [] ∨ sign = ['+']) ∧ ds ≠ [] ∧ (∀ d ∈ ds, d < 10) ∧
    (Text.trim text).toList = sign ++ ds.map Decimal.digitChar ∧
    (Text.trim text').toList = sign ++ (List.replicate k 0 ++ ds).map Decimal.digitChar

theorem parseNumber?_digits {sign : List Char} (hsign : sign = [] ∨ sign = ['+']) {ds : List Nat}
    (hne : ds ≠ []) (hall : ∀ d ∈ ds, d < 10) :
    parseNumber? (sign ++ ds.map Decimal.digitChar) =
      if Decimal.ofDigits ds < UInt64.size then some (UInt64.ofNat (Decimal.ofDigits ds))
      else none := by
  have hds := Decimal.mapM_digitValue?_eq_some.mpr ⟨hall, rfl⟩
  have hdigits : digits? (ds.map Decimal.digitChar) =
      if Decimal.ofDigits ds < UInt64.size then some (UInt64.ofNat (Decimal.ofDigits ds))
      else none := by
    simp only [digits?, List.isEmpty_iff, List.map_eq_nil_iff, hne, if_false, hds]
  rw [← hdigits]
  rcases hsign with rfl | rfl
  · refine parseNumber?_of_no_plus fun rest hplus => ?_
    refine not_denotes_plus rest (Decimal.ofDigits ds) ?_
    rw [← hplus]
    exact Decimal.denotes_iff.mpr ⟨ds, hne, hall, rfl, rfl⟩
  · rfl

theorem parseLimit?_zerosAdded {k : Nat} {text text' : String} (h : ZerosAdded k text text') :
    parseLimit? text' = parseLimit? text := by
  obtain ⟨sign, ds, hsign, hne, hall, htext, htext'⟩ := h
  have hall' : ∀ d ∈ List.replicate k 0 ++ ds, d < 10 := by
    intro d hd
    rcases List.mem_append.mp hd with hzero | hd
    · rw [List.eq_of_mem_replicate hzero]
      decide
    · exact hall d hd
  have hne' : List.replicate k 0 ++ ds ≠ [] := fun hnil => hne (List.append_eq_nil_iff.mp hnil).2
  rw [parseLimit?, parseLimit?, htext, htext', parseNumber?_digits hsign hne hall,
    parseNumber?_digits hsign hne' hall', ofDigits_zeros]

/-! ## The two variables -/

/-- What a variable sets: the default if it is not set, and else what its text denotes. -/
def Sets {α : Type} (denotes : String → α → Prop) (default : α) : Option String → α → Prop
  | none, a => a = default
  | some text, a => denotes text a

def readLimit : Option String → Except ConfigError UInt64
  | none => .ok 64
  | some text => match parseLimit? text with
    | some n => .ok n
    | none => .error (.invalidNumber limitKey text)

def readStrategy : Option String → Except ConfigError PublishStrategy
  | none => .ok default
  | some text => match PublishStrategy.parse text with
    | .ok s => .ok s
    | .error e => .error (.invalidStrategy strategyKey e)

/-- The limit is read before the strategy. -/
theorem ofLookup_eq (lookup : String → Option String) :
    ofLookup lookup = do
      let maxNameLength ← readLimit (lookup limitKey)
      let strategy ← readStrategy (lookup strategyKey)
      return { maxNameLength, strategy } := by
  -- how it goes on with a limit, whether or not that is the default
  have hrest (n : UInt64) :
      (do let strategy ← match lookup strategyKey with
            | none => pure ({} : Config).strategy
            | some text => match PublishStrategy.parse text with
              | .ok s => pure s
              | .error e => throw (.invalidStrategy strategyKey e)
          return { maxNameLength := n, strategy } : Except ConfigError Config) =
        (do let strategy ← readStrategy (lookup strategyKey)
            return { maxNameLength := n, strategy }) := by
    cases lookup strategyKey with
    | none => rfl
    | some text =>
        simp only [readStrategy]
        cases PublishStrategy.parse text <;> rfl
  unfold ofLookup
  cases lookup limitKey with
  | none => exact hrest 64
  | some text =>
      simp only [readLimit]
      cases parseLimit? text with
      | none => rfl
      | some n => exact hrest n

theorem readLimit_eq_ok_iff {text? : Option String} {n : UInt64} :
    readLimit text? = .ok n ↔ Sets DenotesLimit 64 text? n.toNat := by
  cases text? with
  | none =>
      have h64 : n.toNat = 64 ↔ n = 64 := UInt64.toNat_inj (b := 64)
      simp [readLimit, Sets, h64, eq_comm]
  | some text =>
      rw [Sets, ← parseLimit?_eq_some_iff, readLimit]
      cases parseLimit? text <;> simp

theorem readLimit_eq_error_iff {text? : Option String} {e : ConfigError} :
    readLimit text? = .error e ↔
      ∃ text, text? = some text ∧ (¬∃ n, Sets DenotesLimit 64 text? n) ∧
        e = .invalidNumber limitKey text := by
  cases text? with
  | none => simp [readLimit]
  | some text =>
      simp only [Option.some.injEq, exists_eq_left', Sets, ← parseLimit?_eq_none_iff, readLimit]
      cases parseLimit? text <;> simp [eq_comm]

theorem readStrategy_eq_ok_iff {text? : Option String} {s : PublishStrategy} :
    readStrategy text? = .ok s ↔ Sets PublishStrategy.Named default text? s := by
  cases text? with
  | none => simp [readStrategy, Sets, eq_comm]
  | some text =>
      rw [Sets, ← PublishStrategy.parse_eq_ok_iff, readStrategy]
      cases PublishStrategy.parse text <;> simp

theorem readStrategy_eq_error_iff {text? : Option String} {e : ConfigError} :
    readStrategy text? = .error e ↔
      ∃ text, text? = some text ∧ (¬∃ s, Sets PublishStrategy.Named default text? s) ∧
        e = .invalidStrategy strategyKey ⟨text⟩ := by
  cases text? with
  | none => simp [readStrategy]
  | some text =>
      simp only [Option.some.injEq, exists_eq_left', Sets, ← PublishStrategy.parse_eq_ok_iff,
        readStrategy]
      cases hparse : PublishStrategy.parse text with
      | ok s => simp
      | error e' =>
          rw [(PublishStrategy.parse_eq_error_iff.mp hparse).2]
          simp [eq_comm]

theorem ofLookup_eq_ok_iff {lookup : String → Option String} {c : Config} :
    ofLookup lookup = .ok c ↔
      readLimit (lookup limitKey) = .ok c.maxNameLength ∧
        readStrategy (lookup strategyKey) = .ok c.strategy := by
  rw [ofLookup_eq]
  cases readLimit (lookup limitKey) with
  | error e => simp [bind, Except.bind]
  | ok n =>
      cases readStrategy (lookup strategyKey) with
      | error e => simp [bind, Except.bind]
      | ok s =>
          obtain ⟨maxNameLength, strategy⟩ := c
          simp [bind, Except.bind, pure, Except.pure]

theorem ofLookup_eq_error_iff {lookup : String → Option String} {e : ConfigError} :
    ofLookup lookup = .error e ↔
      readLimit (lookup limitKey) = .error e ∨
        (∃ n, readLimit (lookup limitKey) = .ok n) ∧
          readStrategy (lookup strategyKey) = .error e := by
  rw [ofLookup_eq]
  cases readLimit (lookup limitKey) with
  | error e => simp [bind, Except.bind]
  | ok n =>
      cases readStrategy (lookup strategyKey) with
      | error e => simp [bind, Except.bind]
      | ok s => simp [bind, Except.bind, pure, Except.pure]

/-- Only numbers of 64 bits are set as limits. -/
theorem exists_limit_iff {text? : Option String} :
    (∃ n, Sets DenotesLimit 64 text? n) ↔ ∃ n, readLimit text? = .ok n := by
  simp only [readLimit_eq_ok_iff]
  constructor
  · rintro ⟨n, hn⟩
    have hlt : n < UInt64.size := by
      cases text? with
      | none => exact hn ▸ by decide
      | some text => exact hn.choose_spec.2.2.2
    refine ⟨UInt64.ofNat n, ?_⟩
    rw [UInt64.toNat_ofNat_of_lt' hlt]
    exact hn
  · rintro ⟨n, hn⟩
    exact ⟨_, hn⟩

/-- Which variables make a configuration, and which one; and of those that do not, which is
reported. -/
theorem ofLookup_exact (lookup : String → Option String) :
    let limit := Sets DenotesLimit 64 (lookup limitKey)
    let strategy := Sets PublishStrategy.Named default (lookup strategyKey)
    ((∃ c, ofLookup lookup = .ok c) ↔ (∃ n, limit n) ∧ ∃ s, strategy s) ∧
      (∀ c, ofLookup lookup = .ok c ↔ limit c.maxNameLength.toNat ∧ strategy c.strategy) ∧
      (∀ e, ofLookup lookup = .error e ↔
        (∃ text, lookup limitKey = some text ∧ (¬∃ n, limit n) ∧
          e = .invalidNumber limitKey text) ∨
        (∃ n, limit n) ∧ ∃ text, lookup strategyKey = some text ∧ (¬∃ s, strategy s) ∧
          e = .invalidStrategy strategyKey ⟨text⟩) ∧
      ∀ lookup' k text text', lookup limitKey = some text → lookup' limitKey = some text' →
        ZerosAdded k text text' → lookup' strategyKey = lookup strategyKey →
        ∀ c, ofLookup lookup' = .ok c ↔ ofLookup lookup = .ok c := by
  intro limit strategy
  refine ⟨?_, fun c => ?_, fun e => ?_, fun lookup' k text text' htext htext' hzeros hsame c => ?_⟩
  · rw [exists_limit_iff]
    simp only [strategy, ← readStrategy_eq_ok_iff, ofLookup_eq_ok_iff]
    constructor
    · rintro ⟨c, hlimit, hstrategy⟩
      exact ⟨⟨_, hlimit⟩, _, hstrategy⟩
    · rintro ⟨⟨n, hlimit⟩, s, hstrategy⟩
      exact ⟨⟨n, s⟩, hlimit, hstrategy⟩
  · rw [ofLookup_eq_ok_iff, readLimit_eq_ok_iff, readStrategy_eq_ok_iff]
  · rw [ofLookup_eq_error_iff, exists_limit_iff, readLimit_eq_error_iff, readStrategy_eq_error_iff,
      exists_limit_iff]
  · have hlimit (n : UInt64) : readLimit (some text') = .ok n ↔ readLimit (some text) = .ok n := by
      rw [readLimit_eq_ok_iff, readLimit_eq_ok_iff, Sets, Sets, ← parseLimit?_eq_some_iff,
        ← parseLimit?_eq_some_iff, parseLimit?_zerosAdded hzeros]
    rw [ofLookup_eq_ok_iff, ofLookup_eq_ok_iff, htext, htext', hsame, hlimit]

/-- Blanks of any kind around a value are left out, and errors show them. The greatest limit,
with zeros in front, is one; the number after it is none. -/
theorem greatest_limit_between_blanks :
    let lookup (limit strategy : String) (key : String) : Option String :=
      if key = "CATALOG_MAX_NAME_LEN" then some limit
      else if key = "CATALOG_PUBLISH_STRATEGY" then some strategy
      else none
    ofLookup (lookup "\u2003+0018446744073709551615\u00A0" "\u2003Continue-On-Error ") =
        .ok { maxNameLength := 18446744073709551615, strategy := .continueOnError } ∧
      ofLookup (lookup "\u200318446744073709551616" "go on") =
        .error (.invalidNumber "CATALOG_MAX_NAME_LEN" "\u200318446744073709551616") ∧
      ofLookup (lookup "\u20038" "\u2003go on") =
        .error (.invalidStrategy "CATALOG_PUBLISH_STRATEGY" ⟨"\u2003go on"⟩) := by
  intro lookup
  refine ⟨?_, ?_, ?_⟩
  · refine ((ofLookup_exact _).2.1 _).mpr ⟨?_, ?_⟩
    · exact parseLimit?_eq_some_iff.mp (by decide +kernel)
    · exact PublishStrategy.parse_eq_ok_iff.mp (by decide +kernel)
  · refine ((ofLookup_exact _).2.2.1 _).mpr (.inl ⟨_, rfl, ?_, rfl⟩)
    exact parseLimit?_eq_none_iff.mp (by decide +kernel)
  · refine ((ofLookup_exact _).2.2.1 _).mpr (.inr ⟨⟨8, ?_⟩, _, rfl, ?_, rfl⟩)
    · have hlimit : parseLimit? "\u20038" = some 8 := by decide +kernel
      exact parseLimit?_eq_some_iff.mp hlimit
    · have hword : PublishStrategy.parse "\u2003go on" = .error ⟨"\u2003go on"⟩ := by
        decide +kernel
      exact (PublishStrategy.parse_eq_error_iff.mp hword).1

end Config

end Catalog

end Switchboard
