import Switchboard.Json.Reader

/-!
# The grammar of JSON

The grammar as relations between texts and what they denote, with
no thought of how a text is read: `Document text json` says that a text is a
document of this value. All spellings are there: blanks around every token,
each character raw or escaped, exponents with either letter and any sign.

A literal in which a surrogate has no partner is well formed and denotes no
text (`joinPieces`).
-/

namespace Switchboard.Json

/-! ## Tokens -/

/-- Blanks, any number of them. -/
def Spaces (cs : List Char) : Prop :=
  ∀ c ∈ cs, c ∈ [' ', '\n', '\t', '\r']

/-- The digits of a text of decimal digits. -/
def Digits (cs : List Char) (ds : List Nat) : Prop :=
  cs = ds.map Decimal.digitChar ∧ ∀ d ∈ ds, d < 10

/-- Digits before the point: no zero stands before another digit. -/
def Whole (cs : List Char) (ds : List Nat) : Prop :=
  Digits cs ds ∧ ds ≠ [] ∧ (ds.head? = some 0 → ds = [0])

inductive Fraction : List Char → List Nat → Prop
  | none : Fraction [] []
  | digits {cs : List Char} {ds : List Nat} (h : Digits cs ds) (hne : ds ≠ []) :
      Fraction ('.' :: cs) ds

inductive Exponent : List Char → Option Int → Prop
  | none : Exponent [] none
  | up {e : Char} {sign cs : List Char} {ds : List Nat} (he : e ∈ ['e', 'E'])
      (hsign : sign ∈ [[], ['+']]) (h : Digits cs ds) (hne : ds ≠ []) :
      Exponent (e :: (sign ++ cs)) (some (Decimal.ofDigits ds))
  | down {e : Char} {cs : List Char} {ds : List Nat} (he : e ∈ ['e', 'E'])
      (h : Digits cs ds) (hne : ds ≠ []) :
      Exponent (e :: '-' :: cs) (some (-Decimal.ofDigits ds))

inductive Number : List Char → Decimal.Numeral → Prop
  | mk {negative : Bool} {whole fraction exponent : List Char} {ds fs : List Nat} {e : Option Int}
      (hwhole : Whole whole ds) (hfraction : Fraction fraction fs)
      (hexponent : Exponent exponent e) :
      Number ((if negative then ['-'] else []) ++ (whole ++ (fraction ++ exponent)))
        ⟨negative, ds, fs, e⟩

/-- The letters that stand for a character after a backslash. -/
def escapes : List (Char × Char) :=
  [('"', '"'), ('\\', '\\'), ('/', '/'), ('b', '\x08'), ('f', '\x0c'), ('n', '\n'), ('r', '\r'),
    ('t', '\t')]

/-- A hexadecimal digit of either case. -/
inductive Hex : Char → Nat → Prop
  | digit {n : Nat} (h : n < 10) : Hex (Char.ofNat (48 + n)) n
  | lower {n : Nat} (h : 10 ≤ n) (h' : n < 16) : Hex (Char.ofNat (87 + n)) n
  | upper {n : Nat} (h : 10 ≤ n) (h' : n < 16) : Hex (Char.ofNat (55 + n)) n

/-- What a code unit of UTF-16 is: a character, or half of one. -/
def Piece.ofUnit (code : Nat) : Piece :=
  if 0xD800 ≤ code ∧ code < 0xE000 then .surrogate code else .char (Char.ofNat code)

/-- The spellings of one piece of a string literal. -/
inductive Spelling : List Char → Piece → Prop
  | raw {c : Char} (hquote : c ≠ '"') (hbackslash : c ≠ '\\') (hcontrol : 0x20 ≤ c.toNat) :
      Spelling [c] (.char c)
  | letter {l c : Char} (h : (l, c) ∈ escapes) : Spelling ['\\', l] (.char c)
  | unicode {a b c d : Char} {k l m n : Nat} (ha : Hex a k) (hb : Hex b l) (hc : Hex c m)
      (hd : Hex d n) :
      Spelling ['\\', 'u', a, b, c, d] (.ofUnit (((k * 16 + l) * 16 + m) * 16 + n))

/-- What stands between the quotes of a string literal. -/
inductive Pieces : List Char → List Piece → Prop
  | nil : Pieces [] []
  | cons {cs rest : List Char} {p : Piece} {ps : List Piece} (h : Spelling cs p)
      (hrest : Pieces rest ps) : Pieces (cs ++ rest) (p :: ps)

inductive Literal : List Char → Text → Prop
  | mk {cs : List Char} {ps : List Piece} (h : Pieces cs ps) :
      Literal ('"' :: (cs ++ ['"'])) ((joinPieces ps).map String.ofList)

/-! ## Values -/

/-- One element or more, with blanks after each and before all but the first. -/
inductive Separated {α : Type} (Element : List Char → α → Prop) : List Char → List α → Prop
  | last {cs after : List Char} {a : α} (h : Element cs a) (hafter : Spaces after) :
      Separated Element (cs ++ after) [a]
  | next {cs after before rest : List Char} {a : α} {as : List α} (h : Element cs a)
      (hafter : Spaces after) (hbefore : Spaces before) (hrest : Separated Element rest as) :
      Separated Element (cs ++ (after ++ ',' :: (before ++ rest))) (a :: as)

inductive Member (Value : List Char → Json → Prop) : List Char → Text × Json → Prop
  | mk {name after before cs : List Char} {text : Text} {json : Json} (hname : Literal name text)
      (hafter : Spaces after) (hbefore : Spaces before) (h : Value cs json) :
      Member Value (name ++ (after ++ ':' :: (before ++ cs))) (text, json)

inductive Value : List Char → Json → Prop
  | null : Value ['n', 'u', 'l', 'l'] .null
  | true : Value ['t', 'r', 'u', 'e'] (.bool true)
  | false : Value ['f', 'a', 'l', 's', 'e'] (.bool false)
  | number {cs : List Char} {x : Decimal.Numeral} (h : Number cs x) : Value cs (.number x)
  | string {cs : List Char} {text : Text} (h : Literal cs text) : Value cs (.string text)
  | emptyArray {inside : List Char} (h : Spaces inside) :
      Value ('[' :: (inside ++ [']'])) (.array [])
  | array {before cs : List Char} {items : List Json} (hbefore : Spaces before)
      (h : Separated Value cs items) : Value ('[' :: (before ++ (cs ++ [']']))) (.array items)
  | emptyObject {inside : List Char} (h : Spaces inside) :
      Value ('{' :: (inside ++ ['}'])) (.object [])
  | object {before cs : List Char} {members : List (Text × Json)} (hbefore : Spaces before)
      (h : Separated (Member Value) cs members) :
      Value ('{' :: (before ++ (cs ++ ['}']))) (.object members)

/-- The text is a document of this value. -/
def Document (text : String) (json : Json) : Prop :=
  ∃ before cs after, text.toList = before ++ (cs ++ after) ∧ Spaces before ∧ Value cs json ∧
    Spaces after

/-! ## Finite lists -/

/-- What holds of all elements of a list can be checked element by element. -/
theorem forall_mem_of_all {α : Type} {l : List α} {P : α → Prop} [DecidablePred P]
    (h : (l.all fun a => decide (P a)) = true) : ∀ a ∈ l, P a := by
  simpa only [List.all_eq_true, decide_eq_true_eq] using h

end Switchboard.Json
