import Switchboard.Text.Cased
import Switchboard.Text.CaseIgnorable
import Switchboard.Text.LowercasePairs

/-!
# Full lower-casing

The default lower-case mapping of the Unicode standard on whole texts. Three
rules make it:

- a code point with a simple pair is replaced by that pair;
- `İ` (U+0130) becomes `i` and a combining dot above, the only mapping that
  makes a text longer;
- `Σ` becomes `ς` at the end of a word and `σ` elsewhere. A sigma ends a word
  if, passing over case-ignorable characters, a cased character stands
  before it and none stands after it.

Because of the last rule the mapping reads the neighbourhood of a character:
lower-casing does not commute with cutting a text in two.
-/

namespace Switchboard.Text

private def inRuns (runs : List (Nat × Nat)) (code : Nat) : Bool :=
  runs.any fun run => run.1 ≤ code && code ≤ run.2

def isCased (c : Char) : Bool :=
  inRuns casedRuns c.toNat

def isCaseIgnorable (c : Char) : Bool :=
  inRuns caseIgnorableRuns c.toNat

/-- The first character that is not case-ignorable exists and is cased. -/
def meetsCased (cs : List Char) : Bool :=
  match cs.dropWhile isCaseIgnorable with
  | [] => false
  | c :: _ => isCased c

/-- The lower-case form of one character outside the two special rules. -/
def lowerChar (c : Char) : Char :=
  match lowercaseRuns.findSome? (·.lower? c.toNat) with
  | some code => Char.ofNat code
  | none => c

/-- Lower-cases the rest of a text; `before` holds what precedes it, nearest
character first. -/
def lowerFrom (before : List Char) : List Char → List Char
  | [] => []
  | c :: rest =>
    let image :=
      if c = '\u03A3' then
        if meetsCased before && !meetsCased rest then ['\u03C2'] else ['\u03C3']
      else if c = '\u0130' then
        ['i', '\u0307']
      else
        [lowerChar c]
    image ++ lowerFrom (c :: before) rest

/-- The lower-case form of a text. -/
def lowercase (s : String) : String :=
  String.ofList (lowerFrom [] s.toList)

/-- Lower-cases the letters `A` to `Z` only. -/
def lowercaseAscii (s : String) : String :=
  s.map fun c => if 'A' ≤ c ∧ c ≤ 'Z' then Char.ofNat (c.toNat + 32) else c

end Switchboard.Text
