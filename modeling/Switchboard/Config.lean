import Switchboard.Json.Record
import Switchboard.Text.Blank
import Switchboard.Text.Lowercase

/-!
# Configuration of a mediator

What a broadcast does when a handler fails, and whether calls are traced by
spans. Everything has a default. A strategy is read from a word, in which
case, blanks at the ends and the choice between `-` and `_` do not matter;
in JSON it is written by its full name only.
-/

namespace Switchboard

/-- What a broadcast does when a handler fails. -/
inductive PublishStrategy where
  /-- Later handlers are not entered. -/
  | stopOnFirstError
  /-- Every handler runs, and all failures are reported together. -/
  | continueOnError
deriving DecidableEq, Repr

namespace PublishStrategy

instance : Inhabited PublishStrategy := ⟨stopOnFirstError⟩

def name : PublishStrategy → String
  | stopOnFirstError => "stop_on_first_error"
  | continueOnError => "continue_on_error"

/-- The word that no strategy answers to, as it was given. -/
structure UnknownWord where
  word : String
deriving DecidableEq, Repr

def UnknownWord.message (e : UnknownWord) : String :=
  "Unknown publish strategy: " ++ e.word

/-- The form in which words are compared. -/
def normalize (word : String) : String :=
  (Text.lowercaseAscii (Text.trim word)).map fun c => if c = '-' then '_' else c

def parse (word : String) : Except UnknownWord PublishStrategy :=
  let key := normalize word
  if key = "stop_on_first_error" ∨ key = "stop" then .ok stopOnFirstError
  else if key = "continue_on_error" ∨ key = "continue" then .ok continueOnError
  else .error ⟨word⟩

def toJson (s : PublishStrategy) : Json :=
  .ofText s.name

def ofJson? (json : Json) : Option PublishStrategy := do
  let name ← json.variant?
  if name = stopOnFirstError.name then some stopOnFirstError
  else if name = continueOnError.name then some continueOnError
  else none

end PublishStrategy

structure Config where
  strategy : PublishStrategy := default
  /-- Wrap the chain of every call in a span named after the call. -/
  instrument : Bool := true
deriving DecidableEq, Repr

namespace Config

def toJson (c : Config) : Json :=
  .ofMembers [("publish_strategy", c.strategy.toJson), ("instrument", .bool c.instrument)]

/-- Missing fields have their default. -/
def ofJson? (json : Json) : Option Config := do
  let [strategy, instrument] ← Json.fields? ["publish_strategy", "instrument"] json | none
  return {
    strategy := ← Json.orDefault PublishStrategy.ofJson? default strategy
    instrument := ← Json.orDefault Json.bool? true instrument }

end Config

end Switchboard
