import Switchboard.Config
import Switchboard.Decimal.Digits
import Switchboard.Json.Number

/-!
# Configuration of the catalog

Defaults, overridden by variables or read from JSON. A variable that is set
must hold a valid value: a positive number of 64 bits for the length limit, a
strategy word for the publish strategy. The first invalid one is reported, the
limit before the strategy, with the text as it was given.
-/

namespace Switchboard.Catalog

structure Config where
  maxNameLength : UInt64 := 64
  strategy : PublishStrategy := default
deriving DecidableEq, Repr

inductive ConfigError where
  | invalidNumber (key value : String)
  | invalidStrategy (key : String) (source : PublishStrategy.UnknownWord)
deriving DecidableEq, Repr

def ConfigError.message : ConfigError → String
  | invalidNumber key value =>
    key ++ " must be a positive integer, got '" ++ value ++ "'"
  | invalidStrategy key source => key ++ ": " ++ source.message

namespace Config

/-- The variable of the length limit. -/
def limitKey : String := "CATALOG_MAX_NAME_LEN"

/-- The variable of the publish strategy. -/
def strategyKey : String := "CATALOG_PUBLISH_STRATEGY"

/-- The number that an optional plus sign and one decimal digit or more
denote, if it has 64 bits. -/
def parseNumber? (cs : List Char) : Option UInt64 :=
  let ds := match cs with
    | '+' :: ds => ds
    | ds => ds
  if ds.isEmpty then none
  else match ds.mapM Decimal.digitValue? with
    | none => none
    | some ds =>
      let n := Decimal.ofDigits ds
      if n < UInt64.size then some (UInt64.ofNat n) else none

/-- A length limit, blanks at the ends left out. -/
def parseLimit? (text : String) : Option UInt64 :=
  match parseNumber? (Text.trim text).toList with
  | some n => if n = 0 then none else some n
  | none => none

/-- Defaults, overridden by the variables that are set. -/
def ofLookup (lookup : String → Option String) : Except ConfigError Config := do
  let maxNameLength ← match lookup limitKey with
    | none => pure ({} : Config).maxNameLength
    | some text => match parseLimit? text with
      | some n => pure n
      | none => throw (.invalidNumber limitKey text)
  let strategy ← match lookup strategyKey with
    | none => pure ({} : Config).strategy
    | some text => match PublishStrategy.parse text with
      | .ok s => pure s
      | .error e => throw (.invalidStrategy strategyKey e)
  return { maxNameLength, strategy }

/-- The configuration of the mediator. -/
def mediator (c : Config) : Switchboard.Config :=
  { strategy := c.strategy }

def toJson (c : Config) : Json :=
  .ofMembers
    [("max_name_len", .ofNat c.maxNameLength.toNat), ("publish_strategy", c.strategy.toJson)]

/-- Missing fields have their default. -/
def ofJson? (json : Json) : Option Config := do
  let [limit, strategy] ← Json.fields? ["max_name_len", "publish_strategy"] json | none
  return {
    maxNameLength :=
      ← Json.orDefault (fun j => j.natural?.map UInt64.ofNat) ({} : Config).maxNameLength limit
    strategy := ← Json.orDefault PublishStrategy.ofJson? default strategy }

end Config

end Switchboard.Catalog
