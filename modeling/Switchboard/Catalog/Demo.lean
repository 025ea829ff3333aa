import Switchboard.Catalog.Diagnostic
import Switchboard.Catalog.System
import Switchboard.Text.Lowercase

/-!
# The demonstration

A short session against the catalog: it reads its configuration from
variables, wires the catalog, creates items (one of them invalid, one with a
name that is taken), renames, searches and deletes, and ends by reading back
the audit log. The first operation that is meant to succeed and does not ends
the run.
-/

namespace Switchboard.Catalog.Demo

abbrev DemoClient := Client State Empty Empty

/-- Goes on with the result of an operation, or ends with its error. -/
def orEnd {α β : Type} (operation : Action State (Except Error α))
    (rest : α → Action State (Except Error β)) : Action State (Except Error β) := do
  match ← operation with
  | .ok a => rest a
  | .error e => return .error e

/-- An amount given by its 64 bits. -/
private def amount (bits : UInt64) : Binary64 := ⟨bits⟩

/-- The session against a wired catalog. -/
def session (client : DemoClient) : Action State (Except Error Unit) :=
  let info := Action.log (σ := State) .info
  -- 39.9, 149, -5 and 10
  orEnd (Action.within ⟨"item_creation", []⟩
      (client.create "Desk Lamp" (amount 0x4043F33333333333))) fun lamp => do
    info "Item created successfully" [("item_id", lamp.format)]
    orEnd (client.create "Office Chair" (amount 0x4062A00000000000)) fun chair => do
      info "Item created successfully" [("item_id", chair.format)]
      match ← client.create "   " (amount 0xC014000000000000) with
      | .ok id => Action.log .error "Invalid item was accepted" [("item_id", id.format)]
      | .error e =>
        info "Invalid item rejected" [("error", e.message), ("fields", describeNames e.invalidFields)]
      if let .error e ← client.create "desk lamp" (amount 0x4024000000000000) then
        info "Duplicate item rejected" [("error", e.message)]
      orEnd (client.rename lamp "Reading Lamp") fun renamed => do
        info "Item renamed" [("item_id", renamed.id.format), ("name", renamed.name)]
        let hits := (← Action.state).index.search "lamp"
        info "Search for 'lamp'" [("hits", Text.describeList (hits.map ItemId.describe))]
        orEnd (client.delete chair) fun () => do
          orEnd (client.describe chair) fun line => do
            info "After delete" [("line", line)]
            for entry in (← Action.state).audit do
              info "Audit" [("entry", entry)]
            let items := (← Action.state).store.size
            info "Demo completed successfully" [("items", Decimal.format items)]
            return .ok ()

/-- What a run of the demonstration leaves behind. -/
structure Transcript where
  exitCode : UInt32
  stderr : String
  events : List Event

/-- The line that reports what ended a run. -/
def errorLine (description : String) : String :=
  "Error: " ++ description ++ "\n"

/-- Runs the demonstration with a configuration. -/
def runWith (config : Config) : Transcript :=
  let action : Action State (Except Error Unit) := do
    Action.log .info "Starting catalog demo"
      [("max_name_len", Decimal.format config.maxNameLength.toNat)]
    let registry ← wire config
    session { mediator := mediator config registry }
  let run := action.run { state := {} }
  let events := run.trace.events
  match run.exit with
  | .value (.ok ()) => ⟨0, "", events⟩
  | .value (.error e) => ⟨1, errorLine e.describe, events⟩
  | .panicked p => ⟨101, p.message?.getD "", events⟩

/-- Runs the demonstration with the variables that a lookup knows. -/
def run (lookup : String → Option String) : Transcript :=
  match Config.ofLookup lookup with
  | .ok config => runWith config
  | .error e => ⟨1, errorLine e.describe, []⟩

/-! ## Log levels -/

/-- The words that name a least level, in lower case, each with that level; `none` stands for
one above all of them. No event is below `debug`, so a trace of everything starts there. -/
def levelWords : List (String × Option Level) :=
  [("trace", some .debug), ("5", some .debug), ("debug", some .debug), ("4", some .debug),
    ("info", some .info), ("3", some .info), ("warn", some .warn), ("2", some .warn),
    ("error", some .error), ("1", some .error), ("", some .error), ("off", none), ("0", none)]

/-- The least level that a word names, in letters of any case. Other words select events by the
place that they come from, which events here do not carry; these name no level. -/
def level? (word : String) : Option (Option Level) :=
  levelWords.lookup (Text.lowercaseAscii word)

/-- The least level that is logged, `none` to log nothing. -/
def threshold (word : Option String) : Option Level :=
  (word.bind level?).getD (some .info)

def Transcript.logged (t : Transcript) (least : Option Level) : List Event :=
  match least with
  | none => []
  | some least => t.events.filter fun e => least.severity ≤ e.level.severity

/-- How many events of a level are logged. -/
def Transcript.count (t : Transcript) (least : Option Level) (level : Level) : Nat :=
  ((t.logged least).filter fun e => e.level = level).length

end Switchboard.Catalog.Demo
