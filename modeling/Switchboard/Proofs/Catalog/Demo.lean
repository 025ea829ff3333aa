import Switchboard.Catalog.Demo
import Switchboard.Proofs.Catalog.Atomicity
import Switchboard.Proofs.Catalog.Exchange
import Switchboard.Proofs.Catalog.Variables
import Switchboard.Proofs.Text

/-!
# What becomes of the demonstration

For every environment: `demo_outcome`. All names of the session have twelve
characters at most, so under limits from twelve on it runs the same
(`session_congr`), and how it ends is known from one run. Under a shorter limit
it ends with the first of its items whose name is too long
(`session_tooLong`). What is reported before the session, while the catalog is
wired, shows the configuration in its fields, but not in the levels. The line that
reports an error is given word for word (`variableReport`, `nameReport`).
-/

namespace Switchboard.Catalog.Demo

open Switchboard.Action (RunsAs)

/-! ## The session -/

theorem orEnd_congr {α β : Type} {operation operation' : Action State (Except Error α)}
    {rest rest' : α → Action State (Except Error β)} (h : operation.RunsAs operation')
    (hrest : ∀ a, (rest a).RunsAs (rest' a)) :
    (orEnd operation rest).RunsAs (orEnd operation' rest') := by
  refine h.bind fun result => ?_
  cases result with
  | ok a => exact hrest a
  | error e => exact .refl _

/-- Under limits that leave room for all of its names the session runs the same. -/
theorem session_congr {config config' : Config} (h : 12 ≤ config.maxNameLength.toNat)
    (h' : 12 ≤ config'.maxNameLength.toNat) :
    (session (client config .never)).RunsAs (session (client config' .never)) := by
  have hcreate (name : String) (hname : Text.count (Text.trim name) ≤ 12) (price : Binary64) :
      ((client config .never : DemoClient).create name price).RunsAs
        ((client config' .never : DemoClient).create name price) :=
    create_congr (Nat.le_trans hname h) (Nat.le_trans hname h') price
  have hrename (id : ItemId) :
      ((client config .never : DemoClient).rename id "Reading Lamp").RunsAs
        ((client config' .never : DemoClient).rename id "Reading Lamp") :=
    rename_congr (Nat.le_trans (by decide) h) (Nat.le_trans (by decide) h') id
  unfold session
  refine orEnd_congr ((hcreate "Desk Lamp" (by decide) _).within _) fun lamp => ?_
  refine .bind (.refl _) fun _ => ?_
  refine orEnd_congr (hcreate "Office Chair" (by decide) _) fun chair => ?_
  refine .bind (.refl _) fun _ => ?_
  -- however the next two creations end, the session goes on
  refine .bind (hcreate "   " (by decide) _) fun invalid => ?_
  cases invalid
  all_goals
    refine .bind (.refl _) fun _ => .bind (hcreate "desk lamp" (by decide) _) fun duplicate => ?_
    cases duplicate
    case' error => refine .bind (.refl _) fun _ => ?_
    all_goals
      refine orEnd_congr (hrename lamp) fun renamed => ?_
      refine .bind (.refl _) fun _ => .bind (.refl _) fun _ => .bind (.refl _) fun _ => ?_
      refine orEnd_congr (delete_congr chair) fun _ => ?_
      exact orEnd_congr (describe_congr chair) fun _ => .refl _

/-- Under the default configuration the session comes to its end. -/
theorem session_ends :
    ((session (client {} .never)).run { state := {} }).exit = .value (.ok ()) := by
  decide +kernel

/-! ## Creations that are too long -/

/-- The items that the session starts with. -/
def initial : List CreateItem :=
  -- 39.9 and 149
  [⟨"Desk Lamp", ⟨0x4043F33333333333⟩⟩, ⟨"Office Chair", ⟨0x4062A00000000000⟩⟩]

/-- Nothing but the length of a name can be wrong with these items. -/
theorem initial_valid :
    ∀ r ∈ initial, Text.trim r.name = r.name ∧ r.name.isEmpty = false ∧
      (r.price.isFinite && r.price.isPositive) = true := by
  decide

/-- The failure of a creation whose name is too long. -/
def tooLong (limit : Nat) : Failure.Cause :=
  .field "name" ("must be at most " ++ Decimal.format limit ++ " characters")

theorem validateCreate_initial {limit : Nat} {r : CreateItem} (hr : r ∈ initial)
    (h : limit < Text.count r.name) :
    Failure.Cause.validation (validateCreate limit r) = tooLong limit := by
  obtain ⟨htrim, hname, hprice⟩ := initial_valid r hr
  simp only [validateCreate, nameErrors, priceErrors, htrim, hname, hprice, h, Bool.false_eq_true,
    if_false, if_true, List.append_nil, tooLong, Failure.Cause.field]

/-- A creation whose name is longer than the limit is rejected in every world. -/
theorem create_tooLong {config : Config} {r : CreateItem} (hr : r ∈ initial)
    (h : config.maxNameLength.toNat < Text.count r.name) (w : World State) :
    ∃ f w', f.cause = tooLong config.maxNameLength.toNat ∧
      ((client config .never : DemoClient).create r.name r.price).eval w =
        (.value (.error (.invalid f)), w') := by
  have hbad : badName config.maxNameLength.toNat r.name ++ badPrice r.price ≠ [] := by
    rw [badName, (initial_valid r hr).1, if_pos (Or.inr h)]
    exact List.cons_ne_nil _ _
  obtain ⟨mark, heval⟩ :=
    faithful_create (ρ := Empty) (ν := Empty) config .never w r.name r.price
  have heffect := create_rejected (s := w.state) hbad
  rw [validateCreate_initial hr h] at heffect
  rw [show w.sources.isCancelled .never = false from rfl, heffect] at heval
  obtain ⟨t, hrun⟩ := Action.eval_eq_iff.mp heval
  exact ⟨w.fresh (tooLong _), _, rfl, Action.eval_eq_iff.mpr ⟨t, run_map_eq_error.mp hrun⟩⟩

section

variable {α β : Type} {operation : Action State (Except Error α)}
  {rest : α → Action State (Except Error β)} {w w' : World State}

theorem eval_orEnd_ok {a : α} (h : operation.eval w = (.value (.ok a), w')) :
    (orEnd operation rest).eval w = (rest a).eval w' :=
  Action.eval_bind_of_value h _

theorem eval_orEnd_error {e : Error} (h : operation.eval w = (.value (.error e), w')) :
    (orEnd operation rest).eval w = (.value (.error e), w') :=
  Action.eval_bind_of_value h _

end

/-- Under the default configuration the first creation succeeds. -/
theorem first_creation_succeeds :
    (((client {} .never : DemoClient).create "Desk Lamp" ⟨0x4043F33333333333⟩).run
      { state := {} }).exit = .value (.ok ⟨1⟩) := by
  decide +kernel

/-- Under a limit that does not leave room for both of the first names, the session ends with the
first creation that is too long. -/
theorem session_tooLong {config : Config} (h : config.maxNameLength.toNat < 12) :
    ∃ r ∈ initial, ∃ f w,
      initial.find? (fun r => config.maxNameLength.toNat < Text.count r.name) = some r ∧
      config.maxNameLength.toNat < Text.count r.name ∧
      f.cause = tooLong config.maxNameLength.toNat ∧
      (session (client config .never)).eval { state := {} } = (.value (.error (.invalid f)), w) := by
  by_cases hfirst : config.maxNameLength.toNat < Text.count "Desk Lamp"
  · have hlamp : ⟨"Desk Lamp", ⟨0x4043F33333333333⟩⟩ ∈ initial := List.mem_cons_self
    obtain ⟨f, w, hf, hcreate⟩ := create_tooLong hlamp hfirst { state := {} }
    refine ⟨_, hlamp, f, w, ?_, hfirst, hf, ?_⟩
    · exact List.find?_cons_of_pos (decide_eq_true hfirst)
    · exact eval_orEnd_error ((Action.eval_within _ _ _).trans hcreate)
  · have hchair : ⟨"Office Chair", ⟨0x4062A00000000000⟩⟩ ∈ initial :=
      List.mem_cons_of_mem _ List.mem_cons_self
    have hsecond : config.maxNameLength.toNat < Text.count "Office Chair" := by
      rw [show Text.count "Office Chair" = 12 by decide]
      exact h
    have hroom : Text.count (Text.trim "Desk Lamp") ≤ config.maxNameLength.toNat := by
      rw [show Text.trim "Desk Lamp" = "Desk Lamp" by decide]
      exact Nat.not_lt.mp hfirst
    have hdefault : Text.count (Text.trim "Desk Lamp") ≤ ({} : Config).maxNameLength.toNat := by
      decide
    obtain ⟨w₁, hlamp⟩ : ∃ w₁, ((client config .never : DemoClient).create "Desk Lamp"
        ⟨0x4043F33333333333⟩).eval { state := {} } = (.value (.ok ⟨1⟩), w₁) := by
      rw [Action.eval, create_congr hroom hdefault _ _, first_creation_succeeds]
      exact ⟨_, rfl⟩
    obtain ⟨f, w, hf, hcreate⟩ := create_tooLong hchair hsecond w₁
    refine ⟨_, hchair, f, w, ?_, hsecond, hf, ?_⟩
    · simp only [initial, List.find?_cons, hfirst, hsecond, decide_true, decide_false]
    · refine (eval_orEnd_ok ((Action.eval_within _ _ _).trans hlamp)).trans ?_
      exact (Action.eval_bind_of_value (Action.eval_log _ _ _ _) _).trans (eval_orEnd_error hcreate)

/-! ## The run -/

/-- Wiring reports two events of its own. -/
theorem run_wire (config : Config) (w : World State) :
    ∃ t : Trace, t.events.map Event.level = [.info, .info] ∧
      (wire config : Action State (Registry State (Request ⊕ Empty) (Notification ⊕ Empty))).run w =
        ⟨.value (registry config.maxNameLength.toNat), w, t⟩ :=
  ⟨_, rfl, rfl⟩

/-- A run reports three events and then those of the session, and tells how the session ended. -/
theorem runWith_session (config : Config) :
    ∃ opening : List Event, opening.map Event.level = [.info, .info, .info] ∧
      (runWith config).events =
        opening ++ ((session (client config .never)).run { state := {} }).trace.events ∧
      (∀ w, (session (client config .never)).eval { state := {} } = (.value (.ok ()), w) →
        (runWith config).exitCode = 0 ∧ (runWith config).stderr = "") ∧
      ∀ e w, (session (client config .never)).eval { state := {} } = (.value (.error e), w) →
        (runWith config).exitCode = 1 ∧ (runWith config).stderr = errorLine e.describe := by
  obtain ⟨t, hlevels, hwire⟩ := run_wire config { state := {} }
  rcases hsession : (session (client config .never)).run { state := {} } with ⟨exit, w, t'⟩
  let start : Event := {
    level := .info
    message := "Starting catalog demo"
    fields := [("max_name_len", Decimal.format config.maxNameLength.toNat)] }
  have hrun : (do
      Action.log .info "Starting catalog demo"
        [("max_name_len", Decimal.format config.maxNameLength.toNat)]
      let registry ← wire config
      session { mediator := mediator config registry }).run { state := {} } =
        ⟨exit, w, .event start :: t ++ t'⟩ := by
    rw [Action.run_log_bind, Action.run_bind_of_value hwire]
    exact congrArg (fun r => Run.after [.event start] (Run.after t r)) hsession
  have heval : (session (client config .never)).eval { state := {} } = (exit, w) :=
    Action.eval_eq_iff.mpr ⟨t', hsession⟩
  refine ⟨start :: t.events, ?_, ?_, ?_, ?_⟩
  · rw [List.map_cons, hlevels]
  · have hevents : Trace.events (.event start :: t ++ t') = start :: t.events ++ t'.events := by
      simp only [Trace.events, List.filterMap_append, List.cons_append, List.filterMap_cons]
    rw [← hevents]
    simp only [runWith, hrun]
    rcases exit with (e | ⟨⟨⟩⟩) | p <;> rfl
  · intro w' hok
    cases heval.symm.trans hok
    simp only [runWith, hrun, and_self]
  · intro e w' herror
    cases heval.symm.trans herror
    simp only [runWith, hrun, and_self]

theorem runWith_roomy {config : Config} (h : 12 ≤ config.maxNameLength.toNat) :
    (runWith config).exitCode = 0 ∧ (runWith config).stderr = "" := by
  obtain ⟨_, -, -, hends, -⟩ := runWith_session config
  refine hends ((session (client config .never)).run { state := {} }).world ?_
  have hdefault : 12 ≤ ({} : Config).maxNameLength.toNat := by decide
  rw [Action.eval, session_congr h hdefault _, session_ends]

theorem runWith_tooLong {config : Config} (h : config.maxNameLength.toNat < 12) :
    ∃ r f, initial.find? (fun r => config.maxNameLength.toNat < Text.count r.name) = some r ∧
      f.cause = .validation (validateCreate config.maxNameLength.toNat r) ∧
      f.cause = tooLong config.maxNameLength.toNat ∧ (runWith config).exitCode = 1 ∧
      (runWith config).stderr = errorLine (Error.invalid f).describe := by
  obtain ⟨_, -, -, -, hfails⟩ := runWith_session config
  obtain ⟨r, hr, f, w, hfind, hlong, hf, hsession⟩ := session_tooLong h
  exact ⟨r, f, hfind, hf.trans (validateCreate_initial hr hlong).symm, hf, hfails _ w hsession⟩

/-- Under limits that leave room for all names the events have the same levels. -/
theorem runWith_levels {config config' : Config} (h : 12 ≤ config.maxNameLength.toNat)
    (h' : 12 ≤ config'.maxNameLength.toNat) :
    (runWith config).events.map Event.level = (runWith config').events.map Event.level := by
  obtain ⟨opening, hopening, hevents, -⟩ := runWith_session config
  obtain ⟨opening', hopening', hevents', -⟩ := runWith_session config'
  rw [hevents, hevents', session_congr h h', List.map_append, List.map_append, hopening, hopening']

/-! ## The line that reports an error -/

/-- The texts, and parts of texts, that reports quote, but for those of the environment. -/
def quotedTexts : List String :=
  [Config.limitKey, Config.strategyKey, "validation", "name", "name: ", "must be at most ",
    " characters"]

theorem plain_quotedTexts : ∀ text ∈ quotedTexts, Text.PlainText text := by
  decide +kernel

theorem quote_of_mem {text : String} (h : text ∈ quotedTexts) :
    Text.quote text = "\"" ++ text ++ "\"" :=
  Text.quote_of_plain (plain_quotedTexts text h)

/-- What is written of a variable that is not valid. -/
def variableReport : ConfigError → String
  | .invalidNumber key value =>
    "Error: InvalidNumber \x7b var: \"" ++ key ++ "\", value: " ++ Text.quote value ++ " \x7d\n"
  | .invalidStrategy key source =>
    "Error: InvalidStrategy \x7b var: \"" ++ key ++ "\", source: ParseStrategyError(" ++
      Text.quote source.word ++ ") \x7d\n"

/-- The names of both variables are shown as they are. -/
theorem errorLine_of_lookup {lookup : String → Option String} {e : ConfigError}
    (h : Config.ofLookup lookup = .error e) : errorLine e.describe = variableReport e := by
  have hlimitKey : Text.quote Config.limitKey = "\"" ++ Config.limitKey ++ "\"" :=
    quote_of_mem (by simp [quotedTexts])
  have hstrategyKey : Text.quote Config.strategyKey = "\"" ++ Config.strategyKey ++ "\"" :=
    quote_of_mem (by simp [quotedTexts])
  unfold variableReport
  rw [← String.toList_inj]
  rcases Config.ofLookup_eq_error_iff.mp h with hlimit | ⟨-, hstrategy⟩
  · obtain ⟨text, -, -, rfl⟩ := Config.readLimit_eq_error_iff.mp hlimit
    simp [errorLine, ConfigError.describe, Text.describeRecord, hlimitKey]
  · obtain ⟨text, -, -, rfl⟩ := Config.readStrategy_eq_error_iff.mp hstrategy
    simp [errorLine, ConfigError.describe, Text.describeRecord, hstrategyKey]

/-- What is written of an item whose name is not valid, for the reason given by a text. -/
def nameReport (text : String) : String :=
  "Error: Invalid(Failure \x7b cause: Cause \x7b kind: Validation, code: \"validation\", " ++
    "message: \"name: " ++ text ++ "\", fields: [FieldError \x7b field: \"name\", message: \"" ++
    text ++ "\" \x7d] \x7d \x7d)\n"

theorem describe_nameError {text : String} (h : Text.PlainText text) :
    FieldError.describe ⟨"name", text⟩ =
      "FieldError \x7b field: \"name\", message: \"" ++ text ++ "\" \x7d" := by
  have hname : Text.quote "name" = "\"name\"" := quote_of_mem (by simp [quotedTexts])
  rw [← String.toList_inj]
  simp [FieldError.describe, Text.describeRecord, hname, Text.quote_of_plain h]

theorem describe_nameCause {text : String} (h : Text.PlainText text) :
    (Failure.Cause.field "name" text).describe =
      "Cause \x7b kind: Validation, code: \"validation\", message: \"name: " ++ text ++
        "\", fields: [" ++ FieldError.describe ⟨"name", text⟩ ++ "] \x7d" := by
  have hcode : Text.quote "validation" = "\"validation\"" := quote_of_mem (by simp [quotedTexts])
  have hplain : Text.PlainText ("name: " ++ text) :=
    .append (plain_quotedTexts _ (by simp [quotedTexts])) h
  rw [← String.toList_inj]
  simp [Failure.Cause.describe, Failure.Cause.field, Failure.Cause.validation, FieldError.format,
    Failure.Kind.describe, Text.describeRecord, Text.describeList, hcode, Text.quote_of_plain hplain]

theorem errorLine_nameCause {f : Failure} {text : String} (hf : f.cause = .field "name" text)
    (h : Text.PlainText text) : errorLine (Error.invalid f).describe = nameReport text := by
  rw [errorLine, Error.describe, Failure.describe, hf, describe_nameCause h, describe_nameError h]
  unfold nameReport
  rw [← String.toList_inj]
  simp [Text.describeRecord]

theorem errorLine_tooLong {f : Failure} {limit : Nat} (hf : f.cause = tooLong limit) :
    errorLine (Error.invalid f).describe =
      nameReport ("must be at most " ++ Decimal.format limit ++ " characters") := by
  have hfront : Text.PlainText "must be at most " := plain_quotedTexts _ (by simp [quotedTexts])
  have hback : Text.PlainText " characters" := plain_quotedTexts _ (by simp [quotedTexts])
  exact errorLine_nameCause hf ((hfront.append (Decimal.plainText_format limit)).append hback)

/-! ## Every environment -/

/-- What is counted are levels only. -/
theorem Transcript.count_eq (t : Transcript) (least : Option Level) (level : Level) :
    t.count least level = match least with
      | none => 0
      | some least => ((t.events.map Event.level).filter fun l =>
          l = level && least.severity ≤ l.severity).length := by
  cases least with
  | none => rfl
  | some least =>
      simp only [count, logged, List.filter_filter, List.filter_map, List.length_map]
      rfl

/-- The demonstration succeeds just if its variables are valid and leave room for the names that it
uses. If not, it reports the variable that is wrong, or the first of its items whose name is too
long. Runs that succeed report as many events of each level as each other, whatever the least level
is that is logged. -/
theorem demo_outcome :
    (∀ lookup, (run lookup).exitCode = 0 ∧ (run lookup).stderr = "" ↔
        ∃ config, Config.ofLookup lookup = .ok config ∧ 12 ≤ config.maxNameLength.toNat) ∧
      (∀ lookup e, Config.ofLookup lookup = .error e →
        (run lookup).exitCode = 1 ∧ (run lookup).stderr = variableReport e) ∧
      (∀ lookup config, Config.ofLookup lookup = .ok config → config.maxNameLength.toNat < 12 →
        ∃ r f, initial.find? (fun r => config.maxNameLength.toNat < Text.count r.name) = some r ∧
          f.cause = .validation (validateCreate config.maxNameLength.toNat r) ∧
          (run lookup).exitCode = 1 ∧
          (run lookup).stderr = errorLine (Error.invalid f).describe ∧
          (run lookup).stderr = nameReport
            ("must be at most " ++ Decimal.format config.maxNameLength.toNat ++ " characters")) ∧
      ∀ lookup lookup', (run lookup).exitCode = 0 → (run lookup').exitCode = 0 →
        ∀ least level, (run lookup).count least level = (run lookup').count least level := by
  have hok {lookup config} (h : Config.ofLookup lookup = .ok config) :
      run lookup = runWith config := by rw [run, h]
  have herror {lookup e} (h : Config.ofLookup lookup = .error e) :
      run lookup = ⟨1, errorLine e.describe, []⟩ := by rw [run, h]
  have hroomy {lookup} (h : (run lookup).exitCode = 0) :
      ∃ config, Config.ofLookup lookup = .ok config ∧ 12 ≤ config.maxNameLength.toNat := by
    cases hlookup : Config.ofLookup lookup with
    | error e =>
        rw [herror hlookup] at h
        cases h
    | ok config =>
        refine ⟨config, rfl, Nat.not_lt.mp fun hlimit => ?_⟩
        obtain ⟨_, _, -, -, -, hexit, -⟩ := runWith_tooLong hlimit
        rw [hok hlookup, hexit] at h
        cases h
  refine ⟨fun lookup => ⟨fun h => hroomy h.1, ?_⟩, ?_, ?_, ?_⟩
  · rintro ⟨config, hlookup, hlimit⟩
    rw [hok hlookup]
    exact runWith_roomy hlimit
  · intro lookup e hlookup
    rw [herror hlookup]
    exact ⟨rfl, errorLine_of_lookup hlookup⟩
  · intro lookup config hlookup hlimit
    obtain ⟨r, f, hfirst, hcause, hf, hexit, hline⟩ := runWith_tooLong hlimit
    rw [hok hlookup]
    exact ⟨r, f, hfirst, hcause, hexit, hline, hline.trans (errorLine_tooLong hf)⟩
  · intro lookup lookup' h h' least level
    obtain ⟨config, hlookup, hlimit⟩ := hroomy h
    obtain ⟨config', hlookup', hlimit'⟩ := hroomy h'
    rw [Transcript.count_eq, Transcript.count_eq, hok hlookup, hok hlookup',
      runWith_levels hlimit hlimit']

/-- A limit and a strategy that are none, and a limit that is too short for the first name. -/
theorem wrong_variables_and_short_limit_reported :
    let setting (key value : String) := fun k => if k = key then some value else none
    let limit := run (setting "CATALOG_MAX_NAME_LEN" "8 \"cm\"")
    let strategy := run (setting "CATALOG_PUBLISH_STRATEGY" "go\ton")
    let short := run (setting "CATALOG_MAX_NAME_LEN" "8")
    (limit.exitCode = 1 ∧ limit.stderr =
        "Error: InvalidNumber \x7b var: \"CATALOG_MAX_NAME_LEN\", value: \"8 \\\"cm\\\"\" \x7d\n") ∧
      (strategy.exitCode = 1 ∧ strategy.stderr =
        "Error: InvalidStrategy \x7b var: \"CATALOG_PUBLISH_STRATEGY\", " ++
          "source: ParseStrategyError(\"go\\ton\") \x7d\n") ∧
      short.exitCode = 1 ∧ short.stderr =
        "Error: Invalid(Failure \x7b cause: Cause \x7b kind: Validation, code: \"validation\", " ++
          "message: \"name: must be at most 8 characters\", fields: [FieldError \x7b " ++
          "field: \"name\", message: \"must be at most 8 characters\" \x7d] \x7d \x7d)\n" := by
  intro setting limit strategy short
  obtain ⟨-, hvariable, hshort, -⟩ := demo_outcome
  have hlimit := hvariable (setting "CATALOG_MAX_NAME_LEN" "8 \"cm\"")
    (.invalidNumber Config.limitKey "8 \"cm\"") (by decide +kernel)
  have hstrategy := hvariable (setting "CATALOG_PUBLISH_STRATEGY" "go\ton")
    (.invalidStrategy Config.strategyKey ⟨"go\ton"⟩) (by decide +kernel)
  obtain ⟨_, _, -, -, hexit, -, hline⟩ := hshort (setting "CATALOG_MAX_NAME_LEN" "8")
    { maxNameLength := 8 } (by decide +kernel) (by decide)
  refine ⟨⟨hlimit.1, hlimit.2.trans ?_⟩, ⟨hstrategy.1, hstrategy.2.trans ?_⟩, hexit, hline.trans ?_⟩
  all_goals decide +kernel

end Switchboard.Catalog.Demo
