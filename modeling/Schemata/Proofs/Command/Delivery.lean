import Schemata.Proofs.Command.Calls
import Schemata.Proofs.Pipeline.Completion
import Schemata.Proofs.Report
import Schemata.Proofs.Script.Pieces

/-!
What `parse` delivers. It prints its report before it writes the file, and the report reads the names of tables and
columns as texts with markup. So a name with wrong markup keeps the file from being written, and where the names can
be shown the file is written as asked for.
-/

namespace Schemata

open Layout (withEmoji)
open Layout.Markup

theorem Printed.failure_eq_none_iff {ε : Type} {parts : List (Except ε Text)} :
    (ofSections parts).failure = none ↔ ∀ part ∈ parts, ∃ text, part = .ok text := by
  induction parts with
  | nil => exact iff_of_true rfl nofun
  | cons part rest ih =>
      rw [List.forall_mem_cons, ← ih]
      cases part with
      | error cause => exact iff_of_false nofun fun both => nomatch both.1
      | ok text => exact (and_iff_right ⟨text, rfl⟩).symm

/-! ### The color of the last line -/

namespace Layout

theorem Color.green_mem_names : "green".toList ∈ Color.names := by
  let line := "gray74 gray78 gray82 gray84 gray85 gray89 gray93 green green1 green3 green4 green_yellow grey0"
  have written : (Text.words line.toList)[7]? = some "green".toList := by decide +kernel
  exact List.mem_flatMap.mpr ⟨line, by simp [line], List.mem_of_getElem? written⟩

theorem Style.ofText_green : Style.ofText "green".toList = .ok { color := some "green".toList } := by
  have word : Text.words "green".toList = ["green".toList] := by decide +kernel
  have lower : Text.lower "green".toList = "green".toList := by decide +kernel
  have color : Color.read "green".toList = .ok "green".toList :=
    Markup.colorRead_of_mem (by rw [lower]; decide +kernel) Color.green_mem_names
  have noEffect : Effect.ofWord? "green".toList = none := by decide
  rw [Style.ofText, if_neg (by decide +kernel), word, Style.ofWords]
  dsimp only
  rw [lower, if_neg (by decide), if_neg (by decide), if_neg (by decide), noEffect]
  exact bind_eq_ok.mpr ⟨_, color, rfl⟩

theorem Style.normalized_green : Style.normalized "green".toList = .ok "green".toList := by
  rw [Style.normalized, Style.ofText_green]
  rfl

theorem Style.check_green : Style.check "green".toList = .ok () := by
  rw [Style.check, normalized_green]
  rfl

theorem Markup.normalized_green : Markup.normalized "green".toList = .ok "green".toList := by
  rw [Markup.normalized, Style.normalized_green]
  rfl

end Layout

namespace Command

namespace Order

/-- The line of the report that names the script. -/
def scriptLine (order : Order) : Text :=
  "Script: ".toList ++ (Path.ofText order.path).text

/-- The line that names the file after it was written. -/
def savedLine (order : Order) : Text :=
  "\n[green]Saved schema to: ".toList ++ (Path.ofText order.target).text ++ "[/green]".toList

/-- The texts that are read as markup before the file is written. -/
def shownNames (order : Order) : List Text :=
  order.scriptLine :: order.result.shownNames

/-- What is printed before the file is written. -/
def report (order : Order) : Printed ReportError :=
  Printed.ofSections (.ok heading :: Report.line order.scriptLine :: Report.sections order.result.stored)

theorem report_failure_eq_none_iff (order : Order) :
    order.report.failure = none ↔ (∃ text, Report.line order.scriptLine = .ok text) ∧
      ∀ part ∈ Report.sections order.result.stored, ∃ text, part = .ok text := by
  rw [report, Printed.failure_eq_none_iff, List.forall_mem_cons, List.forall_mem_cons]
  exact and_iff_right ⟨heading, rfl⟩

theorem isSound_of_report {order : Order} (printed : order.report.failure = none) :
    ∀ name ∈ order.shownNames, IsSound name := by
  obtain ⟨⟨line, script⟩, sections⟩ := order.report_failure_eq_none_iff.mp printed
  exact List.forall_mem_cons.mpr ⟨Report.isSound_of_line script, Report.isSound_of_sections sections⟩

theorem counted_of_held {order : Order} (held : order.script.length + 1 < 10 ^ Text.digitLimit) :
    ∀ shown ∈ order.result.diagnostics, ∀ index, shown.statementIndex = some index →
      index + 1 < 10 ^ Text.digitLimit := by
  intro shown member index named
  obtain ⟨place, statement, found, same, _⟩ := Pipeline.inferSchema_shows order.config _ shown member
  obtain rfl := Option.some_inj.mp (same.symm.trans named)
  have inside := (List.getElem?_eq_some_iff.mp found).1
  have few := Script.length_statements_le (Text.withLineFeeds order.script)
  have short := Text.length_withLineFeeds_le order.script
  omega

theorem report_printed {order : Order} (held : order.script.length + 1 < 10 ^ Text.digitLimit)
    (names : ∀ name ∈ order.shownNames, IsShowable name)
    (messages : ∀ shown ∈ order.result.diagnostics, IsEncodable (escape shown.message)) :
    order.report.failure = none := by
  obtain ⟨script, shown⟩ := List.forall_mem_cons.mp names
  exact order.report_failure_eq_none_iff.mpr
    ⟨Report.exists_line script, Report.exists_sections shown messages (counted_of_held held)⟩

/-- The name of an ordinary file can be shown between the tags of the last line. -/
theorem isShowable_savedLine {order : Order}
    (ordinary : ∀ c ∈ (Path.ofText order.target).text, isOrdinary c = true ∧ c ≠ '\\') :
    IsShowable order.savedLine := by
  let path := (Path.ofText order.target).text
  have noColon : ':' ∉ path := fun inside => absurd (ordinary _ inside).1 (by decide)
  have free : ∀ c ∈ "Saved schema to: ".toList ++ path, c ≠ '[' ∧ c ≠ '\\' :=
    List.forall_mem_append.mpr ⟨by decide, fun c member =>
      ⟨fun bracket => absurd (bracket ▸ (ordinary c member).1) (by decide), (ordinary c member).2⟩⟩
  have noCode : withEmoji ("Saved schema to: ".toList ++ path) = "Saved schema to: ".toList ++ path :=
    withEmoji_of_one_colon "Saved schema to".toList (' ' :: path) (by decide)
      (List.not_mem_cons_of_ne_of_not_mem (by decide) noColon)
  have encoded : ∀ c ∈ "Saved schema to: ".toList ++ path, Text.standsForHalf c = false :=
    List.forall_mem_append.mpr ⟨by decide, fun c member => by
      have kept := (ordinary c member).1
      simp only [isOrdinary, Bool.and_eq_true, Bool.not_eq_true'] at kept
      exact kept.2⟩
  have opens : "\n[green]Saved schema to: ".toList =
      "\n".toList ++ bracketed "green".toList ++ "Saved schema to: ".toList := by decide
  have closes : "[/green]".toList = bracketed ('/' :: "green".toList) := by decide
  have whole : order.savedLine = "\n".toList ++ bracketed "green".toList ++ ("Saved schema to: ".toList ++ path) ++
      bracketed ('/' :: "green".toList) :=
    (congrArg₂ (fun front back => front ++ path ++ back) opens closes).trans
      (congrArg (· ++ _) (List.append_assoc _ _ _))
  have shows : shown ("\n".toList ++ bracketed "green".toList ++ ("Saved schema to: ".toList ++ path) ++
      bracketed ('/' :: "green".toList)) =
      .ok (shownPiece "\n".toList ++ shownPiece ("Saved schema to: ".toList ++ path)) :=
    shown_of_styled (by decide) (by decide) (by decide) normalized_green Layout.Style.check_green (by decide) free
  have inner := shownPiece_of_plain (fun bracket => (free _ bracket).1 rfl) noCode
  rw [← whole, inner] at shows
  refine ⟨⟨_, shows⟩, fun visible same c member => ?_⟩
  obtain rfl := Except.ok.inj (shows.symm.trans same)
  obtain newline | inside := List.mem_append.mp member
  · have all : ∀ c ∈ shownPiece "\n".toList, Text.standsForHalf c = false := by decide
    exact all c newline
  · exact encoded c (List.mem_filter.mp inside).1

end Order

variable {setting : Setting} {given : Given} {order : Order} {arguments : List Text}

theorem infer_of_failure (setting : Setting) {cause : ReportError} (stopped : order.report.failure = some cause) :
    infer setting order.request = failed order.report.text (.report cause) := by
  unfold infer
  dsimp only
  split
  · rename_i other same
    obtain rfl := Option.some_inj.mp (same.symm.trans stopped)
    rfl
  · rename_i printed _
    cases printed.symm.trans stopped
  · rename_i printed _
    cases printed.symm.trans stopped

theorem infer_of_printed (setting : Setting) (printed : order.report.failure = none) :
    infer setting order.request =
      save setting order.report.text order.result.stored order.target order.format := by
  unfold infer
  dsimp only
  split
  · rename_i same
    cases same.symm.trans printed
  · rename_i none
    cases none
  · rename_i same
    cases same
    rfl

theorem Asks.saved (asks : Asks setting given order) (printed : order.report.failure = none) :
    (infer setting order.request).saved = some order.delivery ∧
      ((infer setting order.request).exitCode = 0 ↔ ∃ line, Report.line order.savedLine = .ok line) := by
  rw [infer_of_printed setting printed, save, asks.free, Order.delivery]
  have line : Report.line ("\n[green]Saved schema to: ".toList ++ (Path.ofText order.target).text ++
      "[/green]".toList) = Report.line order.savedLine := rfl
  simp only [line]
  cases Report.line order.savedLine with
  | ok line => exact ⟨rfl, iff_of_true rfl ⟨line, rfl⟩⟩
  | error cause => exact ⟨rfl, iff_of_false nofun nofun⟩

/-- The call is answered with the exit code 0 only if the file is written as asked for. A name with wrong markup ends
it before that; where all names can be shown, the file is written. -/
theorem run_parse_delivers (read : parseOptions.read arguments = .ok given) (asks : Asks setting given order) :
    let outcome := run setting ("parse".toList :: arguments)
    (outcome.exitCode = 0 → outcome.saved = some order.delivery ∧ IsSound order.savedLine) ∧
    ((∃ name ∈ order.shownNames, ¬ IsSound name) → outcome.exitCode = 1 ∧ outcome.saved = none) ∧
    (order.script.length + 1 < 10 ^ Text.digitLimit → (∀ name ∈ order.shownNames, IsShowable name) →
      (∀ shown ∈ order.result.diagnostics, IsEncodable (escape shown.message)) →
        outcome.saved = some order.delivery ∧ (IsShowable order.savedLine → outcome.exitCode = 0)) := by
  intro outcome
  have ran : outcome = infer setting order.request := (run_parse setting arguments).trans (asks.parse_eq_infer read)
  rw [ran]
  refine ⟨fun zero => ?_, fun ⟨name, shown, wrong⟩ => ?_, fun held names messages => ?_⟩
  · cases printed : order.report.failure with
    | some cause =>
        rw [infer_of_failure setting printed] at zero
        cases zero
    | none =>
        obtain ⟨saved, exits⟩ := asks.saved printed
        obtain ⟨line, last⟩ := exits.mp zero
        exact ⟨saved, Report.isSound_of_line last⟩
  · cases printed : order.report.failure with
    | some cause =>
        rw [infer_of_failure setting printed]
        exact ⟨rfl, rfl⟩
    | none => exact absurd (Order.isSound_of_report printed name shown) wrong
  · obtain ⟨saved, exits⟩ := asks.saved (Order.report_printed held names messages)
    exact ⟨saved, fun showable => exits.mpr (Report.exists_line showable)⟩

/-- A folder with one script in it. -/
def scriptFolder (script : Text) : Setting where
  program := "ddl-erd".toList
  look := (Folder.ofFiles [("s.sql".toList, script)]).look

def toYaml (script : Text) : Order where
  path := "s.sql".toList
  script := script
  target := "o.yaml".toList

def toYamlArguments : List Text :=
  ["s.sql".toList, "--output".toList, "o.yaml".toList]

def toYamlGiven : Given where
  options := [({ long := "--output".toList, takesValue := true }, "o.yaml".toList)]
  arguments := ["s.sql".toList]

theorem asks_toYaml (script : Text) : Asks (scriptFolder script) toYamlGiven (toYaml script) where
  noHelp := by decide
  argument := rfl
  script := rfl
  noConfig _ := rfl
  config := nofun
  mode := rfl
  conventions := rfl
  format := rfl
  target := rfl
  noFolder := nofun
  free := rfl

/-- A table whose name is a closing tag, and one whose name can be shown. -/
theorem run_parse_delivers_toYaml :
    parseOptions.read toYamlArguments = .ok toYamlGiven ∧
    (let tagged := "CREATE TABLE \"[/x]\" (id INT);".toList
     let outcome := run (scriptFolder tagged) ("parse".toList :: toYamlArguments)
     outcome.exitCode = 1 ∧ outcome.saved = none) ∧
    (let plain := "CREATE TABLE x (id INT);".toList
     let outcome := run (scriptFolder plain) ("parse".toList :: toYamlArguments)
     outcome.exitCode = 0 ∧ outcome.saved = some (toYaml plain).delivery) := by
  have read : parseOptions.read toYamlArguments = .ok toYamlGiven := rfl
  have delivers {script : Text} (held : script.length + 1 < 10 ^ Text.digitLimit)
      (names : ∀ name ∈ (toYaml script).shownNames, IsShowable name)
      (notes : (toYaml script).result.diagnostics = []) (saved : IsShowable (toYaml script).savedLine) :
      let outcome := run (scriptFolder script) ("parse".toList :: toYamlArguments)
      outcome.exitCode = 0 ∧ outcome.saved = some (toYaml script).delivery := by
    have delivered := (run_parse_delivers read (asks_toYaml script)).2.2 held names (by rw [notes]; nofun)
    exact ⟨delivered.2 saved, delivered.1⟩
  refine ⟨read, ?_, ?_⟩
  · intro tagged outcome
    have shown : "[/x]".toList ∈ (toYaml tagged).shownNames := by decide +kernel
    have hit : Layout.Markup.findTag 0 "[/x]".toList = some ⟨[], 0, "/x".toList, []⟩ := by decide
    exact (run_parse_delivers read (asks_toYaml tagged)).2.1
      ⟨_, shown, Layout.Markup.not_isSound_of_closing hit rfl rfl⟩
  · intro plain
    have held : plain.length + 1 < 10 ^ Text.digitLimit :=
      Nat.lt_of_lt_of_le (by decide : plain.length + 1 < 10 ^ 2) (Nat.pow_le_pow_right (by decide) (by decide))
    have script : IsShowable (toYaml plain).scriptLine :=
      Layout.Markup.isShowable_of_plain (by decide) (by decide) (by decide)
    have ordinary : ∀ name ∈ (toYaml plain).result.shownNames, ∀ c ∈ name, Layout.Markup.isOrdinary c = true := by
      decide +kernel
    have names : ∀ name ∈ (toYaml plain).shownNames, IsShowable name := List.forall_mem_cons.mpr
      ⟨script, fun name shown => Layout.Markup.isShowable_of_ordinary (ordinary name shown)⟩
    exact delivers held names (by decide +kernel) (Order.isShowable_savedLine (by decide))

end Command

end Schemata
