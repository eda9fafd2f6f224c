import Schemata.Command.Run
import Schemata.Proofs.Outcomes

/-!
Calls of `parse` that ask for a file. A call whose options and argument are all in order runs the inference over
the script and the options that it names.
-/

namespace Schemata

/-! ### Options that were given -/

namespace Given

theorem exists_option_of_mem_distinct {given : Given} :
    ∀ name ∈ given.distinct, ∃ entry ∈ given.options, entry.1.long = name := by
  unfold distinct
  refine List.foldlRecOn (motive := fun found => ∀ name ∈ found, ∃ entry ∈ given.options, entry.1.long = name)
    given.options _ (List.forall_mem_nil _) fun found before entry listed => ?_
  dsimp only
  split
  · exact before
  · exact List.forall_mem_append.mpr ⟨before, List.forall_mem_singleton.mpr ⟨entry, listed, rfl⟩⟩

/-- An option that was given has a value: the one that was given last. -/
theorem exists_value_of_mem_distinct {given : Given} {name : Text} (member : name ∈ given.distinct) :
    ∃ value, given.value? name = some value := by
  obtain ⟨entry, listed, named⟩ := exists_option_of_mem_distinct name member
  refine Option.isSome_iff_exists.mp ?_
  rw [value?, Option.isSome_map, List.find?_isSome]
  exact ⟨entry, List.mem_reverse.mpr listed, beq_iff_eq.mpr named⟩

theorem foldl_addArgument (given : Given) (arguments : List Text) :
    arguments.foldl addArgument given = { given with arguments := given.arguments ++ arguments } := by
  induction arguments generalizing given with
  | nil => simp
  | cons argument rest ih => simp [ih, addArgument]

end Given

namespace Command

/-- The first argument that is no option names the command. -/
theorem run_parse (setting : Setting) (arguments : List Text) :
    run setting ("parse".toList :: arguments) = parse setting arguments := by
  have read : groupOptions.read ("parse".toList :: arguments) = .ok { arguments := "parse".toList :: arguments } := by
    rw [OptionForms.read, List.length_cons, OptionForms.sort, if_neg (by decide), if_neg (by decide),
      if_neg (by decide), Given.foldl_addArgument]
    rfl
  unfold run
  rw [read]
  rfl

/-- What a call of `parse` asks for: a script, options and a file to be written. -/
structure Order where
  path : Text
  script : Text
  base : Config := {}
  mode : Option ManyToManyMode := none
  conventions : Bool := true
  format : Option Format := none
  target : Text

namespace Order

/-- The options of the inference with those that the call overrides. -/
def config (order : Order) : Config :=
  { order.base with
    manyToMany := order.mode.getD order.base.manyToMany
    conventions := order.base.conventions && order.conventions }

def result (order : Order) : Result :=
  inferSchema order.config (Text.withLineFeeds order.script)

/-- The file to be written: the result of the inference in the format asked for, or in that of the path. -/
def delivery (order : Order) : Path × Text :=
  (Path.ofText order.target,
    (order.format.getD (Format.ofPath order.target)).render order.result.stored.encode)

def request (order : Order) : Request where
  path := order.path
  script := order.script
  config := order.config
  output := some order.target
  format := order.format

end Order

/-- The options and the argument ask for the order, and all that they name is in its place. -/
structure Asks (setting : Setting) (given : Given) (order : Order) : Prop where
  noHelp : given.has helpOption.long = false
  argument : given.arguments = [order.path]
  script : setting.look order.path = .file order.script
  noConfig : given.value? "--config".toList = none → order.base = {}
  config : ∀ file, given.value? "--config".toList = some file →
    ∃ contents, setting.look file = .file contents ∧
      Config.load (Path.ofText file).text contents = .ok order.base
  mode : given.value? "--many-to-many".toList = order.mode.map ManyToManyMode.label
  conventions : given.has "--no-conventions".toList = !order.conventions
  format : given.value? "--format".toList = order.format.map Format.label
  target : given.value? "--output".toList = some order.target
  noFolder : setting.look order.target ≠ .folder
  free : obstacle? setting (Path.ofText order.target) = none

variable {setting : Setting} {given : Given} {order : Order} {arguments : List Text}

theorem Asks.checkOption_eq_ok (asks : Asks setting given order) {name : Text} (member : name ∈ given.distinct) :
    checkOption setting given name = .ok () := by
  obtain ⟨value, valued⟩ := Given.exists_value_of_mem_distinct member
  unfold checkOption
  simp only [valued, Option.getD_some]
  split
  · rename_i same
    rw [same] at valued
    obtain ⟨contents, found, _⟩ := asks.config value valued
    rw [existing, found]
    rfl
  · split
    · rename_i same
      rw [same, asks.mode] at valued
      obtain ⟨mode, _, rfl⟩ := Option.map_eq_some_iff.mp valued
      cases mode <;> rfl
    · split
      · rename_i same
        rw [same, asks.format] at valued
        obtain ⟨format, _, rfl⟩ := Option.map_eq_some_iff.mp valued
        cases format <;> rfl
      · split
        · rename_i same
          rw [same, asks.target] at valued
          cases valued
          rw [if_neg asks.noFolder]
          rfl
        · rfl

theorem Asks.configured (asks : Asks setting given order) : configured order.base given = order.config := by
  have mode : (given.value? "--many-to-many".toList).bind ManyToManyMode.ofLabel? = order.mode := by
    rw [asks.mode]
    cases order.mode with
    | none => rfl
    | some mode => cases mode <;> decide
  rw [Command.configured, mode, asks.conventions, Bool.not_not, Order.config]

theorem Asks.parse_eq_infer (asks : Asks setting given order) (read : parseOptions.read arguments = .ok given) :
    parse setting arguments = infer setting order.request := by
  have argument : fileArgument setting "SQL_FILE".toList given (checkOption setting given) =
      .ok (order.path, order.script) := by
    have checked : given.distinct.forM (checkOption setting given) = .ok () :=
      forM_eq_ok fun name member => asks.checkOption_eq_ok member
    have there : existing setting "SQL_FILE".toList order.path = .ok order.script := by
      rw [existing, asks.script]
      rfl
    rw [fileArgument, checked, asks.argument]
    exact bind_eq_ok.mpr ⟨(), rfl, bind_eq_ok.mpr ⟨order.script, there, rfl⟩⟩
  have format : (given.value? "--format".toList).bind (fun name => (Format.ofName name).toOption) = order.format := by
    rw [asks.format]
    cases order.format with
    | none => rfl
    | some format => cases format <;> rfl
  unfold Command.parse
  simp only [read, asks.noHelp, Bool.false_eq_true, if_false, argument, asks.target, format]
  cases config : given.value? "--config".toList with
  | none =>
      dsimp only
      rw [← asks.noConfig config, asks.configured]
      rfl
  | some file =>
      obtain ⟨contents, found, loads⟩ := asks.config file config
      simp only [found, loads, asks.configured]
      rfl

end Command

end Schemata
