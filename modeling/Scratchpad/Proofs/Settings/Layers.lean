import Scratchpad.Host.Program
import Scratchpad.Proofs.Evaluator.Lookup
import Scratchpad.Proofs.Json.Compact
import Scratchpad.Proofs.Text.Utf8
import Scratchpad.Proofs.Wire.Fields

/-!
# Layers of settings

Settings are put together one by one. Each comes from the environment if it is given there as a
text, else from the file if that has a member for it, else it is the default. What a file says
besides, and in which order, makes no difference. Settings that pass the one check before the
program starts pass every later one: only a root on the web that is no URL stops them.
-/

set_option autoImplicit false

namespace Scratchpad.Settings

open Json

/-- The settings that one layer gives. -/
structure Layer where
  examplesRoot : Option String := none
  command : Option String := none
  args : Option (List String) := none
  defaultProgram : Option String := none
  logFilter : Option String := none

/-- The settings under a layer, with those that the layer gives in their place. -/
def Layer.over (layer : Layer) (settings : Settings) : Settings where
  examplesRoot := layer.examplesRoot.getD settings.examplesRoot
  evaluator :=
    { command := layer.command.getD settings.evaluator.command
      args := layer.args.getD settings.evaluator.args }
  defaultProgram := layer.defaultProgram.getD settings.defaultProgram
  logFilter := layer.logFilter.getD settings.logFilter

/-! ## Files -/

/-- What a file gives of the evaluator, by name or by place. -/
inductive GivesEvaluator : Option Value → Option String → Option (List String) → Prop where
  | absent : GivesEvaluator none none none
  | object {members command args} : Gives members "command" (command.map .string) →
      Gives members "args" (args.map fun texts => .array (texts.map .string)) →
      GivesEvaluator (some (.object members)) command args
  | empty : GivesEvaluator (some (.array [])) none none
  | command {text} : GivesEvaluator (some (.array [.string text])) (some text) none
  | both {text texts} :
      GivesEvaluator (some (.array [.string text, .array (texts.map .string)])) (some text)
        (some texts)

/-- What a file gives that has these members. -/
structure FileGives (members : List (String × Value)) (layer : Layer) : Prop where
  examplesRoot : Gives members "examples_root" (layer.examplesRoot.map .string)
  evaluator : ∃ value?, Gives members "module" value? ∧
    GivesEvaluator value? layer.command layer.args
  defaultProgram : Gives members "default_program" (layer.defaultProgram.map .string)
  logFilter : Gives members "log_filter" (layer.logFilter.map .string)

theorem found_texts_iff {value : Value} {texts : List String} :
    found (Draft.list Draft.text) value = some texts ↔ value = .array (texts.map .string) :=
  found_list_of_written fun _ _ => found_text_iff

theorem field?_text_iff {name : String} {members : List (String × Value)} {text : Option String} :
    field? name (found Draft.text) members = some text ↔ Gives members name (text.map .string) :=
  field?_of_written fun _ _ => found_text_iff

section Evaluator

variable {settings : EvaluatorSettings}

theorem found_evaluator_object_iff {members : List (String × Value)} :
    found EvaluatorSettings.shape.read (.object members) = some settings ↔
      ∃ command, Gives members "command" (command.map .string) ∧
        ∃ args, Gives members "args" (args.map fun texts => .array (texts.map .string)) ∧
          EvaluatorSettings.ofForm ⟨command, args⟩ = settings := by
  have texts {args : Option (List String)} :
      field? "args" (found (Draft.list Draft.text)) members = some args ↔
        Gives members "args" (args.map fun texts => .array (texts.map .string)) :=
    field?_of_written fun _ _ => found_texts_iff
  simp only [EvaluatorSettings.found_object, Option.bind_eq_bind, Option.bind_eq_some_iff,
    field?_text_iff, texts, Option.pure_def, Option.some.injEq]

theorem found_evaluator_nil :
    found EvaluatorSettings.shape.read (.array []) = some (EvaluatorSettings.ofForm {}) := by
  rw [Shape.found_array]
  rfl

theorem found_evaluator_one (first : Value) :
    found EvaluatorSettings.shape.read (.array [first]) =
      (found Draft.text first).map fun text => EvaluatorSettings.ofForm ⟨some text, none⟩ := by
  rw [Shape.found_array]
  simp only [EvaluatorSettings.shape, fillEach, Field.of, found_map]
  cases found Draft.text first <;> rfl

theorem found_evaluator_two (first second : Value) :
    found EvaluatorSettings.shape.read (.array [first, second]) =
      (found Draft.text first).bind fun text =>
        (found (Draft.list Draft.text) second).map fun texts =>
          EvaluatorSettings.ofForm ⟨some text, some texts⟩ := by
  rw [Shape.found_array]
  simp only [EvaluatorSettings.shape, fillEach, Field.of, found_map]
  cases found Draft.text first <;> cases found (Draft.list Draft.text) second <;> rfl

theorem found_evaluator_more {first second third : Value} {items : List Value} :
    found EvaluatorSettings.shape.read (.array (first :: second :: third :: items)) = none := by
  rw [Shape.found_array]
  simp [EvaluatorSettings.shape, fillEach, Field.of]

theorem found_evaluator_iff {value : Value} :
    found EvaluatorSettings.shape.read value = some settings ↔
      ∃ command args, GivesEvaluator (some value) command args ∧
        EvaluatorSettings.ofForm ⟨command, args⟩ = settings := by
  match value with
  | .object members =>
    rw [found_evaluator_object_iff]
    constructor
    · intro ⟨command, named, args, listed, same⟩
      exact ⟨command, args, .object named listed, same⟩
    · intro ⟨command, args, gives, same⟩
      cases gives with
      | object named listed => exact ⟨command, named, args, listed, same⟩
  | .array [] =>
    rw [found_evaluator_nil, Option.some.injEq]
    constructor
    · intro same
      exact ⟨none, none, .empty, same⟩
    · intro ⟨command, args, gives, same⟩
      cases gives
      exact same
  | .array [first] =>
    simp only [found_evaluator_one, Option.map_eq_some_iff, found_text_iff]
    constructor
    · intro ⟨text, here, same⟩
      cases here
      exact ⟨some text, none, .command, same⟩
    · intro ⟨command, args, gives, same⟩
      cases gives
      exact ⟨_, rfl, same⟩
  | .array [first, second] =>
    simp only [found_evaluator_two, Option.bind_eq_some_iff, Option.map_eq_some_iff,
      found_text_iff, found_texts_iff]
    constructor
    · intro ⟨text, here, texts, there, same⟩
      cases here
      cases there
      exact ⟨some text, some texts, .both, same⟩
    · intro ⟨command, args, gives, same⟩
      cases gives
      exact ⟨_, rfl, _, rfl, same⟩
  | .array (first :: second :: third :: items) =>
    rw [found_evaluator_more]
    exact ⟨nofun, fun ⟨_, _, gives, _⟩ => nomatch gives⟩
  | .null | .boolean _ | .number _ | .string _ =>
    exact ⟨nofun, fun ⟨_, _, gives, _⟩ => nomatch gives⟩

end Evaluator

/-- An object is read as the settings of what it gives, over the defaults. -/
theorem ofText_eq_ok_iff {text : String} {members : List (String × Value)}
    (holds : Holds text (.object members)) {settings : Settings} :
    ofText text = .ok settings ↔ ∃ layer, FileGives members layer ∧ layer.over {} = settings := by
  have reads : (ofText text).toOption = found shape.read (.object members) :=
    lawful.faithful_read.read holds
  have evaluator {held : Option EvaluatorSettings} :
      field? "module" (found EvaluatorSettings.shape.read) members = some held ↔
        ∃ value?, Gives members "module" value? ∧
          value?.map (found EvaluatorSettings.shape.read) = held.map some :=
    field?_eq_some_iff
  rw [← toOption_eq_some_iff, reads, found_object]
  simp only [Option.bind_eq_bind, Option.bind_eq_some_iff, field?_text_iff, evaluator,
    Option.pure_def, Option.some.injEq]
  constructor
  · intro ⟨root, rooted, held, ⟨value?, given, found⟩, program, shown, filter, filtered, same⟩
    cases value? with
    | none =>
      cases held with
      | some _ => cases found
      | none =>
        exact ⟨⟨root, none, none, program, filter⟩,
          ⟨rooted, ⟨none, given, .absent⟩, shown, filtered⟩, same⟩
    | some value =>
      cases held with
      | none => cases found
      | some inner =>
        obtain ⟨command, args, gives, made⟩ := found_evaluator_iff.mp (Option.some.inj found)
        cases made
        exact ⟨⟨root, command, args, program, filter⟩,
          ⟨rooted, ⟨some value, given, gives⟩, shown, filtered⟩, same⟩
  · intro ⟨layer, ⟨rooted, ⟨value?, given, gives⟩, shown, filtered⟩, same⟩
    cases value? with
    | none =>
      obtain ⟨root, command, args, program, filter⟩ := layer
      cases gives
      exact ⟨root, rooted, none, ⟨none, given, rfl⟩, program, shown, filter, filtered, same⟩
    | some value =>
      refine ⟨_, rooted, some _, ⟨some value, given, ?_⟩, _, shown, _, filtered, same⟩
      exact congrArg some (found_evaluator_iff.mpr ⟨_, _, gives, rfl⟩)

/-- What the file gives that the environment names. -/
inductive LayerOfFile (files : FileSystem) : Option (List UInt8) → Layer → Prop where
  | none : LayerOfFile files none {}
  | read {path node text members layer} : files.findBytes path = .ok node → node.text = .ok text →
      Holds text (.object members) → FileGives members layer → LayerOfFile files (some path) layer

theorem LayerOfFile.base_eq {files : FileSystem} {environment : Environment} {layer : Layer}
    (gives : LayerOfFile files environment.configFile layer) :
    base files environment = .ok (layer.over {}) := by
  obtain ⟨_, configFile, _, _⟩ := environment
  cases gives with
  | none => rfl
  | read located reads holds given =>
    have made := (ofText_eq_ok_iff holds).mpr ⟨_, given, rfl⟩
    simp only [base, ofFile, located, Except.bind, reads, made]
    rfl

/-! ## The environment -/

/-- What the environment gives one by one. A variable counts if its bytes are those of a text. -/
structure LayerOfEnvironment (environment : Environment) (layer : Layer) : Prop where
  examplesRoot : ∀ text, layer.examplesRoot = some text ↔
    environment.examplesRoot = some (Text.Utf8.encode text.toList)
  command : ∀ text, layer.command = some text ↔
    environment.command = some (Text.Utf8.encode text.toList)
  others : layer.args = none ∧ layer.defaultProgram = none ∧ layer.logFilter = none

theorem variableText_eq_some_iff {value : Option (List UInt8)} {text : String} :
    variableText value = some text ↔ value = some (Text.Utf8.encode text.toList) := by
  cases value with
  | none => exact ⟨nofun, nofun⟩
  | some bytes =>
    simp only [variableText, Option.bind_some, Option.map_eq_some_iff, toOption_eq_some_iff,
      Text.Utf8.decode_eq_ok_iff, Option.some.injEq]
    constructor
    · intro ⟨cs, encoded, same⟩
      rw [encoded, ← same, String.toList_ofList]
    · intro encoded
      exact ⟨text.toList, encoded, String.ofList_toList⟩

theorem layerOfEnvironment (environment : Environment) :
    LayerOfEnvironment environment
      { examplesRoot := variableText environment.examplesRoot
        command := variableText environment.command } where
  examplesRoot _ := variableText_eq_some_iff
  command _ := variableText_eq_some_iff
  others := ⟨rfl, rfl, rfl⟩

theorem validate_eq_ok_iff {settings : Settings} :
    settings.validate = .ok () ↔ Text.allBlank settings.examplesRoot = false ∧
      Text.allBlank settings.evaluator.command = false := by
  unfold validate
  cases Text.allBlank settings.examplesRoot <;> cases Text.allBlank settings.evaluator.command <;>
    simp

theorem resolve_eq_ok_iff {files : FileSystem} {environment : Environment} {layer : Settings}
    (given : base files environment = .ok layer) {settings : Settings} :
    resolve files environment = .ok settings ↔
      settings = layer.override environment ∧ settings.validate = .ok () := by
  have checked : resolve files environment =
      ((layer.override environment).validate.mapError SetupError.config).map
        fun _ => layer.override environment := by
    rw [resolve, given]
    rfl
  rw [checked]
  cases valid : (layer.override environment).validate with
  | error invalid =>
    refine ⟨nofun, fun ⟨same, passed⟩ => ?_⟩
    rw [same, valid] at passed
    cases passed
  | ok passed =>
    constructor
    · intro same
      cases same
      exact ⟨rfl, valid⟩
    · intro ⟨same, _⟩
      rw [same]
      rfl

/-! ## What the settings are for -/

section Valid

variable {settings : Settings} (valid : settings.validate = .ok ())

include valid

theorem source_of_valid {trimmed : List Char}
    (trims : Text.Trims settings.examplesRoot.toList trimmed) :
    settings.source =
      if Catalog.Source.isWebRoot trimmed then
        (Catalog.Source.ofUrl (String.ofList trimmed)).mapError .catalog
      else .ok (.directory trimmed) := by
  have filled : ¬ trimmed.isEmpty = true := by
    rw [List.isEmpty_iff]
    exact trims.ne_nil (validate_eq_ok_iff.mp valid).1
  have named : settings.source =
      (Catalog.Source.ofRoot settings.examplesRoot).mapError .catalog := by
    rw [source, valid]
    rfl
  rw [named, Catalog.Source.ofRoot, ← trims.eq_trimChars, if_neg filled]
  cases Catalog.Source.isWebRoot trimmed <;> rfl

/-- Valid settings have a source, unless their root is on the web and no URL. -/
theorem source_fails_iff {trimmed : List Char}
    (trims : Text.Trims settings.examplesRoot.toList trimmed) :
    (∃ error, settings.source = .error error) ↔
      ("http://".toList <+: trimmed ∨ "https://".toList <+: trimmed) ∧
        ∃ error, Url.parse trimmed = .error error := by
  have web : Catalog.Source.isWebRoot trimmed = true ↔
      "http://".toList <+: trimmed ∨ "https://".toList <+: trimmed := by
    rw [Catalog.Source.isWebRoot, Bool.or_eq_true, List.isPrefixOf_iff_prefix,
      List.isPrefixOf_iff_prefix]
    rfl
  rw [source_of_valid valid trims, ← web]
  cases Catalog.Source.isWebRoot trimmed with
  | false => simp
  | true =>
    rw [Catalog.Source.ofUrl, String.toList_ofList]
    cases Url.parse trimmed with
    | ok url =>
      constructor
      · rintro ⟨_, ⟨⟩⟩
      · rintro ⟨-, _, ⟨⟩⟩
    | error fault => exact ⟨fun _ => ⟨rfl, _, rfl⟩, fun _ => ⟨_, rfl⟩⟩

theorem evaluator_ne_load (source : Catalog.Source) (searchPath : Option (List UInt8))
    (files : FileSystem) (reason : String) :
    Host.Setup.evaluator ⟨settings, source, searchPath⟩ files ≠ .error (.load reason) := by
  intro failed
  have trims := Text.trims_trimChars settings.evaluator.command.toList
  refine trims.ne_nil (validate_eq_ok_iff.mp valid).2 ?_
  refine (Evaluator.Command.resolve_eq_load_iff trims files searchPath).mp ⟨reason, ?_⟩
  unfold Host.Setup.evaluator Evaluator.Command.load at failed
  cases found : Evaluator.Command.resolve files searchPath settings.evaluator.command with
  | ok executable => simp [found, Except.map] at failed
  | error error => simpa [found, Except.map] using failed

end Valid

/-- The environment names no file, or one that holds an object of settings. -/
inductive FileDecodes (files : FileSystem) : Option (List UInt8) → Prop where
  | none : FileDecodes files none
  | object {path node text members settings} : files.findBytes path = .ok node →
      node.text = .ok text → Holds text (.object members) → ofText text = .ok settings →
      FileDecodes files (some path)

theorem FileDecodes.exists_layer {files : FileSystem} {path : Option (List UInt8)}
    (decodes : FileDecodes files path) : ∃ layer, LayerOfFile files path layer := by
  cases decodes with
  | none => exact ⟨_, .none⟩
  | object located reads holds made =>
    obtain ⟨layer, gives, _⟩ := (ofText_eq_ok_iff holds).mp made
    exact ⟨layer, .read located reads holds gives⟩

/-- Settings are put together one by one from the environment, the file and the defaults, and can be
used if neither the root nor the command is blank. Then the program starts with them unless the
root is on the web and no URL, shows the first program they name, and never lacks a command. -/
theorem settings_layered (files : FileSystem) (environment : Environment) :
    (∀ text members, Holds text (.object members) → ∀ settings,
      (ofText text = .ok settings ↔
        ∃ layer, FileGives members layer ∧ layer.over {} = settings)) ∧
    (FileDecodes files environment.configFile →
      ∃ file own, LayerOfFile files environment.configFile file ∧
        LayerOfEnvironment environment own ∧ ∀ settings,
          (resolve files environment = .ok settings ↔ settings = own.over (file.over {}) ∧
            Text.allBlank settings.examplesRoot = false ∧
            Text.allBlank settings.evaluator.command = false)) ∧
    ∀ settings : Settings, settings.validate = .ok () →
      (∀ trimmed, Text.Trims settings.examplesRoot.toList trimmed →
        ((∃ error, settings.source = .error error) ↔
          ("http://".toList <+: trimmed ∨ "https://".toList <+: trimmed) ∧
            ∃ error, Url.parse trimmed = .error error)) ∧
      ∀ source, settings.source = .ok source → ∀ searchPath,
        let setup : Host.Setup := ⟨settings, source, searchPath⟩
        (∀ session, (setup.host session).controller.session.program =
          settings.defaultProgram) ∧
        ∀ reason, setup.evaluator files ≠ .error (.load reason) := by
  refine ⟨fun text members holds settings => ofText_eq_ok_iff holds, ?_, ?_⟩
  · intro decodes
    obtain ⟨file, gives⟩ := decodes.exists_layer
    refine ⟨file, _, gives, layerOfEnvironment environment, fun settings => ?_⟩
    rw [resolve_eq_ok_iff gives.base_eq, validate_eq_ok_iff]
    rfl
  · intro settings valid
    refine ⟨fun trimmed trims => source_fails_iff valid trims, ?_⟩
    intro source _ searchPath
    exact ⟨fun session => rfl, evaluator_ne_load valid source searchPath files⟩

/-- A file that gives the arguments of the evaluator, a blank root and what is no setting, under an
environment that gives a root on the web and a command that is no text. -/
theorem settings_layered_in_part :
    let members : List (String × Value) :=
      [("command", .null), ("module", .object [("args", .array [.string "-v"]), ("root", .null)]),
        ("examples_root", .string " ")]
    let text := (Value.object members).compact
    let files : FileSystem :=
      ⟨.directory [(['c'], .file (.bytes (Text.Utf8.encode text.toList)) 0)], []⟩
    let environment : Environment :=
      { configFile := some [0x63]
        examplesRoot := some (Text.Utf8.encode " http://[\n".toList)
        command := some [0xFF] }
    let settings : Settings := { examplesRoot := " http://[\n", evaluator := { args := ["-v"] } }
    Holds text (.object members) ∧ FileDecodes files environment.configFile ∧
      resolve files environment = .ok settings ∧ settings.validate = .ok () ∧
      Text.Trims settings.examplesRoot.toList "http://[".toList ∧
      (∃ error, settings.source = .error error) ∧
      Settings.source { settings with examplesRoot := "e" } = .ok (.directory ['e']) ∧
      ∀ reason, Host.Setup.evaluator ⟨{ settings with examplesRoot := "e" }, .directory ['e'], none⟩
        files ≠ .error (.load reason) := by
  intro members text files environment settings
  have holds : Holds text (.object members) :=
    Value.Exact.holds (by simp [members, Value.Exact, Value.MembersExact, Value.ItemsExact])
  have gives : FileGives members { examplesRoot := some " ", args := some ["-v"] } :=
    ⟨rfl, ⟨some (.object [("args", .array [.string "-v"]), ("root", .null)]), rfl,
      .object rfl rfl⟩, rfl, rfl⟩
  have made := ((settings_layered files environment).1 text members holds _).mpr ⟨_, gives, rfl⟩
  have reads : (Node.file (.bytes (Text.Utf8.encode text.toList)) 0).text = .ok text := by
    rw [Node.text, Text.Utf8.decode_encode]
    exact congrArg Except.ok String.ofList_toList
  have decodes : FileDecodes files environment.configFile := .object rfl reads holds made
  have valid : settings.validate = .ok () := validate_eq_ok_iff.mpr (by decide)
  have trims : Text.Trims settings.examplesRoot.toList "http://[".toList := by
    rw [show "http://[".toList = Text.trimChars " http://[\n".toList by decide]
    exact Text.trims_trimChars _
  have plain : Settings.validate { settings with examplesRoot := "e" } = .ok () :=
    validate_eq_ok_iff.mpr (by decide)
  have located : Settings.source { settings with examplesRoot := "e" } = .ok (.directory ['e']) := by
    rw [source_of_valid plain (Text.trims_trimChars _),
      show Text.trimChars "e".toList = ['e'] by decide, if_neg (by decide)]
  refine ⟨holds, decodes, ?_, valid, trims, ?_, located, ?_⟩
  · obtain ⟨file, own, fromFile, fromEnvironment, merged⟩ :=
      (settings_layered files environment).2.1 decodes
    have base : file.over {} = Layer.over { examplesRoot := some " ", args := some ["-v"] } {} :=
      Except.ok.inj (fromFile.base_eq.symm.trans (LayerOfFile.read rfl reads holds gives).base_eq)
    have root : own.examplesRoot = some " http://[\n" := (fromEnvironment.examplesRoot _).mpr rfl
    have command : own.command = none := by
      cases named : own.command with
      | none => rfl
      | some text =>
        have bytes := (fromEnvironment.command text).mp named
        have decoded := Text.Utf8.decode_encode text.toList
        rw [← Option.some.inj bytes] at decoded
        cases decoded
    refine (merged settings).mpr ⟨?_, by decide, by decide⟩
    rw [base, Layer.over, root, command, fromEnvironment.others.1, fromEnvironment.others.2.1,
      fromEnvironment.others.2.2]
    rfl
  · refine (((settings_layered files environment).2.2 settings valid).1 _ trims).mpr ⟨?_, ?_⟩
    · exact .inl ⟨['['], rfl⟩
    · exact ⟨_, rfl⟩
  · exact (((settings_layered files environment).2.2 _ plain).2 _ located none).2

end Scratchpad.Settings
