import ImageSigning.Proofs.Precedence
import ImageSigning.Signing

/-!
# The settings of a token

Module, secret and tool of a token are settled twice: the configuration puts them together from the profile
and the environment, and the engine that is made from it looks into the environment again for what it finds
wanting. By the rule a variable counts unless it is empty, then the profile's value unless it is null, and
then what is built in. The two together keep to the rule, but for null in a profile, which becomes text, and
for a tool that one of the two takes for given and the other does not because it is empty.

* **`Setting.ruled`**, **`Setting.taken`** — a setting of a token by the rule, and as it comes out of the
  configuration.
* **`Engine.arguments?_congr`**, **`Provider.checkModule_congr`** — of module and secret, only what is not
  empty is used.
* **`Configuration.engine_settings`** — what the engine uses, and when it is what the rule says.
-/

namespace ImageSigning

/-! ## The rule -/

/-- A value as text; null is none. -/
def Value.text? : Value → Option String
  | null => none
  | v => some v.display

namespace Setting

variable (s : Setting) (t : Table) (environment : List (String × String))

/-- What the section of a profile for a token has in the place of a setting. -/
def entry? : Option Value := s.sectionName?.bind fun name => t.sectionOf.named? name

/-- What the variable of a setting holds. -/
def inVariable : Option String := s.variableName?.bind fun name => environment.lookup name

/-- A setting of a token by the rule: what its variable holds, unless that is empty, or else what the
profile says, unless that is null. -/
def ruled : Option String := (Engine.given (s.inVariable environment)).or ((s.entry? t).bind Value.text?)

/-- A setting of a token as it is taken: what the profile says becomes text, whatever it is. -/
def taken : Option String := (Engine.given (s.inVariable environment)).or ((s.entry? t).map Value.display)

/-- Whether null in the profile decides on a setting. -/
def IsNulled : Prop := Engine.given (s.inVariable environment) = none ∧ s.entry? t = some .null

/-- The settings of a token. -/
def ofToken : List Setting := inTokenSection.map Prod.snd

variable {s t environment}

/-- What is taken is what rules, unless an entry of the environment is nulled. -/
theorem given_taken_eq_iff : Engine.given (s.taken t environment) = Engine.given (s.ruled t environment) ↔
    ¬ s.IsNulled t environment := by
  unfold taken ruled IsNulled
  rcases looked : Engine.given (s.inVariable environment) with _ | x
  · rcases noted : s.entry? t with _ | v
    · simp
    · cases v with
      | null => simp [Value.text?, Value.display, Value.literal, Engine.given]
      | _ => simp [Value.text?]
  · simp

/-- Where a variable holds something, it is what is taken. -/
theorem taken_of_given {x : String} (h : Engine.given (s.inVariable environment) = some x) :
    s.taken t environment = some x := by
  rw [taken, h]
  rfl

end Setting

/-! ## What is used -/

namespace Engine

/-- A text is given unless it is empty. -/
theorem given_some (v : String) : given (some v) = if v = "" then none else some v := by
  by_cases empty : v = "" <;> simp [given, Option.filter, empty]

/-- What is not empty is given. -/
theorem given_eq_some_iff {x : Option String} {v : String} : given x = some v ↔ x = some v ∧ v ≠ "" := by
  rw [given, Option.filter_eq_some_iff, decide_eq_true_eq]

/-- What is looked up where nothing is given, and is empty itself, is not used. -/
theorem given_orElse {x y : Option String} (h : given x = none → given y = none) :
    given (given x <|> y) = given x ∧ given (x <|> y) = given x := by
  rcases x with _ | v
  · exact ⟨h rfl, h rfl⟩
  · rcases here : given (some v) with _ | w
    · exact ⟨h here, here⟩
    · obtain ⟨same, filled⟩ := given_eq_some_iff.1 here
      exact ⟨same ▸ here, here⟩

/-- Of module and secret, a tool is told what is not empty. -/
theorem arguments?_congr {e e' : Engine} (module : given e.module = given e'.module)
    (pin : given e.pin = given e'.pin) (m : Mechanism) (attributes : KeyReference.Attributes) :
    e.arguments? m attributes = e'.arguments? m attributes := by
  unfold arguments?
  rw [module, pin]

end Engine

/-- Of the module that has to be there, only what is not empty is looked for. -/
theorem Provider.checkModule_congr {module module' : Option String}
    (h : Engine.given module = Engine.given module') (fs : FileSystem) :
    checkModule fs module = checkModule fs module' := by
  unfold checkModule
  rw [h]

namespace Configuration

variable {fs : FileSystem} {profile : Option String} {t : Table} {environment : List (String × String)}
  {arguments : List (String × Value)} {c : Configuration}

/-- Looking a name up commutes with taking the values as texts. -/
theorem lookup_texts (environment : List (String × String)) (name : String) :
    (environment.map fun (n, v) => (n, Value.text v)).lookup name =
      (environment.lookup name).map .text := by
  induction environment with
  | nil => rfl
  | cons x r ih =>
    obtain ⟨n, v⟩ := x
    by_cases same : name == n
    · simp [List.lookup_cons, same]
    · simp [List.lookup_cons, same, ih]

/-- An environment of texts gives a setting its variable, unless that is empty. -/
theorem fromEnvironment_texts (s : Setting) (environment : List (String × String)) :
    s.fromEnvironment (environment.map fun (n, v) => (n, Value.text v)) =
      (Engine.given (s.inVariable environment)).map .text := by
  unfold Setting.fromEnvironment Setting.inVariable
  simp only [lookup_texts]
  rcases s.variableName? with _ | name
  · rfl
  · rw [Option.bind_some, Option.bind_some, Engine.given, Option.filter_map]
    rfl

/-- What the profile gives a setting of a token. -/
theorem fromProfile_token {s : Setting} (token : s ∈ Setting.ofToken) (t : Table) :
    s.fromProfile t = ((s.entry? t).map Value.display).map .text := by
  have apart : ∀ s ∈ Setting.ofToken, s ∉ Setting.inProfile := by decide
  rw [Setting.fromProfile, if_neg (apart s token), Setting.fromSection, Setting.entry?, Option.map_map]
  rfl

/-- A setting of a token comes out of the configuration as it is taken. -/
theorem get_token (held : HoldsProfile fs profile t)
    (accepted : ofSources fs profile (environment.map fun (n, v) => (n, .text v)) arguments = .ok c)
    {s : Setting} (token : s ∈ Setting.ofToken) (untold : s.fromArguments arguments = none) :
    c.get s = Value.ofText? (s.taken t environment) := by
  have usually : s.usual = .null := by
    cases s <;> first | rfl | exact absurd token (by decide)
  rw [held.ofSources_eq] at accepted
  obtain ⟨_, formed, rfl⟩ := Outcome.map_eq_ok.1 accepted
  obtain ⟨_, same, -, rfl⟩ := ofProfile_eq_ok_iff.1 formed
  obtain rfl := Value.table.inj same
  rw [get_ofTable_usual, Setting.given, untold, fromEnvironment_texts, fromProfile_token token,
    usually, Setting.taken]
  rcases Engine.given (s.inVariable environment) with _ | x
  · rcases s.entry? t with _ | v <;> rfl
  · rfl

/-- The options of an engine that has a name are the settings of a token. -/
theorem engineOptions_of_engineName {name : String} (named : c.engineName = .ok (some name)) :
    c.engineOptions = Setting.inTokenSection.map fun (name, s) => (name, c.get s) := by
  unfold engineName at named
  unfold engineOptions
  split at named
  · cases named
  · rename_i here
    rw [here]
  · rename_i here
    rw [here]
  · cases named

/-- The engine that is made from settings that are texts. -/
theorem ofName_eq {name : String} (known : Text.isNameInAnyCase KeyProblem.engineName name = true)
    (module pin tool : Option String) :
    Provider.ofName (some name) [("module", Value.ofText? module), ("pin", Value.ofText? pin),
        ("tool", Value.ofText? tool)] environment
      = .ok (.token (Engine.configure ⟨module, pin, tool⟩ environment)) := by
  have settings : EngineSettings.ofOptions? [("module", Value.ofText? module),
      ("pin", Value.ofText? pin), ("tool", Value.ofText? tool)] = some ⟨module, pin, tool⟩ := by
    cases module <;> cases pin <;> cases tool <;> rfl
  simp [Provider.ofName, known, settings]

/-- The tool is what the rule says exactly if no entry is nulled, the variable is not the empty text
without an entry beside it, and no empty entry stands alone. -/
theorem tool_eq_iff : (Engine.given (Setting.tool.taken t environment)).getD
      ((Setting.tool.inVariable environment).getD Engine.usualTool) =
        (Setting.tool.ruled t environment).getD Engine.usualTool ↔
      ¬ Setting.tool.IsNulled t environment ∧
      ¬ (Setting.tool.inVariable environment = some "" ∧ Setting.tool.entry? t = none) ∧
      ¬ (Setting.tool.inVariable environment = none ∧
        ∃ v, Setting.tool.entry? t = some v ∧ v.display = "") := by
  have named : Engine.usualTool ≠ "" := by decide
  unfold Setting.taken Setting.ruled Setting.IsNulled
  generalize Setting.tool.inVariable environment = x
  generalize Setting.tool.entry? t = entry
  rcases here : Engine.given x with _ | w
  · rcases entry with _ | v
    · -- no entry: the engine takes its variable as it is
      rcases x with _ | w
      · simp [Engine.given]
      · have empty : w = "" := by simpa [Engine.given_some] using here
        subst empty
        simpa [Engine.given] using named.symm
    · by_cases isNull : v = .null
      · subst isNull
        simp [Value.display, Value.literal, Value.text?, Engine.given_some, Engine.usualTool]
      · have shown : v.text? = some v.display := by
          cases v <;> first | rfl | exact absurd rfl isNull
        by_cases empty : v.display = ""
        · -- the entry is nothing: the configuration takes it, the engine does not
          rcases x with _ | w
          · simpa [Engine.given_some, shown, empty] using named
          · have same : w = "" := by simpa [Engine.given_some] using here
            subst same
            simp [Engine.given_some, shown, empty, isNull]
        · simp [Engine.given_some, shown, empty, isNull]
  · obtain ⟨rfl, filled⟩ := Engine.given_eq_some_iff.1 here
    simp [Engine.given_some, filled]

/-- The settings of a token as the engine of a configuration uses them: what its tool is asked and which
module has to be there. Each is what the rule says unless null in the profile decides on it and, of the
tool, unless its variable is set to nothing with no entry in the profile, or the entry is nothing with no
variable. -/
theorem engine_settings {name : String} (held : HoldsProfile fs profile t)
    (accepted : ofSources fs profile (environment.map fun (n, v) => (n, .text v)) arguments = .ok c)
    (untold : ∀ s ∈ Setting.ofToken, s.fromArguments arguments = none)
    (named : c.engineName = .ok (some name))
    (known : Text.isNameInAnyCase KeyProblem.engineName name = true) :
    ∃ e, Provider.ofName (some name) c.engineOptions environment = .ok (.token e) ∧
      Engine.given e.module = Engine.given (Setting.module.taken t environment) ∧
      Engine.given e.pin = Engine.given (Setting.pin.taken t environment) ∧
      e.tool = (Engine.given (Setting.tool.taken t environment)).getD
        ((Setting.tool.inVariable environment).getD Engine.usualTool) ∧
      (∀ m attributes, e.arguments? m attributes =
        Engine.arguments? { e with
          module := Setting.module.taken t environment
          pin := Setting.pin.taken t environment } m attributes) ∧
      (∀ files, Provider.checkModule files e.module =
        Provider.checkModule files (Setting.module.taken t environment)) ∧
      (Engine.given e.module = Engine.given (Setting.module.ruled t environment) ↔
        ¬ Setting.module.IsNulled t environment) ∧
      (Engine.given e.pin = Engine.given (Setting.pin.ruled t environment) ↔
        ¬ Setting.pin.IsNulled t environment) ∧
      (e.tool = (Setting.tool.ruled t environment).getD Engine.usualTool ↔
        ¬ Setting.tool.IsNulled t environment ∧
        ¬ (Setting.tool.inVariable environment = some "" ∧ Setting.tool.entry? t = none) ∧
        ¬ (Setting.tool.inVariable environment = none ∧
          ∃ v, Setting.tool.entry? t = some v ∧ v.display = "")) := by
  have settled {s : Setting} (token : s ∈ Setting.ofToken) :
      c.get s = Value.ofText? (s.taken t environment) :=
    get_token held accepted token (untold s token)
  have options : c.engineOptions = [("module", Value.ofText? (Setting.module.taken t environment)),
      ("pin", Value.ofText? (Setting.pin.taken t environment)),
      ("tool", Value.ofText? (Setting.tool.taken t environment))] := by
    rw [engineOptions_of_engineName named, ← settled (s := .module) (by decide),
      ← settled (s := .pin) (by decide), ← settled (s := .tool) (by decide)]
    rfl
  have nothingNew (s : Setting) (nothing : Engine.given (s.taken t environment) = none) :
      Engine.given (s.inVariable environment) = none := by
    rcases looked : Engine.given (s.inVariable environment) with _ | v
    · rfl
    · have filled := Engine.given_eq_some_iff.1 looked
      rw [Setting.taken_of_given looked, Engine.given_eq_some_iff.2 ⟨rfl, filled.2⟩] at nothing
      cases nothing
  have module := (Engine.given_orElse (nothingNew .module)).1
  have pin := (Engine.given_orElse (nothingNew .pin)).2
  refine ⟨_, options ▸ ofName_eq known _ _ _, module, pin, rfl, Engine.arguments?_congr module pin,
    Provider.checkModule_congr module, ?_, ?_, tool_eq_iff⟩
  · exact (iff_of_eq (congrArg (· = _) module)).trans Setting.given_taken_eq_iff
  · exact (iff_of_eq (congrArg (· = _) pin)).trans Setting.given_taken_eq_iff

/-- A variable that is set to nothing, without a profile: the tool that is used has no name. -/
theorem engine_settings_noName : ∃ c e,
    ofSources .empty none [("SBSIGN_PKCS11_TOOL", .text "")] [("engine", .text "pkcs11")] = .ok c ∧
      Provider.ofName (some "pkcs11") c.engineOptions [("SBSIGN_PKCS11_TOOL", "")] = .ok (.token e) ∧
      e.tool = "" ∧
      (Setting.tool.ruled [] [("SBSIGN_PKCS11_TOOL", "")]).getD Engine.usualTool = "pkcs11-tool" := by
  have held : HoldsProfile .empty none [] := .inl ⟨.inl rfl, rfl⟩
  have untold : ∀ s ∈ Setting.ofToken, s.fromArguments [("engine", .text "pkcs11")] = none := by
    intro s m
    cases s <;> first | rfl | exact absurd m (by decide)
  have accepted : ∃ c,
      ofSources .empty none [("SBSIGN_PKCS11_TOOL", .text "")] [("engine", .text "pkcs11")] = .ok c ∧
        c.engineName = .ok (some "pkcs11") :=
    ⟨_, rfl, rfl⟩
  obtain ⟨c, accepted, named⟩ := accepted
  obtain ⟨e, made, -, -, tool, -⟩ :=
    @engine_settings _ _ _ [("SBSIGN_PKCS11_TOOL", "")] _ _ _ held accepted untold named (by decide)
  exact ⟨c, e, accepted, made, tool, rfl⟩

end Configuration

end ImageSigning
