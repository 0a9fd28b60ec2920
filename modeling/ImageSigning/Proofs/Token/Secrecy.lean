import ImageSigning.Proofs.InStep
import ImageSigning.Proofs.Session
import ImageSigning.Proofs.Token.Signing
import Mathlib.Data.List.Forall2

/-!
# The secret of a token

Two engines that are the same but for their secret are made ready alike, are shut down alike, and ask
their tool for the same signature with arguments that differ in one place: the secret behind its option,
which is the last argument. A tool that takes no notice of it answers both the same, so all that is left
of the secret is in the engines themselves and in what their tools were asked.

* **`ToolRequest.SameBut`**, **`World.SameBut`** — what is the same but for a secret.
* **`World.IgnoresSecret`** — programs that take no notice of it.
* **`Engine.arguments?_sameBut`** — the secret is in the last argument and nowhere else.
* **`Provider.setUp_blind`**, **`Provider.shutDown_blind`**, **`SigningKey.sign_blind`**,
  **`Identity.inStep_provider`** — what is done with a provider is in step, whatever the secret is.
-/

namespace ImageSigning

open Run

/-! ## The same but for a secret -/

/-- Two things that are the same, or the one and the other of two. -/
def SameOr {α : Type} (a b x y : α) : Prop := x = y ∨ (x = a ∧ y = b)

/-- A secret that a program can be given: it is not empty, and no character ends it early. -/
structure IsPassable (secret : String) : Prop where
  filled : secret ≠ ""
  whole : '\x00' ∉ secret.toList

/-- The arguments that hand a secret to a tool. -/
def Engine.loginArguments (secret : String) : List ToolArgument :=
  .word "--login" :: option "--pin" secret

/-- Engines that are the same but for their secret, which is `p` in the one and `q` in the other if it is
not the same. -/
structure Engine.SameBut (p q : String) (e e' : Engine) : Prop where
  module : e'.module = e.module
  pin : SameOr (some p) (some q) e.pin e'.pin
  tool : e'.tool = e.tool
  session : e'.session = e.session

/-- Providers that are the same but for their secret. -/
inductive Provider.SameBut (p q : String) : Provider → Provider → Prop
  | files : SameBut p q .files .files
  | token {e e' : Engine} (h : e.SameBut p q e') : SameBut p q (.token e) (.token e')

/-- Requests that are the same but for a secret, which is the last argument. -/
inductive ToolRequest.SameBut (p q : String) : ToolRequest → ToolRequest → Prop
  | same (r : ToolRequest) : SameBut p q r r
  | login (front : List ToolArgument) (directory : Nat) (input : Bytes) :
    SameBut p q ⟨front ++ Engine.loginArguments p, directory, input⟩
      ⟨front ++ Engine.loginArguments q, directory, input⟩

/-- Runs of the same program, the same but for a secret. -/
structure ToolCall.SameBut (p q : String) (c c' : ToolCall) : Prop where
  program : c'.program = c.program
  request : c.request.SameBut p q c'.request

/-- Surroundings that are the same but for a secret: it may be in the variable for it, in what providers
know, and in what programs were asked. All else is the same, what was told and what programs do
included. -/
structure World.SameBut (p q : String) (w w' : World) : Prop where
  files : w'.files = w.files
  environment : ∀ name ≠ Engine.pinVariable, w'.environment.lookup name = w.environment.lookup name
  inVariable : SameOr (some p) (some q) (w.environment.lookup Engine.pinVariable)
    (w'.environment.lookup Engine.pinVariable)
  providers : List.Forall₂ (Provider.SameBut p q) w.providers w'.providers
  registered : w'.registered = w.registered
  directories : w'.directories = w.directories
  respond : w'.respond = w.respond
  calls : List.Forall₂ (ToolCall.SameBut p q) w.calls w'.calls
  journal : w'.journal = w.journal

/-- Whether programs take no notice of a secret: how they end, what they complain about and what signature
they write is the same for requests that are the same but for it. -/
def World.IgnoresSecret (p q : String) (w : World) : Prop :=
  ∀ program before r r', ToolRequest.SameBut p q r r' →
    w.respond program before r' = w.respond program before r

/-- Surroundings that are the same but for a secret which programs take no notice of. -/
structure World.Twins (p q : String) (w w' : World) : Prop extends w.SameBut p q w' where
  ignores : w.IgnoresSecret p q

variable {p q : String} {w w' : World} {n : Nat}

/-! ## What the tool is asked -/

namespace Engine

variable {e e' : Engine}

/-- Engines that are the same but for the secret stay so with the same session. -/
theorem SameBut.withSession (h : e.SameBut p q e') (s : Option Session) :
    SameBut p q { e with session := s } { e' with session := s } :=
  { h with session := rfl }

/-- A secret that is passable puts no null character into the arguments. -/
theorem any_hasNull_loginArguments (h : IsPassable p) :
    (loginArguments p).any hasNull = false := by
  have plain : p.toList.contains '\x00' = false := by
    simpa using h.whole
  simp only [loginArguments, option, List.any_cons, List.any_nil, hasNull, plain, Bool.or_false]
  decide

/-- A secret that is passable is not empty, so it is given. -/
theorem given_of_passable (h : IsPassable p) : given (some p) = some p := by
  simp [given, Option.filter, h.filled]

/-- The secret is the last argument, if it is there, and nowhere else. -/
theorem arguments?_sameBut (hp : IsPassable p) (hq : IsPassable q) (h : e.SameBut p q e')
    (m : Mechanism) (attributes : KeyReference.Attributes) :
    e.arguments? m attributes = e'.arguments? m attributes ∨
      ∃ front, e.arguments? m attributes = some (front ++ loginArguments p) ∧
        e'.arguments? m attributes = some (front ++ loginArguments q) := by
  unfold arguments?
  rw [h.module]
  rcases h.pin with same | ⟨here, there⟩
  · rw [same]
    exact .inl rfl
  · rw [here, there, given_of_passable hp, given_of_passable hq]
    rcases keyArguments? attributes with _ | key
    · exact .inl rfl
    · exact .inr ⟨_, rfl, rfl⟩

/-- Engines that are the same but for the secret ask their tool for the same, but for the secret. -/
theorem toolRun_sameBut (hp : IsPassable p) (hq : IsPassable q) (h : e.SameBut p q e') (s : Session)
    (attributes : Option KeyReference.Attributes) (m : Mechanism) (message : Bytes)
    (files : FileSystem) {environment environment' : List (String × String)}
    (search : environment'.lookup Tool.searchVariable = environment.lookup Tool.searchVariable) :
    Agree Eq (ToolCall.SameBut p q) (e.toolRun s attributes m message files environment)
      (e'.toolRun s attributes m message files environment') := by
  unfold toolRun
  rw [Tool.program_congr search]
  rcases attributes with _ | attributes
  · exact .error rfl
  dsimp only
  rcases arguments?_sameBut hp hq h m attributes with same | ⟨front, here, there⟩
  · rw [← same]
    rcases e.arguments? m attributes with _ | arguments
    · exact .error rfl
    dsimp only
    split_ifs
    · exact .error rfl
    rcases Tool.program files environment s.tool with cause | program
    · rw [h.tool]
      exact .error rfl
    · exact .ok ⟨rfl, .same _⟩
  · rw [here, there]
    dsimp only
    simp only [List.any_append, any_hasNull_loginArguments hp, any_hasNull_loginArguments hq]
    split_ifs
    · exact .error rfl
    rcases Tool.program files environment s.tool with cause | program
    · rw [h.tool]
      exact .error rfl
    · exact .ok ⟨rfl, .login front s.directory message⟩

end Engine

/-! ## Changes to the surroundings -/

namespace World

/-- Lists that are related element by element stay so when related elements are put at one place. -/
theorem forall₂_set {α β : Type} {R : α → β → Prop} {as : List α} {bs : List β}
    (h : List.Forall₂ R as bs) (n : Nat) {a : α} {b : β} (here : R a b) :
    List.Forall₂ R (as.set n a) (bs.set n b) := by
  induction h generalizing n with
  | nil => exact .nil
  | cons first rest ih =>
    cases n with
    | zero => exact .cons here rest
    | succ n => exact .cons first (ih n)

/-- The providers with a number are the same but for the secret, if there are any. -/
theorem SameBut.provider_cases (h : w.SameBut p q w') (n : Nat) :
    (w.providers[n]? = none ∧ w'.providers[n]? = none) ∨
      ∃ x x', w.providers[n]? = some x ∧ w'.providers[n]? = some x' ∧ x.SameBut p q x' := by
  have size := h.providers.length_eq
  by_cases inside : n < w.providers.length
  · have inside' : n < w'.providers.length := size ▸ inside
    refine .inr ⟨_, _, List.getElem?_eq_getElem inside, List.getElem?_eq_getElem inside', ?_⟩
    exact h.providers.get inside inside'
  · have outside := Nat.not_lt.1 inside
    exact .inl ⟨List.getElem?_eq_none outside, List.getElem?_eq_none (size ▸ outside)⟩

/-- Surroundings stay twins when both are told an event. -/
theorem Twins.tell (h : w.Twins p q w') (e : Event) : (w.tell e).Twins p q (w'.tell e) :=
  { h with journal := congrArg (· ++ [e]) h.journal }

/-- Surroundings stay twins when both are given providers that are the same but for the secret. -/
theorem Twins.setProvider (h : w.Twins p q w') (n : Nat) {x x' : Provider} (same : x.SameBut p q x') :
    (w.setProvider n x).Twins p q (w'.setProvider n x') :=
  { h with providers := forall₂_set h.providers n same }

/-- The directories with tools are the same. -/
theorem SameBut.search (h : w.SameBut p q w') :
    w'.environment.lookup Tool.searchVariable = w.environment.lookup Tool.searchVariable :=
  h.environment _ (by decide)

/-- Surroundings that are the same but for the secret have the same free directory. -/
theorem SameBut.freeDirectory (h : w.SameBut p q w') : w'.freeDirectory = w.freeDirectory := by
  unfold World.freeDirectory
  rw [h.directories]

end World

/-- Runs that go alike in surroundings that are the same but for a secret. -/
abbrev Run.AreTwins {α β : Type} (p q : String) (Q : α → β → Prop) (x : Run α) (y : Run β) : Prop :=
  InStep (World.Twins p q) Eq Q x y

/-- A run that goes alike whatever the secret is. -/
abbrev Run.IsBlind {α : Type} (p q : String) (x : Run α) : Prop := AreTwins p q Eq x x

/-- Telling an event does not look at the secret. -/
theorem tell_blind (e : Event) : IsBlind p q (tell e) :=
  inStep_modify fun _ _ alike => alike.tell e

/-! ## Signing on a token -/

/-- Engines that are the same but for the secret give the same answer. -/
theorem Engine.inStep_sign {e e' : Engine} (hp : IsPassable p) (hq : IsPassable q)
    (h : e.SameBut p q e') (attributes : Option KeyReference.Attributes) (m : Mechanism)
    (message : Bytes) :
    AreTwins p q Eq (e.sign n attributes m message) (e'.sign n attributes m message) := by
  rcases session : e.session with _ | s
  · have session' : e'.session = none := h.session.trans session
    unfold sign
    rw [session, session']
    exact inStep_fail _
  · have session' : e'.session = some s := h.session.trans session
    refine ⟨fun w w' alike => ?_⟩
    have kept (s : Session) : (kept w n e s).Twins p q (kept w' n e' s) :=
      alike.setProvider n (.token (h.withSession (some s)))
    rw [sign_eq session, sign_eq session', alike.files]
    have asked := toolRun_sameBut hp hq h s attributes m message w.files alike.search
    generalize e.toolRun s attributes m message w.files w.environment = o at asked
    generalize e'.toolRun s attributes m message w.files w'.environment = o' at asked
    cases asked with
    | error same => exact ⟨.error same, kept _⟩
    | @ok c c' same =>
      have replied : reply w' c' = reply w c := by
        unfold reply
        rw [alike.respond, same.program, ← alike.calls.length_eq]
        exact alike.ignores _ _ _ _ same.request
      dsimp only
      rw [replied]
      refine ⟨?_, { kept _ with calls := ?_ }⟩
      · unfold answer
        rw [h.tool]
        exact Agree.refl _
      · exact List.rel_append alike.calls (.cons same .nil)

namespace Provider

/-- Providers that are the same but for the secret have the same name. -/
theorem SameBut.name {x x' : Provider} (h : x.SameBut p q x') : x'.name = x.name := by
  cases h <;> rfl

/-- Providers that are the same but for the secret are the same source of keys. -/
theorem SameBut.source {x x' : Provider} (h : x.SameBut p q x') (n : Nat) :
    x'.source n = x.source n := by
  cases h <;> rfl

/-- Asking a provider for a signature does not let its secret show. -/
theorem sign_blind (hp : IsPassable p) (hq : IsPassable q)
    (attributes : Option KeyReference.Attributes) (m : Mechanism) (message : Bytes) :
    IsBlind p q (Provider.sign n attributes m message) := by
  unfold Provider.sign
  refine inStep_get_bind fun w w' alike => ?_
  rcases alike.provider_cases n with ⟨absent, absent'⟩ | ⟨x, x', here, here', same⟩
  · rw [absent, absent']
    exact inStep_defect _
  · rw [here, here']
    cases same with
    | files => exact inStep_defect _
    | token same => exact Engine.inStep_sign hp hq same attributes m message

end Provider

/-- Signing goes alike with every key. -/
theorem SigningKey.sign_blind (hp : IsPassable p) (hq : IsPassable q) (key : SigningKey)
    (f : HashFunction) (message : Bytes) : IsBlind p q (key.sign f message) := by
  unfold sign
  cases key with
  | inMemory key =>
    refine InStep.throwUnless ?_
    dsimp only
    split
    · exact inStep_pure rfl
    · exact inStep_defect _
  | onToken n attributes algorithm =>
    refine inStep_get_bind fun w w' alike => ?_
    have named : (w'.providers[n]?.getD .files).name = (w.providers[n]?.getD .files).name := by
      rcases alike.provider_cases n with ⟨absent, absent'⟩ | ⟨x, x', here, here', same⟩
      · rw [absent, absent']
      · rw [here, here']
        exact same.name
    rw [alike.registered, named]
    refine InStep.throwUnless ?_
    dsimp only
    split
    · exact inStep_fail _
    · exact Provider.sign_blind hp hq _ _ _

/-! ## A provider and its session -/

namespace Provider

/-- Opening a session does not look at the secret. -/
theorem setUp_blind (n : Nat) : IsBlind p q (setUp n) := by
  refine inStep_get_bind fun w w' alike => ?_
  rcases alike.provider_cases n with ⟨absent, absent'⟩ | ⟨x, x', here, here', same⟩
  · rw [absent, absent']
    exact inStep_pure rfl
  · rw [here, here']
    cases same with
    | files => exact inStep_pure rfl
    | @token e e' same =>
      refine ⟨fun v v' alike => ?_⟩
      have ready : readiness e' v'.files v'.environment = readiness e v.files v.environment := by
        unfold readiness Engine.isInitialized
        rw [alike.files, same.module, same.tool, same.session, Tool.find?_congr alike.search]
      dsimp only
      rw [setUpEngine_eq, setUpEngine_eq, ready]
      rcases readiness e v.files v.environment with f | tool
      · exact ⟨.error rfl, alike⟩
      · refine ⟨.ok rfl, World.Twins.tell ?_ _⟩
        let session : Session := ⟨tool, v.freeDirectory, none, none⟩
        unfold opened
        rw [alike.freeDirectory]
        have kept := alike.setProvider n (.token (same.withSession (some session)))
        exact { kept with
          registered := rfl
          directories := congrArg (· ++ [v.freeDirectory]) alike.directories }

/-- Closing a session does not look at the secret. -/
theorem shutDown_blind (n : Nat) : IsBlind p q (shutDown n) := by
  refine inStep_get_bind fun w w' alike => ?_
  rcases alike.provider_cases n with ⟨absent, absent'⟩ | ⟨x, x', here, here', same⟩
  · rw [absent, absent']
    exact inStep_pure rfl
  · rw [here, here']
    cases same with
    | files => exact inStep_pure rfl
    | @token e e' same =>
      dsimp only
      unfold shutDownEngine
      rw [same.session]
      rcases e.session with _ | s
      · exact inStep_pure rfl
      · refine InStep.seq (inStep_modify fun v v' alike => ?_) fun _ => ?_
        · rw [alike.registered]
          split_ifs
          · exact { alike with registered := rfl }
          · exact alike
        · refine InStep.seq (inStep_modify fun v v' alike => ?_) fun _ => tell_blind _
          have kept := alike.setProvider n (.token (same.withSession none))
          exact { kept with directories := congrArg (·.erase s.directory) alike.directories }

/-! ## Making a provider -/

/-- Whether settings are given alike to an engine, but for the secret. -/
inductive OptionsSameBut (p q : String) : List (String × Value) → List (String × Value) → Prop
  | same (options : List (String × Value)) : OptionsSameBut p q options options
  | secret (module tool : Value) : OptionsSameBut p q
    [("module", module), ("pin", .text p), ("tool", tool)]
    [("module", module), ("pin", .text q), ("tool", tool)]

/-- The settings that an engine is given, the same but for the secret. -/
structure SettingsSameBut (p q : String) (s s' : EngineSettings) : Prop where
  module : s'.module = s.module
  pin : SameOr (some p) (some q) s.pin s'.pin
  tool : s'.tool = s.tool

/-- Options of known names are read one by one. -/
theorem ofOptions?_of_known {options : List (String × Value)}
    (known : (options.any fun (name, _) => !EngineSettings.names.contains name) = false) :
    EngineSettings.ofOptions? options = (EngineSettings.text? options "module").bind fun module =>
      (EngineSettings.text? options "pin").bind fun pin =>
        (EngineSettings.text? options "tool").bind fun tool => some ⟨module, pin, tool⟩ := by
  unfold EngineSettings.ofOptions?
  rw [known]
  rfl

/-- Options that are the same but for the secret are read as settings that are, or not at all. -/
theorem ofOptions?_sameBut {options options' : List (String × Value)}
    (h : OptionsSameBut p q options options') :
    (EngineSettings.ofOptions? options = none ∧ EngineSettings.ofOptions? options' = none) ∨
      ∃ s s', EngineSettings.ofOptions? options = some s ∧
        EngineSettings.ofOptions? options' = some s' ∧ SettingsSameBut p q s s' := by
  cases h with
  | same =>
    rcases EngineSettings.ofOptions? options with _ | s
    · exact .inl ⟨rfl, rfl⟩
    · exact .inr ⟨s, s, rfl, rfl, rfl, .inl rfl, rfl⟩
  | secret module tool =>
    have moduleText : EngineSettings.text?
        [("module", module), ("pin", .text q), ("tool", tool)] "module" =
      EngineSettings.text? [("module", module), ("pin", .text p), ("tool", tool)] "module" := rfl
    have toolText : EngineSettings.text?
        [("module", module), ("pin", .text q), ("tool", tool)] "tool" =
      EngineSettings.text? [("module", module), ("pin", .text p), ("tool", tool)] "tool" := rfl
    have pinText (pin : String) : EngineSettings.text?
      [("module", module), ("pin", .text pin), ("tool", tool)] "pin" = some (some pin) := rfl
    rw [ofOptions?_of_known rfl, ofOptions?_of_known rfl, moduleText, toolText, pinText, pinText]
    rcases EngineSettings.text? _ "module" with _ | module
    · exact .inl ⟨rfl, rfl⟩
    rcases EngineSettings.text? _ "tool" with _ | tool
    · exact .inl ⟨rfl, rfl⟩
    · exact .inr ⟨_, _, rfl, rfl, rfl, .inr ⟨rfl, rfl⟩, rfl⟩

/-- Engines that are made from such settings, in such surroundings. -/
theorem configure_sameBut {s s' : EngineSettings} (h : SettingsSameBut p q s s')
    (alike : w.SameBut p q w') :
    (Engine.configure s w.environment).SameBut p q (Engine.configure s' w'.environment) where
  module := by
    unfold Engine.configure
    dsimp only
    rw [h.module, alike.environment _ (by decide)]
  pin := by
    unfold Engine.configure
    dsimp only
    rcases h.pin with same | ⟨here, there⟩
    · rw [← same]
      rcases s.pin with _ | pin
      · exact alike.inVariable
      · exact .inl rfl
    · rw [here, there]
      exact .inr ⟨rfl, rfl⟩
  tool := by
    unfold Engine.configure
    dsimp only
    rw [h.tool, alike.environment _ (by decide)]
  session := rfl

/-- Options that are the same but for the secret make providers that are. -/
theorem ofName_sameBut {options options' : List (String × Value)} (engine : Option String)
    (h : OptionsSameBut p q options options') (alike : w.SameBut p q w') :
    Agree Eq (Provider.SameBut p q) (ofName engine options w.environment)
      (ofName engine options' w'.environment) := by
  unfold ofName
  rcases engine with _ | name
  · exact .ok .files
  dsimp only
  split_ifs
  · exact .error rfl
  · rcases ofOptions?_sameBut h with ⟨absent, absent'⟩ | ⟨s, s', here, here', same⟩
    · rw [absent, absent']
      exact .error rfl
    · rw [here, here']
      exact .ok (.token (configure_sameBut same alike))

/-- Providers are made in step from options that are the same but for the secret. -/
theorem inStep_create {options options' : List (String × Value)} (engine : Option String)
    (h : OptionsSameBut p q options options') :
    AreTwins p q Eq (create engine options) (create engine options') := by
  unfold create
  refine inStep_get_bind fun w w' alike => ?_
  have named : AreTwins p q (Provider.SameBut p q) (lift id (ofName engine options w.environment))
      (lift id (ofName engine options' w'.environment)) :=
    inStep_lift ((ofName_sameBut engine h alike.toSameBut).mapError id fun _ _ => id)
  refine named.bind fun x x' same => ?_
  refine InStep.seq (inStep_set ?_) fun _ => inStep_pure alike.providers.length_eq
  exact { alike with providers := List.rel_append alike.providers (.cons same .nil) }

/-- A provider is found in step, and it is the same source of keys. -/
theorem inStep_sourceOf (n : Nat) : AreTwins p q AreOne (sourceOf n) (sourceOf n) := by
  refine inStep_get_bind fun w w' alike => inStep_pure ?_
  rcases alike.provider_cases n with ⟨absent, absent'⟩ | ⟨x, x', here, here', same⟩
  · rw [absent, absent']
    exact ⟨rfl, _, _, rfl⟩
  · rw [here, here']
    exact ⟨(same.source n).symm, _, _, rfl⟩

end Provider

/-! ## The provider of an identity -/

/-- Origins of keys that are the same but for the secret in an engine's options. -/
inductive KeyOrigin.SameBut (p q : String) : KeyOrigin → KeyOrigin → Prop
  | files : SameBut p q .files .files
  | engine (name : String) {options options' : List (String × Value)}
    (h : Provider.OptionsSameBut p q options options') :
    SameBut p q (.engine name options) (.engine name options')

/-- Requests for an identity that are the same but for such a secret. -/
structure IdentityRequest.SameBut (p q : String) (r r' : IdentityRequest) : Prop where
  key : r'.key = r.key
  format : r'.format = r.format
  certificate : r'.certificate = r.certificate
  origin : r.origin.SameBut p q r'.origin
  password : r'.password = r.password

/-- Requests that are the same but for the secret find their providers in step. -/
theorem Identity.inStep_provider {r r' : IdentityRequest} (h : r.SameBut p q r') :
    AreTwins p q Provider.AreOne (Identity.provider r) (Identity.provider r') := by
  obtain ⟨key, format, certificate, origin, password⟩ := r
  obtain ⟨key', format', certificate', origin', password'⟩ := r'
  obtain ⟨rfl, rfl, rfl, same, rfl⟩ := h
  unfold provider
  cases same with
  | files =>
    refine InStep.throwUnless ?_
    exact InStep.seq (Provider.inStep_create none (.same _)) Provider.inStep_sourceOf
  | engine name same =>
    exact InStep.seq (Provider.inStep_create (some name) same) Provider.inStep_sourceOf

end ImageSigning
