import ImageSigning.Proofs.Frame

/-!
# A signature on a token

An engine in session that is asked for a signature either finds that its tool cannot be run for it, or runs
the tool once, on the octets to sign and in the private directory of the session. What the tool wrote into
the directory is what the signature is read from; where it wrote nothing, what lay there from an earlier
run is. A token key asks its engine only if token keys are routed through this engine.

* **`Engine.sign_eq`** — signing in a session, as one equation.
* **`SigningKey.sign_of_routed`**, **`SigningKey.sign_of_unrouted`** — signing with a token key.
-/

namespace ImageSigning

open Run

namespace Engine

variable {n : Nat} {e : Engine} {s : Session} {attributes : Option KeyReference.Attributes}
  {m : Mechanism} {message : Bytes} {w : World}

/-- The run of the tool that a signature takes, or why there is none. -/
def toolRun (e : Engine) (s : Session) (attributes : Option KeyReference.Attributes) (m : Mechanism)
    (message : Bytes) (files : FileSystem) (environment : List (String × String)) :
    Except Fault ToolCall :=
  match attributes with
  | none => .error (.defect .noSuchOperation)
  | some attributes =>
    match e.arguments? m attributes with
    | none => .error (.defect .keyUnnamed)
    | some arguments =>
      if arguments.any hasNull then .error (.defect .nullCharacter)
      else match Tool.program files environment s.tool with
        | .error cause => .error (.failure (.envelope (.toolNotRun e.tool cause)))
        | .ok program => .ok ⟨program, arguments, s.directory, message⟩

/-- The tool is run on the octets to sign, in the directory of the session. -/
theorem toolRun_eq_ok {files : FileSystem} {environment : List (String × String)} {c : ToolCall}
    (h : e.toolRun s attributes m message files environment = .ok c) :
    ∃ program arguments, c = ⟨program, arguments, s.directory, message⟩ := by
  unfold toolRun at h
  split at h
  · cases h
  · split at h
    · cases h
    · split at h
      · cases h
      · split at h
        · cases h
        · exact ⟨_, _, (Except.ok.inj h).symm⟩

/-- What comes of a run of the tool that did something, with a signature lying in the directory or none. -/
def answer (e : Engine) (m : Mechanism) (did : ToolOutcome) (signature : Option Bytes) :
    Except Fault Bytes :=
  if did.status ≠ 0 then
    .error (.failure (.envelope
      (.toolFailed e.tool m.name (Text.trim (Utf8.decodeLossy did.complaint)))))
  else match signature with
    | some b => .ok b
    | none => .error (.failure (.envelope (.toolSilent e.tool)))

/-- The surroundings with a session of an engine in place. -/
def kept (w : World) (n : Nat) (e : Engine) (s : Session) : World :=
  w.setProvider n (.token { e with session := some s })

/-- What the tool does when it is run next. -/
def reply (w : World) (c : ToolCall) : ToolOutcome := w.respond c.program w.calls.length c.request

/-- Keeping a session cannot fail. -/
theorem keepSession_eq : keepSession n e s w = (.ok (), kept w n e s) := rfl

/-- A session that is kept after another takes its place. -/
theorem kept_kept (s' : Session) (calls : List ToolCall) :
    kept { kept w n e s with calls } n e s' = { kept w n e s' with calls } := by
  simp [kept, World.setProvider, List.set_set]

/-- A tool whose program cannot be started is not called. -/
theorem runTool_of_error {tool : String} {request : ToolRequest} {cause : SystemError}
    (h : Tool.program w.files w.environment tool = .error cause) :
    runTool tool request w = (.ok (.error cause), w) := by
  unfold runTool
  rw [bind_of_ok (get_eq_ok.2 ⟨rfl, rfl⟩)]
  simp only [h]
  rfl

/-- A tool whose program can be started is called once, and its answer is handed on. -/
theorem runTool_of_ok {tool : String} {request : ToolRequest} {program : Nat}
    (h : Tool.program w.files w.environment tool = .ok program) :
    runTool tool request w
      = (.ok (.ok (reply w ⟨program, request⟩)), { w with calls := w.calls ++ [⟨program, request⟩] }) := by
  unfold runTool
  rw [bind_of_ok (get_eq_ok.2 ⟨rfl, rfl⟩)]
  simp only [h]
  rfl

/-- The check of what a tool did gives the answer and changes nothing. -/
theorem answer_run (did : ToolOutcome) (output : Option Bytes) (v : World) :
    (do
      if did.status ≠ 0 then
        fail (.envelope (.toolFailed e.tool m.name (Text.trim (Utf8.decodeLossy did.complaint))))
      match output with
        | some b => return b
        | none => fail (.envelope (.toolSilent e.tool)) : Run Bytes) v = (e.answer m did output, v) := by
  unfold answer
  by_cases failed : did.status ≠ 0
  · rw [if_pos failed, if_pos failed]
    rfl
  · rw [if_neg failed, if_neg failed]
    cases output <;> rfl

/-- Signing in a session: the tool is not run, or it is run once and its signature is read. -/
theorem sign_eq (session : e.session = some s) :
    e.sign n attributes m message w = match e.toolRun s attributes m message w.files w.environment with
      | .error f => (.error f, kept w n e { s with input := some message })
      | .ok c =>
        let output := (reply w c).signature.or s.output
        (e.answer m (reply w c) output,
          { kept w n e { s with input := some message, output } with calls := w.calls ++ [c] }) := by
  unfold sign
  rw [session]
  dsimp only
  rw [bind_of_ok keepSession_eq]
  unfold toolRun
  rcases attributes with _ | attributes
  · rfl
  rcases found : e.arguments? m attributes with _ | arguments
  · simp only [found]
    rfl
  simp only [found]
  by_cases null : arguments.any hasNull = true
  · rw [if_pos null, if_pos null]
    rfl
  rw [if_neg null, if_neg null]
  rcases runnable : Tool.program w.files w.environment s.tool with cause | program
  · rw [bind_of_ok (runTool_of_error (w := kept w n e _) runnable)]
    rfl
  · rw [bind_of_ok (runTool_of_ok (w := kept w n e _) runnable)]
    dsimp only
    rw [bind_of_ok keepSession_eq, kept_kept, Option.or_eq_orElse]
    exact answer_run (reply w _) _ _

end Engine

section
variable {n : Nat} {w : World} {e : Engine} {attributes : KeyReference.Attributes} {algorithm : String}
  {f : HashFunction} {message : Bytes}

/-- A provider that is a token signs as its engine does. -/
theorem Provider.sign_of_token (here : w.providers[n]? = some (.token e))
    (attributes : Option KeyReference.Attributes) (m : Mechanism) (message : Bytes) :
    Provider.sign n attributes m message w = e.sign n attributes m message w := by
  unfold Provider.sign
  rw [bind_of_ok (get_eq_ok.2 ⟨rfl, rfl⟩), here]

namespace SigningKey

/-- The failure of a token key of the provider with a number that token keys are not routed through. -/
def outside (w : World) (n : Nat) (attributes : KeyReference.Attributes) : Fault :=
  .failure (.key (.outsideSession attributes (w.providers[n]?.getD .files).name))

/-- A token key is refused where token keys are not routed through its provider, and nothing happens. -/
theorem sign_of_unrouted (other : w.registered ≠ some n) :
    (onToken n attributes algorithm).sign f message w = (.error (outside w n attributes), w) := by
  unfold sign
  dsimp only
  rw [bind_of_ok (get_eq_ok.2 ⟨rfl, rfl⟩), if_pos other]
  rfl

/-- Where they are, the provider signs, with the mechanism for the key's algorithm. -/
theorem sign_of_routed (routed : w.registered = some n) :
    (onToken n attributes algorithm).sign f message w = match Mechanism.ofAlgorithm? algorithm f with
      | none => (.error (.failure (.envelope (.unsupportedTokenKey algorithm))), w)
      | some m => Provider.sign n (some attributes) m message w := by
  unfold sign
  dsimp only
  rw [bind_of_ok (get_eq_ok.2 ⟨rfl, rfl⟩), if_neg (by simp [routed])]
  cases Mechanism.ofAlgorithm? algorithm f <;> rfl

/-- A key in memory signs without any provider. -/
theorem sign_inMemory (key : PrivateKey) : ((inMemory key).sign f message w).2 = w := by
  unfold sign
  dsimp only
  by_cases able : canSign key = true
  · rw [if_neg (by simp [able])]
    cases key.sign? f message <;> rfl
  · rw [if_pos (by simp [able])]
    rfl

end SigningKey

end

end ImageSigning
