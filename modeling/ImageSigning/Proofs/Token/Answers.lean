import Mathlib.Data.List.Induction
import ImageSigning.Proofs.Token.States

/-!
# The answers of one session

In a session the engine is asked for signatures one after the other. Each time the tool is run once, on
the octets to sign, or it cannot be run. But what the tool wrote stays in the directory of the session: a
run that succeeds and writes nothing is answered with the signature that was written last, for other
octets. Only if nothing was written before is that the failure that it should be.

* **`World.Serves`** — what a session keeps while it is asked for signatures.
* **`Provider.serve_cases`** — one demand: the tool is not run, or once.
* **`Provider.answers_in_session`** — the answer to each of any sequence of demands.
-/

namespace ImageSigning

open Run

/-- A demand for a signature, with the files at its time. -/
structure Demand where
  /-- The files. -/
  files : FileSystem
  /-- The attributes of the key. -/
  attributes : KeyReference.Attributes
  /-- How to sign. -/
  mechanism : Mechanism
  /-- The octets to sign. -/
  message : Bytes

/-- The provider with a number signs what is demanded. -/
def Provider.serve (n : Nat) (w : World) (d : Demand) : Except Fault Bytes × World :=
  Provider.sign n (some d.attributes) d.mechanism d.message { w with files := d.files }

/-- A token key that is routed through a provider is served by it. -/
theorem SigningKey.sign_eq_serve {n : Nat} {w : World} {d : Demand} {algorithm : String}
    {f : HashFunction} (routed : w.registered = some n) (same : w.files = d.files)
    (known : Mechanism.ofAlgorithm? algorithm f = some d.mechanism) :
    (onToken n d.attributes algorithm).sign f d.message w = Provider.serve n w d := by
  rw [sign_of_routed routed, known]
  unfold Provider.serve
  rw [← same]

namespace World

/-- The surroundings after demands, one after the other. -/
def served (n : Nat) (w : World) (demands : List Demand) : World :=
  demands.foldl (fun v d => (Provider.serve n v d).2) w

/-- Demands are served one after the other. -/
theorem served_concat (n : Nat) (w : World) (demands : List Demand) (d : Demand) :
    w.served n (demands ++ [d]) = (Provider.serve n (w.served n demands) d).2 :=
  List.foldl_concat ..

/-- The signatures that programs wrote, those of the first runs left out. -/
def signatures (w : World) (first : Nat) : List Bytes :=
  (w.calls.zipIdx.drop first).filterMap fun (c, i) => (w.respond c.program i c.request).signature

/-- One run more adds what it wrote. -/
theorem signatures_concat {v v' : World} {first : Nat} {c : ToolCall} (inside : first ≤ v.calls.length)
    (ran : v'.calls = v.calls ++ [c]) (same : v'.respond = v.respond) :
    v'.signatures first = v.signatures first ++ (Engine.reply v c).signature.toList := by
  unfold signatures Engine.reply
  rw [ran, same, List.zipIdx_append, List.drop_append_of_le_length (by simpa using inside),
    List.filterMap_append, Nat.zero_add, List.zipIdx_singleton]
  rcases written : (v.respond c.program v.calls.length c.request).signature with _ | b
  · simp [written]
  · simp [written]

/-- What was written last is then what it wrote, or else what was before. -/
theorem last_concat {v v' : World} {first : Nat} {c : ToolCall} (inside : first ≤ v.calls.length)
    (ran : v'.calls = v.calls ++ [c]) (same : v'.respond = v.respond) (output : Option Bytes) :
    (v'.signatures first).getLast?.or output
      = (Engine.reply v c).signature.or ((v.signatures first).getLast?.or output) := by
  rw [signatures_concat inside ran same, List.getLast?_append, Option.or_assoc]
  rcases (Engine.reply v c).signature with _ | b
  · rfl
  · rfl

end World

/-- The engine with a session in place. -/
def Engine.inSession (e : Engine) (s : Session) : Engine := { e with session := some s }

/-- The session with other files in its directory. -/
def Session.holding (s : Session) (input output : Option Bytes) : Session := { s with input, output }

/-- What the tool is asked does not depend on what was asked before. -/
theorem Engine.toolRun_inSession (e : Engine) (s t : Session) (input output : Option Bytes)
    (attributes : Option KeyReference.Attributes) (m : Mechanism) (message : Bytes)
    (files : FileSystem) (environment : List (String × String)) :
    (e.inSession t).toolRun (s.holding input output) attributes m message files environment
      = e.toolRun s attributes m message files environment := rfl

/-- What a session keeps while its engine is asked for signatures, from when it was as given: tool and
directory, and what was written last. -/
structure World.Serves (n : Nat) (e : Engine) (s : Session) (w v : World) : Prop where
  session : ∃ input, v.providers[n]? = some (.token (e.inSession
    (s.holding input ((v.signatures w.calls.length).getLast?.or s.output))))
  respond : v.respond = w.respond
  environment : v.environment = w.environment
  calls : w.calls.length ≤ v.calls.length

namespace World

variable {n : Nat} {e : Engine} {s : Session} {w v v' : World}

/-- A token with a session serves in the surroundings where it stands. -/
theorem serves_self (here : w.providers[n]? = some (.token e)) (session : e.session = some s) :
    w.Serves n e s w := by
  refine ⟨⟨s.input, ?_⟩, rfl, rfl, Nat.le_refl _⟩
  have nothing : w.signatures w.calls.length = [] := by
    unfold signatures
    rw [List.drop_eq_nil_of_le (by simp)]
    rfl
  rw [here, nothing, List.getLast?_nil, Option.none_or]
  obtain ⟨module, pin, tool, _⟩ := e
  cases session
  rfl

/-- Putting a session in place that holds the same signature keeps it. -/
theorem Serves.kept (h : w.Serves n e s v) (input output : Option Bytes)
    (providers : v'.providers = v.providers.set n (.token (e.inSession (s.holding input output))))
    (respond : v'.respond = v.respond) (environment : v'.environment = v.environment)
    (calls : w.calls.length ≤ v'.calls.length)
    (same : output = (v'.signatures w.calls.length).getLast?.or s.output) : w.Serves n e s v' := by
  obtain ⟨_, here⟩ := h.session
  obtain ⟨inside, -⟩ := List.getElem?_eq_some_iff.1 here
  refine ⟨⟨input, ?_⟩, respond.trans h.respond, environment.trans h.environment, calls⟩
  rw [providers, List.getElem?_set_self inside, same]

end World

namespace Provider

variable {n : Nat} {e : Engine} {s : Session} {w v : World}

/-- One demand in a session: the tool is not run, or it is run once, and its own signature is the answer, or
else the last that was written before. -/
theorem serve_cases (h : w.Serves n e s v) (d : Demand) : w.Serves n e s (serve n v d).2 ∧
    ((∃ f, e.toolRun s (some d.attributes) d.mechanism d.message d.files w.environment = .error f ∧
      (serve n v d).1 = .error f ∧ (serve n v d).2.calls = v.calls) ∨
    ∃ c, e.toolRun s (some d.attributes) d.mechanism d.message d.files w.environment = .ok c ∧
      (serve n v d).2.calls = v.calls ++ [c] ∧
      (serve n v d).1 = e.answer d.mechanism (Engine.reply v c)
        ((Engine.reply v c).signature.or ((v.signatures w.calls.length).getLast?.or s.output))) := by
  obtain ⟨input, here⟩ := h.session
  unfold serve
  rw [sign_of_token (w := { v with files := d.files }) here, Engine.sign_eq rfl,
    Engine.toolRun_inSession, h.environment]
  rcases run : e.toolRun s (some d.attributes) d.mechanism d.message d.files w.environment with f | c
  · refine ⟨?_, .inl ⟨f, rfl, rfl, rfl⟩⟩
    exact h.kept (some d.message) _ rfl rfl h.environment.symm h.calls rfl
  · refine ⟨?_, .inr ⟨c, rfl, rfl, rfl⟩⟩
    refine h.kept (some d.message) _ rfl rfl h.environment.symm ?_ ?_
    · exact Nat.le_trans h.calls (by simp)
    · apply Eq.symm
      apply World.last_concat h.calls
      · rfl
      · rfl

/-- **Any demands keep the session.** -/
theorem serves_served (here : w.providers[n]? = some (.token e)) (session : e.session = some s)
    (demands : List Demand) : w.Serves n e s (w.served n demands) := by
  induction demands using List.reverseRecOn with
  | nil => exact World.serves_self here session
  | append_singleton demands d ih =>
    rw [World.served_concat]
    exact (serve_cases ih d).1

end Provider

/-- The answer is what comes of this run alone, unless it succeeded and wrote nothing where a signature was
written before. -/
theorem Engine.answer_or_eq_iff (e : Engine) (m : Mechanism) (did : ToolOutcome) (earlier : Option Bytes) :
    e.answer m did (did.signature.or earlier) = e.answer m did did.signature ↔
      did.status ≠ 0 ∨ did.signature.isSome ∨ earlier = none := by
  unfold answer
  by_cases failed : did.status ≠ 0
  · simp [failed]
  · rcases did.signature with _ | b
    · rcases earlier with _ | b
      · simp
      · simp [failed]
    · simp

/-- **The answers of one session.** After any demands in a session, whatever the tool did each time, the
next one does not run the tool (and then it has no signature), or runs it once, on exactly the octets that
are to be signed, in the session's directory. If this run fails, that is the failure; else the answer is
what this run wrote, if it wrote something, and otherwise what was written last by an earlier run of the
session, if there was one. So the answer belongs to the demand exactly if this run failed or wrote
something, or none before it did. A token key that is routed through the engine is answered the same. -/
theorem Provider.answers_in_session {n : Nat} {e : Engine} {s : Session} {w : World}
    (here : w.providers[n]? = some (.token e)) (session : e.session = some s) (before : List Demand)
    (d : Demand) :
    let v := w.served n before
    let earlier := (v.signatures w.calls.length).getLast?.or s.output
    let asked := serve n v d
    ((∃ f, e.toolRun s (some d.attributes) d.mechanism d.message d.files w.environment = .error f ∧
      asked.1 = .error f ∧ asked.2.calls = v.calls) ∨
    ∃ program arguments,
      e.toolRun s (some d.attributes) d.mechanism d.message d.files w.environment
        = .ok ⟨program, arguments, s.directory, d.message⟩ ∧
      asked.2.calls = v.calls ++ [⟨program, arguments, s.directory, d.message⟩] ∧
      let did := v.respond program v.calls.length ⟨arguments, s.directory, d.message⟩
      (did.status ≠ 0 → asked.1 = .error (.failure (.envelope (.toolFailed e.tool d.mechanism.name
        (Text.trim (Utf8.decodeLossy did.complaint)))))) ∧
      (did.status = 0 → ∀ b, did.signature = some b → asked.1 = .ok b) ∧
      (did.status = 0 → did.signature = none → earlier = none →
        asked.1 = .error (.failure (.envelope (.toolSilent e.tool)))) ∧
      (did.status = 0 → did.signature = none → ∀ b, earlier = some b → asked.1 = .ok b) ∧
      (asked.1 = e.answer d.mechanism did did.signature ↔
        did.status ≠ 0 ∨ did.signature.isSome ∨ earlier = none)) ∧
    ∀ algorithm f, v.registered = some n → v.files = d.files →
      Mechanism.ofAlgorithm? algorithm f = some d.mechanism →
      (SigningKey.onToken n d.attributes algorithm).sign f d.message v = asked := by
  intro v earlier asked
  refine ⟨?_, fun algorithm f routed same known => SigningKey.sign_eq_serve routed same known⟩
  obtain ⟨-, ⟨f, unable, failed, same⟩ | ⟨c, run, ran, answered⟩⟩ :=
    serve_cases (serves_served here session before) d
  · exact .inl ⟨f, unable, failed, same⟩
  · obtain ⟨program, arguments, rfl⟩ := Engine.toolRun_eq_ok run
    right
    refine ⟨program, arguments, run, ran, ?_⟩
    intro did
    have answer : asked.1 = e.answer d.mechanism did (did.signature.or earlier) := answered
    rw [answer]
    refine ⟨?_, ?_, ?_, ?_, Engine.answer_or_eq_iff e d.mechanism did earlier⟩
    · intro failed
      exact if_pos failed
    · intro passed b wrote
      simp [Engine.answer, passed, wrote]
    · intro passed silent nothing
      simp [Engine.answer, passed, silent, nothing]
    · intro passed silent b last
      simp [Engine.answer, passed, silent, last]

/-- A tool that signs the first time and then succeeds without a signature: the second demand is answered
with the first one's signature. -/
theorem Provider.answers_in_session_silentTool :
    let start := World.initial signingTool []
      (fun _ count _ => ⟨0, [], if count = 0 then some [1] else none⟩)
    let engine : Engine := ⟨none, none, "./t", none⟩
    let w := opened { start with providers := [.token engine] } 0 engine "./t"
    let first : Demand := ⟨signingTool, [("object", "k")], ⟨"SHA256-RSA-PKCS", false⟩, [7]⟩
    let second : Demand := ⟨signingTool, [("object", "k")], ⟨"SHA256-RSA-PKCS", false⟩, [8]⟩
    let asked := serve 0 (w.served 0 [first]) second
    asked.1 = .ok [1] ∧ asked.2.calls.map (·.request.input) = [[7], [8]] := by
  intro start engine w first second asked
  have inUse : w.providers[0]? = some (.token (engine.inSession ⟨"./t", 0, none, none⟩)) := rfl
  have respond : (w.served 0 [first]).respond = start.respond := (serves_served inUse rfl [first]).respond
  have once : (w.served 0 [first]).calls.length = 1 := by decide +kernel
  have written : (w.served 0 [first]).signatures w.calls.length = [[1]] := by decide +kernel
  have able : ((engine.inSession ⟨"./t", 0, none, none⟩).toolRun ⟨"./t", 0, none, none⟩
      (some second.attributes) second.mechanism second.message second.files
        w.environment).toBool = true := by
    decide +kernel
  obtain ⟨⟨f, unable, -⟩ | ⟨program, arguments, -, -, -, -, -, earlier, -⟩, -⟩ :=
    answers_in_session inUse rfl [first] second
  · rw [unable] at able
    cases able
  · refine ⟨earlier ?_ ?_ [1] ?_, by decide +kernel⟩
    · rw [respond]
      rfl
    · rw [respond, once]
      rfl
    · rw [written]
      rfl

end ImageSigning
