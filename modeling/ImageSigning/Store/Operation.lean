import ImageSigning.Store

/-!
# What is done with a store

A store takes what it is offered if that is a signature, and answers questions about what it holds. An
iteration goes over what was there when it was begun; what is added meanwhile is not part of it.

* `Store.offer`: a signature is taken before it is told of, and anything else is refused.
* `Store.Use.run`: operations one after the other, with an answer to each.
* `Store.Use.forEach`: a loop over an iteration; it ends whatever its body does.
-/

namespace ImageSigning

namespace Store

/-- What a store can be offered. -/
inductive Offer where
  | signature (x : StoredSignature)
  /-- Something else, with the name of its type. -/
  | other (type : String)
  deriving DecidableEq, Repr

/-- The number that an offer gets, and the store afterwards. -/
def offer (s : Store) : Offer → Except Defect Nat × Store
  | .signature x => (((s.announce x).map fun _ => s.count).mapError .name, s.append x)
  | .other type => (.error (.notSignature type), s)

/-- What can be done with a store. -/
inductive Operation where
  | offer (o : Offer)
  | get (index : Int)
  | count
  | length
  | lastIndex
  | latest
  /-- Begins an iteration. -/
  | iterate
  /-- Asks an iteration, by the number of those begun before it, for its next signature. -/
  | next (iteration : Nat)
  deriving DecidableEq, Repr

/-- What is answered. -/
inductive Answer where
  | number (n : Nat)
  /-- An offer is not taken, or cannot be told of. -/
  | raised (d : Defect)
  | index (n : Option Nat)
  | signature (x : Option StoredSignature)
  /-- An iteration was begun. -/
  | begun (iteration : Nat)
  deriving DecidableEq, Repr

/-- The answer to an offer. -/
def Answer.ofOffer : Except Defect Nat → Answer
  | .ok n => number n
  | .error d => raised d

/-- A store with the iterations over it that were begun. -/
structure Use where
  /-- The store. -/
  store : Store
  /-- What each iteration has yet to give. -/
  iterations : List (List StoredSignature)
  deriving DecidableEq, Repr

namespace Use

/-- A new store. -/
def start : Use := ⟨.empty, []⟩

/-- One operation: the answer to it, and what there is afterwards. -/
def step (u : Use) : Operation → Answer × Use
  | .offer o => (.ofOffer (u.store.offer o).1, { u with store := (u.store.offer o).2 })
  | .get index => (.signature (u.store.get index), u)
  | .count | .length => (.number u.store.count, u)
  | .lastIndex => (.index u.store.lastIndex?, u)
  | .latest => (.signature u.store.latest?, u)
  | .iterate =>
    (.begun u.iterations.length, { u with iterations := u.iterations ++ [u.store.items] })
  | .next k =>
    (.signature (u.iterations[k]?.bind List.head?),
      { u with iterations := u.iterations.modify k List.tail })

/-- Operations one after the other. -/
def run (u : Use) : List Operation → List Answer × Use
  | [] => ([], u)
  | o :: r =>
    let (answer, v) := u.step o
    let (answers, last) := run v r
    (answer :: answers, last)

/-! ### Going through an iteration -/

variable {u : Use} {k : Nat} {l : List StoredSignature}

/-- Only its own next step moves an iteration on. -/
theorem iterations_step (begun : u.iterations[k]? = some l) (o : Operation) :
    (u.step o).2.iterations[k]? = some (if o = .next k then l.tail else l) := by
  cases o with
  | next j =>
    simp only [step, List.getElem?_modify, begun, Operation.next.injEq]
    by_cases same : j = k <;> simp [same]
  | iterate => simp [step, List.getElem?_append_left (List.getElem?_eq_some_iff.1 begun).1, begun]
  | _ => simp [step, begun]

/-- Of an iteration goes only what it is asked for, whatever else is done. -/
theorem iterations_run (ops : List Operation) :
    ∀ {u : Use} {l : List StoredSignature}, u.iterations[k]? = some l →
      (u.run ops).2.iterations[k]? = some (l.drop (ops.count (.next k))) := by
  induction ops with
  | nil =>
    intro u l begun
    simpa [run] using begun
  | cons o r ih =>
    intro u l begun
    refine (ih (iterations_step begun o)).trans ?_
    by_cases asked : o = .next k
    · simp [asked, ← List.drop_one, List.drop_drop, Nat.add_comm]
    · simp [asked]

/-- A step of an iteration leaves less of it, whatever is done afterwards. -/
theorem length_left_lt {x : StoredSignature} (begun : u.iterations[k]? = some (x :: l))
    (ops : List Operation) :
    ((((u.step (.next k)).2.run ops).2.iterations[k]?).getD []).length
      < (u.iterations[k]?.getD []).length := by
  rw [iterations_run ops (iterations_step begun (.next k)), begun]
  simp only [if_true, Option.getD_some, List.length_drop, List.tail_cons, List.length_cons]
  omega

/-- Goes through an iteration to its end. For each signature that it gives, the body says what is done
before it is asked for the next one. -/
def forEach (k : Nat) (body : StoredSignature → Use → List Operation) (u : Use) :
    List (StoredSignature × List Answer) × Use :=
  match _h : u.iterations[k]? with
  | some (x :: _) =>
    let asked := (u.step (.next k)).2
    let done := asked.run (body x asked)
    let rest := forEach k body done.2
    ((x, done.1) :: rest.1, rest.2)
  | _ => ([], (u.step (.next k)).2)
termination_by (u.iterations[k]?.getD []).length
decreasing_by exact length_left_lt _h _

end Use

end Store

end ImageSigning
