import ImageSigning.Store.Operation

/-!
# What a store answers

A store keeps the signatures that it is offered, in order, and nothing else. So what it holds after any
operations can be read off them, and with it every answer: a number, a place, the newest signature. An
iteration gives what was there when it was begun, whatever is done meanwhile, and so comes to its end. One
step adds to the store what the operation offers and takes from an iteration what it is asked for; the rest
is induction on the operations.

* **`items_run`**, **`length_iterations_run`** — what a run of operations leaves.
* **`map_fst_forEach`** — a loop goes over what was there when it began.
* **`Follows`** — every answer, by the operations before it.
* **`run_follows`** — the answers to any operations on a new store.
-/

namespace ImageSigning.Store

/-- The signature that an operation offers. -/
def Operation.offered? : Operation → Option StoredSignature
  | .offer (.signature x) => some x
  | _ => none

/-- The signatures that were offered, in order. -/
def kept (ops : List Operation) : List StoredSignature := ops.filterMap Operation.offered?

/-- How many iterations were begun. -/
def begun (ops : List Operation) : Nat := ops.count .iterate

/-- What a series of operations keeps is what its parts keep, one behind the other. -/
@[simp] theorem kept_append (ops more : List Operation) : kept (ops ++ more) = kept ops ++ kept more :=
  List.filterMap_append

/-! ## An offer -/

/-- A signature that can be announced is given the index that the store had as its count. -/
theorem offer_of_announce {s : Store} {x : StoredSignature} {e : Event} (told : s.announce x = .ok e) :
    s.offer (.signature x) = (.ok s.count, s.append x) := by
  rw [offer, told]
  rfl

/-- A signature that cannot be announced is stored all the same. -/
theorem offer_of_announce_eq_error {s : Store} {x : StoredSignature} {p : NameProblem}
    (odd : s.announce x = .error p) : s.offer (.signature x) = (.error (.name p), s.append x) := by
  rw [offer, odd]
  rfl

/-- A signature can be told of unless its signer has an unreadable name. -/
theorem exists_announce {s : Store} {x : StoredSignature}
    (shown : ∀ y, x = .decoded y → ∃ t, y.signer.subject.show = .ok t) :
    ∃ e, s.announce x = .ok e := by
  cases x with
  | undecoded der reason => exact ⟨_, rfl⟩
  | decoded y =>
    obtain ⟨t, shown⟩ := shown y rfl
    rw [announce, shown]
    exact ⟨_, rfl⟩

namespace Use

variable {u : Use} {k : Nat} {l : List StoredSignature}

/-! ## One step and a whole run -/

/-- An operation puts what it offers behind what the store has. -/
theorem items_step (u : Use) (o : Operation) :
    (u.step o).2.store.items = u.store.items ++ o.offered?.toList := by
  cases o with
  | offer offer => cases offer <;> simp [step, Store.offer, append, Operation.offered?]
  | _ => simp [step, Operation.offered?]

/-- An operation begins an iteration if it is `iterate`, and none otherwise. -/
theorem length_iterations_step (u : Use) (o : Operation) :
    (u.step o).2.iterations.length = u.iterations.length + if o = .iterate then 1 else 0 := by
  cases o <;> simp [step]

/-- The first operation of a series is done before the others. -/
theorem run_cons (u : Use) (o : Operation) (r : List Operation) :
    u.run (o :: r) = ((u.step o).1 :: ((u.step o).2.run r).1, ((u.step o).2.run r).2) :=
  rfl

/-- A series of operations is done part by part. -/
theorem run_append (u : Use) (ops more : List Operation) :
    u.run (ops ++ more) =
      ((u.run ops).1 ++ ((u.run ops).2.run more).1, ((u.run ops).2.run more).2) := by
  induction ops generalizing u with
  | nil => rfl
  | cons o r ih => simp [run_cons, ih]

/-- A series of operations puts what it keeps behind what the store has. -/
theorem items_run (ops : List Operation) : (u.run ops).2.store.items = u.store.items ++ kept ops := by
  induction ops generalizing u with
  | nil => simp [run, kept]
  | cons o r ih =>
    rw [run_cons, ih, items_step]
    cases shown : o.offered? <;> simp [kept, shown]

/-- There are as many iterations more as a series of operations begins. -/
theorem length_iterations_run (ops : List Operation) :
    (u.run ops).2.iterations.length = u.iterations.length + begun ops := by
  induction ops generalizing u with
  | nil => simp [run, begun]
  | cons o r ih =>
    rw [run_cons, ih, length_iterations_step, begun, begun, List.count_cons]
    simp only [beq_iff_eq]
    omega

/-- Every operation of a series has an answer. -/
theorem length_run (ops : List Operation) : (u.run ops).1.length = ops.length := by
  induction ops generalizing u with
  | nil => rfl
  | cons o r ih => simp [run_cons, ih]

/-! ## Loops -/

/-- A loop goes over what its iteration has yet to give, whatever else its body does. -/
theorem map_fst_forEach {body : StoredSignature → Use → List Operation}
    (apart : ∀ x u, .next k ∉ body x u) :
    ∀ {l : List StoredSignature} {u : Use}, u.iterations[k]? = some l →
      (forEach k body u).1.map Prod.fst = l := by
  intro l
  induction l with
  | nil =>
    intro u left
    rw [forEach]
    split
    · rename_i shown
      rw [left] at shown
      cases shown
    · rfl
  | cons x r ih =>
    intro u left
    rw [forEach]
    split
    · rename_i y _ shown
      obtain ⟨rfl, rfl⟩ := List.cons.inj (Option.some.inj (left.symm.trans shown))
      have after := iterations_run (body x (u.step (.next k)).2) (iterations_step left (.next k))
      rw [List.count_eq_zero.2 (apart _ _), if_pos rfl] at after
      rw [List.map_cons, ih after]
    · rename_i different
      exact (different _ _ left).elim

end Use

/-! ## A new store -/

/-- What there is after operations on a new store. -/
def after (ops : List Operation) : Use := (Use.start.run ops).2

/-- The answer to one more operation. -/
def answer (ops : List Operation) (o : Operation) : Answer := ((after ops).step o).1

/-- What a store holds and answers after some operations: what it was offered, and what follows from
that. -/
structure Follows (ops : List Operation) : Prop where
  /-- It holds what it was offered, in order. -/
  items : (after ops).store.items = kept ops
  /-- What is offered next is kept, and gets the number of those before it if it can be told of. -/
  signature : ∀ x, (after (ops ++ [.offer (.signature x)])).store.items = kept ops ++ [x] ∧
    ((∀ s, x = .decoded s → ∃ t, s.signer.subject.show = .ok t) →
      answer ops (.offer (.signature x)) = .number (kept ops).length) ∧
    ∀ s p, x = .decoded s → s.signer.subject.show = .error p →
      answer ops (.offer (.signature x)) = .raised (.name p)
  /-- Anything else is refused, and everything stays as it is. -/
  other : ∀ type, answer ops (.offer (.other type)) = .raised (.notSignature type) ∧
    after (ops ++ [.offer (.other type)]) = after ops
  /-- A signature is found at its number, and nothing at any other. -/
  get : ∀ index, answer ops (.get index) =
    .signature (if 0 ≤ index then (kept ops)[index.toNat]? else none)
  /-- A signature that was found at a number is always found there. -/
  stays : ∀ index x, answer ops (.get index) = .signature (some x) →
    ∀ more, answer (ops ++ more) (.get index) = .signature (some x)
  /-- Counted in two ways, there are as many as were offered. -/
  count : answer ops .count = .number (kept ops).length ∧
    answer ops .length = .number (kept ops).length
  /-- The last number is one less than the count, if there is a last one. -/
  lastIndex : answer ops .lastIndex =
    .index (if kept ops = [] then none else some ((kept ops).length - 1))
  /-- The newest signature is the one at the last number. -/
  latest : answer ops .latest = answer ops (.get ((kept ops).length - 1))
  /-- An iteration gives what there was when it was begun, one after the other, and then nothing, whatever
  is done after it was begun and between asking for one and the next. -/
  next : answer ops .iterate = .begun (begun ops) ∧
    ∀ more, answer (ops ++ Operation.iterate :: more) (.next (begun ops)) =
      .signature (kept ops)[more.count (.next (begun ops))]?
  /-- A loop over the store goes over that, whatever else its body does. -/
  loop : ∀ body : StoredSignature → Use → List Operation, (∀ x u, .next (begun ops) ∉ body x u) →
    ((after (ops ++ [.iterate])).forEach (begun ops) body).1.map Prod.fst = kept ops

variable {ops : List Operation}

/-- The store has what the operations keep. -/
theorem items_after (ops : List Operation) : (after ops).store.items = kept ops := Use.items_run ops

/-- There are as many iterations as the operations begin. -/
theorem length_iterations_after (ops : List Operation) :
    (after ops).iterations.length = begun ops := by
  rw [after, Use.length_iterations_run]
  exact Nat.zero_add _

/-- What a series of operations leaves is where the next one starts. -/
theorem after_append (ops more : List Operation) : after (ops ++ more) = ((after ops).run more).2 := by
  rw [after, Use.run_append]
  rfl

/-- An iteration, once begun: what there was, without what it was asked for. -/
theorem iterations_after (ops more : List Operation) :
    (after (ops ++ .iterate :: more)).iterations[begun ops]?
      = some ((kept ops).drop (more.count (.next (begun ops)))) := by
  rw [after_append]
  refine Use.iterations_run more (u := ((after ops).step .iterate).2) ?_
  simp [Use.step, ← length_iterations_after, items_after]

/-- An index is answered with the signature kept at that place, if there is one. -/
theorem answer_get (ops : List Operation) (index : Int) : answer ops (.get index) =
    .signature (if 0 ≤ index then (kept ops)[index.toNat]? else none) := by
  simp only [answer, Use.step, get, items_after, ← Int.not_lt, ite_not]

/-- What a store answers follows from the operations alone. -/
theorem follows (ops : List Operation) : Follows ops where
  items := items_after ops
  signature x := by
    refine ⟨?_, ?_, ?_⟩
    · rw [items_after, kept_append]
      rfl
    · intro shown
      obtain ⟨e, told⟩ := exists_announce (s := (after ops).store) shown
      rw [answer, Use.step, offer_of_announce told, Store.count, items_after]
      rfl
    · rintro s p rfl odd
      have untold : (after ops).store.announce (.decoded s) = .error p := by
        rw [announce, odd]
        rfl
      rw [answer, Use.step, offer_of_announce_eq_error untold]
      rfl
  other type := ⟨rfl, after_append ops _⟩
  get := answer_get ops
  stays index x found more := by
    rw [answer_get] at found ⊢
    have inside := Answer.signature.inj found
    split at inside
    · rename_i natural
      rw [if_pos natural, kept_append, List.getElem?_append_left, inside]
      exact (List.getElem?_eq_some_iff.1 inside).1
    · cases inside
  count := by simp [answer, Use.step, Store.count, items_after]
  lastIndex := by simp [answer, Use.step, lastIndex?, Store.count, items_after]
  latest := by
    rw [answer_get]
    simp only [answer, Use.step, latest?, items_after, Answer.signature.injEq]
    rcases List.eq_nil_or_concat (kept ops) with empty | ⟨before, x, shown⟩
    · simp [empty]
    · simp [shown]
  next := by
    refine ⟨?_, ?_⟩
    · simp [answer, Use.step, length_iterations_after]
    · intro more
      simp [answer, Use.step, iterations_after]
  loop body apart := Use.map_fst_forEach apart (iterations_after ops [])

/-- Whatever operations follow one another on a new store, each is answered as the ones before it have it. -/
theorem run_follows (ops : List Operation) : Follows ops ∧
    (Use.start.run ops).1.length = ops.length ∧
    ∀ before o rest, ops = before ++ o :: rest →
      (Use.start.run ops).1[before.length]? = some (answer before o) ∧ Follows before := by
  refine ⟨follows ops, Use.length_run ops, ?_⟩
  rintro before o rest rfl
  refine ⟨?_, follows before⟩
  rw [Use.run_append, List.getElem?_append_right (Nat.le_of_eq (Use.length_run before)),
    Use.length_run]
  simp [Use.run, answer, after]

end ImageSigning.Store
