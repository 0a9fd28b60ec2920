import Mathlib.Data.List.Forall2

/-!
# Outcomes that are results

An outcome is a result or a problem. A chain of outcomes is a result exactly if each of its links is;
otherwise it is the problem of the first link that has one.

* **`bind_eq_ok`**, **`map_eq_ok`**, **`mapError_eq_ok`** — the links of a chain.
* **`bind_eq_error`**, **`mapError_eq_error`** — the link at which a chain ends.
* **`mapM_eq_ok_iff`**, **`mapM_eq_error_iff`** — one outcome for each member of a list.
-/

namespace ImageSigning.Outcome

variable {ε δ α β : Type}

/-- Behind a result the next step is taken. -/
theorem ok_bind {a : α} {f : α → Except ε β} : ((.ok a : Except ε α) >>= f) = f a := rfl

/-- Behind an error no step is taken. -/
theorem error_bind {e : ε} {f : α → Except ε β} : ((.error e : Except ε α) >>= f) = .error e := rfl

/-- Two steps succeed exactly if the first does and the second does on its result. -/
theorem bind_eq_ok {x : Except ε α} {f : α → Except ε β} {b : β} :
    (x >>= f) = .ok b ↔ ∃ a, x = .ok a ∧ f a = .ok b := by
  cases x with
  | error e =>
    change (Except.error e : Except ε β) = _ ↔ _
    simp
  | ok a =>
    change f a = _ ↔ _
    simp

/-- A result is itself. -/
theorem pure_eq_ok {a b : α} : (pure a : Except ε α) = .ok b ↔ a = b := by
  change (Except.ok a : Except ε α) = _ ↔ _
  simp

/-- A result that is changed is one that there was. -/
theorem map_eq_ok {x : Except ε α} {f : α → β} {b : β} :
    x.map f = .ok b ↔ ∃ a, x = .ok a ∧ f a = b := by
  cases x <;> simp [Except.map]

/-- Rewording errors leaves the results. -/
theorem mapError_eq_ok {x : Except ε α} {f : ε → δ} {a : α} :
    x.mapError f = .ok a ↔ x = .ok a := by
  cases x <;> simp [Except.mapError]

/-- A change of the result is one of the last step's. -/
theorem map_bind {γ : Type} (x : Except ε α) (g : α → Except ε β) (f : β → γ) :
    (x >>= g).map f = x >>= fun a => (g a).map f := by
  cases x <;> rfl

/-- A chain ends with the problem of its first link or, where that is a result, of what follows. -/
theorem bind_eq_error {x : Except ε α} {f : α → Except ε β} {e : ε} :
    (x >>= f) = .error e ↔ x = .error e ∨ ∃ a, x = .ok a ∧ f a = .error e := by
  cases x with
  | error e' =>
    change (Except.error e' : Except ε β) = _ ↔ _
    simp
  | ok a =>
    change f a = _ ↔ _
    simp

/-- A reworded error is one that there was. -/
theorem mapError_eq_error {x : Except ε α} {f : ε → δ} {d : δ} :
    x.mapError f = .error d ↔ ∃ e, x = .error e ∧ f e = d := by
  cases x <;> simp [Except.mapError]

/-- An error that is thrown is itself. -/
theorem throw_eq_error {e e' : ε} : (throw e : Except ε α) = .error e' ↔ e = e' := by
  change (Except.error e : Except ε α) = _ ↔ _
  simp

/-- A result is no error. -/
theorem pure_ne_error {a : α} {e : ε} : (pure a : Except ε α) ≠ .error e := by
  change (Except.ok a : Except ε α) ≠ _
  simp

/-- Behind an error that is thrown no step is taken. -/
theorem throw_bind {e : ε} {f : α → Except ε β} : ((throw e : Except ε α) >>= f) = .error e := rfl

/-- A check that can only end a chain: what goes on did not meet the condition. -/
theorem failUnless_eq_ok {p : Prop} [Decidable p] {e : ε} {k : α → Except ε β} {y : Except ε β}
    {b : β} : (if p then (throw e : Except ε α) >>= k else y) = .ok b ↔ ¬ p ∧ y = .ok b := by
  by_cases holds : p
  · simp [holds, throw_bind]
  · simp [holds]

/-- Lists that are related member by member: every member of the one has a member of the other. -/
theorem exists_of_forall₂ {r : α → β → Prop} {as : List α} {bs : List β}
    (h : List.Forall₂ r as bs) {a : α} (m : a ∈ as) : ∃ b ∈ bs, r a b := by
  induction h with
  | nil => cases m
  | @cons x y as bs here _ ih =>
    rcases List.mem_cons.1 m with rfl | m
    · exact ⟨y, List.mem_cons_self .., here⟩
    · obtain ⟨b, n, related⟩ := ih m
      exact ⟨b, List.mem_cons_of_mem _ n, related⟩

/-- Each member on the right has a partner on the left. -/
theorem exists_of_forall₂_right {r : α → β → Prop} {as : List α} {bs : List β}
    (h : List.Forall₂ r as bs) {b : β} (m : b ∈ bs) : ∃ a ∈ as, r a b := by
  have turned : List.Forall₂ (flip r) bs as := List.Forall₂.flip h
  exact exists_of_forall₂ turned m

/-- A list of outcomes is a result exactly if each of them is. -/
theorem mapM_eq_ok_iff {f : α → Except ε β} {as : List α} {bs : List β} :
    as.mapM f = .ok bs ↔ List.Forall₂ (fun a b => f a = .ok b) as bs := by
  induction as generalizing bs with
  | nil =>
    rw [List.mapM_nil, pure_eq_ok]
    cases bs <;> simp
  | cons a as ih =>
    rw [List.mapM_cons]
    simp only [bind_eq_ok, pure_eq_ok, ih]
    constructor
    · rintro ⟨b, here, bs, there, rfl⟩
      exact .cons here there
    · rintro (_ | ⟨here, there⟩)
      exact ⟨_, here, _, there, rfl⟩

/-- A list of outcomes is a problem exactly if one of them is, and no earlier one. -/
theorem mapM_eq_error_iff {f : α → Except ε β} {as : List α} {e : ε} :
    as.mapM f = .error e ↔ ∃ before a after, as = before ++ a :: after ∧
      (∀ x ∈ before, ∃ b, f x = .ok b) ∧ f a = .error e := by
  induction as with
  | nil =>
    rw [List.mapM_nil]
    constructor
    · intro h
      cases h
    · rintro ⟨before, a, after, shown, -⟩
      simp at shown
  | cons c as ih =>
    rw [List.mapM_cons, bind_eq_error]
    constructor
    · rintro (here | ⟨b, here, h⟩)
      · exact ⟨[], c, as, rfl, by simp, here⟩
      · rcases bind_eq_error.1 h with there | ⟨bs, -, h⟩
        · obtain ⟨before, a, after, rfl, earlier, there⟩ := ih.1 there
          exact ⟨c :: before, a, after, rfl, List.forall_mem_cons.2 ⟨⟨b, here⟩, earlier⟩, there⟩
        · cases h
    · rintro ⟨_ | ⟨d, before⟩, a, after, shown, earlier, there⟩
      · obtain ⟨rfl, rfl⟩ := List.cons.inj shown
        exact .inl there
      · obtain ⟨rfl, rfl⟩ := List.cons.inj shown
        obtain ⟨⟨b, here⟩, earlier⟩ := List.forall_mem_cons.1 earlier
        have rest := ih.2 ⟨before, a, after, rfl, earlier, there⟩
        exact .inr ⟨b, here, bind_eq_error.2 (.inl rest)⟩

end ImageSigning.Outcome
