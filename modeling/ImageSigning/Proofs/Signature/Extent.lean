import ImageSigning.Proofs.Outcome
import ImageSigning.Proofs.Signature.Content

/-!
# Where a signature ends

What follows the leading element of octets has no part in reading a signature from them, so a signature
reads the same with padding behind it. An element that is kept undecoded ends where its header says,
which is where reading sees its end too if its identifier takes one octet.

* **`decode_append`** — a signature that was read reads again from its octets, whatever follows.
* **`decode_of_read?`** — reading depends on the leading element alone.
* **`elementLength?_append`**, **`elementLength?_take`** — the extent depends on the element alone.
* **`IsElement.elementLength?`** — the extent of an element behind one identifier octet is all of it.
* **`elementLength?_of_read?`**, **`exists_read?_of_elementLength?`** — behind a tag of one octet there is
  an extent exactly if an element can be read, and it is the element's.
-/

namespace ImageSigning

open Der Tlv

namespace Der

variable {b : Bytes} {n : Nat}

/-- What follows an element does not change the length that it declares. -/
theorem declaredLength?_append (h : declaredLength? b = some n) (r : Bytes) :
    declaredLength? (b ++ r) = some n := by
  match b with
  | [] => simp [declaredLength?] at h
  | [_] => simp [declaredLength?] at h
  | x :: length :: digits =>
    unfold declaredLength? at h
    rw [List.cons_append, List.cons_append]
    unfold declaredLength?
    dsimp only at h ⊢
    split at h
    · rename_i short
      rw [if_pos short]
      exact h
    · rename_i long
      rw [if_neg long]
      split at h
      · simp at h
      · rename_i there
        rw [not_or, not_lt] at there
        rw [if_neg (by rw [List.length_append]; omega), List.take_append_of_le_length there.2]
        exact h

/-- The header lies within the extent that it declares. -/
theorem declaredLength?_take (h : declaredLength? b = some n) {m : Nat} (enough : n ≤ m) :
    declaredLength? (b.take m) = some n := by
  match b with
  | [] => simp [declaredLength?] at h
  | [_] => simp [declaredLength?] at h
  | x :: length :: digits =>
    unfold declaredLength? at h
    dsimp only at h
    split at h
    · rename_i short
      obtain rfl := Option.some.inj h
      obtain ⟨k, rfl⟩ : ∃ k, m = k + 2 := ⟨m - 2, by omega⟩
      rw [List.take_succ_cons, List.take_succ_cons]
      unfold declaredLength?
      dsimp only
      rw [if_pos short]
    · rename_i long
      split at h
      · simp at h
      · rename_i there
        rw [not_or, not_lt] at there
        obtain ⟨counted, fits⟩ := there
        have size := Option.some.inj h
        obtain ⟨k, rfl⟩ : ∃ k, m = k + 2 := ⟨m - 2, by omega⟩
        have inside : (length &&& 0x7f).toNat ≤ k := by omega
        rw [List.take_succ_cons, List.take_succ_cons]
        unfold declaredLength?
        dsimp only
        rw [if_neg long, if_neg (by rw [List.length_take]; omega), List.take_take,
          min_eq_left inside]
        exact h

/-- An element has the length that it declares, if that many octets are there. -/
theorem elementLength?_eq_some :
    elementLength? b = some n ↔ declaredLength? b = some n ∧ n ≤ b.length := by
  simp [elementLength?, Option.filter_eq_some_iff]

/-- What follows an element is not part of its extent. -/
theorem elementLength?_append (h : elementLength? b = some n) (r : Bytes) :
    elementLength? (b ++ r) = some n := by
  obtain ⟨declared, fits⟩ := elementLength?_eq_some.1 h
  refine elementLength?_eq_some.2 ⟨declaredLength?_append declared r, ?_⟩
  rw [List.length_append]
  omega

/-- The octets up to the extent of the leading element have that extent. -/
theorem elementLength?_take (h : elementLength? b = some n) :
    elementLength? (b.take n) = some (b.take n).length := by
  obtain ⟨declared, fits⟩ := elementLength?_eq_some.1 h
  have size : (b.take n).length = n := by
    rw [List.length_take]
    omega
  rw [size]
  exact elementLength?_eq_some.2 ⟨declaredLength?_take declared le_rfl, by omega⟩

/-- Zeros behind octets can only complete an element that the octets begin. -/
theorem length_le_of_elementLength?_append {r : Bytes}
    (whole : ∀ m, elementLength? b = some m → m = b.length)
    (h : elementLength? (b ++ r) = some n) : b.length ≤ n := by
  obtain ⟨declared, fits⟩ := elementLength?_eq_some.1 h
  by_contra short
  have here : declaredLength? b = some n := by
    have cut := declaredLength?_take declared (Nat.le_of_lt (not_le.1 short))
    rwa [List.take_left] at cut
  have extent := whole n (elementLength?_eq_some.2 ⟨here, Nat.le_of_lt (not_le.1 short)⟩)
  omega

/-- The declared length is that of the header and of the content. -/
theorem declaredLength?_of_readLength? {x : UInt8} {r after : Bytes} {size : Nat}
    (h : readLength? .basic r = some (size, after)) :
    declaredLength? (x :: r) = some (1 + (r.length - after.length) + size) := by
  match r with
  | [] => simp [readLength?] at h
  | length :: digits =>
    obtain ⟨low, value⟩ := octet_bits length
    unfold declaredLength?
    dsimp only
    simp only [readLength?] at h
    split at h
    · rename_i small
      obtain ⟨rfl, rfl⟩ := Prod.mk.inj (Option.some.inj h)
      rw [if_pos (low.2 small), List.length_cons, Nat.add_sub_cancel_left]
    · rename_i large
      have high : 128 ≤ length.toNat := by
        rw [UInt8.lt_iff_toNat_lt] at large
        exact not_lt.1 large
      have count : (length &&& 0x7f).toNat = length.toNat - 128 := by
        have octet : length.toNat < 256 := length.toNat_lt
        rw [value]
        omega
      split at h
      · simp at h
      · rename_i there
        rw [not_or, not_lt, List.length_take] at there
        rw [if_pos (.inl trivial)] at h
        obtain ⟨rfl, rfl⟩ := Prod.mk.inj (Option.some.inj h)
        have extent : 1 + ((length :: digits).length - (digits.drop (length.toNat - 128)).length)
            = 2 + (length.toNat - 128) := by
          rw [List.length_cons, List.length_drop]
          omega
        rw [if_neg fun long => large (low.1 long), count, if_neg (by omega), extent]

/-- Octets that are one element, behind an identifier of one octet. -/
def IsElement (b : Bytes) : Prop :=
  (∃ e, Denotes .basic b e) ∧ ∀ x ∈ b.head?, x &&& 0x1f ≠ 0x1f

/-- What is written as an element is one. -/
theorem isElement_element {identifier : UInt8} {content : Bytes}
    (single : identifier &&& 0x1f ≠ 0x1f) (h : content.length < Rules.basic.lengthLimit) :
    IsElement (element identifier content) := by
  refine ⟨⟨_, denotes_element single h⟩, fun x m => ?_⟩
  obtain rfl : identifier = x := by simpa [element] using m
  exact single

/-- The extent of an element is all of it. -/
theorem IsElement.elementLength? (h : IsElement b) : elementLength? b = some b.length := by
  obtain ⟨⟨e, denotes⟩, single⟩ := h
  have read := denotes []
  rw [List.append_nil] at read
  match b with
  | [] => simp [read?] at read
  | x :: r =>
    have single := single x rfl
    simp only [read?, readNumber?, single, ne_eq, not_false_eq_true, if_true, Option.bind_eq_bind,
      Option.bind_some, Option.bind_eq_some_iff, Prod.exists] at read
    obtain ⟨size, after, counted, read⟩ := read
    split at read
    · simp at read
    · rename_i there
      obtain ⟨-, nothing⟩ := Prod.mk.inj (Option.some.inj read)
      have shorter := length_readLength?_lt counted
      have filled : after.length = size := by
        have emptied := congrArg List.length nothing
        rw [List.length_drop, List.length_nil] at emptied
        rw [List.length_take] at there
        omega
      refine elementLength?_eq_some.2 ⟨?_, le_rfl⟩
      rw [declaredLength?_of_readLength? counted, List.length_cons]
      exact congrArg some (by omega)

/-! ### The extent of the leading element -/

/-- Octets that do not begin with a tag of several octets. -/
def HasShortTag (b : Bytes) : Prop := ∀ x ∈ b.head?, x &&& 0x1f ≠ 0x1f

section
variable {rest : Bytes} {e : Tlv}

/-- Behind a tag of one octet the extent is that of the leading element. -/
theorem elementLength?_of_read? (tag : HasShortTag b) (h : read? .basic b = some (e, rest)) :
    elementLength? b = some e.whole.length := by
  obtain ⟨split, denotes⟩ := denotes_of_read? h
  have single : ∀ x ∈ e.whole.head?, x &&& 0x1f ≠ 0x1f := by
    intro x m
    apply tag
    rw [split]
    exact List.mem_head?_append_of_mem_head? m
  have element : IsElement e.whole := ⟨⟨e, denotes⟩, single⟩
  have extent := elementLength?_append element.elementLength? rest
  rwa [← split] at extent

/-- Where no length can be read, none is declared. -/
theorem declaredLength?_of_readLength?_eq_none {x : UInt8} {r : Bytes}
    (h : readLength? .basic r = none) : declaredLength? (x :: r) = none := by
  match r with
  | [] => rfl
  | length :: digits =>
    obtain ⟨low, value⟩ := octet_bits length
    simp only [readLength?] at h
    split at h
    · simp at h
    · rename_i large
      split at h
      · rename_i short
        have high : 128 ≤ length.toNat := by
          rw [UInt8.lt_iff_toNat_lt] at large
          exact not_lt.1 large
        have octet : length.toNat < 256 := length.toNat_lt
        rw [List.length_take] at short
        unfold declaredLength?
        dsimp only
        rw [if_neg fun long => large (low.1 long), value, if_pos (by omega)]
      · simp at h

/-- Behind a tag of one octet there is an extent only if there is an element. -/
theorem exists_read?_of_elementLength? (tag : HasShortTag b) (h : elementLength? b = some n) :
    ∃ e rest, read? .basic b = some (e, rest) := by
  obtain ⟨declared, fits⟩ := elementLength?_eq_some.1 h
  match b with
  | [] => simp [declaredLength?] at declared
  | x :: r =>
    have single := tag x rfl
    rcases counted : readLength? .basic r with _ | ⟨size, after⟩
    · rw [declaredLength?_of_readLength?_eq_none counted] at declared
      cases declared
    · have extent := declaredLength?_of_readLength? (x := x) counted
      have shorter := length_readLength?_lt counted
      obtain rfl := Option.some.inj (extent.symm.trans declared)
      have enough : size ≤ after.length := by
        rw [List.length_cons] at fits
        omega
      simpa [read?, readNumber?, single, counted] using enough

end

end Der

namespace Signature

/-- A part that is required is there. -/
theorem require_eq_ok {α : Type} {what : String} {o : Option α} {a : α} :
    require what o = .ok a ↔ o = some a := by
  cases o <;> simp [require]

/-- Reading depends on the leading element alone. -/
theorem decode_of_read? {b rest : Bytes} {e : Tlv} (h : read? .basic b = some (e, rest))
    (r : Bytes) : decode (e.whole ++ r) = decode b := by
  obtain ⟨-, denotes⟩ := denotes_of_read? h
  have again : read? .basic (e.whole ++ r) = some (e, r) := denotes r
  rcases info : ContentInfo.ofTlv? e with _ | outer
  · have unread : ContentInfo.read? b = none := by simp [ContentInfo.read?, h, info]
    have unread' : ContentInfo.read? (e.whole ++ r) = none := by
      simp [ContentInfo.read?, again, info]
    unfold decode
    rw [unread, unread']
  · have isRead : ContentInfo.read? b = some (outer, e.whole, rest) := by
      simp [ContentInfo.read?, h, info]
    have isRead' : ContentInfo.read? (e.whole ++ r) = some (outer, e.whole, r) := by
      simp [ContentInfo.read?, again, info]
    unfold decode
    rw [isRead, isRead']
    rfl

/-- A signature that was read keeps the octets of the leading element. -/
theorem exists_read?_of_decode {b : Bytes} {s : Signature} (h : decode b = .ok s) :
    ∃ e rest, read? .basic b = some (e, rest) ∧ e.whole = s.der := by
  unfold decode at h
  obtain ⟨⟨outer, der, left⟩, found, h⟩ := Outcome.bind_eq_ok.1 h
  have kept : s.der = der := by
    dsimp only at h
    rw [Outcome.failUnless_eq_ok] at h
    obtain ⟨-, h⟩ := h
    obtain ⟨data, -, h⟩ := Outcome.bind_eq_ok.1 h
    obtain ⟨content, -, h⟩ := Outcome.bind_eq_ok.1 h
    obtain ⟨bound, -, h⟩ := Outcome.bind_eq_ok.1 h
    split at h
    · rw [pure_bind] at h
      obtain ⟨digest, -, h⟩ := Outcome.bind_eq_ok.1 h
      obtain ⟨certificates, -, h⟩ := Outcome.bind_eq_ok.1 h
      obtain ⟨info, -, h⟩ := Outcome.bind_eq_ok.1 h
      obtain ⟨signer, -, h⟩ := Outcome.bind_eq_ok.1 h
      rw [← Outcome.pure_eq_ok.1 h]
    · simp [Outcome.throw_bind] at h
  have read := require_eq_ok.1 found
  simp only [ContentInfo.read?, Option.bind_eq_bind, Option.bind_eq_some_iff, Prod.exists] at read
  obtain ⟨e, rest, here, outer', -, shown⟩ := read
  obtain ⟨rfl, rfl, rfl⟩ := by simpa using shown
  exact ⟨e, _, here, kept.symm⟩

/-- A signature that was read reads again from the octets that it keeps, whatever follows them. -/
theorem decode_append {b : Bytes} {s : Signature} (h : decode b = .ok s) (r : Bytes) :
    decode (s.der ++ r) = .ok s := by
  obtain ⟨e, rest, read, whole⟩ := exists_read?_of_decode h
  rw [← whole, decode_of_read? read, h]

end Signature

end ImageSigning
