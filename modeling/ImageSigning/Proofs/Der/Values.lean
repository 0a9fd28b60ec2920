import ImageSigning.Proofs.Der.Reading
import ImageSigning.Signature.Reading

/-!
# Values that read back

The integers, identifiers, sequences and sets that signatures are made of, each read back from the
element that was written for it.

* **`integerValue_integerOctets`** — the content of an INTEGER holds the integer.
* **`Oid.decode?_encode?`** — the content of an OBJECT IDENTIFIER holds the identifier.
* **`Oid.isSome_encode?_of_decode?`** — an identifier that was read can be written.
* **`Tlv.sequence?_made`**, **`Tlv.set?_made`**, **`Tlv.context?_made`** — the members of what was
  written around them.
-/

namespace ImageSigning

open Der

/-! ## Integers -/

namespace Der

/-- The octets of a number spell it. -/
theorem toNat_naturalOctets (n : Nat) : (naturalOctets n).toNat = n := by
  unfold naturalOctets
  rcases shown : Bytes.minimal n with _ | ⟨x, r⟩
  · have value := Bytes.toNat_minimal n
    rw [shown] at value
    simpa [Bytes.toNat] using value
  · have value := Bytes.toNat_minimal n
    rw [shown] at value
    simp only
    split
    · exact value
    · rw [Bytes.toNat_cons, value]
      simp

/-- The high bit of a natural number's first content octet is clear. -/
theorem naturalOctets_eq_cons (n : Nat) : ∃ x r, naturalOctets n = x :: r ∧ x < 128 := by
  unfold naturalOctets
  rcases Bytes.minimal n with _ | ⟨x, r⟩
  · exact ⟨0, [], rfl, by decide⟩
  · simp only
    split
    · rename_i low
      exact ⟨x, r, rfl, low⟩
    · exact ⟨0, x :: r, rfl, by decide⟩

/-- A number and its complement make up all ones. -/
theorem toNat_map_complement (b : Bytes) :
    Bytes.toNat (b.map (~~~ ·)) + b.toNat + 1 = 256 ^ b.length := by
  induction b with
  | nil => rfl
  | cons x r ih =>
    have octet : (~~~x).toNat + x.toNat + 1 = 256 := by
      have below := x.toNat_lt
      have complement : (~~~x).toNat = 255 - x.toNat := by simp [UInt8.toNat_not]
      omega
    rw [List.map_cons, Bytes.toNat_cons, Bytes.toNat_cons, List.length_map, List.length_cons]
    calc (~~~x).toNat * 256 ^ r.length + Bytes.toNat (r.map (~~~ ·))
          + (x.toNat * 256 ^ r.length + Bytes.toNat r) + 1
        = ((~~~x).toNat + x.toNat) * 256 ^ r.length
            + (Bytes.toNat (r.map (~~~ ·)) + Bytes.toNat r + 1) := by ring
      _ = ((~~~x).toNat + x.toNat + 1) * 256 ^ r.length := by rw [ih]; ring
      _ = 256 ^ (r.length + 1) := by rw [octet]; ring

/-- The content of an INTEGER holds the integer. -/
@[simp] theorem integerValue_integerOctets (n : Int) : integerValue (integerOctets n) = n := by
  cases n with
  | ofNat n =>
    obtain ⟨x, r, shown, low⟩ := naturalOctets_eq_cons n
    have value := toNat_naturalOctets n
    rw [shown] at value
    simp [integerOctets, shown, integerValue, low, value]
  | negSucc n =>
    obtain ⟨x, r, shown, low⟩ := naturalOctets_eq_cons n
    have value := toNat_naturalOctets n
    have total := toNat_map_complement (naturalOctets n)
    have high : ¬ ~~~x < 128 := by
      have complement : (~~~x).toNat = 255 - x.toNat := by simp [UInt8.toNat_not]
      rw [UInt8.lt_iff_toNat_lt] at low ⊢
      simp only [UInt8.reduceToNat] at low ⊢
      omega
    rw [value] at total
    rw [shown] at total
    simp only [integerOctets, shown, List.map_cons, integerValue, high, if_false] at total ⊢
    rw [Nat.pow_eq, List.length_cons, List.length_map]
    rw [List.length_cons] at total
    omega

end Der

/-! ## Identifiers -/

namespace Oid

/-- The number in groups of seven bits, the most significant one first, read on from `n`. -/
def ofGroups (n : Nat) (groups : List Nat) : Nat := groups.foldl (fun n g => n * 128 + g) n

/-- A number is cut into groups of seven bits that make it up again, without a leading zero. -/
theorem groupsFrom_spec {fuel n : Nat} (h : n < 2 ^ fuel) (positive : 0 < fuel) :
    ∃ last marked, groupsFrom fuel n = last :: marked ∧ last < 128 ∧ (∀ g ∈ marked, g < 128) ∧
      ofGroups 0 (marked.reverse ++ [last]) = n ∧ ∀ top, marked.reverse.head? = some top → top ≠ 0 := by
  induction fuel generalizing n with
  | zero => omega
  | succ fuel ih =>
    unfold groupsFrom
    by_cases small : n < 128
    · refine ⟨n, [], by simp [small], small, by simp, by simp [ofGroups], by simp⟩
    · have many : 0 < fuel := by
        by_contra nothing
        obtain rfl : fuel = 0 := by omega
        simp at h
        omega
      have less : n / 128 < 2 ^ fuel := by
        rw [Nat.div_lt_iff_lt_mul (by omega)]
        calc n < 2 ^ (fuel + 1) := h
          _ = 2 ^ fuel * 2 := pow_succ 2 fuel
          _ ≤ 2 ^ fuel * 128 := Nat.mul_le_mul_left _ (by omega)
      obtain ⟨last, marked, shown, low, lows, value, top⟩ := ih less many
      refine ⟨n % 128, last :: marked, by simp [small, shown], Nat.mod_lt _ (by omega), ?_, ?_, ?_⟩
      · intro g m
        rcases List.mem_cons.1 m with rfl | m
        · exact low
        · exact lows g m
      · rw [List.reverse_cons, ofGroups, List.foldl_append]
        change ofGroups 0 (marked.reverse ++ [last]) * 128 + n % 128 = n
        rw [value]
        omega
      · intro t h
        rcases marked.eq_nil_or_concat with rfl | ⟨lower, u, rfl⟩
        · -- the top group is the whole quotient, which is not zero
          obtain rfl : last = t := by simpa using h
          have : last = n / 128 := by simpa [ofGroups] using value
          omega
        · rw [List.concat_eq_append] at h top
          exact top t (by simpa using h)

/-- Groups that are marked as not the last are gathered. -/
theorem readNumbers?_marked {marked : List Nat} (low : ∀ g ∈ marked, g < 128) (n : Nat)
    (rest : Bytes) :
    readNumbers? (some n) ((marked.map fun g => UInt8.ofNat (g + 128)) ++ rest)
      = readNumbers? (some (ofGroups n marked)) rest := by
  induction marked generalizing n with
  | nil => rfl
  | cons g marked ih =>
    have fits : g < 128 := low g (by simp)
    have value : (UInt8.ofNat (g + 128)).toNat = g + 128 :=
      UInt8.toNat_ofNat_of_lt' (by change g + 128 < 256; omega)
    have high : ¬ UInt8.ofNat (g + 128) < 128 := by
      rw [UInt8.lt_iff_toNat_lt, value]
      simp
    rw [List.map_cons, List.cons_append, readNumbers?, if_neg high, value, Nat.add_sub_cancel,
      ih fun g m => low g (by simp [m])]
    rfl

/-- A number that is written is read, and what follows is read after it. -/
theorem readNumbers?_encodeNumber (n : Nat) (rest : Bytes) :
    readNumbers? none (encodeNumber n ++ rest) = (readNumbers? none rest).map (n :: ·) := by
  obtain ⟨last, marked, shown, low, lows, value, top⟩ :=
    groupsFrom_spec (Nat.lt_log2_self (n := n)) (Nat.succ_pos _)
  have lastValue : (UInt8.ofNat last).toNat = last :=
    UInt8.toNat_ofNat_of_lt' (by change last < 256; omega)
  have lastLow : UInt8.ofNat last < 128 := by
    rw [UInt8.lt_iff_toNat_lt, lastValue]
    exact low
  unfold encodeNumber
  rw [shown, List.append_assoc, ← List.map_reverse]
  have lows' : ∀ g ∈ marked.reverse, g < 128 := fun g m => lows g (List.mem_reverse.1 m)
  generalize marked.reverse = groups at value top lows' ⊢
  match groups with
  | [] =>
    obtain rfl : last = n := by simpa [ofGroups] using value
    rw [List.map_nil, List.nil_append, List.singleton_append, readNumbers?, if_pos lastLow,
      lastValue]
  | g :: groups =>
    have fits : g < 128 := lows' g (by simp)
    have positive : g ≠ 0 := top g rfl
    have first : (UInt8.ofNat (g + 128)).toNat = g + 128 :=
      UInt8.toNat_ofNat_of_lt' (by change g + 128 < 256; omega)
    have high : ¬ UInt8.ofNat (g + 128) < 128 := by
      rw [UInt8.lt_iff_toNat_lt, first]
      simp
    have unpadded : UInt8.ofNat (g + 128) ≠ 128 := by
      intro eq
      have := congrArg UInt8.toNat eq
      rw [first] at this
      simp at this
      omega
    rw [List.map_cons, List.cons_append, readNumbers?, if_neg high, if_neg unpadded, first,
      Nat.add_sub_cancel, readNumbers?_marked fun g m => lows' g (by simp [m]),
      List.singleton_append, readNumbers?, if_pos lastLow, lastValue]
    have joined : ofGroups g groups * 128 + last = n := by
      rw [← value]
      simp [ofGroups]
    rw [joined]

/-- Numbers that were written one behind the other are read one after the other. -/
theorem readNumbers?_flatMap (ns : List Nat) :
    readNumbers? none (ns.flatMap encodeNumber) = some ns := by
  induction ns with
  | nil => rfl
  | cons n ns ih => rw [List.flatMap_cons, readNumbers?_encodeNumber, ih, Option.map_some]

/-- The content of an OBJECT IDENTIFIER holds the identifier. -/
theorem decode?_encode? {oid : Oid} {b : Bytes} (h : oid.encode? = some b) :
    decode? b = some oid := by
  obtain ⟨ns, numbers, rfl⟩ := Option.map_eq_some_iff.1 h
  have filled : ns.flatMap encodeNumber ≠ [] := by
    intro empty
    have readBack := readNumbers?_flatMap ns
    rw [empty] at readBack
    obtain rfl : [] = ns := Option.some.inj readBack
    have := ofNumbers_of_numbers? numbers
    rw [← this] at numbers
    simp [ofNumbers, numbers?] at numbers
  rw [decode?, if_neg (by simpa using filled), readNumbers?_flatMap, Option.map_some,
    ofNumbers_of_numbers? numbers]

/-- From octets at least one number is read. -/
theorem ne_nil_of_readNumbers? {begun : Option Nat} {b : Bytes} {ns : List Nat}
    (h : readNumbers? begun b = some ns) (nonempty : b ≠ []) : ns ≠ [] := by
  fun_induction readNumbers? begun b generalizing ns with
  | case1 => exact (nonempty rfl).elim
  | case2 => cases h
  | case3 x r small =>
    obtain ⟨_, -, rfl⟩ := Option.map_eq_some_iff.1 h
    simp
  | case4 => cases h
  | case5 x r large other ih =>
    -- a marked group is followed by another one
    apply ih h
    rintro rfl
    cases h
  | case6 n x r small =>
    obtain ⟨_, -, rfl⟩ := Option.map_eq_some_iff.1 h
    simp
  | case7 n x r large ih =>
    apply ih h
    rintro rfl
    cases h

/-- Numbers make up an identifier that can be read, if there are any. -/
theorem isSome_numbers?_ofNumbers {ns : List Nat} (h : ns ≠ []) :
    (numbers? (ofNumbers ns)).isSome := by
  obtain ⟨n, rest, rfl⟩ := List.exists_cons_of_ne_nil h
  unfold ofNumbers
  by_cases root : n < 40
  · have fits : n ≤ 39 := by omega
    simp [root, numbers?, fits]
  · by_cases second : n < 80
    · have fits : n - 40 ≤ 39 := by omega
      simp [root, second, numbers?, fits]
    · simp [root, second, numbers?]

/-- An identifier that was read can be written. -/
theorem isSome_encode?_of_decode? {b : Bytes} {oid : Oid} (h : decode? b = some oid) :
    oid.encode?.isSome := by
  unfold decode? at h
  split at h
  · cases h
  · rename_i filled
    obtain ⟨ns, numbers, rfl⟩ := Option.map_eq_some_iff.1 h
    have nonempty : ns ≠ [] := ne_nil_of_readNumbers? numbers (by simpa using filled)
    simpa [encode?] using isSome_numbers?_ofNumbers nonempty

end Oid

/-! ## Elements around members -/

namespace Der.Tlv

variable {rules : Rules} {content : Bytes}

/-- An element has the content that it is made with. -/
@[simp] theorem content_made (identifier : UInt8) : (made identifier content).content = content :=
  rfl

/-- The octets of an element that is made are the element that is written. -/
@[simp] theorem whole_made (identifier : UInt8) :
    (made identifier content).whole = element identifier content := rfl

/-- An integer that is written is read. -/
theorem readInteger?_made (n : Int) :
    Signature.readInteger? (made 0x02 (integerOctets n)) = some n := by
  have form : (2 : UInt8) &&& 32 = 0 := by decide
  simp [Signature.readInteger?, primitive?, isUniversal, made, TagClass.ofOctet, form]

/-- An octet string gives its octets. -/
theorem primitive?_octetString (b : Bytes) : (made 0x04 b).primitive? 4 = some b := by
  have form : (4 : UInt8) &&& 32 = 0 := by decide
  simp [primitive?, isUniversal, made, TagClass.ofOctet, form]

/-- A written SEQUENCE gives its members. -/
theorem sequence?_made : (made 0x30 content).sequence? rules = readMany? rules content := by
  have form : (48 : UInt8) &&& 32 ≠ 0 := by decide
  simp [sequence?, members?, isUniversal, made, TagClass.ofOctet, form]

/-- A written SET gives its members. -/
theorem set?_made : (made 0x31 content).set? rules = readMany? rules content := by
  have form : (49 : UInt8) &&& 32 ≠ 0 := by decide
  simp [set?, members?, isUniversal, made, TagClass.ofOctet, form]

/-- The members of what was written under the context-specific tag zero. -/
theorem context?_made : (made 0xa0 content).context? rules 0 = readMany? rules content := by
  have form : (160 : UInt8) &&& 32 ≠ 0 := by decide
  simp [context?, members?, isContext, made, TagClass.ofOctet, form]

end Der.Tlv

end ImageSigning
