import ImageSigning.Proofs.Signature.Extent
import ImageSigning.Proofs.Signature.Made
import ImageSigning.Proofs.Signature.Refusal

/-!
# The leading element of a signature

Two readers tell where a signature ends. One reads its elements; the other goes by the first header alone
and takes the second octet for the beginning of the length. They can only differ where the tag takes
several octets, and only one identifier octet of such a tag can stand in front of a sequence: `0x3f`. This is
the exact exception. Everything else is read from its leading element alone, which ends where the header
declares; behind `0x3f` a signature is read to its end, and the header declares 18 octets or nothing.

* **`decode_of_longTag`** — any other tag of several octets is refused.
* **`elementLength?_of_longTag`**, **`le_length_der`** — the 18 octets, and why no signature has so few.
* **`decode_behind_longTag`** — behind `0x3f` a signature is read as behind `0x30`.
* **`decode_leading`** — reading depends on the leading element, and where the two readers agree.
-/

namespace ImageSigning

open Der Tlv

namespace Der.Tlv

variable {rules : Rules} {b rest : Bytes} {e : Tlv} {x : UInt8} {r : Bytes}

/-! ## Elements inside one another -/

/-- An element's content is part of it. -/
theorem length_content_le (h : read? rules b = some (e, rest)) :
    e.content.length ≤ e.whole.length := by
  match b with
  | [] => simp [read?] at h
  | first :: r =>
    simp only [read?, Option.bind_eq_bind, Option.bind_eq_some_iff, Prod.exists] at h
    obtain ⟨number, afterTag, tag, length, afterLength, counted, h⟩ := h
    have tagged := length_readNumber?_le tag
    have shorter := length_readLength?_lt counted
    split at h
    · simp at h
    · obtain ⟨rfl, rfl⟩ := Prod.mk.inj (Option.some.inj h)
      simp only [List.length_take, List.length_drop, List.length_cons]
      omega

/-- An element that is read is no longer than what it was read from. -/
theorem length_whole_le (h : read? rules b = some (e, rest)) : e.whole.length ≤ b.length := by
  obtain ⟨split, -⟩ := denotes_of_read? h
  have sum := congrArg List.length split
  rw [List.length_append] at sum
  omega

/-- The elements that are read make up what they were read from. -/
theorem flatten_of_readManyWithin? {fuel : Nat} {es : List Tlv}
    (h : readManyWithin? rules fuel b = some es) : (es.map (·.whole)).flatten = b := by
  induction fuel generalizing b es with
  | zero =>
    cases b with
    | nil =>
      obtain rfl := Option.some.inj h
      rfl
    | cons x r => simp [readManyWithin?] at h
  | succ fuel ih =>
    cases b with
    | nil =>
      obtain rfl := Option.some.inj h
      rfl
    | cons x r =>
      simp only [readManyWithin?, Option.bind_eq_bind, Option.bind_eq_some_iff, Prod.exists] at h
      obtain ⟨first, rest, found, others, more, h⟩ := h
      obtain rfl := Option.some.inj h
      rw [List.map_cons, List.flatten_cons, ih more]
      exact (denotes_of_read? found).1.symm

/-- A member and its content are no longer than the content that the member is in. -/
theorem length_le_of_sequence? {es : List Tlv} (h : e.sequence? rules = some es) {m : Tlv}
    (member : m ∈ es) :
    m.content.length ≤ e.content.length ∧ m.whole.length ≤ e.content.length := by
  have members : e.members? rules = some es := by
    unfold sequence? at h
    exact (Option.ite_none_right_eq_some.1 h).2
  have many : readMany? rules e.content = some es := by
    unfold members? at members
    exact (Option.ite_none_right_eq_some.1 members).2
  have inside : m.whole.length ≤ e.content.length := by
    rw [← flatten_of_readManyWithin? many]
    exact Signature.length_le_flatten (List.mem_map_of_mem member)
  exact ⟨le_trans (length_content_le (denotes_of_members? members m member [])) inside, inside⟩

/-! ## Tags of several octets -/

/-- What a tag in several octets has gathered is never lost. -/
theorem le_of_readTagNumber? {n m : Nat} (h : readTagNumber? n b = some (m, rest)) :
    n * 128 ≤ m := by
  fun_induction readTagNumber? n b with
  | case1 => simp at h
  | case2 n x r small =>
    obtain ⟨rfl, -⟩ := Prod.mk.inj (Option.some.inj h)
    omega
  | case3 n x r large ih =>
    have more := ih h
    omega

/-- A constructed element of the universal class has one of 32 identifier octets, and only the last of
them is followed by more of the tag. -/
theorem eq_of_isUniversal {es : List Tlv} (h : read? rules (x :: r) = some (e, rest))
    (sequence : e.sequence? rules = some es) (long : x &&& 0x1f = 0x1f) :
    x = 0x3f ∧ ∃ after, readTagNumber? 0 r = some (16, after) := by
  simp only [read?, Option.bind_eq_bind, Option.bind_eq_some_iff, Prod.exists] at h
  obtain ⟨number, afterTag, tag, length, afterLength, counted, h⟩ := h
  have shape : e.tagClass = .ofOctet x ∧ e.constructed = (x &&& 0x20 ≠ 0) ∧ e.number = number := by
    split at h
    · simp at h
    · obtain ⟨rfl, -⟩ := Prod.mk.inj (Option.some.inj h)
      exact ⟨rfl, by simp, rfl⟩
  unfold sequence? members? isUniversal at sequence
  obtain ⟨universal, sequence⟩ := Option.ite_none_right_eq_some.1 sequence
  obtain ⟨constructed, -⟩ := Option.ite_none_right_eq_some.1 sequence
  rw [Bool.and_eq_true, decide_eq_true_eq, decide_eq_true_eq, shape.1, shape.2.2] at universal
  rw [shape.2.1] at constructed
  obtain ⟨tagClass, rfl⟩ := universal
  constructor
  · -- class, form and the five bits of the number leave one octet
    have only : ∀ n : Fin 256, UInt8.ofNat n &&& 0x1f = 0x1f →
        TagClass.ofOctet (UInt8.ofNat n) = .universal → UInt8.ofNat n &&& 0x20 ≠ 0 →
        UInt8.ofNat n = 0x3f := by decide +kernel
    have here := only ⟨x.toNat, x.toNat_lt⟩
    simp only [UInt8.ofNat_toNat] at here
    exact here long tagClass constructed
  · unfold readNumber? at tag
    rw [if_neg (by simpa using long)] at tag
    simp only [Option.bind_eq_bind, Option.bind_eq_some_iff, Prod.exists] at tag
    obtain ⟨m, after, found, tag⟩ := tag
    split at tag
    · obtain ⟨rfl, rfl⟩ := Prod.mk.inj (Option.some.inj tag)
      exact ⟨_, found⟩
    · simp at tag

end Der.Tlv

namespace Der

/-- Behind `0x3f` the header declares 18 octets, if it declares any, where the tag is a sequence's: the
number of that tag is taken for the length. -/
theorem elementLength?_of_longTag {r after : Bytes} {n : Nat}
    (tag : readTagNumber? 0 r = some (16, after)) (h : elementLength? (0x3f :: r) = some n) :
    n = 18 := by
  obtain ⟨declared, -⟩ := elementLength?_eq_some.1 h
  match r with
  | [] => simp [declaredLength?] at declared
  | y :: digits =>
    obtain ⟨low, value⟩ := octet_bits y
    unfold declaredLength? at declared
    dsimp only at declared
    unfold readTagNumber? at tag
    split at tag
    · rename_i small
      obtain ⟨number, -⟩ := Prod.mk.inj (Option.some.inj tag)
      rw [if_pos (low.2 small)] at declared
      have sum := Option.some.inj declared
      omega
    · rename_i large
      have high : 128 ≤ y.toNat := by
        rw [UInt8.lt_iff_toNat_lt] at large
        exact not_lt.1 large
      have octet : y.toNat < 256 := y.toNat_lt
      have gathered := le_of_readTagNumber? tag
      rw [if_neg fun short => large (low.1 short), value, if_pos (.inl (by omega))] at declared
      cases declared

end Der

namespace Signature

variable {b : Bytes} {s : Signature}

/-! ## What is refused -/

/-- Without a content that has a type there is no signature. -/
theorem decode_of_contentInfo_eq_none (h : ContentInfo.read? b = none) :
    decode b = .error (.malformed "no typed content") := by
  unfold decode
  rw [h]
  rfl

/-- Octets without a leading element are no typed content. -/
theorem decode_of_read?_eq_none (h : read? .basic b = none) :
    decode b = .error (.malformed "no typed content") :=
  decode_of_contentInfo_eq_none (by simp [ContentInfo.read?, h])

/-- Any tag of several octets but the one that begins with `0x3f` is refused. -/
theorem decode_of_longTag {x : UInt8} {r : Bytes} (long : x &&& 0x1f = 0x1f) (other : x ≠ 0x3f) :
    decode (x :: r) = .error (.malformed "no typed content") := by
  rcases found : read? .basic (x :: r) with _ | ⟨e, rest⟩
  · exact decode_of_read?_eq_none found
  · have flat : e.sequence? .basic = none := by
      rcases members : e.sequence? .basic with _ | es
      · rfl
      · exact (other (eq_of_isUniversal found members long).1).elim
    apply decode_of_contentInfo_eq_none
    simp [ContentInfo.read?, found, ContentInfo.ofTlv?, flat]

/-! ## How long a signature is -/

/-- A signature that decodes has its parts. -/
theorem hasParts_of_decode (h : decode b = .ok s) : ∃ data, HasParts b data := by
  unfold decode at h
  obtain ⟨⟨outer, der, rest⟩, read, h⟩ := Outcome.bind_eq_ok.1 h
  dsimp only at h
  rw [Outcome.failUnless_eq_ok] at h
  obtain ⟨type, h⟩ := h
  obtain ⟨data, signed, h⟩ := Outcome.bind_eq_ok.1 h
  obtain ⟨content, contentGiven, h⟩ := Outcome.bind_eq_ok.1 h
  obtain ⟨bound, boundGiven, h⟩ := Outcome.bind_eq_ok.1 h
  split at h
  · rename_i algorithm algorithmKnown
    rw [pure_bind] at h
    obtain ⟨digest, digestSized, -⟩ := Outcome.bind_eq_ok.1 h
    obtain ⟨octets, inner, signed⟩ := Option.bind_eq_some_iff.1 (require_eq_ok.1 signed)
    exact ⟨data, outer, der, rest, octets, content, bound, algorithm, digest, require_eq_ok.1 read,
      not_not.1 type, inner, signed, require_eq_ok.1 contentGiven, require_eq_ok.1 boundGiven, algorithmKnown,
      Outcome.mapError_eq_ok.1 digestSized⟩
  · simp [Outcome.throw_bind] at h

/-- A typed content holds no more than its element. -/
theorem length_le_of_ofTlv? {e : Tlv} {info : ContentInfo} {content : Bytes}
    (h : ContentInfo.ofTlv? e = some info) (inner : info.content = some content) :
    content.length ≤ e.content.length := by
  simp only [ContentInfo.ofTlv?, Option.bind_eq_bind, Option.bind_eq_some_iff] at h
  obtain ⟨es, members, h⟩ := h
  split at h
  · obtain ⟨type, -, h⟩ := Option.bind_eq_some_iff.1 h
    obtain rfl := Option.some.inj h
    cases inner
  · rename_i _ type tagged
    obtain ⟨_, -, h⟩ := Option.bind_eq_some_iff.1 h
    obtain ⟨content', read, h⟩ := Option.bind_eq_some_iff.1 h
    obtain rfl := Option.some.inj h
    obtain rfl := Option.some.inj inner
    obtain ⟨within, whole⟩ := length_le_of_sequence? members (m := tagged) (by simp)
    unfold readContent? at read
    split at read
    · obtain rfl := Option.some.inj read
      exact within
    · rwa [← whole_of_keep? read]
  · cases h

/-- Signed data holds no more than its octets. -/
theorem length_content_le_of_read? {data : SignedData} {content : Bytes}
    (h : SignedData.read? b = some data) (inner : data.contentInfo.content = some content) :
    content.length ≤ b.length := by
  simp only [SignedData.read?, Option.bind_eq_bind, Option.bind_eq_some_iff, Prod.exists] at h
  obtain ⟨e, rest, read, es, members, h⟩ := h
  split at h
  · rename_i _ version algorithms info others
    simp only [Option.bind_eq_some_iff] at h
    obtain ⟨_, -, _, -, _, -, typed, found, _, -, _, -, h⟩ := h
    split at h
    · simp only [Option.bind_eq_some_iff] at h
      obtain ⟨_, -, _, -, h⟩ := h
      obtain rfl := Option.some.inj h
      have within := length_le_of_ofTlv? found inner
      have member := (length_le_of_sequence? members (m := info) (by simp)).1
      have whole := length_content_le read
      have all := length_whole_le read
      omega
    · cases h
  · cases h

/-- The digest that a content binds is no longer than the content. -/
theorem length_octets_le_of_read? {bound : BoundDigest} (h : BoundDigest.read? b = some bound) :
    bound.octets.length ≤ b.length := by
  simp only [BoundDigest.read?, Option.bind_eq_bind, Option.bind_eq_some_iff, Prod.exists] at h
  obtain ⟨e, rest, read, es, members, h⟩ := h
  split at h
  · rename_i _ data digest
    obtain ⟨_, -, h⟩ := Option.bind_eq_some_iff.1 h
    -- whatever the description of the data is, the digest is read in the same way
    obtain ⟨algorithm, octets, digestMembers, primitive⟩ : ∃ algorithm octets,
        digest.sequence? .basic = some [algorithm, octets] ∧
          octets.primitive? 4 = some bound.octets := by
      split at h <;> (
        obtain ⟨-, -, h⟩ := Option.bind_eq_some_iff.1 h
        obtain ⟨fields, digestMembers, h⟩ := Option.bind_eq_some_iff.1 h
        split at h
        · obtain ⟨_, -, h⟩ := Option.bind_eq_some_iff.1 h
          obtain ⟨value, primitive, h⟩ := Option.bind_eq_some_iff.1 h
          obtain rfl := Option.some.inj h
          exact ⟨_, _, digestMembers, primitive⟩
        · cases h)
    unfold primitive? at primitive
    obtain ⟨-, content⟩ := Option.ite_none_right_eq_some.1 primitive
    have inside := (length_le_of_sequence? digestMembers (m := octets) (by simp)).1
    have member := (length_le_of_sequence? members (m := digest) (by simp)).1
    have whole := length_content_le read
    have all := length_whole_le read
    rw [← Option.some.inj content]
    omega
  · cases h

/-- A signature is longer than its digest, and so than 18 octets. -/
theorem le_length_der (h : decode b = .ok s) : 32 ≤ s.der.length := by
  obtain ⟨e, rest, read, whole⟩ := exists_read?_of_decode h
  obtain ⟨data, outer, der, _, octets, content, bound, algorithm, digest, found, -, inner, signed,
    contentGiven, boundGiven, -, digestSized⟩ := hasParts_of_decode h
  simp only [ContentInfo.read?, read, Option.bind_eq_bind, Option.bind_some,
    Option.bind_eq_some_iff, Option.some.injEq, Prod.mk.injEq] at found
  obtain ⟨_, typed, rfl, -, -⟩ := found
  have size : 32 ≤ bound.octets.length := by
    have sized : bound.octets.length = algorithm.size := by
      unfold Digest.ofOctets? at digestSized
      split at digestSized
      · assumption
      · cases digestSized
    rw [sized]
    cases algorithm <;> decide
  have first := length_octets_le_of_read? boundGiven
  have second := length_content_le_of_read? signed contentGiven
  have third := length_le_of_ofTlv? typed inner
  have last := length_content_le read
  rw [← whole]
  omega

/-! ## The leading element -/

/-- An element is not empty. -/
theorem pos_of_elementLength? {n : Nat} (h : elementLength? b = some n) : 0 < n := by
  obtain ⟨declared, -⟩ := elementLength?_eq_some.1 h
  unfold declaredLength? at declared
  split at declared
  · split at declared
    · have sum := Option.some.inj declared
      omega
    · dsimp only at declared
      split at declared
      · cases declared
      · have sum := Option.some.inj declared
        omega
  · cases declared

/-- Behind a tag of one octet, the octets up to the declared extent are the leading element. -/
theorem exists_read?_take {n : Nat} (tag : HasShortTag b) (h : elementLength? b = some n) :
    ∃ e rest, read? .basic b = some (e, rest) ∧ b.take n = e.whole := by
  obtain ⟨e, rest, read⟩ := exists_read?_of_elementLength? tag h
  obtain rfl := Option.some.inj ((elementLength?_of_read? tag read).symm.trans h)
  obtain ⟨split, -⟩ := denotes_of_read? read
  refine ⟨e, rest, read, ?_⟩
  rw [split]
  exact List.take_left

/-- The identifier of a signature is that of a sequence, in one octet or behind `0x3f`. -/
theorem identifier_of_decode {x : UInt8} {r : Bytes} (h : decode (x :: r) = .ok s)
    (long : x &&& 0x1f = 0x1f) : x = 0x3f ∧ ∃ after, readTagNumber? 0 r = some (16, after) := by
  obtain ⟨data, outer, der, _, _, _, _, _, _, found, -⟩ := hasParts_of_decode h
  simp only [ContentInfo.read?, ContentInfo.ofTlv?, Option.bind_eq_bind, Option.bind_eq_some_iff,
    Prod.exists] at found
  obtain ⟨e, rest, read, _, ⟨es, members, -⟩, -⟩ := found
  exact eq_of_isUniversal read members long

/-- An element behind a tag in several octets is the one behind `0x30`, but for the octets of the tag. -/
theorem read?_longTag {tag r : Bytes} (number : readTagNumber? 0 (tag ++ r) = some (16, r)) :
    read? .basic (0x3f :: (tag ++ r)) = (read? .basic (0x30 :: r)).map fun (e, rest) =>
      ({ e with whole := 0x3f :: (tag ++ e.whole.tail) }, rest) := by
  have short : readNumber? .basic 0x30 r = some (16, r) := rfl
  have long : readNumber? .basic 0x3f (tag ++ r) = some (16, r) := by
    unfold readNumber?
    rw [if_neg (by decide), number]
    rfl
  simp only [read?, short, long, Option.bind_eq_bind, Option.bind_some]
  rcases counted : readLength? .basic r with _ | ⟨size, after⟩
  · rfl
  · rw [Option.bind_some, Option.bind_some]
    dsimp only
    split
    · rfl
    · have shorter := length_readLength?_lt counted
      have behind : (after.drop size).length ≤ r.length := by
        rw [List.length_drop]
        omega
      -- the element is `k` octets of `r` behind the tag, whichever way the tag is written
      obtain ⟨k, inside⟩ := Nat.exists_eq_add_of_le behind
      have octets : r.length + 1 - (after.drop size).length = k + 1 := by omega
      have octets' : (tag ++ r).length + 1 - (after.drop size).length = tag.length + k + 1 := by
        rw [List.length_append]
        omega
      rw [octets, octets', List.take_succ_cons, List.take_succ_cons, List.take_length_add_append]
      rfl

/-- Typed contents that differ in the octets of their element alone are read as signatures that differ in
the octets they keep alone. -/
theorem decode_of_read?_eq {b' der der' rest rest' : Bytes} {outer : ContentInfo}
    (h : ContentInfo.read? b = some (outer, der, rest))
    (h' : ContentInfo.read? b' = some (outer, der', rest')) :
    decode b' = (decode b).map fun s => { s with der := der' } := by
  have found {p : ContentInfo × Bytes × Bytes} : require "no typed content" (some p) = .ok p := rfl
  unfold decode
  rw [h, h', found, found, Outcome.ok_bind, Outcome.ok_bind]
  dsimp only
  split
  · rfl
  rw [Outcome.map_bind]
  refine bind_congr fun data => ?_
  rw [Outcome.map_bind]
  refine bind_congr fun content => ?_
  rw [Outcome.map_bind]
  refine bind_congr fun bound => ?_
  split
  · simp only [pure_bind, Outcome.map_bind]
    rfl
  · rfl

/-- Behind a tag in several octets a signature is read as it is behind `0x30`, and keeps that tag. -/
theorem decode_behind_longTag {tag r : Bytes} (number : readTagNumber? 0 (tag ++ r) = some (16, r)) :
    decode (0x3f :: (tag ++ r))
      = (decode (0x30 :: r)).map fun s => { s with der := 0x3f :: (tag ++ s.der.tail) } := by
  have read' := read?_longTag number
  rcases read : read? .basic (0x30 :: r) with _ | ⟨e, rest⟩
  · rw [read] at read'
    rw [decode_of_read?_eq_none read, decode_of_read?_eq_none read']
    rfl
  · rw [read] at read'
    have same : ContentInfo.ofTlv? { e with whole := 0x3f :: (tag ++ e.whole.tail) }
        = ContentInfo.ofTlv? e := rfl
    rcases info : ContentInfo.ofTlv? e with _ | outer
    · have unread : ContentInfo.read? (0x30 :: r) = none := by simp [ContentInfo.read?, read, info]
      have unread' : ContentInfo.read? (0x3f :: (tag ++ r)) = none := by
        simp [ContentInfo.read?, read', info, same]
      rw [decode_of_contentInfo_eq_none unread, decode_of_contentInfo_eq_none unread']
      rfl
    · have isRead : ContentInfo.read? (0x30 :: r) = some (outer, e.whole, rest) := by
        simp [ContentInfo.read?, read, info]
      have isRead' : ContentInfo.read? (0x3f :: (tag ++ r))
          = some (outer, 0x3f :: (tag ++ e.whole.tail), rest) := by
        simp [ContentInfo.read?, read', info, same]
      rw [decode_of_read?_eq isRead isRead']
      rcases decoded : decode (0x30 :: r) with p | s
      · rfl
      · obtain ⟨_, _, again, whole⟩ := exists_read?_of_decode decoded
        obtain ⟨rfl, -⟩ := Prod.mk.inj (Option.some.inj (read.symm.trans again))
        rw [Except.map, Except.map, whole]

/-! ## Where the two readers agree -/

/-- Octets that do not begin with `0x3f` have a tag of one octet, or are refused whatever follows their
first one. -/
theorem hasShortTag_or_refused (other : b.head? ≠ some 0x3f) : HasShortTag b ∨
    ∃ x r, b = x :: r ∧ ∀ r', decode (x :: r') = .error (.malformed "no typed content") := by
  by_cases tag : HasShortTag b
  · exact .inl tag
  · obtain ⟨x, head, long⟩ : ∃ x, b.head? = some x ∧ x &&& 0x1f = 0x1f := by
      simpa [HasShortTag] using tag
    obtain ⟨r, rfl⟩ := List.head?_eq_some_iff.1 head
    have foreign : x ≠ 0x3f := by
      rintro rfl
      exact other rfl
    exact .inr ⟨x, r, rfl, fun r' => decode_of_longTag long foreign⟩

/-- What follows the declared extent has no part in what is read. -/
theorem decode_take_append {n : Nat} (other : b.head? ≠ some 0x3f) (h : elementLength? b = some n)
    (r : Bytes) : decode (b.take n ++ r) = decode b := by
  rcases hasShortTag_or_refused other with tag | ⟨x, r', rfl, refused⟩
  · obtain ⟨e, rest, read, whole⟩ := exists_read?_take tag h
    rw [whole]
    exact decode_of_read? read r
  · -- the extent holds the first octet at least, and that one is enough for the refusal
    obtain ⟨m, rfl⟩ := Nat.exists_eq_succ_of_ne_zero (pos_of_elementLength? h).ne'
    rw [List.take_succ_cons, List.cons_append, refused, refused]

/-- Octets whose header declares no extent that fits are refused. -/
theorem decode_of_elementLength?_eq_none (other : b.head? ≠ some 0x3f) (h : elementLength? b = none) :
    decode b = .error (.malformed "no typed content") := by
  rcases hasShortTag_or_refused other with tag | ⟨x, r', rfl, refused⟩
  · apply decode_of_read?_eq_none
    rcases read : read? .basic b with _ | ⟨e, rest⟩
    · rfl
    · rw [elementLength?_of_read? tag read] at h
      cases h
  · exact refused r'

/-- What is read begins with what is kept of it. -/
theorem exists_eq_append_of_decode (h : decode b = .ok s) : ∃ rest, b = s.der ++ rest := by
  obtain ⟨e, rest, read, whole⟩ := exists_read?_of_decode h
  rw [← whole]
  exact ⟨rest, (denotes_of_read? read).1⟩

/-- A signature keeps the declared extent exactly if its octets do not begin with `0x3f`. -/
theorem der_eq_take_iff (h : decode b = .ok s) :
    (∃ n, elementLength? b = some n ∧ s.der = b.take n) ↔ b.head? ≠ some 0x3f := by
  constructor
  · rintro ⟨n, extent, kept⟩ head
    obtain ⟨r, rfl⟩ := List.head?_eq_some_iff.1 head
    obtain ⟨-, after, tag⟩ := identifier_of_decode h (by decide)
    -- 18 octets would be declared, and a signature has more
    obtain rfl := elementLength?_of_longTag tag extent
    have long := le_length_der h
    rw [kept, List.length_take] at long
    omega
  · intro other
    have tag : HasShortTag b := by
      intro x head long
      obtain ⟨r, rfl⟩ := List.head?_eq_some_iff.1 (Option.mem_def.1 head)
      exact other (congrArg some (identifier_of_decode h long).1)
    obtain ⟨e, rest, read, whole⟩ := exists_read?_of_decode h
    refine ⟨_, elementLength?_of_read? tag read, ?_⟩
    rw [(denotes_of_read? read).1, ← whole, List.take_left]

/-- **A signature is its leading element.** Reading takes the leading element and depends on nothing else,
and octets without one are refused. Unless they begin with `0x3f`, the leading element ends where the
header declares, so what follows this extent has no part in the outcome, and octets whose header declares
none that fits are refused. A signature that is read keeps exactly its leading element and reads the same
from it, whatever follows; its octets are those up to the declared extent exactly if they do not begin with
`0x3f`. Behind `0x3f` and a tag that comes to 16, the same is read as behind `0x30`. -/
theorem decode_leading (b : Bytes) :
    ((∀ e rest, read? .basic b = some (e, rest) → ∀ r, decode (e.whole ++ r) = decode b) ∧
      (read? .basic b = none → decode b = .error (.malformed "no typed content"))) ∧
    (b.head? ≠ some 0x3f →
      (∀ n, elementLength? b = some n → ∀ r, decode (b.take n ++ r) = decode b) ∧
      (elementLength? b = none → decode b = .error (.malformed "no typed content"))) ∧
    (∀ s, decode b = .ok s →
      (∃ rest, b = s.der ++ rest) ∧ (∀ r, decode (s.der ++ r) = .ok s) ∧
      ((∃ n, elementLength? b = some n ∧ s.der = b.take n) ↔ b.head? ≠ some 0x3f)) ∧
    ∀ tag r, b = 0x3f :: (tag ++ r) → readTagNumber? 0 (tag ++ r) = some (16, r) →
      decode b = (decode (0x30 :: r)).map fun s => { s with der := 0x3f :: (tag ++ s.der.tail) } := by
  refine ⟨⟨fun e rest read r => decode_of_read? read r, decode_of_read?_eq_none⟩, ?_, ?_, ?_⟩
  · intro other
    exact ⟨fun n extent => decode_take_append other extent, decode_of_elementLength?_eq_none other⟩
  · intro s decoded
    exact ⟨exists_eq_append_of_decode decoded, decode_append decoded, der_eq_take_iff decoded⟩
  · rintro tag r rfl number
    exact decode_behind_longTag number

/-- The signature by the short key over the empty message, behind a tag of two octets: its header declares
18 octets, which are no signature. Behind a tag of three octets its header declares nothing. -/
theorem decode_leading_longTag : ∃ r s, decode (0x30 :: r) = .ok s ∧
    (∃ t, decode (0x3f :: 0x10 :: r) = .ok t ∧ elementLength? (0x3f :: 0x10 :: r) = some 18 ∧
      t.der ≠ (0x3f :: 0x10 :: r).take 18 ∧ ∀ u, decode ((0x3f :: 0x10 :: r).take 18) ≠ .ok u) ∧
    ∃ t, decode (0x3f :: 0x80 :: 0x10 :: r) = .ok t ∧
      elementLength? (0x3f :: 0x80 :: 0x10 :: r) = none := by
  obtain ⟨c, s, w', isRead, built, length⟩ := exists_build_shortIdentity
  obtain ⟨complete, alone⟩ := isComplete_of_build built
  obtain ⟨r, octets⟩ : ∃ r, s.der = 0x30 :: r := ⟨_, complete.der⟩
  have decoded : decode (0x30 :: r) = .ok s := by
    have alike := complete.decode_of_others_eq_nil isRead alone []
    rwa [List.append_nil, octets] at alike
  have size : r.length = 588 := by
    rw [octets, List.length_cons] at length
    omega
  have behind (tag : Bytes) (number : readTagNumber? 0 (tag ++ r) = some (16, r)) :
      ∃ t, decode (0x3f :: (tag ++ r)) = .ok t := by
    rw [(decode_leading _).2.2.2 tag r rfl number, decoded]
    exact ⟨_, rfl⟩
  obtain ⟨t, short⟩ := behind [0x10] rfl
  obtain ⟨u, long⟩ := behind [0x80, 0x10] rfl
  have extent : elementLength? (0x3f :: 0x10 :: r) = some 18 := by
    refine elementLength?_eq_some.2 ⟨rfl, ?_⟩
    simp [size]
  have apart := (decode_leading _).2.2.1 t short
  refine ⟨r, s, decoded, ⟨t, short, extent, ?_, ?_⟩, u, long, rfl⟩
  · intro kept
    exact apart.2.2.1 ⟨18, extent, kept⟩ rfl
  · intro v cut
    obtain ⟨⟨rest, split⟩, -⟩ := (decode_leading _).2.2.1 v cut
    have few := congrArg List.length split
    have many := le_length_der cut
    rw [List.length_take, List.length_append] at few
    omega

end Signature

end ImageSigning
