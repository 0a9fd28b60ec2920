import ImageSigning.Proofs.Image.Checksum

/-!
# Writing again what was written

A written image that is loaded and written once more is written as it was, octet for octet, if its
checksum field is aligned and every entry goes through the loading as one signature that fills it. An
entry is stored otherwise only if it holds a signature, and then in two ways: the signer's subject cannot
be shown, so that the entry is stored twice, or octets follow the signature that are not padding, so that
less is written than stood there. The second can only happen to octets that were kept behind a tag of
several octets, whose extent is read off wrongly.

* **`IsAppendable`** — how what an image carries came about.
* **`padded_der_eq_iff`** — when what is stored of an entry fills it as before.
* **`rewriting`** — when a loaded image is written as the file that it was loaded from.
-/

namespace ImageSigning

open Bytes Der Tlv CertificateTable

namespace Image

/-! ## What is stored again of an entry -/

/-- How what an image carries came about: it was read, built, or made by adding certificates, or it was
kept of any octets. -/
inductive IsAppendable : StoredSignature → Prop
  | read {b : Bytes} {s : Signature} (h : Signature.decode b = .ok s) : IsAppendable (.decoded s)
  | built {i : Identity} {d : Digest} {s : Signature} {w w' : World}
      (h : Signature.build i d w = (.ok s, w')) : IsAppendable (.decoded s)
  | augmented {s t : Signature} {path : String} {w w' : World}
      (h : s.augment path w = (.ok t, w')) : IsAppendable (.decoded t)
  | kept (b : Bytes) (reason : String) : IsAppendable (StoredSignature.keep b reason)

/-- What is stored of an entry could have been appended. -/
theorem isAppendable_of_storedOf {b : Bytes} {xs : List StoredSignature} {x : StoredSignature}
    (h : storedOf b = .ok xs) (m : x ∈ xs) : IsAppendable x := by
  rcases storedOf_eq_ok h with ⟨p, -, -, rfl⟩ | ⟨s, t, found, -, rfl⟩ | ⟨s, q, found, -, rfl⟩
  · obtain rfl := List.mem_singleton.1 m
    exact .kept b _
  · obtain rfl := List.mem_singleton.1 m
    exact .read found
  · rcases List.mem_cons.1 m with rfl | m
    · exact .read found
    · obtain rfl := List.mem_singleton.1 m
      exact .kept b _

/-- Octets that hold a signature, with what follows it. -/
theorem decode_append_of_decode {b : Bytes} {s : Signature} (found : Signature.decode b = .ok s)
    (r : Bytes) : Signature.decode (b ++ r) = .ok s := by
  obtain ⟨e, rest, read, -⟩ := Signature.exists_read?_of_decode found
  obtain ⟨split, -⟩ := denotes_of_read? read
  rw [split, List.append_assoc, Signature.decode_of_read? read, found]

/-- A signature read from padded octets stands in the octets, or fills them. -/
theorem decode_or_padded_eq {b : Bytes} {t : Signature}
    (found : Signature.decode (padded b) = .ok t) :
    Signature.decode b = .ok t ∨ padded t.der = padded b := by
  obtain ⟨e, rest, read, octets⟩ := Signature.exists_read?_of_decode found
  obtain ⟨split, -⟩ := denotes_of_read? read
  rw [octets] at split
  by_cases short : t.der.length < b.length
  · left
    have inside : b = t.der ++ b.drop t.der.length := by
      have cut := congrArg (List.take t.der.length) split
      rw [List.take_left, padded, List.take_append_of_le_length (Nat.le_of_lt short)] at cut
      conv_lhs => rw [← List.take_append_drop t.der.length b, cut]
    rw [inside, ← octets, Signature.decode_of_read? read, found]
  · right
    obtain ⟨few, shown⟩ := eq_append_zeros split (not_lt.1 short)
    rw [shown, padded_append_zeros few]

/-- What an image carries is a signature that was read, or as long as an extent that its octets declare,
behind a tag of one octet if it was made. -/
theorem IsAppendable.cases_extent {x : StoredSignature} (h : IsAppendable x) :
    (∃ s, x = .decoded s ∧ Signature.decode x.der = .ok s) ∨
      ((∀ n, elementLength? x.der = some n → n = x.der.length) ∧
        ((∃ s, x = .decoded s) → HasShortTag x.der)) := by
  have element {s : Signature} (short : s.encode.length < elementLimit) (here : s.der = s.encode) :
      (∀ n, elementLength? s.der = some n → n = s.der.length) ∧ HasShortTag s.der := by
    have whole : IsElement s.der := here ▸ isElement_encode short
    exact ⟨fun n extent => Option.some.inj (extent.symm.trans whole.elementLength?), whole.2⟩
  cases h with
  | @read b s found =>
    have again := Signature.decode_append found []
    rw [List.append_nil] at again
    exact .inl ⟨s, rfl, again⟩
  | @built i d s w w' builds =>
    have complete := (Signature.isComplete_of_build builds).1
    obtain ⟨whole, tag⟩ := element complete.short complete.der
    exact .inr ⟨whole, fun _ => tag⟩
  | @augmented s t path w w' builds =>
    obtain ⟨chain, -, parts, -, -, short, rfl⟩ := Signature.augment_eq_ok builds
    obtain ⟨whole, tag⟩ := @element { parts with der := parts.encode } short rfl
    exact .inr ⟨whole, fun _ => tag⟩
  | kept b reason =>
    obtain ⟨-, -, whole⟩ := StoredSignature.keep_spec b reason
    refine .inr ⟨whole, ?_⟩
    rintro ⟨s, shape⟩
    exact (keep_ne_decoded b reason s shape).elim

/-- One signature stored of an entry fills it as before, unless there is a signature in it that does
not. -/
theorem padded_der_eq_iff {x y : StoredSignature} (appendable : IsAppendable x)
    (h : storedOf (padded x.der) = .ok [y]) : padded y.der = padded x.der ↔
      ∀ t, Signature.decode (padded x.der) = .ok t → padded t.der = padded x.der := by
  rcases storedOf_eq_ok h with ⟨p, failed, -, shape⟩ | ⟨t, u, found, -, shape⟩ | ⟨t, q, -, -, shape⟩
  · obtain rfl : y = .keep (padded x.der) p.message := by simpa using shape
    have undecoded (t : Signature) : Signature.decode (padded x.der) ≠ .ok t := by
      rw [failed]
      simp
    have whole : ∀ n, elementLength? x.der = some n → n = x.der.length := by
      rcases appendable.cases_extent with ⟨s, -, found⟩ | ⟨whole, -⟩
      · exact (undecoded s (decode_append_of_decode found _)).elim
      · exact whole
    obtain ⟨rest, split, -⟩ := StoredSignature.keep_spec (padded x.der) p.message
    obtain ⟨longer, -⟩ := length_der_keep whole
      (zeros (paddingAfter (headerSize + x.der.length))) p.message
    obtain ⟨few, shown⟩ := eq_append_zeros split longer
    refine iff_of_true ?_ fun t found => (undecoded t found).elim
    rw [shown, padded_append_zeros few]
  · obtain rfl : y = .decoded t := by simpa using shape
    constructor
    · intro same t' found'
      obtain rfl := Except.ok.inj (found.symm.trans found')
      exact same
    · intro fills
      exact fills t found
  · simp at shape

/-- Nothing but octets that were kept behind a tag of several octets can have a signature in front that
does not fill the entry. -/
theorem IsAppendable.padded_eq {x : StoredSignature} (h : IsAppendable x)
    (sort : (∃ s, x = .decoded s) ∨ HasShortTag x.der) {t : Signature}
    (found : Signature.decode (padded x.der) = .ok t) : padded t.der = padded x.der := by
  rcases decode_or_padded_eq found with here | fills
  · rcases h.cases_extent with ⟨s, shape, again⟩ | ⟨whole, builds⟩
    · obtain rfl := Except.ok.inj (here.symm.trans again)
      rw [shape]
      rfl
    · have tag : HasShortTag x.der := sort.elim builds id
      obtain ⟨e, rest, read, octets⟩ := Signature.exists_read?_of_decode here
      obtain ⟨split, -⟩ := denotes_of_read? read
      have all := whole _ (elementLength?_of_read? tag read)
      have nothing : rest = [] := by
        have size := congrArg List.length split
        rw [List.length_append] at size
        exact List.eq_nil_of_length_eq_zero (by omega)
      rw [nothing, List.append_nil, octets] at split
      rw [split]
  · exact fills

/-! ## The image that is loaded again -/

/-- A signature in an entry can be told of, and fills the entry. -/
def GoesThrough (x : StoredSignature) : Prop :=
  ∀ t, Signature.decode (padded x.der) = .ok t →
    (∃ u, t.signer.subject.show = .ok u) ∧ padded t.der = padded x.der

/-- An entry is taken once exactly if the subject of its signer has a name, as far as it decodes. -/
theorem isTakenOnce_iff_of_storedOf {b : Bytes} {xs : List StoredSignature}
    (h : storedOf b = .ok xs) : IsTakenOnce b ↔
      ∀ t, Signature.decode b = .ok t → ∃ u, t.signer.subject.show = .ok u := by
  unfold IsTakenOnce
  rcases storedOf_eq_ok h with ⟨p, failed, foreign, -⟩ | ⟨s, t, found, shown, -⟩ |
    ⟨s, q, found, unshown, -⟩
  · simp [failed, foreign]
  · simp [found]
  · simp [found]

/-- The padded octets of signatures are stored of their entries exactly if each signature goes through.
-/
theorem map_padded_eq_iff {items : List StoredSignature} {xss : List (List StoredSignature)}
    (appendable : ∀ x ∈ items, IsAppendable x)
    (stored : List.Forall₂ (fun x xs => storedOf (padded x.der) = .ok xs) items xss) :
    xss.flatten.map (fun y => padded y.der) = items.map (fun x => padded x.der) ↔
      ∀ x ∈ items, GoesThrough x := by
  have contents : List.Forall₂ (fun b xs => storedOf b = .ok xs)
      (items.map fun x => padded x.der) xss := List.forall₂_map_left_iff.2 stored
  have each (x : StoredSignature) (m : x ∈ items) : GoesThrough x ↔
      IsTakenOnce (padded x.der) ∧
        ∀ t, Signature.decode (padded x.der) = .ok t → padded t.der = padded x.der := by
    obtain ⟨xs, -, here⟩ := Outcome.exists_of_forall₂ stored m
    rw [isTakenOnce_iff_of_storedOf here, ← forall₂_and]
    rfl
  have pointwise (once : ∀ x ∈ items, IsTakenOnce (padded x.der)) :
      xss.flatten.map (fun y => padded y.der) = items.map (fun x => padded x.der) ↔
        ∀ x ∈ items, ∀ t, Signature.decode (padded x.der) = .ok t →
          padded t.der = padded x.der := by
    have pairs := forall₂_flatten contents (List.forall_mem_map.2 once)
    rw [List.forall₂_map_left_iff] at pairs
    generalize xss.flatten = ys at pairs
    clear stored contents once each
    induction pairs with
    | nil => simp
    | @cons x y items ys here _ ih =>
      obtain ⟨first, others⟩ := List.forall_mem_cons.1 appendable
      rw [List.map_cons, List.map_cons, List.cons.injEq, List.forall_mem_cons]
      exact and_congr (padded_der_eq_iff first here) (ih others)
  constructor
  · intro same
    have count : xss.flatten.length = (items.map fun x => padded x.der).length := by
      have lengths := congrArg List.length same
      rwa [List.length_map] at lengths
    have once := List.forall_mem_map.1 <| forall_isTakenOnce_iff.2
      ⟨xss, Outcome.mapM_eq_ok_iff.2 contents, count⟩
    intro x m
    exact (each x m).2 ⟨once x m, (pointwise once).1 same x m⟩
  · intro through
    exact (pointwise fun x m => ((each x m).1 (through x m)).1).2
      fun x m => ((each x m).1 (through x m)).2

section
variable {image again : Image} {c e : Nat} {out : Bytes}

section
variable (laid : IsLaidOut image c e) (inside : e + 8 ≤ image.data.length) (apart : c + 4 ≤ e)
  (written : image.toBytes = .ok out) (data : again.data = out.take image.data.length)
include laid inside apart written data

/-- With its table behind it, an image that was written and loaded is what was written. -/
theorem unsealed_of_written (table : again.certificateTable = image.certificateTable) :
    again.unsealed e = out := by
  have shape := isWrittenAs laid.checksum laid.entry apart written
  obtain ⟨-, -, length, same⟩ := sealed_of_toBytes laid.checksum laid.entry written
  have size : again.data.length = image.data.length := by
    rw [data, List.length_take, shape.length]
    omega
  have inside' : e + 8 ≤ again.data.length := by
    rw [size]
    exact inside
  have place : again.tablePlace = image.tablePlace := by
    unfold tablePlace
    rw [size, table]
  have octets : (numberOctets image.tablePlace).length = 8 := by
    rw [length_numberOctets, length_tablePlace]
  have long : (again.unsealed e).length = out.length := by
    rw [length_unsealed inside', size, table, shape.length]
  refine ext_octetAt long fun n here => ?_
  by_cases before : n < e
  · rw [octetAt_unsealed inside' before, data, octetAt_take (by omega)]
  · -- behind the checksum both are the image with the same entry and the same table
    have behind (k : Nat) (far : e + 8 ≤ k) : again.data[k]? = image.data[k]? := by
      rw [data]
      exact shape.agreeOutside.octets k (.inr (by omega)) (.inr far)
    have patched : (patch again.data e (numberOctets image.tablePlace))[n]?
        = (patch image.data e (numberOctets image.tablePlace))[n]? :=
      getElem?_patch_congr size (fun early => (before early).elim) fun k far =>
        behind k (by omega)
    have long' : (patch again.data e (numberOctets image.tablePlace)).length
        = (patch image.data e (numberOctets image.tablePlace)).length := by
      rw [length_patch (by omega), length_patch (by omega), size]
    rw [octetAt, octetAt, same n (.inr (by omega)), unsealed, unsealed, place, table,
      List.getElem?_append, List.getElem?_append, long', patched]

/-- An image that was written and loaded is written as it was exactly if it has the same table. -/
theorem toBytes_eq_iff_table (aligned : 4 ∣ c) (accepted : ∃ h, Headers.read out = .ok h)
    (checksum : again.checksum = c) (entry : again.entry = e) :
    again.toBytes = .ok out ↔ again.certificateTable = image.certificateTable := by
  have shape := isWrittenAs laid.checksum laid.entry apart written
  have size : again.data.length = image.data.length := by
    rw [data, List.length_take, shape.length]
    omega
  constructor
  · intro written'
    rw [← (isWrittenAs checksum entry apart written').table, size, shape.table]
  · intro table
    have whole := unsealed_of_written laid inside apart written data table
    have summed : Checksum.checksum out = .ok (numberIn out c 4) := by
      rw [checksum_toBytes_iff laid inside apart written, Checksum.spilled_of_dvd aligned,
        Checksum.spilled_of_dvd aligned]
      exact ⟨accepted, rfl⟩
    obtain ⟨small, -, near, sum, -, -, there, near', shown⟩ :=
      (toBytes_eq_ok laid.checksum laid.entry).1 written
    have place : again.tablePlace = image.tablePlace := by
      unfold tablePlace
      rw [size, table]
    obtain ⟨-, shown', length, same⟩ := sealed_of_toBytes laid.checksum laid.entry written
    refine (toBytes_eq_ok checksum entry).2 ⟨place ▸ small, size ▸ inside, near, _,
      by rw [whole, summed], numberIn_lt out c 4, ?_, near', ?_⟩
    · rw [whole, length]
      exact there
    · rw [whole, patch_congr length (by simpa using same), ← shown']

end

/-- What is loaded from a file that a loaded image was written to: the image up to the table, with what
is stored of each padded signature. -/
theorem exists_stored_of_load_written {path path' : String} {w w₁ v v' : World}
    {regions : List (Nat × Nat)} {items : List StoredSignature}
    (found : load path w = (.ok image, w₁)) (valid : image.regions = .ok regions)
    (written : ({ image with signatures := ⟨items⟩ } : Image).toBytes = .ok out)
    (read : v.files.read path' = .ok out) (reloaded : load path' v = (.ok again, v')) :
    ∃ c e, IsLaidOut { image with signatures := ⟨items⟩ } c e ∧ c + 4 ≤ e ∧
      e + 8 ≤ image.data.length ∧ (∃ h, Headers.read out = .ok h) ∧
      ∃ xss, List.Forall₂ (fun x xs => storedOf (padded x.der) = .ok xs) items xss ∧
        again = ⟨path', out.take image.data.length, c, e, ⟨xss.flatten⟩⟩ := by
  obtain ⟨raw, -, found, -⟩ := exists_ofFile_of_load found
  obtain ⟨c, e, laid⟩ := isLaidOut_of_ofFile found
  obtain ⟨apart, inside⟩ := laid.le_of_fieldsInside (signableRegions_eq_ok.1 valid).1
  have laid' : IsLaidOut { image with signatures := ⟨items⟩ } c e :=
    ⟨laid.checksum, laid.entry, laid.fields, laid.aligned⟩
  have shape := isWrittenAs laid'.checksum laid'.entry apart written
  obtain ⟨accepted, xss, stored, shown⟩ :=
    (ofFile_written laid' inside shape).1 ((exists_load_iff read).1 ⟨v', reloaded⟩)
  rw [Outcome.mapM_eq_ok_iff, List.forall₂_map_left_iff] at stored
  exact ⟨c, e, laid', apart, inside, accepted, xss, stored, shown⟩

/-- **Writing again.** An image that was loaded and can be digested, whose checksum field is aligned,
is written with any further signatures. Whenever the written file is loaded, it is written as the same
octets again exactly if each entry that holds a signature holds one whose signer's subject can be shown,
and that fills the entry. It does fill the entry unless it stands in front of octets that were kept
undecoded behind a tag of several octets. -/
theorem rewriting {path path' : String} {w w₁ v v' : World} {regions : List (Nat × Nat)}
    {added : List StoredSignature} (found : load path w = (.ok image, w₁))
    (valid : image.regions = .ok regions) (aligned : 4 ∣ image.checksum)
    (appendable : ∀ x ∈ added, IsAppendable x)
    (written : ({ image with signatures := ⟨image.signatures.items ++ added⟩ } : Image).toBytes
      = .ok out)
    (read : v.files.read path' = .ok out) (reloaded : load path' v = (.ok again, v')) :
    (again.toBytes = .ok out ↔ ∀ x ∈ image.signatures.items ++ added, GoesThrough x) ∧
    ∀ x ∈ image.signatures.items ++ added, (∃ s, x = .decoded s) ∨ HasShortTag x.der →
      (GoesThrough x ↔ ∀ t, Signature.decode (padded x.der) = .ok t →
        ∃ u, t.signer.subject.show = .ok u) := by
  obtain ⟨c, e, laid, apart, inside, accepted, xss, stored, shown⟩ :=
    exists_stored_of_load_written found valid written read reloaded
  have multiple : 4 ∣ c := by
    have place : image.checksum = c := laid.checksum
    omega
  have appendable : ∀ x ∈ image.signatures.items ++ added, IsAppendable x := by
    obtain ⟨raw, -, found, -⟩ := exists_ofFile_of_load found
    intro x m
    rcases List.mem_append.1 m with m | m
    · obtain ⟨b, xs, stored, here, -⟩ := exists_storedOf_of_mem found m
      exact isAppendable_of_storedOf stored here
    · exact appendable x m
  have shape := isWrittenAs laid.checksum laid.entry apart written
  constructor
  · rw [toBytes_eq_iff_table laid inside apart written (by rw [shown]) multiple accepted
      (by rw [shown]) (by rw [shown]), certificateTable, certificateTable,
      write_eq_iff (length_certificateTable_lt shape), List.map_map, List.map_map, shown]
    exact map_padded_eq_iff appendable stored
  · intro x m sort
    constructor
    · intro through t decoded
      exact (through t decoded).1
    · intro readable t decoded
      exact ⟨readable t decoded, (appendable x m).padded_eq sort decoded⟩

end

/-- The short image, signed by the short key and written, is loaded with the signature. -/
theorem exists_reloaded_shortImage : ∃ image c s out again w' w₁ v',
    ofFile "i" shortImage = .ok image ∧ load "i" (surroundingsWith shortImage) = (.ok image, w₁) ∧
    (∃ regions, image.regions = .ok regions) ∧ image.signatures.items = [] ∧ c.IsRead ∧
    Signature.build (Signature.shortIdentity c) (.compute .sha256 []) Signature.noSurroundings
      = (.ok s, w') ∧
    (image.append (.decoded s)).toBytes = .ok out ∧
    load "i" (surroundingsWith out) = (.ok again, v') := by
  obtain ⟨image, c, s, w', regions, out, found, read, built, valid, written, headers, unsigned, -⟩ :=
    exists_of_stands stands_shortImage
  obtain ⟨w₁, ran⟩ := (exists_load_iff (read_surroundingsWith shortImage)).2 found
  obtain ⟨complete, alone⟩ := Signature.isComplete_of_build built
  have decoded := complete.decode_of_others_eq_nil read alone
  obtain ⟨u, shown⟩ := complete.subject
  have items : (image.append (.decoded s)).signatures.items = [.decoded s] := by
    rw [append, Store.append, unsigned]
    rfl
  have stored : storedOf (padded s.der) = .ok [.decoded s] := by
    rw [padded, storedOf, decoded]
    dsimp only
    rw [shown]
  obtain ⟨c', e, laid⟩ := isLaidOut_of_ofFile found
  obtain ⟨apart, inside⟩ := laid.le_of_fieldsInside (signableRegions_eq_ok.1 valid).1
  have laid' : IsLaidOut (image.append (.decoded s)) c' e :=
    ⟨laid.checksum, laid.entry, laid.fields, laid.aligned⟩
  have shape := isWrittenAs laid'.checksum laid'.entry apart written
  obtain ⟨again, loaded⟩ : ∃ again, ofFile "i" out = .ok again := by
    refine ⟨_, (ofFile_written laid' inside shape).2
      ⟨headers.sealed out written, [[.decoded s]], ?_, rfl⟩⟩
    rw [items, Outcome.mapM_eq_ok_iff]
    exact .cons stored .nil
  obtain ⟨v', ran'⟩ := (exists_load_iff (read_surroundingsWith out)).2 loaded
  exact ⟨image, c, s, out, again, w', w₁, v', found, ran, ⟨regions, valid⟩, unsigned, read, built,
    written, ran'⟩

/-- The short image, signed by the short key and written, is written again as it was. -/
theorem rewriting_shortImage : ∃ image s out again w₁ v',
    load "i" (surroundingsWith shortImage) = (.ok image, w₁) ∧
    (∃ c w', c.IsRead ∧ Signature.build (Signature.shortIdentity c) (.compute .sha256 [])
      Signature.noSurroundings = (.ok s, w')) ∧
    (image.append (.decoded s)).toBytes = .ok out ∧
    load "i" (surroundingsWith out) = (.ok again, v') ∧ again.toBytes = .ok out := by
  obtain ⟨image, c, s, out, again, w', w₁, v', found, ran, ⟨regions, valid⟩, unsigned, read, built,
    written, ran'⟩ := exists_reloaded_shortImage
  obtain ⟨complete, alone⟩ := Signature.isComplete_of_build built
  have decoded := complete.decode_of_others_eq_nil read alone
  obtain ⟨u, shown⟩ := complete.subject
  have multiple : (4 : Int) ∣ image.checksum := by
    have place := checksum_shortImage found
    omega
  obtain ⟨same, -⟩ := rewriting ran valid multiple
    (List.forall_mem_singleton.2 (.built built)) written (read_surroundingsWith out) ran'
  refine ⟨image, s, out, again, w₁, v', ran, ⟨c, w', read, built⟩, written, ran', same.2 ?_⟩
  rw [unsigned]
  refine List.forall_mem_singleton.2 fun t found' => ?_
  obtain rfl := Except.ok.inj ((decoded _).symm.trans found')
  exact ⟨⟨u, shown⟩, rfl⟩

end Image

end ImageSigning
