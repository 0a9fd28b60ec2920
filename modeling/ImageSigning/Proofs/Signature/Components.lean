import ImageSigning.Proofs.Signature.Document

/-!
# Signed data with every component

A signature keeps of signed data what it needs: the content, the certificates, and of the first signer
the name, the attributes and the value. `Components.read?` reads the same octets and keeps all the
rest too: versions, digest algorithms with their parameters, revocation lists, attributes that are not
authenticated, further signers. It accepts what the reader of signatures accepts and no more, so it
shows what that reader leaves out.

* **`SignedData.read?_eq`** — reading signed data is reading its components and leaving the rest out.
* **`writable_of_ofTlv?`**, **`writable_of_components`** — what was read can be written.
* **`components?_encode`** — the octets of a signature hold the components that it is written with.
-/

namespace ImageSigning.Signature

open Der Tlv

/-- A signer with every component. -/
structure SignerComponents where
  /-- Version of the structure. -/
  version : Int
  /-- The issuer name of the signer's certificate, as an element. -/
  issuer : Bytes
  /-- The serial number of the signer's certificate. -/
  serial : Int
  /-- The algorithm that the content is digested with. -/
  digestAlgorithm : AlgorithmField
  /-- The authenticated attributes, where there are any. -/
  attributes : Option (List Bytes)
  /-- The algorithm of the key. -/
  signatureAlgorithm : AlgorithmField
  /-- The signature value. -/
  value : Bytes
  /-- The attributes that are not authenticated, where there are any. -/
  unauthenticated : Option (List Bytes)
  deriving DecidableEq

/-- Signed data with every component. -/
structure Components where
  /-- Version of the structure. -/
  version : Int
  /-- The algorithms that contents are digested with. -/
  digestAlgorithms : List AlgorithmField
  /-- The content that is signed. -/
  contentInfo : ContentInfo
  /-- The certificates, where there are any. -/
  certificates : Option (List Bytes)
  /-- The revocation lists, where there are any. -/
  revocations : Option (List Bytes)
  /-- The signers. -/
  signers : List SignerComponents
  deriving DecidableEq

/-! ## Reading -/

/-- An algorithm with its parameters, which may be any element that can be kept. -/
def keepAlgorithm? (e : Tlv) : Option AlgorithmField := do
  match ← e.sequence? .basic with
  | [oid] => some ⟨← readOid? oid, none⟩
  | [oid, parameters] =>
    let parameters ← keep? parameters
    some ⟨← readOid? oid, some parameters⟩
  | _ => none

/-- Issuer and serial number of a certificate from their element. -/
def keepName? (e : Tlv) : Option (Bytes × Int) := do
  match ← e.sequence? .basic with
  | [issuer, serial] => (keep? issuer).bind fun i => (readInteger? serial).map fun s => (i, s)
  | _ => none

/-- A signer from its element. -/
def SignerComponents.ofTlv? (e : Tlv) : Option SignerComponents := do
  match ← e.sequence? .basic with
  | version :: certificate :: digestAlgorithm :: rest =>
    let version ← readInteger? version
    let (issuer, serial) ← keepName? certificate
    let digestAlgorithm ← keepAlgorithm? digestAlgorithm
    let (attributes, rest) ← optionalSet? 0 rest
    match rest with
    | algorithm :: value :: rest =>
      let algorithm ← keepAlgorithm? algorithm
      let value ← value.primitive? 4
      let (unauthenticated, rest) ← optionalSet? 1 rest
      if rest.isEmpty then
        some ⟨version, issuer, serial, digestAlgorithm, attributes, algorithm, value,
          unauthenticated⟩
      else none
    | _ => none
  | _ => none

/-- Signed data from the element that a content begins with; what follows is not looked at. -/
def Components.read? (b : Bytes) : Option Components := do
  let (e, _) ← Tlv.read? .basic b
  match ← e.sequence? .basic with
  | version :: algorithms :: contentInfo :: rest =>
    let version ← readInteger? version
    let algorithms ← (← algorithms.set? .basic).mapM keepAlgorithm?
    let contentInfo ← ContentInfo.ofTlv? contentInfo
    let (certificates, rest) ← optionalSet? 0 rest
    let (revocations, rest) ← optionalSet? 1 rest
    match rest with
    | [signers] =>
      let signers ← (← signers.set? .basic).mapM SignerComponents.ofTlv?
      some ⟨version, algorithms, contentInfo, certificates, revocations, signers⟩
    | _ => none
  | _ => none

/-- The components of the signed data in the typed content that octets begin with. -/
def components? (b : Bytes) : Option Components := do
  let (outer, _, _) ← ContentInfo.read? b
  if outer.contentType = signedDataOid then Components.read? (← outer.content) else none

/-! ## Leaving out -/

/-- What a signature needs of a signer. -/
def SignerComponents.essence (s : SignerComponents) : SignerInfo :=
  ⟨s.issuer, s.serial, s.attributes, s.signatureAlgorithm.oid, s.value⟩

/-- What a signature needs of signed data. -/
def Components.essence (k : Components) : SignedData :=
  ⟨k.contentInfo, k.certificates.getD [], k.signers.map SignerComponents.essence⟩

/-- Of an algorithm that is kept the identifier is read. -/
theorem readAlgorithm?_eq (e : Tlv) : readAlgorithm? e = (keepAlgorithm? e).map (·.oid) := by
  unfold readAlgorithm? keepAlgorithm?
  rcases e.sequence? .basic with _ | members
  · rfl
  rcases members with _ | ⟨oid, _ | ⟨parameters, _ | _⟩⟩
  · rfl
  · simp only [Option.bind_eq_bind, Option.bind_some]
    cases readOid? oid <;> rfl
  · simp only [Option.bind_eq_bind, Option.bind_some]
    cases keep? parameters <;> cases readOid? oid <;> rfl
  · rfl

/-- A signer is what matters of its components. -/
theorem SignerInfo.ofTlv?_eq (e : Tlv) :
    SignerInfo.ofTlv? e = (SignerComponents.ofTlv? e).map SignerComponents.essence := by
  unfold SignerInfo.ofTlv? SignerComponents.ofTlv?
  rcases e.sequence? .basic with _ | members
  · rfl
  rcases members with _ | ⟨version, _ | ⟨certificate, _ | ⟨digestAlgorithm, rest⟩⟩⟩
  · rfl
  · rfl
  · rfl
  simp only [Option.bind_eq_bind, Option.bind_some, readAlgorithm?_eq]
  rcases readInteger? version with _ | v
  · rfl
  simp only [Option.bind_some]
  unfold keepName?
  rcases certificate.sequence? .basic with _ | parts
  · rfl
  rcases parts with _ | ⟨issuer, _ | ⟨serial, _ | _⟩⟩
  · rfl
  · rfl
  · simp only [Option.bind_eq_bind, Option.bind_some]
    rcases keep? issuer with _ | i
    · rfl
    rcases readInteger? serial with _ | n
    · rfl
    rcases keepAlgorithm? digestAlgorithm with _ | a
    · rfl
    simp only [Option.bind_some, Option.map_some]
    rcases optionalSet? 0 rest with _ | ⟨attributes, rest⟩
    · rfl
    rcases rest with _ | ⟨algorithm, _ | ⟨value, rest⟩⟩
    · rfl
    · rfl
    simp only [Option.bind_some]
    rcases keepAlgorithm? algorithm with _ | b
    · rfl
    rcases value.primitive? 4 with _ | x
    · rfl
    simp only [Option.bind_some, Option.map_some]
    rcases optionalSet? 1 rest with _ | ⟨unauthenticated, rest⟩
    · rfl
    rcases rest with _ | _
    · rfl
    · rfl
  · rfl

/-- Leaving something out of every result of reading members. -/
theorem mapM_eq_map_mapM {α β γ : Type} {f : α → Option γ} {g : α → Option β} {h : β → γ}
    (eq : ∀ a, f a = (g a).map h) (l : List α) : l.mapM f = (l.mapM g).map (List.map h) := by
  induction l with
  | nil => rfl
  | cons a l ih =>
    rw [List.mapM_cons, List.mapM_cons, eq, ih]
    rcases g a with _ | b
    · rfl
    rcases l.mapM g with _ | bs
    · rfl
    · rfl

/-- Reading signed data is reading its components and leaving the rest out. -/
theorem SignedData.read?_eq (b : Bytes) :
    SignedData.read? b = (Components.read? b).map Components.essence := by
  unfold SignedData.read? Components.read?
  rcases Tlv.read? .basic b with _ | ⟨e, behind⟩
  · rfl
  simp only [Option.bind_eq_bind, Option.bind_some]
  rcases e.sequence? .basic with _ | members
  · rfl
  rcases members with _ | ⟨version, _ | ⟨algorithms, _ | ⟨contentInfo, rest⟩⟩⟩
  · rfl
  · rfl
  · rfl
  simp only [Option.bind_some, mapM_eq_map_mapM readAlgorithm?_eq,
    mapM_eq_map_mapM SignerInfo.ofTlv?_eq]
  rcases readInteger? version with _ | v
  · rfl
  simp only [Option.bind_some]
  rcases algorithms.set? .basic with _ | as
  · rfl
  simp only [Option.bind_some]
  rcases as.mapM keepAlgorithm? with _ | fields
  · rfl
  simp only [Option.bind_some, Option.map_some]
  rcases ContentInfo.ofTlv? contentInfo with _ | info
  · rfl
  simp only [Option.bind_some]
  rcases optionalSet? 0 rest with _ | ⟨certificates, rest⟩
  · rfl
  simp only [Option.bind_some]
  rcases optionalSet? 1 rest with _ | ⟨revocations, rest⟩
  · rfl
  rcases rest with _ | ⟨signers, _ | _⟩
  · rfl
  · simp only [Option.bind_some]
    rcases signers.set? .basic with _ | es
    · rfl
    simp only [Option.bind_some]
    rcases es.mapM SignerComponents.ofTlv? with _ | ss
    · rfl
    · rfl
  · rfl

/-! ## What was read can be written -/

/-- An identifier that was read can be written. -/
theorem isSome_encode?_of_readOid? {e : Tlv} {oid : Oid} (h : readOid? e = some oid) :
    oid.encode?.isSome := by
  obtain ⟨b, -, decoded⟩ := Option.bind_eq_some_iff.1 h
  exact Oid.isSome_encode?_of_decode? decoded

/-- The identifier of an algorithm that was read can be written. -/
theorem isSome_encode?_of_readAlgorithm? {e : Tlv} {oid : Oid} (h : readAlgorithm? e = some oid) :
    oid.encode?.isSome := by
  unfold readAlgorithm? at h
  obtain ⟨members, -, h⟩ := Option.bind_eq_some_iff.1 h
  split at h
  · exact isSome_encode?_of_readOid? h
  · obtain ⟨_, -, h⟩ := Option.bind_eq_some_iff.1 h
    exact isSome_encode?_of_readOid? h
  · cases h

/-- The type of a content that was read can be written. -/
theorem isSome_encode?_of_contentInfo {e : Tlv} {info : ContentInfo}
    (h : ContentInfo.ofTlv? e = some info) : info.contentType.encode?.isSome := by
  unfold ContentInfo.ofTlv? at h
  obtain ⟨members, -, h⟩ := Option.bind_eq_some_iff.1 h
  split at h
  · obtain ⟨type, read, h⟩ := Option.bind_eq_some_iff.1 h
    obtain rfl := Option.some.inj h
    exact isSome_encode?_of_readOid? read
  · obtain ⟨type, read, h⟩ := Option.bind_eq_some_iff.1 h
    obtain ⟨_, -, h⟩ := Option.bind_eq_some_iff.1 h
    obtain rfl := Option.some.inj h
    exact isSome_encode?_of_readOid? read
  · cases h

/-- What reading all members gives was read from one of them each. -/
theorem exists_of_mapM_eq_some {α β : Type} {f : α → Option β} {l : List α} {bs : List β}
    (h : l.mapM f = some bs) : ∀ b ∈ bs, ∃ a ∈ l, f a = some b := by
  induction l generalizing bs with
  | nil =>
    obtain rfl := Option.some.inj h
    simp
  | cons a l ih =>
    rw [List.mapM_cons] at h
    obtain ⟨b, here, h⟩ := Option.bind_eq_some_iff.1 h
    obtain ⟨others, rest, h⟩ := Option.bind_eq_some_iff.1 h
    obtain rfl := Option.some.inj h
    intro c m
    rcases List.mem_cons.1 m with rfl | m
    · exact ⟨a, by simp, here⟩
    · obtain ⟨x, there, found⟩ := ih rest c m
      exact ⟨x, by simp [there], found⟩

/-- What is kept of members that denote themselves are elements that may be kept. -/
theorem isKept_of_mapM_keep? {es : List Tlv} {bs : List Bytes}
    (denotes : ∀ e ∈ es, Denotes .basic e.whole e) (h : es.mapM keep? = some bs) :
    ∀ b ∈ bs, IsKept .basic b := by
  intro b m
  obtain ⟨e, member, kept⟩ := exists_of_mapM_eq_some h b m
  unfold keep? at kept
  split at kept
  · cases kept
  · rename_i other
    obtain rfl := Option.some.inj kept
    exact ⟨e, denotes e member, by simpa using other⟩

/-- The members of a set that was read are elements that are kept. -/
theorem isKept_of_optionalSet? {n : Nat} {es rest : List Tlv} {members : Option (List Bytes)}
    (h : optionalSet? n es = some (members, rest)) : ∀ b ∈ members.getD [], IsKept .basic b := by
  unfold optionalSet? at h
  split at h
  · split at h
    · obtain ⟨bs, kept, h⟩ := Option.bind_eq_some_iff.1 h
      obtain ⟨rfl, rfl⟩ := Prod.mk.inj (Option.some.inj h)
      obtain ⟨inside, context, kept⟩ := Option.bind_eq_some_iff.1 kept
      rw [context?, Option.ite_none_right_eq_some] at context
      exact isKept_of_mapM_keep? (denotes_of_members? context.2) kept
    · obtain ⟨rfl, rfl⟩ := Prod.mk.inj (Option.some.inj h)
      simp
  · obtain ⟨rfl, rfl⟩ := Prod.mk.inj (Option.some.inj h)
    simp

/-- A signer that was read has an algorithm that can be written, and attributes that are elements. -/
theorem writable_of_ofTlv? {e : Tlv} {k : SignerComponents} (h : SignerComponents.ofTlv? e = some k) :
    k.signatureAlgorithm.oid.encode?.isSome ∧ ∀ a ∈ k.attributes.getD [], IsKept .basic a := by
  unfold SignerComponents.ofTlv? at h
  obtain ⟨members, -, h⟩ := Option.bind_eq_some_iff.1 h
  split at h
  · obtain ⟨version, -, h⟩ := Option.bind_eq_some_iff.1 h
    obtain ⟨⟨issuer, serial⟩, -, h⟩ := Option.bind_eq_some_iff.1 h
    obtain ⟨digest, -, h⟩ := Option.bind_eq_some_iff.1 h
    obtain ⟨⟨attributes, rest⟩, isOptional, h⟩ := Option.bind_eq_some_iff.1 h
    dsimp only at h
    split at h
    · obtain ⟨algorithm, kept, h⟩ := Option.bind_eq_some_iff.1 h
      obtain ⟨value, -, h⟩ := Option.bind_eq_some_iff.1 h
      obtain ⟨⟨unauthenticated, rest⟩, -, h⟩ := Option.bind_eq_some_iff.1 h
      obtain ⟨-, h⟩ := Option.ite_none_right_eq_some.1 h
      obtain rfl := Option.some.inj h
      refine ⟨?_, isKept_of_optionalSet? isOptional⟩
      apply isSome_encode?_of_readAlgorithm?
      rw [readAlgorithm?_eq, kept]
      rfl
    · cases h
  · cases h

/-- Components that were read have a type that can be written, and signers that were read. -/
theorem writable_of_read? {b : Bytes} {k : Components} (h : Components.read? b = some k) :
    k.contentInfo.contentType.encode?.isSome ∧
      ∀ s ∈ k.signers, ∃ e, SignerComponents.ofTlv? e = some s := by
  unfold Components.read? at h
  obtain ⟨⟨e, behind⟩, -, h⟩ := Option.bind_eq_some_iff.1 h
  obtain ⟨members, -, h⟩ := Option.bind_eq_some_iff.1 h
  split at h
  · obtain ⟨version, -, h⟩ := Option.bind_eq_some_iff.1 h
    obtain ⟨as, -, h⟩ := Option.bind_eq_some_iff.1 h
    obtain ⟨fields, -, h⟩ := Option.bind_eq_some_iff.1 h
    obtain ⟨info, type, h⟩ := Option.bind_eq_some_iff.1 h
    obtain ⟨⟨certificates, rest⟩, -, h⟩ := Option.bind_eq_some_iff.1 h
    obtain ⟨⟨revocations, rest⟩, -, h⟩ := Option.bind_eq_some_iff.1 h
    dsimp only at h
    split at h
    · obtain ⟨es, -, h⟩ := Option.bind_eq_some_iff.1 h
      obtain ⟨signers, read, h⟩ := Option.bind_eq_some_iff.1 h
      obtain rfl := Option.some.inj h
      refine ⟨isSome_encode?_of_contentInfo type, ?_⟩
      intro s m
      obtain ⟨f, -, found⟩ := exists_of_mapM_eq_some read s m
      exact ⟨f, found⟩
    · cases h
  · cases h

/-- The content's type can be written, and each signer was read from an element. -/
theorem writable_of_components {b : Bytes} {k : Components} (h : components? b = some k) :
    k.contentInfo.contentType.encode?.isSome ∧
      ∀ s ∈ k.signers, ∃ e, SignerComponents.ofTlv? e = some s := by
  unfold components? at h
  obtain ⟨⟨outer, der, rest⟩, -, h⟩ := Option.bind_eq_some_iff.1 h
  obtain ⟨-, h⟩ := Option.ite_none_right_eq_some.1 h
  obtain ⟨octets, -, h⟩ := Option.bind_eq_some_iff.1 h
  exact writable_of_read? h

/-! ## What a signature is written as -/

/-- The signer that a signature is written with. -/
def signerComponents (s : Signature) : SignerComponents where
  version := 1
  issuer := s.signer.issuer.whole
  serial := s.signer.serial
  digestAlgorithm := ⟨s.digest.algorithm.oid, some null⟩
  attributes := if s.attributes.isEmpty then none else some (ordered s.attributes)
  signatureAlgorithm := keyAlgorithmField s.algorithm
  value := s.value
  unauthenticated := none

/-- The components that a signature is written with. -/
def components (s : Signature) : Components where
  version := 1
  digestAlgorithms := [⟨s.digest.algorithm.oid, some null⟩]
  contentInfo := ⟨s.contentType, some s.content⟩
  certificates := some (ordered (s.certificates.map (·.der)))
  revocations := none
  signers := [signerComponents s]

/-- An algorithm with NULL for parameters is kept with it. -/
theorem keepAlgorithm?_of_null {e o : Tlv} {oid : Oid}
    (members : e.sequence? .basic = some [o, made 0x05 []]) (read : readOid? o = some oid) :
    keepAlgorithm? e = some ⟨oid, some null⟩ := by
  have kept : keep? (made 0x05 []) = some null := by decide
  simp [keepAlgorithm?, members, read, kept]

/-- An algorithm without parameters is kept without. -/
theorem keepAlgorithm?_of_bare {e o : Tlv} {oid : Oid} (members : e.sequence? .basic = some [o])
    (read : readOid? o = some oid) : keepAlgorithm? e = some ⟨oid, none⟩ := by
  simp [keepAlgorithm?, members, read]

/-- The algorithm that is written for a signer is kept as the field of its key. -/
theorem keepAlgorithm?_signerAlgorithm {s : Signature} (writable : s.algorithm.encode?.isSome)
    (short : (signerAlgorithm s).length < Rules.basic.lengthLimit) :
    ∃ e, Denotes .basic (signerAlgorithm s) e ∧
      keepAlgorithm? e = some (keyAlgorithmField s.algorithm) ∧ e.isContext 0 = false := by
  unfold signerAlgorithm at short ⊢
  unfold keyAlgorithmField
  split at short
  · rename_i rsa
    obtain ⟨e, o, here, members, read⟩ := denotes_algorithmWithNull writable short
    rw [if_pos rsa, if_pos rsa]
    exact ⟨e, here, keepAlgorithm?_of_null members read, isContext_of_sequence? members⟩
  · rename_i other
    obtain ⟨e, o, here, members, read⟩ := denotes_bareAlgorithm writable short
    rw [if_neg other, if_neg other]
    exact ⟨e, here, keepAlgorithm?_of_bare members read, isContext_of_sequence? members⟩

/-- A signer is read back with every component. -/
theorem ofTlv?_signerInfo {s : Signature} (h : IsWritable .basic s)
    (short : (signerInfo s).length < Rules.basic.lengthLimit) :
    ∃ e, Denotes .basic (signerInfo s) e ∧
      SignerComponents.ofTlv? e = some (signerComponents s) := by
  have part : ∀ b ∈ signerParts s, b.length < Rules.basic.lengthLimit :=
    fun b m => lt_trans (length_lt_sequence m) short
  obtain ⟨e, name, digest, algorithm, here, members, nameHere, digestHere, algorithmHere⟩ :=
    denotes_signerInfo h.issuer h.algorithm short
  obtain ⟨_, i, nameHere', nameMembers, issuer⟩ :=
    denotes_signerName h.issuer (part _ (by simp [signerParts]))
  obtain ⟨_, o, digestHere', digestMembers, digestOid⟩ :=
    denotes_algorithmWithNull (writable_oid s.digest.algorithm) (part _ (by simp [signerParts]))
  obtain ⟨_, algorithmHere', algorithmRead, notContext⟩ :=
    keepAlgorithm?_signerAlgorithm h.algorithm (part _ (by simp [signerParts]))
  obtain rfl := nameHere.unique nameHere'
  obtain rfl := digestHere.unique digestHere'
  obtain rfl := algorithmHere.unique algorithmHere'
  refine ⟨e, here, ?_⟩
  have nameRead : keepName? name = some (s.signer.issuer.whole, s.signer.serial) := by
    simp [keepName?, nameMembers, issuer, readInteger?_made]
  have digestRead := keepAlgorithm?_of_null digestMembers digestOid
  have attributes : optionalSet? 0 (attributeElements s ++ [algorithm, made 0x04 s.value])
      = some (if s.attributes.isEmpty then none else some (ordered s.attributes),
        [algorithm, made 0x04 s.value]) := by
    unfold attributeElements
    split
    · exact optionalSet?_eq_none _ notContext
    · rename_i filled
      have attributesShort : (Der.setOf 0xa0 s.attributes).length < Rules.basic.lengthLimit :=
        part _ (by simp [signerParts, signerAttributes, filled, embeddedForm])
      exact optionalSet?_made _ attributesShort h.attributes
  have last : optionalSet? 1 [] = some (none, []) := rfl
  simp [SignerComponents.ofTlv?, members, readInteger?_made, nameRead, digestRead, attributes,
    algorithmRead, primitive?_octetString, last, signerComponents]

/-- The signed data that a signature is written as is read back with every component. -/
theorem read?_components {s : Signature} (h : IsWritable .basic s)
    (short : (signedData s).length < Rules.basic.lengthLimit) :
    Components.read? (signedData s) = some (components s) := by
  obtain ⟨e, digest, info, here, members, algorithmsMembers, digestHere, infoHere⟩ :=
    denotes_signedData h.contentType short
  have part : ∀ b ∈ signedParts s, b.length < Rules.basic.lengthLimit :=
    fun b m => lt_trans (length_lt_sequence m) short
  have signersShort := part (Der.setOf 0x31 [signerInfo s]) (by simp [signedParts])
  have algorithmsShort := part (Der.setOf 0x31 [algorithmWithNull s.digest.algorithm.oid])
    (by simp [signedParts])
  have certificatesShort := part (Der.setOf 0xa0 (s.certificates.map (·.der)))
    (by simp [signedParts])
  obtain ⟨signer, signerHere, signerRead⟩ :=
    ofTlv?_signerInfo h (lt_trans (length_lt_setOf (by simp)) signersShort)
  obtain ⟨_, q, digestHere', digestMembers, digestOid⟩ :=
    denotes_algorithmWithNull (writable_oid s.digest.algorithm)
      (lt_trans (length_lt_setOf (by simp)) algorithmsShort)
  have infoShort := part (contentInfo s.contentType s.content) (by simp [signedParts])
  obtain ⟨_, o, infoHere', infoMembers, type⟩ :=
    denotes_contentInfo h.contentType (length_content_lt infoShort)
  obtain rfl := digestHere.unique digestHere'
  obtain rfl := infoHere.unique infoHere'
  have digestRead := keepAlgorithm?_of_null digestMembers digestOid
  have infoRead := ofTlv?_of_members infoMembers type
  have signersMembers : (made 0x31 (signerInfo s)).set? .basic = some [signer] := by
    rw [set?_made, readMany?_of_denotes signerHere]
  have certificates := optionalSet?_made [made 0x31 (signerInfo s)] certificatesShort (by
    intro b m
    obtain ⟨c, member, rfl⟩ := List.mem_map.1 m
    exact h.certificates c member)
  have more : optionalSet? 1 [made 0x31 (signerInfo s)] = some (none, [made 0x31 (signerInfo s)]) :=
    optionalSet?_eq_none _ (isContext_made_universal _ 1 (by decide))
  have alone := here []
  rw [List.append_nil] at alone
  simp [Components.read?, alone, members, readInteger?_made, algorithmsMembers, digestRead,
    infoRead, certificates, more, signersMembers, signerRead, components]

/-- That field has the algorithm's identifier. -/
theorem oid_keyAlgorithmField (oid : Oid) : (keyAlgorithmField oid).oid = oid := by
  unfold keyAlgorithmField
  split
  · rfl
  · rfl

/-- The signed data is read back, with the members of each set in the order of the set. -/
theorem read?_signedData {s : Signature} (h : IsWritable .basic s)
    (short : (signedData s).length < Rules.basic.lengthLimit) :
    SignedData.read? (signedData s) = some
      { contentInfo := ⟨s.contentType, some s.content⟩
        certificates := ordered (s.certificates.map (·.der))
        signers := [⟨s.signer.issuer.whole, s.signer.serial,
          if s.attributes.isEmpty then none else some (ordered s.attributes), s.algorithm,
          s.value⟩] } := by
  rw [SignedData.read?_eq, read?_components h short]
  simp [components, Components.essence, SignerComponents.essence, signerComponents,
    oid_keyAlgorithmField]

/-- The octets of a signature hold its components, whatever follows them. -/
theorem components?_encode {s : Signature} (h : IsWritable .basic s)
    (short : s.encode.length < elementLimit) (padding : Bytes) :
    components? (s.encode ++ padding) = some (components s) := by
  have read := read?_components h (length_signedData_lt short)
  simp [components?, read?_encode short padding, read]

end ImageSigning.Signature
