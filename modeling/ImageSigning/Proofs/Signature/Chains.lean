import ImageSigning.Proofs.Bundle.Composition
import ImageSigning.Proofs.FileSystem
import ImageSigning.Proofs.Signature.Augmentation

/-!
# Adding one chain after the other

What becomes of a signature when the certificates of a bundle are added depends on the certificates and
on nothing else in the surroundings. The octets are written anew from all parts each time, so two chains
can be added one after the other or as one, and since certificates are written as a set, in any order.

* **`augment_gives_withChain`** — adding a bundle is reading it and adding its certificates.
* **`withChain_withChain`** — two chains one after the other are one chain.
* **`der_withChain_of_perm`** — the octets do not tell in which order certificates were added.
* **`chains_compose`** — for bundles in files: what two of them hold, what they hold as one file, and what
  adding them gives.
-/

namespace ImageSigning

open ImageSigning.Bundle Der

namespace Signature

/-! ## Certificates that are added -/

/-- The signature with the octets of its parts, or what keeps them from being written. -/
def completed (s : Signature) : Except Fault Signature :=
  match s.signer.issuer.read with
  | .error p => .error (.defect (.name p))
  | .ok _ =>
    if elementLimit ≤ s.encode.length then .error (.defect .elementTooLong)
    else .ok { s with der := s.encode }

/-- The parts of the signature with certificates added after those that it has. -/
def added (s : Signature) (chain : List Certificate) : Signature :=
  { s with others := s.others ++ chain }

/-- The signature with certificates added. -/
def withChain (s : Signature) (chain : List Certificate) : Except Fault Signature :=
  (s.added chain).completed

section
variable {s : Signature} {files : FileSystem} {cs ds : List Certificate}

/-- Writing a signature's octets gives the signature with them. -/
theorem written_gives (s : Signature) : Run.Gives files s.written s.completed := by
  unfold written
  rcases read : s.signer.issuer.read with p | groups
  · have failed : s.encoded = .error p := by
      rw [encoded, read]
      rfl
    rw [failed, completed, read]
    exact (Run.gives_lift _ (.error p)).stop
  · have made : s.encoded = .ok { s with der := s.encode } := by
      rw [encoded, read]
      rfl
    rw [made, completed, read]
    refine (Run.gives_lift _ (.ok _)).seq ?_
    dsimp only
    by_cases long : elementLimit ≤ s.encode.length
    · rw [if_pos long, if_pos long]
      exact (Run.gives_throw _).stop
    · rw [if_neg long, if_neg long]
      exact Run.gives_pure _

/-- Adding the certificates of a bundle is reading it and adding them. -/
theorem augment_gives_withChain (s : Signature) (path : String) :
    Run.Gives files (s.augment path) (InputFile.bundle files path >>= s.withChain) := by
  unfold augment
  apply Run.gives_files
  intro w here
  rw [here]
  refine (Run.gives_lift_id _).bind ?_
  intro chain
  apply Run.gives_tellIf
  have last : s.withChain chain = s.withChain chain >>= Except.ok := (bind_pure _).symm
  rw [last]
  refine (written_gives _).bind ?_
  intro t
  exact (Run.gives_tell _).seq (Run.gives_pure t)

/-- A signature whose signer's issuer cannot be read takes no chain. -/
theorem withChain_of_error {p : NameProblem} (h : s.signer.issuer.read = .error p)
    (chain : List Certificate) : s.withChain chain = .error (.defect (.name p)) := by
  have issuer : (s.added chain).signer.issuer.read = .error p := h
  rw [withChain, completed, issuer]

/-- A signature whose signer's issuer can be read takes a chain unless its octets would be too many. -/
theorem withChain_of_ok {groups : List (List NameAttribute)} (h : s.signer.issuer.read = .ok groups)
    (chain : List Certificate) : s.withChain chain =
      if elementLimit ≤ (s.added chain).encode.length then .error (.defect .elementTooLong)
      else .ok { s.added chain with der := (s.added chain).encode } := by
  have issuer : (s.added chain).signer.issuer.read = .ok groups := h
  rw [withChain, completed, issuer]

/-- The octets that a signature keeps make no difference. -/
theorem completed_withDer (s : Signature) (b : Bytes) : completed { s with der := b } = completed s := by
  unfold completed
  rw [encode_withDer]

/-- Adding one chain and another is adding both. -/
theorem added_added (s : Signature) (cs ds : List Certificate) :
    (s.added cs).added ds = s.added (cs ++ ds) := by
  unfold added
  dsimp only
  rw [List.append_assoc]

/-- Two chains that are added one after the other are added as one. -/
theorem withChain_withChain (s : Signature) (cs ds : List Certificate) :
    (s.withChain cs >>= fun t => t.withChain ds) = s.withChain (cs ++ ds) := by
  rcases read : s.signer.issuer.read with p | groups
  · rw [withChain_of_error read cs, withChain_of_error read (cs ++ ds)]
    rfl
  · rw [withChain_of_ok read cs]
    by_cases long : elementLimit ≤ (s.added cs).encode.length
    · have longer : (s.added cs).encode.length ≤ (s.added (cs ++ ds)).encode.length := by
        rw [← added_added]
        exact length_encode_le (s.added cs) ds
      rw [if_pos long, withChain_of_ok read (cs ++ ds), if_pos (long.trans longer)]
      rfl
    · rw [if_neg long, Outcome.ok_bind, withChain, withChain, ← added_added]
      exact completed_withDer ((s.added cs).added ds) _

/-- The octets do not tell in which order certificates were added. -/
theorem der_withChain_of_perm (read : ∀ c ∈ s.certificates ++ cs, c.IsRead) (perm : cs.Perm ds) :
    (s.withChain cs).map (·.der) = (s.withChain ds).map (·.der) := by
  have same : (s.added cs).encode = (s.added ds).encode := by
    apply AreWrittenAlike.encode_eq
    exact {
      digest := rfl
      value := rfl
      algorithm := rfl
      content := rfl
      contentType := rfl
      serial := rfl
      issuer := rfl
      attributes := rfl
      certificates := ordered_der_eq_of_perm read (perm.append_left s.certificates) }
  rcases issuer : s.signer.issuer.read with p | groups
  · rw [withChain_of_error issuer cs, withChain_of_error issuer ds]
  · rw [withChain_of_ok issuer cs, withChain_of_ok issuer ds, same]
    by_cases long : elementLimit ≤ (s.added ds).encode.length
    · rw [if_pos long, if_pos long]
    · rw [if_neg long, if_neg long]
      rfl

end

end Signature

/-! ## Bundles in files -/

namespace InputFile

section
variable {fs : FileSystem} {pa pb pab : String} {a b : Bytes} {cs ds : List Certificate} {s : Signature}

/-- An accepted bundle is blocks of its certificates, in order, with anything else around them, and it has
one opening line for each. -/
theorem exists_holds_of_bundle (held : octets fs .chain pa = .ok a) (accepted : bundle fs pa = .ok cs) :
    (∃ front tail, a = front ++ tail ∧ Holds front cs ∧ Lacks openings tail) ∧
      markers a = cs.length := by
  obtain ⟨front, tail, rfl, holds, lacks, few⟩ := read_eq_ok_iff.1 ((bundle_eq_ok_iff held).1 accepted)
  exact ⟨⟨front, tail, rfl, holds, lacks⟩, holds.markers_eq_iff.2 few⟩

/-- Adding one bundle and then another is adding the certificates of both. -/
theorem augment_augment_gives (first : bundle fs pa = .ok cs) (second : bundle fs pb = .ok ds) :
    Run.Gives fs (s.augment pa >>= fun t => t.augment pb) (s.withChain (cs ++ ds)) := by
  have step (t : Signature) (path : String) :
      Run.Gives fs (t.augment path) (bundle fs path >>= t.withChain) := t.augment_gives_withChain path
  have both := (step s pa).bind fun t => step t pb
  rw [first, second] at both
  rw [← Signature.withChain_withChain]
  exact both

/-- Adding two bundles one after the other gives what adding both as one gives, and the same octets in
either order. -/
theorem augment_compose {w w' : World} (first : bundle fs pa = .ok cs) (second : bundle fs pb = .ok ds)
    (both : bundle fs pab = .ok (cs ++ ds)) (held : Signature.Held s) (here : w.files = fs)
    (here' : w'.files = fs) :
    ((s.augment pa >>= fun t => t.augment pb) w).1 = (s.augment pab w').1 ∧
    ((s.augment pb >>= fun t => t.augment pa) w).1.map (·.der)
      = (s.augment pab w').1.map (·.der) := by
  have one : Run.Gives fs (s.augment pab) (bundle fs pab >>= s.withChain) :=
    s.augment_gives_withChain pab
  rw [both] at one
  obtain ⟨v, ran, -⟩ := one w' here'
  obtain ⟨v₁, ran₁, -⟩ := augment_augment_gives first second (s := s) w here
  obtain ⟨v₂, ran₂, -⟩ := augment_augment_gives second first (s := s) w here
  rw [ran, ran₁, ran₂]
  refine ⟨rfl, ?_⟩
  refine Signature.der_withChain_of_perm ?_ List.perm_append_comm
  intro c m
  rcases List.mem_append.1 m with m | m
  · exact held.isSound.read c m
  · rcases List.mem_append.1 m with m | m
    · exact isRead_of_bundle second c m
    · exact isRead_of_bundle first c m

/-- **Bundles compose.** A bundle that is accepted is blocks of its certificates, in order, with anything
else around them, and it has one opening line for each. Put another bundle behind it, so that no opening
line stands across the seam, as when the first one ends with a line end. What is read is the certificates
of both, or the other bundle is refused and so are the two, with as many further blocks before the one at
fault. Adding first one bundle and then the other to a signature is adding the two as one, and gives the
same octets in either order. -/
theorem bundles_compose (held : octets fs .chain pa = .ok a) (accepted : bundle fs pa = .ok cs) :
    (∃ front tail, a = front ++ tail ∧ Holds front cs ∧ Lacks openings tail) ∧
    markers a = cs.length ∧ (∀ n, Opens n a ↔ n ≤ cs.length) ∧
    ∀ pb pab b, octets fs .chain pb = .ok b → octets fs .chain pab = .ok (a ++ b) →
      a.getLast? = some 10 ∨ AreParted openings a b →
      (∀ p, bundle fs pb = .error (.failure (.chain pb p)) →
        bundle fs pab = .error (.failure (.chain pab (p.behind cs.length))) ∧
        (p.behind cs.length).block? = p.block?.map (cs.length + ·)) ∧
      (∀ d, bundle fs pb = .error (.defect d) → bundle fs pab = .error (.defect d)) ∧
      ∀ ds, bundle fs pb = .ok ds → bundle fs pab = .ok (cs ++ ds) ∧
        ∀ s w w', Signature.Held s → w.files = fs → w'.files = fs →
          ((s.augment pa >>= fun t => t.augment pb) w).1 = (s.augment pab w').1 ∧
          ((s.augment pb >>= fun t => t.augment pa) w).1.map (·.der)
            = (s.augment pab w').1.map (·.der) := by
  have isRead := (bundle_eq_ok_iff held).1 accepted
  obtain ⟨layout, count⟩ := exists_holds_of_bundle held accepted
  refine ⟨layout, count, fun n => by rw [opens_iff, count], ?_⟩
  intro pb pab b heldB heldAB ends
  have seam : AreParted openings a b := by
    rcases ends with line | seam
    · exact areParted_of_getLast? line (by decide)
    · exact seam
  have both := read_append isRead seam
  refine ⟨?_, ?_, ?_⟩
  · intro p refused
    refine ⟨?_, p.block?_behind cs.length⟩
    rw [bundle_eq_failure_iff heldAB, both, (bundle_eq_failure_iff heldB).1 refused]
    rfl
  · intro d refused
    obtain ⟨newer, rfl⟩ := (bundle_eq_defect_iff heldB).1 refused
    rw [bundle_eq_defect_iff heldAB, both, newer]
    exact ⟨rfl, rfl⟩
  · intro ds accepted'
    have together : bundle fs pab = .ok (cs ++ ds) := by
      rw [bundle_eq_ok_iff heldAB, both, (bundle_eq_ok_iff heldB).1 accepted']
      rfl
    refine ⟨together, ?_⟩
    intro s w w' complete here here'
    exact augment_compose accepted accepted' together complete here here'

end

/-- Three files: one bundle, another, and the two one behind the other. -/
def bundleFiles (a b : Bytes) : FileSystem :=
  ⟨[(["a"], .file ⟨a, 0o644, none⟩), (["b"], .file ⟨b, 0o644, none⟩),
    (["c"], .file ⟨a ++ b, 0o644, none⟩)], []⟩

/-- The three files of the example hold the octets that they are made with. -/
theorem octets_bundleFiles (a b : Bytes) : octets (bundleFiles a b) .chain "a" = .ok a ∧
    octets (bundleFiles a b) .chain "b" = .ok b ∧
    octets (bundleFiles a b) .chain "c" = .ok (a ++ b) := by
  have plain : ∀ name ∈ ["a", "b", "c"], FileSystem.IsPlain name := by
    decide +kernel
  refine ⟨?_, ?_, ?_⟩
  · exact FileSystem.octets_of_isPlain (f := ⟨a, 0o644, none⟩) (plain "a" (by simp)) rfl rfl
  · exact FileSystem.octets_of_isPlain (f := ⟨b, 0o644, none⟩) (plain "b" (by simp)) rfl rfl
  · exact FileSystem.octets_of_isPlain (f := ⟨a ++ b, 0o644, none⟩) (plain "c" (by simp)) rfl rfl

/-- The short certificate with another serial number can be read. -/
theorem exists_isRead_shortCertificate : ∃ c : Certificate, c.IsRead ∧ c.serial = 8 := by
  have read : ((Certificate.ofDer (Signature.shortCertificate 8)).toOption.map (·.serial)) = some 8 := by
    decide +kernel
  rcases found : Certificate.ofDer (Signature.shortCertificate 8) with p | c
  · rw [found] at read
    cases read
  · rw [found] at read
    exact ⟨c, Certificate.isRead_of_ofDer found, Option.some.inj read⟩

/-- Two certificates are added to the signature of the short key one after the other and as one bundle. -/
theorem bundles_compose_bundleFiles : ∃ c d s w, Signature.Held s ∧ d.serial = 8 ∧
    bundle w.files "a" = .ok [c] ∧ bundle w.files "b" = .ok [d] ∧ bundle w.files "c" = .ok [c, d] ∧
    ((s.augment "a" >>= fun t => t.augment "b") w).1 = (s.augment "c" w).1 ∧
    ((s.augment "b" >>= fun t => t.augment "a") w).1.map (·.der)
      = (s.augment "c" w).1.map (·.der) := by
  obtain ⟨c, s, w', read, built, -⟩ := Signature.exists_build_shortIdentity
  obtain ⟨d, read', serial⟩ := exists_isRead_shortCertificate
  obtain ⟨heldA, heldB, heldAB⟩ := octets_bundleFiles (write [c]) (write [d])
  have accepted : bundle (bundleFiles (write [c]) (write [d])) "a" = .ok [c] := by
    rw [bundle_eq heldA, read_write (List.forall_mem_singleton.2 read)]
    rfl
  have accepted' : bundle (bundleFiles (write [c]) (write [d])) "b" = .ok [d] := by
    rw [bundle_eq heldB, read_write (List.forall_mem_singleton.2 read')]
    rfl
  have line : (write [c]).getLast? = some 10 := by
    rw [write, List.flatMap_singleton, Pem.write_eq, List.getLast?_concat]
  let w : World := { Signature.noSurroundings with files := bundleFiles (write [c]) (write [d]) }
  obtain ⟨-, -, -, compose⟩ := bundles_compose heldA accepted
  obtain ⟨-, -, both⟩ := compose "b" "c" (write [d]) heldB heldAB (.inl line)
  obtain ⟨together, same⟩ := both [d] accepted'
  obtain ⟨one, other⟩ := same s w w (.built read built) rfl rfl
  exact ⟨c, d, s, w, .built read built, serial, accepted, accepted', together, one, other⟩

end InputFile

end ImageSigning
