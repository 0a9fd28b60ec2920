import ImageSigning.KeyReference
import ImageSigning.Proofs.Outcome
import ImageSigning.Proofs.Text.Percent
import Mathlib.Data.List.Forall2
import Mathlib.Data.List.TakeWhile

/-!
# References that are written

A URI of a token key is its scheme, segments with semicolons between them and, behind a question mark, a
query. Each segment that is not empty writes an attribute: its name, an equals sign and its value with
percent escapes. The escapes hold none of the characters at which a URI is parted, so a URI is parted
where it was joined, whatever the values are, and the attributes that are read are those that were
written.

* **`Attribute`** — an attribute with a name that a segment can hold, and how a segment writes it.
* **`uri`** — a URI from its segments and its query; **`exists_uri`** — there are no others.
* **`names_ofPath`** — the names that a path gives are those of its segments.
* **`ofPath_of_written`** — a path reads as the attributes that its segments write, in their order.
* **`attributes_uri`** — a URI is read back or refused, and a bare label is read whole.
-/

namespace ImageSigning.KeyReference

/-! ## Attributes and what writes them -/

/-- A name for an attribute whose value is a text. -/
structure IsTextName (name : String) : Prop where
  /-- It is not empty. -/
  nonempty : name ≠ ""
  /-- It is not the name of an identifier. -/
  other : name ≠ idName
  /-- It holds no character at which a URI is parted. -/
  unparted : ∀ c ∈ name.toList, c ≠ '=' ∧ c ≠ ';' ∧ c ≠ '?'

/-- An attribute of a token key: an identifier, which is any octets, or a text under a name. -/
inductive Attribute
  | identifier (octets : Bytes)
  | named (name value : String) (isName : IsTextName name)

namespace Attribute

/-- The name of an attribute. -/
def name : Attribute → String
  | identifier _ => idName
  | named name _ _ => name

/-- The octets of its value. -/
def octets : Attribute → Bytes
  | identifier octets => octets
  | named _ value _ => Utf8.encode value

/-- Its name with its value as it is kept: octets in hexadecimal, text as it is. -/
def entry : Attribute → String × String
  | identifier octets => (idName, Hex.encode octets)
  | named name value _ => (name, value)

/-- Whether a segment writes an attribute. -/
def IsWrittenAs (a : Attribute) (segment : List Char) : Prop :=
  ∃ escapes, Percent.Writes a.octets escapes ∧ segment = a.name.toList ++ '=' :: escapes

/-- An attribute's entry has its name. -/
@[simp] theorem entry_fst (a : Attribute) : a.entry.1 = a.name := by
  cases a <;> rfl

/-- An attribute's name holds none of the characters that part a reference. -/
theorem unparted (a : Attribute) : ∀ c ∈ a.name.toList, c ≠ '=' ∧ c ≠ ';' ∧ c ≠ '?' := by
  cases a with
  | identifier =>
    change ∀ c ∈ idName.toList, _
    simp [idName]
  | named _ _ isName => exact isName.unparted

end Attribute

/-- Whether a segment gives an attribute of a name: it is the name, with or without a value. -/
def Gives (name : String) (segment : List Char) : Prop :=
  segment = name.toList ∨ ∃ value, segment = name.toList ++ '=' :: value

/-- Whether characters can be a segment of a URI: they hold neither a semicolon nor a question mark. -/
def IsSegment (segment : List Char) : Prop := ∀ c ∈ segment, c ≠ ';' ∧ c ≠ '?'

/-- The URI of segments and of a query, if there is one. -/
def uri (segments : List (List Char)) (query : Option (List Char)) : String :=
  scheme ++ String.ofList ([';'].intercalate segments ++ query.elim [] ('?' :: ·))

/-! ## Parting -/

section
variable {c : Char} {s : List Char}

/-- No character of a text is one that the text does not hold. -/
theorem decide_ne_of_not_mem (h : c ∉ s) : ∀ a ∈ s, decide (a ≠ c) = true := by
  intro a m
  exact decide_eq_true fun same => h (same ▸ m)

/-- A text is cut at the first place where the character stands. -/
theorem cut_append (h : c ∉ s) (r : List Char) : cut c (s ++ c :: r) = (s, r) := by
  have other := decide_ne_of_not_mem h
  rw [cut, List.takeWhile_append_of_pos other, List.dropWhile_append_of_pos other]
  simp

/-- Without the character a text is not cut. -/
theorem cut_of_not_mem (h : c ∉ s) : cut c s = (s, []) := by
  have other := decide_ne_of_not_mem h
  rw [cut, List.takeWhile_eq_self_iff.2 other, List.dropWhile_eq_nil_iff.2 other]
  rfl

/-- What is cut is put together again around the character, if it is there. -/
theorem cut_spec (c : Char) (s : List Char) :
    c ∉ (cut c s).1 ∧ (s = (cut c s).1 ∨ s = (cut c s).1 ++ c :: (cut c s).2) := by
  by_cases m : c ∈ s
  · obtain ⟨first, second, rfl, fresh⟩ := List.eq_append_cons_of_mem m
    rw [cut_append fresh]
    exact ⟨fresh, .inr rfl⟩
  · rw [cut_of_not_mem m]
    exact ⟨m, .inl rfl⟩

end

/-- A character of joined segments that does not join them is in one of them. -/
theorem mem_intercalate {c separator : Char} (other : c ≠ separator) {segments : List (List Char)} :
    c ∈ [separator].intercalate segments ↔ ∃ s ∈ segments, c ∈ s := by
  induction segments with
  | nil => simp [List.intercalate]
  | cons s rest ih =>
    cases rest with
    | nil => simp [List.intercalate]
    | cons t rest =>
      rw [List.intercalate_cons_cons, List.append_assoc, List.mem_append, List.singleton_append,
        List.mem_cons, ih, List.exists_mem_cons_iff (c ∈ ·) s]
      simp only [other, false_or]

/-- A path of segments does not hold the mark that begins a query. -/
theorem not_mem_path {segments : List (List Char)} (h : ∀ s ∈ segments, IsSegment s) :
    '?' ∉ [';'].intercalate segments := by
  rw [mem_intercalate (by decide)]
  rintro ⟨s, m, inside⟩
  exact (h s m _ inside).2 rfl

/-- The path of a URI is what its segments were joined to, whatever its query is. -/
theorem path_uri {segments : List (List Char)} (h : ∀ s ∈ segments, IsSegment s)
    (query : Option (List Char)) :
    (cut '?' ((uri segments query).toList.drop scheme.length)).1 = [';'].intercalate segments := by
  have rest : (uri segments query).toList.drop scheme.length =
      [';'].intercalate segments ++ query.elim [] ('?' :: ·) := by
    rw [uri, String.toList_append, String.toList_ofList]
    exact List.drop_left
  rw [rest]
  cases query with
  | none => rw [Option.elim_none, List.append_nil, cut_of_not_mem (not_mem_path h)]
  | some q => rw [Option.elim_some, cut_append (not_mem_path h)]

/-- The parts of a path are its segments that are not empty. -/
theorem parts_path {segments : List (List Char)} (h : ∀ s ∈ segments, IsSegment s) :
    parts ([';'].intercalate segments) = segments.filter (· ≠ []) := by
  cases segments with
  | nil => rfl
  | cons s rest =>
    rw [parts, Text.partsOf_intercalate fun t m inside => (h t m _ inside).1 rfl]

/-! ## Attributes set one after another -/

/-- A name that is not there yet is set at the end. -/
theorem set_of_not_mem {name value : String} {all : Attributes} (h : name ∉ all.map Prod.fst) :
    set name value all = all ++ [(name, value)] := by
  induction all with
  | nil => rfl
  | cons first rest ih =>
    obtain ⟨here, there⟩ := not_or.1 (mt List.mem_cons.2 h)
    rw [set, if_neg (Ne.symm here), ih there, List.cons_append]

/-- Setting an attribute adds its name to those that there are. -/
theorem mem_names_set {name value m : String} {all : Attributes} :
    m ∈ (set name value all).map Prod.fst ↔ m ∈ all.map Prod.fst ∨ m = name := by
  induction all with
  | nil => simp [set]
  | cons first rest ih =>
    obtain ⟨n, v⟩ := first
    by_cases same : n = name
    · subst same
      simp only [set, if_true, List.map_cons, List.mem_cons]
      tauto
    · simp only [set, if_neg same, List.map_cons, List.mem_cons, ih]
      tauto

/-- Attributes with names of their own are kept one behind the other. -/
theorem foldl_set_of_nodup {entries all : Attributes}
    (distinct : ((all ++ entries).map Prod.fst).Nodup) :
    entries.foldl (fun all entry => set entry.1 entry.2 all) all = all ++ entries := by
  induction entries generalizing all with
  | nil => simp
  | cons entry entries ih =>
    have fresh : entry.1 ∉ all.map Prod.fst := fun m => by
      rw [List.map_append, List.nodup_append] at distinct
      exact distinct.2.2 _ m _ (by simp) rfl
    rw [List.foldl_cons, set_of_not_mem fresh, ih (by simpa using distinct), List.append_assoc]
    rfl

/-- Setting several adds the names of all. -/
theorem mem_names_foldl_set {entries all : Attributes} {m : String} :
    m ∈ (entries.foldl (fun all entry => set entry.1 entry.2 all) all).map Prod.fst ↔
      m ∈ all.map Prod.fst ∨ m ∈ entries.map Prod.fst := by
  induction entries generalizing all with
  | nil => simp
  | cons entry entries ih =>
    rw [List.foldl_cons, ih, mem_names_set, List.map_cons, List.mem_cons]
    tauto

/-- The attributes of a path are set part by part. -/
theorem ofPath_eq (path : List Char) :
    ofPath path = ((parts path).map ofPart).foldl (fun all entry => set entry.1 entry.2 all) [] := by
  rw [ofPath, List.foldl_map]

/-! ## Paths -/

/-- What an attribute is written as is a segment. -/
theorem Attribute.IsWrittenAs.isSegment {a : Attribute} {segment : List Char}
    (h : a.IsWrittenAs segment) : IsSegment segment := by
  obtain ⟨escapes, writes, rfl⟩ := h
  intro c m
  rcases List.mem_append.1 m with named | m
  · exact (a.unparted c named).2
  · rcases List.mem_cons.1 m with rfl | m
    · decide
    · exact (writes.isEscape c m).2

/-- What an attribute is written as is read as the attribute. -/
theorem Attribute.IsWrittenAs.ofPart_eq {a : Attribute} {segment : List Char}
    (h : a.IsWrittenAs segment) : ofPart segment = a.entry := by
  obtain ⟨escapes, writes, rfl⟩ := h
  have apart : '=' ∉ a.name.toList := fun m => (a.unparted _ m).1 rfl
  rw [ofPart, cut_append apart]
  cases a with
  | identifier octets =>
    have decoded : Percent.decodeOctets (String.ofList escapes) = octets :=
      Percent.decodeOctets_of_writes writes
    simp [Attribute.name, Attribute.entry, decoded]
  | named name value isName =>
    have decoded : Percent.decodeText (String.ofList escapes) = value :=
      Percent.decodeText_of_writes writes
    simp [Attribute.name, Attribute.entry, isName.other, decoded]

/-- Segments that were written for attributes are read as these. -/
theorem map_ofPart_of_written {all : List Attribute} {segments : List (List Char)}
    (written : List.Forall₂ Attribute.IsWrittenAs all segments) :
    segments.map ofPart = all.map Attribute.entry := by
  induction written with
  | nil => rfl
  | cons here _ ih => rw [List.map_cons, List.map_cons, here.ofPart_eq, ih]

/-- All parts of such a path are segments, those that are empty included. -/
theorem isSegment_of_written {all : List Attribute} {segments : List (List Char)}
    (written : List.Forall₂ Attribute.IsWrittenAs all (segments.filter (· ≠ []))) :
    ∀ s ∈ segments, IsSegment s := by
  intro s m
  by_cases empty : s = []
  · subst empty
    simp [IsSegment]
  · obtain ⟨a, -, here⟩ := Outcome.exists_of_forall₂_right written
      (List.mem_filter.2 ⟨m, decide_eq_true empty⟩)
    exact here.isSegment

/-- The name that is read from a segment is the one that it gives. -/
theorem ofPart_fst_iff {name : String} (unparted : '=' ∉ name.toList) {segment : List Char} :
    (ofPart segment).1 = name ↔ Gives name segment := by
  have read : (ofPart segment).1 = String.ofList (cut '=' segment).1 := by
    dsimp only [ofPart]
    split_ifs <;> rfl
  rw [read]
  constructor
  · rintro rfl
    simpa [Gives, String.toList_ofList] using (cut_spec '=' segment).2.imp id fun h => ⟨_, h⟩
  · rintro (rfl | ⟨value, rfl⟩)
    · rw [cut_of_not_mem unparted, String.ofList_toList]
    · rw [cut_append unparted, String.ofList_toList]

/-- The names that a path gives are those of its segments. -/
theorem names_ofPath {segments : List (List Char)} (h : ∀ s ∈ segments, IsSegment s) {name : String}
    (nameGiven : name ≠ "") (unparted : '=' ∉ name.toList) :
    name ∈ (ofPath ([';'].intercalate segments)).map Prod.fst ↔ ∃ s ∈ segments, Gives name s := by
  have nonempty : ∀ s, Gives name s → s ≠ [] := by
    rintro s (rfl | ⟨value, rfl⟩)
    · simpa using nameGiven
    · simp
  rw [ofPath_eq, parts_path h, mem_names_foldl_set]
  simp only [List.map_nil, List.not_mem_nil, false_or, List.map_map, List.mem_map,
    List.mem_filter, decide_eq_true_eq, Function.comp_apply, ofPart_fst_iff unparted]
  exact ⟨fun ⟨s, m, gives⟩ => ⟨s, m.1, gives⟩, fun ⟨s, m, gives⟩ => ⟨s, ⟨m, nonempty s gives⟩, gives⟩⟩

/-- A path reads as the attributes that its segments write, in their order. -/
theorem ofPath_of_written {all : List Attribute} {segments : List (List Char)}
    (distinct : (all.map Attribute.name).Nodup)
    (written : List.Forall₂ Attribute.IsWrittenAs all (segments.filter (· ≠ []))) :
    ofPath ([';'].intercalate segments) = all.map Attribute.entry := by
  have h := isSegment_of_written written
  rw [ofPath_eq, parts_path h, map_ofPart_of_written written,
    foldl_set_of_nodup (by simpa [Function.comp_def] using distinct), List.nil_append]

/-! ## References -/

/-- A reference by attributes begins with the scheme. -/
theorem scheme_uri (segments : List (List Char)) (query : Option (List Char)) :
    (uri segments query).startsWith scheme = true := by
  rw [String.startsWith_string_iff, uri, String.toList_append]
  exact List.prefix_append _ _

/-- Whatever begins with the scheme is a URI. -/
theorem exists_uri {reference : String} (h : reference.startsWith scheme = true) :
    ∃ segments query, (∀ s ∈ segments, IsSegment s) ∧ reference = uri segments query := by
  obtain ⟨rest, written⟩ := String.startsWith_string_iff.1 h
  obtain ⟨unqueried, whole⟩ := cut_spec '?' rest
  have segments : ∀ s ∈ Text.partsOf ';' (cut '?' rest).1, IsSegment s := by
    intro s m c inside
    refine ⟨fun same => Text.not_mem_of_mem_partsOf m (same ▸ inside), ?_⟩
    rintro rfl
    rw [← Text.intercalate_partsOf ';' (cut '?' rest).1, mem_intercalate (by decide)] at unqueried
    exact unqueried ⟨s, m, inside⟩
  have same (query : Option (List Char))
      (eq : rest = (cut '?' rest).1 ++ query.elim [] ('?' :: ·)) :
      reference = uri (Text.partsOf ';' (cut '?' rest).1) query := by
    rw [uri, Text.intercalate_partsOf, ← eq, ← String.toList_inj, String.toList_append,
      String.toList_ofList, written]
  rcases whole with whole | whole
  · exact ⟨_, none, segments, same none (by simpa using whole)⟩
  · exact ⟨_, some _, segments, same (some _) whole⟩

/-- A name is found among attributes exactly if it is one of theirs. -/
theorem lookup_isSome_iff {name : String} {all : Attributes} :
    (all.lookup name).isSome = true ↔ name ∈ all.map Prod.fst := by
  rw [List.lookup_isSome_iff, List.mem_map]
  simp only [beq_iff_eq, @eq_comm _ name]

/-- A reference by segments has the attributes of its path, if they name a key. -/
theorem attributes_uri_eq {segments : List (List Char)} (h : ∀ s ∈ segments, IsSegment s)
    (query : Option (List Char)) :
    attributes (uri segments query) =
      let found := ofPath ([';'].intercalate segments)
      if idName ∈ found.map Prod.fst ∨ labelName ∈ found.map Prod.fst then .ok found
      else .error (.unnamedKey (uri segments query)) := by
  rw [attributes, scheme_uri, path_uri h]
  simp only [Bool.or_eq_true, lookup_isSome_iff]
  rfl

/-- A URI whose segments write attributes, an object or an identifier among them, is read as them. -/
theorem attributes_of_written {all : List Attribute} {segments : List (List Char)}
    (distinct : (all.map Attribute.name).Nodup)
    (key : ∃ a ∈ all, a.name = idName ∨ a.name = labelName)
    (written : List.Forall₂ Attribute.IsWrittenAs all (segments.filter (· ≠ [])))
    (query : Option (List Char)) :
    attributes (uri segments query) = .ok (all.map Attribute.entry) := by
  have named : ∀ a ∈ all, a.name ∈ (all.map Attribute.entry).map Prod.fst := fun a m => by
    simpa using ⟨a, m, rfl⟩
  rw [attributes_uri_eq (isSegment_of_written written), ofPath_of_written distinct written]
  refine if_pos ?_
  obtain ⟨a, m, isId | label⟩ := key
  · exact .inl (isId ▸ named a m)
  · exact .inr (label ▸ named a m)

/-- A URI is refused where no segment gives an identifier or an object. -/
theorem attributes_eq_error_iff {segments : List (List Char)} (h : ∀ s ∈ segments, IsSegment s)
    (query : Option (List Char)) :
    attributes (uri segments query) = .error (.unnamedKey (uri segments query)) ↔
      ∀ s ∈ segments, ¬ Gives idName s ∧ ¬ Gives labelName s := by
  have identifier := names_ofPath h (show idName ≠ "" by decide) (by decide)
  have label := names_ofPath h (show labelName ≠ "" by decide) (by decide)
  rw [attributes_uri_eq h]
  dsimp only
  split_ifs with found
  · rw [identifier, label] at found
    refine ⟨nofun, fun none => ?_⟩
    rcases found with ⟨s, m, gives⟩ | ⟨s, m, gives⟩
    · exact ((none s m).1 gives).elim
    · exact ((none s m).2 gives).elim
  · refine ⟨fun _ s m => ⟨fun gives => found (.inl ?_), fun gives => found (.inr ?_)⟩, fun _ => rfl⟩
    · exact identifier.2 ⟨s, m, gives⟩
    · exact label.2 ⟨s, m, gives⟩

/-- A reference without the scheme is a label. -/
theorem attributes_of_label {reference : String} (h : reference.startsWith scheme = false) :
    attributes reference = .ok [(labelName, reference)] := by
  rw [attributes, h]
  rfl

/-- A URI whose segments write attributes, an object or an identifier among them, is read as those
attributes whatever their order, empty segments and the query are; a reference without the scheme is read
whole as a label; a reference with the scheme is a URI, and a URI is refused exactly where no segment
gives an identifier or an object. -/
theorem attributes_uri :
    (∀ (all : List Attribute) (segments : List (List Char)) (query : Option (List Char)),
      (all.map Attribute.name).Nodup →
      (∃ a ∈ all, a.name = idName ∨ a.name = labelName) →
      List.Forall₂ Attribute.IsWrittenAs all (segments.filter (· ≠ [])) →
      attributes (uri segments query) = .ok (all.map Attribute.entry)) ∧
    (∀ reference : String, reference.startsWith scheme = false →
      attributes reference = .ok [(labelName, reference)]) ∧
    (∀ reference : String, reference.startsWith scheme = true →
      ∃ segments query, (∀ s ∈ segments, IsSegment s) ∧ reference = uri segments query) ∧
    ∀ (segments : List (List Char)) (query : Option (List Char)), (∀ s ∈ segments, IsSegment s) →
      (attributes (uri segments query) = .error (.unnamedKey (uri segments query)) ↔
        ∀ s ∈ segments, ¬ Gives idName s ∧ ¬ Gives labelName s) :=
  ⟨fun _ _ query distinct key written => attributes_of_written distinct key written query,
    fun _ bare => attributes_of_label bare,
    fun _ schemed => exists_uri schemed,
    fun _ query h => attributes_eq_error_iff h query⟩

/-- Separators, percent signs and octets beyond ASCII in values, empty segments and a query that itself
reads like segments. -/
theorem attributes_uri_escaped :
    attributes "pkcs11:;slot-id=0;id=%00%fF%3b;;object=%C3%b6%3B%3d%25?pin-value=?;id=" =
      .ok [("slot-id", "0"), ("id", "00ff3b"), ("object", "ö;=%")] := by
  have slot : IsTextName slotName := ⟨by decide, by decide, by simp [slotName]⟩
  have object : IsTextName labelName := ⟨by decide, by decide, by simp [labelName]⟩
  have identifier : Percent.Writes [0x00, 0xff, 0x3b] "%00%fF%3b".toList :=
    .escaped (by decide) (by decide) (.escaped (by decide) (by decide)
      (.escaped (by decide) (by decide) .nil))
  have label : Percent.Writes (Utf8.encode "ö;=%") "%C3%b6%3B%3d%25".toList :=
    .escaped (by decide) (by decide) (.escaped (by decide) (by decide)
      (.escaped (by decide) (by decide) (.escaped (by decide) (by decide)
        (.escaped (by decide) (by decide) .nil))))
  have joined : uri [[], slotName.toList ++ '=' :: ['0'], idName.toList ++ '=' :: "%00%fF%3b".toList, [],
      labelName.toList ++ '=' :: "%C3%b6%3B%3d%25".toList] (some "pin-value=?;id=".toList) =
      "pkcs11:;slot-id=0;id=%00%fF%3b;;object=%C3%b6%3B%3d%25?pin-value=?;id=" := by
    decide
  rw [← joined]
  exact attributes_uri.1
    [.named slotName "0" slot, .identifier [0x00, 0xff, 0x3b], .named labelName "ö;=%" object] _ _
    (show [slotName, idName, labelName].Nodup by decide)
    ⟨_, List.mem_cons_of_mem _ List.mem_cons_self, .inl rfl⟩
    (.cons ⟨_, .plain (by decide) .nil, rfl⟩ (.cons ⟨_, identifier, rfl⟩ (.cons ⟨_, label, rfl⟩ .nil)))

end ImageSigning.KeyReference
