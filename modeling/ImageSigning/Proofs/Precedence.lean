import ImageSigning.CommandLine
import ImageSigning.Proofs.Outcome

/-!
# Where a setting comes from

The sources of settings are applied one after the other, each a series of changes. Of a series of changes
only the last one of a setting counts, so that each source either gives a setting or leaves it alone, and
the one that was applied last wins: the command line, then the environment, then the profile, then what is
usual. What a source gives a setting stands in one place of it; everything else there is without influence.

A profile is looked at before the other sources, so that one that is refused is refused whatever they say.
What is left of it is a mapping with known keys, whose section for a token is a mapping too. The values of
that section become text, and an integer that is too long for that is noticed before any unknown key.

* **`Setting.given`** — a setting by its four sources.
* **`get_withArguments`**, **`get_withEnvironment`**, **`get_ofTable`** — what each source does.
* **`ofProfile_eq_ok_iff`**, **`ofProfile_of_unknown`** — the profiles that are accepted, and what becomes of
  one with an unknown key.
* **`ofSources_precedence`** — all sources together.
-/

namespace ImageSigning

/-! ## Values in order -/

namespace Value

/-- Values can be put in order exactly if each two of them can be compared. -/
theorem areOrdered_iff {vs : List Value} :
    areOrdered vs = true ↔ vs.Pairwise fun v w => (v.less? w).isSome = true := by
  induction vs with
  | nil => simp [areOrdered]
  | cons v r ih => rw [areOrdered, Bool.and_eq_true, List.all_eq_true, ih, List.pairwise_cons]

/-- Values can be written exactly if each of them can. -/
theorem areWritable_iff {vs : List Value} : areWritable vs = true ↔ ∀ v ∈ vs, v.isWritable = true := by
  induction vs with
  | nil => simp [areWritable]
  | cons v r ih => rw [areWritable, Bool.and_eq_true, ih, List.forall_mem_cons]

/-- Values in order are the values. -/
theorem mem_of_sorted? {vs sorted : List Value} (h : sorted? vs = some sorted) {v : Value} :
    v ∈ sorted ↔ v ∈ vs := by
  unfold sorted? at h
  split_ifs at h
  obtain rfl := Option.some.inj h
  exact List.mem_mergeSort

end Value

/-! ## Profiles -/

namespace Table

variable (t : Table)

/-- The section of a profile for a token; anything but a table is an empty one. -/
def sectionOf : Table :=
  match t.named? Setting.tokenSection with
  | some (.table inner) => inner
  | _ => []

/-- What stands in the place of the section for a token is a table, or does not count as given. -/
def HasSection : Prop :=
  ∀ v, t.named? Setting.tokenSection = some v → v.isSet = true → ∃ inner, v = .table inner

/-- The settings in the section for a token are short enough to become text. -/
def IsWritable : Prop :=
  ∀ x ∈ Setting.inTokenSection, ∀ v, t.sectionOf.named? x.1 = some v → v.isWritable = true

/-- The keys that a profile may not have. -/
def unknownKeys : List Value :=
  t.keys.filter fun k => !Configuration.profileKeys.any fun n => k.sameKey (.text n)

/-- What a profile has to be to be accepted. -/
structure IsProfile : Prop where
  formed : t.HasSection
  writable : t.IsWritable
  known : t.unknownKeys = []

end Table

/-! ## The sources of one setting -/

namespace Setting

variable (s : Setting)

/-- The name of a setting in the section for a token, if it stands there. -/
def sectionName? : Option String := (inTokenSection.find? (·.2 = s)).map Prod.fst

/-- The environment variable that gives a setting, if there is one. -/
def variableName? : Option String := inEnvironment.lookup s

/-- What the command line gives a setting: the last value under its name that overrides anything. -/
def fromArguments (arguments : List (String × Value)) : Option Value :=
  (arguments.filterMap fun a =>
    if a.1 = s.name ∧ Configuration.overrides a.2 then some a.2 else none).getLast?

/-- What the environment gives a setting: what its variable holds, unless that is empty. -/
def fromEnvironment (environment : List (String × Value)) : Option Value :=
  (s.variableName?.bind fun name => environment.lookup name).filter Value.isSet

/-- What a section for a token gives a setting, as text. -/
def fromSection (inner : Table) : Option Value :=
  (s.sectionName?.bind fun name => inner.named? name).map fun v => .text v.display

/-- What a profile gives a setting: the value under its name, or what the section for a token gives it. -/
def fromProfile (t : Table) : Option Value :=
  if s ∈ inProfile then t.named? s.name else s.fromSection t.sectionOf

/-- A setting by its sources. -/
def given (t : Table) (environment arguments : List (String × Value)) : Value :=
  ((s.fromArguments arguments).or ((s.fromEnvironment environment).or (s.fromProfile t))).getD s.usual

/-- Sources that agree on what concerns a setting: its name on the command line, its variable, and its place
in a profile. -/
structure AgreeOn (t t' : Table) (environment environment' arguments arguments' : List (String × Value)) :
    Prop where
  arguments : arguments.filter (·.1 = s.name) = arguments'.filter (·.1 = s.name)
  environment : ∀ name, s.variableName? = some name →
    environment.lookup name = environment'.lookup name
  profile : s ∈ inProfile → t.named? s.name = t'.named? s.name
  sameSection : ∀ name, s.sectionName? = some name → t.sectionOf.named? name = t'.sectionOf.named? name

variable {s} {t t' : Table} {environment environment' arguments arguments' : List (String × Value)}

/-- A setting looks at the arguments with its name alone. -/
theorem fromArguments_filter (arguments : List (String × Value)) :
    s.fromArguments (arguments.filter (·.1 = s.name)) = s.fromArguments arguments := by
  unfold fromArguments
  rw [List.filterMap_filter]
  congr 1
  refine List.filterMap_congr fun a _ => ?_
  by_cases same : a.1 = s.name <;> simp [same]

/-- Only what concerns a setting is looked at. -/
theorem AgreeOn.given_eq (h : s.AgreeOn t t' environment environment' arguments arguments') :
    s.given t environment arguments = s.given t' environment' arguments' := by
  have first : s.fromArguments arguments = s.fromArguments arguments' := by
    rw [← fromArguments_filter, h.arguments, fromArguments_filter]
  have second : s.fromEnvironment environment = s.fromEnvironment environment' := by
    unfold fromEnvironment
    rw [Option.bind_congr h.environment]
  have third : s.fromProfile t = s.fromProfile t' := by
    unfold fromProfile fromSection
    split
    · exact h.profile ‹_›
    · rw [Option.bind_congr h.sameSection]
  unfold given
  rw [first, second, third]

/-- A setting is found by its name and no other. -/
theorem ofName?_eq_some_iff {s : Setting} {name : String} : ofName? name = some s ↔ name = s.name := by
  constructor
  · intro found
    have named := List.find?_some found
    exact (by simpa using named : s.name = name).symm
  · rintro rfl
    exact ofName?_name s

end Setting

namespace Configuration

variable {c : Configuration} {s : Setting} {t : Table} {v : Value}

/-! ## Series of changes -/

/-- Of changes one after the other, the last one of a setting counts. -/
theorem get_foldl {α : Type} {change : α → Option (Setting × Value)} (as : List α) :
    ∀ c : Configuration, (as.foldl (fun c a => (change a).elim c fun x => c.set x.1 x.2) c).get s =
      ((as.filterMap change).filterMap fun x => if x.1 = s then some x.2 else none).getLast?.getD
        (c.get s) := by
  induction as with
  | nil =>
    intro c
    rfl
  | cons a r ih =>
    intro c
    rw [List.foldl_cons, ih]
    cases changed : change a with
    | none => simp [changed]
    | some x =>
      obtain ⟨u, v⟩ := x
      by_cases same : u = s
      · subst same
        simp [changed, List.getLast?_cons]
      · simp [changed, same, get_set_of_ne c v (Ne.symm same)]

/-- Changes of different settings: each is what it becomes itself. -/
theorem get_foldl_of_nodup {f : Setting → Option Value} {as : List Setting} (apart : as.Nodup) :
    ∀ c : Configuration, (as.foldl (fun c u => (f u).elim c (c.set u)) c).get s =
      if s ∈ as then (f s).getD (c.get s) else c.get s := by
  induction as with
  | nil =>
    intro c
    rfl
  | cons u r ih =>
    intro c
    obtain ⟨new, apart⟩ := List.nodup_cons.1 apart
    rw [List.foldl_cons, ih apart]
    have here : ((f u).elim c (c.set u)).get s = if s = u then (f u).getD (c.get s) else c.get s := by
      by_cases same : s = u
      · subst same
        cases f s <;> simp
      · cases f u <;> simp [same, get_set_of_ne]
    rw [here]
    by_cases same : s = u
    · subst same
      simp [new]
    · simp [same]

/-! ## Each source -/

/-- What an argument changes. -/
def change? (a : String × Value) : Option (Setting × Value) :=
  if overrides a.2 then (Setting.ofName? a.1).map fun u => (u, a.2) else none

/-- Arguments are taken one after the other, each changing one setting or none. -/
theorem withArguments_eq (c : Configuration) (arguments : List (String × Value)) :
    c.withArguments arguments =
      arguments.foldl (fun c a => (change? a).elim c fun x => c.set x.1 x.2) c := by
  unfold withArguments
  congr
  funext c ⟨name, v⟩
  unfold change?
  dsimp only
  cases Setting.ofName? name <;> by_cases given : overrides v <;> simp [given]

/-- A setting is what the arguments make it, if they do. -/
theorem get_withArguments (arguments : List (String × Value)) :
    (c.withArguments arguments).get s = (s.fromArguments arguments).getD (c.get s) := by
  rw [withArguments_eq, get_foldl, List.filterMap_filterMap, Setting.fromArguments]
  congr 3
  funext a
  unfold change?
  cases named : Setting.ofName? a.1 with
  | none =>
    have other : a.1 ≠ s.name := by
      intro same
      rw [Setting.ofName?_eq_some_iff.2 same] at named
      cases named
    simp [other]
  | some u =>
    have names : u = s ↔ a.1 = s.name := by
      rw [← Setting.ofName?_eq_some_iff, named, Option.some.injEq]
    by_cases given : overrides a.2 <;> simp [given, names]

/-- The variables are taken one after the other, each changing its setting or none. -/
theorem withEnvironment_eq (c : Configuration) (environment : List (String × Value)) :
    c.withEnvironment environment = (Setting.inEnvironment.map Prod.fst).foldl
      (fun c u => (u.fromEnvironment environment).elim c (c.set u)) c := by
  have names : ∀ x ∈ Setting.inEnvironment, x.1.variableName? = some x.2 := by decide
  rw [List.foldl_map]
  refine List.foldl_ext _ _ _ fun c ⟨u, name⟩ mem => ?_
  rw [Setting.fromEnvironment, names _ mem, Option.bind_some]
  dsimp only
  cases environment.lookup name with
  | none => rfl
  | some v => by_cases given : v.isSet <;> simp [given, Option.filter]

/-- A setting is what the environment makes it, if it does. -/
theorem get_withEnvironment (environment : List (String × Value)) :
    (c.withEnvironment environment).get s = (s.fromEnvironment environment).getD (c.get s) := by
  rw [withEnvironment_eq, get_foldl_of_nodup (by decide)]
  split
  · rfl
  · rename_i other
    have noPlace : s.variableName? = none := by
      cases s <;> first | rfl | exact (other (by decide)).elim
    simp [Setting.fromEnvironment, noPlace]

/-- The entries of the token section are taken one after the other. -/
theorem withTokenSection_eq (c : Configuration) (inner : Table) :
    c.withTokenSection inner = (Setting.inTokenSection.map Prod.snd).foldl
      (fun c u => (u.fromSection inner).elim c (c.set u)) c := by
  have names : ∀ x ∈ Setting.inTokenSection, x.2.sectionName? = some x.1 := by decide
  rw [List.foldl_map]
  refine List.foldl_ext _ _ _ fun c ⟨name, u⟩ mem => ?_
  rw [Setting.fromSection, names _ mem, Option.bind_some]
  dsimp only
  cases inner.named? name <;> rfl

/-- A setting is what the token section makes it, if it does. -/
theorem get_withTokenSection (inner : Table) :
    (c.withTokenSection inner).get s = (s.fromSection inner).getD (c.get s) := by
  rw [withTokenSection_eq, get_foldl_of_nodup (by decide)]
  split
  · rfl
  · rename_i other
    have noSection : s.sectionName? = none := by
      cases s <;> first | rfl | exact (other (by decide)).elim
    simp [Setting.fromSection, noSection]

/-- What a profile makes of a configuration. -/
def ofTable (c : Configuration) (t : Table) : Configuration :=
  (c.withProfileKeys t).withTokenSection t.sectionOf

/-- A setting is what the profile makes it, if it does. -/
theorem get_ofTable (t : Table) : (c.ofTable t).get s = (s.fromProfile t).getD (c.get s) := by
  have apart : ∀ s ∈ Setting.inProfile, s.sectionName? = none := by decide
  rw [ofTable, get_withTokenSection, withProfileKeys, get_foldl_of_nodup (by decide),
    Setting.fromProfile]
  split
  · rename_i own
    simp [Setting.fromSection, apart s own]
  · rfl

/-! ## Profiles that are accepted -/

/-- A profile that has its section in order gives it. -/
theorem tokenSection_of_hasSection (h : t.HasSection) : tokenSection t = .ok t.sectionOf := by
  unfold tokenSection Table.sectionOf
  cases stands : t.named? Setting.tokenSection with
  | none => rfl
  | some v =>
    by_cases given : v.isSet = true
    · obtain ⟨inner, rfl⟩ := h v stands given
      simp [given]
    · cases v <;> simp_all [Value.isSet]

/-- A section that is no table is refused. -/
theorem tokenSection_of_not_hasSection (h : ¬ t.HasSection) :
    tokenSection t = .error .tokenSectionNotMapping := by
  unfold Table.HasSection at h
  push Not at h
  obtain ⟨v, stands, given, other⟩ := h
  unfold tokenSection
  rw [stands]
  cases v with
  | table inner => exact (other _ rfl).elim
  | _ => simp [given]

/-- Values that can be written pass. -/
theorem checkTokenValues_of_isWritable (h : t.IsWritable) : checkTokenValues t.sectionOf = .ok () := by
  refine if_pos (List.all_eq_true.2 fun ⟨name, u⟩ mem => ?_)
  dsimp only
  cases found : t.sectionOf.named? name with
  | none => rfl
  | some v => exact h _ mem v found

/-- A value that is too long to be written ends with a defect. -/
theorem checkTokenValues_of_not_isWritable (h : ¬ t.IsWritable) :
    checkTokenValues t.sectionOf = .error (.defect .numberTooLong) := by
  refine if_neg fun all => h fun ⟨name, u⟩ mem v found => ?_
  have writable := List.all_eq_true.1 all _ mem
  dsimp only at writable
  rwa [show t.sectionOf.named? name = some v from found] at writable

/-- Of a profile the section is looked at first, then its values, and then the keys. -/
theorem ofProfile_table : ofProfile (.table t) = (do
    let inner ← (tokenSection t).mapError fun p => .failure (.configuration p)
    checkTokenValues inner
    checkKeys t
    return (usual.withProfileKeys t).withTokenSection inner) :=
  rfl

/-- A profile whose section is no table is refused. -/
theorem ofProfile_of_not_hasSection (h : ¬ t.HasSection) :
    ofProfile (.table t) = .error (.failure (.configuration .tokenSectionNotMapping)) := by
  rw [ofProfile_table, tokenSection_of_not_hasSection h]
  rfl

/-- A profile with a value that is too long ends with a defect. -/
theorem ofProfile_of_not_isWritable (h : t.HasSection) (long : ¬ t.IsWritable) :
    ofProfile (.table t) = .error (.defect .numberTooLong) := by
  rw [ofProfile_table, tokenSection_of_hasSection h]
  change (checkTokenValues t.sectionOf >>= _) = _
  rw [checkTokenValues_of_not_isWritable long]
  rfl

/-- Beside an integer that is too long, an unknown key is not noticed. -/
example {n : Nat} (long : Nat.pow 10 Text.maxDigits ≤ n) :
    ofProfile (.table [(.text "nope", .null),
      (.text "pkcs11", .table [(.text "pin", .integer n)])]) = .error (.defect .numberTooLong) := by
  refine ofProfile_of_not_isWritable ?_ fun writable => ?_
  · rintro v ⟨⟩ -
    exact ⟨_, rfl⟩
  · have short := writable ("pin", .pin) (by decide) _ rfl
    rw [Value.isWritable, decide_eq_true_eq, Int.natAbs_natCast] at short
    exact Nat.not_lt.2 long short

/-- Any other profile is accepted if its keys are known. -/
theorem ofProfile_of_isWritable (h : t.HasSection) (writable : t.IsWritable) :
    ofProfile (.table t) = (checkKeys t).map fun _ => usual.ofTable t := by
  rw [ofProfile_table, tokenSection_of_hasSection h]
  change (checkTokenValues t.sectionOf >>= _) = _
  rw [checkTokenValues_of_isWritable writable]
  cases checkKeys t <;> rfl

/-- The keys pass exactly if none is unknown. -/
theorem checkKeys_eq_ok_iff : checkKeys t = .ok () ↔ t.unknownKeys = [] := by
  unfold checkKeys
  change (if t.unknownKeys.isEmpty then _ else _) = _ ↔ _
  split
  · rename_i known
    simpa using known
  · rename_i unknownLeft
    have other : t.unknownKeys ≠ [] := by simpa using unknownLeft
    simp only [other, iff_false]
    split
    · split <;> simp
    · simp

/-- A profile is accepted exactly if it has the right form, and then it gives what stands in it. -/
theorem ofProfile_eq_ok_iff : ofProfile v = .ok c ↔
    ∃ t : Table, v = .table t ∧ t.IsProfile ∧ c = usual.ofTable t := by
  constructor
  · intro h
    cases v with
    | table t =>
      refine ⟨t, rfl, ?_⟩
      by_cases formed : Table.HasSection t
      · by_cases writable : Table.IsWritable t
        · rw [ofProfile_of_isWritable formed writable] at h
          obtain ⟨_, checked, rfl⟩ := Outcome.map_eq_ok.1 h
          exact ⟨⟨formed, writable, checkKeys_eq_ok_iff.1 checked⟩, rfl⟩
        · rw [ofProfile_of_not_isWritable formed writable] at h
          cases h
      · rw [ofProfile_of_not_hasSection formed] at h
        cases h
    | _ => cases h
  · rintro ⟨t, rfl, profile, rfl⟩
    rw [ofProfile_of_isWritable profile.formed profile.writable,
      checkKeys_eq_ok_iff.2 profile.known]
    rfl

/-! ## Unknown keys -/

/-- Unknown keys that have an order and can be shown are reported in order. -/
theorem checkKeys_of_ordered (ordered : t.unknownKeys.Pairwise fun k l => (k.less? l).isSome = true)
    (writable : ∀ k ∈ t.unknownKeys, k.isWritable = true) (unknown : t.unknownKeys ≠ []) :
    ∃ keys, Value.sorted? t.unknownKeys = some keys ∧ checkKeys t =
      .error (.failure (.configuration (.unknownProfileKeys (Value.series keys).literal))) := by
  obtain ⟨keys, sorted⟩ : ∃ keys, Value.sorted? t.unknownKeys = some keys :=
    ⟨_, if_pos (Value.areOrdered_iff.2 ordered)⟩
  have shown : (Value.series keys).isWritable = true := by
    rw [Value.isWritable, Value.areWritable_iff]
    exact fun k mem => writable k ((Value.mem_of_sorted? sorted).1 mem)
  refine ⟨keys, sorted, ?_⟩
  unfold Table.unknownKeys at unknown sorted
  unfold checkKeys
  dsimp only
  rw [if_neg fun empty => unknown (List.isEmpty_iff.1 empty), sorted]
  exact if_pos shown

/-- Texts have an order and can be shown. -/
theorem checkKeys_of_texts (texts : ∀ k ∈ t.keys, ∃ n, k = .text n) (unknown : t.unknownKeys ≠ []) :
    ∃ keys, Value.sorted? t.unknownKeys = some keys ∧ checkKeys t =
      .error (.failure (.configuration (.unknownProfileKeys (Value.series keys).literal))) := by
  have shown : ∀ k ∈ t.unknownKeys, ∃ n, k = .text n := fun k mem => texts k (List.mem_filter.1 mem).1
  refine checkKeys_of_ordered ?_ ?_ unknown
  · refine List.pairwise_of_forall_mem_list fun k first l second => ?_
    obtain ⟨n, rfl⟩ := shown k first
    obtain ⟨m, rfl⟩ := shown l second
    rfl
  · intro k mem
    obtain ⟨n, rfl⟩ := shown k mem
    rfl

/-- What becomes of a profile with texts as keys, one of which is unknown. -/
theorem ofProfile_of_unknown (texts : ∀ k ∈ t.keys, ∃ n, k = .text n) (unknown : t.unknownKeys ≠ []) :
    (¬ t.HasSection → ofProfile (.table t) = .error (.failure (.configuration .tokenSectionNotMapping))) ∧
    (t.HasSection → ¬ t.IsWritable → ofProfile (.table t) = .error (.defect .numberTooLong)) ∧
    (t.HasSection → t.IsWritable → ∃ keys, Value.sorted? t.unknownKeys = some keys ∧
      ofProfile (.table t) =
        .error (.failure (.configuration (.unknownProfileKeys (Value.series keys).literal)))) := by
  refine ⟨ofProfile_of_not_hasSection, ofProfile_of_not_isWritable, fun formed writable => ?_⟩
  obtain ⟨keys, sorted, refused⟩ := checkKeys_of_texts texts unknown
  refine ⟨keys, sorted, ?_⟩
  rw [ofProfile_of_isWritable formed writable, refused]
  rfl

/-! ## All sources -/

variable {fs : FileSystem} {profile : Option String} {environment arguments : List (String × Value)}

/-- The table that the named profile holds; without one it is empty. -/
def HoldsProfile (fs : FileSystem) (profile : Option String) (t : Table) : Prop :=
  ((profile = none ∨ profile = some "") ∧ t = []) ∨
    ∃ path, profile = some path ∧ path ≠ "" ∧ profileIn fs path = .ok (.table t)

/-- With a profile the settings are its own, then those of the environment, then the arguments. -/
theorem ofSources_of_file {path : String} (named : path ≠ "") :
    ofSources fs (some path) environment arguments = (profileIn fs path >>= ofProfile).map
      fun c => (c.withEnvironment environment).withArguments arguments := by
  unfold ofSources ofFile
  split
  · rename_i unread
    cases unread
  · rename_i empty
    exact (named (Option.some.inj empty)).elim
  · rename_i same
    obtain rfl := Option.some.inj same
    cases profileIn fs _ >>= ofProfile <;> rfl

/-- Where a profile holds a table, it is the first source and the others follow. -/
theorem HoldsProfile.ofSources_eq (h : HoldsProfile fs profile t) :
    ofSources fs profile environment arguments = (ofProfile (.table t)).map
      fun c => (c.withEnvironment environment).withArguments arguments := by
  rcases h with ⟨rfl | rfl, rfl⟩ | ⟨path, rfl, named, held⟩
  · rfl
  · rfl
  · rw [ofSources_of_file named, held]
    rfl

/-- A profile that is refused is what the settings are refused for. -/
theorem HoldsProfile.ofSources_of_error {f : Fault} (h : HoldsProfile fs profile t)
    (refused : ofProfile (.table t) = .error f) (environment arguments : List (String × Value)) :
    ofSources fs profile environment arguments = .error f := by
  rw [h.ofSources_eq, refused]
  rfl

/-- Where there are settings, a profile was held or none was asked for. -/
theorem exists_holdsProfile (h : ofSources fs profile environment arguments = .ok c) :
    ∃ t, HoldsProfile fs profile t := by
  match profile with
  | none => exact ⟨[], .inl ⟨.inl rfl, rfl⟩⟩
  | some path =>
    by_cases named : path = ""
    · exact ⟨[], .inl ⟨.inr (congrArg some named), rfl⟩⟩
    · rw [ofSources_of_file named] at h
      obtain ⟨_, read, -⟩ := Outcome.map_eq_ok.1 h
      obtain ⟨v, held, accepted⟩ := Outcome.bind_eq_ok.1 read
      obtain ⟨t, rfl, -⟩ := ofProfile_eq_ok_iff.1 accepted
      exact ⟨t, .inr ⟨path, rfl, named, held⟩⟩

/-- What the sources make of a setting that is usual. -/
theorem get_ofTable_usual (s : Setting) (t : Table) (environment arguments : List (String × Value)) :
    (((usual.ofTable t).withEnvironment environment).withArguments arguments).get s =
      s.given t environment arguments := by
  rw [get_withArguments, get_withEnvironment, get_ofTable, Setting.given, Option.getD_or,
    Option.getD_or]
  rfl

/-- An argument that names no setting changes none. -/
theorem withArguments_of_unnamed {name : String} (unnamed : Setting.ofName? name = none) (v : Value)
    (before after : List (String × Value)) :
    c.withArguments (before ++ (name, v) :: after) = c.withArguments (before ++ after) := by
  simp [withArguments, unnamed]

/-- The precedence of settings. With all sources, the configuration is accepted exactly if the profile is,
and then each setting is what the command line gives it, or else the environment, or else the profile, or
else what is usual. Only what concerns a setting has an influence on it, and arguments that are no settings
have none on anything. A profile whose keys are texts, one of them unknown, is refused in the same way
whatever the other sources say: as a problem of the configuration, unless its section for a token holds an
integer that is too long to become text. -/
theorem ofSources_precedence (fs : FileSystem) (profile : Option String)
    (environment arguments : List (String × Value)) :
    (∀ c, ofSources fs profile environment arguments = .ok c ↔
      ∃ t, HoldsProfile fs profile t ∧ t.IsProfile ∧
        ∀ s, c.get s = s.given t environment arguments) ∧
    (∀ (s : Setting) t t' environment' arguments',
      s.AgreeOn t t' environment environment' arguments arguments' →
        s.given t environment arguments = s.given t' environment' arguments') ∧
    (∀ name v before after, Setting.ofName? name = none → arguments = before ++ (name, v) :: after →
      ofSources fs profile environment arguments
        = ofSources fs profile environment (before ++ after)) ∧
    ∀ t, HoldsProfile fs profile t → (∀ k ∈ t.keys, ∃ n, k = .text n) → t.unknownKeys ≠ [] →
      (∀ environment' arguments', ofSources fs profile environment' arguments'
        = ofSources fs profile environment arguments) ∧
      ((∃ p, ofSources fs profile environment arguments = .error (.failure (.configuration p))) ↔
        (t.HasSection → t.IsWritable)) ∧
      (ofSources fs profile environment arguments = .error (.defect .numberTooLong) ↔
        (t.HasSection ∧ ¬ t.IsWritable)) := by
  refine ⟨fun c => ⟨fun h => ?_, ?_⟩, fun s t t' _ _ agree => agree.given_eq, ?_, ?_⟩
  · obtain ⟨t, held⟩ := exists_holdsProfile h
    rw [held.ofSources_eq] at h
    obtain ⟨_, accepted, rfl⟩ := Outcome.map_eq_ok.1 h
    obtain ⟨_, same, formed, rfl⟩ := ofProfile_eq_ok_iff.1 accepted
    obtain rfl := Value.table.inj same
    exact ⟨t, held, formed, fun s => get_ofTable_usual s t environment arguments⟩
  · rintro ⟨t, held, formed, settled⟩
    rw [held.ofSources_eq, ofProfile_eq_ok_iff.2 ⟨t, rfl, formed, rfl⟩]
    -- a configuration is nothing but its settings
    have same := funext fun s => (get_ofTable_usual s t environment arguments).trans (settled s).symm
    exact congrArg (fun get => Except.ok (Configuration.mk get)) same
  · rintro name v before after unnamed rfl
    unfold ofSources
    simp only [withArguments_of_unnamed unnamed]
  · intro t held texts unknown
    obtain ⟨noSection, long, reported⟩ := ofProfile_of_unknown texts unknown
    by_cases sectioned : t.HasSection
    · by_cases writable : t.IsWritable
      · obtain ⟨keys, -, refused⟩ := reported sectioned writable
        have ended := held.ofSources_of_error refused
        simp [ended, sectioned, writable]
      · have ended := held.ofSources_of_error (long sectioned writable)
        simp [ended, sectioned, writable]
    · have ended := held.ofSources_of_error (noSection sectioned)
      simp [ended, sectioned]

/-- The values of a setting by each of its sources, as far as the ones before leave it alone. -/
example :
    let profile := [(.text "pkcs11", .table [(.text "pin", .integer 1)])]
    let environment := [("SBSIGN_PKCS11_PIN", .text "2")]
    Setting.pin.given profile environment [("pkcs11_pin", .text "")] = .text "" ∧
      Setting.pin.given profile environment [("pkcs11_pin", .null)] = .text "2" ∧
      Setting.pin.given profile [("SBSIGN_PKCS11_PIN", .text "")] [] = .text "1" ∧
      Setting.pin.given [] [] [] = .null :=
  ⟨rfl, rfl, rfl, rfl⟩

end Configuration

end ImageSigning
