import Mathlib
import Proximity.Config.File
import Proximity.Proofs.Credential.Faults

/-!
# Saving a configuration and loading it back

`Config.save` writes a configuration as a TOML document, one table per section, leaving
absent optional fields out; `Config.load` reads the file back through the configuration
reader: the document's tables become settings under lower-cased keys, sorted, the sources are
merged into one root table, and the root is read field by field, an absent field keeping its
default.

The reader looks every field up by its name (`Config.readField_map`), so what the sorting and
merging do to the order of a table does not matter as long as each name keeps its setting:
collapsing keys that are already distinct and in lower case keeps every lookup
(`Setting.memberOf_collapseKeys`), and merging the file's sections into the empty root puts
each section in as it is (`Setting.foldl_setKey_sections`). Each section then reads back as
the configuration's own section (`Config.readDiscovery_written` and the two after it),
absent optional fields included; the keep-alive values are 32-bit numbers, so they pass the
reader's 32-bit check (`Setting.asUnsigned32_toNat`).

The TOML text itself is taken to read back as the document it was written from: that is the
one hypothesis on the text format, stated for the configuration's own document. For a given
document it can be checked by evaluation (`TomlValue.readTable_of_readsBackAs`).

**Results.**
* `Setting.memberOf_collapseKeys`, `Setting.foldl_setKey_sections`: lookups through the
  merging of the sources.
* `Config.readField_map`, `Config.readDiscovery_congr` and its siblings: the reader looks
  fields up by name.
* `Config.gather_toToml`: the settings of a configuration's document read back as it.
* `Config.save_eq_ok`, `Config.load_of_lookup`: the file a save leaves, and what a load of a
  file does.
* `Config.load_of_save`: loading what was saved gives the configuration back.
-/

namespace Proximity

/-! ## Looking up members of a table -/

namespace Setting

/-- Whether a setting is a table. -/
def isTable : Setting → Bool
  | table _ _ => true
  | _ => false

end Setting

variable {k : String} {v : Setting} {ms ms' : List (String × Setting)}

theorem memberOf_nil : memberOf k [] = none := rfl

theorem memberOf_cons (k' : String) (v' : Setting) (ms : List (String × Setting)) :
    memberOf k ((k', v') :: ms) = if k' = k then some v' else memberOf k ms := by
  by_cases h : k' = k <;> simp [memberOf, h]

theorem memberOf_eq_none (h : k ∉ ms.map Prod.fst) : memberOf k ms = none := by
  rw [memberOf, Option.map_eq_none_iff, List.find?_eq_none]
  simp only [beq_iff_eq]
  exact fun p hp hpk => h (hpk ▸ List.mem_map.2 ⟨p, hp, rfl⟩)

/-- In a table whose keys are distinct, a key has the setting it stands with. -/
theorem memberOf_eq_some_iff (hnd : (ms.map Prod.fst).Nodup) :
    memberOf k ms = some v ↔ (k, v) ∈ ms := by
  induction ms with
  | nil => simp [memberOf_nil]
  | cons p ms ih =>
    obtain ⟨k', v'⟩ := p
    simp only [List.map_cons, List.nodup_cons] at hnd
    rw [memberOf_cons]
    by_cases hk : k' = k
    · subst hk
      -- the key is not repeated further on
      have hnot : (k', v) ∉ ms := fun h => hnd.1 (List.mem_map.2 ⟨_, h, rfl⟩)
      simp [hnot, eq_comm]
    · simp [hk, ih hnd.2, Ne.symm hk]

theorem memberOf_perm (hp : ms.Perm ms') (hnd : (ms.map Prod.fst).Nodup) :
    memberOf k ms = memberOf k ms' := by
  have hnd' : (ms'.map Prod.fst).Nodup := (hp.map Prod.fst).nodup_iff.1 hnd
  refine Option.ext fun v => ?_
  rw [memberOf_eq_some_iff hnd, memberOf_eq_some_iff hnd', hp.mem_iff]

theorem memberOf_map (f : Setting → Setting) (ms : List (String × Setting)) :
    memberOf k (ms.map fun p => (p.1, f p.2)) = (memberOf k ms).map f := by
  induction ms with
  | nil => rfl
  | cons p ms ih =>
    rw [List.map_cons, memberOf_cons, memberOf_cons, ih]
    split <;> rfl

/-- A key that is not there is added at the end. -/
theorem upsertMember_fresh (h : k ∉ ms.map Prod.fst) : upsertMember k v ms = ms ++ [(k, v)] := by
  have hany : ms.any (·.1 == k) = false := by
    simp only [List.any_eq_false, beq_iff_eq]
    exact fun p hp hpk => h (hpk ▸ List.mem_map.2 ⟨p, hp, rfl⟩)
  simp [upsertMember, hany]

/-- The first key of a table whose keys, after the ones before it, are distinct is not among
those before it. -/
theorem not_mem_of_nodup_append {α : Type} {acc : List (String × α)} {p : String × α}
    {rest : List (String × α)} (hnd : ((acc ++ p :: rest).map Prod.fst).Nodup) :
    p.1 ∉ acc.map Prod.fst := by
  intro hm
  simp only [List.map_append, List.map_cons, List.nodup_append] at hnd
  exact hnd.2.2 _ hm _ List.mem_cons_self rfl

namespace Setting

/-- Keys already in lower case and distinct are added one after another. -/
theorem foldl_upsert_fresh (acc ms : List (String × Setting))
    (hnd : ((acc ++ ms).map Prod.fst).Nodup) (hlow : ∀ p ∈ ms, Unicode.toLower p.1 = p.1) :
    ms.foldl (fun acc p => upsertMember (Unicode.toLower p.1) p.2 acc) acc = acc ++ ms := by
  induction ms generalizing acc with
  | nil => simp
  | cons p ms ih =>
    rw [List.foldl_cons, hlow p List.mem_cons_self, upsertMember_fresh (not_mem_of_nodup_append hnd),
      ih _ (by simpa using hnd) fun q hq => hlow q (List.mem_cons_of_mem _ hq)]
    simp

/-- Collapsing keys that are already distinct and in lower case only sorts them. -/
theorem collapseKeys_perm (hnd : (ms.map Prod.fst).Nodup) (hlow : ∀ p ∈ ms, Unicode.toLower p.1 = p.1) :
    (collapseKeys ms).Perm ms := by
  have hsort := List.mergeSort_perm ms fun a b => decide (a.1 ≤ b.1)
  unfold collapseKeys
  rw [foldl_upsert_fresh [] _ (by simpa using (hsort.map Prod.fst).nodup_iff.2 hnd)
    fun p hp => hlow p (hsort.subset hp)]
  simpa using hsort

/-- Collapsing keys that are already distinct and in lower case keeps every lookup. -/
theorem memberOf_collapseKeys (hnd : (ms.map Prod.fst).Nodup)
    (hlow : ∀ p ∈ ms, Unicode.toLower p.1 = p.1) : memberOf k (collapseKeys ms) = memberOf k ms :=
  memberOf_perm (collapseKeys_perm hnd hlow)
    ((collapseKeys_perm hnd hlow).symm.map Prod.fst |>.nodup_iff.1 hnd)

/-! ## Merging the file's sections into the root -/

theorem mergeKey_of_not_table {v : Setting} (hv : v.isTable = false) (r : Setting) :
    mergeKey k v r = table r.tableOrigin (upsertMember k v r.membersOrEmpty) := by
  cases v with
  | table => cases hv
  | leaf => rfl
  | list => rfl

/-- Merging members with fresh keys and no tables among them appends them. -/
theorem mergeMembers_fresh (o : Option String) (acc inc : List (String × Setting))
    (hnd : ((acc ++ inc).map Prod.fst).Nodup) (hleaf : ∀ p ∈ inc, p.2.isTable = false) :
    mergeMembers inc (table o acc) = table o (acc ++ inc) := by
  induction inc generalizing acc with
  | nil => simp [mergeMembers]
  | cons p inc ih =>
    obtain ⟨k', v'⟩ := p
    rw [mergeMembers, mergeKey_of_not_table (hleaf _ List.mem_cons_self)]
    simp only [tableOrigin, membersOrEmpty, upsertMember_fresh (not_mem_of_nodup_append hnd)]
    rw [ih _ (by simpa using hnd) fun q hq => hleaf q (List.mem_cons_of_mem _ hq)]
    simp

/-- A section merged under a key the root does not have yet. -/
theorem mergeKey_section {o o' : Option String} {acc inc : List (String × Setting)}
    (hk : k ∉ acc.map Prod.fst) (hnd : (inc.map Prod.fst).Nodup)
    (hleaf : ∀ p ∈ inc, p.2.isTable = false) :
    mergeKey k (table o inc) (table o' acc) = table o' (acc ++ [(k, table none inc)]) := by
  simp only [mergeKey, membersOrEmpty, tableOrigin, memberOf_eq_none hk, Option.getD_none]
  rw [mergeMembers_fresh none [] inc (by simpa using hnd) hleaf, upsertMember_fresh hk]
  simp

theorem setKey_of_word {r : Setting} (hp : parsePath k = some [.child k]) :
    setKey k v r = mergeKey k v r := by
  simp [setKey, setPath, hp]

/-- A section: a table whose members have distinct keys and are no tables. -/
def IsSection (v : Setting) : Prop :=
  ∃ o inc, v = table o inc ∧ (inc.map Prod.fst).Nodup ∧ ∀ p ∈ inc, p.2.isTable = false

/-- Setting sections under fresh plain keys puts each in the root as it is. -/
theorem foldl_setKey_sections (acc file : List (String × Setting))
    (hnd : ((acc ++ file).map Prod.fst).Nodup)
    (hword : ∀ p ∈ file, parsePath p.1 = some [.child p.1])
    (hsec : ∀ p ∈ file, IsSection p.2) :
    file.foldl (fun r (k, v) => setKey k v r) (table none acc) =
      table none (acc ++ file.map fun p => (p.1, table none p.2.membersOrEmpty)) := by
  induction file generalizing acc with
  | nil => simp
  | cons p file ih =>
    obtain ⟨k', v'⟩ := p
    obtain ⟨o, inc, rfl, hinc, hleaf⟩ := hsec _ List.mem_cons_self
    rw [List.foldl_cons]
    simp only
    rw [setKey_of_word (hword _ List.mem_cons_self),
      mergeKey_section (not_mem_of_nodup_append hnd) hinc hleaf,
      ih _ (by simpa using hnd) (fun q hq => hword q (List.mem_cons_of_mem _ hq))
        (fun q hq => hsec q (List.mem_cons_of_mem _ hq))]
    simp [membersOrEmpty]

/-- Without variables of the configuration's prefix the environment gives no settings. -/
theorem environmentSettings_eq_nil {env : List (String × String)}
    (henv : ∀ v ∈ env, ¬(Unicode.toLower v.1).startsWith "nearlink__") :
    environmentSettings env = [] := by
  unfold environmentSettings
  induction env with
  | nil => rfl
  | cons v env ih =>
    rw [List.foldl_cons]
    -- the variable is skipped, so the settings so far stay empty
    have hv := henv v List.mem_cons_self
    simp only [hv, Bool.not_false, if_true]
    exact ih fun w hw => henv w (List.mem_cons_of_mem _ hw)

/-- Without variables of the configuration's prefix only the file's settings are merged. -/
theorem merged_of_quiet (file : List (String × Setting)) {env : List (String × String)}
    (henv : ∀ v ∈ env, ¬(Unicode.toLower v.1).startsWith "nearlink__") :
    merged file env = file.foldl (fun r (k, v) => setKey k v r) (table none []) := by
  simp [merged, environmentSettings_eq_nil henv]

/-! ## TOML documents as settings -/

theorem ofTomlMembers_eq_map (o : Option String) (ms : List (String × TomlValue)) :
    ofTomlMembers o ms = ms.map fun p => (p.1, ofToml o p.2) := by
  induction ms with
  | nil => rfl
  | cons p ms ih => simp [ofTomlMembers, ih]

theorem isTable_ofToml (o : Option String) (v : TomlValue) :
    (ofToml o v).isTable = Toml.isTableItem v := by
  cases v <;> rfl

theorem ofTomlList_str (o : Option String) (xs : List String) :
    ofTomlList o (xs.map .str) = xs.map fun x => leaf o (.str x) := by
  induction xs with
  | nil => rfl
  | cons x xs ih => simp [ofTomlList, ofToml, ih]

end Setting

/-- A table as a configuration section is written: distinct keys in lower case, and no table
among the values. -/
structure FlatTable (ms : List (String × TomlValue)) : Prop where
  nodup : (ms.map Prod.fst).Nodup
  lower : ∀ p ∈ ms, Unicode.toLower p.1 = p.1
  flat : ∀ p ∈ ms, Toml.isTableItem p.2 = false

namespace FlatTable

variable {ms : List (String × TomlValue)}

theorem nodup_ofTomlMembers (h : FlatTable ms) (o : Option String) :
    ((Setting.ofTomlMembers o ms).map Prod.fst).Nodup := by
  rw [Setting.ofTomlMembers_eq_map, List.map_map]
  exact h.nodup

theorem lower_ofTomlMembers (h : FlatTable ms) (o : Option String) :
    ∀ p ∈ Setting.ofTomlMembers o ms, Unicode.toLower p.1 = p.1 := by
  rw [Setting.ofTomlMembers_eq_map]
  intro p hp
  obtain ⟨q, hq, rfl⟩ := List.mem_map.1 hp
  exact h.lower q hq

/-- A flat table keeps its lookups through the collapsing of its keys. -/
theorem memberOf_collapseKeys (h : FlatTable ms) (o : Option String) (k : String) :
    memberOf k (Setting.collapseKeys (Setting.ofTomlMembers o ms)) =
      memberOf k (Setting.ofTomlMembers o ms) :=
  Setting.memberOf_collapseKeys (h.nodup_ofTomlMembers o) (h.lower_ofTomlMembers o)

/-- A flat table reads as a section. -/
theorem isSection (h : FlatTable ms) (o : Option String) :
    Setting.IsSection (Setting.ofToml o (.table ms)) := by
  have hperm := Setting.collapseKeys_perm (h.nodup_ofTomlMembers o) (h.lower_ofTomlMembers o)
  refine ⟨o, _, rfl, (hperm.map Prod.fst).nodup_iff.2 (h.nodup_ofTomlMembers o), fun p hp => ?_⟩
  -- every member comes from a value of the table, and none of those is a table
  obtain ⟨q, hq, rfl⟩ := List.mem_map.1 (Setting.ofTomlMembers_eq_map o ms ▸ hperm.subset hp)
  rw [Setting.isTable_ofToml]
  exact h.flat q hq

end FlatTable

/-! ## Reading fields by name -/

namespace Setting

variable {o : Option String}

@[simp] theorem asString_str (t : String) : (leaf o (.str t)).asString = .ok t := rfl

@[simp] theorem asBool_bool (b : Bool) : (leaf o (.bool b)).asBool = .ok b := rfl

@[simp] theorem asUnsigned_nat (n : Nat) : (leaf o (.int n)).asUnsigned = .ok n := by
  simp [asUnsigned]

/-- A 32-bit number written as an integer reads back as itself. -/
theorem asUnsigned32_toNat (n : UInt32) : (leaf o (.int n.toNat)).asUnsigned32 = .ok n := by
  simp only [asUnsigned32, asUnsigned_nat, bind, Except.bind]
  rw [dif_pos n.toNat_lt]
  exact congrArg Except.ok (UInt32.ofNatLT_toNat n)

end Setting

namespace Config

@[simp] theorem readOptional_str (o : Option String) (t : String) :
    readOptional (.leaf o (.str t)) = .ok (some t) := rfl

theorem mapM_zipIdx_str (o : Option String) (xs : List String) (n : Nat) :
    ((xs.map fun x => Setting.leaf o (.str x)).zipIdx n).mapM
      (fun (x, i) => x.asString.mapError (ReadFault.underKey ("[" ++ toString i ++ "]"))) =
        .ok xs := by
  induction xs generalizing n with
  | nil => rfl
  | cons x xs ih =>
    simp only [List.map_cons, List.zipIdx_cons, List.mapM_cons, ih]
    rfl

/-- A list of texts written as TOML reads back as itself. -/
theorem readTexts_str (o o' : Option String) (xs : List String) :
    readTexts (.list o (Setting.ofTomlList o' (xs.map .str))) = .ok xs := by
  rw [readTexts, Setting.ofTomlList_str, mapM_zipIdx_str]

/-- The reader finds a field of a table by its name. -/
theorem readField_map {α : Type} (ms : List (String × Setting)) (name : String) (default : α)
    (read : Setting → Except ReadFault α) :
    readField (ms.map fun (k, v) => (k, k, v)) name default read =
      match memberOf name ms with
      | none => .ok default
      | some s => (read s).mapError (·.underKey name) := by
  induction ms with
  | nil => rfl
  | cons p ms ih =>
    obtain ⟨k, v⟩ := p
    by_cases h : k = name
    · subst h
      simp [readField, memberOf]
    · simp [readField, memberOf, h] at ih ⊢
      exact ih

section Congr

variable {o o' : Option String} {ms ms' : List (String × Setting)}

/-- Reading a section depends on its members only through their lookups. -/
theorem readDiscovery_congr (h : ∀ k, memberOf k ms = memberOf k ms') :
    readDiscovery (.table o ms) = readDiscovery (.table o' ms') := by
  simp only [readDiscovery, sectionMembers, bind, Except.bind, readField_map, h]

theorem readCredentials_congr (h : ∀ k, memberOf k ms = memberOf k ms') :
    readCredentials (.table o ms) = readCredentials (.table o' ms') := by
  simp only [readCredentials, sectionMembers, bind, Except.bind, readField_map, h]

theorem readSync_congr (h : ∀ k, memberOf k ms = memberOf k ms') :
    readSync (.table o ms) = readSync (.table o' ms') := by
  simp only [readSync, sectionMembers, bind, Except.bind, readField_map, h]

end Congr

/-! ## The sections of a configuration's document -/

-- With an optional member there or not, the keys of a section are fixed words: simp lays the
-- members out and `decide` checks the words.
theorem flatTable_discovery (d : DiscoveryConfig) : FlatTable d.tomlMembers := by
  cases h : d.fastAdvertisementServiceUuid <;>
    constructor <;> simp [DiscoveryConfig.tomlMembers, h, Toml.isTableItem] <;> decide

theorem flatTable_credentials (c : CredentialsConfig) : FlatTable c.tomlMembers := by
  cases h : c.dataDir <;>
    constructor <;> simp [CredentialsConfig.tomlMembers, h, Toml.isTableItem] <;> decide

theorem flatTable_sync (s : SyncConfig) : FlatTable s.tomlMembers := by
  cases h : s.baseUrl <;>
    constructor <;> simp [SyncConfig.tomlMembers, h, Toml.isTableItem] <;> decide

variable (o o' : Option String)

/-- The discovery section as written reads back as itself. -/
theorem readDiscovery_written (d : DiscoveryConfig) :
    readDiscovery (.table o (Setting.ofTomlMembers o' d.tomlMembers)) = .ok d := by
  obtain ⟨strategy, mediums, lowPower, alwaysOn, auto, enforce, interval, timeout, uuid⟩ := d
  -- an absent UUID is not written, and an absent field reads as its default, none
  cases uuid <;>
    simp [readDiscovery, sectionMembers, readField, DiscoveryConfig.tomlMembers,
      Setting.ofTomlMembers, Setting.ofToml, readTexts_str, Setting.asUnsigned32_toNat, bind, Except.bind, Except.mapError, pure, Except.pure]

theorem readCredentials_written (c : CredentialsConfig) :
    readCredentials (.table o (Setting.ofTomlMembers o' c.tomlMembers)) = .ok c := by
  obtain ⟨dataDir, managerAppId⟩ := c
  cases dataDir <;>
    simp [readCredentials, sectionMembers, readField, CredentialsConfig.tomlMembers,
      Setting.ofTomlMembers, Setting.ofToml, bind, Except.bind, Except.mapError, pure, Except.pure]

theorem readSync_written (s : SyncConfig) :
    readSync (.table o (Setting.ofTomlMembers o' s.tomlMembers)) = .ok s := by
  obtain ⟨baseUrl, timeoutSecs⟩ := s
  cases baseUrl <;>
    simp [readSync, sectionMembers, readField, SyncConfig.tomlMembers, Setting.ofTomlMembers,
      Setting.ofToml, bind, Except.bind, Except.mapError, pure, Except.pure]

/-- The document of a configuration whose numbers can be written. -/
theorem toToml_eq_ok {c : Config} {ms : List (String × TomlValue)} (h : c.toToml = .ok ms) :
    c.sync.timeoutSecs ≤ tomlIntMax ∧ ms = c.tomlDocument := by
  unfold toToml at h
  by_cases ht : c.sync.timeoutSecs > tomlIntMax
  · simp [ht, throw, throwThe, MonadExceptOf.throw] at h
  · simp only [ht, if_false] at h
    exact ⟨by omega, (Except.ok.inj h).symm⟩

/-! ## The document's settings merged into the root -/

section Document

variable (c : Config)

theorem keys_tomlDocument :
    (Setting.ofTomlMembers o c.tomlDocument).map Prod.fst = ["discovery", "credentials", "sync"] := by
  simp [tomlDocument, Setting.ofTomlMembers]

theorem nodup_tomlDocument : ((Setting.ofTomlMembers o c.tomlDocument).map Prod.fst).Nodup := by
  rw [keys_tomlDocument]
  decide

theorem lower_tomlDocument :
    ∀ p ∈ Setting.ofTomlMembers o c.tomlDocument, Unicode.toLower p.1 = p.1 := by
  have h : ∀ k ∈ ["discovery", "credentials", "sync"], Unicode.toLower k = k := by decide
  intro p hp
  exact h p.1 (keys_tomlDocument o c ▸ List.mem_map_of_mem hp)

/-- The root that the document's settings make when the environment adds none: each section
under its key, as it is. -/
theorem merged_tomlDocument {env : List (String × String)}
    (henv : ∀ v ∈ env, ¬(Unicode.toLower v.1).startsWith "nearlink__") :
    Setting.merged (Setting.collapseKeys (Setting.ofTomlMembers o c.tomlDocument)) env =
      .table none ((Setting.collapseKeys (Setting.ofTomlMembers o c.tomlDocument)).map
        fun p => (p.1, .table none p.2.membersOrEmpty)) := by
  have hperm := Setting.collapseKeys_perm (nodup_tomlDocument o c) (lower_tomlDocument o c)
  rw [Setting.merged_of_quiet _ henv, Setting.foldl_setKey_sections [] _
    (by simpa using (hperm.map Prod.fst).nodup_iff.2 (nodup_tomlDocument o c))]
  · simp
  · -- the section names are plain words, so each is a path of one key
    intro p hp
    have hk : p.1 ∈ ["discovery", "credentials", "sync"] :=
      keys_tomlDocument o c ▸ List.mem_map_of_mem (hperm.subset hp)
    simp only [List.mem_cons, List.not_mem_nil, or_false] at hk
    rcases hk with hk | hk | hk <;> rw [hk] <;> decide
  · intro p hp
    have hp' := hperm.subset hp
    simp only [tomlDocument, Setting.ofTomlMembers, List.mem_cons, List.not_mem_nil,
      or_false] at hp'
    rcases hp' with rfl | rfl | rfl
    · exact (flatTable_discovery _).isSection o
    · exact (flatTable_credentials _).isSection o
    · exact (flatTable_sync _).isSection o

/-- Every section of that root is found under its name as the document has it. -/
theorem memberOf_merged_tomlDocument (k : String) :
    memberOf k ((Setting.collapseKeys (Setting.ofTomlMembers o c.tomlDocument)).map
        fun p => (p.1, .table none p.2.membersOrEmpty)) =
      (memberOf k (Setting.ofTomlMembers o c.tomlDocument)).map
        fun s => .table none s.membersOrEmpty :=
  (memberOf_map (fun s => .table none s.membersOrEmpty) _).trans
    (by rw [Setting.memberOf_collapseKeys (nodup_tomlDocument o c) (lower_tomlDocument o c)])

end Document

/-- The settings of a configuration's document, from any origin, read back as the
configuration when no variable of the environment overrides them. -/
theorem gather_toToml {c : Config} {ms : List (String × TomlValue)} (hc : c.toToml = .ok ms)
    {env : List (String × String)}
    (henv : ∀ v ∈ env, ¬(Unicode.toLower v.1).startsWith "nearlink__") :
    gather (Setting.collapseKeys (Setting.ofTomlMembers o ms)) env = .ok c := by
  obtain ⟨-, rfl⟩ := toToml_eq_ok hc
  -- each section reads back through the collapsing of its keys
  have hd : readDiscovery (.table none
      (Setting.collapseKeys (Setting.ofTomlMembers o c.discovery.tomlMembers))) = .ok c.discovery :=
    (readDiscovery_congr ((flatTable_discovery c.discovery).memberOf_collapseKeys o)).trans
      (readDiscovery_written none o c.discovery)
  have hcr : readCredentials (.table none
      (Setting.collapseKeys (Setting.ofTomlMembers o c.credentials.tomlMembers))) =
        .ok c.credentials :=
    (readCredentials_congr ((flatTable_credentials c.credentials).memberOf_collapseKeys o)).trans
      (readCredentials_written none o c.credentials)
  have hs : readSync (.table none
      (Setting.collapseKeys (Setting.ofTomlMembers o c.sync.tomlMembers))) = .ok c.sync :=
    (readSync_congr ((flatTable_sync c.sync).memberOf_collapseKeys o)).trans
      (readSync_written none o c.sync)
  simp only [gather, merged_tomlDocument o c henv, ofSetting, sectionMembers, bind, Except.bind,
    readField_map, memberOf_merged_tomlDocument]
  simp [tomlDocument, Setting.ofTomlMembers, memberOf, Setting.ofToml, Setting.membersOrEmpty, hd,
    hcr, hs, Except.mapError, pure, Except.pure]

end Config

/-! ## Checking that a text reads back

`TomlValue` holds floats, so its equality cannot be decided; a document without floats can
still be compared member by member, which lets a closed instance of the round trip's
hypothesis on the text be checked by evaluation. -/

namespace TomlValue

mutual
/-- Whether two values are equal, comparing everything but floats; a float is never the same
as anything. -/
def sameAs : TomlValue → TomlValue → Bool
  | str a, b => match b with
    | str b => a == b
    | _ => false
  | int a, b => match b with
    | int b => a == b
    | _ => false
  | bool a, b => match b with
    | bool b => a == b
    | _ => false
  | datetime a, b => match b with
    | datetime b => a == b
    | _ => false
  | arr xs, b => match b with
    | arr ys => sameItems xs ys
    | _ => false
  | table xs, b => match b with
    | table ys => sameMembers xs ys
    | _ => false
  | float _, _ => false

/-- `sameAs` on the items of two arrays. -/
def sameItems : List TomlValue → List TomlValue → Bool
  | [], [] => true
  | x :: xs, y :: ys => sameAs x y && sameItems xs ys
  | _, _ => false

/-- `sameAs` on the members of two tables, keys included. -/
def sameMembers : List (String × TomlValue) → List (String × TomlValue) → Bool
  | [], [] => true
  | (k, x) :: xs, (l, y) :: ys => k == l && sameAs x y && sameMembers xs ys
  | _, _ => false
end

mutual
theorem eq_of_sameAs : (a b : TomlValue) → sameAs a b = true → a = b
  | str _, b, h => by cases b <;> simp_all [sameAs]
  | int _, b, h => by cases b <;> simp_all [sameAs]
  | bool _, b, h => by cases b <;> simp_all [sameAs]
  | datetime _, b, h => by cases b <;> simp_all [sameAs]
  | arr xs, b, h => by
    cases b with
    | arr ys => exact congrArg arr (eq_of_sameItems xs ys (by simpa [sameAs] using h))
    | _ => simp [sameAs] at h
  | table xs, b, h => by
    cases b with
    | table ys => exact congrArg table (eq_of_sameMembers xs ys (by simpa [sameAs] using h))
    | _ => simp [sameAs] at h
  | float _, _, h => by simp [sameAs] at h

theorem eq_of_sameItems : (xs ys : List TomlValue) → sameItems xs ys = true → xs = ys
  | [], [], _ => rfl
  | x :: xs, y :: ys, h => by
    simp only [sameItems, Bool.and_eq_true] at h
    rw [eq_of_sameAs x y h.1, eq_of_sameItems xs ys h.2]
  | [], _ :: _, h => by simp [sameItems] at h
  | _ :: _, [], h => by simp [sameItems] at h

theorem eq_of_sameMembers :
    (xs ys : List (String × TomlValue)) → sameMembers xs ys = true → xs = ys
  | [], [], _ => rfl
  | (k, x) :: xs, (l, y) :: ys, h => by
    simp only [sameMembers, Bool.and_eq_true, beq_iff_eq] at h
    rw [h.1.1, eq_of_sameAs x y h.1.2, eq_of_sameMembers xs ys h.2]
  | [], _ :: _, h => by simp [sameMembers] at h
  | _ :: _, [], h => by simp [sameMembers] at h
end

/-- Whether a text reads as a document the same as `ms`. -/
def readsBackAs (text : String) (ms : List (String × TomlValue)) : Bool :=
  match readTable text with
  | .ok ns => sameMembers ns ms
  | .error _ => false

theorem readTable_of_readsBackAs {text : String} {ms : List (String × TomlValue)}
    (h : readsBackAs text ms = true) : readTable text = .ok ms := by
  unfold readsBackAs at h
  split at h
  · next ns hns => rw [hns, eq_of_sameMembers ns ms h]
  · cases h

end TomlValue

namespace Config

/-! ## Saving and loading files -/

/-- A save that succeeds leaves the configuration's text in the file its path names. -/
theorem save_eq_ok {c : Config} {fs fs' : FileTree} {path : String} (h : c.save fs path = .ok fs') :
    ∃ ms, c.toToml = .ok ms ∧
      fs'.lookup (pathParts path) = some (.file (TomlValue.writeTable ms)) := by
  unfold save tomlText at h
  cases hd : fs.makeDirAll (pathParts path).dropLast with
  | error e => simp [hd, bind, Except.bind, Except.mapError] at h
  | ok t =>
    cases ht : c.toToml with
    | error m => simp [hd, ht, bind, Except.bind, Except.mapError] at h
    | ok ms =>
      cases hw : t.write (pathParts path) (TomlValue.writeTable ms) with
      | error e => simp [hd, ht, hw, bind, Except.bind, Except.mapError] at h
      | ok t' =>
        simp only [hd, ht, hw, bind, Except.bind, Except.mapError, Except.ok.injEq] at h
        subst h
        obtain ⟨hdir, rfl⟩ := FileTree.write_eq_ok hw
        -- a directory always stands at the root, so the written path is below it
        have hne : pathParts path ≠ [] := fun he => hdir (by simp [he, FileTree.lookup])
        exact ⟨ms, rfl, by simp [FileTree.lookup_update, hne]⟩

/-- A load of a path where a file stands reads that file's text. -/
theorem load_of_lookup {fs : FileTree} {path text : String}
    (hl : fs.lookup (pathParts path) = some (.file text)) (env : List (String × String))
    (cwd : String) :
    load fs env cwd path =
      (Setting.ofDocument (some (relativeTo cwd path)) text >>= fun file => gather file env).mapError
        fun e => .parseError e.message := by
  simp [load, build, findFile, hl]

/-- Loading what was saved gives the configuration back, when the environment has no
variable of the configuration's prefix and the TOML text of its document reads back as that
document. -/
theorem load_of_save {c : Config} {fs fs' : FileTree} {path : String}
    (hsave : c.save fs path = .ok fs')
    (htoml : ∀ ms, c.toToml = .ok ms → TomlValue.readTable (TomlValue.writeTable ms) = .ok ms)
    {env : List (String × String)}
    (henv : ∀ v ∈ env, ¬(Unicode.toLower v.1).startsWith "nearlink__") (cwd : String) :
    load fs' env cwd path = .ok c := by
  obtain ⟨ms, hc, hl⟩ := save_eq_ok hsave
  have hdoc : Setting.ofDocument (some (relativeTo cwd path)) (TomlValue.writeTable ms) =
      .ok (Setting.collapseKeys (Setting.ofTomlMembers (some (relativeTo cwd path)) ms)) := by
    simp [Setting.ofDocument, htoml ms hc]
  rw [load_of_lookup hl, hdoc]
  simp [bind, Except.bind, gather_toToml _ hc henv, Except.mapError]

/-- The configuration of a save-then-load run: one medium and a sync service. -/
def sample : Config :=
  { discovery := { mediums := ["WIFI_LAN"] },
    sync := { baseUrl := some "https://sync.example.com" } }

/-- The sample's document reads back from its text. -/
theorem sample_reads_back :
    ∀ ms, sample.toToml = .ok ms → TomlValue.readTable (TomlValue.writeTable ms) = .ok ms := by
  intro ms h
  obtain ⟨-, rfl⟩ := toToml_eq_ok h
  exact TomlValue.readTable_of_readsBackAs (by decide +kernel)

/-- Saving the sample two directories down an empty tree succeeds. -/
theorem save_sample : ∃ fs', sample.save .empty "/srv/nested/config.toml" = .ok fs' := by
  have hp : pathParts "/srv/nested/config.toml" = ["srv", "nested", "config.toml"] := by decide
  obtain ⟨t, hmk, ht⟩ := FileTree.makeDirAll_two FileTree.empty
    (Or.inl rfl : FileTree.empty.node ["srv"] = none ∨ _)
    (Or.inl rfl : FileTree.empty.node ["srv", "nested"] = none ∨ _)
  obtain ⟨ms, hms⟩ : ∃ ms, sample.toToml = .ok ms := ⟨_, rfl⟩
  let saved := t.update ["srv", "nested", "config.toml"] (some (.file (TomlValue.writeTable ms)))
  have hw : t.write ["srv", "nested", "config.toml"] (TomlValue.writeTable ms) = .ok saved :=
    FileTree.write_three t _ (by simp [ht]) (by simp [ht]) (by simp [ht, FileTree.empty])
  exact ⟨saved, by simp [save, hp, hmk, tomlText, hms, hw, bind, Except.bind, Except.mapError]⟩

/-- The round trip on the sample, saved two directories down an empty tree and loaded with
no environment variables. -/
theorem load_of_save_sample :
    ∃ fs', sample.save .empty "/srv/nested/config.toml" = .ok fs' ∧
      (∀ ms, sample.toToml = .ok ms → TomlValue.readTable (TomlValue.writeTable ms) = .ok ms) ∧
      load fs' [] "/srv" "/srv/nested/config.toml" = .ok sample := by
  obtain ⟨fs', h⟩ := save_sample
  exact ⟨fs', h, sample_reads_back, load_of_save h sample_reads_back (by simp) "/srv"⟩

end Config

end Proximity
