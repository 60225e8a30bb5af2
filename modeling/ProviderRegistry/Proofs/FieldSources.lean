import ProviderRegistry.Proofs.LineGrammar
import ProviderRegistry.Proofs.SettingsFields

/-! Where each field of loaded settings comes from. A variable that names the field decides on it; without
one the file does, and without that the default stands. Other fields have no part in this, with one
exception: a section that the file gives as a list is lost as a whole where a variable names anything in it,
since only tables are merged. -/

namespace ProviderRegistry

namespace Environment

theorem afterPrefix_append (p r : List Char) : afterPrefix p (p ++ r) = some r := by
  induction p with
  | nil => rfl
  | cons c p ih => rw [List.cons_append, afterPrefix, if_pos rfl, ih]

theorem suffix_of_afterPrefix {p cs r : List Char} (h : afterPrefix p cs = some r) : r <:+ cs := by
  induction p generalizing cs with
  | nil =>
    cases h
    exact List.suffix_rfl
  | cons c p ih =>
    cases cs with
    | nil => cases h
    | cons d cs =>
      rw [afterPrefix] at h
      split at h
      · exact (ih h).trans (List.suffix_cons d cs)
      · cases h

/-- A name without a point or a double underscore names no field of a section, whatever the prefix. -/
theorem pathOf?_ne_of_undivided {keyPrefix name part key : String}
    (h : ∀ r ∈ (Text.trim name.toList).tails,
      (Text.segments '.' (Text.trim (pointed r) ++ ['.'])).length ≤ 1) :
    pathOf? keyPrefix name ≠ some [part, key] := by
  intro hpath
  obtain ⟨r, hr, hparts⟩ := Option.bind_eq_some_iff.1 hpath
  have hlen := h r ((List.mem_tails _ _).2 (suffix_of_afterPrefix hr))
  simp only at hparts
  split at hparts
  · cases hparts
  · have hlist := congrArg List.length (Option.some.inj hparts)
    rw [List.length_map] at hlist
    simp only [List.length_cons, List.length_nil] at hlist
    omega

/-- Each variable that names something in a section names a field of it, no two the same one. -/
def FieldWise (keyPrefix : String) (environment : List (String × String)) : Prop :=
  ∀ part ∈ ["logging", "discovery"], NamesFields keyPrefix part environment

end Environment

namespace SettingsLoader

variable {l : SettingsLoader} {s : Surroundings} {v : String × String} {part key : String}

theorem document?_of_variable (hv : Environment.pathOf? (l.envPrefix ++ "_") v.1 = some [part, key]) :
    l.document? ⟨s.files, v :: s.environment⟩ = l.document? s := by
  have hvalue : ∀ name ∈ ["XDG_CONFIG_HOME", "HOME"],
      Surroundings.valueOf? ⟨s.files, v :: s.environment⟩ name = s.valueOf? name := by
    intro name hname
    have hne : (name == v.1) = false := by
      rw [beq_eq_false_iff_ne]
      rintro rfl
      refine Environment.pathOf?_ne_of_undivided ?_ hv
      simp only [List.mem_cons, List.not_mem_nil, or_false] at hname
      rcases hname with hname | hname <;> rw [hname] <;> decide +kernel
    rw [Surroundings.valueOf?, List.lookup_cons, hne]
    rfl
  have hdirectory : Surroundings.settingsDirectory? ⟨s.files, v :: s.environment⟩ = s.settingsDirectory? := by
    simp only [Surroundings.settingsDirectory?, hvalue "XDG_CONFIG_HOME" (by simp), hvalue "HOME" (by simp)]
  have hchoose : l.choose ⟨s.files, v :: s.environment⟩ = l.choose s := by
    simp only [choose, Surroundings.defaultPaths, hdirectory]
  simp only [document?, hchoose]

theorem section?_of_variable (hv : Environment.pathOf? (l.envPrefix ++ "_") v.1 = some [part, key])
    (name : String) : l.section? ⟨s.files, v :: s.environment⟩ name = l.section? s name := by
  rw [section?, document?_of_variable hv, section?]

end SettingsLoader

namespace SettingsField

open Environment (names field? pathOf?)

variable {α : Type} {f : SettingsField α} {l : SettingsLoader} {s : Surroundings}

def nameEnd (f : SettingsField α) : String := f.part.map Char.toUpper ++ "__" ++ f.key.map Char.toUpper

def variableName (f : SettingsField α) (envPrefix : String) : String := envPrefix ++ "_" ++ f.nameEnd

/-- The end of the name is not white space, so a prefix that does not begin with it is kept as it is. -/
theorem trim_variableName (f : SettingsField α) {envPrefix : String}
    (h : ∀ c ∈ envPrefix.toList.head?, ¬Text.isBlank c) :
    Text.trim (f.variableName envPrefix).toList = (f.variableName envPrefix).toList := by
  have hname : (f.variableName envPrefix).toList = envPrefix.toList ++ '_' :: f.nameEnd.toList := by
    simp [variableName]
  have hhead : ∀ c ∈ (f.variableName envPrefix).toList.head?, ¬Text.isBlank c := by
    intro c hc
    rw [hname] at hc
    cases hp : envPrefix.toList with
    | nil =>
      rw [hp, List.nil_append, List.head?_cons, Option.mem_some_iff] at hc
      rw [← hc]
      decide
    | cons d r =>
      rw [hp, List.cons_append] at hc
      exact h c (by rwa [hp])
  have hlast : ∀ c ∈ (f.variableName envPrefix).toList.getLast?, ¬Text.isBlank c := by
    intro c hc
    have hend : f.nameEnd.toList.getLast?.any (!Text.isBlank ·) := by
      cases f <;> decide +kernel
    obtain ⟨d, hd, hblank⟩ := (Option.any_eq_true _ _).1 hend
    rw [hname, List.getLast?_append, List.getLast?_cons, hd, Option.getD_some, Option.some_or,
      Option.mem_some_iff] at hc
    simpa [← hc] using hblank
  have htrim : Text.trim ([] ++ (f.variableName envPrefix).toList ++ []) = (f.variableName envPrefix).toList :=
    Text.trim_append nofun nofun hhead hlast
  rwa [List.nil_append, List.append_nil] at htrim

theorem pathOf?_variableName (f : SettingsField α) {envPrefix : String}
    (h : ∀ c ∈ envPrefix.toList.head?, ¬Text.isBlank c) :
    pathOf? (envPrefix ++ "_") (f.variableName envPrefix) = some [f.part, f.key] := by
  have hafter : Environment.afterPrefix (envPrefix ++ "_").toList (f.variableName envPrefix).toList =
      some f.nameEnd.toList := by
    have hsplit : (f.variableName envPrefix).toList = (envPrefix ++ "_").toList ++ f.nameEnd.toList :=
      String.toList_append
    rw [hsplit, Environment.afterPrefix_append]
  rw [pathOf?, f.trim_variableName h, hafter]
  cases f <;> decide +kernel

/-- What the variables set the field to. -/
def inEnvironment (f : SettingsField α) (l : SettingsLoader) (s : Surroundings) : Option SettingValue :=
  field? (l.envPrefix ++ "_") f.part f.key s.environment

/-- What the file sets the field to: by its name in the table of the section, or by its place in a list that
no variable takes the place of. -/
def inFile (f : SettingsField α) (l : SettingsLoader) (s : Surroundings) : Option SettingValue :=
  match l.section? s f.part with
  | some (.table _ es) => Keyed.get? f.key es
  | some (.list _ items) =>
    if names (l.envPrefix ++ "_") f.part s.environment then none else items[f.position]?
  | _ => none

theorem part_mem (f : SettingsField α) : f.part ∈ ["logging", "discovery"] := by
  cases f <;> decide

theorem inFile_of_not_names (h : ¬names (l.envPrefix ++ "_") f.part s.environment) :
    f.inFile l s = (l.section? s f.part).bind f.within := by
  unfold inFile
  rcases l.section? s f.part with _ | _ | _ | _
  · rfl
  · rfl
  · exact if_neg h
  · rfl

theorem resolve_of_named {a : α} {es : SettingTable} (hes : Keyed.Sorted es)
    (hn : names (l.envPrefix ++ "_") f.part s.environment) {o : Origin}
    (h : f.resolve (f.within ((SettingValue.table o es).onto (l.section? s f.part))) = some a) :
    f.resolve ((Keyed.get? f.key es).or (f.inFile l s)) = some a := by
  by_cases htable : ∃ o es, l.section? s f.part = some (.table o es)
  · obtain ⟨o', es', hs⟩ := htable
    rw [hs, SettingValue.table_onto_table, within, SettingValue.get?_entriesOver hes] at h
    rw [inFile, hs]
    exact resolve_of_onto h
  · -- what is no table is lost under the variables
    have hnone : f.inFile l s = none := by
      unfold inFile
      rcases hs : l.section? s f.part with _ | _ | _ | _
      · rfl
      · rfl
      · exact if_pos hn
      · exact absurd ⟨_, _, hs⟩ htable
    rw [SettingValue.onto_of_not_table fun o es ho => htable ⟨o, es, ho⟩] at h
    rwa [hnone, Option.or_none]

/-- In loaded settings a field is what the variable that names it stands for, or else what the file sets it
to, or else its default. -/
theorem resolve_of_load {c : Settings} (hv : Environment.FieldWise (l.envPrefix ++ "_") s.environment)
    (h : (l.load s).1 = .ok c) (f : SettingsField α) :
    f.resolve ((f.inEnvironment l s).or (f.inFile l s)) = some (f.of c) := by
  obtain ⟨-, t, hm, hd⟩ := SettingsLoader.load_eq_ok h
  obtain ⟨file, hfile, rfl⟩ := SettingsLoader.merged_eq_ok hm
  have hres := resolve_of_decode hd f
  rw [SettingValue.get?_entriesOver (Environment.sorted_settings _ _), hfile.get?] at hres
  obtain ⟨es, hes, hno, hyes, hget⟩ := (hv f.part f.part_mem).settings
  by_cases hn : names (l.envPrefix ++ "_") f.part s.environment
  · rw [hyes hn, Option.map_some, Option.some_or, Option.bind_some] at hres
    rw [inEnvironment, ← hget]
    exact resolve_of_named hes hn hres
  · rw [hno hn, Option.map_none, Option.none_or] at hres
    rwa [inEnvironment, Environment.field?_of_not_names hn, Option.none_or, inFile_of_not_names hn]

theorem inFile_of_table {c : Settings} (h : (l.load s).1 = .ok c) {o : Origin}
    {doc es : List (String × Toml.Value)} (hd : l.document? s = some (o, doc))
    (hes : doc.lookup f.part = some (.table es)) (hw : es.lookup SettingValue.wrappedKey = none) :
    f.inFile l s = (es.lookup f.key).bind (SettingValue.ofToml? o) := by
  obtain ⟨-, t, hm, -⟩ := SettingsLoader.load_eq_ok h
  obtain ⟨file, hfile, -⟩ := SettingsLoader.merged_eq_ok hm
  rw [SettingsLoader.Gives, hd] at hfile
  obtain ⟨before, after, hdoc, -⟩ := List.lookup_eq_some_iff.1 hes
  have htaken := SettingValue.taken_of_ofEntries? hfile (f.part, .table es) (by simp [hdoc])
  obtain ⟨v, hv⟩ := Option.isSome_iff_exists.1 htaken
  obtain ⟨t, rfl, hget⟩ := SettingValue.ofToml?_of_unwrapped hv hw
  have hsection : l.section? s f.part = some (.table o t) := by
    rw [SettingsLoader.section?, hd, Option.bind_some, hes, Option.bind_some, hv]
  rw [inFile, hsection, ← hget]

/-- A variable that names another field leaves the field to the sources that it had, unless the file gives
the section of both as a list. -/
theorem sources_of_other {v : String × String} {part key : String}
    (hv : pathOf? (l.envPrefix ++ "_") v.1 = some [part, key]) (hne : [part, key] ≠ [f.part, f.key])
    (hlist : part = f.part → ∀ o items, l.section? s f.part ≠ some (.list o items)) :
    f.inEnvironment l ⟨s.files, v :: s.environment⟩ = f.inEnvironment l s ∧
      f.inFile l ⟨s.files, v :: s.environment⟩ = f.inFile l s := by
  have hsection := SettingsLoader.section?_of_variable (s := s) hv f.part
  refine ⟨?_, ?_⟩
  · have hno : ¬pathOf? (l.envPrefix ++ "_") v.1 = some [f.part, f.key] := by
      rw [hv, Option.some.injEq]
      exact hne
    rw [inEnvironment, field?, List.find?_cons_of_neg (by simpa using hno)]
    rfl
  · have hnames : names (l.envPrefix ++ "_") f.part (v :: s.environment) ↔
        part = f.part ∨ names (l.envPrefix ++ "_") f.part s.environment := by
      simp [names, hv]
    unfold inFile
    rw [hsection]
    rcases hs : l.section? s f.part with _ | _ | ⟨o, items⟩ | _
    · rfl
    · rfl
    · have hpart : part ≠ f.part := fun hp => hlist hp o items hs
      simp only [hnames, hpart, false_or]
    · rfl

end SettingsField

namespace SettingsLoader

/-- Loaded settings keep to the rules, and each field is what the variable that names it stands for, or else
what the file sets it to, or else its default. The variable of a field is found by its name. In a section
that is a table the file sets the field by its name there, and what else stands beside it has no part in the
field; nor has a variable that names another field, unless the file gives the section of both as a list. -/
theorem loaded_field_by_field (l : SettingsLoader) (s : Surroundings) (c : Settings)
    (hv : Environment.FieldWise (l.envPrefix ++ "_") s.environment) (h : (l.load s).1 = .ok c) :
    c.Valid s.files ∧ ∀ {α : Type} (f : SettingsField α),
      f.resolve ((f.inEnvironment l s).or (f.inFile l s)) = some (f.of c) ∧
      (∀ text, (f.variableName l.envPrefix, text) ∈ s.environment →
        (∀ b ∈ l.envPrefix.toList.head?, ¬Text.isBlank b) →
          f.inEnvironment l s = some (Environment.valueOf (.environment (l.envPrefix ++ "_")) text)) ∧
      (∀ o doc es, l.document? s = some (o, doc) → doc.lookup f.part = some (.table es) →
        es.lookup SettingValue.wrappedKey = none →
          f.inFile l s = (es.lookup f.key).bind (SettingValue.ofToml? o) ∧
          ∀ files c' doc' es', l.document? ⟨files, s.environment⟩ = some (o, doc') →
            doc'.lookup f.part = some (.table es') → es'.lookup SettingValue.wrappedKey = none →
              es'.lookup f.key = es.lookup f.key → (l.load ⟨files, s.environment⟩).1 = .ok c' →
                f.of c' = f.of c) ∧
      ∀ v c' part key, Environment.pathOf? (l.envPrefix ++ "_") v.1 = some [part, key] →
        [part, key] ≠ [f.part, f.key] →
          (part = f.part → ∀ o items, l.section? s f.part ≠ some (.list o items)) →
            Environment.FieldWise (l.envPrefix ++ "_") (v :: s.environment) →
              (l.load ⟨s.files, v :: s.environment⟩).1 = .ok c' → f.of c' = f.of c := by
  obtain ⟨hvalid, -⟩ := load_eq_ok h
  refine ⟨hvalid, fun {α} f => ?_⟩
  have hres := f.resolve_of_load hv h
  -- a run with the same sources for the field comes to the same
  have hsame : ∀ (s' : Surroundings) (c' : Settings),
      Environment.FieldWise (l.envPrefix ++ "_") s'.environment → (l.load s').1 = .ok c' →
        f.inEnvironment l s' = f.inEnvironment l s → f.inFile l s' = f.inFile l s → f.of c' = f.of c := by
    intro s' c' hv' h' henv hfile
    have hres' := f.resolve_of_load hv' h'
    rw [henv, hfile, hres] at hres'
    exact (Option.some.inj hres').symm
  refine ⟨hres, fun text hx hb => ?_, ?_, ?_⟩
  · have henv := (hv f.part f.part_mem).field?_eq hx (f.pathOf?_variableName hb)
    exact henv
  · intro o doc es hd hes hw
    have hfile := f.inFile_of_table h hd hes hw
    refine ⟨hfile, fun files c' doc' es' hd' hes' hw' hkey h' => hsame ⟨files, s.environment⟩ c' hv h' rfl ?_⟩
    rw [f.inFile_of_table h' hd' hes' hw', hkey, hfile]
  · intro v c' part key hpath hne hlist hv' h'
    obtain ⟨henv, hfile⟩ := f.sources_of_other hpath hne hlist
    exact hsame _ c' hv' h' henv hfile

theorem fieldWise_singleton {keyPrefix : String} {v : String × String} {part key : String}
    (hv : Environment.pathOf? keyPrefix v.1 = some [part, key]) : Environment.FieldWise keyPrefix [v] := by
  refine fun part' _ => ⟨fun w hw path hpath => ?_, List.pairwise_singleton _ _⟩
  rw [List.mem_singleton.1 hw, hv] at hpath
  cases hpath
  exact ⟨key, rfl⟩

def own : SettingsLoader := ⟨some "extreg.toml", "EXTREG"⟩

def ownFile (text : String) : FileTree :=
  (FileTree.ofCwd ["app"]).put ["app", "extreg.toml"] (.file text.toUTF8)

def partFilled : String :=
  "[logging]\nlevel = \"warn\"\ncolour = true\n[discovery]\nsearch_paths = [\"a\", \"b\"]\n"

/-- The variable's list takes the place of the one in the file, and the other fields stay as the file and the
defaults have them. -/
theorem loaded_field_by_field_part :
    let v := ("EXTREG_DISCOVERY__SEARCH_PATHS", "[c]")
    let s : Surroundings := ⟨ownFile partFilled, []⟩
    ∃ c c', (own.load s).1 = .ok c ∧ (own.load ⟨s.files, [v]⟩).1 = .ok c' ∧ c'.Valid s.files ∧
      c.discovery.searchPaths = ["a", "b"] ∧ c'.discovery.searchPaths = ["c"] ∧
      c'.discovery.embedded = true ∧ c.logging.level = "warn" ∧ c'.logging.level = c.logging.level := by
  intro v s
  have hv : Environment.pathOf? (own.envPrefix ++ "_") v.1 = some ["discovery", "search_paths"] := by
    decide +kernel
  have hnone : Environment.FieldWise (own.envPrefix ++ "_") s.environment := fun _ _ => ⟨nofun, .nil⟩
  have hone : Environment.FieldWise (own.envPrefix ++ "_") [v] := fieldWise_singleton hv
  obtain ⟨c, hc⟩ : ∃ c, (own.load s).1 = .ok c :=
    ⟨⟨⟨"warn", false, none, 7⟩, ⟨true, ["a", "b"]⟩⟩, by decide +kernel⟩
  obtain ⟨c', hc'⟩ : ∃ c', (own.load ⟨s.files, [v]⟩).1 = .ok c' :=
    ⟨⟨⟨"warn", false, none, 7⟩, ⟨true, ["c"]⟩⟩, by decide +kernel⟩
  obtain ⟨-, hfields⟩ := loaded_field_by_field own s c hnone hc
  obtain ⟨hvalid, hfields'⟩ := loaded_field_by_field own ⟨s.files, [v]⟩ c' hone hc'
  have hfield {α : Type} {f : SettingsField α} {v? : Option SettingValue} {c : Settings} {a : α}
      (h : f.resolve v? = some (f.of c)) (ha : f.resolve v? = some a) : f.of c = a :=
    Option.some.inj (h.symm.trans ha)
  have hlevel : c'.logging.level = c.logging.level :=
    (hfields .level).2.2.2 v c' _ _ hv (by decide) (fun he => absurd he (by decide)) hone hc'
  exact ⟨c, c', hc, hc', hvalid, hfield (hfields .searchPaths).1 (by decide +kernel),
    hfield (hfields' .searchPaths).1 (by decide +kernel), hfield (hfields' .embedded).1 (by decide +kernel),
    hfield (hfields .level).1 (by decide +kernel), hlevel⟩

/-- A section that the file gives as a list is lost under a variable for one of its fields, and the others
are the defaults again; a key that no field has stands for the whole section where it wraps a value; and a
prefix with white space before it is the prefix of no variable. -/
theorem one_field_takes_others :
    let v := ("EXTREG_LOGGING__MAX_FILES", "3")
    let listed := ownFile "logging = [\"debug\", true]\n"
    let wrapped := ownFile "[logging]\nlevel = \"warn\"\n[logging.___figment_value_value]\nlevel = \"debug\"\n"
    Environment.FieldWise "EXTREG_" [v] ∧
    (own.load ⟨listed, []⟩).1 = .ok ⟨⟨"debug", true, none, 7⟩, .default⟩ ∧
    (own.load ⟨listed, [v]⟩).1 = .ok ⟨⟨"info", false, none, 3⟩, .default⟩ ∧
    (own.load ⟨wrapped, []⟩).1 = .ok ⟨⟨"debug", false, none, 7⟩, .default⟩ ∧
    (load ⟨none, " X"⟩ ⟨FileTree.ofCwd ["app"], [(" X_LOGGING__LEVEL", "debug")]⟩).1 = .ok .default := by
  have hv : Environment.pathOf? "EXTREG_" "EXTREG_LOGGING__MAX_FILES" = some ["logging", "max_files"] := by
    decide +kernel
  exact ⟨fieldWise_singleton hv, by decide +kernel, by decide +kernel, by decide +kernel, by decide +kernel⟩

end SettingsLoader

end ProviderRegistry
