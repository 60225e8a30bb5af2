import ProviderRegistry.Proofs.MergedTables
import ProviderRegistry.Proofs.SavedSettings

/-! The settings told by their fields. Each field is looked up by itself: by its name in the table of its
section, or by its place where the section is a list. What a field has in the merged sources is what the
environment names it, or else what the file sets it to. -/

namespace ProviderRegistry

theorem Except.bind_eq_ok_iff {ε α β : Type} {x : Except ε α} {f : α → Except ε β} {b : β} :
    (x >>= f) = .ok b ↔ ∃ a, x = .ok a ∧ f a = .ok b := by
  cases x with
  | error e => exact ⟨nofun, fun ⟨_, h, _⟩ => nomatch h⟩
  | ok a => exact ⟨fun h => ⟨a, rfl, h⟩, fun ⟨_, h, h'⟩ => by cases h; exact h'⟩

theorem Except.map_eq_ok_iff {ε α β : Type} {x : Except ε α} {f : α → β} {b : β} :
    x.map f = .ok b ↔ ∃ a, x = .ok a ∧ f a = b := by
  cases x <;> simp [Except.map]

def SettingValue.text? : SettingValue → Option String
  | .scalar _ (.text s) => some s
  | _ => none

def SettingValue.flag? : SettingValue → Option Bool
  | .scalar _ (.flag b) => some b
  | _ => none

/-- A field of the settings, by the type of what it is set to. -/
inductive SettingsField : Type → Type
  | level : SettingsField String
  | jsonFormat : SettingsField Bool
  | fileOutput : SettingsField (Option String)
  | maxFiles : SettingsField Nat
  | embedded : SettingsField Bool
  | searchPaths : SettingsField (List String)

namespace SettingsField

variable {α : Type}

def part : SettingsField α → String
  | level | jsonFormat | fileOutput | maxFiles => "logging"
  | embedded | searchPaths => "discovery"

def key : SettingsField α → String
  | level => "level"
  | jsonFormat => "json_format"
  | fileOutput => "file_output"
  | maxFiles => "max_files"
  | embedded => "embedded"
  | searchPaths => "search_paths"

def position : SettingsField α → Nat
  | level => 0
  | jsonFormat => 1
  | fileOutput => 2
  | maxFiles => 3
  | embedded => 0
  | searchPaths => 1

def of : SettingsField α → Settings → α
  | level, c => c.logging.level
  | jsonFormat, c => c.logging.jsonFormat
  | fileOutput, c => c.logging.fileOutput
  | maxFiles, c => c.logging.maxFiles
  | embedded, c => c.discovery.embedded
  | searchPaths, c => c.discovery.searchPaths

def read : SettingsField α → SettingValue → Option α
  | level, v => v.text?
  | jsonFormat, v => v.flag?
  | fileOutput, v => v.text?.map some
  | maxFiles, .scalar _ (.unsigned n) => some n
  | maxFiles, .scalar _ (.signed n) => if 0 ≤ n then some n.toNat else none
  | embedded, v => v.flag?
  | searchPaths, .list _ items => items.mapM SettingValue.text?
  | _, _ => none

def resolve (f : SettingsField α) : Option SettingValue → Option α
  | some v => f.read v
  | none => some (f.of .default)

def within (f : SettingsField α) : SettingValue → Option SettingValue
  | .table _ es => Keyed.get? f.key es
  | .list _ items => items[f.position]?
  | .scalar _ _ => none

def decoder : SettingsField α → Decoder α
  | level => Decoder.text "a string"
  | jsonFormat => Decoder.flag
  | fileOutput => fun path v => (Decoder.path path v).map some
  | maxFiles => Decoder.count
  | embedded => Decoder.flag
  | searchPaths => Decoder.list Decoder.path

end SettingsField

namespace Decoder

variable {path : List String} {v : SettingValue}

theorem text?_of_text {expected s : String} (h : text expected path v = .ok s) : v.text? = some s := by
  unfold text at h
  split at h
  · exact congrArg some (Except.ok.inj h)
  · cases h

theorem flag?_of_flag {b : Bool} (h : flag path v = .ok b) : v.flag? = some b := by
  unfold flag at h
  split at h
  · exact congrArg some (Except.ok.inj h)
  · cases h

theorem texts_of_items {n : Nat} {items : List SettingValue} {l : List String}
    (h : itemsFrom Decoder.path path n items = .ok l) : items.mapM SettingValue.text? = some l := by
  induction items generalizing n l with
  | nil =>
    cases h
    rfl
  | cons v items ih =>
    rw [itemsFrom] at h
    split at h
    · cases h
    · rename_i s hv
      obtain ⟨r, hr, rfl⟩ := Except.map_eq_ok_iff.1 h
      rw [List.mapM_cons, text?_of_text hv, ih hr]
      rfl

variable {α : Type} {d : Decoder α} {default a : α}

theorem field_eq_ok {name : String} {es : SettingTable} (h : field d name default path es = .ok a) :
    (Keyed.get? name es = none ∧ a = default) ∨
      ∃ v, Keyed.get? name es = some v ∧ d (path ++ [name]) v = .ok a := by
  unfold field at h
  cases hv : Keyed.get? name es with
  | none =>
    rw [hv] at h
    exact .inl ⟨rfl, (Except.ok.inj h).symm⟩
  | some v =>
    rw [hv] at h
    exact .inr ⟨v, rfl, h⟩

theorem position_eq_ok {n : Nat} {items : List SettingValue} (h : position d n default path items = .ok a) :
    (items[n]? = none ∧ a = default) ∨ ∃ v, items[n]? = some v ∧ d (path ++ [toString n]) v = .ok a := by
  unfold position at h
  cases hv : items[n]? with
  | none =>
    rw [hv] at h
    exact .inl ⟨rfl, (Except.ok.inj h).symm⟩
  | some v =>
    rw [hv] at h
    exact .inr ⟨v, rfl, h⟩

end Decoder

namespace SettingsField

variable {α : Type} {f : SettingsField α} {path : List String} {v : SettingValue} {a : α}

theorem read_of_decoded (h : f.decoder path v = .ok a) : f.read v = some a := by
  cases f with
  | level => exact Decoder.text?_of_text h
  | jsonFormat => exact Decoder.flag?_of_flag h
  | fileOutput =>
    obtain ⟨s, hs, rfl⟩ := Except.map_eq_ok_iff.1 h
    exact congrArg (Option.map some) (Decoder.text?_of_text hs)
  | maxFiles =>
    simp only [decoder, Decoder.count] at h
    split at h
    · exact congrArg some (Except.ok.inj h)
    · split at h
      · rename_i hn
        cases h
        exact if_pos hn
      · cases h
    · cases h
  | embedded => exact Decoder.flag?_of_flag h
  | searchPaths =>
    simp only [decoder, Decoder.list] at h
    split at h
    · exact Decoder.texts_of_items h
    · cases h

theorem resolve_of_field {es : SettingTable}
    (h : Decoder.field f.decoder f.key (f.of .default) path es = .ok a) :
    f.resolve (Keyed.get? f.key es) = some a := by
  rcases Decoder.field_eq_ok h with ⟨hv, rfl⟩ | ⟨v, hv, h⟩
  · rw [hv, resolve]
  · rw [hv, resolve, read_of_decoded h]

theorem resolve_of_position {items : List SettingValue}
    (h : Decoder.position f.decoder f.position (f.of .default) path items = .ok a) :
    f.resolve items[f.position]? = some a := by
  rcases Decoder.position_eq_ok h with ⟨hv, rfl⟩ | ⟨v, hv, h⟩
  · rw [hv, resolve]
  · rw [hv, resolve, read_of_decoded h]

theorem resolve_of_logging {l : LoggingSettings} (h : Decoder.logging path v = .ok l) (d : DiscoverySettings)
    (hf : f.part = "logging") : f.resolve (f.within v) = some (f.of ⟨l, d⟩) := by
  cases v with
  | scalar o s => cases h
  | list o items =>
    simp only [Decoder.logging, Except.bind_eq_ok_iff] at h
    obtain ⟨level, hlevel, jsonFormat, hjson, fileOutput, houtput, maxFiles, hmax, h⟩ := h
    cases h
    cases f with
    | level => exact resolve_of_position (f := .level) hlevel
    | jsonFormat => exact resolve_of_position (f := .jsonFormat) hjson
    | fileOutput => exact resolve_of_position (f := .fileOutput) houtput
    | maxFiles => exact resolve_of_position (f := .maxFiles) hmax
    | embedded | searchPaths => exact absurd hf (by decide)
  | table o es =>
    simp only [Decoder.logging, Except.bind_eq_ok_iff] at h
    obtain ⟨fileOutput, houtput, jsonFormat, hjson, level, hlevel, maxFiles, hmax, h⟩ := h
    cases h
    cases f with
    | level => exact resolve_of_field (f := .level) hlevel
    | jsonFormat => exact resolve_of_field (f := .jsonFormat) hjson
    | fileOutput => exact resolve_of_field (f := .fileOutput) houtput
    | maxFiles => exact resolve_of_field (f := .maxFiles) hmax
    | embedded | searchPaths => exact absurd hf (by decide)

theorem resolve_of_discovery {d : DiscoverySettings} (h : Decoder.discovery path v = .ok d)
    (l : LoggingSettings) (hf : f.part = "discovery") : f.resolve (f.within v) = some (f.of ⟨l, d⟩) := by
  cases v with
  | scalar o s => cases h
  | list o items =>
    simp only [Decoder.discovery, Except.bind_eq_ok_iff] at h
    obtain ⟨embedded, hembedded, searchPaths, hpaths, h⟩ := h
    cases h
    cases f with
    | embedded => exact resolve_of_position (f := .embedded) hembedded
    | searchPaths => exact resolve_of_position (f := .searchPaths) hpaths
    | level | jsonFormat | fileOutput | maxFiles => exact absurd hf (by decide)
  | table o es =>
    simp only [Decoder.discovery, Except.bind_eq_ok_iff] at h
    obtain ⟨embedded, hembedded, searchPaths, hpaths, h⟩ := h
    cases h
    cases f with
    | embedded => exact resolve_of_field (f := .embedded) hembedded
    | searchPaths => exact resolve_of_field (f := .searchPaths) hpaths
    | level | jsonFormat | fileOutput | maxFiles => exact absurd hf (by decide)

theorem resolve_of_decode {t : SettingTable} {c : Settings} (h : Settings.decode t = .ok c)
    (f : SettingsField α) : f.resolve ((Keyed.get? f.part t).bind f.within) = some (f.of c) := by
  rw [Settings.decode, Except.bind_eq_ok_iff] at h
  obtain ⟨d, hd, h⟩ := h
  rw [Except.bind_eq_ok_iff] at h
  obtain ⟨l, hl, h⟩ := h
  cases h
  have hpart : f.part = "logging" ∨ f.part = "discovery" := by cases f <;> decide
  rcases hpart with hpart | hpart <;> rw [hpart]
  · rcases Decoder.field_eq_ok hl with ⟨hv, rfl⟩ | ⟨v, hv, hl⟩
    · rw [hv]
      cases f with
      | level | jsonFormat | fileOutput | maxFiles => rfl
      | embedded | searchPaths => exact absurd hpart (by decide)
    · rw [hv]
      exact resolve_of_logging hl d hpart
  · rcases Decoder.field_eq_ok hd with ⟨hv, rfl⟩ | ⟨v, hv, hd⟩
    · rw [hv]
      cases f with
      | level | jsonFormat | fileOutput | maxFiles => exact absurd hpart (by decide)
      | embedded | searchPaths => rfl
    · rw [hv]
      exact resolve_of_discovery hd l hpart

theorem read_table (f : SettingsField α) (o : Origin) (es : SettingTable) : f.read (.table o es) = none := by
  cases f <;> rfl

/-- No field is read from a table, so what a field is read from stands as it is over what was there. -/
theorem read_of_onto {old? : Option SettingValue} (h : f.read (v.onto old?) = some a) :
    f.read v = some a := by
  by_cases hold : ∃ o es, old? = some (.table o es)
  · obtain ⟨o', es', rfl⟩ := hold
    cases v with
    | scalar o s => rwa [SettingValue.not_table_onto (by simp)] at h
    | list o items => rwa [SettingValue.not_table_onto (by simp)] at h
    | table o es =>
      rw [SettingValue.table_onto_table, read_table] at h
      cases h
  · rwa [SettingValue.onto_of_not_table fun o es ho => hold ⟨o, es, ho⟩] at h

theorem resolve_of_onto {v? old? : Option SettingValue}
    (h : f.resolve ((v?.map (·.onto old?)).or old?) = some a) : f.resolve (v?.or old?) = some a := by
  cases v? with
  | none => exact h
  | some v => exact read_of_onto h

end SettingsField

namespace SettingValue

variable {o : Origin} {es : List (String × Toml.Value)} {t : SettingTable}

theorem taken_of_ofEntries? (h : ofEntries? o es = some t) : ∀ e ∈ es, (ofToml? o e.2).isSome := by
  induction es generalizing t with
  | nil => exact nofun
  | cons e es ih =>
    rw [ofEntries?] at h
    split at h
    · rename_i hv hes
      exact List.forall_mem_cons.2 ⟨by rw [hv]; rfl, ih hes⟩
    · cases h

theorem get?_ofEntries? (h : ofEntries? o es = some t) (k : String) :
    Keyed.get? k t = (es.lookup k).bind (ofToml? o) := by
  obtain ⟨t', ht', hget⟩ := ofEntries?_get (taken_of_ofEntries? h)
  rw [h, Option.some.injEq] at ht'
  rw [ht', hget]

theorem ofToml?_of_unwrapped {v : SettingValue} (h : ofToml? o (.table es) = some v)
    (hw : es.lookup wrappedKey = none) :
    ∃ t, v = .table o t ∧ ∀ k, Keyed.get? k t = (es.lookup k).bind (ofToml? o) := by
  rw [ofToml?] at h
  obtain ⟨t, ht, h⟩ := Option.bind_eq_some_iff.1 h
  rw [ofTable?, get?_ofEntries? ht wrappedKey, hw] at h
  split at h
  · cases h
  · exact ⟨t, (Option.some.inj h).symm, get?_ofEntries? ht⟩

end SettingValue

namespace SettingsLoader

variable {l : SettingsLoader} {s : Surroundings}

def document? (l : SettingsLoader) (s : Surroundings) : Option (Origin × List (String × Toml.Value)) := do
  let (full, bytes) ← (l.choose s).1.bind s.files.findFile
  let doc ← (String.fromUTF8? bytes).bind Toml.parse
  return (.file (Path.shownFrom s.files.cwd full), doc)

def section? (l : SettingsLoader) (s : Surroundings) (part : String) : Option SettingValue :=
  (l.document? s).bind fun d => (d.2.lookup part).bind (SettingValue.ofToml? d.1)

/-- What the file gives: the values of the document, or nothing where none is read. -/
def Gives (l : SettingsLoader) (s : Surroundings) (file : SettingTable) : Prop :=
  match l.document? s with
  | some d => SettingValue.ofEntries? d.1 d.2 = some file
  | none => file = []

theorem Gives.get? {file : SettingTable} (h : l.Gives s file) (part : String) :
    Keyed.get? part file = l.section? s part := by
  unfold Gives at h
  rw [section?]
  cases hd : l.document? s with
  | none =>
    rw [hd] at h
    rw [h]
    rfl
  | some d =>
    rw [hd] at h
    exact SettingValue.get?_ofEntries? h part

theorem gives_of_ofFile {p : String} {file : SettingTable} (hp : (l.choose s).1 = some p)
    (h : ofFile s p = .ok file) : l.Gives s file := by
  unfold ofFile at h
  unfold Gives document?
  rw [hp, Option.bind_some]
  split at h
  · rename_i hf
    cases h
    simp [hf]
  · rename_i full bytes hf
    simp only at h
    split at h
    · cases h
    · rename_i text ht
      split at h
      · cases h
      · rename_i es hes
        cases h
        obtain ⟨doc, hdoc, hes⟩ := Option.bind_eq_some_iff.1 hes
        simpa [hf, ht, hdoc] using hes

theorem merged_eq_ok {t : SettingTable} (h : l.merged s = .ok t) : ∃ file, l.Gives s file ∧
    t = SettingValue.entriesOver file (Environment.settings (l.envPrefix ++ "_") s.environment) := by
  unfold merged at h
  cases hp : (l.choose s).1 with
  | none =>
    rw [hp] at h
    exact ⟨[], by simp [Gives, document?, hp], (Except.ok.inj h).symm⟩
  | some p =>
    rw [hp] at h
    obtain ⟨file, hfile, h⟩ := Except.bind_eq_ok_iff.1 h
    exact ⟨file, gives_of_ofFile hp hfile, (Except.ok.inj h).symm⟩

theorem load_eq_ok {c : Settings} (h : (l.load s).1 = .ok c) :
    c.Valid s.files ∧ ∃ t, l.merged s = .ok t ∧ Settings.decode t = .ok c := by
  simp only [load, Except.bind_eq_ok_iff] at h
  obtain ⟨t, ht, d, hd, h⟩ := h
  have hdecode : Settings.decode t = .ok d := by
    cases hdec : Settings.decode t with
    | error e =>
      rw [hdec] at hd
      cases hd
    | ok d' =>
      rw [hdec] at hd
      cases hd
      rfl
  rcases d.broken?_spec s.files with ⟨hv, hb⟩ | ⟨-, f, -, hb⟩
  · rw [hb] at h
    cases h
    exact ⟨hv, t, ht, hdecode⟩
  · rw [hb] at h
    cases h

end SettingsLoader

end ProviderRegistry
