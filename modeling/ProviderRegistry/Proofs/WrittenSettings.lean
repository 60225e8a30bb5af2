import ProviderRegistry.Proofs.WrittenDocument
import ProviderRegistry.Settings.Decode
import ProviderRegistry.Settings.Save

/-! Settings read back from the document that they are written as. The document has a section for each
part of the settings, and the table of a section has its fields by their names, so what is looked up is
what was written, and a log file that is not set is not found and stays unset. -/

namespace ProviderRegistry

open Toml

def LoggingSettings.values (l : LoggingSettings) : List (String × Value) :=
  [("level", .text l.level), ("json_format", .flag l.jsonFormat)] ++
    (l.fileOutput.map fun p => ("file_output", .text p)).toList ++ [("max_files", .integer l.maxFiles)]

def DiscoverySettings.values (d : DiscoverySettings) : List (String × Value) :=
  [("embedded", .flag d.embedded), ("search_paths", .list (d.searchPaths.map .text))]

theorem bare_keys : ∀ k ∈ ["logging", "level", "json_format", "file_output", "max_files", "discovery",
    "embedded", "search_paths"], Bare k := by
  have h : ∀ k ∈ ["logging", "level", "json_format", "file_output", "max_files", "discovery", "embedded",
      "search_paths"], (!k.toList.isEmpty && k.toList.all isBareKeyChar) = true :=
    List.all_eq_true.1 (by decide +kernel)
  intro k hk
  have hk := Bool.and_eq_true_iff.1 (h k hk)
  exact ⟨by simpa using hk.1, List.all_eq_true.1 hk.2⟩

theorem inLines_logging {l : LoggingSettings} (h : l.maxFiles < 2 ^ 63) {ls : List Line} {r : List Char}
    (hr : InLines ls r) : InLines (Section.lines ("logging", l.values) ++ ls) (l.written.toList ++ r) := by
  have hcount := InLines.assignment (bare_keys "max_files" (by simp)) (stands_number h) hr
  obtain ⟨level, jsonFormat, fileOutput, maxFiles⟩ := l
  unfold LoggingSettings.written
  cases fileOutput with
  | none =>
    have hdoc := InLines.header (bare_keys "logging" (by simp))
      (.assignment (bare_keys "level" (by simp)) (stands_text level)
        (.assignment (bare_keys "json_format" (by simp)) (stands_flag jsonFormat) hcount))
    simpa [Section.lines, LoggingSettings.values] using hdoc
  | some p =>
    have hdoc := InLines.header (bare_keys "logging" (by simp))
      (.assignment (bare_keys "level" (by simp)) (stands_text level)
        (.assignment (bare_keys "json_format" (by simp)) (stands_flag jsonFormat)
          (.assignment (bare_keys "file_output" (by simp)) (stands_text p) hcount)))
    simpa [Section.lines, LoggingSettings.values] using hdoc

theorem inLines_discovery (d : DiscoverySettings) :
    InLines (Section.lines ("discovery", d.values)) d.written.toList := by
  have hdoc := InLines.header (bare_keys "discovery" (by simp))
    (.assignment (bare_keys "embedded" (by simp)) (stands_flag d.embedded)
      (.assignment (bare_keys "search_paths" (by simp)) (stands_list d.searchPaths) .nothing))
  unfold DiscoverySettings.written
  simpa [Section.lines, DiscoverySettings.values] using hdoc

theorem LoggingSettings.nodup_keys (l : LoggingSettings) : (l.values.map (·.1)).Nodup := by
  unfold values
  cases l.fileOutput <;> simp

theorem Settings.parse_written {c : Settings} (h : c.logging.maxFiles < 2 ^ 63) :
    Toml.parse c.written =
      some [("logging", .table c.logging.values), ("discovery", .table c.discovery.values)] := by
  have hlines := inLines_logging h (InLines.blank (inLines_discovery c.discovery))
  have htext : c.written.toList = c.logging.written.toList ++ '\n' :: c.discovery.written.toList := by
    unfold Settings.written
    simp
  have hopen : c.written.toList.head? = some '[' := by
    rw [htext]
    unfold LoggingSettings.written
    simp
  have hall : InLines (Section.lines ("logging", c.logging.values) ++
      [("discovery", c.discovery.values)].flatMap fun s => .blank :: Section.lines s) c.written.toList := by
    rw [htext]
    simpa using hlines
  refine parse_sections hopen hall (by simp) ?_
  intro s hs
  simp only [List.mem_cons, List.not_mem_nil, or_false] at hs
  rcases hs with rfl | rfl
  · exact c.logging.nodup_keys
  · simp [DiscoverySettings.values]

namespace SettingValue

theorem ofEntries?_get {o : Origin} {es : List (String × Value)}
    (h : ∀ e ∈ es, (ofToml? o e.2).isSome) :
    ∃ t, ofEntries? o es = some t ∧ ∀ k, Keyed.get? k t = (es.lookup k).bind (ofToml? o) := by
  induction es with
  | nil => exact ⟨[], rfl, fun k => rfl⟩
  | cons e es ih =>
    obtain ⟨key, value⟩ := e
    obtain ⟨he, hes⟩ := List.forall_mem_cons.1 h
    obtain ⟨t, ht, hget⟩ := ih hes
    obtain ⟨v, hv⟩ := Option.isSome_iff_exists.1 he
    refine ⟨Keyed.put key v t, by simp [ofEntries?, hv, ht], fun k => ?_⟩
    by_cases hk : key = k
    · subst hk
      rw [Keyed.get?_put_self, List.lookup_cons_self, Option.bind_some, hv]
    · have hne : (k == key) = false := by simpa using Ne.symm hk
      rw [Keyed.get?_put_ne hk, hget, List.lookup_cons, hne]

theorem ofItems?_texts (o : Origin) (l : List String) :
    ofItems? o (l.map .text) = some (l.map fun s => .scalar o (.text s)) := by
  induction l with
  | nil => rfl
  | cons s l ih => simp [ofItems?, ofToml?, ih]

end SettingValue

section

variable {o : Origin} {t : SettingTable} {path : List String}

theorem Decoder.itemsFrom_texts (o : Origin) (path : List String) (n : Nat) (l : List String) :
    itemsFrom Decoder.path path n (l.map fun s => .scalar o (.text s)) = .ok l := by
  induction l generalizing n with
  | nil => rfl
  | cons s l ih =>
    rw [List.map_cons, itemsFrom, ih]
    rfl

theorem LoggingSettings.decode_values {l : LoggingSettings}
    (h : ∀ k, Keyed.get? k t = (l.values.lookup k).bind (SettingValue.ofToml? o)) :
    Decoder.logging path (.table o t) = .ok l := by
  obtain ⟨level, jsonFormat, fileOutput, maxFiles⟩ := l
  cases fileOutput <;>
    simp [Decoder.logging, Decoder.field, h, values, List.lookup_cons, SettingValue.ofToml?, Decoder.text,
      Decoder.path, Decoder.flag, Decoder.count, default] <;> rfl

theorem DiscoverySettings.decode_values {d : DiscoverySettings}
    (h : ∀ k, Keyed.get? k t = (d.values.lookup k).bind (SettingValue.ofToml? o)) :
    Decoder.discovery path (.table o t) = .ok d := by
  simp [Decoder.discovery, Decoder.field, h, values, List.lookup_cons, SettingValue.ofToml?, Decoder.flag,
    Decoder.list, SettingValue.ofItems?_texts, Decoder.itemsFrom_texts]
  rfl

theorem SettingValue.ofToml?_table {es : List (String × Value)} (h : ∀ e ∈ es, (ofToml? o e.2).isSome)
    (hs : es.lookup sourceKey = none) (hw : es.lookup wrappedKey = none) :
    ∃ t, ofToml? o (.table es) = some (.table o t) ∧
      ∀ k, Keyed.get? k t = (es.lookup k).bind (ofToml? o) := by
  obtain ⟨t, ht, hget⟩ := ofEntries?_get h
  refine ⟨t, ?_, hget⟩
  simp [ofToml?, ht, ofTable?, hget, hs, hw]

theorem LoggingSettings.ofToml?_values (o : Origin) (l : LoggingSettings) :
    ∃ t, SettingValue.ofToml? o (.table l.values) = some (.table o t) ∧
      ∀ k, Keyed.get? k t = (l.values.lookup k).bind (SettingValue.ofToml? o) := by
  apply SettingValue.ofToml?_table
  · unfold values
    cases l.fileOutput <;> simp [SettingValue.ofToml?]
  · unfold values
    cases l.fileOutput <;> simp [List.lookup_cons, SettingValue.sourceKey]
  · unfold values
    cases l.fileOutput <;> simp [List.lookup_cons, SettingValue.wrappedKey]

theorem DiscoverySettings.ofToml?_values (o : Origin) (d : DiscoverySettings) :
    ∃ t, SettingValue.ofToml? o (.table d.values) = some (.table o t) ∧
      ∀ k, Keyed.get? k t = (d.values.lookup k).bind (SettingValue.ofToml? o) := by
  apply SettingValue.ofToml?_table
  · simp [values, SettingValue.ofToml?, SettingValue.ofItems?_texts]
  · simp [values, List.lookup_cons, SettingValue.sourceKey]
  · simp [values, List.lookup_cons, SettingValue.wrappedKey]

end

/-- What the document of settings describes is the settings, whatever source it is read as. -/
theorem Settings.decode_written {c : Settings} (h : c.logging.maxFiles < 2 ^ 63) (o : Origin) :
    ∃ t, (Toml.parse c.written).bind (SettingValue.ofEntries? o) = some t ∧
      Settings.decode t = .ok c := by
  obtain ⟨tl, hl, hlget⟩ := c.logging.ofToml?_values o
  obtain ⟨td, hd, hdget⟩ := c.discovery.ofToml?_values o
  have htaken : ∀ e ∈ [("logging", Value.table c.logging.values),
      ("discovery", .table c.discovery.values)], (SettingValue.ofToml? o e.2).isSome := by
    simp [hl, hd]
  obtain ⟨t, ht, hget⟩ := SettingValue.ofEntries?_get htaken
  have hlogging : Decoder.field Decoder.logging "logging" .default [] t = .ok c.logging := by
    simp [Decoder.field, hget, hl, LoggingSettings.decode_values hlget]
  have hdiscovery : Decoder.field Decoder.discovery "discovery" .default [] t = .ok c.discovery := by
    simp [Decoder.field, hget, List.lookup_cons, hd, DiscoverySettings.decode_values hdget]
  refine ⟨t, by rw [parse_written h]; exact ht, ?_⟩
  rw [decode, hdiscovery, hlogging]
  rfl

end ProviderRegistry
