import ProviderRegistry.Proofs.SavedFiles
import ProviderRegistry.Proofs.WrittenSettings

/-! Settings loaded back from where they were saved. Saving checks nothing, loading does: so what was saved
is loaded, or the first of the rules that it breaks is reported, the files being those after the save. -/

namespace ProviderRegistry

def Level.words : List String := ["trace", "debug", "info", "warn", "warning", "error"]

theorem Level.parse_eq (word : String) :
    (word.map Char.toLower ∈ words ∧ ∃ l, parse word = .ok l) ∨
      (word.map Char.toLower ∉ words ∧ parse word = .error (.configuration
        ("Invalid log level: " ++ word ++ ". Use trace, debug, info, warn, or error"))) := by
  simp only [parse, words]
  split_ifs <;> simp_all
  tauto

theorem Level.parse_of_mem {word : String} (h : word.map Char.toLower ∈ Level.words) :
    ∃ l, Level.parse word = .ok l := by
  rcases Level.parse_eq word with ⟨-, hl⟩ | ⟨hn, -⟩
  · exact hl
  · exact absurd h hn

namespace Settings

variable {c : Settings} {files : FileTree}

/-- The rules for settings: the level is a known word, some log files are kept where there is a log file,
and no search path leads to anything but a directory. -/
structure Valid (c : Settings) (files : FileTree) : Prop where
  level : c.logging.level.map Char.toLower ∈ Level.words
  logFiles : c.logging.fileOutput.isSome → c.logging.maxFiles ≠ 0
  searchPaths : ∀ dir ∈ c.discovery.searchPaths, files.exists? dir → files.isDirectory dir

/-- The first rule that settings break, those before it being kept. -/
inductive FirstBroken (c : Settings) (files : FileTree) : SettingsFault → Prop
  | level (h : c.logging.level.map Char.toLower ∉ Level.words) :
      FirstBroken c files (.level (.configuration ("Invalid log level: " ++ c.logging.level ++
        ". Use trace, debug, info, warn, or error")))
  | noLogFiles (hl : c.logging.level.map Char.toLower ∈ Level.words) (hf : c.logging.fileOutput.isSome)
      (h : c.logging.maxFiles = 0) : FirstBroken c files .noLogFiles
  | notADirectory {before after : List String} {dir : String}
      (hl : c.logging.level.map Char.toLower ∈ Level.words)
      (hf : c.logging.fileOutput.isSome → c.logging.maxFiles ≠ 0)
      (hs : c.discovery.searchPaths = before ++ dir :: after)
      (hb : ∀ dir' ∈ before, files.exists? dir' → files.isDirectory dir')
      (he : files.exists? dir) (h : ¬ files.isDirectory dir) : FirstBroken c files (.notADirectory dir)

theorem broken?_spec (c : Settings) (files : FileTree) :
    (c.Valid files ∧ c.broken? files = none) ∨
      (¬ c.Valid files ∧ ∃ f, c.FirstBroken files f ∧ c.broken? files = some f) := by
  unfold broken?
  rcases Level.parse_eq c.logging.level with ⟨hl, l, hp⟩ | ⟨hl, hp⟩
  · rw [hp]
    simp only
    split_ifs with hf
    · exact .inr ⟨fun h => h.logFiles hf.1 hf.2, _, .noLogFiles hl hf.1 hf.2, rfl⟩
    · have hlog : c.logging.fileOutput.isSome → c.logging.maxFiles ≠ 0 := fun h h0 => hf ⟨h, h0⟩
      cases hd : c.discovery.searchPaths.find? fun p => files.exists? p && !files.isDirectory p with
      | none =>
        refine .inl ⟨⟨hl, hlog, fun dir hdir he => ?_⟩, rfl⟩
        simpa [he] using List.find?_eq_none.1 hd dir hdir
      | some dir =>
        obtain ⟨hbad, before, after, hs, hb⟩ := List.find?_eq_some_iff_append.1 hd
        simp only [Bool.and_eq_true, Bool.not_eq_true'] at hbad
        refine .inr ⟨fun h => ?_, _,
          .notADirectory hl hlog hs (fun d hd he => ?_) hbad.1 (by simp [hbad.2]), rfl⟩
        · have := h.searchPaths dir (by simp [hs]) hbad.1
          rw [hbad.2] at this
          cases this
        · simpa [he] using hb d hd
  · rw [hp]
    exact .inr ⟨fun h => hl h.level, _, .level hl, rfl⟩

theorem FirstBroken.broken?_eq {f : SettingsFault} (h : c.FirstBroken files f) :
    c.broken? files = some f := by
  unfold broken?
  cases h with
  | level hl =>
    rcases Level.parse_eq c.logging.level with ⟨hm, -⟩ | ⟨-, hp⟩
    · exact absurd hm hl
    · rw [hp]
  | noLogFiles hl hf h0 =>
    obtain ⟨l, hp⟩ := Level.parse_of_mem hl
    rw [hp]
    simp [hf, h0]
  | @notADirectory before after dir hl hf hs hb he hd =>
    obtain ⟨l, hp⟩ := Level.parse_of_mem hl
    have hfirst : (before ++ dir :: after).find? (fun p => files.exists? p && !files.isDirectory p) =
        some dir := by
      rw [List.find?_eq_some_iff_append]
      refine ⟨by simp [he, hd], before, after, rfl, fun p hp => ?_⟩
      by_cases hex : files.exists? p = true
      · simp [hb p hp hex]
      · simp [hex]
    rw [hp, hs, hfirst]
    simp only
    rw [if_neg fun h => hf h.1 h.2]
    rfl

end Settings

/-- No variable has the prefix, whatever the case of its letters and the blanks around its name. -/
def Environment.Unset (keyPrefix : String) (environment : List (String × String)) : Prop :=
  ∀ v ∈ environment, afterPrefix keyPrefix.toList (Text.trim v.1.toList) = none

theorem Environment.settings_of_unset {keyPrefix : String} {environment : List (String × String)}
    (h : Unset keyPrefix environment) : settings keyPrefix environment = [] := by
  have hnone : (environment.mergeSort fun a b => Text.precedes a.1 b.1).filterMap
      (settingOf? keyPrefix) = [] := by
    rw [List.filterMap_eq_nil_iff]
    intro v hv
    rw [settingOf?, pathOf?, h v (List.mem_mergeSort.1 hv)]
    rfl
  rw [settings, hnone]
  rfl

theorem Text.fromUTF8?_toUTF8 (text : String) : String.fromUTF8? text.toUTF8 = some text := by
  rw [String.toUTF8_eq_toByteArray, String.fromUTF8?, dif_pos text.isValidUTF8]
  exact congrArg some (String.toByteArray_inj.1 rfl)

namespace SettingsLoader

variable {files : FileTree} {p envPrefix : String} {environment : List (String × String)}

theorem load_of_merged {l : SettingsLoader} {s : Surroundings} {t : SettingTable} {c : Settings}
    (hm : l.merged s = .ok t) (hd : Settings.decode t = .ok c) :
    (l.load s).1 = match c.broken? s.files with
      | some f => .error f
      | none => .ok c := by
  simp only [load, hm]
  change (do
    let c ← (Settings.decode t).mapError SettingsFault.decode
    match c.broken? s.files with
    | some f => Except.error f
    | none => Except.ok c) = _
  rw [hd]
  rfl

theorem merged_of_file {t : SettingTable} (he : files.exists? p)
    (hf : ofFile ⟨files, environment⟩ p = .ok t) (hu : Environment.Unset (envPrefix ++ "_") environment) :
    merged ⟨some p, envPrefix⟩ ⟨files, environment⟩ = .ok t := by
  rw [merged, choose]
  simp only [he, if_true, hf, Environment.settings_of_unset hu]
  rfl

theorem ofFile_written {c : Settings} {full : String} (environment : List (String × String))
    (hc : c.logging.maxFiles < 2 ^ 63) (hf : files.findFile p = some (full, c.written.toUTF8)) :
    ∃ t, ofFile ⟨files, environment⟩ p = .ok t ∧ Settings.decode t = .ok c := by
  obtain ⟨t, ht, hd⟩ := c.decode_written hc (.file (Path.shownFrom files.cwd full))
  refine ⟨t, ?_, hd⟩
  simp only [ofFile, hf, Text.fromUTF8?_toUTF8, ht]

/-- A path that exists but is not found again contributes nothing, and the defaults pass the check. -/
theorem load_of_lost (he : files.exists? p) (hf : files.findFile p = none)
    (hu : Environment.Unset (envPrefix ++ "_") environment) :
    (load ⟨some p, envPrefix⟩ ⟨files, environment⟩).1 = .ok .default := by
  have hfile : ofFile ⟨files, environment⟩ p = .ok [] := by
    simp only [ofFile, hf]
  have hd : Settings.decode [] = .ok .default := rfl
  have hb : Settings.default.broken? files = none := by
    have hp : Level.parse "info" = .ok .info := by decide +kernel
    simp [Settings.broken?, Settings.default, LoggingSettings.default, DiscoverySettings.default, hp]
  rw [load_of_merged (merged_of_file he hfile hu) hd, hb]

end SettingsLoader

namespace Settings

variable {c : Settings} {files saved : FileTree} {p : String}

theorem write_of_save (h : c.save files p = .ok saved) : files.write p c.written.toUTF8 = .ok saved := by
  simp only [save, saveBy] at h
  cases hw : files.write p c.written.toUTF8 with
  | error e =>
    rw [hw] at h
    cases h
  | ok t =>
    rw [hw] at h
    cases h
    rfl

/-- A serialiser that fails leaves all files as they are. Settings that were saved to a path are loaded
from it as they were if they keep to the rules, and otherwise the first rule that they break is reported,
as long as the path can be read from the root too. -/
theorem saved_loads_back (c : Settings) (files : FileTree) (p envPrefix : String)
    (environment : List (String × String)) :
    (∀ serialise message, serialise c = .error message →
      c.saveBy serialise files p =
        (.error ⟨.configuration, "Failed to serialize config to TOML: " ++ message,
          [.note message]⟩, files)) ∧
    ∀ saved, c.logging.maxFiles ≤ 2 ^ 63 - 1 → files.Homed → files.Reachable p →
      Environment.Unset (envPrefix ++ "_") environment → c.save files p = .ok saved →
        let loaded := (SettingsLoader.load ⟨some p, envPrefix⟩ ⟨saved, environment⟩).1
        (loaded = .ok c ↔ c.Valid saved) ∧
          (¬ c.Valid saved → ∃ f, c.FirstBroken saved f ∧ loaded = .error f) := by
  refine ⟨fun serialise message h => by simp only [saveBy, h]; rfl, ?_⟩
  intro saved hc hh hr hu hs loaded
  obtain ⟨place, hw⟩ := FileTree.wrote_of_write (write_of_save hs)
  have hreach : saved.Reachable p := by
    rwa [FileTree.Reachable, FileTree.absolute, hw.cwd]
  obtain ⟨full, hfull⟩ := hw.findFile (hw.homed hh) hreach
  obtain ⟨t, ht, hd⟩ := SettingsLoader.ofFile_written environment (by omega) hfull
  have hloaded := SettingsLoader.load_of_merged (SettingsLoader.merged_of_file hw.exists? ht hu) hd
  rcases c.broken?_spec saved with ⟨hv, hb⟩ | ⟨hv, f, hf, hb⟩
  · rw [hb] at hloaded
    exact ⟨⟨fun _ => hv, fun _ => hloaded⟩, fun h => absurd hv h⟩
  · rw [hb] at hloaded
    refine ⟨⟨fun h => ?_, fun h => absurd h hv⟩, fun _ => ⟨f, hf, hloaded⟩⟩
    rw [show loaded = _ from hloaded] at h
    cases h

end Settings

def appFiles : FileTree := (FileTree.ofCwd ["home", "app"]).makeDirectories ["home", "app", "plugins"]

theorem homed_appFiles : appFiles.Homed := by
  refine (FileTree.homed_ofCwd fun name hname => ?_).makeDirectories _
  have h : ∀ name ∈ ["home", "app"], name ≠ "" ∧ '/' ∉ name.toList ∧ '\x00' ∉ name.toList ∧
      Path.isRelativeStep name = false ∧ name.utf8ByteSize ≤ 255 := by
    decide +kernel
  obtain ⟨h1, h2, h3, h4, h5⟩ := h name hname
  exact ⟨h1, h2, h3, h4, h5⟩

def oddSettings : Settings :=
  ⟨⟨"Warn", true, some "logs\t\"x\"\n'''\\", 3⟩,
    ⟨false, ["plugins", "missing'\\", "plugins/\r\n"]⟩⟩

def ownPath : Settings := ⟨⟨"debug", true, none, 0⟩, ⟨true, ["plugins", "./saved.toml", "/"]⟩⟩

namespace Settings

/-- The first are loaded back, and not written by a serialiser that refuses them; the others find the file
that they were saved to in the place of a directory. -/
theorem saved_loads_back_app :
    let l : SettingsLoader := ⟨some "saved.toml", "EXTREG"⟩
    let environment := [("HOME", "/home"), ("EXTREGX", "1")]
    (oddSettings.saveBy (fun _ => .error "refused") appFiles "saved.toml").2 = appFiles ∧
    (∃ saved, oddSettings.save appFiles "saved.toml" = .ok saved ∧
      (l.load ⟨saved, environment⟩).1 = .ok oddSettings) ∧
    ∃ saved, ownPath.save appFiles "saved.toml" = .ok saved ∧
      (l.load ⟨saved, environment⟩).1 = .error (.notADirectory "./saved.toml") := by
  intro l environment
  have hreach : appFiles.Reachable "saved.toml" := .inr (by decide +kernel)
  have hunset : Environment.Unset ("EXTREG" ++ "_") environment := by
    unfold Environment.Unset
    decide +kernel
  refine ⟨?_, ?_, ?_⟩
  · rw [(saved_loads_back oddSettings appFiles "saved.toml" "EXTREG" environment).1 _ "refused" rfl]
  · refine ⟨_, rfl, ?_⟩
    have h := (saved_loads_back oddSettings appFiles "saved.toml" "EXTREG" environment).2 _ (by decide)
      homed_appFiles hreach hunset rfl
    exact h.1.2 ⟨by decide +kernel, by decide +kernel, by decide +kernel⟩
  · refine ⟨_, rfl, ?_⟩
    have h := (saved_loads_back ownPath appFiles "saved.toml" "EXTREG" environment).2 _ (by decide)
      homed_appFiles hreach hunset rfl
    obtain ⟨f, hf, hload⟩ := h.2 fun hv =>
      absurd (hv.searchPaths "./saved.toml" (by decide) (by decide +kernel)) (by decide +kernel)
    have hown : f = .notADirectory "./saved.toml" := by
      rw [← Option.some_inj, ← hf.broken?_eq]
      decide +kernel
    rw [hload, hown]

end Settings

end ProviderRegistry
