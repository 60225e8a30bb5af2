import ProviderRegistry.Proofs.SavedSettings

/-! The file that is reported as loaded, and the file that is merged. A place is chosen when anything stands
there, and is read only if that is a regular file. So the report is true exactly where the first place that
is taken is taken by a regular file. -/

namespace ProviderRegistry

namespace FileTree

variable {t : FileTree} {path : String} {bytes : ByteArray}

def bytes? (t : FileTree) (path : String) : Option ByteArray :=
  match t.read path with
  | .ok (.file bytes) => some bytes
  | _ => none

theorem bytes?_eq_some_iff : t.bytes? path = some bytes ↔ t.read path = .ok (.file bytes) := by
  unfold bytes?
  split <;> simp_all

theorem isFile_eq (t : FileTree) (path : String) : t.isFile path = (t.bytes? path).isSome := by
  rw [isFile, bytes?]
  cases t.read path with
  | error e => rfl
  | ok n => cases n <;> rfl

theorem bytes?_of_not_exists (h : ¬ t.exists? path) : t.bytes? path = none := by
  rw [bytes?]
  cases hr : t.read path with
  | error e => rfl
  | ok n =>
    rw [exists?, hr] at h
    exact absurd rfl h

theorem node?_of_read {n : Node} (h : t.read path = .ok n) :
    ∃ place, t.locate path = .ok place ∧ t.node? place = some n := by
  unfold read at h
  cases hl : t.locate path with
  | error e =>
    rw [hl] at h
    cases h
  | ok place =>
    rw [hl] at h
    cases hn : t.node? place with
    | none => simp [hn] at h
    | some m =>
      simp only [hn, Except.ok.injEq] at h
      exact ⟨place, rfl, h ▸ hn⟩

/-- A path with a slash at its end leads to no regular file. -/
theorem plain_of_read (h : t.read path = .ok (.file bytes)) :
    pathFault? path = none ∧ Path.endsInSlash path = false := by
  obtain ⟨place, hl, hn⟩ := node?_of_read h
  have hfault : pathFault? path = none := by
    cases hf : pathFault? path with
    | none => rfl
    | some e =>
      rw [locate, hf] at hl
      cases hl
  refine ⟨hfault, ?_⟩
  by_contra hs
  rw [locate_of_fault hfault, steps, if_pos (by simpa using hs)] at hl
  obtain ⟨q, -, hq⟩ := walk_split hl
  rw [walk_singleton] at hq
  obtain ⟨hd, rfl⟩ := directory_of_stay hq
  rw [hd] at hn
  cases hn

def fromRoot (t : FileTree) (path : String) : String :=
  if Path.isAbsolute path then path else t.absolute path

theorem findFile_of_bytes? (hh : t.Homed) (hr : t.Reachable path) (h : t.bytes? path = some bytes) :
    t.findFile path = some (t.fromRoot path, bytes) := by
  have hread := bytes?_eq_some_iff.1 h
  by_cases ha : Path.isAbsolute path = true
  · rw [fromRoot, if_pos ha, findFile_of_isAbsolute ha hread]
  · have hrel : Path.isAbsolute path = false := by simpa using ha
    -- the working directory is the first of those in which the path is looked for
    obtain ⟨hf, hs⟩ := plain_of_read hread
    rw [fromRoot, if_neg ha, findFile_of_absolute hrel]
    rw [FileTree.read, locate_absolute hh hrel hf hs (hr.resolve_left ha), ← FileTree.read, hread]

theorem findFile_of_not_isFile (ha : Path.isAbsolute path = true) (h : t.isFile path = false) :
    t.findFile path = none := by
  rw [isFile_eq, Option.isSome_eq_false_iff, Option.isNone_iff_eq_none] at h
  simp only [findFile, ha, if_true, List.findSome?_singleton]
  cases hr : t.read path with
  | error e => rfl
  | ok n =>
    cases n with
    | directory => rfl
    | file b => simp [bytes?, hr] at h

end FileTree

namespace SettingsLoader

variable {l : SettingsLoader} {s : Surroundings} {p : String} {f : String × ByteArray}

/-- The places where settings are looked for: the path that is given, or else the default places. -/
def places (l : SettingsLoader) (s : Surroundings) : List String :=
  match l.path with
  | some p => [p]
  | none => s.defaultPaths

/-- The first of them that is a regular file, and what it holds. -/
def firstFile? (l : SettingsLoader) (s : Surroundings) : Option (String × ByteArray) :=
  (l.places s).findSome? fun p => (s.files.bytes? p).map fun bytes => (p, bytes)

/-- A true report of the file that is merged; without one, a path that was given is missed. -/
def reportOf (l : SettingsLoader) : Option (String × ByteArray) → List Event
  | some f => [.configurationLoaded f.1]
  | none => l.path.toList.map .configurationMissing

def settingsIn (name : String) (bytes : ByteArray) : Except SettingsFault SettingTable :=
  match String.fromUTF8? bytes with
  | none => .error (.notUtf8 name)
  | some text =>
    match (Toml.parse text).bind (SettingValue.ofEntries? (.file name)) with
    | none => .error .malformed
    | some es => .ok es

def mergedOf (l : SettingsLoader) (s : Surroundings) (file : Option (String × ByteArray)) :
    Except SettingsFault SettingTable := do
  let table ← match file with
    | some f => settingsIn (Path.shownFrom s.files.cwd (s.files.fromRoot f.1)) f.2
    | none => .ok []
  return SettingValue.entriesOver table (Environment.settings (l.envPrefix ++ "_") s.environment)

/-- The first place that is a regular file is the one that is merged and the one that is reported, and
without such a place nothing is merged and nothing reported as loaded. -/
structure TellsFile (l : SettingsLoader) (s : Surroundings) : Prop where
  report : (l.load s).2 = l.reportOf (l.firstFile? s)
  merged : l.merged s = l.mergedOf s (l.firstFile? s)

theorem choose_eq (l : SettingsLoader) (s : Surroundings) :
    l.choose s = match (l.places s).find? s.files.exists? with
      | some p => (some p, [.configurationLoaded p])
      | none => (none, l.path.toList.map .configurationMissing) := by
  unfold choose places
  cases hl : l.path with
  | none => rfl
  | some p => by_cases he : s.files.exists? p <;> simp [he]

theorem load_of_find? (h : (l.places s).find? s.files.exists? = some p) :
    (l.load s).2 = [.configurationLoaded p] ∧
      l.merged s = (do
        return SettingValue.entriesOver (← ofFile s p)
          (Environment.settings (l.envPrefix ++ "_") s.environment)) := by
  refine ⟨?_, ?_⟩
  · simp only [load, choose_eq, h]
  · simp only [merged, choose_eq, h]

theorem tells_of_none (h : (l.places s).find? s.files.exists? = none) : l.TellsFile s := by
  have hfile : l.firstFile? s = none := by
    rw [firstFile?, List.findSome?_eq_none_iff]
    intro p hp
    rw [FileTree.bytes?_of_not_exists (List.find?_eq_none.1 h p hp), Option.map_none]
  refine ⟨?_, ?_⟩
  · simp only [load, choose_eq, h, hfile, reportOf]
  · simp only [merged, choose_eq, h, hfile, mergedOf]

theorem bytes?_of_firstFile? (h : l.firstFile? s = some f) : s.files.bytes? f.1 = some f.2 := by
  obtain ⟨p, -, hp⟩ := List.exists_of_findSome?_eq_some h
  obtain ⟨bytes, hb, rfl⟩ := Option.map_eq_some_iff.1 hp
  exact hb

theorem firstFile?_of_find? {bytes : ByteArray} (h : (l.places s).find? s.files.exists? = some p)
    (hb : s.files.bytes? p = some bytes) : l.firstFile? s = some (p, bytes) := by
  obtain ⟨-, before, after, hs, hbefore⟩ := List.find?_eq_some_iff_append.1 h
  rw [firstFile?, List.findSome?_eq_some_iff]
  refine ⟨before, p, after, hs, by rw [hb]; rfl, fun q hq => ?_⟩
  have hfree : ¬ s.files.exists? q := by simpa using hbefore q hq
  rw [FileTree.bytes?_of_not_exists hfree, Option.map_none]

theorem ofFile_eq {full : String} {bytes : ByteArray} (h : s.files.findFile p = some (full, bytes)) :
    ofFile s p = settingsIn (Path.shownFrom s.files.cwd full) bytes := by
  rw [ofFile, h]
  rfl

theorem tells_of_isFile (hh : s.files.Homed) (hr : s.files.Reachable p)
    (h : (l.places s).find? s.files.exists? = some p) (hf : s.files.isFile p) : l.TellsFile s := by
  rw [FileTree.isFile_eq, Option.isSome_iff_exists] at hf
  obtain ⟨bytes, hb⟩ := hf
  obtain ⟨hreport, hmerged⟩ := load_of_find? h
  have hfile := firstFile?_of_find? h hb
  refine ⟨by rw [hreport, hfile, reportOf], ?_⟩
  rw [hmerged, hfile, ofFile_eq (FileTree.findFile_of_bytes? hh hr hb), mergedOf]

theorem TellsFile.isFile (ht : l.TellsFile s) (h : (l.places s).find? s.files.exists? = some p) :
    s.files.isFile p := by
  have hreport := (load_of_find? h).1.symm.trans ht.report
  cases hf : l.firstFile? s with
  | none =>
    rw [hf, reportOf] at hreport
    cases hl : l.path <;> simp [hl] at hreport
  | some f =>
    rw [hf, reportOf] at hreport
    simp only [List.cons.injEq, Event.configurationLoaded.injEq, and_true] at hreport
    rw [FileTree.isFile_eq, hreport, bytes?_of_firstFile? hf]
    rfl

/-- The file that is reported as loaded is the first of the places that is a regular file, and the one that
is merged, exactly when no place before it is taken by something else. What is no regular file is reported
as loaded all the same when it stands in the first place that is taken, and nothing of it is merged. -/
theorem tells_file_iff (hh : s.files.Homed) (hr : ∀ p ∈ l.places s, s.files.Reachable p) :
    (l.TellsFile s ↔ ∀ p, (l.places s).find? s.files.exists? = some p → s.files.isFile p) ∧
      ∀ p, (l.places s).find? s.files.exists? = some p → s.files.isFile p = false →
        (l.load s).2 = [.configurationLoaded p] ∧
          (Path.isAbsolute p → l.merged s = l.mergedOf s none) := by
  refine ⟨⟨fun ht p hp => ht.isFile hp, fun hfiles => ?_⟩, fun p hp hf => ?_⟩
  · cases hp : (l.places s).find? s.files.exists? with
    | none => exact tells_of_none hp
    | some p => exact tells_of_isFile hh (hr p (List.mem_of_find?_eq_some hp)) hp (hfiles p hp)
  · obtain ⟨hreport, hmerged⟩ := load_of_find? hp
    refine ⟨hreport, fun ha => ?_⟩
    have hnone : ofFile s p = .ok [] := by
      rw [ofFile, FileTree.findFile_of_not_isFile ha hf]
    rw [hmerged, hnone, mergedOf]

end SettingsLoader

def shadowedFiles : FileTree :=
  let bytes := "[logging]\nlevel = \"warn\"\n".toUTF8
  ((appFiles.put ["home", "app", "extreg.toml"] .directory).put ["home", "app", "extreg"] .directory).put
    ["home", "app", "extreg", "extreg.toml"] (.file bytes)

theorem homed_shadowedFiles : shadowedFiles.Homed :=
  ((homed_appFiles.put (.inl rfl)).put (.inl rfl)).put (.inr nofun)

def shadowed : Surroundings := ⟨shadowedFiles, [("HOME", "/home")]⟩

namespace SettingsLoader

/-- The file is told when its path is given, and neither a directory nor the file behind one is. -/
theorem tells_file_iff_shadowed :
    TellsFile ⟨some "extreg/extreg.toml", "EXTREG"⟩ shadowed ∧ ¬ TellsFile ⟨some "plugins", "EXTREG"⟩ shadowed ∧
      ¬ TellsFile default shadowed := by
  have hreach : ∀ l : SettingsLoader, l ∈ [⟨some "extreg/extreg.toml", "EXTREG"⟩, ⟨some "plugins", "EXTREG"⟩,
      default] → ∀ p ∈ l.places shadowed, shadowed.files.Reachable p := by
    unfold FileTree.Reachable
    decide +kernel
  refine ⟨?_, fun ht => ?_, fun ht => ?_⟩
  · refine (tells_file_iff homed_shadowedFiles (hreach _ (by decide +kernel))).1.2 fun p hp => ?_
    have hplace : p = "extreg/extreg.toml" := by simpa [places] using List.mem_of_find?_eq_some hp
    rw [hplace]
    decide +kernel
  · have hfile := (tells_file_iff homed_shadowedFiles (hreach _ (by decide +kernel))).1.1 ht "plugins"
      (by decide +kernel)
    revert hfile
    decide +kernel
  · have hfile := (tells_file_iff homed_shadowedFiles (hreach _ (by decide +kernel))).1.1 ht
      "/home/app/extreg.toml" (by decide +kernel)
    revert hfile
    decide +kernel

/-- A directory is reported as loaded with only the defaults loaded, also in front of a file of settings. -/
theorem directory_reported_as_loaded :
    let l : SettingsLoader := ⟨some "plugins", "EXTREG"⟩
    (l.load shadowed).2 = [.configurationLoaded "plugins"] ∧ (l.load shadowed).1 = .ok .default ∧
      shadowed.files.isFile "plugins" = false ∧
      (default.load shadowed).2 = [.configurationLoaded "/home/app/extreg.toml"] ∧
      shadowed.files.isFile "/home/app/extreg.toml" = false ∧
      shadowed.files.isFile "/home/app/extreg/extreg.toml" := by
  have hunset : Environment.Unset ("EXTREG" ++ "_") shadowed.environment := by
    unfold Environment.Unset
    decide +kernel
  have hlost : shadowed.files.findFile "plugins" = none := by
    rw [← Option.isNone_iff_eq_none]
    decide +kernel
  exact ⟨by decide +kernel, load_of_lost (by decide +kernel) hlost hunset, by decide +kernel,
    by decide +kernel, by decide +kernel, by decide +kernel⟩

end SettingsLoader

end ProviderRegistry
