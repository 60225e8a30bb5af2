import ProviderRegistry.Proofs.SavedSettings

/-! Settings lost where they were saved. The loader looks for a path from the working directory by another
name than the one it was saved under, with the working directory before it or one of those above. Where
all these names are too long the path is there and nothing is found for it, and the defaults are loaded. A
path that is as long as a path can be is lost in every working directory. -/

namespace ProviderRegistry

namespace FileTree

variable {s : FileTree} {q : List String} {path : String}

theorem prefix_of_mem_downTo {cwd : List String} (h : q ∈ downTo cwd) : q <+: cwd := by
  induction cwd generalizing q with
  | nil => cases h
  | cons d r ih =>
    rw [downTo] at h
    rcases List.mem_cons.1 h with rfl | h
    · exact ⟨r, rfl⟩
    · obtain ⟨p, hp, rfl⟩ := List.mem_map.1 h
      exact List.cons_prefix_cons.2 ⟨rfl, ih hp⟩

/-- A path that is too long behind the working directory and behind all above it leads to nothing. -/
theorem findFile_eq_none (hrel : Path.isAbsolute path = false)
    (hlong : ∀ base, base <+: s.cwd → 4096 ≤ (Path.join (Path.ofPlace base) path).utf8ByteSize) :
    s.findFile path = none := by
  have hread : ∀ base, base <+: s.cwd →
      ∃ e, s.read (Path.join (Path.ofPlace base) path) = .error e := by
    intro base hb
    have hfault : ∃ e, pathFault? (Path.join (Path.ofPlace base) path) = some e := by
      unfold pathFault?
      split_ifs
      · exact ⟨_, rfl⟩
      · exact ⟨_, rfl⟩
      · exact ⟨_, rfl⟩
      · exact absurd (hlong base hb) ‹_›
    obtain ⟨e, he⟩ := hfault
    exact ⟨e, by simp [FileTree.read, locate, he]⟩
  simp only [findFile, hrel, Bool.false_eq_true, if_false]
  rw [List.findSome?_eq_none_iff]
  intro base hbase
  have hprefix : base <+: s.cwd := by
    rcases List.mem_append.1 hbase with hd | hr
    · exact prefix_of_mem_downTo (List.mem_reverse.1 hd)
    · rw [List.mem_singleton.1 hr]
      exact List.nil_prefix
  obtain ⟨e, he⟩ := hread base hprefix
  rw [he]

theorem utf8ByteSize_join (base : List String) (path : String) :
    path.utf8ByteSize < (Path.join (Path.ofPlace base) path).utf8ByteSize := by
  have hslash : 1 ≤ (Path.ofPlace base).utf8ByteSize := by
    rw [Path.ofPlace, String.utf8ByteSize_append]
    exact Nat.le_add_right 1 _
  have hne : Path.ofPlace base ≠ "" := by
    intro he
    rw [he] at hslash
    cases hslash
  rw [Path.join, if_neg hne]
  split_ifs <;> simp only [String.utf8ByteSize_append] <;> omega

end FileTree

namespace Settings

theorem saved_out_of_reach {c : Settings} {files saved : FileTree} {p envPrefix : String}
    {environment : List (String × String)} (hs : c.save files p = .ok saved)
    (hrel : Path.isAbsolute p = false)
    (hlong : ∀ base, base <+: saved.cwd → 4096 ≤ (Path.join (Path.ofPlace base) p).utf8ByteSize)
    (hu : Environment.Unset (envPrefix ++ "_") environment) :
    (SettingsLoader.load ⟨some p, envPrefix⟩ ⟨saved, environment⟩).1 = .ok .default := by
  obtain ⟨place, hw⟩ := FileTree.wrote_of_write (write_of_save hs)
  exact SettingsLoader.load_of_lost hw.exists? (FileTree.findFile_eq_none hrel hlong) hu

end Settings

namespace FileTree

def staying (name : String) : Nat → String
  | 0 => name
  | n + 1 => "./" ++ staying name n

variable {t : FileTree} {name : String} {n : Nat} {bytes : ByteArray}

theorem toList_staying (name : String) (n : Nat) :
    (staying name n).toList = (List.replicate n ['.', '/']).flatten ++ name.toList := by
  induction n with
  | zero => rfl
  | succ n ih =>
    rw [staying, String.toList_append, ih, List.replicate_succ, List.flatten_cons, List.append_assoc]
    rfl

theorem utf8ByteSize_staying (name : String) (n : Nat) :
    (staying name n).utf8ByteSize = 2 * n + name.utf8ByteSize := by
  induction n with
  | zero => simp [staying]
  | succ n ih =>
    rw [staying, String.utf8ByteSize_append, ih, show "./".utf8ByteSize = 2 from rfl]
    omega

theorem segments_staying (h : ProperName name) (n : Nat) :
    Path.segments (staying name n) = List.replicate n "." ++ [name] := by
  have hne : name.toList ≠ [] := by simpa using h.nonempty
  rw [segments_eq_named, toList_staying]
  induction n with
  | zero => simp [named, Text.segments_of_not_mem h.slash, hne, h.nonempty]
  | succ n ih =>
    have hstep : ∀ cs, named ('.' :: '/' :: cs) = "." :: named cs := fun cs => by
      simp [named, Text.segments]
    rw [List.replicate_succ, List.flatten_cons, List.append_assoc, List.cons_append, List.cons_append,
      List.nil_append, hstep, ih]
    rfl

theorem isAbsolute_staying (h : ProperName name) (n : Nat) : Path.isAbsolute (staying name n) = false := by
  rw [Path.isAbsolute, toList_staying]
  cases n with
  | zero =>
    cases hl : name.toList with
    | nil => rfl
    | cons c cs =>
      have hc : c ≠ '/' := fun hc => h.slash (by rw [hl, hc]; exact List.mem_cons_self)
      simp [hc]
  | succ n => simp [List.replicate_succ]

theorem endsInSlash_staying (h : ProperName name) (n : Nat) : Path.endsInSlash (staying name n) = false := by
  rw [Path.endsInSlash, toList_staying, List.getLast?_append]
  cases hl : name.toList.getLast? with
  | none => exact absurd (by simpa using hl) h.nonempty
  | some c =>
    have hc : c ≠ '/' := fun hc => h.slash (hc ▸ List.mem_of_getLast? hl)
    simpa using hc

theorem pathFault?_staying (h : ProperName name) (hsize : 2 * n + name.utf8ByteSize < 4096) :
    pathFault? (staying name n) = none := by
  have hnul : '\x00' ∉ (staying name n).toList := by
    rw [toList_staying]
    simp only [List.mem_append, List.mem_flatten, List.mem_replicate, not_or, not_exists, not_and]
    refine ⟨?_, h.nul⟩
    rintro _ ⟨-, rfl⟩
    decide
  have hne : staying name n ≠ "" := by
    intro he
    have hs := segments_staying h n
    rw [he] at hs
    simp [Path.segments, Text.segments] at hs
  have hshort : ¬ (staying name n).utf8ByteSize ≥ 4096 := by
    rw [utf8ByteSize_staying]
    omega
  simp only [pathFault?, List.contains_eq_mem, hnul, decide_false, Bool.false_eq_true, if_false, if_neg hne,
    if_neg hshort]

theorem walk_stay (h : t.node? t.cwd = some .directory) (n : Nat) :
    t.walk t.cwd (List.replicate n ".") = .ok t.cwd := by
  have hstep : t.step t.cwd "." = .ok t.cwd := by
    simp [step, h]
  induction n with
  | zero => rfl
  | succ n ih =>
    rw [List.replicate_succ, walk, List.foldlM_cons, hstep]
    exact ih

theorem write_staying (ht : t.Homed) (h : ProperName name) (hfree : t.node? (t.cwd ++ [name]) = none)
    (hsize : 2 * n + name.utf8ByteSize < 4096) (bytes : ByteArray) :
    ∃ s, t.write (staying name n) bytes = .ok s := by
  have hhere : t.node? t.cwd = some .directory := ht.directories _ (List.prefix_refl _)
  have hstart : t.start (staying name n) = t.cwd := by
    rw [start, isAbsolute_staying h]
    rfl
  have hstep : t.step t.cwd name = .error .notFound := by
    rw [h.step_eq hhere, hfree]
    rfl
  have hdir : t.directoryOf (staying name n) = .ok t.cwd := by
    rw [directoryOf, hstart, segments_staying h, List.dropLast_concat, ← List.replicate_succ']
    exact walk_stay hhere (n + 1)
  have hlocate : t.locate (staying name n) = .error .notFound := by
    rw [locate_of_fault (pathFault?_staying h hsize), hstart, steps_of_noSlash (endsInSlash_staying h n),
      segments_staying h, walk_append (walk_stay hhere n), walk_singleton, hstep]
  have hplace : t.freePlace (staying name n) = .ok (t.cwd ++ [name]) := by
    simp [freePlace, hdir, segments_staying h, h.relative, hstep]
  simp [write, openFile, pathFault?_staying h hsize, hdir, hlocate, endsInSlash_staying h, hplace, Except.map]

end FileTree

namespace Settings

theorem save_of_write {c : Settings} {files saved : FileTree} {p : String}
    (h : files.write p c.written.toUTF8 = .ok saved) : c.save files p = .ok saved := by
  simp only [save, saveBy, h]
  rfl

theorem saved_staying_lost (c : Settings) (envPrefix : String) (environment : List (String × String))
    {files : FileTree} {name : String} {n : Nat} (hh : files.Homed) (hname : FileTree.ProperName name)
    (hfree : files.node? (files.cwd ++ [name]) = none) (hsize : 2 * n + name.utf8ByteSize = 4095)
    (hu : Environment.Unset (envPrefix ++ "_") environment) :
    ∃ saved, c.save files (FileTree.staying name n) = .ok saved ∧
      (SettingsLoader.load ⟨some (FileTree.staying name n), envPrefix⟩ ⟨saved, environment⟩).1 =
        .ok .default := by
  obtain ⟨saved, hw⟩ := FileTree.write_staying hh hname hfree (n := n) (by omega) c.written.toUTF8
  have hs := save_of_write hw
  refine ⟨saved, hs, saved_out_of_reach hs (FileTree.isAbsolute_staying hname n) (fun base _ => ?_) hu⟩
  have hjoin := FileTree.utf8ByteSize_join base (FileTree.staying name n)
  rw [FileTree.utf8ByteSize_staying] at hjoin
  omega

/-- Settings that keep to the rules, and are not what is loaded from where they were saved. -/
theorem saved_not_loaded_back :
    let c : Settings := ⟨⟨"debug", false, none, 7⟩, .default⟩
    ∃ saved, c.save appFiles (FileTree.staying "saved1.toml" 2042) = .ok saved ∧ c.Valid saved ∧
      (SettingsLoader.load ⟨some (FileTree.staying "saved1.toml" 2042), "EXTREG"⟩ ⟨saved, []⟩).1 =
        .ok .default ∧ c ≠ .default := by
  intro c
  have hname : FileTree.ProperName "saved1.toml" :=
    ⟨by decide, by decide +kernel, by decide +kernel, by decide +kernel, by decide +kernel⟩
  have hfree : (appFiles.node? (appFiles.cwd ++ ["saved1.toml"])).isNone := by decide +kernel
  have hlength : "saved1.toml".utf8ByteSize = 11 := by decide +kernel
  obtain ⟨saved, hs, hload⟩ := c.saved_staying_lost "EXTREG" [] homed_appFiles hname
    (by simpa using hfree) (n := 2042) (by omega) nofun
  exact ⟨saved, hs, ⟨by decide +kernel, nofun, nofun⟩, hload, by decide⟩

end Settings

end ProviderRegistry
