import ProviderRegistry.Proofs.SavedFiles
import ProviderRegistry.Locator

/-! Resource names and search paths. A name is cut at its slashes, and what stands between them is gone
down from the search path step by step, each step to something that a directory holds under that name. A
name with a step that stays or goes up stands for no file, so whatever text a name is, the file that is
read under it lies below the search path. -/

namespace ProviderRegistry

theorem Text.splitOn_eq_segments {α : Type} [DecidableEq α] (sep : α) (l : List α) :
    l.splitOn sep =
      (segments sep l).map (·.1) ++ if (segments sep l).getLast?.all (·.2) then [[]] else [] := by
  induction l with
  | nil => simp [segments]
  | cons c r ih =>
    rw [List.splitOn_cons_eq_if_modifyHead, ih, segments]
    by_cases hc : c = sep
    · cases hs : segments sep r with
      | nil => simp [hc]
      | cons s t => simp [hc, List.getLast?_cons]
    · cases hs : segments sep r with
      | nil => simp [hc]
      | cons s t => cases t <;> simp [hc, List.getLast?_cons]

namespace Path

variable {root name path s : String}

theorem segments_eq_splitOn (p : String) :
    segments p = ((p.toList.splitOn '/').filter (· ≠ [])).map String.ofList := by
  have hmap : (Text.segments '/' p.toList).map (fun s => String.ofList s.1) =
      ((Text.segments '/' p.toList).map (·.1)).map String.ofList := by
    rw [List.map_map]
    rfl
  rw [segments, hmap, List.filter_map, Text.splitOn_eq_segments, List.filter_append]
  have hend : (if (Text.segments '/' p.toList).getLast?.all (·.2) then [[]] else []).filter (· ≠ []) =
      ([] : List (List Char)) := by
    split_ifs <;> rfl
  rw [hend, List.append_nil]
  congr 1
  exact List.filter_congr fun cs _ => by simp

theorem segments_append_slash (a b : List Char) :
    segments (String.ofList (a ++ '/' :: b)) = segments (String.ofList a) ++ segments (String.ofList b) := by
  simp [segments_eq_splitOn, List.splitOn_append_cons_self]

structure Downward (s : String) : Prop where
  nonempty : s ≠ ""
  slash : '/' ∉ s.toList
  stays : s ≠ "."
  up : s ≠ ".."

theorem Downward.segments_eq (h : Downward s) : segments s = [s] := by
  have hne : s.toList ≠ [] := by simpa using h.nonempty
  simp [segments_eq_splitOn, List.splitOn_eq_singleton h.slash, hne]

theorem not_mem_of_mem_splitOn {sep : Char} {l cs : List Char} (h : cs ∈ l.splitOn sep) : sep ∉ cs := by
  induction l generalizing cs with
  | nil => simp_all
  | cons c r ih =>
    rw [List.splitOn_cons_eq_if_modifyHead] at h
    by_cases hc : c = sep
    · rcases (by simpa [hc] using h : cs = [] ∨ cs ∈ r.splitOn sep) with rfl | h
      · simp
      · exact ih h
    · obtain ⟨first, others, hsplit⟩ := List.exists_cons_of_ne_nil (List.splitOn_ne_nil sep r)
      rw [hsplit] at h ih
      rcases (by simpa [hc] using h : cs = c :: first ∨ cs ∈ others) with rfl | h
      · simp [Ne.symm hc, ih List.mem_cons_self]
      · exact ih (List.mem_cons_of_mem _ h)

theorem mem_segments (h : s ∈ segments path) : s ≠ "" ∧ '/' ∉ s.toList := by
  rw [segments_eq_splitOn] at h
  obtain ⟨cs, hcs, rfl⟩ := List.mem_map.1 h
  obtain ⟨hcs, hne⟩ := List.mem_filter.1 hcs
  exact ⟨by simpa using hne, by simpa using not_mem_of_mem_splitOn hcs⟩

theorem candidate_eq_none_iff :
    candidate root name = none ↔ ∃ cs ∈ name.toList.splitOn '/', cs = ['.'] ∨ cs = ['.', '.'] := by
  have hdot : ∀ cs : List Char, isRelativeStep (String.ofList cs) ↔ cs = ['.'] ∨ cs = ['.', '.'] := by
    intro cs
    simp [isRelativeStep, ← String.toList_inj]
  have hany : candidate root name = none ↔ (segments name).any isRelativeStep := by
    simp [candidate]
  rw [hany, segments_eq_splitOn, List.any_map, List.any_eq_true]
  constructor
  · rintro ⟨cs, hcs, hrel⟩
    exact ⟨cs, (List.mem_filter.1 hcs).1, (hdot cs).1 hrel⟩
  · rintro ⟨cs, hcs, hrel⟩
    refine ⟨cs, List.mem_filter.2 ⟨hcs, ?_⟩, (hdot cs).2 hrel⟩
    rcases hrel with rfl | rfl <;> decide

theorem candidate_eq_some (h : candidate root name = some path) :
    path = (segments name).foldl join root ∧ ∀ s ∈ segments name, Downward s := by
  simp only [candidate, Option.ite_none_left_eq_some, Option.some.injEq] at h
  obtain ⟨hrel, rfl⟩ := h
  refine ⟨rfl, fun s hs => ?_⟩
  obtain ⟨hne, hslash⟩ := mem_segments hs
  have hstep : ¬isRelativeStep s := fun h => hrel (List.any_eq_true.2 ⟨s, hs, h⟩)
  simp only [isRelativeStep, Bool.or_eq_true, beq_iff_eq, not_or] at hstep
  exact ⟨hne, hslash, hstep.1, hstep.2⟩

/-- One more segment is one more step, whether the path ends in a slash or is empty. -/
theorem segments_join (h : Downward s) (p : String) : segments (join p s) = segments p ++ [s] := by
  unfold join
  split_ifs with hp hslash
  · rw [hp, h.segments_eq]
    rfl
  · obtain ⟨cs, hcs⟩ : ∃ cs, p.toList = cs ++ ['/'] :=
      ⟨_, (List.dropLast_append_getLast? _ (by simpa [endsInSlash] using hslash)).symm⟩
    have hjoin : p ++ s = String.ofList (cs ++ '/' :: s.toList) := by simp [← String.toList_inj, hcs]
    have hroot : p = String.ofList (cs ++ '/' :: []) := by simp [← String.toList_inj, hcs]
    rw [hjoin, hroot, segments_append_slash, segments_append_slash, String.ofList_toList, h.segments_eq]
    simp [segments_eq_splitOn]
  · have hjoin : p ++ "/" ++ s = String.ofList (p.toList ++ '/' :: s.toList) := by simp [← String.toList_inj]
    rw [hjoin, segments_append_slash, String.ofList_toList, String.ofList_toList, h.segments_eq]

theorem isAbsolute_join (h : Downward s) (p : String) : isAbsolute (join p s) = isAbsolute p := by
  have hhead : s.toList.head? ≠ some '/' := fun he => h.slash (List.mem_of_mem_head? he)
  unfold join isAbsolute
  split_ifs with hp
  · rw [hp]
    simpa using hhead
  · have hne : p.toList ≠ [] := by simpa using hp
    simp [List.head?_append_of_ne_nil _ hne]
  · have hne : p.toList ≠ [] := by simpa using hp
    simp [List.head?_append_of_ne_nil _ hne]

theorem steps_join (h : Downward s) (p : String) : steps (join p s) = ((steps p).1, (steps p).2 ++ [s]) := by
  have hstays : s ≠ "." := h.stays
  unfold steps
  rw [isAbsolute_join h, segments_join h]
  generalize isAbsolute p = absolute
  generalize segments p = ss
  split
  · rename_i r hr
    cases ss with
    | nil => simp_all
    | cons first others =>
      obtain ⟨rfl, rfl⟩ := List.cons.inj hr
      simp [hstays]
  · rename_i hr
    cases ss with
    | nil => simp [hstays]
    | cons first others =>
      split
      · simp_all
      · simp [hstays, List.filter_cons]
        split_ifs <;> rfl

theorem steps_foldl_join {below : List String} (h : ∀ s ∈ below, Downward s) (root : String) :
    steps (below.foldl join root) = ((steps root).1, (steps root).2 ++ below) := by
  induction below generalizing root with
  | nil => simp
  | cons s below ih =>
    obtain ⟨hs, hbelow⟩ := List.forall_mem_cons.1 h
    rw [List.foldl_cons, ih hbelow, steps_join hs, List.append_assoc]
    rfl

end Path

namespace FileTree

variable {t : FileTree} {path segment : String} {place q : List String}

theorem placeOf_join {s : String} (h : Path.Downward s) (t : FileTree) (p : String) :
    t.placeOf (Path.join p s) = t.placeOf p ++ [s] := by
  have hstart : t.start (Path.join p s) = t.start p := by rw [start, Path.isAbsolute_join h, start]
  rw [placeOf, hstart, Path.segments_join h, List.foldl_append, ← placeOf, List.foldl_cons, List.foldl_nil,
    if_neg h.stays, if_neg h.up]

theorem placeOf_foldl_join {below : List String} (h : ∀ s ∈ below, Path.Downward s) (t : FileTree)
    (root : String) : t.placeOf (below.foldl Path.join root) = t.placeOf root ++ below := by
  induction below generalizing root with
  | nil => simp
  | cons s below ih =>
    obtain ⟨hs, hbelow⟩ := List.forall_mem_cons.1 h
    rw [List.foldl_cons, ih hbelow, placeOf_join hs, List.append_assoc]
    rfl

theorem step_eq_ok (h : t.step place segment = .ok q) :
    q = if segment = "." then place else if segment = ".." then place.dropLast else place ++ [segment] := by
  unfold step at h
  cases hn : t.node? place with
  | none =>
    rw [hn] at h
    cases h
  | some n =>
    rw [hn] at h
    cases n with
    | file => cases h
    | directory =>
      simp only at h
      split_ifs at h ⊢ <;> cases h <;> rfl

theorem walk_eq_ok {segments : List String} (h : t.walk place segments = .ok q) :
    q = segments.foldl (fun place s =>
      if s = "." then place else if s = ".." then place.dropLast else place ++ [s]) place := by
  induction segments generalizing place with
  | nil =>
    cases h
    rfl
  | cons segment segments ih =>
    rw [walk, List.foldlM_cons] at h
    cases hs : t.step place segment with
    | error e =>
      rw [hs] at h
      cases h
    | ok p =>
      rw [hs] at h
      rw [List.foldl_cons, ← step_eq_ok hs]
      exact ih h

theorem eq_placeOf_of_locate (h : t.locate path = .ok place) : place = t.placeOf path := by
  unfold locate at h
  cases hf : pathFault? path with
  | some e =>
    rw [hf] at h
    cases h
  | none =>
    rw [hf] at h
    have hplace := walk_eq_ok h
    rw [hplace, steps, List.foldl_append, ← placeOf]
    split_ifs <;> rfl

end FileTree

namespace Locator

theorem toOption_inSearchPath (files : FileTree) (name root : String) :
    (inSearchPath files name root).toOption =
      ((Path.candidate root name).filter files.isFile).map .ofFile := by
  unfold inSearchPath
  cases Path.candidate root name with
  | none => rfl
  | some path => by_cases hf : files.isFile path <;> simp [hf, Option.filter, Except.toOption]

theorem inSearchPaths_eq_map (files : FileTree) (name : String) (roots : List String) :
    inSearchPaths files name roots =
      ((roots.filterMap (Path.candidate · name)).filter files.isFile).map .ofFile := by
  simp only [inSearchPaths, toOption_inSearchPath, List.filter_filterMap, List.map_filterMap]

/-- A name stands for no file below a search path exactly if a step between its slashes stays or goes up,
and otherwise for the search path followed by what is not empty between the slashes. Each of these steps
goes down, so where the file can be reached at all it is that far below the place of the search path. For
any name the search paths serve, in their order, the files that the name stands for, each once. -/
theorem served_below_search_paths (files : FileTree) (roots : List String) (name : String) :
    let below := ((name.toList.splitOn '/').filter (· ≠ [])).map String.ofList
    (∀ root,
      (Path.candidate root name = none ↔
        ∃ step ∈ name.toList.splitOn '/', step = ['.'] ∨ step = ['.', '.']) ∧
      ∀ path, Path.candidate root name = some path →
        Path.steps path = ((Path.steps root).1, (Path.steps root).2 ++ below) ∧
        (∀ s ∈ below, Path.Downward s) ∧
        ∀ place, files.locate path = .ok place → place = files.placeOf root ++ below) ∧
    ((directories roots).locate files name).result =
      .ok (((roots.filterMap (Path.candidate · name)).filter files.isFile).map .ofFile) := by
  intro below
  have hbelow : Path.segments name = below := Path.segments_eq_splitOn name
  refine ⟨fun root => ⟨Path.candidate_eq_none_iff, fun path h => ?_⟩, ?_⟩
  · obtain ⟨rfl, hdown⟩ := Path.candidate_eq_some h
    rw [hbelow] at hdown ⊢
    refine ⟨Path.steps_foldl_join hdown root, hdown, fun place hplace => ?_⟩
    rw [FileTree.eq_placeOf_of_locate hplace, FileTree.placeOf_foldl_join hdown]
  · rw [← inSearchPaths_eq_map]
    simp only [locate]

def pluginFiles : FileTree :=
  ((FileTree.ofCwd ["app"]).makeDirectories ["app", "plugins", "extensions"]
    |>.put ["app", "plugins", "extensions", "Codec"] (.file "Zip".toUTF8)
    |>.put ["app", "secret"] (.file "Zip".toUTF8))

/-- Of a name with doubled slashes the file is found below the search path where it lies, and by a name that
goes up nothing is, though the path that it would make leads to a file. -/
theorem served_below_search_paths_plugins :
    Path.candidate "plugins/" "/extensions//Codec" = some "plugins/extensions/Codec" ∧
    pluginFiles.locate "plugins/extensions/Codec" = .ok (pluginFiles.placeOf "plugins/" ++ ["extensions", "Codec"]) ∧
    ((directories ["missing", "plugins/"]).locate pluginFiles "/extensions//Codec").result =
      .ok [.ofFile "plugins/extensions/Codec"] ∧
    pluginFiles.isFile "plugins/extensions/../../secret" ∧
    ((directories ["plugins"]).locate pluginFiles "extensions/../../secret").result = .ok [] := by
  have hpath : Path.candidate "plugins/" "/extensions//Codec" = some "plugins/extensions/Codec" := by
    decide +kernel
  have hplace : pluginFiles.locate "plugins/extensions/Codec" =
      .ok ["app", "plugins", "extensions", "Codec"] := by decide +kernel
  obtain ⟨hroot, hserved⟩ :=
    served_below_search_paths pluginFiles ["missing", "plugins/"] "/extensions//Codec"
  obtain ⟨-, -, hbelow⟩ := (hroot "plugins/").2 _ hpath
  obtain ⟨hbeyond, hunserved⟩ := served_below_search_paths pluginFiles ["plugins"] "extensions/../../secret"
  have hnone : Path.candidate "plugins" "extensions/../../secret" = none :=
    (hbeyond "plugins").1.2 ⟨"..".toList, by decide +kernel, .inr rfl⟩
  refine ⟨hpath, ?_, ?_, by decide +kernel, ?_⟩
  · rw [hplace, hbelow _ hplace]
    decide +kernel
  · rw [hserved]
    decide +kernel
  · rw [hunserved]
    simp [hnone]

end Locator

end ProviderRegistry
