import Mathlib.Tactic
import ProviderRegistry.Proofs.EncodedLines
import ProviderRegistry.Settings.Load

/-! Files read back from where they were written. A write puts its bytes at the place that its path leads
to, where no directory stood, so every walk through the tree goes on as before and the path leads to that
place afterwards. A path that is taken from the working directory, and not from the root, is the same as
the path from the root down to the working directory with it behind, in any tree that holds its working
directory; but that path may be too long to be read. -/

namespace ProviderRegistry.FileTree

variable {t s : FileTree} {place q : List String} {n : Node} {path segment : String} {bytes : ByteArray}

theorem node?_put_self (h : place ≠ []) (n : Node) : (t.put place n).node? place = some n := by
  have hnone : (t.nodes.filter (fun e => e.1 != place)).find? (fun e => e.1 == place) = none := by
    simp [List.find?_eq_none]
  simp [node?, put, h, List.find?_append, hnone]

theorem node?_put_ne (h : q ≠ place) (n : Node) : (t.put place n).node? q = t.node? q := by
  have hkept : (t.nodes.filter (fun e => e.1 != place)).find? (fun e => e.1 == q) =
      t.nodes.find? fun e => e.1 == q := by
    rw [List.find?_filter]
    congr 1
    funext e
    by_cases he : e.1 = q
    · simp [he, h]
    · simp [he]
  simp [node?, put, List.find?_append, hkept, Ne.symm h]

theorem ne_root_of_node? (h : t.node? place ≠ some .directory) : place ≠ [] := by
  rintro rfl
  exact h rfl

theorem node?_put (h : t.node? place ≠ some .directory) (n : Node) (q : List String) :
    (t.put place n).node? q = if q = place then some n else t.node? q := by
  split_ifs with hq
  · rw [hq, node?_put_self (ne_root_of_node? h)]
  · exact node?_put_ne hq n

/-- The tree has the directories of the other one, and something at least wherever that has something. -/
structure Covers (s t : FileTree) : Prop where
  cwd : s.cwd = t.cwd
  directory : ∀ q, t.node? q = some .directory → s.node? q = some .directory
  taken : ∀ q, (t.node? q).isSome → (s.node? q).isSome

theorem Covers.step (h : Covers s t) (hq : t.step place segment = .ok q) : s.step place segment = .ok q := by
  unfold FileTree.step at hq ⊢
  cases ht : t.node? place with
  | none =>
    rw [ht] at hq
    cases hq
  | some n =>
    rw [ht] at hq
    cases n with
    | file b => cases hq
    | directory =>
      rw [h.directory _ ht]
      simp only at hq ⊢
      split_ifs at hq with h1 h2 h3 h4
      · rw [if_pos h1, hq]
      · rw [if_neg h1, if_pos h2, hq]
      · rw [if_neg h1, if_neg h2, if_neg h3, if_pos (h.taken _ h4), hq]

theorem Covers.walk (h : Covers s t) {segments : List String} (hq : t.walk place segments = .ok q) :
    s.walk place segments = .ok q := by
  induction segments generalizing place with
  | nil => exact hq
  | cons segment segments ih =>
    rw [FileTree.walk, List.foldlM_cons] at hq ⊢
    cases hs : t.step place segment with
    | error e =>
      rw [hs] at hq
      cases hq
    | ok p =>
      rw [hs] at hq
      rw [h.step hs]
      exact ih hq

theorem Covers.start (h : Covers s t) (path : String) : s.start path = t.start path := by
  rw [FileTree.start, FileTree.start, h.cwd]

theorem Covers.locate (h : Covers s t) (hq : t.locate path = .ok q) : s.locate path = .ok q := by
  unfold FileTree.locate at hq ⊢
  cases hf : pathFault? path with
  | some e =>
    rw [hf] at hq
    cases hq
  | none =>
    rw [hf] at hq
    rw [h.start]
    exact h.walk hq

theorem covers_put (h : t.node? place ≠ some .directory) (n : Node) : Covers (t.put place n) t := by
  refine ⟨rfl, fun q hq => ?_, fun q hq => ?_⟩
  · rw [node?_put h, if_neg, hq]
    rintro rfl
    exact h hq
  · rw [node?_put h]
    split_ifs
    · rfl
    · exact hq

theorem walk_append {p : List String} {a b : List String} (h : t.walk place a = .ok p) :
    t.walk place (a ++ b) = t.walk p b := by
  rw [walk, List.foldlM_append]
  change (t.walk place a >>= fun p => t.walk p b) = _
  rw [h]
  rfl

theorem walk_split {a b : List String} (h : t.walk place (a ++ b) = .ok q) :
    ∃ p, t.walk place a = .ok p ∧ t.walk p b = .ok q := by
  cases ha : t.walk place a with
  | error e =>
    rw [walk, List.foldlM_append] at h
    change (t.walk place a >>= fun p => t.walk p b) = _ at h
    rw [ha] at h
    cases h
  | ok p => exact ⟨p, rfl, by rwa [walk_append ha] at h⟩

theorem walk_singleton (t : FileTree) (place : List String) (segment : String) :
    t.walk place [segment] = t.step place segment := by
  rw [walk, List.foldlM_cons]
  cases t.step place segment <;> rfl

theorem directory_of_stay (h : t.step place "." = .ok q) : t.node? place = some .directory ∧ q = place := by
  unfold step at h
  cases ht : t.node? place with
  | none =>
    rw [ht] at h
    cases h
  | some n =>
    rw [ht] at h
    cases n with
    | file b => cases h
    | directory =>
      cases h
      exact ⟨rfl, rfl⟩

theorem step_notFound (hd : t.node? place = some .directory) (hr : Path.isRelativeStep segment = false)
    (h : t.step place segment = .error .notFound) :
    t.node? (place ++ [segment]) = none ∧
      (t.put (place ++ [segment]) n).step place segment = .ok (place ++ [segment]) := by
  simp only [Path.isRelativeStep, Bool.or_eq_false_iff, beq_eq_false_iff_ne] at hr
  have hne : place ++ [segment] ≠ [] := by simp
  have hplace : place ≠ place ++ [segment] := by simp
  simp only [step, hd, if_neg hr.1, if_neg hr.2] at h
  by_cases hl : segment.utf8ByteSize > 255
  · rw [if_pos hl] at h
    cases h
  · rw [if_neg hl] at h
    split_ifs at h with hs
    refine ⟨by simpa using hs, ?_⟩
    simp only [step, node?_put_ne hplace, hd, node?_put_self hne, if_neg hr.1, if_neg hr.2, if_neg hl,
      Option.isSome_some, if_true]

/-- What a write that succeeds comes to: the path is in order and leads to a place where no directory
stood, and there are the bytes now, all else being as it was. -/
structure Wrote (t : FileTree) (path : String) (bytes : ByteArray) (s : FileTree) (place : List String) :
    Prop where
  fault : pathFault? path = none
  noSlash : Path.endsInSlash path = false
  free : t.node? place ≠ some .directory
  cwd : s.cwd = t.cwd
  node : ∀ q, s.node? q = if q = place then some (.file bytes) else t.node? q
  located : s.locate path = .ok place

theorem freePlace_spec (h : t.freePlace path = .ok place) :
    ∃ parent last, t.walk (t.start path) (Path.segments path).dropLast = .ok parent ∧
      t.node? parent = some .directory ∧ (Path.segments path).getLast? = some last ∧
      Path.isRelativeStep last = false ∧ t.step parent last = .error .notFound ∧
      place = parent ++ [last] := by
  unfold freePlace at h
  cases hd : t.directoryOf path with
  | error e =>
    rw [hd] at h
    cases h
  | ok parent =>
    obtain ⟨p, hp, hstay⟩ := walk_split hd
    rw [walk_singleton] at hstay
    obtain ⟨hdir, rfl⟩ := directory_of_stay hstay
    cases hl : (Path.segments path).getLast? with
    | none =>
      rw [hd, hl] at h
      cases h
    | some last =>
      rw [hd, hl] at h
      simp only at h
      split_ifs at h with hr
      cases hs : t.step parent last with
      | ok q =>
        rw [hs] at h
        cases h
      | error e =>
        rw [hs] at h
        cases e <;> cases h
        exact ⟨parent, last, hp, hdir, rfl, by simpa using hr, hs, rfl⟩

theorem steps_of_noSlash (h : Path.endsInSlash path = false) : steps path = Path.segments path := by
  simp [steps, h]

theorem locate_of_fault (h : pathFault? path = none) :
    t.locate path = t.walk (t.start path) (steps path) := by
  rw [locate, h]

theorem locate_freePlace (hf : pathFault? path = none) (hs : Path.endsInSlash path = false)
    (h : t.freePlace path = .ok place) (n : Node) :
    t.node? place ≠ some .directory ∧ (t.put place n).locate path = .ok place := by
  obtain ⟨parent, last, hp, hdir, hl, hr, hstep, rfl⟩ := freePlace_spec h
  obtain ⟨hfree, hput⟩ := step_notFound (n := n) hdir hr hstep
  have hnot : t.node? (parent ++ [last]) ≠ some .directory := by
    rw [hfree]
    nofun
  have hcovers := covers_put hnot n
  refine ⟨hnot, ?_⟩
  rw [locate_of_fault hf, steps_of_noSlash hs, hcovers.start,
    ← List.dropLast_append_getLast? _ hl, walk_append (hcovers.walk hp), walk_singleton, hput]

theorem openFile_spec {t' : FileTree} (h : t.openFile path = .ok (t', place)) :
    pathFault? path = none ∧ Path.endsInSlash path = false ∧ t.node? place ≠ some .directory ∧
      t'.locate path = .ok place ∧ (t' = t ∨ t' = t.put place (.file .empty)) := by
  unfold openFile at h
  cases hf : pathFault? path with
  | some e =>
    rw [hf] at h
    cases h
  | none =>
    cases hd : t.directoryOf path with
    | error e =>
      rw [hf, hd] at h
      cases h
    | ok parent =>
      cases hl : t.locate path with
      | ok q =>
        rw [hf, hd, hl] at h
        simp only at h
        split at h
        · rename_i b hnode hslash
          cases h
          exact ⟨rfl, hslash, by rw [hnode]; nofun, hl, .inl rfl⟩
        · cases h
      | error e =>
        rw [hf, hd, hl] at h
        simp only at h
        split_ifs at h with hslash he
        cases hfree : t.freePlace path with
        | error e =>
          rw [hfree] at h
          cases h
        | ok q =>
          rw [hfree] at h
          cases h
          have hs : Path.endsInSlash path = false := by simpa using hslash
          obtain ⟨hnot, hloc⟩ := locate_freePlace hf hs hfree (.file .empty)
          exact ⟨rfl, hs, hnot, hloc, .inr rfl⟩

theorem wrote_of_write (h : t.write path bytes = .ok s) : ∃ place, t.Wrote path bytes s place := by
  unfold write at h
  cases ho : t.openFile path with
  | error e =>
    rw [ho] at h
    cases h
  | ok p =>
    rw [ho] at h
    cases h
    obtain ⟨t', place⟩ := p
    obtain ⟨hf, hs, hnot, hloc, ht'⟩ := openFile_spec ho
    have hnot' : t'.node? place ≠ some .directory := by
      rcases ht' with rfl | rfl
      · exact hnot
      · rw [node?_put_self (ne_root_of_node? hnot)]
        nofun
    refine ⟨place, hf, hs, hnot, ?_, fun q => ?_, (covers_put hnot' _).locate hloc⟩
    · rcases ht' with rfl | rfl <;> rfl
    · rw [node?_put hnot']
      rcases ht' with rfl | rfl
      · rfl
      · rw [node?_put hnot]
        split_ifs <;> rfl

theorem Wrote.read {t s : FileTree} (h : t.Wrote path bytes s place) : s.read path = .ok (.file bytes) := by
  simp [FileTree.read, h.located, h.node]

theorem Wrote.exists? {t s : FileTree} (h : t.Wrote path bytes s place) : s.exists? path := by
  rw [FileTree.exists?, h.read]
  rfl

structure ProperName (name : String) : Prop where
  nonempty : name ≠ ""
  slash : '/' ∉ name.toList
  nul : '\x00' ∉ name.toList
  relative : Path.isRelativeStep name = false
  short : name.utf8ByteSize ≤ 255

theorem ProperName.step_eq {name : String} (h : ProperName name) (hd : t.node? place = some .directory) :
    t.step place name =
      if (t.node? (place ++ [name])).isSome then .ok (place ++ [name]) else .error .notFound := by
  have hrel := h.relative
  have hshort := h.short
  simp only [Path.isRelativeStep, Bool.or_eq_false_iff, beq_eq_false_iff_ne] at hrel
  simp only [step, hd, if_neg hrel.1, if_neg hrel.2]
  rw [if_neg (by omega)]

/-- A tree that holds its working directory and all directories above it, each under a name that a
directory can have. -/
structure Homed (t : FileTree) : Prop where
  names : ∀ name ∈ t.cwd, ProperName name
  directories : ∀ q, q <+: t.cwd → t.node? q = some .directory

def absolute (t : FileTree) (path : String) : String := Path.join (Path.ofPlace t.cwd) path

def slashed (names : List String) : List Char := names.flatMap fun name => '/' :: name.toList

theorem toList_ofPlace (h : place ≠ []) : (Path.ofPlace place).toList = slashed place := by
  have hjoin : ∀ (name : String) (names : List String),
      (String.intercalate "/" (name :: names)).toList = name.toList ++ slashed names := by
    intro name names
    induction names generalizing name with
    | nil => simp [slashed]
    | cons next names ih => simp [String.intercalate_cons_cons, ih, slashed]
  cases place with
  | nil => exact absurd rfl h
  | cons name names => simp [Path.ofPlace, hjoin, slashed]

def named (cs : List Char) : List String :=
  ((Text.segments '/' cs).map fun s => String.ofList s.1).filter (· ≠ "")

theorem segments_eq_named (path : String) : Path.segments path = named path.toList := rfl

theorem named_slash (cs : List Char) : named ('/' :: cs) = named cs := by
  simp [named, Text.segments]

theorem named_slashed {names : List String} (h : ∀ name ∈ names, ProperName name) (cs : List Char) :
    named (slashed names ++ '/' :: cs) = names ++ named cs := by
  induction names with
  | nil => exact named_slash cs
  | cons name names ih =>
    obtain ⟨hname, hnames⟩ := List.forall_mem_cons.1 h
    -- behind every name stands a slash, of the next name or of the rest
    obtain ⟨r, hr⟩ : ∃ r, slashed names ++ '/' :: cs = '/' :: r := by
      cases names with
      | nil => exact ⟨_, rfl⟩
      | cons next names => exact ⟨_, rfl⟩
    have hrest := ih hnames
    rw [hr, named_slash] at hrest
    have hsplit : slashed (name :: names) ++ '/' :: cs = '/' :: (name.toList ++ '/' :: r) := by
      rw [← hr]
      simp [slashed]
    rw [hsplit, named_slash, named, Text.segments_append hname.slash]
    simp only [List.map_cons, String.ofList_toList]
    rw [List.filter_cons_of_pos (by simpa using hname.nonempty), ← named, hrest]
    rfl

theorem endsInSlash_ofPlace (h : ∀ name ∈ place, ProperName name) (hne : place ≠ []) :
    Path.endsInSlash (Path.ofPlace place) = false := by
  rw [Path.endsInSlash, toList_ofPlace hne]
  have hlast := h _ (List.getLast_mem hne)
  rw [← List.dropLast_append_getLast hne, slashed, List.flatMap_append, List.flatMap_singleton,
    List.getLast?_append, List.getLast?_cons]
  have hmem : (place.getLast hne).toList.getLast? ≠ some '/' := fun he =>
    hlast.slash (List.mem_of_getLast? he)
  cases hl : (place.getLast hne).toList.getLast? with
  | none => exact absurd (by simpa using hl) hlast.nonempty
  | some c =>
    rw [hl] at hmem
    simpa using hmem

theorem toList_absolute (h : t.Homed) (path : String) :
    (t.absolute path).toList = slashed t.cwd ++ '/' :: path.toList := by
  rw [absolute, Path.join]
  by_cases hne : t.cwd = []
  · rw [hne, if_neg (by decide), if_pos (by decide)]
    simp [slashed, Path.ofPlace]
  · have hplace : Path.ofPlace t.cwd ≠ "" := by
      simp [Path.ofPlace]
    rw [if_neg hplace, endsInSlash_ofPlace h.names hne, if_neg (by decide)]
    simp [toList_ofPlace hne]

theorem walk_cwd (h : t.Homed) : t.walk [] t.cwd = .ok t.cwd := by
  have hdown : ∀ names before, t.cwd = before ++ names → t.walk before names = .ok t.cwd := by
    intro names
    induction names with
    | nil =>
      intro before he
      rw [he, List.append_nil]
      rfl
    | cons name names ih =>
      intro before he
      have hname : ProperName name := h.names name (by simp [he])
      have hhere : t.node? before = some .directory := h.directories _ (by simp [he])
      have hnext : t.node? (before ++ [name]) = some .directory := h.directories _ (by simp [he])
      have hstep : t.step before name = .ok (before ++ [name]) := by
        rw [hname.step_eq hhere, hnext]
        rfl
      rw [walk, List.foldlM_cons, hstep]
      exact ih (before ++ [name]) (by rw [he, List.append_assoc]; rfl)
  exact hdown t.cwd [] rfl

/-- A path that leads to a file from the working directory leads there from the root too, unless it is too
long then. -/
theorem locate_absolute (h : t.Homed) (hrel : Path.isAbsolute path = false) (hf : pathFault? path = none)
    (hs : Path.endsInSlash path = false) (hshort : (t.absolute path).utf8ByteSize < 4096) :
    t.locate (t.absolute path) = t.locate path := by
  have hlist := toList_absolute h path
  have hne : path.toList ≠ [] := by
    intro he
    have : path = "" := by simpa using he
    simp [pathFault?, this] at hf
  have habs : Path.isAbsolute (t.absolute path) = true := by
    rw [Path.isAbsolute, hlist]
    cases t.cwd <;> simp [slashed]
  have hfault : pathFault? (t.absolute path) = none := by
    have hnul : '\x00' ∉ (t.absolute path).toList := by
      rw [hlist]
      simp only [pathFault?] at hf
      have hpath : '\x00' ∉ path.toList := by
        intro hmem
        simp [hmem] at hf
      have hcwd : '\x00' ∉ slashed t.cwd := by
        simp only [slashed, List.mem_flatMap, not_exists, not_and]
        intro name hname
        simpa using (h.names name hname).nul
      simp [hcwd, hpath]
    have hnonempty : t.absolute path ≠ "" := by
      intro he
      rw [he] at habs
      cases habs
    simp [pathFault?, hnul, hnonempty, hshort]
  have hslash : Path.endsInSlash (t.absolute path) = false := by
    rw [Path.endsInSlash] at hs ⊢
    rw [hlist, List.getLast?_append, List.getLast?_cons]
    cases hl : path.toList.getLast? with
    | none => exact absurd (by simpa using hl) hne
    | some c =>
      rw [hl] at hs
      simpa using hs
  have hsegments : Path.segments (t.absolute path) = t.cwd ++ Path.segments path := by
    rw [segments_eq_named, hlist, named_slashed h.names, segments_eq_named]
  rw [locate_of_fault hfault, locate_of_fault hf, steps_of_noSlash hslash, steps_of_noSlash hs, hsegments,
    start, start, if_pos habs, hrel, walk_append (walk_cwd h)]
  rfl

/-- The path is not too long to be read once the working directory stands before it; one from the root
never is. -/
def Reachable (t : FileTree) (path : String) : Prop :=
  Path.isAbsolute path ∨ (t.absolute path).utf8ByteSize < 4096

theorem getLast?_downTo (d : String) (r : List String) : (downTo (d :: r)).getLast? = some (d :: r) := by
  induction r generalizing d with
  | nil => rfl
  | cons e r ih => rw [downTo, List.getLast?_cons, List.getLast?_map, ih e, Option.map_some, Option.getD_some]

theorem head?_bases (cwd : List String) : ((downTo cwd).reverse ++ [[]]).head? = some cwd := by
  cases cwd with
  | nil => rfl
  | cons d r => rw [List.head?_append, List.head?_reverse, getLast?_downTo, Option.some_or]

theorem findFile_of_isAbsolute (ha : Path.isAbsolute path = true) (h : s.read path = .ok (.file bytes)) :
    s.findFile path = some (path, bytes) := by
  simp [findFile, ha, h]

theorem findFile_of_absolute (hrel : Path.isAbsolute path = false)
    (h : s.read (s.absolute path) = .ok (.file bytes)) : s.findFile path = some (s.absolute path, bytes) := by
  obtain ⟨bases, hbases⟩ := List.head?_eq_some_iff.1 (head?_bases s.cwd)
  have hfirst : s.read (Path.join (Path.ofPlace s.cwd) path) = .ok (.file bytes) := h
  simp only [findFile, hrel, Bool.false_eq_true, if_false, hbases, List.findSome?_cons, hfirst]
  rfl

theorem Wrote.findFile {t s : FileTree} (h : t.Wrote path bytes s place) (hs : s.Homed)
    (hr : s.Reachable path) : ∃ full, s.findFile path = some (full, bytes) := by
  by_cases ha : Path.isAbsolute path = true
  · exact ⟨_, findFile_of_isAbsolute ha h.read⟩
  · have hrel : Path.isAbsolute path = false := by simpa using ha
    have hloc := locate_absolute hs hrel h.fault h.noSlash (hr.resolve_left ha)
    refine ⟨_, findFile_of_absolute hrel ?_⟩
    rw [FileTree.read, hloc, ← FileTree.read, h.read]

theorem mem_downTo {cwd : List String} (hne : q ≠ []) (h : q <+: cwd) : q ∈ downTo cwd := by
  induction cwd generalizing q with
  | nil => exact absurd (List.prefix_nil.1 h) hne
  | cons d r ih =>
    cases q with
    | nil => exact absurd rfl hne
    | cons e q =>
      obtain ⟨rfl, hq⟩ := List.cons_prefix_cons.1 h
      by_cases hnil : q = []
      · subst hnil
        exact List.mem_cons_self
      · exact List.mem_cons_of_mem _ (List.mem_map_of_mem (ih hnil hq))

theorem homed_ofCwd {cwd : List String} (h : ∀ name ∈ cwd, ProperName name) : (ofCwd cwd).Homed := by
  refine ⟨h, fun q hq => ?_⟩
  by_cases hne : q = []
  · subst hne
    rfl
  · have hmem : (q, Node.directory) ∈ (ofCwd cwd).nodes := List.mem_map_of_mem (mem_downTo hne hq)
    rw [node?, if_neg (by simpa using hne)]
    cases hf : (ofCwd cwd).nodes.find? fun e => e.1 == q with
    | none => exact absurd (beq_self_eq_true q) (List.find?_eq_none.1 hf _ hmem)
    | some e =>
      obtain ⟨p, -, rfl⟩ := List.mem_map.1 (List.mem_of_find?_eq_some hf)
      rfl

theorem Homed.put (h : t.Homed) (hn : n = .directory ∨ t.node? place ≠ some .directory) :
    (t.put place n).Homed := by
  refine ⟨h.names, fun q hq => ?_⟩
  have hd := h.directories q hq
  by_cases hp : q = place
  · subst hp
    rcases hn with rfl | hn
    · by_cases hroot : q = []
      · subst hroot
        rfl
      · exact node?_put_self hroot _
    · exact absurd hd hn
  · rw [node?_put_ne hp, hd]

theorem Homed.makeDirectory (h : t.Homed) (hm : t.makeDirectory path = .ok s) : s.Homed := by
  unfold FileTree.makeDirectory at hm
  split at hm
  · cases hm
  · cases hf : t.freePlace path with
    | error e =>
      rw [hf] at hm
      cases hm
    | ok place =>
      rw [hf] at hm
      cases hm
      exact h.put (.inl rfl)

theorem Homed.makeDirectories (h : t.Homed) (place : List String) : (t.makeDirectories place).Homed := by
  unfold FileTree.makeDirectories
  induction downTo place generalizing t with
  | nil => exact h
  | cons p ps ih =>
    rw [List.foldl_cons]
    split_ifs
    · exact ih h
    · exact ih (h.put (.inl rfl))

theorem Wrote.homed {t s : FileTree} (h : t.Wrote path bytes s place) (ht : t.Homed) : s.Homed := by
  refine ⟨by rw [h.cwd]; exact ht.names, fun q hq => ?_⟩
  rw [h.cwd] at hq
  have hd := ht.directories q hq
  rw [h.node, if_neg, hd]
  rintro rfl
  exact h.free hd

end ProviderRegistry.FileTree
