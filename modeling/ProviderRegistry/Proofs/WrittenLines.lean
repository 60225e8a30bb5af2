import ProviderRegistry.Proofs.EncodedLines

/-! Resources written line by line. A carriage return at the end of a line may be taken for a part of
its end; it is white space, so it makes no difference to what the line says, and what a scan finds in a
resource depends on what its lines say alone, be it a text in memory or a file of any bytes. -/

namespace ProviderRegistry

namespace Text

def Written (ls : List String) (t : String) : Prop := Lined '\n' '\r' (ls.map String.toList) t.toList

theorem Written.lined {ls : List String} {t : String} (h : Written ls t) :
    Lined 10 13 (ls.map fun l => Text.encoded l.toList) t.toUTF8.data.toList := by
  have hl := Lined.encoded h
  rwa [List.map_map, ← bytes_toUTF8] at hl

end Text

namespace Manifest

/-- White space and then a comment, either of which may be missing. -/
def Trails (extra : List Char) : Prop :=
  ∃ blank comment, extra = blank ++ comment ∧ (∀ c ∈ blank, Text.isBlank c) ∧
    ∀ c ∈ comment.head?, c = '#'

/-- What stands behind a line is lost in the white space behind what the line says or in its comment. -/
theorem Says.append {line text extra : List Char} (h : Says line text) (he : Trails extra) :
    Says (line ++ extra) text := by
  obtain ⟨left, right, comment, rfl, hl, hr, hn, hc, hends⟩ := h
  obtain ⟨blank, tail, rfl, hb, ht⟩ := he
  by_cases hcomment : comment = []
  · refine ⟨left, right ++ blank, tail, by simp [hcomment], hl, ?_, hn, ht, hends⟩
    intro c hm
    rcases List.mem_append.1 hm with hm | hm
    · exact hr c hm
    · exact hb c hm
  · refine ⟨left, right, comment ++ (blank ++ tail), by simp, hl, hr, hn, ?_, hends⟩
    rwa [List.head?_append_of_ne_nil _ hcomment]

theorem readLine_append (l : String) {extra : List Char} (he : Trails extra) :
    readLine (l ++ String.ofList extra) = readLine l := by
  have hs := says_content l.toList
  have hc : content (l ++ String.ofList extra).toList = content l.toList := by
    rw [String.toList_append, String.toList_ofList, (hs.append he).content_eq]
  rw [readLine, readLine, hc]

theorem trails_nil : Trails [] := ⟨[], [], rfl, by simp, by simp⟩

theorem trails_blank {c : Char} (h : Text.isBlank c) : Trails [c] := ⟨[c], [], rfl, by simpa using h, by simp⟩

theorem trails_comment (cs : List Char) : Trails ('#' :: cs) := ⟨[], '#' :: cs, rfl, by simp, by simp⟩

abbrev Saying := Except ReadFault (Except LineFault (Option String))

def said (l : List UInt8) : Saying :=
  (decoded l).map readLine

theorem said_encoded (l : String) : said (Text.encoded l.toList) = .ok (readLine l) := by
  rw [said, Text.decoded_encoded, String.ofList_toList]
  rfl

theorem said_append (l : List UInt8) {extra : List Char} (he : Trails extra) :
    said (l ++ Text.encoded extra) = said l := by
  rw [said, said, Text.decoded_append]
  cases decoded l with
  | error f => rfl
  | ok s => exact congrArg Except.ok (readLine_append s he)

/-- What the lines say, however they are ended; an empty line without an end is no line and says
nothing. -/
theorem said_of_lined {ls : List (List UInt8)} {b : List UInt8} (h : Text.Lined 10 13 ls b) :
    ∃ rest, (rest = [] ∨ rest = [.ok (.ok none)]) ∧
      ls.map said = ((Text.segments 10 b).map (Text.endStripped 13)).map said ++ rest := by
  induction h with
  | nothing => exact ⟨[], .inl rfl, rfl⟩
  | @unended l hl =>
    rw [Text.segments_of_not_mem hl]
    by_cases hn : l = []
    · subst hn
      exact ⟨[.ok (.ok none)], .inr rfl, by decide⟩
    · exact ⟨[], .inl rfl, by simp [hn, Text.endStripped]⟩
  | @fed l t ls hl _ ih =>
    obtain ⟨rest, hrest, ih⟩ := ih
    have hend : said l = said (Text.endStripped 13 (l, true)) := by
      rcases Text.endStripped_spec 13 l with he | he
      · exact congrArg said he
      · conv => lhs; rw [he]
        have hreturn : Text.isBlank '\r' := by decide
        exact said_append _ (trails_blank hreturn)
    refine ⟨rest, hrest, ?_⟩
    rw [Text.segments_append hl]
    simp only [List.map_cons, List.cons_append, ih, hend]
  | @returned l t ls hl _ ih =>
    obtain ⟨rest, hrest, ih⟩ := ih
    refine ⟨rest, hrest, ?_⟩
    rw [Text.segments_append_return (by decide) hl]
    simp only [List.map_cons, List.cons_append, ih, Text.endStripped_return]

end Manifest

/-- Whether the resource opens and holds the bytes, in memory or in a file. -/
def Resource.Holds (files : FileTree) (r : Resource) (b : ByteArray) : Prop :=
  match r.content with
  | .text t => t.toUTF8 = b
  | .file path => files.read path = .ok (.file b)

theorem Resource.Holds.read_eq {files : FileTree} {r : Resource} {b : ByteArray} (h : r.Holds files b) :
    r.read files = .ok (Readout.of ((Text.byteLines b).map decoded)) := by
  unfold Holds at h
  unfold read
  cases hc : r.content with
  | text t =>
    simp only [hc] at h
    rw [← h, Text.decoded_byteLines, Readout.of_map_ok]
  | file path =>
    simp only [hc] at h
    simp only [h, Readout.ofBytes_eq]

namespace Findings

theorem andThen_nothing (fs : Findings) : fs.andThen .nothing = fs := by
  obtain ⟨found, fault⟩ := fs
  cases fault
  · exact congrArg (Findings.mk · none) (List.append_nil found)
  · rfl

end Findings

namespace Acceptance

variable {a : Acceptance} {files : FileTree}

def listed (a : Acceptance) : Except Manifest.LineFault (Option String) →
    Except LineProblem (Option ProviderClass)
  | .error e => .error (.malformed e)
  | .ok none => .ok none
  | .ok (some name) =>
    match a.resolve name with
    | none => .error (.notFound name)
    | some c => if a.implements c then .ok (some c) else .error (.notASubtype name)

theorem readLine_eq (a : Acceptance) (l : String) : a.readLine l = a.listed (Manifest.readLine l) := by
  unfold readLine listed
  rfl

def readSaid (a : Acceptance) (origin : String) (n : Nat) : List Manifest.Saying → Findings
  | [] => .nothing
  | .error f :: _ => .stopped (.reading origin f)
  | .ok s :: r =>
    match a.listed s with
    | .error p => .stopped (.line origin n p)
    | .ok none => readSaid a origin (n + 1) r
    | .ok (some c) => .andThen ⟨[⟨origin, n, c⟩], none⟩ (readSaid a origin (n + 1) r)

theorem readSaid_map (a : Acceptance) (origin : String) (n : Nat) (ls : List (Except ReadFault String)) :
    a.readSaid origin n (ls.map (·.map Manifest.readLine)) =
      (a.readLines origin n (Readout.of ls).lines).andThen
        ⟨[], (Readout.of ls).fault.map (.reading origin)⟩ := by
  induction ls generalizing n with
  | nil => rfl
  | cons l r ih =>
    cases l with
    | error f => rfl
    | ok s =>
      simp only [List.map_cons, Except.map, readSaid, Readout.of, readLines, readLine_eq]
      cases a.listed (Manifest.readLine s) with
      | error p => rfl
      | ok o =>
        cases o with
        | none => exact ih (n + 1)
        | some c =>
          simp only [Findings.andThen_assoc]
          exact congrArg _ (ih (n + 1))

theorem readSaid_append_nothing (a : Acceptance) (origin : String) (n : Nat) (ss : List Manifest.Saying) :
    a.readSaid origin n (ss ++ [.ok (.ok none)]) = a.readSaid origin n ss := by
  fun_induction a.readSaid origin n ss with
  | case1 => rfl
  | case2 => rfl
  | case3 n s r p h => simp [readSaid, h]
  | case4 n s r h ih => simpa [readSaid, h] using ih
  | case5 n s r c h ih => simp [readSaid, h, ih]

theorem readResource_lined {r : Resource} {b : ByteArray} {ls : List (List UInt8)}
    (h : r.Holds files b) (hl : Text.Lined 10 13 ls b.data.toList) :
    a.readResource files r = a.readSaid r.origin 1 (ls.map Manifest.said) := by
  have hread : a.readResource files r =
      a.readSaid r.origin 1 ((Text.byteLines b).map Manifest.said) := by
    have hm := a.readSaid_map r.origin 1 ((Text.byteLines b).map decoded)
    rw [List.map_map] at hm
    rw [readResource, h.read_eq]
    exact hm.symm
  obtain ⟨rest, hrest, hsaid⟩ := Manifest.said_of_lined hl
  rw [hread, hsaid, ← Text.byteLines]
  rcases hrest with rfl | rfl
  · rw [List.append_nil]
  · rw [readSaid_append_nothing]

theorem readResource_written {r : Resource} {t : String} {ls : List String}
    (h : r.Holds files t.toUTF8) (hw : Text.Written ls t) :
    a.readResource files r = a.readLines r.origin 1 ls := by
  have hm := a.readSaid_map r.origin 1 (ls.map .ok)
  rw [Readout.of_map_ok, List.map_map] at hm
  have hs : ls.map (Manifest.said ∘ fun l => Text.encoded l.toList) =
      ls.map ((·.map Manifest.readLine) ∘ Except.ok) :=
    List.map_congr_left fun l _ => Manifest.said_encoded l
  rw [readResource_lined h hw.lined, List.map_map, hs, hm]
  exact Findings.andThen_nothing _

end Acceptance

end ProviderRegistry
