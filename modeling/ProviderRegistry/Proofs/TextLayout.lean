import ProviderRegistry.Proofs.WrittenLines
import ProviderRegistry.Registry

/-! The layout of a manifest. A text that lists classes one to a line is scanned to these classes,
whatever white space, comments, empty lines and ends of lines it is laid out with, and each class is
found on the line it stands on. A text of any kind, a malformed one too, can be given other ends of
lines and white space and comments at the ends of its lines, and what a scan comes to stays the same
down to the text of the fault. -/

namespace ProviderRegistry

/-- Whether the line lists the class, or nothing where there is none. -/
def Manifest.Lists (line : String) (item : Option ProviderClass) : Prop :=
  Says line.toList (item.elim [] fun c => c.name.toList)

theorem Manifest.lists_some {line : String} {c : ProviderClass}
    (h : content line.toList = c.name.toList) : Lists line (some c) := by
  rw [Lists, Option.elim_some, ← h]
  exact says_content _

theorem Manifest.lists_none {line : String} (h : content line.toList = []) : Lists line none := by
  rw [Lists, Option.elim_none, ← h]
  exact says_content _

def entriesFrom (origin : String) (n : Nat) (items : List (Option ProviderClass)) : List Discovered :=
  (items.zipIdx n).filterMap fun i => i.1.map fun c => ⟨origin, i.2, c⟩

theorem found_entriesFrom (origin : String) (n : Nat) (items : List (Option ProviderClass)) :
    (entriesFrom origin n items).map (·.found) = items.reduceOption := by
  induction items generalizing n with
  | nil => rfl
  | cons o items ih =>
    have hr : entriesFrom origin n (o :: items) =
        (o.map fun c => (⟨origin, n, c⟩ : Discovered)).toList ++ entriesFrom origin (n + 1) items := by
      cases o <;> rfl
    rw [hr, List.map_append, ih]
    cases o <;> rfl

/-- The bytes of two texts that differ in their layout alone: their lines end each in its own way, and
the second has white space or comments at the ends of its lines that the first does not have. The lines
need not be well formed, nor even decodable. -/
def Text.Relaid (b b' : ByteArray) : Prop :=
  ∃ ls ls', Lined 10 13 ls b.data.toList ∧ Lined 10 13 ls' b'.data.toList ∧
    List.Forall₂ (fun l l' => ∃ extra, Manifest.Trails extra ∧ l' = l ++ encoded extra) ls ls'

/-- A resource in one tree and its like in another: what is read of them is the same, or they hold
texts that differ in their layout alone. -/
inductive Resource.Alike (files files' : FileTree) (r r' : Resource) : Prop
  | same (ho : r.origin = r'.origin) (h : r.read files = r'.read files')
  | relaid {b b' : ByteArray} (ho : r.origin = r'.origin) (h : r.Holds files b) (h' : r'.Holds files' b')
      (hl : Text.Relaid b b')

namespace Acceptance

open Text

structure Takes (a : Acceptance) (c : ProviderClass) : Prop where
  grammatical : QualifiedName.Grammatical c.name.toList
  resolved : a.resolve c.name = some c
  implemented : a.implements c = true

variable {a : Acceptance} {files files' : FileTree}

theorem readLine_of_lists {l : String} {o : Option ProviderClass} (h : Manifest.Lists l o)
    (ha : ∀ c ∈ o, a.Takes c) : a.readLine l = .ok o := by
  cases o with
  | none => exact readLine_of_reads (.blank h)
  | some c =>
    obtain ⟨hg, hr, hi⟩ := ha c rfl
    exact readLine_of_reads (.listed h hg hr hi)

theorem readLines_of_lists {ls : List String} {items : List (Option ProviderClass)}
    (h : List.Forall₂ Manifest.Lists ls items) (ha : ∀ c ∈ items.reduceOption, a.Takes c)
    (origin : String) (n : Nat) : a.readLines origin n ls = ⟨entriesFrom origin n items, none⟩ := by
  induction h generalizing n with
  | nil => rfl
  | @cons l o ls items hl _ ih =>
    have hline : a.readLine l = .ok o := readLine_of_lists hl fun c hc => ha c <| by
      rw [Option.mem_def.1 hc, List.reduceOption_cons_of_some]
      exact List.mem_cons_self
    have hrest := ih (fun c hc => ha c <| by
      rw [List.reduceOption_mem_iff] at hc ⊢
      exact List.mem_cons_of_mem o hc) (n + 1)
    rw [readLines, hline]
    cases o with
    | none => exact hrest
    | some c =>
      simp only [hrest]
      rfl

theorem said_of_relaid {ls ls' : List (List UInt8)}
    (h : List.Forall₂ (fun l l' => ∃ extra, Manifest.Trails extra ∧ l' = l ++ encoded extra) ls ls') :
    ls.map Manifest.said = ls'.map Manifest.said := by
  induction h with
  | nil => rfl
  | cons hl _ ih =>
    obtain ⟨extra, he, rfl⟩ := hl
    rw [List.map_cons, List.map_cons, Manifest.said_append _ he, ih]

theorem readResource_of_relaid {r r' : Resource} {b b' : ByteArray} (ho : r.origin = r'.origin)
    (h : r.Holds files b) (h' : r'.Holds files' b') (hl : Relaid b b') :
    a.readResource files r = a.readResource files' r' := by
  obtain ⟨ls, ls', hb, hb', hext⟩ := hl
  rw [readResource_lined h hb, readResource_lined h' hb', ho, said_of_relaid hext]

theorem readResource_of_alike {r r' : Resource} (h : r.Alike files files' r') :
    a.readResource files r = a.readResource files' r' := by
  cases h with
  | same ho hr => rw [readResource, readResource, hr, ho]
  | relaid ho h h' hl => exact readResource_of_relaid ho h h' hl

theorem readResources_of_alike {rs rs' : List Resource}
    (h : List.Forall₂ (Resource.Alike files files') rs rs') :
    a.readResources files rs = a.readResources files' rs' := by
  induction h with
  | nil => rfl
  | cons hr _ ih => rw [readResources_cons, readResources_cons, readResource_of_alike hr, ih]

theorem readResources_singleton (r : Resource) : a.readResources files [r] = a.readResource files r := by
  rw [readResources_cons]
  exact Findings.andThen_nothing _

end Acceptance

section

variable {files files' : FileTree} {point : String} {locator locator' : Locator} {a : Acceptance}

theorem scan_of_listing {r : Resource} {t : String} {lines : List String}
    {items : List (Option ProviderClass)}
    (hl : (locator.locate files (QualifiedName.resourceName point)).result = .ok [r])
    (hr : r.Holds files t.toUTF8) (hw : Text.Written lines t) (hi : List.Forall₂ Manifest.Lists lines items)
    (ha : ∀ c ∈ items.reduceOption, a.Takes c) :
    (scan files point locator a).result = .ok (entriesFrom r.origin 1 items) := by
  have hread : a.readResources files [r] = ⟨entriesFrom r.origin 1 items, none⟩ := by
    rw [Acceptance.readResources_singleton, Acceptance.readResource_written hr hw,
      Acceptance.readLines_of_lists hi ha]
  rw [scan_of_located hl, hread]

theorem scan_of_alike {rs rs' : List Resource}
    (hl : (locator.locate files (QualifiedName.resourceName point)).result = .ok rs)
    (hl' : (locator'.locate files' (QualifiedName.resourceName point)).result = .ok rs')
    (h : List.Forall₂ (Resource.Alike files files') rs rs') :
    (scan files point locator a).result = (scan files' point locator' a).result := by
  rw [scan_of_located hl, scan_of_located hl', Acceptance.readResources_of_alike h]

end

/-- A scan of one resource that holds a text, in memory or in a file, whose lines list classes or
nothing: if every class is found by its grammatical name and taken, the scan gives these classes in
their order, each with the number of its line. And whatever the resources of a scan hold, all bytes
being written in lines, the scan comes to the same, down to the text of its fault, if lines are given
the other end and white space or comments are put at their ends. -/
theorem scan_under_any_layout (point : String) (a : Acceptance) :
    (∀ (files : FileTree) (locator : Locator) (r : Resource) (t : String) (lines : List String)
        (items : List (Option ProviderClass)) (classes : List ProviderClass),
      (locator.locate files (QualifiedName.resourceName point)).result = .ok [r] →
      r.Holds files t.toUTF8 → Text.Written lines t → List.Forall₂ Manifest.Lists lines items →
      items.reduceOption = classes → (∀ c ∈ classes, a.Takes c) →
        (scan files point locator a).result = .ok (entriesFrom r.origin 1 items) ∧
          (entriesFrom r.origin 1 items).map (·.found) = classes) ∧
    (∀ b : ByteArray, ∃ ls, Text.Lined 10 13 ls b.data.toList) ∧
    ∀ (files files' : FileTree) (locator locator' : Locator) (rs rs' : List Resource),
      (locator.locate files (QualifiedName.resourceName point)).result = .ok rs →
      (locator'.locate files' (QualifiedName.resourceName point)).result = .ok rs' →
      List.Forall₂ (Resource.Alike files files') rs rs' →
        (scan files point locator a).result = (scan files' point locator' a).result := by
  refine ⟨?_, fun b => Text.exists_lined 10 13 b.data.toList, ?_⟩
  · rintro files locator r t lines items _ hl hr hw hi rfl ha
    exact ⟨scan_of_listing hl hr hw hi ha, found_entriesFrom _ _ _⟩
  · intro files files' locator locator' rs rs' hl hl' h
    exact scan_of_alike hl hl' h

def greeting : ExtensionPoint := ⟨0, "Greeting", "dyn Greeting", none⟩

def hello : ProviderClass := ⟨0, "_a::Ñandú", greeting, none, .makes⟩

def goodbye : ProviderClass := ⟨1, "Zip", greeting, none, .makes⟩

def greetingText : String := "\u00a0_a::Ñandú\t# one\r\n# none\n\nZip#two"

def relaidText : String := "\u00a0_a::Ñandú\t# one \n# none#\r\n \r\nZip#two\r\n"

def greetingFile : FileTree :=
  ⟨[], [(["extensions"], .directory), (["extensions", "Greeting"], .file relaidText.toUTF8)]⟩

theorem written_greeting :
    Text.Written ["\u00a0_a::Ñandú\t# one", "# none", "", "Zip#two"] greetingText := by
  apply Text.Lined.returned (by decide)
  apply Text.Lined.fed (by decide)
  apply Text.Lined.fed (by decide)
  exact Text.Lined.unended (by decide)

theorem written_relaid :
    Text.Written ["\u00a0_a::Ñandú\t# one ", "# none#", " ", "Zip#two"] relaidText := by
  apply Text.Lined.fed (by decide)
  apply Text.Lined.returned (by decide)
  apply Text.Lined.returned (by decide)
  exact Text.Lined.returned (by decide) .nothing

/-- Both are scanned to the two classes, on the first line and on the fourth. -/
theorem scan_under_any_layout_greeting :
    let a := acceptanceFor greeting (.ofClasses [hello, goodbye])
    let inMemory := Locator.memory [⟨"extensions/Greeting", "extensions/Greeting", greetingText⟩]
    let listed := [⟨"extensions/Greeting", 1, hello⟩, ⟨"extensions/Greeting", 4, goodbye⟩]
    greetingText ≠ relaidText ∧ (scan (.ofCwd []) "Greeting" inMemory a).result = .ok listed ∧
      (scan greetingFile "Greeting" (.directories [""]) a).result = .ok listed := by
  intro a inMemory listed
  have takes : ∀ c ∈ [hello, goodbye], a.Takes c := by
    intro c hc
    simp only [List.mem_cons, List.not_mem_nil, or_false] at hc
    rcases hc with rfl | rfl
    · exact ⟨QualifiedName.wellFormed_iff.1 (by decide +kernel), rfl, rfl⟩
    · exact ⟨QualifiedName.wellFormed_iff.1 (by decide +kernel), rfl, rfl⟩
  have lists : List.Forall₂ Manifest.Lists ["\u00a0_a::Ñandú\t# one", "# none", "", "Zip#two"]
      [some hello, none, none, some goodbye] := by
    refine .cons ?_ (.cons ?_ (.cons ?_ (.cons ?_ .nil)))
    · exact Manifest.lists_some (by decide +kernel)
    · exact Manifest.lists_none (by decide +kernel)
    · exact Manifest.lists_none (by decide +kernel)
    · exact Manifest.lists_some (by decide +kernel)
  have relaid : Text.Relaid greetingText.toUTF8 relaidText.toUTF8 := by
    refine ⟨_, _, written_greeting.lined, written_relaid.lined, ?_⟩
    refine .cons ?_ (.cons ?_ (.cons ?_ (.cons ?_ .nil)))
    · exact ⟨[' '], Manifest.trails_blank (by decide), by decide +kernel⟩
    · exact ⟨['#'], Manifest.trails_comment [], by decide +kernel⟩
    · exact ⟨[' '], Manifest.trails_blank (by decide), by decide +kernel⟩
    · exact ⟨[], Manifest.trails_nil, by decide +kernel⟩
  obtain ⟨listing, -, alike⟩ := scan_under_any_layout "Greeting" a
  have hmemory := (listing (.ofCwd []) inMemory (.ofText "extensions/Greeting" greetingText) _ _ _ _ rfl rfl
    written_greeting lists rfl takes).1
  have hsame := alike (.ofCwd []) greetingFile inMemory (.directories [""]) _
    [.ofFile "extensions/Greeting"] rfl rfl (.cons (.relaid rfl rfl rfl relaid) .nil)
  exact ⟨by decide, hmemory, hsame ▸ hmemory⟩

end ProviderRegistry
