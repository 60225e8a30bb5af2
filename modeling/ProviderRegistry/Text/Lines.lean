/-!
A text cut into lines. A line feed ends a line, and one carriage return right before it belongs
to the end; what follows the last line feed is a line only if it is not empty. The cut is defined
on any sequence, so that it serves characters and bytes alike. Main statement: nothing is lost,
the segments written one after the other give the sequence back.
-/

namespace ProviderRegistry.Text

variable {α : Type} [DecidableEq α]

/-- The stretches between separators, each with whether a separator ended it. -/
def segments (sep : α) : List α → List (List α × Bool)
  | [] => []
  | c :: r =>
    if c = sep then ([], true) :: segments sep r
    else
      match segments sep r with
      | [] => [([c], false)]
      | s :: t => (c :: s.1, s.2) :: t

/-- A segment without the carriage return that belongs to its end. -/
def endStripped (cr : α) (s : List α × Bool) : List α :=
  if s.2 = true ∧ s.1.getLast? = some cr then s.1.dropLast else s.1

def unsegment (sep : α) (ss : List (List α × Bool)) : List α :=
  ss.flatMap fun s => s.1 ++ if s.2 then [sep] else []

theorem unsegment_segments (sep : α) (l : List α) : unsegment sep (segments sep l) = l := by
  induction l with
  | nil => rfl
  | cons c r ih =>
    by_cases h : c = sep
    · simpa [segments, unsegment, h] using ih
    · cases hs : segments sep r with
      | nil => simp_all [segments, unsegment]
      | cons s t => simp_all [segments, unsegment]

def linesOf (s : String) : List String :=
  (segments '\n' s.toList).map fun l => String.ofList (endStripped '\r' l)

/-- The lines of a byte sequence, not yet decoded. -/
def byteLines (b : ByteArray) : List (List UInt8) :=
  (segments 10 b.data.toList).map (endStripped 13)

end ProviderRegistry.Text
