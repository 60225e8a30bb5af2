/-!
White space in the sense of the Unicode property White_Space, which is wider than the core
library's class, and the removal of it at both ends of a text.
-/

namespace ProviderRegistry.Text

def isBlank (c : Char) : Bool :=
  let n := c.toNat
  (0x09 ≤ n && n ≤ 0x0d) || n == 0x20 || n == 0x85 || n == 0xa0 || n == 0x1680 ||
    (0x2000 ≤ n && n ≤ 0x200a) || n == 0x2028 || n == 0x2029 || n == 0x202f || n == 0x205f ||
    n == 0x3000

def trimEnd (l : List Char) : List Char :=
  (l.reverse.dropWhile isBlank).reverse

def trim (l : List Char) : List Char :=
  trimEnd (l.dropWhile isBlank)

theorem isBlank_of_isWhitespace {c : Char} (h : c.isWhitespace) : isBlank c := by
  simp only [Char.isWhitespace, Bool.or_eq_true, decide_eq_true_eq] at h
  rcases h with ((rfl | rfl) | rfl) | rfl <;> decide

end ProviderRegistry.Text
