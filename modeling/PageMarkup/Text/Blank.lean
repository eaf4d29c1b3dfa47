/-!
# Blank characters

Blank characters are those with the white-space property of the character set, together with the
four information separators U+001C to U+001F.

## Main definitions

* `isBlank` : the class itself.
* `strip`, `stripEnd` : a text without blank characters on both sides, or at its end.
-/

namespace PageMarkup.Text

/-- A blank character. -/
def isBlank (c : Char) : Bool :=
  (0x09 ≤ c.toNat && c.toNat ≤ 0x0D) || (0x1C ≤ c.toNat && c.toNat ≤ 0x20) ||
    (0x2000 ≤ c.toNat && c.toNat ≤ 0x200A) ||
    [0x85, 0xA0, 0x1680, 0x2028, 0x2029, 0x202F, 0x205F, 0x3000].contains c.toNat

/-- A text without the longest ending whose characters all satisfy `p`. -/
def dropEndWhile (p : Char → Bool) (s : List Char) : List Char :=
  (s.reverse.dropWhile p).reverse

/-- A text without blank characters at its end. -/
def stripEnd (s : List Char) : List Char :=
  dropEndWhile isBlank s

/-- A text without blank characters on either side. -/
def strip (s : List Char) : List Char :=
  stripEnd (s.dropWhile isBlank)

@[simp] theorem strip_nil : strip [] = [] := rfl

theorem dropEndWhile_append_singleton {p : Char → Bool} {s : List Char} {c : Char}
    (h : p c = false) : dropEndWhile p (s ++ [c]) = s ++ [c] := by
  simp [dropEndWhile, h]

end PageMarkup.Text
