import PageMarkup.Text.Quoted

/-!
# Encodings

A file can hold a text if its encoding has all characters of it. Characters of seven bits are in
every encoding.

## Main definitions

* `Encoding`, `Encoding.encodes` : which characters there are, and which texts.
* `Encoding.unicode` : all characters, but no half of a surrogate pair.
-/

namespace PageMarkup.Text

/-- A character of seven bits. -/
def isSevenBit (c : Char) : Bool := c.toNat < 0x80

/-- The characters that can be written. -/
structure Encoding where
  has : Char → Bool
  has_of_isSevenBit : ∀ c, isSevenBit c = true → has c = true

namespace Encoding

/-- Whether all characters of a text can be written. -/
def encodes (e : Encoding) (s : List Char) : Bool :=
  s.all e.has

/-- The encoding of all characters. The private ones that are set apart for halves of surrogate
pairs stand for these, and so they are not in it. -/
def unicode : Encoding where
  has c := !isLoneSurrogate c
  has_of_isSevenBit c h := by
    have hlow : c.toNat < 0x80 := of_decide_eq_true h
    have hless : ¬ 0x10D800 ≤ c.toNat := by omega
    simp [isLoneSurrogate, hless]

end Encoding

end PageMarkup.Text
