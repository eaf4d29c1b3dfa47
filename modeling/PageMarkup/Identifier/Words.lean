/-!
# Words of a label

A label such as `hero-banner 2` or `HTMLBlock` is cut into words: a run of capitals that leaves the
last one to a following small letter, a run of small letters with an optional capital before it, a
run of capitals, or a run of digits. Only ASCII letters and digits form words; everything else
separates them.

## Main definitions

* `wordLength` : the length of the word at the start of a label.
* `splitWords` : the words of a label.
-/

namespace PageMarkup.Identifier

def isCapital (c : Char) : Bool := 'A' ≤ c && c ≤ 'Z'

def isSmall (c : Char) : Bool := 'a' ≤ c && c ≤ 'z'

def isDecimal (c : Char) : Bool := '0' ≤ c && c ≤ '9'

/-- The length of the word at the start of a label, zero where none starts. A single capital before
a small letter opens a word of small letters; of two or more capitals the last one is left to a
small letter behind it. -/
def wordLength (s : List Char) : Nat :=
  let capitals := (s.takeWhile isCapital).length
  let rest := s.drop capitals
  let small := (rest.takeWhile isSmall).length
  if capitals = 0 then
    if small = 0 then (s.takeWhile isDecimal).length else small
  else if small = 0 then capitals
  else if capitals = 1 then 1 + small
  else capitals - 1

/-- The words of the first characters of a label, looked for in at most `steps` places. -/
def splitWordsIn : (steps : Nat) → List Char → List (List Char)
  | 0, _ => []
  | _, [] => []
  | n + 1, c :: cs =>
    match wordLength (c :: cs) with
    | 0 => splitWordsIn n cs
    | k + 1 => (c :: cs.take k) :: splitWordsIn n (cs.drop k)

/-- The words of a label, in order. -/
def splitWords (s : List Char) : List (List Char) :=
  splitWordsIn s.length s

end PageMarkup.Identifier
