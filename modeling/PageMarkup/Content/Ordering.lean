import PageMarkup.Content.Entries

/-!
# Order of keys

Texts are ordered by the code points of their characters and numbers by size. Keys of different
kinds have no order, so a map with such keys cannot be sorted.

## Main definitions

* `textLe`, `Number.le` : the two orders.
* `sortByKey` : the entries of a map sorted by their keys.
* `Value.sortable` : whether the items of a list have a common order.
-/

namespace PageMarkup

/-- The order of texts: by the first code point in which they differ, a beginning first. -/
def textLe (a b : String) : Bool :=
  decide (a ≤ b)

/-- The order of numbers by size. -/
def Number.le : Number → Number → Bool
  | .int m, .int n => m ≤ n
  | .int m, .float y => Float.ofInt m ≤ y
  | .float x, .int n => x ≤ Float.ofInt n
  | .float x, .float y => x ≤ y

/-- Whether one key comes before another or is equal to it; keys without a common order do not. -/
def keyLe (a b : Value) : Bool :=
  match a, b with
  | .str s, .str t => textLe s t
  | a, b =>
    match a.number?, b.number? with
    | some m, some n => m.le n
    | _, _ => false

/-- Whether keys have a common order: a single key has, and so have texts alone and numbers
alone. -/
def comparable (keys : List Value) : Bool :=
  keys.length ≤ 1 || keys.all Value.isStr || keys.all fun k => k.number?.isSome

/-- The entries of a map sorted by their keys. -/
def sortByKey {α : Type} (es : Entries α) : Except Misuse (Entries α) :=
  if comparable es.keys then .ok (es.mergeSort fun a b => keyLe a.1 b.1) else .error .notOrdered

mutual

/-- Whether two values can be put in order: two texts, two numbers, or two lists or tuples whose
first different items can be. -/
def Value.ordersWith : Value → Value → Bool
  | .str _, .str _ => true
  | .list xs, .list ys => Value.ordersWithAll xs ys
  | .tuple xs, .tuple ys => Value.ordersWithAll xs ys
  | a, b => a.number?.isSome && b.number?.isSome
termination_by structural v => v

/-- Whether two sequences can be put in order: their first different items decide. -/
def Value.ordersWithAll : List Value → List Value → Bool
  | x :: xs, y :: ys => if x.same y then Value.ordersWithAll xs ys else x.ordersWith y
  | _, _ => true
termination_by structural xs => xs

end

/-- Whether items have a common order; a single one needs none. -/
def Value.sortable (items : List Value) : Bool :=
  items.length ≤ 1 || items.all fun a => items.all fun b => a.ordersWith b

end PageMarkup
