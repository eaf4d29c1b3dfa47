import PageMarkup.Content.Value
import PageMarkup.Decimal.Binary

/-!
# Equality of values

Numbers are compared by what they count, so a truth value equals the integer 0 or 1 and an integer
equals the double of the same size. Sequences are compared item by item, maps without regard to the
order of their entries, and everything else by kind and content. Keys of maps are told apart by
this equality.

## Main definitions

* `Value.same`, `Markup.same` : equality.
-/

namespace PageMarkup

/-- A number as equality sees it. -/
inductive Number where
  | int (n : Int)
  | float (x : Float)

/-- Equality of numbers, exact also between integers and doubles. -/
def Number.same : Number → Number → Bool
  | .int m, .int n => m == n
  | .int m, .float y => (Decimal.Binary.ofFloat y).isInt m
  | .float x, .int n => (Decimal.Binary.ofFloat x).isInt n
  | .float x, .float y => x == y

/-- The number that a value counts as. -/
def Value.number? : Value → Option Number
  | .bool b => some (.int (if b then 1 else 0))
  | .int n => some (.int n)
  | .float x => some (.float x)
  | _ => none

mutual

/-- Equality of values. -/
def Value.same : Value → Value → Bool
  | .null, .null => true
  | .str a, .str b => a == b
  | .list xs, .list ys => Value.sameAll xs ys
  | .tuple xs, .tuple ys => Value.sameAll xs ys
  | .map es, .map fs => es.length == fs.length && Value.sameEntries es fs
  | .foreign k t, .foreign l u => k == l && t == u
  | .markup m, .markup n => m.same n
  | a, b =>
    match a.number?, b.number? with
    | some m, some n => m.same n
    | _, _ => false
termination_by structural v => v

/-- Equality of sequences, item by item. -/
def Value.sameAll : List Value → List Value → Bool
  | [], [] => true
  | x :: xs, y :: ys => x.same y && Value.sameAll xs ys
  | _, _ => false
termination_by structural v => v

/-- Whether each entry of the first map has an equal one in the second. -/
def Value.sameEntries : List (Value × Value) → List (Value × Value) → Bool
  | [], _ => true
  | (k, v) :: es, fs => fs.any (fun f => k.same f.1 && v.same f.2) && Value.sameEntries es fs
termination_by structural v => v

/-- Equality of markup. -/
def Markup.same : Markup → Markup → Bool
  | .literal v, .literal w => v.same w
  | .raw c, .raw d => c == d
  | .text s, .text t => s == t
  | .array xs, .array ys => Markup.sameAll xs ys
  | .object es, .object fs => Markup.sameObject es fs
  | .element t as xs, .element u bs ys =>
    t.same u && Markup.sameAttributes as bs && Markup.sameAll xs ys
  | .fragment xs, .fragment ys => Markup.sameAll xs ys
  | _, _ => false
termination_by structural v => v

/-- Equality of sequences of markup. -/
def Markup.sameAll : List Markup → List Markup → Bool
  | [], [] => true
  | x :: xs, y :: ys => x.same y && Markup.sameAll xs ys
  | _, _ => false
termination_by structural v => v

/-- Equality of object entries, in order. -/
def Markup.sameObject : List (String × Markup) → List (String × Markup) → Bool
  | [], [] => true
  | (k, x) :: es, (l, y) :: fs => k == l && x.same y && Markup.sameObject es fs
  | _, _ => false
termination_by structural v => v

/-- Equality of attributes, in order. -/
def Markup.sameAttributes : List (Value × Markup) → List (Value × Markup) → Bool
  | [], [] => true
  | (k, x) :: es, (l, y) :: fs => k.same l && x.same y && Markup.sameAttributes es fs
  | _, _ => false

termination_by structural v => v
end

@[simp] theorem Value.same_str (a b : String) : (Value.str a).same (.str b) = (a == b) :=
  rfl

@[simp] theorem Value.same_null : Value.null.same .null = true :=
  rfl

end PageMarkup
