import PhantomHost.Text.Basic
/-!
Sets of code points.

A property of characters is stored as the ascending list of the points at which membership changes.
A point belongs to the set when an odd number of changes lie at or below it, so the list
`[65, 91]` stands for the capital letters from `A` to `Z`.
-/
namespace PhantomHost.Text

/-- A set of code points, written as the ascending points at which membership changes. The first
change enters the set, the second leaves it, and so on. -/
structure CodeSet where
  changes : List Nat
  deriving Repr

namespace CodeSet

/-- Whether `n` is inside, when everything below the listed changes is `inside`. -/
def insideAfter (n : Nat) : Bool → List Nat → Bool
  | inside, [] => inside
  | inside, change :: later => if n < change then inside else insideAfter n (!inside) later

def contains (s : CodeSet) (n : Nat) : Bool :=
  insideAfter n false s.changes

@[simp] theorem contains_nil (n : Nat) : (CodeSet.mk []).contains n = false := rfl

/-- Below its first change a set has no member. -/
theorem contains_eq_false_of_lt {first n : Nat} {later : List Nat} (h : n < first) :
    (CodeSet.mk (first :: later)).contains n = false := by
  simp [contains, insideAfter, h]

end CodeSet

/-- Membership of a character, by its code point. -/
def CodeSet.has (s : CodeSet) (c : Symbol) : Bool :=
  s.contains c.code

end PhantomHost.Text
