import PhantomHost.Text.CaseTable
/-!
Lower case for whole texts, as Unicode defines it.

Most characters are lowered one by one. Two are special: a capital I with a dot becomes two
characters, and a capital sigma at the end of a word becomes the final form of the letter.
-/
namespace PhantomHost.Text

/-- The lower-case form of one character, its neighbours left aside. -/
def lowerChar (c : Symbol) : Text :=
  if c = 'İ' then [.char 'i', .ofCode 0x307]
  else match caseRuns.find? fun run => run.has c.code with
    | some run => [.ofCode (c.code + run.shift).toNat]
    | none => [c]

/-- Whether the nearest neighbour that is not passed over is a cased letter. -/
def nearestIsCased : Text → Bool
  | [] => false
  | c :: rest => if passedOver.has c then nearestIsCased rest else cased.has c

/-- Whether a sigma stands at the end of a word: a letter comes before it and none after. The
characters before it are given nearest first. -/
def endsWord (before after : Text) : Bool :=
  nearestIsCased before && !nearestIsCased after

/-- The lower-case form of one character between its neighbours, those before it nearest first. -/
def lowerBetween (before : Text) (c : Symbol) (after : Text) : Text :=
  if c = 'Σ' then (if endsWord before after then "ς" else "σ") else lowerChar c

/-- Lower case of a text that follows the characters `before`, which are given nearest first. -/
def lowerAfter (before : Text) : Text → Text
  | [] => []
  | c :: rest =>
    lowerBetween before c rest ++ lowerAfter (c :: before) rest

/-- The lower-case form of a text. -/
def lower (text : Text) : Text :=
  lowerAfter [] text

theorem lowerChar_ne_nil (c : Symbol) : lowerChar c ≠ [] := by
  simp only [lowerChar]
  split
  · simp
  · split <;> simp

/-- Only the empty text has an empty lower-case form. -/
@[simp] theorem lower_eq_nil_iff (text : Text) : lower text = [] ↔ text = [] := by
  cases text with
  | nil => simp [lower, lowerAfter]
  | cons c rest =>
    simp only [lower, lowerAfter, lowerBetween, List.append_eq_nil_iff, reduceCtorEq, iff_false, not_and]
    intro h
    split at h
    · split at h <;> simp [Text.ofString] at h
    · exact absurd h (lowerChar_ne_nil c)

end PhantomHost.Text
