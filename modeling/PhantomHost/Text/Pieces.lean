import PhantomHost.Text.Basic
/-!
Splitting a text at a character, joining pieces again, looking for one text inside another, and
dropping characters at the ends of a text.

`splitOn` and `joinWith` undo each other as long as no piece holds the separator. `occurrences` is
the greedy scan from the left: a hit is taken where it first starts, and the search goes on behind
its last character.
-/
namespace PhantomHost.Text

/-- The pieces of a text between the occurrences of `sep`; there is always one more piece than there
are separators. -/
def splitOn (sep : Symbol) : Text → List Text
  | [] => [[]]
  | c :: rest =>
    if c = sep then [] :: splitOn sep rest
    else match splitOn sep rest with
      | [] => [[c]]
      | piece :: others => (c :: piece) :: others

/-- The pieces in order, with `sep` between neighbours. -/
def joinWith (sep : Text) : List Text → Text
  | [] => []
  | [piece] => piece
  | piece :: others => piece ++ sep ++ joinWith sep others

/-- The start offsets of `needle` in a text, taken greedily from the left. The first number counts
the characters that still belong to the last hit, the second is the offset of the text in its line. -/
def occurrencesFrom (needle : Text) : Nat → Nat → Text → List Nat
  | _, _, [] => []
  | 0, offset, c :: rest =>
    if needle.isPrefixOf (c :: rest) then
      offset :: occurrencesFrom needle (needle.length - 1) (offset + 1) rest
    else occurrencesFrom needle 0 (offset + 1) rest
  | covered + 1, offset, _ :: rest => occurrencesFrom needle covered (offset + 1) rest

/-- The start offsets of the occurrences of a non-empty `needle` in `hay` that do not overlap an
earlier one. -/
def occurrences (needle hay : Text) : List Nat :=
  occurrencesFrom needle 0 0 hay

/-- A text without the leading characters that satisfy `p`. -/
def trimStart (p : Symbol → Bool) (text : Text) : Text :=
  text.dropWhile p

/-- A text without the trailing characters that satisfy `p`. -/
def trimEnd (p : Symbol → Bool) (text : Text) : Text :=
  (text.reverse.dropWhile p).reverse

/-- What is dropped at the end of two texts is dropped of the first one only if nothing of the second one is left. -/
theorem trimEnd_append (p : Symbol → Bool) (first last : Text) :
    trimEnd p (first ++ last) = if trimEnd p last = [] then trimEnd p first else first ++ trimEnd p last := by
  simp only [trimEnd, List.reverse_append, List.dropWhile_append, List.isEmpty_iff, List.reverse_eq_nil_iff]
  split
  · rfl
  · rw [List.reverse_append, List.reverse_reverse]

/-- What a text loses at its end is all of the kind that is dropped. -/
theorem exists_trimEnd_append (p : Symbol → Bool) (text : Text) :
    ∃ dropped, text = trimEnd p text ++ dropped ∧ ∀ c ∈ dropped, p c = true := by
  refine ⟨(text.reverse.takeWhile p).reverse, ?_, ?_⟩
  · rw [trimEnd, ← List.reverse_append, List.takeWhile_append_dropWhile, List.reverse_reverse]
  · intro c hc
    exact List.all_eq_true.1 List.all_takeWhile c (List.mem_reverse.1 hc)

theorem trimEnd_eq_self {p : Symbol → Bool} {text : Text} (h : ∀ c ∈ text, p c = false) : trimEnd p text = text := by
  have hNone : text.reverse.dropWhile p = text.reverse := by
    cases hReverse : text.reverse with
    | nil => rfl
    | cons c rest =>
      have hFirst := h c (List.mem_reverse.1 (hReverse ▸ List.mem_cons_self))
      rw [List.dropWhile_cons_of_neg (by rw [hFirst]; exact Bool.false_ne_true)]
  rw [trimEnd, hNone, List.reverse_reverse]

theorem splitOn_ne_nil (sep : Symbol) (text : Text) : splitOn sep text ≠ [] := by
  cases text with
  | nil => simp [splitOn]
  | cons c rest =>
    simp only [splitOn]
    split
    · simp
    · split <;> simp

/-- A text without the separator is its own only piece. -/
theorem splitOn_eq_singleton {sep : Symbol} {text : Text} (h : sep ∉ text) :
    splitOn sep text = [text] := by
  induction text with
  | nil => rfl
  | cons c rest ih =>
    have hc : c ≠ sep := fun e => h (by simp [e])
    have hr : sep ∉ rest := fun e => h (by simp [e])
    simp [splitOn, hc, ih hr]

/-- A separator ends the last piece of what stands before it. -/
theorem splitOn_append (sep : Symbol) (text rest : Text) :
    splitOn sep (text ++ sep :: rest) = splitOn sep text ++ splitOn sep rest := by
  induction text with
  | nil => simp [splitOn]
  | cons c text ih =>
    rw [List.cons_append, splitOn, splitOn, ih]
    by_cases hSep : c = sep
    · rw [if_pos hSep, if_pos hSep, List.cons_append]
    · rw [if_neg hSep, if_neg hSep]
      cases hPieces : splitOn sep text with
      | nil => exact absurd hPieces (splitOn_ne_nil sep text)
      | cons piece others => rfl

/-- The first separator ends the first piece. -/
theorem splitOn_append_cons {sep : Symbol} {piece : Text} (h : sep ∉ piece) (rest : Text) :
    splitOn sep (piece ++ sep :: rest) = piece :: splitOn sep rest := by
  rw [splitOn_append, splitOn_eq_singleton h, List.singleton_append]

/-- Splitting undoes joining when no piece holds the separator. -/
theorem splitOn_joinWith {sep : Symbol} {pieces : List Text} (hne : pieces ≠ [])
    (h : ∀ piece ∈ pieces, sep ∉ piece) : splitOn sep (joinWith [sep] pieces) = pieces := by
  induction pieces with
  | nil => exact absurd rfl hne
  | cons piece others ih =>
    cases others with
    | nil => simpa [joinWith] using splitOn_eq_singleton (h piece (by simp))
    | cons next others =>
      have := ih (by simp) fun p hp => h p (List.mem_cons_of_mem _ hp)
      simpa [joinWith, this] using
        splitOn_append_cons (h piece (by simp)) (joinWith [sep] (next :: others))

theorem not_mem_of_mem_splitOn {sep : Symbol} {text piece : Text}
    (h : piece ∈ splitOn sep text) : sep ∉ piece := by
  induction text generalizing piece with
  | nil => simp [splitOn] at h; simp [h]
  | cons c rest ih =>
    simp only [splitOn] at h
    split at h
    · rcases List.mem_cons.1 h with h | h
      · simp [h]
      · exact ih h
    · rename_i hc
      split at h
      · simp only [List.mem_singleton] at h
        simpa [h] using Ne.symm hc
      · rename_i first others hs
        rcases List.mem_cons.1 h with h | h
        · subst h
          have := @ih first (by simp [hs])
          simp [this, Ne.symm hc]
        · exact ih (by simp [hs, h])

end PhantomHost.Text
