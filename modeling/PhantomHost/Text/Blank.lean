import PhantomHost.Text.CodeSet
import PhantomHost.Text.Pieces
/-!
Blank characters, words and trimming.

Words are the maximal runs of symbols that are not blank; `words_append_cons` and `words_eq_singleton`
say so. Trimming drops the blanks at both ends.
-/
namespace PhantomHost.Text

/-- The blank characters: the white space of Unicode 14 and the four ASCII separators 28 to 31. -/
def blanks : CodeSet where
  changes := [
    9, 14, 28, 33, 133, 134, 160, 161, 5760, 5761, 8192, 8203, 8232, 8234, 8239, 8240, 8287, 8288, 12288,
    12289]

/-- Whether a character separates words. -/
def isBlank (c : Symbol) : Bool :=
  blanks.has c

/-- The words of a text: its maximal runs of characters that are not blank. -/
def words : Text → List Text
  | [] => []
  | c :: rest =>
    if isBlank c then words rest
    else match rest with
      | [] => [[c]]
      | d :: _ =>
        if isBlank d then [c] :: words rest
        else match words rest with
          | [] => [[c]]
          | word :: others => (c :: word) :: others

/-- A text without the blanks at its two ends. -/
def trim (text : Text) : Text :=
  trimEnd isBlank (trimStart isBlank text)

/-- Whether a text has no character that is not blank. -/
def isBlankText (text : Text) : Bool :=
  text.all isBlank

/-- Every character that core counts as white space is blank here. -/
theorem isBlank_of_isWhitespace {c : Char} (h : c.isWhitespace = true) : isBlank c = true := by
  simp only [Char.isWhitespace, Bool.or_eq_true, decide_eq_true_eq] at h
  rcases h with ((h | h) | h) | h <;> subst h <;> decide

theorem ne_nil_of_mem_words {text word : Text} (h : word ∈ words text) : word ≠ [] := by
  fun_induction words text with
  | case1 => simp at h
  | case2 _ _ _ ih => exact ih h
  | case3 => simp_all
  | case4 _ _ _ _ _ ih => rcases List.mem_cons.1 h with h | h <;> simp_all
  | case5 => simp_all
  | case6 _ _ _ _ _ _ _ hw ih =>
    rw [hw] at h
    rcases List.mem_cons.1 h with h | h
    · simp [h]
    · exact ih (hw ▸ List.mem_cons_of_mem _ h)

/-- A text that starts with a character that is not blank has a first word. -/
theorem words_ne_nil {c : Symbol} (h : ¬isBlank c = true) (rest : Text) :
    words (c :: rest) ≠ [] := by
  rw [words.eq_def]
  simp only [h, Bool.false_eq_true, if_false]
  split
  · simp
  · split
    · simp
    · split <;> simp

/-- A blank belongs to no word and separates those on its two sides. Everything about words follows
from this. -/
theorem words_append_cons {c : Symbol} (h : isBlank c = true) (left right : Text) :
    words (left ++ c :: right) = words left ++ words right := by
  fun_induction words left with
  | case1 => simp [words, h]
  | case2 d rest hd ih => simp [words, hd, ih]
  | case3 d hd => simp [words, hd, h]
  | case4 d hd e more he ih => simpa [words, hd, he] using ih
  | case5 d hd e more he hw ih =>
    exact absurd hw (words_ne_nil he more)
  | case6 d hd e more he word others hw ih =>
    simp only [List.cons_append] at ih ⊢
    rw [words]
    simp [hd, he, ih, hw]

/-- A text without blanks is one word. -/
theorem words_eq_singleton {word : Text} (hne : word ≠ []) (h : ∀ c ∈ word, isBlank c = false) :
    words word = [word] := by
  induction word with
  | nil => exact absurd rfl hne
  | cons c rest ih =>
    have hc := h c (by simp)
    cases rest with
    | nil => simp [words, hc]
    | cons d more =>
      have hd := h d (by simp)
      have := ih (by simp) fun e he => h e (List.mem_cons_of_mem _ he)
      rw [words]
      simp [hc, hd, this]

end PhantomHost.Text
