import PhantomHost.Text.Blank
/-!
The first word of a text, how a text starts, and texts that are one word.

A text that does not start with a blank starts with its first word. So it starts with the letters of a word
exactly if its first word does. A text that is one word comes out of a line as it went in.
-/
namespace PhantomHost.Text

/-- Whether a text starts with a blank. -/
def startsBlank (text : Text) : Bool :=
  text.head?.any isBlank

/-- A text that starts with no blank starts with its first word, which ends before the first blank. -/
theorem words_cons_of_not_isBlank {c : Symbol} (h : isBlank c = false) (rest : Text) :
    words (c :: rest) = (c :: rest).takeWhile (fun d => !isBlank d) ::
      words ((c :: rest).dropWhile fun d => !isBlank d) := by
  induction rest generalizing c with
  | nil => simp [words, h]
  | cons d more ih =>
      rw [words]
      cases hBlank : isBlank d with
      | true => simp [h, hBlank]
      | false => simp [ih hBlank, h, hBlank]

/-- The first word of a text that starts with no blank starts as the text does, and has no blank in it. -/
theorem exists_words_cons {c : Symbol} (h : isBlank c = false) (rest : Text) :
    ∃ word more, words (c :: rest) = (c :: word) :: more ∧ ∀ d ∈ c :: word, isBlank d = false := by
  have hFirst : (c :: rest).takeWhile (fun d => !isBlank d) = c :: rest.takeWhile fun d => !isBlank d :=
    List.takeWhile_cons_of_pos (by rw [h]; rfl)
  refine ⟨_, _, (words_cons_of_not_isBlank h rest).trans (congrArg (· :: _) hFirst), ?_⟩
  intro d hd
  rw [← hFirst] at hd
  simpa using List.all_eq_true.1 List.all_takeWhile d hd

/-- A text starts with letters that are no blanks exactly if it starts with no blank and its first word starts
with them. -/
theorem isPrefix_iff_word {letters : Text} (hne : letters ≠ []) (h : ∀ c ∈ letters, isBlank c = false)
    (text : Text) : letters <+: text ↔
      startsBlank text = false ∧ ∃ word rest, words text = word :: rest ∧ letters <+: word := by
  have hLetters : ∀ c ∈ letters, (!isBlank c) = true := fun c hc => by simp [h c hc]
  constructor
  · rintro ⟨rest, rfl⟩
    cases letters with
    | nil => exact absurd rfl hne
    | cons c letters =>
        have hFirst := h c List.mem_cons_self
        refine ⟨hFirst, _, _, words_cons_of_not_isBlank hFirst (letters ++ rest), ?_⟩
        rw [← List.cons_append, List.takeWhile_append_of_pos hLetters]
        exact List.prefix_append _ _
  · rintro ⟨hStart, word, others, hWords, hWord⟩
    cases text with
    | nil => cases hWords
    | cons c rest =>
        rw [words_cons_of_not_isBlank hStart] at hWords
        rw [← (List.cons.inj hWords).1] at hWord
        exact hWord.trans (List.takeWhile_prefix _)

/-- A text that is one word: it is not empty and has no blank in it. -/
def IsWord (text : Text) : Prop :=
  text ≠ [] ∧ ∀ c ∈ text, isBlank c = false

instance (text : Text) : Decidable (IsWord text) :=
  inferInstanceAs (Decidable (_ ∧ _))

theorem IsWord.append {first second : Text} (hFirst : IsWord first) (hSecond : IsWord second) :
    IsWord (first ++ second) := by
  refine ⟨List.append_ne_nil_of_left_ne_nil hFirst.1 second, ?_⟩
  intro c hc
  rcases List.mem_append.1 hc with hLeft | hRight
  · exact hFirst.2 c hLeft
  · exact hSecond.2 c hRight

/-- A word in front of a line is its first word. -/
theorem words_behind {word : Text} (h : IsWord word) (line : Text) :
    words (word ++ " " ++ line) = word :: words line := by
  have hBlank : isBlank (Symbol.char ' ') = true := by decide
  have hLine : word ++ " " ++ line = word ++ Symbol.char ' ' :: line := List.append_assoc ..
  rw [hLine, words_append_cons hBlank, words_eq_singleton h.1 h.2, List.singleton_append]

/-- Two words with a blank between them are the words of a line. -/
theorem words_pair {first second : Text} (hFirst : IsWord first) (hSecond : IsWord second) :
    words (first ++ " " ++ second) = [first, second] := by
  rw [words_behind hFirst, words_eq_singleton hSecond.1 hSecond.2]

end PhantomHost.Text
