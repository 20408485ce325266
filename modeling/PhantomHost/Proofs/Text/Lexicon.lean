import PhantomHost.Proofs.Text.Occurrences
/-!
Reading a text from the left for the words of a lexicon.

Where a word is read, the reading goes on behind it; where none is, the first symbol stands by itself. The words and
symbols that are read make up the text, so that words can be replaced or left out.
-/
namespace PhantomHost.Text

/-- Words that can stand in a text: how each of them is written, and which one is read at the start of a text. -/
structure Lexicon (α : Type) where
  written : α → Text
  read? : Text → Option α
  written_ne_nil : ∀ word, written word ≠ []
  starts_of_read : ∀ text word, read? text = some word → written word <+: text

/-- A word in a text, or a symbol that belongs to none. -/
inductive Token (α : Type) where
  | word (word : α)
  | symbol (c : Symbol)

namespace Token

variable {α : Type}

/-- The text of a token, with words put down in a way of their own. -/
def text (write : α → Text) : Token α → Text
  | word found => write found
  | symbol c => [c]

def word? : Token α → Option α
  | word found => some found
  | symbol _ => none

end Token

namespace Lexicon

variable {α : Type} (lexicon : Lexicon α)

/-- The tokens of a text. The number counts the symbols at its start that still belong to the last word. -/
def tokensFrom : Nat → Text → List (Token α)
  | _, [] => []
  | 0, c :: rest =>
    match lexicon.read? (c :: rest) with
    | some word => .word word :: tokensFrom ((lexicon.written word).length - 1) rest
    | none => .symbol c :: tokensFrom 0 rest
  | covered + 1, _ :: rest => tokensFrom covered rest

def tokens (text : Text) : List (Token α) :=
  lexicon.tokensFrom 0 text

/-- The words in a text, in its order. -/
def words (text : Text) : List α :=
  (lexicon.tokens text).filterMap Token.word?

/-- A text with each of its words put down in another way. -/
def replace (write : α → Text) (text : Text) : Text :=
  (lexicon.tokens text).flatMap (Token.text write)

/-! ### Reading on -/

theorem tokensFrom_length_append (covered rest : Text) :
    lexicon.tokensFrom covered.length (covered ++ rest) = lexicon.tokens rest := by
  induction covered with
  | nil => rfl
  | cons c covered ih => exact ih

variable {lexicon}

theorem tokens_word {word : α} {rest : Text} (h : lexicon.read? (lexicon.written word ++ rest) = some word) :
    lexicon.tokens (lexicon.written word ++ rest) = .word word :: lexicon.tokens rest := by
  cases hWritten : lexicon.written word with
  | nil => exact absurd hWritten (lexicon.written_ne_nil word)
  | cons c more =>
      rw [hWritten] at h
      rw [tokens, List.cons_append, tokensFrom, ← List.cons_append, h]
      simp only [hWritten, List.length_cons, Nat.add_sub_cancel, tokensFrom_length_append]

/-- Symbols with which no word begins stand by themselves. -/
theorem tokens_symbols {text : Text} (h : ∀ c ∈ text, ∀ rest, lexicon.read? (c :: rest) = none) (rest : Text) :
    lexicon.tokens (text ++ rest) = text.map .symbol ++ lexicon.tokens rest := by
  induction text with
  | nil => rfl
  | cons c text ih =>
      have hLater := ih fun d hMem => h d (List.mem_cons_of_mem c hMem)
      rw [List.cons_append, tokens, tokensFrom, h c List.mem_cons_self]
      exact congrArg _ hLater

theorem words_word {word : α} {rest : Text} (h : lexicon.read? (lexicon.written word ++ rest) = some word) :
    lexicon.words (lexicon.written word ++ rest) = word :: lexicon.words rest := by
  rw [words, tokens_word h]
  rfl

theorem words_symbols {text : Text} (h : ∀ c ∈ text, ∀ rest, lexicon.read? (c :: rest) = none) (rest : Text) :
    lexicon.words (text ++ rest) = lexicon.words rest := by
  rw [words, tokens_symbols h, List.filterMap_append, List.filterMap_map]
  simp [Function.comp_def, Token.word?, words]

theorem replace_word {word : α} {rest : Text} (h : lexicon.read? (lexicon.written word ++ rest) = some word)
    (write : α → Text) :
    lexicon.replace write (lexicon.written word ++ rest) = write word ++ lexicon.replace write rest := by
  rw [replace, tokens_word h]
  rfl

theorem replace_symbols {text : Text} (h : ∀ c ∈ text, ∀ rest, lexicon.read? (c :: rest) = none)
    (write : α → Text) (rest : Text) :
    lexicon.replace write (text ++ rest) = text ++ lexicon.replace write rest := by
  rw [replace, tokens_symbols h, List.flatMap_append, List.flatMap_map]
  simp [Token.text, replace]

/-! ### The tokens make up the text -/

/-- By induction on the text: the tokens give back all of it but what belongs to the word before. -/
theorem flatMap_tokensFrom (covered : Nat) (text : Text) :
    (lexicon.tokensFrom covered text).flatMap (Token.text lexicon.written) = text.drop covered := by
  induction text generalizing covered with
  | nil => simp [tokensFrom]
  | cons c rest ih =>
      cases covered with
      | succ covered => exact ih covered
      | zero =>
          rw [tokensFrom]
          cases hRead : lexicon.read? (c :: rest) with
          | none => exact congrArg _ (ih 0)
          | some word =>
              have hPrefix := List.prefix_iff_eq_append.1 (lexicon.starts_of_read _ _ hRead)
              obtain ⟨width, hWidth⟩ := Nat.exists_eq_add_one.2 (List.length_pos_iff.2 (lexicon.written_ne_nil word))
              rw [hWidth] at hPrefix
              simp only [List.flatMap_cons, Token.text, ih, hWidth, Nat.add_sub_cancel]
              exact hPrefix

theorem replace_written (text : Text) : lexicon.replace lexicon.written text = text :=
  flatMap_tokensFrom 0 text

/-- Every position of a text that is put together from tokens lies in one of them. -/
theorem exists_token_at {write : α → Text} {tokens : List (Token α)} (position : Nat)
    (h : position < (tokens.flatMap (Token.text write)).length) :
    ∃ before token after, tokens = before ++ token :: after ∧
      (before.flatMap (Token.text write)).length ≤ position ∧
      position < (before.flatMap (Token.text write)).length + (token.text write).length := by
  induction tokens generalizing position with
  | nil => cases h
  | cons token tokens ih =>
      rw [List.flatMap_cons, List.length_append] at h
      by_cases hHere : position < (token.text write).length
      · exact ⟨[], token, tokens, rfl, Nat.zero_le position, by simpa using hHere⟩
      · obtain ⟨before, other, after, rfl, hStart, hEnd⟩ := ih (position - (token.text write).length) (by omega)
        refine ⟨token :: before, other, after, rfl, ?_⟩
        rw [List.flatMap_cons, List.length_append]
        omega

/-- Each symbol of a text stands in a word that is read there, or by itself. -/
theorem occursAt_or_mem_tokens {text : Text} {position : Nat} {c : Symbol} (h : text[position]? = some c) :
    (∃ word start, OccursAt (lexicon.written word) text start ∧ start ≤ position ∧
      position < start + (lexicon.written word).length) ∨ .symbol c ∈ lexicon.tokens text := by
  have hText : (lexicon.tokens text).flatMap (Token.text lexicon.written) = text := replace_written text
  have hInside : position < text.length := (List.getElem?_eq_some_iff.1 h).1
  rw [← hText] at hInside
  obtain ⟨before, token, after, hTokens, hStart, hEnd⟩ := exists_token_at position hInside
  rw [hTokens, List.flatMap_append, List.flatMap_cons] at hText
  cases token with
  | word found =>
      refine Or.inl ⟨found, _, ?_, hStart, hEnd⟩
      rw [OccursAt, ← hText, List.drop_left]
      exact List.prefix_append _ _
  | symbol d =>
      have hPosition : position = (before.flatMap (Token.text lexicon.written)).length :=
        Nat.le_antisymm (Nat.le_of_lt_succ hEnd) hStart
      rw [← hText, hPosition, List.getElem?_append_right (Nat.le_refl _), Nat.sub_self] at h
      obtain rfl := Option.some.inj h
      rw [hTokens]
      exact Or.inr (List.mem_append_right before List.mem_cons_self)

end Lexicon

end PhantomHost.Text
