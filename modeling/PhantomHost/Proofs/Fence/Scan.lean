import PhantomHost.Fence
/-!
Where the scan of a message takes a block.

`Opens` says that a block can be read at the start of a text, and `Block.Shortest` that a block ends at
the first fence behind its opening line. The scan takes a block at the first place where one opens, makes it
as short as it can be, and goes on behind it; `leftmost_scan` says so for every text.
-/
namespace PhantomHost.Fence

open PhantomHost.Text

/-- A block with one of the words behind its opening fence, which ends at the first fence behind its
opening line: the fence at the end is the only one in what follows that line. -/
structure Block.Shortest (block : Block) : Prop where
  tag_mem : block.tag ∈ tags
  only_fence : ∀ left right, block.body ++ fence = left ++ fence ++ right → right = []

/-- Whether a text starts with a block, wherever that block ends. -/
def Opens (text : Text) : Prop :=
  ∃ block after, block.tag ∈ tags ∧ text = Block.source block ++ after

/-- No block opens inside a piece of text when `rest` stands behind it. -/
def Clear (text rest : Text) : Prop :=
  ∀ left right, text = left ++ right → right ≠ [] → ¬Opens (right ++ rest)

/-! ### Opening lines -/

theorem not_fence_prefix_cons {c : Symbol} (h : c ≠ '\x60') (rest : Text) : ¬fence <+: c :: rest := by
  rintro ⟨tail, hTail⟩
  exact h (List.cons.inj hTail).1.symm

theorem not_mem_of_mem_tags {tag : Text} (h : tag ∈ tags) : Symbol.char '\n' ∉ tag := by
  revert tag
  decide

/-- The line end shows where the word of an opening line ends. -/
theorem opening_prefix_iff {tag word rest : Text} (hTag : Symbol.char '\n' ∉ tag)
    (hWord : Symbol.char '\n' ∉ word) : opening tag <+: opening word ++ rest ↔ tag = word := by
  constructor
  · rintro ⟨tail, hTail⟩
    simp only [opening, List.append_assoc, List.append_cancel_left_eq, List.singleton_append] at hTail
    have hPieces := congrArg (splitOn '\n') hTail
    rw [splitOn_append_cons hTag, splitOn_append_cons hWord] at hPieces
    exact (List.cons.inj hPieces).1
  · rintro rfl
    exact List.prefix_append ..

/-- The word of an opening line is found if it is one of the words that count. -/
theorem openingTag?_opening {word : Text} (hWord : Symbol.char '\n' ∉ word) (rest : Text) :
    openingTag? (opening word ++ rest) = if word ∈ tags then some word else none := by
  have hTest : ∀ tag ∈ tags, (opening tag).isPrefixOf (opening word ++ rest) = (tag == word) := by
    intro tag hTag
    rw [Bool.eq_iff_iff, List.isPrefixOf_iff_prefix,
      opening_prefix_iff (not_mem_of_mem_tags hTag) hWord, beq_iff_eq]
  unfold openingTag?
  cases hFind : tags.find? fun tag => (opening tag).isPrefixOf (opening word ++ rest) with
  | some tag =>
      have hTag := List.mem_of_find?_eq_some hFind
      have hWord := List.find?_some hFind
      rw [hTest tag hTag, beq_iff_eq] at hWord
      subst hWord
      rw [if_pos hTag]
  | none =>
      rw [if_neg]
      intro hMem
      have hNone := List.find?_eq_none.1 hFind word hMem
      rw [hTest word hMem, beq_self_eq_true] at hNone
      exact hNone rfl

/-! ### Closing fences -/

theorem closeAt?_eq_none_iff {text : Text} : closeAt? text = none ↔ ¬fence <:+: text := by
  induction text with
  | nil => simp [closeAt?, fence]
  | cons c rest ih =>
      rw [List.infix_cons_iff, not_or, ← ih, closeAt?]
      split
      · rename_i hFence
        simp [List.isPrefixOf_iff_prefix.1 hFence]
      · rename_i hFence
        rw [List.isPrefixOf_iff_prefix] at hFence
        simp [hFence]

/-- The closing fence is the first one: there is no other up to its end. -/
theorem only_fence_of_closeAt? {text body after : Text} (h : closeAt? text = some (body, after)) :
    ∀ left right, body ++ fence = left ++ fence ++ right → right = [] := by
  induction text generalizing body with
  | nil => simp [closeAt?] at h
  | cons c rest ih =>
      intro left right hSplit
      rw [closeAt?] at h
      split at h
      · simp only [Option.some.injEq, Prod.mk.injEq] at h
        obtain ⟨rfl, rfl⟩ := h
        have hLength := congrArg List.length hSplit
        simp only [List.nil_append, List.length_append] at hLength
        exact List.eq_nil_of_length_eq_zero (by omega)
      · rename_i hFence
        obtain ⟨⟨inner, tail⟩, hRest, hBody⟩ := Option.map_eq_some_iff.1 h
        simp only [Prod.mk.injEq] at hBody
        obtain ⟨rfl, rfl⟩ := hBody
        cases left with
        | nil =>
            -- a fence at the very start would have been found there
            refine absurd (List.isPrefixOf_iff_prefix.2 ?_) hFence
            rw [closeAt?_eq hRest, ← List.cons_append, ← List.cons_append, hSplit]
            exact ⟨right ++ tail, by simp⟩
        | cons d left =>
            simp only [List.cons_append, List.cons.injEq] at hSplit
            exact ih hRest left right hSplit.2

theorem closeAt?_append_fence {body : Text} (h : Symbol.char '\x60' ∉ body) (after : Text) :
    closeAt? (body ++ (fence ++ after)) = some (body, after) := by
  induction body with
  | nil => simp [closeAt?, fence]
  | cons c body ih =>
      rw [List.mem_cons, not_or] at h
      have hFence : ¬fence.isPrefixOf (c :: (body ++ (fence ++ after))) = true := by
        rw [List.isPrefixOf_iff_prefix]
        exact not_fence_prefix_cons (Ne.symm h.1) _
      rw [List.cons_append, closeAt?, if_neg hFence, ih h.2, Option.map_some]

/-! ### Blocks -/

theorem shortest_of_blockAt? {text after : Text} {block : Block}
    (h : blockAt? text = some (block, after)) : block.Shortest := by
  unfold blockAt? at h
  split at h
  · cases h
  · rename_i tag hTag
    obtain ⟨⟨body, rest⟩, hClose, hBlock⟩ := Option.map_eq_some_iff.1 h
    simp only [Prod.mk.injEq] at hBlock
    obtain ⟨rfl, rfl⟩ := hBlock
    exact ⟨List.mem_of_find?_eq_some hTag, only_fence_of_closeAt? hClose⟩

theorem blockAt?_eq_none_iff {text : Text} : blockAt? text = none ↔ ¬Opens text := by
  constructor
  · rintro hNone ⟨block, after, hTag, rfl⟩
    have hSource : block.source ++ after =
        opening block.tag ++ (block.body ++ (fence ++ after)) := by
      simp [Block.source, opening]
    have hOpening := openingTag?_opening (not_mem_of_mem_tags hTag) (block.body ++ (fence ++ after))
    rw [if_pos hTag] at hOpening
    rw [hSource, blockAt?, hOpening] at hNone
    simp only [List.drop_left, Option.map_eq_none_iff, closeAt?_eq_none_iff] at hNone
    exact hNone ⟨block.body, after, by simp⟩
  · intro hOpens
    cases hBlock : blockAt? text with
    | none => rfl
    | some found =>
        exact absurd ⟨found.1, found.2, (shortest_of_blockAt? hBlock).tag_mem, blockAt?_eq hBlock⟩ hOpens

theorem not_opens_of_not_fence {text : Text} (h : ¬fence <+: text) : ¬Opens text := by
  rintro ⟨block, after, -, rfl⟩
  exact h ⟨block.tag ++ .char '\n' :: (block.body ++ fence) ++ after, by simp [Block.source]⟩

/-! ### The scan -/

theorem scan_of_blockAt? {text after : Text} {block : Block}
    (h : blockAt? text = some (block, after)) :
    scan text = ⟨[], (block, (scan after).before) :: (scan after).blocks⟩ := by
  cases text with
  | nil => simp [blockAt?, openingTag?, tags, opening, fence] at h
  | cons c rest =>
      rw [scan]
      split
      · rename_i hBlock
        rw [h, Option.some.injEq, Prod.mk.injEq] at hBlock
        rw [hBlock.1, hBlock.2]
      · rename_i hBlock
        rw [h] at hBlock
        cases hBlock

theorem scan_cons_of_not_opens {c : Symbol} {rest : Text} (h : ¬Opens (c :: rest)) :
    scan (c :: rest) = ⟨c :: (scan rest).before, (scan rest).blocks⟩ := by
  rw [scan]
  split
  · rename_i hBlock
    rw [blockAt?_eq_none_iff.2 h] at hBlock
    cases hBlock
  · rfl

/-- A piece of text in which no block opens is prose, and the scan goes on behind it. -/
theorem scan_append_of_clear {text rest : Text} (h : Clear text rest) :
    scan (text ++ rest) = ⟨text ++ (scan rest).before, (scan rest).blocks⟩ := by
  induction text with
  | nil => rfl
  | cons c text ih =>
      have hRest : Clear text rest := fun left right hSplit =>
        h (c :: left) right (by rw [hSplit, List.cons_append])
      have hHere : ¬Opens (c :: (text ++ rest)) := h [] (c :: text) rfl (by simp)
      rw [List.cons_append, scan_cons_of_not_opens hHere, ih hRest, List.cons_append]

theorem clear_of_not_mem {text : Text} (h : Symbol.char '\x60' ∉ text) (rest : Text) :
    Clear text rest := by
  rintro left right rfl hRight
  cases right with
  | nil => exact absurd rfl hRight
  | cons c right =>
      refine not_opens_of_not_fence (not_fence_prefix_cons ?_ _)
      rintro rfl
      exact h (by simp)

/-- The text of blocks, each with the prose behind it. -/
def sources (blocks : List (Block × Text)) : Text :=
  blocks.flatMap fun (block, prose) => block.source ++ prose

/-- A cut that takes every block where it first opens, and makes it as short as it can be. -/
structure Cut.Leftmost (cut : Cut) : Prop where
  clear_before : Clear cut.before (sources cut.blocks)
  shortest : ∀ block prose, (block, prose) ∈ cut.blocks → block.Shortest
  clear_behind : ∀ earlier block prose later, cut.blocks = earlier ++ (block, prose) :: later →
    Clear prose (sources later)

/-- The scan takes blocks from the left, each as short as it can be. -/
theorem leftmost_scan (text : Text) : (scan text).Leftmost := by
  fun_induction scan text with
  | case1 =>
      refine ⟨?_, by simp, by simp⟩
      rintro left right hSplit hRight
      exact absurd (List.append_eq_nil_iff.1 hSplit.symm).2 hRight
  | case2 c rest block after hBlock cut ih =>
      refine ⟨?_, ?_, ?_⟩
      · rintro left right hSplit hRight
        exact absurd (List.append_eq_nil_iff.1 hSplit.symm).2 hRight
      · intro other prose hMem
        rcases List.mem_cons.1 hMem with hFirst | hLater
        · rw [(Prod.mk.inj hFirst).1]
          exact shortest_of_blockAt? hBlock
        · exact ih.shortest other prose hLater
      · intro earlier other prose later hSplit
        cases earlier with
        | nil =>
            simp only [List.nil_append, List.cons.injEq, Prod.mk.injEq] at hSplit
            obtain ⟨⟨-, rfl⟩, rfl⟩ := hSplit
            exact ih.clear_before
        | cons first earlier =>
            simp only [List.cons_append, List.cons.injEq] at hSplit
            exact ih.clear_behind earlier other prose later hSplit.2
  | case3 c rest hBlock cut ih =>
      refine ⟨?_, ih.shortest, ih.clear_behind⟩
      rintro left right hSplit hRight
      cases left with
      | nil =>
          have hRest : rest = cut.before ++ sources cut.blocks := (flatten_scan rest).symm
          rw [List.nil_append] at hSplit
          rw [← hSplit, List.cons_append, ← hRest]
          exact blockAt?_eq_none_iff.1 hBlock
      | cons d left =>
          simp only [List.cons_append, List.cons.injEq] at hSplit
          exact ih.clear_before left right hSplit.2 hRight

end PhantomHost.Fence
