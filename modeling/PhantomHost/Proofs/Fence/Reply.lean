import PhantomHost.Proofs.Fence.Scan
/-!
The commands of replies that are made of prose and whole blocks.

A fence looks the same whether it opens or closes a block, so the scan reads the fence that ends a block with
another word as the start of a block without a word. From the first such block on it is therefore out of
step: what stands between the blocks is taken for the commands, and their bodies are passed over.
`extractCommands_reply` gives the commands of every such reply.
-/
namespace PhantomHost.Fence

open PhantomHost.Text

/-- A part of a reply: prose, or a block with the word behind its opening fence. -/
inductive Item where
  | prose (text : Text)
  | block (tag body : Text)

/-- A part as it stands in a reply. -/
def Item.source : Item → Text
  | prose text => text
  | block tag body => opening tag ++ (body ++ .char '\n' :: (fence ++ [.char '\n']))

/-- Parts in which fences stand only where a block starts or ends. The word of a block can be any text
without backticks that ends with its line, a word of letters for one. -/
def Item.Plain : Item → Prop
  | prose text => Symbol.char '\x60' ∉ text
  | block tag body =>
    Symbol.char '\x60' ∉ tag ∧ Symbol.char '\n' ∉ tag ∧ Symbol.char '\x60' ∉ body

instance (item : Item) : Decidable item.Plain := by
  cases item <;> unfold Item.Plain <;> infer_instance

/-- The reply made of some parts. -/
def reply (items : List Item) : Text :=
  items.flatMap Item.source

/-- The bodies of the blocks that carry no word or the name of a shell, without the blanks around them. -/
def shellBodies : List Item → List Text
  | [] => []
  | .prose _ :: rest => shellBodies rest
  | .block tag body :: rest => if tag ∈ tags then trim body :: shellBodies rest else shellBodies rest

/-- What stands in front of each block, counted from the block before it; `seen` stands in front of the
parts. -/
def gaps : Text → List Item → List Text
  | _, [] => []
  | seen, .prose text :: rest => gaps (seen ++ text) rest
  | seen, .block _ _ :: rest => trim seen :: gaps [] rest

/-- The bodies of the blocks in front of the first one with another word, then what stands between the
blocks from that one on. -/
def offered : List Item → List Text
  | [] => []
  | .prose _ :: rest => offered rest
  | .block tag body :: rest => if tag ∈ tags then trim body :: offered rest else gaps [] rest

/-- Behind a block with another word there are no more blocks. -/
def OthersLast (items : List Item) : Prop :=
  ∀ before tag body after, items = before ++ .block tag body :: after → tag ∉ tags →
    ∀ tag' body', .block tag' body' ∉ after

/-! ### One step of the scan -/

theorem trim_append_newLine (text : Text) : trim (text ++ [.char '\n']) = trim text := by
  have hBlank : isBlank (.char '\n') = true := by decide
  unfold trim trimStart trimEnd
  rw [List.dropWhile_append]
  split
  · rename_i hEmpty
    rw [List.isEmpty_iff.1 hEmpty]
    simp [hBlank]
  · simp [hBlank]

theorem extractCommands_append {text : Text} (h : Symbol.char '\x60' ∉ text) (rest : Text) :
    extractCommands (text ++ rest) = extractCommands rest := by
  rw [extractCommands, scan_append_of_clear (clear_of_not_mem h rest), extractCommands]

theorem extractCommands_block {tag body : Text} (hTag : tag ∈ tags) (hBody : Symbol.char '\x60' ∉ body)
    (rest : Text) :
    extractCommands (opening tag ++ (body ++ (fence ++ rest))) = trim body :: extractCommands rest := by
  have hOpening := openingTag?_opening (not_mem_of_mem_tags hTag) (body ++ (fence ++ rest))
  rw [if_pos hTag] at hOpening
  have hBlock : blockAt? (opening tag ++ (body ++ (fence ++ rest))) = some (⟨tag, body⟩, rest) := by
    rw [blockAt?, hOpening]
    simp only [List.drop_left, closeAt?_append_fence hBody, Option.map_some]
  rw [extractCommands, scan_of_blockAt? hBlock]
  rfl

/-- A fence at which no block opens is text, and so is what stands behind it up to the next backtick. -/
theorem extractCommands_fence {c : Symbol} {line rest : Text} (hLine : Symbol.char '\x60' ∉ c :: line)
    (h : ¬Opens (fence ++ (c :: line ++ rest))) :
    extractCommands (fence ++ (c :: line ++ rest)) = extractCommands rest := by
  have hHead : Symbol.char '\x60' ≠ c := fun hTick => hLine (by simp [hTick])
  have hSecond : ¬Opens (.char '\x60' :: .char '\x60' :: (c :: line ++ rest)) :=
    not_opens_of_not_fence (by simp [fence, hHead])
  have hThird : ¬Opens (.char '\x60' :: (c :: line ++ rest)) :=
    not_opens_of_not_fence (by simp [fence, hHead])
  have hText : fence ++ (c :: line ++ rest) =
      .char '\x60' :: .char '\x60' :: .char '\x60' :: (c :: line ++ rest) := rfl
  rw [hText] at h ⊢
  rw [extractCommands, scan_cons_of_not_opens h, scan_cons_of_not_opens hSecond,
    scan_cons_of_not_opens hThird, scan_append_of_clear (clear_of_not_mem hLine rest), extractCommands]

/-- A fence with another word behind it gives no command, and its block is not seen to have opened. -/
theorem extractCommands_other {tag : Text} (hTag : tag ∉ tags) (hTick : Symbol.char '\x60' ∉ tag)
    (hLine : Symbol.char '\n' ∉ tag) (rest : Text) :
    extractCommands (opening tag ++ rest) = extractCommands rest := by
  have hOpening := openingTag?_opening hLine rest
  rw [if_neg hTag] at hOpening
  have hOpens : ¬Opens (opening tag ++ rest) := by
    rw [← blockAt?_eq_none_iff, blockAt?, hOpening]
  cases tag with
  | nil => exact absurd (by decide) hTag
  | cons c word =>
      have hWord : Symbol.char '\x60' ∉ c :: (word ++ [.char '\n']) := by simpa using hTick
      have hText : opening (c :: word) ++ rest = fence ++ (c :: (word ++ [.char '\n']) ++ rest) := by
        simp [opening]
      rw [hText] at hOpens ⊢
      exact extractCommands_fence hWord hOpens

theorem extractCommands_unclosed {text : Text} (h : Symbol.char '\x60' ∉ text) :
    extractCommands (opening [] ++ text) = [] := by
  have hOpening := openingTag?_opening (by simp : Symbol.char '\n' ∉ []) text
  have hOpens : ¬Opens (opening [] ++ text) := by
    rw [← blockAt?_eq_none_iff, blockAt?, hOpening]
    simp only [if_pos (show [] ∈ tags by decide), List.drop_left, Option.map_eq_none_iff,
      closeAt?_eq_none_iff]
    intro hFence
    exact h (hFence.subset (by simp [fence]))
  have hText : opening [] ++ text = fence ++ (.char '\n' :: text ++ []) := by
    simp [opening]
  rw [hText] at hOpens ⊢
  rw [extractCommands_fence (by simpa using h) hOpens, extractCommands, scan]
  rfl

/-! ### Whole replies -/

theorem reply_prose (text : Text) (items : List Item) :
    reply (.prose text :: items) = text ++ reply items := rfl

/-- The closing fence of a block with its line end looks like an opening line without a word. -/
theorem reply_block (tag body : Text) (items : List Item) :
    reply (.block tag body :: items) =
      opening tag ++ ((body ++ [.char '\n']) ++ (opening [] ++ reply items)) := by
  simp [reply, Item.source, opening]

/-- Out of step: behind a fence that is read as an opening one, the commands are what stands between the
blocks. The opening fence of a block ends a command, and its closing fence starts the next one. -/
theorem extractCommands_opening_append {items : List Item} (hPlain : ∀ item ∈ items, item.Plain)
    {seen : Text} (hSeen : Symbol.char '\x60' ∉ seen) :
    extractCommands (opening [] ++ (seen ++ reply items)) = gaps seen items := by
  induction items generalizing seen with
  | nil => simpa [reply, gaps] using extractCommands_unclosed hSeen
  | cons item items ih =>
      rw [List.forall_mem_cons] at hPlain
      cases item with
      | prose text =>
          have hBoth : Symbol.char '\x60' ∉ seen ++ text := by
            rw [List.mem_append, not_or]
            exact ⟨hSeen, hPlain.1⟩
          rw [reply_prose, ← List.append_assoc seen, ih hPlain.2 hBoth, gaps]
      | block tag body =>
          obtain ⟨hTick, -, hBody⟩ := hPlain.1
          have hInside : Symbol.char '\x60' ∉ tag ++ .char '\n' :: (body ++ [.char '\n']) := by
            simp [hTick, hBody]
          have hSource : reply (.block tag body :: items) = fence ++
              ((tag ++ .char '\n' :: (body ++ [.char '\n'])) ++ (opening [] ++ ([] ++ reply items))) := by
            simp [reply_block, opening]
          rw [hSource, extractCommands_block (by decide) hSeen, extractCommands_append hInside,
            ih hPlain.2 List.not_mem_nil, gaps]

/-- In step: the commands are the bodies of the blocks up to the first one with another word, where the
scan gets out of step. -/
theorem extractCommands_eq_offered {items : List Item} (hPlain : ∀ item ∈ items, item.Plain) :
    extractCommands (reply items) = offered items := by
  induction items with
  | nil =>
      rw [extractCommands, reply, List.flatMap_nil, scan]
      rfl
  | cons item items ih =>
      rw [List.forall_mem_cons] at hPlain
      cases item with
      | prose text => rw [reply_prose, extractCommands_append hPlain.1, ih hPlain.2, offered]
      | block tag body =>
          obtain ⟨hTick, hLine, hBody⟩ := hPlain.1
          have hLines : Symbol.char '\x60' ∉ body ++ [.char '\n'] := by simpa using hBody
          rw [reply_block, offered]
          split
          · rename_i hTag
            have hClose : opening [] ++ reply items = fence ++ ([.char '\n'] ++ reply items) := by
              simp [opening]
            rw [hClose, extractCommands_block hTag hLines, trim_append_newLine,
              extractCommands_append (by simp), ih hPlain.2]
          · rename_i hTag
            rw [extractCommands_other hTag hTick hLine, extractCommands_append hLines]
            exact extractCommands_opening_append hPlain.2 List.not_mem_nil

theorem gaps_eq_nil {items : List Item} (h : ∀ tag body, .block tag body ∉ items) (seen : Text) :
    gaps seen items = [] := by
  induction items generalizing seen with
  | nil => rfl
  | cons item items ih =>
      cases item with
      | prose text =>
          exact ih (fun tag body hMem => h tag body (List.mem_cons_of_mem _ hMem)) _
      | block tag body => exact absurd List.mem_cons_self (h tag body)

theorem shellBodies_eq_nil {items : List Item} (h : ∀ tag body, .block tag body ∉ items) :
    shellBodies items = [] := by
  induction items with
  | nil => rfl
  | cons item items ih =>
      cases item with
      | prose text => exact ih fun tag body hMem => h tag body (List.mem_cons_of_mem _ hMem)
      | block tag body => exact absurd List.mem_cons_self (h tag body)

theorem offered_eq_shellBodies {items : List Item} (h : OthersLast items) :
    offered items = shellBodies items := by
  induction items with
  | nil => rfl
  | cons item items ih =>
      have hRest : OthersLast items := fun before tag body after hSplit =>
        h (item :: before) tag body after (by rw [hSplit, List.cons_append])
      cases item with
      | prose text => exact ih hRest
      | block tag body =>
          rw [offered, shellBodies, ih hRest]
          split
          · rfl
          · rename_i hTag
            have hNone := h [] tag body items rfl hTag
            rw [gaps_eq_nil hNone, shellBodies_eq_nil hNone]

/-- A reply made of prose and whole blocks gives the bodies of its blocks up to the first one with another
word, and from there on what stands between its blocks. So it gives the bodies of the shell blocks alone if
no block follows one with another word. -/
theorem extractCommands_reply (items : List Item) (hPlain : ∀ item ∈ items, item.Plain) :
    extractCommands (reply items) = offered items ∧
      (OthersLast items → extractCommands (reply items) = shellBodies items) := by
  refine ⟨extractCommands_eq_offered hPlain, ?_⟩
  intro hLast
  rw [extractCommands_eq_offered hPlain, offered_eq_shellBodies hLast]

/-- A reply whose last block is in another language gives the bodies of the shell blocks in front of it. -/
theorem extractCommands_otherLast :
    (∀ item ∈ [Item.prose "First:\n", .block "bash" " ls -la ", .block [] "id\n", .block "python" "print(1)"],
      item.Plain) ∧
    extractCommands (reply [.prose "First:\n", .block "bash" " ls -la ", .block [] "id\n",
      .block "python" "print(1)"]) = [("ls -la" : Text), ("id" : Text)] := by
  have hPlain : ∀ item ∈ [Item.prose "First:\n", .block "bash" " ls -la ", .block [] "id\n",
      .block "python" "print(1)"], item.Plain := by
    decide +kernel
  refine ⟨hPlain, ?_⟩
  rw [(extractCommands_reply _ hPlain).1]
  decide +kernel

/-- With a block in another language in front of a shell block, the prose between the two is given in place
of the command. -/
theorem extractCommands_otherFirst :
    (∀ item ∈ [Item.block "python" "print(1)", .prose "Then run:\n", .block "bash" "ls"], item.Plain) ∧
    shellBodies [.block "python" "print(1)", .prose "Then run:\n", .block "bash" "ls"] =
      [("ls" : Text)] ∧
    extractCommands (reply [.block "python" "print(1)", .prose "Then run:\n", .block "bash" "ls"]) =
      [("Then run:" : Text)] := by
  decide +kernel

end PhantomHost.Fence
