import PhantomHost.Text.Blank
/-!
Command blocks in a message: text between fences of three backticks whose opening line carries no
word or the name of a shell.

`scan` cuts a message into prose and blocks from the left. A block is taken where its fence first
opens and ends at the next fence, so nothing of the message is lost and blocks do not overlap; this
is `flatten_scan`.
-/
namespace PhantomHost

open PhantomHost.Text

namespace Fence

def fence : Text := ['\x60', '\x60', '\x60']

/-- The words that may stand behind an opening fence. -/
def tags : List Text := ["bash", "sh", "zsh", []]

/-- A block: the word behind its opening fence, and its lines. -/
structure Block where
  tag : Text
  body : Text
  deriving Repr, DecidableEq

/-- A block as it stands in a message. -/
def Block.source (block : Block) : Text :=
  fence ++ block.tag ++ .char '\n' :: (block.body ++ fence)

/-- The command of a block: its lines without the blanks around them. -/
def Block.command (block : Block) : Text :=
  trim block.body

/-- The text of an opening line. -/
def opening (tag : Text) : Text :=
  fence ++ tag ++ [.char '\n']

/-- The word of the opening line that a text starts with. -/
def openingTag? (text : Text) : Option Text :=
  tags.find? fun tag => (opening tag).isPrefixOf text

/-- A text up to the next fence, and what follows the fence. -/
def closeAt? : Text → Option (Text × Text)
  | [] => none
  | c :: rest =>
    if fence.isPrefixOf (c :: rest) then some ([], rest.drop 2)
    else (closeAt? rest).map fun (body, after) => (c :: body, after)

/-- The block that a text starts with, and what follows it. -/
def blockAt? (text : Text) : Option (Block × Text) :=
  match openingTag? text with
  | none => none
  | some tag =>
    (closeAt? (text.drop (opening tag).length)).map fun (body, after) => (⟨tag, body⟩, after)

theorem closeAt?_eq {text body after : Text} (h : closeAt? text = some (body, after)) :
    text = body ++ fence ++ after := by
  induction text generalizing body with
  | nil => simp [closeAt?] at h
  | cons c rest ih =>
    simp only [closeAt?] at h
    split at h
    · rename_i hFence
      simp only [Option.some.injEq, Prod.mk.injEq] at h
      obtain ⟨rfl, rfl⟩ := h
      obtain ⟨tail, hTail⟩ := List.isPrefixOf_iff_prefix.1 hFence
      simp only [fence, List.cons_append, List.nil_append, List.cons.injEq] at hTail
      obtain ⟨rfl, rfl⟩ := hTail
      rfl
    · cases hRest : closeAt? rest with
      | none => simp [hRest] at h
      | some found =>
        obtain ⟨inner, tail⟩ := found
        simp only [hRest, Option.map_some, Option.some.injEq, Prod.mk.injEq] at h
        obtain ⟨rfl, rfl⟩ := h
        simpa using ih hRest

/-- A text that starts with a block is the block and what follows. -/
theorem blockAt?_eq {text after : Text} {block : Block}
    (h : blockAt? text = some (block, after)) : text = block.source ++ after := by
  unfold blockAt? at h
  split at h
  · simp at h
  · rename_i tag hTag
    have hPrefix := List.find?_some hTag
    obtain ⟨tail, hTail⟩ := List.isPrefixOf_iff_prefix.1 hPrefix
    subst hTail
    rw [List.drop_left] at h
    cases hClose : closeAt? tail with
    | none => simp [hClose] at h
    | some found =>
      obtain ⟨body, rest⟩ := found
      simp only [hClose, Option.map_some, Option.some.injEq, Prod.mk.injEq] at h
      obtain ⟨rfl, rfl⟩ := h
      rw [closeAt?_eq hClose]
      simp [Block.source, opening]

theorem length_lt_of_blockAt? {text after : Text} {block : Block}
    (h : blockAt? text = some (block, after)) : after.length < text.length := by
  rw [blockAt?_eq h]
  simp [Block.source, fence]
  omega

/-- A message cut into prose and blocks: the prose before the first block, then every block with the
prose behind it. -/
structure Cut where
  before : Text
  blocks : List (Block × Text)
  deriving Repr, DecidableEq

/-- Cuts a message into prose and blocks. -/
def scan (text : Text) : Cut :=
  match text with
  | [] => ⟨[], []⟩
  | c :: rest =>
    match _h : blockAt? (c :: rest) with
    | some (block, after) =>
      let cut := scan after
      ⟨[], (block, cut.before) :: cut.blocks⟩
    | none =>
      let cut := scan rest
      ⟨c :: cut.before, cut.blocks⟩
termination_by text.length
decreasing_by
  · exact length_lt_of_blockAt? _h
  · simp

/-- The message that was cut. -/
def Cut.flatten (cut : Cut) : Text :=
  cut.before ++ cut.blocks.flatMap fun (block, prose) => block.source ++ prose

/-- Nothing of a message is lost. -/
theorem flatten_scan (text : Text) : (scan text).flatten = text := by
  fun_induction scan text with
  | case1 => rfl
  | case2 c rest block after hBlock cut ih =>
    rw [blockAt?_eq hBlock]
    simp only [Cut.flatten, List.flatMap_cons, List.nil_append, List.append_assoc] at ih ⊢
    rw [ih]
  | case3 c rest hBlock cut ih =>
    simp only [Cut.flatten, List.cons_append] at ih ⊢
    rw [ih]

end Fence

/-- The commands of a message, in order. -/
def extractCommands (message : Text) : List Text :=
  (Fence.scan message).blocks.map fun (block, _) => block.command

/-- A part of a message as it is shown: prose, or a command. -/
structure MessagePart where
  text : Text
  isCommand : Bool
  deriving Repr, DecidableEq

/-- Prose as parts: empty prose is not shown. -/
def proseParts (prose : Text) : List MessagePart :=
  if prose = [] then [] else [⟨prose, false⟩]

/-- The parts of a message, in order. -/
def splitMessage (message : Text) : List MessagePart :=
  let cut := Fence.scan message
  proseParts cut.before ++ cut.blocks.flatMap fun (block, prose) =>
    ⟨block.command, true⟩ :: proseParts prose

end PhantomHost
