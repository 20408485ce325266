import PhantomHost.Transcript.Line
/-!
Transcripts that are written line by line, each line with the next number of the world.

An input line shows the directory that the last output line before it shows. The numbers may have gaps, since
other transcripts of the same world take numbers too, but no number comes twice.
-/
namespace PhantomHost

/-- What a line says without its number. -/
def Line.told (line : Line) : LineKind × Text × Text :=
  (line.kind, line.content, line.cwd)

/-- The directory that the last output line of a transcript shows; home, while there is none. -/
def lastCwd (lines : List Line) : Text :=
  ((lines.filter fun line => line.kind = .output).getLast?.map Line.cwd).getD "~"

theorem lastCwd_append_output (lines : List Line) {line : Line} (h : line.kind = .output) :
    lastCwd (lines ++ [line]) = line.cwd := by
  simp [lastCwd, h]

theorem lastCwd_append_of_ne (lines : List Line) {line : Line} (h : line.kind ≠ .output) :
    lastCwd (lines ++ [line]) = lastCwd lines := by
  simp [lastCwd, h]

/-- A transcript whose numbers are among the first `count` ones and come once each, and whose input lines show
the directory of the output line before them. -/
structure Written (lines : List Line) (count : Nat) : Prop where
  distinct : (lines.map Line.id).Nodup
  given : ∀ line ∈ lines, line.id ≤ count
  linked : ∀ before line later, lines = before ++ line :: later → line.kind = .input →
    line.cwd = lastCwd before

theorem written_nil (count : Nat) : Written [] count where
  distinct := List.nodup_nil
  given := List.forall_mem_nil _
  linked := by
    intro before line later hSplit
    cases before <;> cases hSplit

theorem Written.mono {lines : List Line} {count later : Nat} (h : Written lines count)
    (hCount : count ≤ later) : Written lines later :=
  ⟨h.distinct, fun line hLine => Nat.le_trans (h.given line hLine) hCount, h.linked⟩

/-- A line with the next number can be written, an input line under the directory shown last. -/
theorem Written.snoc {lines : List Line} {count : Nat} (h : Written lines count) {line : Line}
    (hId : line.id = count + 1) (hCwd : line.kind = .input → line.cwd = lastCwd lines) :
    Written (lines ++ [line]) (count + 1) where
  distinct := by
    rw [List.map_append, List.map_singleton, List.nodup_append]
    refine ⟨h.distinct, List.pairwise_singleton .., ?_⟩
    intro old hOld new hNew hSame
    obtain ⟨earlier, hEarlier, rfl⟩ := List.mem_map.1 hOld
    have hGiven := h.given earlier hEarlier
    rw [List.mem_singleton.1 hNew] at hSame
    omega
  given := by
    intro earlier hEarlier
    rcases List.mem_append.1 hEarlier with hOld | hNew
    · exact Nat.le_succ_of_le (h.given earlier hOld)
    · rw [List.mem_singleton.1 hNew]
      exact Nat.le_of_eq hId
  linked := by
    intro before other later hSplit hInput
    rcases List.eq_nil_or_concat later with rfl | ⟨between, last, rfl⟩
    · obtain ⟨hLines, hLast⟩ := List.append_inj' hSplit rfl
      cases hLast
      rw [hCwd hInput, hLines]
    · have hSplit' : lines ++ [line] = (before ++ other :: between) ++ [last] := by simpa using hSplit
      obtain ⟨hLines, -⟩ := List.append_inj' hSplit' rfl
      exact h.linked before other between hLines hInput

/-- Any other line can be written at any time. -/
theorem Written.other {lines : List Line} {count : Nat} (h : Written lines count) {line : Line}
    (hId : line.id = count + 1) (hKind : line.kind ≠ .input) : Written (lines ++ [line]) (count + 1) :=
  h.snoc hId fun hInput => absurd hInput hKind

end PhantomHost
