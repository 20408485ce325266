import PhantomHost.Text.Pieces
/-!
The scan for one text inside another as a search that begins anew behind each place where it has found the text.

The scan is a run of this search, from the start of the other text to its end, and there is no other run. What a run
finds does not overlap, is found there, and covers every place where the text stands.
-/
namespace PhantomHost.Text

/-- One text stands in another at an offset. -/
def OccursAt (needle hay : Text) (offset : Nat) : Prop :=
  needle <+: hay.drop offset

instance (needle hay : Text) (offset : Nat) : Decidable (OccursAt needle hay offset) :=
  inferInstanceAs (Decidable (_ <+: _))

theorem OccursAt.add_length_le {needle hay : Text} {offset : Nat} (hNeedle : needle ≠ [])
    (h : OccursAt needle hay offset) : offset + needle.length ≤ hay.length := by
  have hLength := h.length_le
  have hPositive := List.length_pos_iff.2 hNeedle
  rw [List.length_drop] at hLength
  omega

theorem infix_iff_exists_occursAt {needle hay : Text} : needle <:+: hay ↔ ∃ offset, OccursAt needle hay offset := by
  constructor
  · rintro ⟨before, after, rfl⟩
    refine ⟨before.length, ?_⟩
    rw [OccursAt, List.append_assoc, List.drop_left]
    exact List.prefix_append needle after
  · rintro ⟨offset, hHere⟩
    exact hHere.isInfix.trans (List.drop_suffix offset hay).isInfix

/-- A run of the search for one text in another, from a position on: it takes the first place where the text stands and
begins anew behind it, and it ends where there is none. -/
inductive Scan (needle hay : Text) : Nat → List Nat → Prop
  | done {pos : Nat} (hNone : ∀ offset, pos ≤ offset → ¬OccursAt needle hay offset) : Scan needle hay pos []
  | hit {pos start : Nat} {rest : List Nat} (hStart : pos ≤ start) (hHere : OccursAt needle hay start)
      (hFirst : ∀ offset, pos ≤ offset → offset < start → ¬OccursAt needle hay offset)
      (hRest : Scan needle hay (start + needle.length) rest) : Scan needle hay pos (start :: rest)

/-! ### The scan is the run -/

theorem Scan.of_succ {needle hay : Text} {pos : Nat} {starts : List Nat} (h : Scan needle hay (pos + 1) starts)
    (hNone : ¬OccursAt needle hay pos) : Scan needle hay pos starts := by
  cases h with
  | done hLater =>
      refine Scan.done fun offset hOffset hHere => ?_
      rcases Nat.eq_or_lt_of_le hOffset with rfl | hBehind
      · exact hNone hHere
      · exact hLater offset hBehind hHere
  | hit hStart hHere hFirst hRest =>
      refine Scan.hit (Nat.le_of_succ_le hStart) hHere (fun offset hOffset hBefore hOther => ?_) hRest
      rcases Nat.eq_or_lt_of_le hOffset with rfl | hBehind
      · exact hNone hOther
      · exact hFirst offset hBehind hBefore hOther

/-- By induction on the rest of the text: the characters that belong to a hit are passed over, so the scan goes on
where the search begins anew. -/
theorem scan_occurrencesFrom {needle hay : Text} (hNeedle : needle ≠ []) (covered offset : Nat) {rest : Text}
    (hRest : hay.drop offset = rest) :
    Scan needle hay (offset + covered) (occurrencesFrom needle covered offset rest) := by
  have hLength : 0 < needle.length := List.length_pos_iff.2 hNeedle
  have hNext : ∀ offset c rest, hay.drop offset = c :: rest → hay.drop (offset + 1) = rest := by
    intro offset c rest hRest
    rw [← List.tail_drop, hRest]
    rfl
  fun_induction occurrencesFrom needle covered offset rest with
  | case1 covered offset =>
      refine Scan.done fun place hPlace hHere => ?_
      have hEnd := hHere.add_length_le hNeedle
      have hBehind := List.drop_eq_nil_iff.1 hRest
      omega
  | case2 offset c rest hHit ih =>
      have hLater := ih (hNext offset c rest hRest)
      have hEnd : offset + 1 + (needle.length - 1) = offset + needle.length := by omega
      rw [hEnd] at hLater
      refine Scan.hit (Nat.le_refl _) ?_ (fun place hPlace hBefore => absurd hBefore (Nat.not_lt.2 hPlace)) hLater
      rw [OccursAt, hRest]
      exact List.isPrefixOf_iff_prefix.1 hHit
  | case3 offset c rest hNone ih =>
      refine Scan.of_succ (ih (hNext offset c rest hRest)) ?_
      rw [Nat.add_zero, OccursAt, hRest, ← List.isPrefixOf_iff_prefix]
      exact hNone
  | case4 covered offset c rest ih =>
      have hLater := ih (hNext offset c rest hRest)
      rwa [Nat.succ_add_eq_add_succ] at hLater

theorem scan_occurrences {needle : Text} (hNeedle : needle ≠ []) (hay : Text) :
    Scan needle hay 0 (occurrences needle hay) :=
  scan_occurrencesFrom hNeedle 0 0 rfl

/-- From one position on there is one run and no other. -/
theorem Scan.eq {needle hay : Text} {pos : Nat} {starts others : List Nat} (h : Scan needle hay pos starts)
    (hOthers : Scan needle hay pos others) : starts = others := by
  induction h generalizing others with
  | done hNone =>
      cases hOthers with
      | done => rfl
      | hit hStart hHere => exact absurd hHere (hNone _ hStart)
  | @hit pos start rest hStart hHere hFirst hRest ih =>
      cases hOthers with
      | done hNone => exact absurd hHere (hNone _ hStart)
      | @hit _ other more hOther hThere hBefore hMore =>
          have hSame : start = other := by
            rcases Nat.lt_trichotomy start other with hLess | hSame | hGreater
            · exact absurd hHere (hBefore start hStart hLess)
            · exact hSame
            · exact absurd hThere (hFirst other hOther hGreater)
          subst hSame
          rw [ih hMore]

/-! ### What a run finds -/

theorem Scan.occursAt_of_mem {needle hay : Text} {pos start : Nat} {starts : List Nat} (h : Scan needle hay pos starts)
    (hMem : start ∈ starts) : OccursAt needle hay start := by
  induction h with
  | done => cases hMem
  | hit hStart hHere hFirst hRest ih =>
      rcases List.mem_cons.1 hMem with rfl | hLater
      · exact hHere
      · exact ih hLater

/-- Wherever the text stands from the position on, it begins inside a place that was found. -/
theorem Scan.exists_covering {needle hay : Text} {pos offset : Nat} {starts : List Nat}
    (h : Scan needle hay pos starts) (hPos : pos ≤ offset) (hHere : OccursAt needle hay offset) :
    ∃ start ∈ starts, start ≤ offset ∧ offset < start + needle.length := by
  induction h with
  | done hNone => exact absurd hHere (hNone offset hPos)
  | @hit pos start rest hStart hThere hFirst hRest ih =>
      rcases Nat.lt_or_ge offset start with hBefore | hFrom
      · exact absurd hHere (hFirst offset hPos hBefore)
      rcases Nat.lt_or_ge offset (start + needle.length) with hInside | hBehind
      · exact ⟨start, List.mem_cons_self, hFrom, hInside⟩
      · obtain ⟨later, hLater, hCovers⟩ := ih hBehind
        exact ⟨later, List.mem_cons_of_mem _ hLater, hCovers⟩

/-- Offsets in ascending order, from a position on, of stretches of one width that do not overlap. -/
def Spaced (width : Nat) : Nat → List Nat → Prop
  | _, [] => True
  | pos, start :: rest => pos ≤ start ∧ Spaced width (start + width) rest

theorem Spaced.le_of_mem {width pos start : Nat} {starts : List Nat} (h : Spaced width pos starts)
    (hMem : start ∈ starts) : pos ≤ start := by
  induction starts generalizing pos with
  | nil => cases hMem
  | cons first rest ih =>
      obtain ⟨hFirst, hRest⟩ := h
      rcases List.mem_cons.1 hMem with hSame | hLater
      · rw [hSame]
        exact hFirst
      · have hStart := ih hRest hLater
        omega

theorem Spaced.pairwise {width pos : Nat} {starts : List Nat} (h : Spaced width pos starts) :
    starts.Pairwise fun start later => start + width ≤ later := by
  induction starts generalizing pos with
  | nil => exact List.Pairwise.nil
  | cons first rest ih => exact List.pairwise_cons.2 ⟨fun later hLater => h.2.le_of_mem hLater, ih h.2⟩

theorem Spaced.apart {width pos start later : Nat} {starts : List Nat} (h : Spaced width pos starts)
    (hStart : start ∈ starts) (hLater : later ∈ starts) (hLess : start < later) : start + width ≤ later := by
  induction starts generalizing pos with
  | nil => cases hStart
  | cons first rest ih =>
      rcases List.mem_cons.1 hStart with rfl | hIn <;> rcases List.mem_cons.1 hLater with rfl | hRest
      · exact absurd hLess (Nat.lt_irrefl _)
      · exact h.2.le_of_mem hRest
      · have hBehind := h.2.le_of_mem hIn
        omega
      · exact ih h.2 hIn hRest

/-- The search begins anew behind the last character of a hit, so no two hits overlap. -/
theorem Scan.spaced {needle hay : Text} {pos : Nat} {starts : List Nat} (h : Scan needle hay pos starts) :
    Spaced needle.length pos starts := by
  induction h with
  | done => trivial
  | hit hStart hHere hFirst hRest ih => exact ⟨hStart, ih⟩

theorem occurrences_eq_nil_iff {needle : Text} (hNeedle : needle ≠ []) (hay : Text) :
    occurrences needle hay = [] ↔ ¬needle <:+: hay := by
  have hScan := scan_occurrences hNeedle hay
  rw [infix_iff_exists_occursAt]
  constructor
  · rintro hNone ⟨offset, hHere⟩
    obtain ⟨start, hStart, -⟩ := hScan.exists_covering (Nat.zero_le offset) hHere
    rw [hNone] at hStart
    cases hStart
  · intro hNone
    apply List.eq_nil_iff_forall_not_mem.2
    intro start hStart
    exact hNone ⟨start, hScan.occursAt_of_mem hStart⟩

end PhantomHost.Text
