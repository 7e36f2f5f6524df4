import SqlReader.Proofs.EditLog.Marks

/-! Runs that go back to any mark that they have taken, also to a stale one: one that has been gone
back behind.  Going back compares lengths only.  A stale mark is found out as long as the log is
shorter than it was; once the log has grown back to that length, its new edits are taken for those
that were marked, and the depth that was marked is set for them. -/

namespace SqlReader

namespace EditLog

/-- A log that has been marked, and the least number of edits that the log has had since. -/
structure Marked where
  log : EditLog
  least : Nat

/-- The mark is stale: some of the edits that were marked have been taken back. -/
def Marked.Stale (m : Marked) : Prop := m.least < m.log.edits.size

/-- The logs that runs come to, each with all that has been marked on the way.  A run goes back to
any of the marks, stale ones included, if `may` lets it go back from the log it stands at. -/
inductive Ran (may : EditLog → EditLog → Prop) : EditLog → List Marked → Prop
  | empty : Ran may .empty []
  | add {log : EditLog} {taken : List Marked} (h : Ran may log taken) (tree : Tree) :
      Ran may (log.add tree) taken
  | enter {log : EditLog} {taken : List Marked} (h : Ran may log taken) (tree : Tree) :
      Ran may (log.enter tree) taken
  | exit {log next : EditLog} {taken : List Marked} (h : Ran may log taken)
      (hExit : log.exit = .ok next) : Ran may next taken
  | mark {log : EditLog} {taken : List Marked} (h : Ran may log taken) :
      Ran may log (⟨log, log.edits.size⟩ :: taken)
  | rollback {log next : EditLog} {taken : List Marked} {old : Marked} (h : Ran may log taken)
      (hTaken : old ∈ taken) (hMay : may old.log log)
      (hBack : log.rollback old.log.mark = .ok next) :
      Ran may next
        (taken.map fun m => { m with least := min m.least old.log.edits.size })

variable {may : EditLog → EditLog → Prop} {log old next : EditLog} {m : Marked}
  {taken : List Marked} {violation : Violation}

/-! ### Going back -/

theorem rollback_error_iff : log.rollback old.mark = .error violation ↔
    log.edits.size < old.edits.size ∧
      violation = .markBeyondLog old.edits.size log.edits.size := by
  unfold EditLog.rollback mark
  split
  · rename_i hLe
    constructor
    · rintro ⟨⟩
    · rintro ⟨hLess, -⟩
      exact absurd hLe (Nat.not_le.mpr hLess)
  · rename_i hLe
    constructor
    · rintro ⟨⟩
      exact ⟨Nat.not_le.mp hLe, rfl⟩
    · rintro ⟨-, rfl⟩
      rfl

/-- Where the log is long enough, going back leaves as many edits as were marked. -/
theorem rollback_ok_iff : log.rollback old.mark = .ok next ↔
    old.edits.size ≤ log.edits.size ∧
      next.edits.toList = log.edits.toList.take old.edits.size ∧ next.depth = old.depth := by
  unfold EditLog.rollback mark
  split
  · rename_i hLe
    constructor
    · rintro ⟨⟩
      exact ⟨hLe, by simp, rfl⟩
    · rintro ⟨-, hEdits, hDepth⟩
      obtain ⟨edits, depth⟩ := next
      obtain rfl : depth = old.depth := hDepth
      obtain rfl : edits = log.edits.take old.edits.size :=
        Array.toList_inj.mp (by simpa using hEdits)
      rfl
  · rename_i hLe
    constructor
    · rintro ⟨⟩
    · rintro ⟨hLess, -⟩
      exact absurd hLess hLe

/-- Going back restores the log that was marked if its edits are those at the head of the log. -/
theorem rollback_restores_iff : log.rollback old.mark = .ok old ↔ old.Extends log := by
  rw [rollback_ok_iff]
  constructor
  · rintro ⟨-, hEdits, -⟩
    rw [Extends, hEdits]
    exact List.take_prefix _ _
  · intro h
    exact ⟨List.IsPrefix.length_le h, List.prefix_iff_eq_take.mp h, rfl⟩

/-! ### What has been marked -/

/-- The first edits, as many as there have been at least since the mark, are those marked. -/
structure Marked.Since (m : Marked) (log : EditLog) : Prop where
  le_marked : m.least ≤ m.log.edits.size
  le_log : m.least ≤ log.edits.size
  same : log.edits.toList.take m.least = m.log.edits.toList.take m.least

theorem Marked.Since.extends (h : m.Since log) (hNext : log.Extends next) : m.Since next := by
  have hLe : log.edits.size ≤ next.edits.size := List.IsPrefix.length_le hNext
  refine ⟨h.le_marked, Nat.le_trans h.le_log hLe, ?_⟩
  obtain ⟨more, hMore⟩ := hNext
  rw [← h.same, ← hMore, List.take_append_of_le_length h.le_log]

theorem Marked.Since.rollback (h : m.Since log) (hBack : log.rollback old.mark = .ok next) :
    Since { m with least := min m.least old.edits.size } next := by
  obtain ⟨hLe, hEdits, -⟩ := rollback_ok_iff.mp hBack
  have hSize : next.edits.size = old.edits.size := by
    have hLength := congrArg List.length hEdits
    rw [List.length_take, Array.length_toList, Array.length_toList] at hLength
    omega
  refine ⟨Nat.le_trans (Nat.min_le_left _ _) h.le_marked, hSize ▸ Nat.min_le_right _ _, ?_⟩
  show next.edits.toList.take (min m.least old.edits.size) =
    m.log.edits.toList.take (min m.least old.edits.size)
  calc next.edits.toList.take (min m.least old.edits.size)
      = (log.edits.toList.take m.least).take old.edits.size := by
        rw [hEdits, List.take_take, List.take_take]
        congr 1
        omega
    _ = (m.log.edits.toList.take m.least).take old.edits.size := by rw [h.same]
    _ = m.log.edits.toList.take (min m.least old.edits.size) := by
        rw [List.take_take, Nat.min_comm]

theorem Ran.since (h : Ran may log taken) : ∀ m ∈ taken, m.Since log := by
  induction h with
  | empty => exact List.forall_mem_nil _
  | add h tree ih => exact fun m hm => (ih m hm).extends (extends_push _ _ _)
  | enter h tree ih => exact fun m hm => (ih m hm).extends (extends_push _ _ _)
  | exit h hExit ih => exact fun m hm => (ih m hm).extends (extends_exit hExit)
  | mark h ih => exact List.forall_mem_cons.mpr ⟨⟨Nat.le_refl _, Nat.le_refl _, rfl⟩, ih⟩
  | rollback h hTaken hMay hBack ih =>
    intro m hm
    obtain ⟨kept, hKept, rfl⟩ := List.mem_map.mp hm
    exact (ih kept hKept).rollback hBack

/-- The edits marked are those at the head of the log if the last of them, which may have been taken
back, are those that have come instead. -/
theorem Marked.Since.extends_iff (h : m.Since log) : m.log.Extends log ↔
    m.log.edits.toList.drop m.least <+: log.edits.toList.drop m.least := by
  have hMarked := List.take_append_drop m.least m.log.edits.toList
  have hLog := List.take_append_drop m.least log.edits.toList
  rw [h.same] at hLog
  rw [Extends, ← hMarked, ← hLog, List.prefix_append_right_inj, hMarked, hLog]

/-! ### Runs -/

/-- A run that goes back only to logs whose edits are at the head of its own keeps the depth and the
nesting of the edits right. -/
theorem Ran.sound (h : Ran may log taken) (hMay : ∀ old log, may old log → old.Extends log) :
    log.Sound ∧ ∀ m ∈ taken, m.log.Sound := by
  induction h with
  | empty => exact ⟨sound_empty, List.forall_mem_nil _⟩
  | add h tree ih => exact ⟨ih.1.add tree, ih.2⟩
  | enter h tree ih => exact ⟨ih.1.enter tree, ih.2⟩
  | exit h hExit ih => exact ⟨ih.1.exit hExit, ih.2⟩
  | mark h ih => exact ⟨ih.1, List.forall_mem_cons.mpr ih⟩
  | @rollback log next taken old h hTaken hAllowed hBack ih =>
    obtain ⟨-, hMarked⟩ := ih
    obtain rfl : next = old.log := by
      rw [rollback_restores_iff.mpr (hMay _ _ hAllowed)] at hBack
      cases hBack
      rfl
    refine ⟨hMarked old hTaken, fun m hm => ?_⟩
    obtain ⟨kept, hKept, rfl⟩ := List.mem_map.mp hm
    exact hMarked kept hKept

/-- Wherever a run comes to, going back to a mark that it has taken is a violation if the log is
shorter than it was when marked, and only then.  Otherwise as many edits are left as were marked,
with the depth that was marked.  That is the log that was marked if the mark is not stale; if it is,
going back is a violation or restores the log exactly where the edits that have come since the log
was shortest are those that were marked.  In a run that goes back only where this is so, the depth
is the number of nodes entered and not exited. -/
theorem going_back_to_taken_marks (h : Ran may log taken) :
    (∀ m ∈ taken,
      (∀ violation, log.rollback m.log.mark = .error violation ↔
        log.edits.size < m.log.edits.size ∧
          violation = .markBeyondLog m.log.edits.size log.edits.size) ∧
      (∀ next, log.rollback m.log.mark = .ok next →
        next.edits.toList = log.edits.toList.take m.log.edits.size ∧
          next.depth = m.log.depth) ∧
      (¬m.Stale → log.rollback m.log.mark = .ok m.log) ∧
      ((∃ violation, log.rollback m.log.mark = .error violation) ∨
          log.rollback m.log.mark = .ok m.log ↔
        (m.log.edits.size ≤ log.edits.size →
          m.log.edits.toList.drop m.least <+: log.edits.toList.drop m.least))) ∧
    ((∀ old log, may old log → old.Extends log) →
      log.depth = opened log.edits.toList ∧ Nested log.edits.toList) := by
  refine ⟨fun m hm => ?_, fun hMay => ?_⟩
  · have hSince := h.since m hm
    refine ⟨fun violation => rollback_error_iff, fun next hNext => (rollback_ok_iff.mp hNext).2,
      fun hLive => ?_, ?_⟩
    · have hLeast : m.log.edits.size ≤ m.least := Nat.not_lt.mp hLive
      rw [rollback_restores_iff, hSince.extends_iff, List.drop_eq_nil_of_le hLeast]
      exact List.nil_prefix
    · rw [rollback_restores_iff, hSince.extends_iff]
      constructor
      · rintro (⟨violation, hError⟩ | hSame) hLe
        · exact absurd hLe (Nat.not_le.mpr (rollback_error_iff.mp hError).1)
        · exact hSame
      · intro hSame
        by_cases hLe : m.log.edits.size ≤ log.edits.size
        · exact .inr (hSame hLe)
        · exact .inl ⟨_, rollback_error_iff.mpr ⟨Nat.not_le.mp hLe, rfl⟩⟩
  · exact ⟨(h.sound hMay).1.depth, (h.sound hMay).1.nested⟩

/-- A log with a selection open. -/
def selecting : EditLog := empty.enter (.leaf .select "")

/-- A run that marks the empty log and the log with a selection open, and goes back to the first
mark, which makes the second one stale. -/
theorem ran_stale (hMay : may empty selecting) :
    Ran may empty [⟨selecting, 0⟩, ⟨empty, 0⟩] := by
  have hBoth : Ran may selecting [⟨selecting, 1⟩, ⟨empty, 0⟩] := .mark (.enter (.mark .empty) _)
  exact hBoth.rollback (List.mem_cons_of_mem _ List.mem_cons_self) hMay rfl

/-- The stale mark is found out while the log is empty.  When the same node has been entered again,
going back to it is no violation and restores the log that was marked. -/
theorem stale_mark_found_out_or_restored :
    empty.rollback selecting.mark = .error (.markBeyondLog 1 0) ∧
      selecting.rollback selecting.mark = .ok selecting ∧
      selecting.depth = opened selecting.edits.toList := by
  have hStale : Ran Extends empty [⟨selecting, 0⟩, ⟨empty, 0⟩] := ran_stale (List.nil_prefix)
  have hAgain : Ran Extends selecting [⟨selecting, 0⟩, ⟨empty, 0⟩] := hStale.enter _
  obtain ⟨hEmpty, -⟩ := going_back_to_taken_marks hStale
  obtain ⟨hSelecting, hSound⟩ := going_back_to_taken_marks hAgain
  obtain ⟨hFound, -⟩ := hEmpty ⟨selecting, 0⟩ List.mem_cons_self
  obtain ⟨hNotFound, -, -, hRestored⟩ := hSelecting ⟨selecting, 0⟩ List.mem_cons_self
  refine ⟨(hFound _).mpr ⟨by decide, rfl⟩, ?_, (hSound fun _ _ h => h).1⟩
  refine (hRestored.mpr fun _ => List.prefix_rfl).resolve_left ?_
  rintro ⟨violation, hError⟩
  exact absurd ((hNotFound violation).mp hError).1 (by decide)

/-- When another edit has come instead, the stale mark is not found out: going back to it keeps that
edit and sets the depth of the log that was marked.  No node is open then, but one can be exited. -/
theorem stale_mark_slips_through :
    Ran (fun _ _ => True) (empty.add (.leaf .string "x")) [⟨selecting, 0⟩, ⟨empty, 0⟩] ∧
      (empty.add (.leaf .string "x")).rollback selecting.mark =
        .ok ⟨#[.add (.leaf .string "x")], 1⟩ ∧
      (⟨#[.add (.leaf .string "x")], 1⟩ : EditLog) ≠ selecting ∧
      opened [.add (.leaf .string "x")] = 0 ∧
      exit ⟨#[.add (.leaf .string "x")], 1⟩ = .ok ⟨#[.add (.leaf .string "x"), .exit], 0⟩ ∧
      ¬Nested [.add (.leaf .string "x"), .exit] := by
  refine ⟨(ran_stale trivial).add _, rfl, by decide, rfl, rfl, fun hNested => ?_⟩
  exact absurd (hNested _ List.prefix_rfl) (by decide)

end EditLog

end SqlReader
