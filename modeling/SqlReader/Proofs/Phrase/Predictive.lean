import SqlReader.Proofs.Phrase
import SqlReader.Proofs.Text.Runs

/-! What `read` finds is a derivation, and of a predictive phrase it finds every derivation that
the tokens after it cannot continue.  A phrase is predictive if one token tells its alternatives
apart, and tells whether a part that may be left out or repeated is there. -/

namespace SqlReader.Phrase

variable {a : Phrase} {ts rest : List Token} {ns : List Tree} {m : Match}

/-! ### Soundness -/

/-- A derivation of the phrase at the head of the tokens. -/
structure Finds (a : Phrase) (ts : List Token) (m : Match) : Prop where
  split : ts = m.taken ++ m.rest
  derives : a.Derives m.taken m.nodes

theorem readList_finds {item : List Token → Option Match}
    (hItem : ∀ ts m, item ts = some m → a.Finds ts m) {bound : Nat}
    (h : readList item bound ts = some m) : a.list.Finds ts m := by
  induction bound generalizing ts m with
  | zero =>
    obtain ⟨hSplit, hDerives⟩ := hItem ts m h
    exact ⟨hSplit, .listOne hDerives⟩
  | succ bound ih =>
    simp only [readList, Option.bind_eq_bind, Option.bind_eq_some_iff] at h
    obtain ⟨one, hOne, h⟩ := h
    obtain ⟨hSplit, hDerives⟩ := hItem ts one hOne
    split at h
    · cases h
      exact ⟨hSplit, .listOne hDerives⟩
    · rename_i t rest hRest
      split at h
      · rename_i hComma
        obtain ⟨more, hMore, hm⟩ := Option.bind_eq_some_iff.mp h
        cases hm
        obtain ⟨hSplitMore, hDerivesMore⟩ := ih hMore
        refine ⟨?_, .listMore hDerives hComma hDerivesMore⟩
        rw [hSplit, hRest, hSplitMore]
        simp [Match.append]
      · cases h
        exact ⟨hSplit, .listOne hDerives⟩

theorem read_finds (h : a.read ts = some m) : a.Finds ts m := by
  induction a generalizing ts m with
  | token tokens =>
    cases ts with
    | nil => cases h
    | cons t rest =>
      simp only [read] at h
      split at h
      · cases h
        exact ⟨rfl, .token ‹_›⟩
      · cases h
  | run tokens =>
    cases h
    exact ⟨List.takeWhile_append_dropWhile.symm, .run (List.all_eq_true.mp List.all_takeWhile)⟩
  | seq a b iha ihb =>
    simp only [read, Option.bind_eq_bind, Option.bind_eq_some_iff] at h
    obtain ⟨one, hOne, two, hTwo, hm⟩ := h
    cases hm
    obtain ⟨hSplit, hDerives⟩ := iha hOne
    obtain ⟨hSplit', hDerives'⟩ := ihb hTwo
    refine ⟨?_, .seq hDerives hDerives'⟩
    rw [hSplit, hSplit']
    simp [Match.append]
  | alt a b iha ihb =>
    simp only [read] at h
    cases hLeft : a.read ts with
    | none =>
      rw [hLeft] at h
      exact ⟨(ihb h).split, .altRight (ihb h).derives⟩
    | some left =>
      rw [hLeft] at h
      cases h
      exact ⟨(iha hLeft).split, .altLeft (iha hLeft).derives⟩
  | optional a ih =>
    simp only [read] at h
    split at h
    · exact ⟨(ih h).split, .optionalSome (ih h).derives⟩
    · cases h
      exact ⟨rfl, .optionalNone⟩
  | list a ih => exact readList_finds (fun _ _ => ih) h
  | node a kind ih =>
    simp only [read, Option.bind_eq_bind, Option.bind_eq_some_iff] at h
    obtain ⟨inner, hInner, hm⟩ := h
    cases hm
    exact ⟨(ih hInner).split, .node (ih hInner).derives⟩
  | leaf a kind value ih =>
    simp only [read, Option.bind_eq_bind, Option.bind_eq_some_iff] at h
    obtain ⟨inner, hInner, hm⟩ := h
    cases hm
    exact ⟨(ih hInner).split, .leaf (ih hInner).derives⟩

theorem read_token {tokens : TokenClass} (h : (token tokens).read ts = some m) :
    ∃ t rest, ts = t :: rest ∧ m = ⟨[t], [], rest⟩ := by
  cases ts with
  | nil => cases h
  | cons t rest =>
    simp only [read] at h
    split at h
    · cases h
      exact ⟨t, rest, rfl, rfl⟩
    · cases h

/-! ### Completeness -/

/-- The token may continue a phrase that is complete. -/
def continues : Phrase → Token → Bool
  | token _, _ => false
  | run tokens, t => tokens.has t
  | seq a b, t => b.continues t || b.nullable && a.continues t
  | alt a b, t => a.continues t || b.continues t
  | optional a, t => a.first t || a.continues t
  | list a, t => comma.has t || a.continues t
  | node a _, t | leaf a _ _, t => a.continues t

/-- One token decides wherever there is a choice. -/
def Predictive : Phrase → Prop
  | token _ | run _ => True
  | seq a b => a.Predictive ∧ b.Predictive ∧ ∀ t, a.continues t = true → b.first t = false
  | alt a b => a.Predictive ∧ b.Predictive ∧ a.nullable = false ∧ b.nullable = false ∧
      ∀ t, a.first t = true → b.first t = false
  | optional a => a.Predictive ∧ a.nullable = false
  | list a => a.Predictive ∧ ∀ t, a.continues t = true → comma.has t = false
  | node a _ | leaf a _ _ => a.Predictive

/-- No token at the head of `rest` continues the phrase. -/
def EndsBefore (a : Phrase) (rest : List Token) : Prop :=
  ∀ t ∈ rest.head?, a.continues t = false

theorem Derives.nullable (h : a.Derives [] ns) : a.nullable = true := by
  generalize hts : ([] : List Token) = ts at h
  induction h with
  | token => cases hts
  | run | optionalNone | optionalSome => rfl
  | seq _ _ iha ihb =>
    obtain ⟨h1, h2⟩ := List.append_eq_nil_iff.mp hts.symm
    simp [Phrase.nullable, iha h1.symm, ihb h2.symm]
  | altLeft _ ih | altRight _ ih => simp [Phrase.nullable, ih hts]
  | listMore => simp at hts
  | listOne _ ih | node _ ih | leaf _ ih => exact ih hts

theorem Derives.first {t : Token} (h : a.Derives (t :: ts) ns) : a.first t = true := by
  generalize hts : t :: ts = us at h
  induction h generalizing ts with
  | token ht => cases hts; exact ht
  | run ht => exact ht t (hts ▸ List.mem_cons_self)
  | @seq a b us vs _ _ ha _ iha ihb =>
    cases us with
    | nil => simp [Phrase.first, ha.nullable, ihb hts]
    | cons => cases hts; simp [Phrase.first, iha rfl]
  | altLeft _ ih | altRight _ ih => simp [Phrase.first, ih hts]
  | optionalNone => cases hts
  | @listMore a _ us _ _ _ ha hComma _ iha =>
    cases us with
    | nil => cases hts; simp [Phrase.first, ha.nullable, hComma]
    | cons => cases hts; simp [Phrase.first, iha rfl]
  | listOne _ ih => simp [Phrase.first, ih hts]
  | optionalSome _ ih | node _ ih | leaf _ ih => exact ih hts

/-- Nothing is found where no token may begin the phrase. -/
theorem read_eq_none (hNullable : a.nullable = false) (hFirst : ∀ t ∈ ts.head?, a.first t = false) :
    a.read ts = none := by
  refine Option.eq_none_iff_forall_ne_some.mpr fun m hm => ?_
  obtain ⟨hSplit, hDerives⟩ := read_finds hm
  cases hTaken : m.taken with
  | nil =>
    rw [hTaken] at hDerives
    simp [hDerives.nullable] at hNullable
  | cons t taken =>
    rw [hTaken] at hDerives hSplit
    have hNot := hFirst t (by simp [hSplit])
    simp [hDerives.first] at hNot

theorem readList_nil (a : Phrase) (bound : Nat) : readList a.read bound [] = a.read [] := by
  cases bound with
  | zero => rfl
  | succ bound =>
    rw [readList]
    cases h : a.read [] with
    | none => rfl
    | some m =>
      have hRest : m.rest = [] := (List.append_eq_nil_iff.mp (read_finds h).split.symm).2
      simp [hRest]

/-- More bound than there are tokens changes nothing. -/
theorem readList_eq (a : Phrase) {bound bound' : Nat} (h : ts.length ≤ bound)
    (h' : ts.length ≤ bound') : readList a.read bound ts = readList a.read bound' ts := by
  induction bound generalizing bound' ts with
  | zero =>
    obtain rfl : ts = [] := List.length_eq_zero_iff.mp (Nat.le_zero.mp h)
    rw [readList_nil, readList_nil]
  | succ bound ih =>
    cases bound' with
    | zero =>
      obtain rfl : ts = [] := List.length_eq_zero_iff.mp (Nat.le_zero.mp h')
      rw [readList_nil, readList_nil]
    | succ bound' =>
      rw [readList, readList]
      cases hm : a.read ts with
      | none => rfl
      | some m =>
        simp only [Option.bind_eq_bind, Option.bind_some]
        split
        · rfl
        · rename_i t rest hRest
          have hLength := congrArg List.length (read_finds hm).split
          rw [List.length_append, hRest, List.length_cons] at hLength
          have hTail : readList a.read bound rest = readList a.read bound' rest :=
            ih (by omega) (by omega)
          rw [hTail]

theorem read_list (a : Phrase) (ts : List Token) :
    a.list.read ts = (a.read ts).bind fun m =>
      match m.rest with
      | [] => some m
      | t :: rest =>
        if comma.has t then (a.list.read rest).map fun n => m.append (.append ⟨[t], [], rest⟩ n)
        else some m := by
  rw [read, readList_eq a (Nat.le_refl _) (Nat.le_succ _), readList]
  cases hm : a.read ts with
  | none => rfl
  | some m =>
    simp only [Option.bind_eq_bind, Option.bind_some]
    cases hRest : m.rest with
    | nil => rfl
    | cons t rest =>
      have hLength := congrArg List.length (read_finds hm).split
      rw [List.length_append, hRest, List.length_cons] at hLength
      have hTail : readList a.read ts.length rest = readList a.read rest.length rest :=
        readList_eq a (by omega) (Nat.le_refl _)
      simp only [hTail, read, Option.map_eq_bind]
      rfl

/-- A predictive phrase is found wherever it is, unless it goes on. -/
theorem Derives.read_eq (h : a.Derives ts ns) (hPredictive : a.Predictive)
    (hEnds : a.EndsBefore rest) : a.read (ts ++ rest) = some ⟨ts, ns, rest⟩ := by
  induction h generalizing rest with
  | token ht => simp [read, ht]
  | run ht =>
    obtain ⟨hTake, hDrop⟩ := takeWhile_append_of_ends ht hEnds
    simp [read, hTake, hDrop]
  | @seq a b us vs ms ns ha hb iha ihb =>
    obtain ⟨hPa, hPb, hApart⟩ := hPredictive
    -- What follows the first part is the second part, or the rest if that part is empty.
    have hMiddle : a.EndsBefore (vs ++ rest) := by
      intro t ht
      cases vs with
      | nil =>
        have hSeq := hEnds t ht
        simp only [continues, hb.nullable, Bool.true_and, Bool.or_eq_false_iff] at hSeq
        exact hSeq.2
      | cons v vs =>
        cases ht
        refine Bool.eq_false_iff.mpr fun hc => ?_
        simpa [hb.first] using hApart _ hc
    have hLast : b.EndsBefore rest := fun t ht => (Bool.or_eq_false_iff.mp (hEnds t ht)).1
    simp [read, List.append_assoc, iha hPa hMiddle, ihb hPb hLast, Match.append]
  | altLeft _ ih =>
    have := ih hPredictive.1 fun t ht => (Bool.or_eq_false_iff.mp (hEnds t ht)).1
    simp [read, this]
  | @altRight a b us ns hb ih =>
    obtain ⟨-, hPb, hNullable, hNullable', hApart⟩ := hPredictive
    have hNone : a.read (us ++ rest) = none := by
      refine read_eq_none hNullable fun t ht => ?_
      cases us with
      | nil => simp [hb.nullable] at hNullable'
      | cons u us =>
        cases ht
        refine Bool.eq_false_iff.mpr fun hFirst => ?_
        simpa [hb.first] using hApart _ hFirst
    simp [read, hNone, ih hPb fun t ht => (Bool.or_eq_false_iff.mp (hEnds t ht)).2]
  | @optionalNone a =>
    have hFirst : rest.head?.any a.first = false := by
      cases rest with
      | nil => rfl
      | cons t rest => exact (Bool.or_eq_false_iff.mp (hEnds t rfl)).1
    simp [read, hFirst]
  | @optionalSome a us ns ha ih =>
    have hFirst : (us ++ rest).head?.any a.first = true := by
      cases us with
      | nil => exact absurd ha.nullable (by simp [hPredictive.2])
      | cons u us => exact ha.first
    rw [read, if_pos hFirst, ih hPredictive.1 fun t ht => (Bool.or_eq_false_iff.mp (hEnds t ht)).2]
  | @listOne a us ns _ ih =>
    have := ih hPredictive.1 fun t ht => (Bool.or_eq_false_iff.mp (hEnds t ht)).2
    rw [read_list, this]
    cases rest with
    | nil => rfl
    | cons t rest =>
      have hComma : comma.has t = false := (Bool.or_eq_false_iff.mp (hEnds t rfl)).1
      simp [hComma]
  | @listMore a t us vs ms ns _ hComma _ iha ihb =>
    have hMiddle : a.EndsBefore (t :: (vs ++ rest)) := by
      intro u hu
      cases hu
      refine Bool.eq_false_iff.mpr fun hc => ?_
      simpa [hComma] using hPredictive.2 t hc
    rw [read_list, List.append_assoc, List.cons_append, iha hPredictive.1 hMiddle]
    simp [hComma, ihb hPredictive hEnds, Match.append]
  | node _ ih => simp [read, ih hPredictive hEnds]
  | leaf _ ih => simp [read, ih hPredictive hEnds]

end SqlReader.Phrase
