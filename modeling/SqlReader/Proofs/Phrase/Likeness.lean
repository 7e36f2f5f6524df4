import Mathlib.Data.List.Forall2
import SqlReader.Proofs.Phrase.Predictive

/-! Two readings of a phrase, from token lists that are alike.  Where like lists have tokens of the
same classes, in the same order, both readings find the phrase or both do not, and they take the
same number of tokens; and where like tokens give like leaves, the trees are alike. -/

namespace SqlReader

open Phrase

/-- A likeness of token lists and of the trees that they are read as.  Which trees are alike may
depend on the kind of the node above them. -/
structure Likeness where
  tokens : List Token → List Token → Prop
  tree : (above : NodeKind) → Tree → Tree → Prop
  has : ∀ {ts us}, tokens ts us →
    List.Forall₂ (fun t u => ∀ c : TokenClass, c.has t = c.has u) ts us
  take : ∀ {ts us}, tokens ts us → ∀ n, tokens (ts.take n) (us.take n)
  drop : ∀ {ts us}, tokens ts us → ∀ n, tokens (ts.drop n) (us.drop n)
  node : ∀ {kind ms ns}, List.Forall₂ (tree kind) ms ns →
    ∀ above, tree above ⟨kind, "", ms⟩ ⟨kind, "", ns⟩

/-- Like tokens give like leaves, wherever the phrase has a leaf. -/
def Phrase.Respects (L : Likeness) : (above : NodeKind) → Phrase → Prop
  | _, .token _ | _, .run _ => True
  | above, .seq a b | above, .alt a b => a.Respects L above ∧ b.Respects L above
  | above, .optional a | above, .list a => a.Respects L above
  | _, .node a kind => a.Respects L kind
  | above, .leaf a kind value => a.Respects L above ∧
      ∀ ts us, L.tokens ts us → L.tree above (.leaf kind (value ts)) (.leaf kind (value us))

namespace Likeness

theorem forall₂_of_map {α : Type} {R : Token → Token → Prop} {f : Token → α} {ts us : List Token}
    (hOne : ∀ t u, f t = f u → R t u) (h : ts.map f = us.map f) : List.Forall₂ R ts us := by
  have hSame : List.Forall₂ (fun t u => f t = f u) ts us := by
    rw [← List.forall₂_map_right_iff, ← List.forall₂_map_left_iff, h, List.forall₂_eq_eq_eq]
  exact hSame.imp hOne

/-- As many tokens are taken, and the nodes are alike.  Lists put together of like lists need not be
alike, so it is the whole lists that are known to be; their parts are taken from them by number. -/
structure Alike (L : Likeness) (above : NodeKind) (m n : Match) : Prop where
  length : m.taken.length = n.taken.length
  nodes : List.Forall₂ (L.tree above) m.nodes n.nodes

variable {L : Likeness} {above : NodeKind} {a : Phrase} {ts us : List Token} {m n m' n' : Match}

theorem Alike.append (h : L.Alike above m n) (h' : L.Alike above m' n') :
    L.Alike above (m.append m') (n.append n') := by
  refine ⟨?_, List.rel_append h.nodes h'.nodes⟩
  rw [Match.append, Match.append, List.length_append, List.length_append, h.length, h'.length]

theorem read_parts (h : a.read ts = some m) :
    m.taken = ts.take m.taken.length ∧ m.rest = ts.drop m.taken.length := by
  rw [(read_finds h).split]
  simp

theorem rest_alike (h : L.tokens ts us) (hm : a.read ts = some m) (hn : a.read us = some n)
    (hAlike : L.Alike above m n) : L.tokens m.rest n.rest := by
  rw [(read_parts hm).2, (read_parts hn).2, hAlike.length]
  exact L.drop h _

theorem taken_alike (h : L.tokens ts us) (hm : a.read ts = some m) (hn : a.read us = some n)
    (hAlike : L.Alike above m n) : L.tokens m.taken n.taken := by
  rw [(read_parts hm).1, (read_parts hn).1, hAlike.length]
  exact L.take h _

theorem dropLast_alike (h : L.tokens ts us) : L.tokens ts.dropLast us.dropLast := by
  rw [List.dropLast_eq_take, List.dropLast_eq_take, (L.has h).length_eq]
  exact L.take h _

theorem first_eq {t u : Token} (h : ∀ c : TokenClass, c.has t = c.has u) (a : Phrase) :
    a.first t = a.first u := by
  induction a with
  | token c | run c => exact h c
  | seq a b iha ihb | alt a b iha ihb => simp [first, iha, ihb]
  | list a ih => simp [first, ih, h]
  | optional a ih | node a kind ih | leaf a kind value ih => exact ih

theorem takeWhile_length
    (h : List.Forall₂ (fun t u => ∀ c : TokenClass, c.has t = c.has u) ts us) (c : TokenClass) :
    (ts.takeWhile c.has).length = (us.takeWhile c.has).length := by
  induction h with
  | nil => rfl
  | @cons t u ts us hHas _ ih => cases hc : c.has u <;> simp [hHas, hc, ih]

theorem rel_bind {R S : Match → Match → Prop} {x y : Option Match} {f g : Match → Option Match}
    (h : Option.Rel R x y)
    (hNext : ∀ m n, x = some m → y = some n → R m n → Option.Rel S (f m) (g n)) :
    Option.Rel S (x.bind f) (y.bind g) := by
  cases h with
  | none => exact .none
  | some h => exact hNext _ _ rfl rfl h

theorem read_list_alike
    (hItem : ∀ ts us, L.tokens ts us → Option.Rel (L.Alike above) (a.read ts) (a.read us))
    (h : L.tokens ts us) : Option.Rel (L.Alike above) (a.list.read ts) (a.list.read us) := by
  -- By induction on the number of tokens, of which every comma takes one.
  induction hLength : ts.length using Nat.strongRecOn generalizing ts us with
  | _ length ih =>
    rw [read_list, read_list]
    refine rel_bind (hItem ts us h) fun m n hm hn hAlike => ?_
    have hRest := rest_alike h hm hn hAlike
    have hShorter := congrArg List.length (read_finds hm).split
    rw [List.length_append] at hShorter
    generalize m.rest = rest at *
    generalize n.rest = rest' at *
    cases L.has hRest with
    | nil => exact .some hAlike
    | @cons t u ts' us' hHas =>
      dsimp only
      rw [hHas comma]
      split
      · have hTail := ih ts'.length (by simp at hShorter; omega) (L.drop hRest 1) rfl
        rw [Option.map_eq_bind, Option.map_eq_bind]
        refine rel_bind hTail fun m' n' _ _ hMore => .some ?_
        exact hAlike.append (Alike.append ⟨rfl, .nil⟩ hMore)
      · exact .some hAlike

/-- Like tokens are read alike. -/
theorem read_alike (hPhrase : a.Respects L above) (h : L.tokens ts us) :
    Option.Rel (L.Alike above) (a.read ts) (a.read us) := by
  induction a generalizing above ts us with
  | token c =>
    cases L.has h with
    | nil => exact .none
    | cons hHas =>
      rw [Phrase.read, Phrase.read, hHas]
      split
      · exact .some ⟨rfl, .nil⟩
      · exact .none
  | run c => exact .some ⟨takeWhile_length (L.has h) c, .nil⟩
  | seq a b iha ihb =>
    refine rel_bind (iha hPhrase.1 h) fun m n hm hn hAlike => ?_
    refine rel_bind (ihb hPhrase.2 (rest_alike h hm hn hAlike)) fun m' n' _ _ hMore => ?_
    exact .some (hAlike.append hMore)
  | alt a b iha ihb =>
    have hLeft := iha hPhrase.1 h
    rw [Phrase.read, Phrase.read]
    generalize a.read ts = x at *
    generalize a.read us = y at *
    cases hLeft with
    | none => exact ihb hPhrase.2 h
    | some hAlike => exact .some hAlike
  | optional a ih =>
    have hHead : ts.head?.any a.first = us.head?.any a.first := by
      cases L.has h with
      | nil => rfl
      | cons hHas => exact first_eq hHas a
    rw [Phrase.read, Phrase.read, hHead]
    split
    · exact ih hPhrase h
    · exact .some ⟨rfl, .nil⟩
  | list a ih => exact read_list_alike (fun _ _ => ih hPhrase) h
  | node a kind ih =>
    refine rel_bind (ih hPhrase h) fun m n _ _ hAlike => .some ⟨hAlike.length, ?_⟩
    exact .cons (L.node hAlike.nodes above) .nil
  | leaf a kind value ih =>
    refine rel_bind (ih hPhrase.1 h) fun m n hm hn hAlike => .some ⟨hAlike.length, ?_⟩
    exact .cons (hPhrase.2 _ _ (taken_alike h hm hn hAlike)) .nil

end Likeness

end SqlReader
