import SqlReader.Text.Bytes

/-! The lines of a byte sequence, told by what ends them. -/

namespace SqlReader.Text

/-- The bytes are the lines.  A line ends before a line feed, or before a carriage return and a line
feed, or where the bytes end; after a line feed at the end of the bytes no line begins. -/
inductive Lined : List UInt8 → List (List UInt8) → Prop
  | nothing : Lined [] []
  | last {line : List UInt8} (hLine : lineFeed ∉ line) (hSome : line ≠ []) : Lined line [line]
  | feed {line rest : List UInt8} {later : List (List UInt8)} (hLine : lineFeed ∉ line)
      (hReturn : line.getLast? ≠ some carriageReturn) (h : Lined rest later) :
      Lined (line ++ lineFeed :: rest) (line :: later)
  | returnFeed {line rest : List UInt8} {later : List (List UInt8)} (hLine : lineFeed ∉ line)
      (h : Lined rest later) : Lined (line ++ carriageReturn :: lineFeed :: rest) (line :: later)

variable {line rest bytes : List UInt8} {found : List (List UInt8)}

/-! ### Splitting -/

theorem lines_last (hLine : lineFeed ∉ line) (hSome : line ≠ []) : lines line = [line] := by
  simp [lines, List.splitOn_eq_singleton hLine, hSome]

/-- A line feed ends the first line, and the lines after it are those of the rest. -/
theorem lines_feed (hLine : lineFeed ∉ line) :
    lines (line ++ lineFeed :: rest) = dropReturn line :: lines rest := by
  obtain ⟨piece, pieces, hPieces⟩ := List.exists_cons_of_ne_nil (List.splitOn_ne_nil lineFeed rest)
  simp [lines, List.splitOn_append_cons_self_of_not_mem hLine, hPieces]

theorem dropReturn_of_ne (h : line.getLast? ≠ some carriageReturn) : dropReturn line = line :=
  if_neg h

theorem dropReturn_append (line : List UInt8) : dropReturn (line ++ [carriageReturn]) = line := by
  simp [dropReturn]

/-! ### The lines -/

theorem Lined.eq_lines (h : Lined bytes found) : found = lines bytes := by
  induction h with
  | nothing => rfl
  | last hLine hSome => exact (lines_last hLine hSome).symm
  | feed hLine hReturn h ih => rw [lines_feed hLine, dropReturn_of_ne hReturn, ih]
  | @returnFeed line rest later hLine h ih =>
    have hEnd : lineFeed ∉ line ++ [carriageReturn] := by
      rw [List.mem_append, List.mem_singleton]
      exact not_or.mpr ⟨hLine, by decide⟩
    rw [List.append_cons, lines_feed hEnd, dropReturn_append, ih]

theorem lined_lines (bytes : List UInt8) : Lined bytes (lines bytes) := by
  -- By induction on the number of bytes, of which every line feed takes one.
  induction hLength : bytes.length using Nat.strongRecOn generalizing bytes with
  | _ length ih =>
    by_cases hFeed : lineFeed ∈ bytes
    · obtain ⟨line, rest, rfl, hLine⟩ := List.eq_append_cons_of_mem hFeed
      have hRest : Lined rest (lines rest) := ih rest.length (by simp at hLength; omega) rest rfl
      rw [lines_feed hLine]
      by_cases hReturn : line.getLast? = some carriageReturn
      · obtain ⟨line, rfl⟩ := List.getLast?_eq_some_iff.mp hReturn
        rw [dropReturn_append, List.append_assoc]
        exact .returnFeed (fun hMem => hLine (List.mem_append_left _ hMem)) hRest
      · rw [dropReturn_of_ne hReturn]
        exact .feed hLine hReturn hRest
    · cases bytes with
      | nil => exact .nothing
      | cons byte bytes =>
        rw [lines_last hFeed (List.cons_ne_nil _ _)]
        exact .last hFeed (List.cons_ne_nil _ _)

/-- The bytes are their lines, and no others. -/
theorem lined_iff : Lined bytes found ↔ found = lines bytes := by
  constructor
  · exact Lined.eq_lines
  · rintro rfl
    exact lined_lines bytes

end SqlReader.Text
