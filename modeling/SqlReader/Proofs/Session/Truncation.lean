import SqlReader.Proofs.Session.Acts

/-! A session whose output has an end.  It does what it does without an end up to the first write
that does not fit, of which the part that fits is written, and there it stops. -/

namespace SqlReader

namespace Console

/-- The console that has no room for the bytes and has taken those that fit into it. -/
def fill (console : Console) (output : ByteArray) (room : Nat) : Console :=
  ⟨console.output ++ output.extract 0 room, some 0, console.events⟩

end Console

namespace Session

variable {α : Type} {x : Session α} {act : Act} {acts : List Act} {result : Except Failure α}
  {console : Console} {output : ByteArray} {room : Nat}

/-! ### Bytes before a cut -/

theorem extract_append_of_le {a b : ByteArray} (h : a.size ≤ room) :
    (a ++ b).extract 0 room = a ++ b.extract 0 (room - a.size) := by
  have hWhole : a.extract 0 room = a := by
    rw [ByteArray.extract_eq_extract_append_extract a.size (Nat.zero_le _) h,
      ByteArray.extract_zero_size,
      ByteArray.extract_eq_empty_iff.mpr (Nat.min_le_right room a.size), ByteArray.append_empty]
  rw [ByteArray.extract_append, Nat.zero_sub, hWhole]

theorem extract_append_of_lt {a b : ByteArray} (h : room < a.size) :
    (a ++ b).extract 0 room = a.extract 0 room := by
  rw [ByteArray.extract_append, Nat.sub_eq_zero_of_le (Nat.le_of_lt h), Nat.zero_sub,
    ByteArray.extract_same, ByteArray.append_empty]

/-! ### One act -/

/-- Only a write can fail. -/
theorem run_act_full (hRoom : console.room = some room) (h : room < act.written.size) :
    (∃ text, act = .write text) ∧
      act.perform.run console = (.error .outputFull, console.fill act.written room) := by
  cases act with
  | write text =>
    refine ⟨⟨text, rfl⟩, ?_⟩
    have hNot : ¬text.toUTF8.size ≤ room := Nat.not_le_of_lt h
    show write text console = _
    simp only [write, hRoom, if_neg hNot]
    rfl
  | note events => exact absurd h (Nat.not_lt_zero room)
  | parse tokens => exact absurd h (Nat.not_lt_zero room)

/-! ### All acts -/

/-- The acts up to the first write that does not fit are performed, and of that one the bytes that
fit. -/
theorem run_performAll_full (hRoom : console.room = some room) (h : room < (written acts).size) :
    ∃ before text after, acts = before ++ .write text :: after ∧
      (written before).size ≤ room ∧ room < (written before).size + text.utf8ByteSize ∧
      (performAll acts).run console =
        (.error .outputFull, ⟨console.output ++ (written acts).extract 0 room, some 0,
          console.events ++ (noted before).toArray⟩) := by
  -- The room that is left falls with each act that fits, so it is general in the induction.
  induction acts generalizing console room with
  | nil => exact absurd h (Nat.not_lt_zero room)
  | cons act acts ih =>
    by_cases hFits : act.written.size ≤ room
    · have hAct : Fits act.written console := by
        intro left hLeft
        rw [hRoom] at hLeft
        cases hLeft
        exact hFits
      have hLeft : (console.accept act.written act.noted).room =
          some (room - act.written.size) := by
        rw [Console.accept, hRoom, Option.map_some]
      have hLess : room - act.written.size < (written acts).size := by
        rw [written, ByteArray.size_append] at h
        omega
      obtain ⟨before, text, after, rfl, hLow, hHigh, hRun⟩ := ih hLeft hLess
      refine ⟨act :: before, text, after, rfl, ?_, ?_, ?_⟩
      · rw [written, ByteArray.size_append]
        omega
      · rw [written, ByteArray.size_append]
        omega
      · rw [performAll, run_bind_ok (run_act hAct), hRun, written, extract_append_of_le hFits]
        simp [Console.accept, noted, ByteArray.append_assoc]
    · have hLess : room < act.written.size := Nat.lt_of_not_le hFits
      obtain ⟨⟨text, rfl⟩, hRun⟩ := run_act_full hRoom hLess
      refine ⟨[], text, acts, rfl, Nat.zero_le _, ?_, ?_⟩
      · rw [written, ByteArray.size_empty, Nat.zero_add]
        exact hLess
      · rw [performAll, run_bind, hRun, written, extract_append_of_lt hLess]
        simp [Console.fill, noted]

/-! ### Writes in pieces -/

/-- A text written in two pieces fills the output up at the same byte. -/
theorem write_append (a b : String) : write (a ++ b) = (do
    write a
    write b) := by
  have hActs : (do
      write a
      write b) = performAll [.write a, .write b] := by
    simp [performAll, Act.perform]
  have hBytes : (Act.write (a ++ b)).written = written [.write a, .write b] := by
    simp [written, Act.written]
  rw [hActs]
  funext console
  show (Act.write (a ++ b)).perform.run console = (performAll [.write a, .write b]).run console
  by_cases hFits : Fits (written [.write a, .write b]) console
  · rw [run_performAll hFits, run_act (hBytes ▸ hFits), hBytes]
    rfl
  · obtain ⟨room, hRoom, hLess⟩ : ∃ room, console.room = some room ∧
        room < (written [.write a, .write b]).size := by
      simpa [Fits] using hFits
    obtain ⟨before, text, after, hSplit, -, -, hRun⟩ := run_performAll_full hRoom hLess
    have hNoted : noted before ++ noted (.write text :: after) = [] := by
      rw [← noted_append, ← hSplit]
      rfl
    rw [hRun, (run_act_full hRoom (hBytes ▸ hLess)).2, hBytes, (List.append_eq_nil_iff.mp hNoted).1]
    simp [Console.fill]

/-- A text may be written in any pieces. -/
theorem write_join (pieces : List String) : write (String.join pieces) = pieces.forM write := by
  induction pieces with
  | nil =>
    funext console
    show (Act.write "").perform.run console = (Except.ok (), console)
    rw [run_act fun _ _ => Nat.zero_le _]
    exact congrArg _ console.accept_nothing
  | cons piece pieces ih =>
    rw [String.join_cons, write_append, ih]
    rfl

/-! ### Sessions -/

/-- How a session with these acts and this result goes with outputs of every size. -/
structure StopsWhenFull (x : Session α) (acts : List Act) (result : Except Failure α) : Prop where
  endless : x.run (.empty none) = (result, ⟨written acts, none, (noted acts).toArray⟩)
  /-- Where there is room for all that is written, nothing else changes. -/
  fits : ∀ room, (written acts).size ≤ room →
    x.run (.empty (some room)) =
      (result, ⟨written acts, some (room - (written acts).size), (noted acts).toArray⟩)
  /-- Where there is not, the output is filled up by the write that passes its end, and no later
  act is performed. -/
  full : ∀ room, room < (written acts).size →
    ∃ before text after, acts = before ++ .write text :: after ∧
      (written before).size ≤ room ∧ room < (written before).size + text.utf8ByteSize ∧
      noted before <+: noted acts ∧
      x.run (.empty (some room)) =
        (.error .outputFull, ⟨(written acts).extract 0 room, some 0, (noted before).toArray⟩)

theorem Performs.stopsWhenFull (h : x.Performs acts result) : x.StopsWhenFull acts result := by
  have hWhole (room : Option Nat) (hFits : Fits (written acts) (.empty room)) :
      x.run (.empty room) =
        (result, ⟨written acts, room.map (· - (written acts).size), (noted acts).toArray⟩) := by
    rw [h, run_bind_ok (run_performAll hFits)]
    simp [Console.accept, Console.empty]
    rfl
  refine ⟨hWhole none fun room hNone => ?_, fun room hRoom => hWhole (some room) ?_,
    fun room hRoom => ?_⟩
  · exact absurd hNone (Option.not_mem_none room)
  · rintro _ ⟨⟩
    exact hRoom
  · have hEnd : (Console.empty (some room)).room = some room := rfl
    obtain ⟨before, text, after, rfl, hLow, hHigh, hRun⟩ := run_performAll_full hEnd hRoom
    refine ⟨before, text, after, rfl, hLow, hHigh, ?_, ?_⟩
    · rw [noted_append]
      exact List.prefix_append _ _
    · rw [h, run_bind, hRun]
      simp [Console.empty]

/-- Reports and dialogues are acts in a fixed order, and an output that is full cuts them short and
changes nothing else: with room for all bytes the result and the events are those without an end;
with less room the bytes are cut at that length, the session ends with that failure whatever it
would have ended with, and the events are those before the write that did not fit, so that no text
is read and no statement is parsed after it.  In which pieces a text is written does not matter. -/
theorem sessions_stop_when_full (settings : Settings) :
    (∀ text, ∃ acts, (report settings text).Performs acts (.ok ()) ∧
      (report settings text).StopsWhenFull acts (.ok ())) ∧
    (∀ input, ∃ acts result, (dialogue settings input).Performs acts result ∧
      (dialogue settings input).StopsWhenFull acts result) ∧
    ∀ pieces : List String, write (String.join pieces) = pieces.forM write := by
  refine ⟨fun text => ?_, fun input => ?_, write_join⟩
  · obtain ⟨acts, hActs⟩ := report_performs settings text
    exact ⟨acts, hActs, hActs.stopsWhenFull⟩
  · obtain ⟨acts, result, hActs, -⟩ := dialogue_straight settings input
    exact ⟨acts, result, hActs, hActs.stopsWhenFull⟩

end Session

end SqlReader
