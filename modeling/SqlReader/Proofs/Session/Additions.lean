import SqlReader.Proofs.Session.Acts

/-! What a session adds to a console whose output has no end.  It writes and notes the same
whatever the console holds already; so a report adds what it gives on an empty console. -/

namespace SqlReader

namespace Console

/-- The console with more bytes written and more events. -/
def add (console : Console) (output : ByteArray) (events : Array Event) : Console :=
  { console with output := console.output ++ output, events := console.events ++ events }

variable (console : Console) (output output' : ByteArray) (events events' : Array Event)

theorem add_nothing : console.add .empty #[] = console := by
  rw [add, ByteArray.append_empty, Array.append_empty]

theorem add_add : (console.add output events).add output' events' =
    console.add (output ++ output') (events ++ events') := by
  rw [add, add, add, ByteArray.append_assoc, Array.append_assoc]

theorem empty_add : (empty none).add output events = ⟨output, none, events⟩ := by
  simp [add, empty]

end Console

namespace Session

variable {α β : Type} {x : Session α} {f : α → Session β} {a : α} {b : β}
  {output output' : ByteArray} {events events' : Array Event}

/-- On every console without an end the session comes to the value, and has added the bytes and the
events. -/
def Adds (x : Session α) (a : α) (output : ByteArray) (events : Array Event) : Prop :=
  ∀ console : Console, console.room = none →
    x.run console = (.ok a, console.add output events)

/-! ### Steps -/

theorem adds_pure (a : α) : (pure a : Session α).Adds a .empty #[] := fun console _ => by
  rw [console.add_nothing]
  rfl

theorem adds_write (text : String) : (write text).Adds () text.toUTF8 #[] := by
  intro console hRoom
  rw [Console.add, Array.append_empty]
  show write text console = _
  rw [write, hRoom]

theorem adds_writeLine (text : String) : (writeLine text).Adds () (text ++ "\n").toUTF8 #[] :=
  adds_write _

theorem Adds.bind (hx : x.Adds a output events) (hf : (f a).Adds b output' events') :
    (x >>= f).Adds b (output ++ output') (events ++ events') := by
  intro console hRoom
  rw [run_bind_ok (hx console hRoom), hf (console.add output events) hRoom,
    Console.add_add]

/-! ### Sessions that do not fail -/

/-- The session comes to a value, and adds the same to every console without an end. -/
def Ends (x : Session α) : Prop := ∃ a output events, x.Adds a output events

theorem Performs.adds {acts : List Act} (h : x.Performs acts (.ok a)) :
    x.Adds a (written acts) (noted acts).toArray := by
  intro console hRoom
  have hFits : Fits (written acts) console := by
    rintro room hSome
    rw [hRoom] at hSome
    cases hSome
  rw [h, run_bind_ok (run_performAll hFits)]
  show (Except.ok a, console.accept _ _) = _
  rw [Console.accept, Console.add, hRoom]
  rfl

theorem Performs.ends {acts : List Act} (h : x.Performs acts (.ok a)) : x.Ends :=
  ⟨a, _, _, h.adds⟩

theorem report_ends (settings : Settings) (text : String) : (report settings text).Ends := by
  obtain ⟨acts, hActs⟩ := report_performs settings text
  exact hActs.ends

/-- What a session leaves on an empty console without an end. -/
def alone (x : Session α) : Console := (x.run (.empty none)).2

/-- A session that does not fail adds to any console what it leaves on an empty one. -/
theorem Ends.adds_alone {x : Session Unit} (h : x.Ends) :
    x.Adds () x.alone.output x.alone.events := by
  obtain ⟨⟨⟩, output, events, hAdds⟩ := h
  have hAlone : x.alone = ⟨output, none, events⟩ := by
    rw [alone, hAdds _ rfl, Console.empty_add]
  rw [hAlone]
  exact hAdds

end Session

end SqlReader
