/-! Text as bytes: how many bytes characters take in UTF-8, the character that starts at a byte
position, and the lines of a byte sequence. -/

namespace SqlReader.Text

/-- The number of bytes that the characters take in UTF-8. -/
def byteSize (cs : List Char) : Nat := cs.foldr (fun c size => c.utf8Size + size) 0

@[simp] theorem byteSize_nil : byteSize [] = 0 := rfl

@[simp] theorem byteSize_cons (c : Char) (cs : List Char) :
    byteSize (c :: cs) = c.utf8Size + byteSize cs := rfl

@[simp] theorem byteSize_append (a b : List Char) :
    byteSize (a ++ b) = byteSize a + byteSize b := by
  induction a with
  | nil => simp
  | cons c a ih =>
    rw [List.cons_append, byteSize_cons, byteSize_cons, ih, Nat.add_assoc]

theorem byteSize_pos {cs : List Char} (h : cs ≠ []) : 0 < byteSize cs := by
  cases cs with
  | nil => exact absurd rfl h
  | cons c cs =>
    have := c.utf8Size_pos
    simp
    omega

theorem utf8ByteSize_ofList (cs : List Char) : (String.ofList cs).utf8ByteSize = byteSize cs := by
  induction cs with
  | nil => rfl
  | cons c cs ih =>
    rw [byteSize_cons, ← ih, ← List.singleton_append, String.ofList_append,
      String.utf8ByteSize_append, ← String.singleton_eq_ofList, String.utf8ByteSize_singleton]

theorem utf8ByteSize_eq (text : String) : text.utf8ByteSize = byteSize text.toList := by
  rw [← utf8ByteSize_ofList, String.ofList_toList]

/-- The character whose first byte is byte `offset` of the text; `none` at the end, past it, and
inside a character. -/
def charAt? (text : String) (offset : Nat) : Option Char := String.Pos.Raw.get? text ⟨offset⟩

@[simp] theorem charAt?_empty (offset : Nat) : charAt? "" offset = none := rfl

theorem utf8GetAux?_append (a b : List Char) (offset : Nat) :
    String.Pos.Raw.utf8GetAux? (a ++ b) ⟨offset⟩ ⟨offset + byteSize a⟩ = b.head? := by
  induction a generalizing offset with
  | nil =>
    cases b with
    | nil => rfl
    | cons c b => exact if_pos rfl
  | cons c a ih =>
    have hPos := c.utf8Size_pos
    have hNext : offset + byteSize (c :: a) = offset + c.utf8Size + byteSize a := by
      rw [byteSize_cons, Nat.add_assoc]
    have hNe : (⟨offset⟩ : String.Pos.Raw) ≠ ⟨offset + byteSize (c :: a)⟩ := by
      rw [hNext, ne_eq, String.Pos.Raw.ext_iff]
      show ¬offset = offset + c.utf8Size + byteSize a
      omega
    refine (if_neg hNe).trans ?_
    rw [hNext]
    exact ih (offset + c.utf8Size)

/-- The character after the first characters `a` of a text. -/
theorem charAt?_byteSize {text : String} {a b : List Char} (h : text.toList = a ++ b) :
    charAt? text (byteSize a) = b.head? := by
  have hGet := utf8GetAux?_append a b 0
  rw [Nat.zero_add, ← h] at hGet
  exact hGet

/-- The text that the bytes encode in UTF-8. -/
def decode? (bytes : List UInt8) : Option String := String.fromUTF8? ⟨bytes.toArray⟩

theorem decode?_eq_some_iff {bytes : ByteArray} {text : String} :
    decode? bytes.data.toList = some text ↔ text.toUTF8 = bytes := by
  have hBytes : (⟨bytes.data.toList.toArray⟩ : ByteArray) = bytes := rfl
  rw [decode?, hBytes, String.fromUTF8?]
  split
  · rw [Option.some_inj]
    constructor
    · rintro rfl
      rfl
    · rintro rfl
      rfl
  · rename_i hInvalid
    refine ⟨nofun, ?_⟩
    rintro rfl
    exact absurd text.isValidUTF8 hInvalid

def lineFeed : UInt8 := 10

def carriageReturn : UInt8 := 13

/-- The line without a carriage return at its end. -/
def dropReturn (line : List UInt8) : List UInt8 :=
  if line.getLast? = some carriageReturn then line.dropLast else line

/-- The lines of a byte sequence.  A line feed ends its line and takes one carriage return before
it along; what follows the last line feed is a line if it is not empty. -/
def lines (bytes : List UInt8) : List (List UInt8) :=
  let pieces := bytes.splitOn lineFeed
  pieces.dropLast.map dropReturn ++ (pieces.getLast?.filter (!·.isEmpty)).toList

end SqlReader.Text
