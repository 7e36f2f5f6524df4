import SqlReader.Text.Ranges

/-! White space: the characters with the Unicode property White_Space. -/

namespace SqlReader.Text

/-- The code points with the property White_Space. -/
def whiteSpace : Ranges :=
  [(0x0009, 0x000D), (0x0020, 0x0020), (0x0085, 0x0085), (0x00A0, 0x00A0), (0x1680, 0x1680),
   (0x2000, 0x200A), (0x2028, 0x2029), (0x202F, 0x202F), (0x205F, 0x205F), (0x3000, 0x3000)]

def isWhiteSpace (c : Char) : Bool := whiteSpace.contains c.toNat

/-- The text consists of white space only. -/
def isBlank (text : String) : Bool := text.toList.all isWhiteSpace

/-- The text without the white space at its two ends. -/
def trim (text : String) : String :=
  String.ofList ((text.toList.dropWhile isWhiteSpace).reverse.dropWhile isWhiteSpace).reverse

end SqlReader.Text
