import Portcullis.Text.CharClass
/-! Blank characters and the operations that cut text at them.

Blank means the property White_Space. A byte-order mark and the zero-width
characters are not blank: text that starts with one starts with a visible
character as far as every reader of this library is concerned. -/
namespace Portcullis.Text

/-- The characters with the property White_Space. -/
def blankRanges : CharRanges :=
  [(0x9, 0xd), (0x20, 0x20), (0x85, 0x85), (0xa0, 0xa0), (0x1680, 0x1680), (0x2000, 0x200a),
    (0x2028, 0x2029), (0x202f, 0x202f), (0x205f, 0x205f), (0x3000, 0x3000)]

def isBlank (c : Char) : Bool := blankRanges.has c.toNat

/-- Text without the blanks it starts with. -/
def trimStart (text : List Char) : List Char := text.dropWhile isBlank

/-- Text without the blanks it ends with. -/
def trimEnd : List Char → List Char
  | [] => []
  | c :: rest =>
    match trimEnd rest with
    | [] => if isBlank c then [] else [c]
    | kept => c :: kept

def trim (text : List Char) : List Char := trimEnd (trimStart text)

/-- Nothing but blanks. -/
def allBlank (text : List Char) : Bool := text.all isBlank

/-- Among the first 128 characters the blanks are five controls and the space. -/
theorem isBlank_of_lt {c : Char} (h : c.toNat < 0x80) :
    isBlank c = (0x9 ≤ c.toNat && c.toNat ≤ 0xd || c.toNat = 0x20) := by
  simp only [isBlank, blankRanges, CharRanges.has, List.any_cons, List.any_nil]
  grind

theorem trimStart_length_le (text : List Char) : (trimStart text).length ≤ text.length :=
  (List.dropWhile_sublist _).length_le

end Portcullis.Text
