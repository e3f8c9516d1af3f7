/-! Letters of either case.

Only the letters A to Z have a lower case here; every other character is left as it
is. -/
namespace Portcullis.Text

/-- A text with the letters A to Z in lower case. -/
def lowered (s : String) : String := String.ofList (s.toList.map Char.toLower)

end Portcullis.Text
