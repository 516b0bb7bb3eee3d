/-! Comparison of texts that takes no notice of the case of ASCII letters. -/

namespace SymbolAssist.Text

/-- Two texts agree when only the case of ASCII letters tells them apart. -/
def sameIgnoringCase (left right : List Char) : Bool :=
  left.map Char.toLower == right.map Char.toLower

end SymbolAssist.Text
