/-! Runs of characters at the end of a text, as counterparts of the core functions on the front. -/

namespace SymbolAssist.Text

/-- The longest ending all of whose members are accepted. -/
def takeEndWhile {α : Type} (accepts : α → Bool) (items : List α) : List α :=
  (items.reverse.takeWhile accepts).reverse

/-- What is left in front of the longest accepted ending. -/
def dropEndWhile {α : Type} (accepts : α → Bool) (items : List α) : List α :=
  (items.reverse.dropWhile accepts).reverse

end SymbolAssist.Text
