import SymbolAssist.Text.Within
import SymbolAssist.TypeTag.Basic

/-! When a method declared for one type may be offered on a receiver of another. -/

namespace SymbolAssist.TypeTag

open Text

/-- Containers agree by their class alone, and other types when the text of one contains the other's. -/
def compatible (receiver declared : TypeTag) : Bool :=
  match receiver.class?, declared.class? with
  | some receiverClass, some declaredClass => receiverClass == declaredClass
  | _, _ => occursIn receiver.chars declared.chars || occursIn declared.chars receiver.chars

end SymbolAssist.TypeTag
