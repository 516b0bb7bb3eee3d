/-! Texts that stand somewhere inside other texts. -/

namespace SymbolAssist.Text

/-- The part stands somewhere in the text, without a gap. -/
def occursIn (part : List Char) : List Char → Bool
  | [] => part.isEmpty
  | char :: rest => part.isPrefixOf (char :: rest) || occursIn part rest

/-- A part is found exactly when the text is that part with something on either side. -/
theorem occursIn_iff {part text : List Char} : occursIn part text = true ↔ part <:+: text := by
  induction text with
  | nil => simp [occursIn]
  | cons char rest ih =>
    -- The part starts at the first character, or it lies wholly behind it.
    rw [occursIn, Bool.or_eq_true, ih, List.isPrefixOf_iff_prefix, List.infix_cons_iff]

end SymbolAssist.Text
