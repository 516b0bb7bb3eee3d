import SymbolAssist.Document.LineTable
import SymbolAssist.Proofs.Text.Bytes
import SymbolAssist.Proofs.TypeTag.Entries

/-! The entries of a text are the only way to cut it at its outer commas, and are found by their bytes. -/

namespace SymbolAssist.Spelling

open Text

/-- Texts that a comma between any two of them makes into the given one, where these are its outer commas. -/
structure IsOuterCut (text : List Char) (entries : List (List Char)) : Prop where
  /-- Even the empty text is one entry. -/
  nonempty : entries ≠ []
  /-- No character is lost and none is added but the commas. -/
  joined : [','].intercalate entries = text
  /-- In front of every comma in an entry, the entry has a bracket open. -/
  enclosed : ∀ entry ∈ entries, ∀ before after, entry = before ++ ',' :: after →
    depthAfter 0 before ≠ 0
  /-- No bracket is open at a comma between two entries. -/
  closed : ∀ entry ∈ entries.dropLast, depthAfter 0 entry = 0

/-- Every text can be cut so. -/
theorem isOuterCut_splitEntries (text : List Char) : IsOuterCut text (splitEntries 0 text) where
  -- These are the facts about the cut that the scan makes.
  nonempty := splitEntries_ne_nil 0 text
  joined := intercalate_splitEntries 0 text
  enclosed _ member := commasEnclosed_iff.mp (commasEnclosed_of_mem member)
  closed _ member := depthAfter_of_mem_dropLast member

/-- No text can be cut so in another way. -/
theorem IsOuterCut.eq_splitEntries {text : List Char} {entries : List (List Char)}
    (parts : IsOuterCut text entries) : entries = splitEntries 0 text := by
  -- The joined entries are cut where they were joined, and none of them is cut any further.
  have whole : ∀ entry ∈ entries, splitEntries 0 entry = [entry] := fun entry member =>
    splitEntries_of_commasEnclosed (commasEnclosed_iff.mpr (parts.enclosed entry member))
  rw [← parts.joined, splitEntries_intercalate parts.nonempty parts.closed, List.flatMap_def,
    List.map_congr_left whole, ← List.flatMap_def, List.flatMap_singleton']

/-- Where the entries lie, found in one pass that knows the depth, where its entry starts and where it is. -/
def entryRanges (depth start offset : Nat) : List Char → List ByteRange
  | [] => [⟨start, offset⟩]
  | char :: rest =>
    let next := offset + char.utf8Size
    -- The next entry starts one byte on, behind the comma.
    if char = ',' ∧ depth = 0 then ⟨start, offset⟩ :: entryRanges depth (offset + 1) next rest
    else entryRanges (nextDepth depth char) start next rest

/-- An entry of which nothing has been read yet is found as it stands. -/
private theorem modifyHead_nothing (entries : List (List Char)) :
    entries.modifyHead ([] ++ ·) = entries := by
  -- Putting nothing in front changes no entry.
  cases entries <;> rfl

/--
From the middle of an entry on, the pass finds what the text is cut into.

What it has read of that entry becomes the beginning of the first one it finds.
-/
theorem slice?_entryRanges (before opened rest : List Char) (depth : Nat) :
    (entryRanges depth (byteLength before) (byteLength (before ++ opened)) rest).map
        (fun range => slice? (before ++ opened ++ rest) range.start range.stop) =
      ((splitEntries depth rest).modifyHead (opened ++ ·)).map some := by
  -- The open entry grows along the text, so it stays quantified over.
  induction rest generalizing before opened depth with
  | nil =>
    -- At the end of the text, the open entry is the last one.
    have last := slice?_middle before opened []
    simpa [entryRanges, splitEntries] using last
  | cons char rest ih =>
    rw [entryRanges, splitEntries]
    split
    · -- The open entry ends here, and an empty one is opened behind the comma.
      rename_i outer
      obtain ⟨rfl, -⟩ := outer
      have here := slice?_middle before opened (',' :: rest)
      have later := ih (before ++ opened ++ [',']) [] depth
      -- A comma takes one byte, so the pass goes on where the next entry starts.
      have step : byteLength (before ++ opened ++ [',']) = byteLength (before ++ opened) + 1 := by
        rw [byteLength_append]
        rfl
      rw [List.append_nil, step, List.append_assoc, List.singleton_append, modifyHead_nothing]
        at later
      rw [← byteLength_append] at here
      rw [List.map_cons, here, List.modifyHead_cons, List.append_nil, List.map_cons, ← later]
      rfl
    · -- The character is read as part of the open entry.
      have later := ih before (opened ++ [char]) (nextDepth depth char)
      have step : byteLength (before ++ (opened ++ [char])) =
          byteLength (before ++ opened) + char.utf8Size := by
        rw [← List.append_assoc, byteLength_append]
        rfl
      rw [step, ← List.append_assoc, List.append_assoc, List.singleton_append] at later
      rw [later, List.modifyHead_modifyHead]
      congr 2
      funext entry
      simp

/--
A text is cut at its outer commas in exactly one way.

The entries are the only texts that are joined to it by commas, have no comma outside of their own brackets
and, but for the last, close all they open.
Each of them is what lies between two byte offsets of the text that are found in one pass, so that no cut
is made inside a character.
-/
theorem outer_cut_unique (text : List Char) :
    (∀ entries, IsOuterCut text entries ↔ entries = splitEntries 0 text) ∧
      (entryRanges 0 0 0 text).map (fun range => slice? text range.start range.stop) =
        (splitEntries 0 text).map some := by
  constructor
  · intro entries
    refine ⟨IsOuterCut.eq_splitEntries, ?_⟩
    rintro rfl
    exact isOuterCut_splitEntries text
  · -- Before the pass nothing has been read, neither of the text nor of an entry.
    have found := slice?_entryRanges [] [] text 0
    rwa [modifyHead_nothing] at found

end SymbolAssist.Spelling
