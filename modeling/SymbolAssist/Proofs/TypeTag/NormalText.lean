import SymbolAssist.Proofs.TypeTag.ReadBack

/-! What the normal text of a written type tells about the type, and when it stays the same. -/

namespace SymbolAssist.TypeTag

open Spelling

/-- No name of the type, at any depth, has a comma or an angle bracket in it. -/
def hasPlainNames (tag : TypeTag) : Bool :=
  (tag :: tag.nested).all fun part =>
    part.name?.all fun name => !name.toList.contains ',' && !name.toList.contains '<' &&
      !name.toList.contains '>'

/-- The names of a container are those of its parameters. -/
theorem hasPlainNames_container {qualifier : Option Qualifier} {cls : ContainerClass}
    {params : List TypeTag} :
    (TypeTag.container qualifier cls params).hasPlainNames = true ↔
      ∀ param ∈ params, param.hasPlainNames = true := by
  simp only [hasPlainNames, List.all_eq_true, List.forall_mem_cons, mem_nested_container]
  constructor
  · rintro ⟨_, all⟩ param member
    exact ⟨all param ⟨param, member, .inl rfl⟩,
      fun part inner => all part ⟨param, member, .inr inner⟩⟩
  · intro each
    -- A container has no name of its own.
    refine ⟨rfl, ?_⟩
    rintro part ⟨param, member, rfl | inner⟩
    · exact (each part member).1
    · exact (each param member).2 part inner

/-- With plain names a type opens only what it closes, and every comma stands in between. -/
theorem isLevel_of_hasPlainNames {tag : TypeTag} (reduced : Reduced tag)
    (plain : tag.hasPlainNames = true) (depth : Nat) : IsLevel depth tag.chars := by
  induction reduced generalizing depth with
  | @named qualifier name _ =>
    have marks : ',' ∉ name.toList ∧ '<' ∉ name.toList ∧ '>' ∉ name.toList := by
      simpa [hasPlainNames, nested, name?, and_assoc] using plain
    exact (isLevel_qualifierChars depth qualifier).append (.of_not_mem marks.1 marks.2.1 marks.2.2)
  | @container qualifier cls params _ _ ih =>
    have each := hasPlainNames_container.mp plain
    -- The parameters are level one bracket deeper, where their commas are enclosed as well.
    have inner : ∀ text ∈ params.map chars, IsLevel (depth + 1) text := by
      intro text member
      obtain ⟨param, listed, rfl⟩ := List.mem_map.mp member
      exact ih param listed (each param listed) (depth + 1)
    have brackets : IsLevel depth (bracketed (params.map chars)) := by
      cases params with
      | nil => exact ⟨rfl, rfl⟩
      | cons first rest => exact .angled (.intercalate ⟨rfl, rfl⟩ inner)
    have core := (isLevel_keyword depth cls).append brackets
    rw [← paramChars_eq_map] at core
    exact (isLevel_qualifierChars depth qualifier).append core

/-- With plain names no comma of a parameter can be taken for one between parameters. -/
theorem enclosesCommas_of_hasPlainNames {tag : TypeTag} (reduced : Reduced tag)
    (plain : tag.hasPlainNames = true) : tag.enclosesCommas = true := by
  -- A parameter with plain names is level, and so are those nested in it.
  induction reduced with
  | named => rfl
  | container each _ ih =>
    have names := hasPlainNames_container.mp plain
    refine enclosesCommas_container.mpr fun param member => ?_
    have level := isLevel_of_hasPlainNames (each param member) (names param member) 0
    exact ⟨level.enclosed, ih param member (names param member)⟩

/-- What is read from the normal text of a type that was read. -/
private theorem parse_text_eq_self_iff {text : String} {tag : TypeTag} (parsed : parse text = some tag) :
    parse tag.text = some tag ↔ tag.enclosesCommas = true := by
  -- What was read is reduced, and for reduced types this is known of the characters.
  rw [parse, TypeTag.text, String.toList_ofList]
  exact parseChars_chars_eq_self_iff (reduced_of_parseChars parsed)

/--
The normal text of a type with plain names is that type in another form.

It is read as the same type, with the same qualifiers, classes, parameters and names at every depth,
and so two such types never share a normal text.
-/
theorem text_determines_type :
    (∀ (text : String) (tag : TypeTag), parse text = some tag → tag.hasPlainNames = true →
      parse tag.text = some tag) ∧
    (∀ (first second : String) (left right : TypeTag), parse first = some left →
      parse second = some right → left.hasPlainNames = true → right.hasPlainNames = true →
        left.text = right.text → left = right) := by
  have readBack : ∀ (text : String) (tag : TypeTag), parse text = some tag →
      tag.hasPlainNames = true → parse tag.text = some tag := by
    intro text tag parsed plain
    rw [parse_text_eq_self_iff parsed]
    exact enclosesCommas_of_hasPlainNames (reduced_of_parseChars parsed) plain
  refine ⟨readBack, ?_⟩
  intro first second left right readLeft readRight plainLeft plainRight same
  -- Both types are what is read from the text they share.
  have fromLeft := readBack first left readLeft plainLeft
  have fromRight := readBack second right readRight plainRight
  rw [same, fromRight] at fromLeft
  exact (Option.some.inj fromLeft).symm

/-- A qualified container of a name with a blank and a bare class is read back from its normal text. -/
theorem text_determines_type_nested :
    parse " series  map< foo bar ,, Array>" = some (.container (some .series) .map
      [.named none "foo bar", .container none .array []]) ∧
    parse "series map<foo bar, array>" = some (.container (some .series) .map
      [.named none "foo bar", .container none .array []]) := by
  -- The text of the type is computed, and that it is read back is a case of the general fact.
  have parsed : parse " series  map< foo bar ,, Array>" = some (.container (some .series) .map
      [.named none "foo bar", .container none .array []]) := by decide +kernel
  have written : (TypeTag.container (some .series) .map
      [.named none "foo bar", .container none .array []]).text = "series map<foo bar, array>" := by
    decide +kernel
  refine ⟨parsed, ?_⟩
  rw [← written]
  exact text_determines_type.1 _ _ parsed (by decide +kernel)

/--
Normalizing again changes nothing where the normal text is read as the type it was written from,
and that is the case exactly for the types that enclose their commas.
-/
theorem normalize_normalize_of_enclosesCommas (text : String) :
    (parse (normalize text) = parse text ↔
      ∀ tag, parse text = some tag → tag.enclosesCommas = true) ∧
    ((∀ tag, parse text = some tag → tag.enclosesCommas = true) →
      normalize (normalize text) = normalize text) := by
  have readBack : parse (normalize text) = parse text ↔
      ∀ tag, parse text = some tag → tag.enclosesCommas = true := by
    cases parsed : parse text with
    | none =>
      -- A blank text has the empty normal text, which is blank again.
      have empty : normalize text = "" := by rw [normalize, parsed]
      rw [empty]
      exact iff_of_true (by decide +kernel) (by simp)
    | some tag =>
      have normal : normalize text = tag.text := by rw [normalize, parsed]
      rw [normal, parse_text_eq_self_iff parsed]
      simp
  refine ⟨readBack, fun enclosed => ?_⟩
  have same := readBack.mpr enclosed
  rw [normalize, same]
  rfl

/-- Commas of a generic name are enclosed by its own brackets. -/
theorem normalize_normalize_generic :
    normalize (normalize "Pair<a,b> []") = normalize "Pair<a,b> []" :=
  -- The only parameter is the name, whose comma stands between its own brackets.
  (normalize_normalize_of_enclosesCommas "Pair<a,b> []").2 (by
    have parsed : parse "Pair<a,b> []" = some (.container none .array [.named none "Pair<a,b>"]) := by
      decide +kernel
    rw [parsed]
    simp only [Option.some.injEq]
    rintro _ rfl
    decide +kernel)

/-- An element with an outer comma is taken for two parameters when its array is read again. -/
theorem normalize_normalize_outer_comma :
    normalize (normalize "a,b[]") ≠ normalize "a,b[]" := by
  -- Both texts are short enough to be read.
  decide +kernel

end SymbolAssist.TypeTag
