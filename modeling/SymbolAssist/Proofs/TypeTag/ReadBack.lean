import SymbolAssist.Proofs.TypeTag.Commas

/-! When the normal text of a type is read as that type again. -/

namespace SymbolAssist.TypeTag

open Text Spelling

mutual

/-- The parameters of a type at any depth. -/
def nested : TypeTag → List TypeTag
  | .named .. => []
  | .container _ _ params => nestedIn params

/-- The types of a list and their parameters at any depth. -/
def nestedIn : List TypeTag → List TypeTag
  | [] => []
  | param :: rest => param :: (nested param ++ nestedIn rest)

end

/-- A nested type is a parameter or nested in one. -/
theorem mem_nested_container {part : TypeTag} {qualifier : Option Qualifier} {cls : ContainerClass}
    {params : List TypeTag} :
    part ∈ (TypeTag.container qualifier cls params).nested ↔
      ∃ param ∈ params, part = param ∨ part ∈ param.nested := by
  -- The parameters are gone through in turn, each with what is nested in it.
  rw [nested]
  induction params with
  | nil => simp [nestedIn]
  | cons param rest ih => simp [nestedIn, ih, or_assoc]

section Core

variable {tag : TypeTag}

/-- Nothing can be trimmed off the text of a reduced type. -/
theorem trim_coreChars (reduced : Reduced tag) : trim tag.coreChars = tag.coreChars := by
  -- A name is trimmed, and a container opens with a word and ends with it or a bracket.
  cases reduced with
  | named isName => exact isName.trimmed
  | @container _ cls params _ _ =>
    have named := cls.ofName?_keyword
    have letters := ContainerClass.isNameChar_of_ofName? named
    rw [coreChars, paramChars_eq_map]
    cases params with
    | nil => simpa [bracketed] using trim_of_isNameChar letters
    | cons first rest =>
      rw [List.map_cons, bracketed_cons]
      exact trim_angled named [] _

/-- The text of a reduced type is not empty. -/
theorem coreChars_ne_nil (reduced : Reduced tag) : tag.coreChars ≠ [] := by
  -- A name is not empty, and a container has the word of its class.
  cases reduced with
  | named isName => exact isName.nonempty
  | @container _ cls params _ _ =>
    rw [coreChars]
    exact List.append_ne_nil_of_left_ne_nil
      (ContainerClass.ne_keyword_of_ofName? cls.ofName?_keyword).1 _

/-- The type under an optional qualifier, which takes the place of its own. -/
def requalified (qualifier : Option Qualifier) (tag : TypeTag) : TypeTag :=
  match qualifier with
  | none => tag
  | some qualifier => tag.withQualifier qualifier

/-- The text behind a qualifier is read on its own. -/
theorem parseChars_chars (reduced : Reduced tag) :
    parseChars tag.chars = (parseChars tag.coreChars).map (requalified tag.qualifier) := by
  rw [chars]
  cases tag.qualifier with
  | none =>
    simp only [qualifierChars, List.nil_append]
    cases parseChars tag.coreChars <;> rfl
  | some qualifier =>
    -- One blank stands between the qualifier and the core.
    rw [qualifierChars, List.append_assoc]
    exact parseChars_qualified qualifier (by simp) (List.all_eq_true.mp (by decide))
      (trim_coreChars reduced) (coreChars_ne_nil reduced)

end Core

section Parameters

/-- A blank in front of some entries does not change what they are read as. -/
private theorem filterMap_splitEntries_space (text : List Char) :
    (splitEntries 0 (' ' :: text)).filterMap parseChars =
      (splitEntries 0 text).filterMap parseChars := by
  obtain ⟨first, others, cut⟩ := List.exists_cons_of_ne_nil (splitEntries_ne_nil 0 text)
  have spaced : splitEntries 0 (' ' :: text) = (' ' :: first) :: others := by
    rw [splitEntries, if_neg (by decide), (by rfl : nextDepth 0 ' ' = 0), cut, List.modifyHead_cons]
  -- The blank only comes to stand in front of the first entry.
  have blank : ∀ char ∈ [' '], isBlank char := List.all_eq_true.mp (by decide)
  have padded := parseChars_pad blank
    (by simp : ∀ char ∈ ([] : List Char), isBlank char) first
  rw [List.append_nil, List.singleton_append] at padded
  rw [spaced, cut, List.filterMap_cons, List.filterMap_cons, padded]

/-- Joined texts are read one by one, each with the cuts that fall into it. -/
private theorem filterMap_splitEntries_joined {texts : List (List Char)}
    (closed : ∀ text ∈ texts.dropLast, depthAfter 0 text = 0) :
    (splitEntries 0 ([',', ' '].intercalate texts)).filterMap parseChars =
      texts.flatMap fun text => (splitEntries 0 text).filterMap parseChars := by
  induction texts with
  | nil => simp [splitEntries, parseChars_nil]
  | cons first rest ih =>
    cases rest with
    | nil => simp
    | cons second rest =>
      rw [List.dropLast_cons_cons] at closed
      have later := ih fun text member => closed text (List.mem_cons_of_mem first member)
      have shape : [',', ' '].intercalate (first :: second :: rest) =
          first ++ ',' :: ' ' :: [',', ' '].intercalate (second :: rest) := by
        rw [List.intercalate_cons_cons]
        simp
      -- The first text leaves no bracket open, so the comma behind it is a cut.
      rw [shape, splitEntries_append_comma (closed first List.mem_cons_self), List.filterMap_append,
        filterMap_splitEntries_space, later]
      rfl

/-- A container is read with whatever its parameters are cut into. -/
theorem parseChars_chars_container {qualifier : Option Qualifier} {cls : ContainerClass}
    {params : List TypeTag} (reduced : Reduced (.container qualifier cls params)) :
    parseChars (TypeTag.container qualifier cls params).chars =
      some (.container qualifier cls
        (params.flatMap fun param => (splitEntries 0 param.chars).filterMap parseChars)) := by
  have core : parseChars (TypeTag.container qualifier cls params).coreChars =
      some (.container none cls
        (params.flatMap fun param => (splitEntries 0 param.chars).filterMap parseChars)) := by
    have closed : ∀ param ∈ params.dropLast, depthAfter 0 param.chars = 0 := by
      cases reduced with
      | container _ closed => exact closed
    rw [coreChars, paramChars_eq_map]
    cases params with
    | nil => simpa [bracketed] using parseChars_word cls.ofName?_keyword
    | cons first rest =>
      -- The joined parameters are what the angle brackets enclose.
      have angled := parseChars_angled cls.ofName?_keyword
        (by simp : ∀ char ∈ ([] : List Char), isBlank char = true)
        ([',', ' '].intercalate ((first :: rest).map chars))
      have texts : ∀ text ∈ ((first :: rest).map chars).dropLast, depthAfter 0 text = 0 := by
        intro text member
        rw [← List.map_dropLast, List.mem_map] at member
        obtain ⟨param, earlier, rfl⟩ := member
        exact closed param earlier
      rw [List.nil_append, filterMap_splitEntries_joined texts, List.flatMap_map] at angled
      exact angled
  rw [parseChars_chars reduced, core]
  cases qualifier <;> rfl

/-- Results are the members again exactly when each member is its own result. -/
private theorem filterMap_eq_self_iff {α : Type} {find : α → Option α} {items : List α} :
    items.filterMap find = items ↔ ∀ item ∈ items, find item = some item := by
  induction items with
  | nil => simp
  | cons first rest ih =>
    rw [List.forall_mem_cons, ← ih]
    cases found : find first with
    | none =>
      -- Without a result for the first member there are too few of them.
      rw [List.filterMap_cons_none found]
      refine iff_of_false (fun same => ?_) (by simp)
      have fewer := List.length_filterMap_le find rest
      rw [same, List.length_cons] at fewer
      omega
    | some result => simp [List.filterMap_cons_some found]

/-- Parameters that enclose their commas are read whole. -/
private theorem flatMap_of_commasEnclosed {params : List TypeTag}
    (whole : ∀ param ∈ params, commasEnclosed 0 param.chars = true) :
    params.flatMap (fun param => (splitEntries 0 param.chars).filterMap parseChars) =
      params.filterMap fun param => parseChars param.chars := by
  -- Such a parameter is the only entry of its own text.
  induction params with
  | nil => rfl
  | cons param rest ih =>
    obtain ⟨here, later⟩ := List.forall_mem_cons.mp whole
    rw [List.flatMap_cons, ih later, splitEntries_of_commasEnclosed here]
    cases read : parseChars param.chars <;> simp [read]

/-- Parameters that are read as themselves are not cut, since every cut would cost a comma. -/
private theorem commasEnclosed_of_flatMap_eq_self {params : List TypeTag}
    (same : params.flatMap (fun param => (splitEntries 0 param.chars).filterMap parseChars) =
      params) :
    ∀ param ∈ params, commasEnclosed 0 param.chars = true := by
  have total : ∀ params : List TypeTag,
      ((params.flatMap fun param =>
        (splitEntries 0 param.chars).filterMap parseChars).map commaCount).sum +
          (params.map fun param => (splitEntries 0 param.chars).length - 1).sum ≤
        (params.map commaCount).sum := by
    intro params
    induction params with
    | nil => exact Nat.le_refl _
    | cons param rest ih =>
      -- Every cut within this parameter is paid for by one of its commas.
      have here := sum_commaCount_entries_le param.chars
      rw [List.flatMap_cons, List.map_append, List.sum_append, List.map_cons, List.sum_cons,
        List.map_cons, List.sum_cons, commaCount]
      omega
  have bound := total params
  rw [same] at bound
  intro param member
  -- No cut is left over for any parameter.
  have uncut : (params.map fun param => (splitEntries 0 param.chars).length - 1).sum = 0 := by omega
  have here : (splitEntries 0 param.chars).length - 1 = 0 :=
    List.sum_eq_zero_iff_forall_eq_nat.mp uncut _ (List.mem_map.mpr ⟨param, member, rfl⟩)
  have some := List.length_pos_iff.mpr (splitEntries_ne_nil 0 param.chars)
  exact length_splitEntries_eq_one_iff.mp (by omega)

end Parameters

/-- No parameter at any depth is written with a comma outside its angle brackets. -/
def enclosesCommas (tag : TypeTag) : Bool :=
  tag.nested.all fun param => commasEnclosed 0 param.chars

/-- The commas of a container are enclosed when those of its parameters are, and inside of them. -/
theorem enclosesCommas_container {qualifier : Option Qualifier} {cls : ContainerClass}
    {params : List TypeTag} :
    (TypeTag.container qualifier cls params).enclosesCommas = true ↔
      ∀ param ∈ params, commasEnclosed 0 param.chars = true ∧ param.enclosesCommas = true := by
  -- What is nested in a container is a parameter or nested in one.
  simp only [enclosesCommas, List.all_eq_true, mem_nested_container]
  constructor
  · intro all param member
    exact ⟨all param ⟨param, member, .inl rfl⟩, fun part inner => all part ⟨param, member, .inr inner⟩⟩
  · rintro each part ⟨param, member, rfl | inner⟩
    · exact (each part member).1
    · exact (each param member).2 part inner

/-- A reduced type is read back from its text exactly when it encloses its commas. -/
theorem parseChars_chars_eq_self_iff {tag : TypeTag} (reduced : Reduced tag) :
    parseChars tag.chars = some tag ↔ tag.enclosesCommas = true := by
  induction reduced with
  | @named qualifier name isName =>
    have reduced : Reduced (.named qualifier name) := .named isName
    have core : parseChars (TypeTag.named qualifier name).coreChars = some (.named none name) := by
      have read := parseChars_of_named (by rw [isName.trimmed]; exact isName.nonempty)
        (by rw [isName.trimmed]; exact isName.form)
      rw [isName.trimmed, String.ofList_toList] at read
      exact read
    -- A name is read as it stands, and has no parameters whose commas could be cut at.
    refine iff_of_true ?_ rfl
    rw [parseChars_chars reduced, core]
    cases qualifier <;> rfl
  | @container qualifier cls params each closed ih =>
    rw [parseChars_chars_container (.container each closed), enclosesCommas_container]
    constructor
    · intro read
      have same : params.flatMap (fun param =>
          (splitEntries 0 param.chars).filterMap parseChars) = params := by
        simpa using read
      have whole := commasEnclosed_of_flatMap_eq_self same
      -- Each parameter is its own only entry, so each of them is read back.
      rw [flatMap_of_commasEnclosed whole, filterMap_eq_self_iff] at same
      exact fun param member => ⟨whole param member, (ih param member).mp (same param member)⟩
    · intro enclosed
      rw [flatMap_of_commasEnclosed fun param member => (enclosed param member).1,
        filterMap_eq_self_iff.mpr fun param member => (ih param member).mpr (enclosed param member).2]

end SymbolAssist.TypeTag
