import Vitae.Proofs.Markup.Nesting

/-!
What reading leaves as it is. Attributes whose names differ even in small letters are all found
again, in their order, and trees that are not text stay apart.
-/

namespace Vitae

open Html (escapeMarkup)

theorem putMember_of_not_mem {α : Type} {key : String} {value : α} {members : List (String × α)}
    (h : key ∉ members.map Prod.fst) : putMember key value members = members ++ [(key, value)] := by
  induction members with
  | nil => rfl
  | cons member members ih =>
    simp only [List.map_cons, List.mem_cons, not_or] at h
    rw [putMember, if_neg (Ne.symm h.1), ih h.2, List.cons_append]

theorem lookup_putMember {α : Type} (key other : String) (value : α)
    (members : List (String × α)) : (putMember key value members).lookup other
      = if other = key then some value else members.lookup other := by
  induction members with
  | nil =>
    by_cases same : other = key
    · simp [putMember, same]
    · have differs : (other == key) = false := by simpa using same
      simp [putMember, List.lookup_cons, differs, same]
  | cons member members ih =>
    obtain ⟨k, v⟩ := member
    rw [putMember]
    by_cases own : k = key
    · subst own
      by_cases same : other = k
      · simp [same]
      · have differs : (other == k) = false := by simpa using same
        simp [List.lookup_cons, differs, same]
    · rw [if_neg own, List.lookup_cons, ih, List.lookup_cons]
      by_cases same : other = k
      · subst same
        simp [own]
      · have differs : (other == k) = false := by simpa using same
        simp [differs]

theorem mem_of_lookup {pairs : List (String × String)} {name value : String}
    (h : pairs.lookup name = some value) : (name, value) ∈ pairs := by
  obtain ⟨before, behind, rfl, -⟩ := List.lookup_eq_some_iff.mp h
  simp

theorem lookup_eq_none {pairs : List (String × String)} {name : String}
    (h : name ∉ pairs.map Prod.fst) : pairs.lookup name = none := by
  rw [List.lookup_eq_none_iff]
  intro pair mem
  rw [bne_iff_ne]
  rintro rfl
  exact h (List.mem_map_of_mem mem)

theorem lookup_of_mem {pairs : List (String × String)} (distinct : (pairs.map Prod.fst).Nodup)
    {name value : String} (mem : (name, value) ∈ pairs) : pairs.lookup name = some value := by
  obtain ⟨before, behind, rfl⟩ := List.append_of_mem mem
  rw [List.map_append, List.map_cons, List.nodup_append] at distinct
  have fresh : before.lookup name = none :=
    lookup_eq_none fun inside => distinct.2.2 name inside name (by simp) rfl
  rw [List.lookup_append, fresh, List.lookup_cons_self, Option.none_or]

/-- Attributes with distinct names are found alike in any order. -/
theorem lookup_eq_of_perm {pairs others : List (String × String)} (perm : pairs.Perm others)
    (distinct : (pairs.map Prod.fst).Nodup) (name : String) :
    pairs.lookup name = others.lookup name := by
  have distinct' : (others.map Prod.fst).Nodup := (perm.map Prod.fst).nodup_iff.mp distinct
  ext value
  constructor
  · intro found
    exact lookup_of_mem distinct' (perm.mem_iff.mp (mem_of_lookup found))
  · intro found
    exact lookup_of_mem distinct (perm.mem_iff.mpr (mem_of_lookup found))

namespace Token

/-- An attribute as it is found in the tag of an element. -/
def readAttribute (tag : String) (pair : String × String) : String × String :=
  (Text.lower pair.1, keptValue tag (Text.lower pair.1) pair.2)

theorem foldl_putWritten (tag : String) (attributes before : List (String × String))
    (distinct : (before.map Prod.fst ++ attributes.map fun pair => Text.lower pair.1).Nodup) :
    attributes.foldl (putWritten tag) before = before ++ attributes.map (readAttribute tag) := by
  induction attributes generalizing before with
  | nil => simp
  | cons pair attributes ih =>
    have fresh : Text.lower pair.1 ∉ before.map Prod.fst := by
      rw [List.nodup_append] at distinct
      exact fun mem => distinct.2.2 _ mem _ (by simp) rfl
    rw [List.foldl_cons, putWritten, putMember_of_not_mem fresh, ih]
    · simp [readAttribute]
    · simpa using distinct

/-- Attributes whose names differ in small letters are read in the order they are written in. -/
theorem readBack_eq_map {tag : Tag}
    (distinct : (tag.attributes.map fun pair => Text.lower pair.1).Nodup) :
    readBack tag = tag.attributes.map (readAttribute tag.name) := by
  have read := foldl_putWritten tag.name tag.attributes [] (by simpa using distinct)
  rwa [List.nil_append] at read

/-- An attribute that reading does not change. -/
def IsKept (tag : String) (pair : String × String) : Prop :=
  Text.lower pair.1 = pair.1 ∧ keptValue tag pair.1 pair.2 = pair.2

theorem lookup_foldl_putWritten (tag : String) {name : String}
    {attributes : List (String × String)} (h : ∀ pair ∈ attributes, Text.lower pair.1 ≠ name)
    (before : List (String × String)) :
    (attributes.foldl (putWritten tag) before).lookup name = before.lookup name := by
  induction attributes generalizing before with
  | nil => rfl
  | cons pair attributes ih =>
    have differs : name ≠ Text.lower pair.1 := (h pair (by simp)).symm
    rw [List.foldl_cons, ih fun p mem => h p (List.mem_cons_of_mem _ mem), putWritten,
      lookup_putMember, if_neg differs]

/-- No attribute is read that was not written. -/
theorem lookup_readBack {tag : Tag} {name : String}
    (h : ∀ pair ∈ tag.attributes, Text.lower pair.1 ≠ name) : (readBack tag).lookup name = none :=
  lookup_foldl_putWritten tag.name h []

theorem IsKept.readAttribute_eq {tag : String} {pair : String × String} (h : IsKept tag pair) :
    readAttribute tag pair = pair := by
  rw [readAttribute, h.1, h.2]

theorem isKept_of_name {tag name : String} (lower : Text.lower name = name)
    (plain : holdsWords tag name = false) (value : String) : IsKept tag (name, value) :=
  ⟨lower, by simp [keptValue, plain]⟩

end Token

/-- A tag that reading does not change. -/
structure Tag.IsKept (tag : Tag) : Prop where
  each : ∀ pair ∈ tag.attributes, Token.IsKept tag.name pair
  distinct : (tag.attributes.map Prod.fst).Nodup
  form : tag.form ≠ .selfClosed

theorem Tag.IsKept.asRead_eq {tag : Tag} (h : tag.IsKept) : tag.asRead = tag := by
  have lower : (tag.attributes.map fun pair => Text.lower pair.1) = tag.attributes.map Prod.fst :=
    List.map_congr_left fun pair mem => (h.each pair mem).1
  have attributes : Token.readBack tag = tag.attributes := by
    rw [Token.readBack_eq_map (lower ▸ h.distinct)]
    conv => rhs; rw [← List.map_id tag.attributes]
    exact List.map_congr_left fun pair mem => (h.each pair mem).readAttribute_eq
  have form : (if tag.form = .void then TagForm.void else .paired) = tag.form := by
    have := h.form
    cases form : tag.form <;> simp_all
  rw [Tag.asRead, attributes, form]

namespace Html

def isElement : Html → Bool
  | .element _ _ => true
  | _ => false

/-- Elements stay apart, from each other and from what is around them. -/
theorem asReadAll_append (held : String) {htmls : List Html} (some : htmls ≠ [])
    (h : ∀ html ∈ htmls, html.isElement) (rest : List Html) :
    asReadAll held (htmls ++ rest) = heldText held ++ htmls.map asRead ++ asReadAll "" rest := by
  induction htmls generalizing held with
  | nil => exact absurd rfl some
  | cons html htmls ih =>
    have first := h html (by simp)
    have later : asReadAll "" (htmls ++ rest) = htmls.map asRead ++ asReadAll "" rest := by
      by_cases last : htmls = []
      · simp [last]
      · exact ih "" last fun html mem => h html (List.mem_cons_of_mem _ mem)
    cases html with
    | element tag children => simp [asReadAll, later]
    | text s => simp [isElement] at first
    | verbatim s => simp [isElement] at first
    | bracketed bracket s => simp [isElement] at first

theorem asReadAll_of_isElement (held : String) {htmls : List Html}
    (h : ∀ html ∈ htmls, html.isElement) :
    asReadAll held htmls = heldText held ++ htmls.map asRead := by
  by_cases none : htmls = []
  · simp [none, asReadAll]
  · have read := asReadAll_append held none h []
    simpa [asReadAll, heldText] using read

/-- Text in front of elements is their neighbour. -/
theorem asReadAll_heldText (s : String) {htmls : List Html} (h : ∀ html ∈ htmls, html.isElement) :
    asReadAll "" (heldText s ++ htmls) = heldText s ++ htmls.map asRead := by
  by_cases empty : s.isEmpty
  · simpa [heldText, empty] using asReadAll_of_isElement "" h
  · simpa [heldText, empty, asReadAll] using asReadAll_of_isElement s h

/-- Elements whose children are markup and that have an end tag. -/
def isOrdinary (name : String) : Bool :=
  Token.isTagName name && !voidNames.contains name && !Token.isRaw name

theorem writable_paired {name : String} {attributes : List (String × String)}
    {children : List Html} (ordinary : isOrdinary name)
    (names : (attributes.map Prod.fst).all Token.isAttributeName)
    (each : ∀ child ∈ children, Writable child) : Writable (.paired name attributes children) := by
  simp only [isOrdinary, Bool.and_eq_true, Bool.not_eq_true', List.contains_eq_mem,
    decide_eq_false_iff_not] at ordinary
  obtain ⟨⟨tagName, void⟩, raw⟩ := ordinary
  exact .paired { name, attributes } children ⟨tagName, by simpa using names⟩ rfl void raw each

theorem writable_void {name : String} {attributes : List (String × String)}
    (tagName : Token.isTagName name) (known : voidNames.contains name)
    (names : (attributes.map Prod.fst).all Token.isAttributeName) :
    Writable (.void name attributes) :=
  .void { name, attributes, form := .void } ⟨tagName, by simpa using names⟩ rfl
    (by simpa using known)

theorem writable_selfClosed {name : String} {attributes : List (String × String)}
    (ordinary : isOrdinary name) (names : (attributes.map Prod.fst).all Token.isAttributeName) :
    Writable (.selfClosed name attributes) := by
  simp only [isOrdinary, Bool.and_eq_true, Bool.not_eq_true', List.contains_eq_mem,
    decide_eq_false_iff_not] at ordinary
  exact .selfClosed { name, attributes, form := .selfClosed } ⟨ordinary.1.1, by simpa using names⟩
    rfl ordinary.1.2

/-- An element whose content is not escaped. -/
theorem writable_raw {name s : String} {attributes : List (String × String)}
    (raw : Token.isRaw name) (names : (attributes.map Prod.fst).all Token.isAttributeName)
    (begun : s.isEmpty = false) (free : '<' ∉ s.toList) :
    Writable (.paired name attributes [.verbatim s]) :=
  .raw { name, attributes } s ⟨Token.isTagName_of_isRaw raw, by simpa using names⟩ rfl raw begun
    free

/-- Attributes that keep their names and hold no words. -/
def keepsNames (name : String) (names : List String) : Bool :=
  names.all fun n => Text.lower n == n && !Token.holdsWords name n

theorem isKept_of_keepsNames {name : String} {attributes : List (String × String)}
    (h : keepsNames name (attributes.map Prod.fst)) :
    ∀ pair ∈ attributes, Token.IsKept name pair := by
  intro pair mem
  simp only [keepsNames, List.all_eq_true, Bool.and_eq_true, beq_iff_eq, Bool.not_eq_true',
    List.mem_map] at h
  obtain ⟨lower, plain⟩ := h pair.1 ⟨pair, mem, rfl⟩
  exact Token.isKept_of_name lower plain pair.2

theorem asRead_paired {name : String} {attributes : List (String × String)} {children : List Html}
    (each : ∀ pair ∈ attributes, Token.IsKept name pair)
    (distinct : (attributes.map Prod.fst).Nodup) :
    asRead (.paired name attributes children)
      = .paired name attributes (asReadAll "" children) := by
  have tag : Tag.asRead { name, attributes } = { name, attributes } :=
    Tag.IsKept.asRead_eq ⟨each, distinct, by simp⟩
  rw [Html.paired, asRead, tag]
  rfl

theorem asRead_void {name : String} {attributes : List (String × String)}
    (each : ∀ pair ∈ attributes, Token.IsKept name pair)
    (distinct : (attributes.map Prod.fst).Nodup) :
    asRead (.void name attributes) = .void name attributes := by
  have tag : Tag.asRead { name, attributes, form := .void } = { name, attributes, form := .void } :=
    Tag.IsKept.asRead_eq ⟨each, distinct, by simp⟩
  rw [Html.void, asRead, tag]
  rfl

end Html

end Vitae
