import Vitae.Inspection
import Vitae.Proofs.Markup.Reading
import Vitae.Proofs.Text.Split

/-!
What an inspection finds is found part by part: the trees of a list are looked at one after another,
and what is read has no attribute that was not written.
-/

namespace Vitae

namespace Html

mutual

/-- The tags with an attribute, in document order. -/
def tagsWith (name : String) : Html → List Tag
  | .element tag children =>
    (if (tag.attributes.lookup name).isSome then [tag] else []) ++ tagsWithAll name children
  | _ => []

def tagsWithAll (name : String) : List Html → List Tag
  | [] => []
  | html :: rest => tagsWith name html ++ tagsWithAll name rest

end

mutual

theorem attributeValues_eq (name : String) (html : Html) :
    attributeValues name html
      = (tagsWith name html).filterMap fun tag => tag.attributes.lookup name := by
  match html with
  | .text s => rfl
  | .verbatim s => rfl
  | .bracketed bracket s => rfl
  | .element tag children =>
    rw [attributeValues, tagsWith, List.filterMap_append, attributeValuesAll_eq name children]
    cases value : tag.attributes.lookup name <;> simp [value]

/-- The values of an attribute are found in the tags that have it. -/
theorem attributeValuesAll_eq (name : String) (htmls : List Html) :
    attributeValuesAll name htmls
      = (tagsWithAll name htmls).filterMap fun tag => tag.attributes.lookup name := by
  match htmls with
  | [] => rfl
  | html :: rest =>
    rw [attributeValuesAll, tagsWithAll, List.filterMap_append, attributeValues_eq name html,
      attributeValuesAll_eq name rest]

end

theorem tagsWithAll_append (name : String) (htmls others : List Html) :
    tagsWithAll name (htmls ++ others) = tagsWithAll name htmls ++ tagsWithAll name others := by
  induction htmls with
  | nil => rfl
  | cons html htmls ih => simp [tagsWithAll, ih]

theorem tagsWithAll_heldText (name held : String) : tagsWithAll name (heldText held) = [] := by
  unfold heldText
  split <;> rfl

mutual

/-- Whether no attribute of a tree is read under a name. -/
def avoids (name : String) : Html → Bool
  | .element tag children =>
    (tag.attributes.all fun pair => Text.lower pair.1 != name) && avoidsAll name children
  | _ => true

def avoidsAll (name : String) : List Html → Bool
  | [] => true
  | html :: rest => avoids name html && avoidsAll name rest

end

theorem avoidsAll_iff {name : String} {htmls : List Html} :
    avoidsAll name htmls ↔ ∀ html ∈ htmls, avoids name html := by
  induction htmls with
  | nil => simp [avoidsAll]
  | cons html htmls ih => simp [avoidsAll, ih]

mutual

theorem tagsWith_asRead {name : String} {html : Html} (h : avoids name html) :
    tagsWith name html.asRead = [] := by
  match html with
  | .text s => rfl
  | .verbatim s => rfl
  | .bracketed bracket s => rfl
  | .element tag children =>
    simp only [avoids, Bool.and_eq_true, List.all_eq_true, bne_iff_ne] at h
    have inner := tagsWithAll_asReadAll "" h.2
    have none : tag.asRead.attributes.lookup name = none := Token.lookup_readBack h.1
    simp [asRead, tagsWith, none, inner]

theorem tagsWithAll_asReadAll {name : String} (held : String) {htmls : List Html}
    (h : avoidsAll name htmls) : tagsWithAll name (asReadAll held htmls) = [] := by
  match htmls with
  | [] => exact tagsWithAll_heldText name held
  | .text s :: rest =>
    simp only [avoidsAll, avoids, Bool.true_and] at h
    exact tagsWithAll_asReadAll (held ++ s) h
  | .verbatim s :: rest =>
    simp only [avoidsAll, avoids, Bool.true_and] at h
    have later := tagsWithAll_asReadAll "" h
    simp [asReadAll, tagsWithAll_append, tagsWithAll_heldText, tagsWithAll,
      later, asRead, tagsWith]
  | .bracketed bracket s :: rest =>
    simp only [avoidsAll, avoids, Bool.true_and] at h
    have later := tagsWithAll_asReadAll "" h
    simp [asReadAll, tagsWithAll_append, tagsWithAll_heldText, tagsWithAll,
      later, asRead, tagsWith]
  | .element tag children :: rest =>
    simp only [avoidsAll, Bool.and_eq_true] at h
    have first : tagsWith name (asRead (.element tag children)) = [] :=
      tagsWith_asRead h.1
    have later := tagsWithAll_asReadAll "" h.2
    simp [asReadAll, tagsWithAll_append, tagsWithAll_heldText, tagsWithAll,
      later, first]

end

theorem tagsWithAll_map_asRead {name : String} {htmls : List Html}
    (h : avoidsAll name htmls) : tagsWithAll name (htmls.map asRead) = [] := by
  induction htmls with
  | nil => rfl
  | cons html htmls ih =>
    simp only [avoidsAll, Bool.and_eq_true] at h
    rw [List.map_cons, tagsWithAll, tagsWith_asRead h.1, ih h.2, List.nil_append]

theorem withoutAll_append (unwanted : Html → Bool) (htmls others : List Html) :
    withoutAll unwanted (htmls ++ others)
      = withoutAll unwanted htmls ++ withoutAll unwanted others := by
  induction htmls with
  | nil => rfl
  | cons html htmls ih =>
    rw [List.cons_append, withoutAll, withoutAll]
    split
    · exact ih
    · rw [ih, List.cons_append]

theorem textsAll_append (aside : Bool) (htmls others : List Html) :
    textsAll aside (htmls ++ others) = textsAll aside htmls ++ textsAll aside others := by
  induction htmls with
  | nil => rfl
  | cons html htmls ih => simp [textsAll, ih]

/-! Trees without a word -/

/-- A tree of elements that holds no text. -/
inductive IsWordless : Html → Prop where
  | element (tag : Tag) (children : List Html) (each : ∀ child ∈ children, child.IsWordless) :
    IsWordless (.element tag children)

theorem IsWordless.isElement {html : Html} (h : html.IsWordless) : html.isElement := by
  cases h
  rfl

theorem IsWordless.asRead {html : Html} (h : html.IsWordless) : html.asRead.IsWordless := by
  induction h with
  | element tag children each ih =>
    have apart := asReadAll_of_isElement "" fun child mem => (each child mem).isElement
    rw [Html.asRead, apart]
    refine .element _ _ fun child mem => ?_
    obtain ⟨other, inside, rfl⟩ := List.mem_map.mp mem
    exact ih other inside

theorem exists_of_mem_withoutAll {unwanted : Html → Bool} {html : Html} {htmls : List Html}
    (mem : html ∈ withoutAll unwanted htmls) :
    ∃ other ∈ htmls, html = without unwanted other := by
  induction htmls with
  | nil => simp [withoutAll] at mem
  | cons first htmls ih =>
    have later (mem : html ∈ withoutAll unwanted htmls) :
        ∃ other ∈ first :: htmls, html = without unwanted other := by
      obtain ⟨other, inside, same⟩ := ih mem
      exact ⟨other, List.mem_cons_of_mem _ inside, same⟩
    rw [withoutAll] at mem
    split at mem
    · exact later mem
    · rcases List.mem_cons.mp mem with rfl | mem
      · exact ⟨first, by simp, rfl⟩
      · exact later mem

theorem IsWordless.without {html : Html} (h : html.IsWordless) (unwanted : Html → Bool) :
    (html.without unwanted).IsWordless := by
  induction h with
  | element tag children each ih =>
    rw [Html.without]
    refine .element _ _ fun child mem => ?_
    obtain ⟨other, inside, rfl⟩ := exists_of_mem_withoutAll mem
    exact ih other inside

theorem textsAll_eq_nil {aside : Bool} {htmls : List Html}
    (h : ∀ html ∈ htmls, texts aside html = []) : textsAll aside htmls = [] := by
  induction htmls with
  | nil => rfl
  | cons html htmls ih =>
    rw [textsAll, h html (by simp), ih fun other mem => h other (List.mem_cons_of_mem _ mem)]
    rfl

theorem IsWordless.texts {html : Html} (h : html.IsWordless) (aside : Bool) :
    html.texts aside = [] := by
  induction h generalizing aside with
  | element tag children each ih =>
    rw [Html.texts]
    exact textsAll_eq_nil fun child mem => ih child mem _

end Html

namespace Inspection

/-- The lines that a reader sees are those of each text. -/
theorem visibleLines_eq (document : String) :
    visibleLines document
      = (Html.textsAll false (Html.withoutAll isSilent (layout document))).flatMap
        Text.shownLines :=
  Text.shownLines_intercalate _

end Inspection

end Vitae
