import Vitae.Document.Amendment
import Vitae.Proofs.Element.Markup
import Vitae.Proofs.Element.Observation
import Vitae.Proofs.Inspection

/-!
What a reader finds in an element. Every part of a head is found under the name of its attribute,
and the ids that are found are those the elements can be overridden by.
-/

namespace Vitae

/-- The texts of a head that count: one that is empty is not written. -/
def presentText (text : Option String) : Option String := text.filter fun s => !s.isEmpty

namespace ElementHead

/-- The text of the style attribute. -/
def styleText (h : ElementHead) : String :=
  "; ".intercalate ((sortPairs h.style).map fun (name, value) => name ++ ": " ++ value) ++ ";"

/-- An attribute as a reader finds it. -/
def lowered (pair : String × String) : String × String := (Text.lower pair.1, pair.2)

/-- A tag from which a head can be told: its tag name, and under the names that are reserved for
them its classes, what identifies it and its style. All other attributes are its own, in small
letters. -/
structure IsFoundIn (h : ElementHead) (tag : Tag) : Prop where
  name : tag.name = h.tag
  classes : tag.attributes.lookup "class"
    = if h.classes.isEmpty then none else some (" ".intercalate h.classes)
  id : tag.attributes.lookup "data-element-id" = h.address?
  type : tag.attributes.lookup "data-element-type"
    = h.address?.bind fun _ => presentText (h.type.map ElementType.word)
  label : tag.attributes.lookup "data-element-label"
    = h.address?.bind fun _ => presentText h.label
  style : tag.attributes.lookup "style" = if h.style.isEmpty then none else some h.styleText
  own : ∀ name, name ∉ reservedNames → tag.attributes.lookup name
    = (h.attributes.map lowered).lookup name

theorem lookup_textAttribute_self (name : String) (text : Option String) :
    (textAttribute name text).lookup name = presentText text := by
  unfold textAttribute presentText
  cases text with
  | none => rfl
  | some s =>
    cases empty : s.isEmpty <;> simp [Option.filter, empty]

theorem lookup_textAttribute_other {name other : String} (differs : other ≠ name)
    (text : Option String) : (textAttribute name text).lookup other = none := by
  apply lookup_eq_none
  intro mem
  have same := (textAttribute_sublist name text).subset mem
  exact differs (by simpa using same)

theorem lookup_classAttribute_other {other : String} (differs : other ≠ "class")
    (h : ElementHead) : h.classAttribute.lookup other = none := by
  apply lookup_eq_none
  intro mem
  have same := (classAttribute_sublist h).subset mem
  exact differs (by simpa using same)

theorem lookup_styleAttribute_other {other : String} (differs : other ≠ "style")
    (h : ElementHead) : h.styleAttribute.lookup other = none := by
  apply lookup_eq_none
  intro mem
  have same := (styleAttribute_sublist h).subset mem
  exact differs (by simpa using same)

theorem identityAttributes_eq (h : ElementHead) : h.identityAttributes
    = if h.address?.isSome then textAttribute "data-element-id" h.id
        ++ textAttribute "data-element-type" (h.type.map ElementType.word)
        ++ textAttribute "data-element-label" h.label
      else [] := by
  unfold identityAttributes address?
  cases h.id with
  | none => rfl
  | some id => cases empty : id.isEmpty <;> simp [textAttribute, Option.filter, empty]

theorem presentText_id (h : ElementHead) : presentText h.id = h.address? := rfl

/-- The identity of a head is found under its three names, and only if there is an id. -/
theorem lookup_identityAttributes (h : ElementHead) :
    h.identityAttributes.lookup "data-element-id" = h.address?
      ∧ h.identityAttributes.lookup "data-element-type"
        = h.address?.bind (fun _ => presentText (h.type.map ElementType.word))
      ∧ h.identityAttributes.lookup "data-element-label"
        = h.address?.bind (fun _ => presentText h.label) := by
  rw [identityAttributes_eq]
  cases address : h.address? with
  | none => simp
  | some id =>
    have first := lookup_textAttribute_self "data-element-id" h.id
    rw [presentText_id, address] at first
    refine ⟨?_, ?_, ?_⟩
    · simp [List.lookup_append, first]
    · simp [List.lookup_append, lookup_textAttribute_self,
        lookup_textAttribute_other (by decide : "data-element-type" ≠ "data-element-id"),
        lookup_textAttribute_other (by decide : "data-element-type" ≠ "data-element-label")]
    · simp [List.lookup_append, lookup_textAttribute_self,
        lookup_textAttribute_other (by decide : "data-element-label" ≠ "data-element-id"),
        lookup_textAttribute_other (by decide : "data-element-label" ≠ "data-element-type")]

theorem map_lowered_reserved (h : ElementHead) :
    h.reservedAttributes.map lowered = h.reservedAttributes := by
  have each : ∀ pair ∈ h.reservedAttributes, lowered pair = pair := by
    intro pair mem
    have name := (reservedAttributes_sublist h).subset (List.mem_map_of_mem mem)
    rw [lowered, lower_of_mem_reservedNames name]
  conv => rhs; rw [← List.map_id h.reservedAttributes]
  exact List.map_congr_left each

/-- What is reserved is found before what is the element's own. -/
theorem lookup_readTag {h : ElementHead} (writable : h.IsWritable) (name : String) :
    h.readTag.attributes.lookup name = (h.reservedAttributes.lookup name).or
      ((h.attributes.map lowered).lookup name) := by
  have perm := (allAttributes_perm h).map lowered
  have distinct : ((h.allAttributes.map lowered).map Prod.fst).Nodup := by
    rw [List.map_map]
    exact nodup_allAttributes writable
  rw [List.map_append, map_lowered_reserved] at perm
  rw [← List.lookup_append]
  exact lookup_eq_of_perm perm distinct name

theorem lookup_readTag_reserved {h : ElementHead} (writable : h.IsWritable) {name : String}
    (reserved : name ∈ reservedNames) :
    h.readTag.attributes.lookup name = h.reservedAttributes.lookup name := by
  have none : (h.attributes.map lowered).lookup name = none := by
    apply lookup_eq_none
    intro mem
    simp only [List.map_map, List.mem_map] at mem
    obtain ⟨pair, inside, rfl⟩ := mem
    exact (writable.own pair inside).own reserved
  rw [lookup_readTag writable, none, Option.or_none]

theorem lookup_reserved_identity {h : ElementHead} {name : String} (cls : name ≠ "class")
    (style : name ≠ "style") :
    h.reservedAttributes.lookup name = h.identityAttributes.lookup name := by
  simp [reservedAttributes, List.lookup_append, lookup_classAttribute_other cls,
    lookup_styleAttribute_other style]

theorem isFoundIn_readTag {h : ElementHead} (writable : h.IsWritable) : h.IsFoundIn h.readTag where
  name := rfl
  classes := by
    have identity : h.identityAttributes.lookup "class" = none := by
      apply lookup_eq_none
      intro mem
      have names := (identityAttributes_sublist h).subset mem
      simp at names
    rw [lookup_readTag_reserved writable (by decide), reservedAttributes, List.lookup_append,
      List.lookup_append, identity, lookup_styleAttribute_other (by decide)]
    unfold classAttribute
    split <;> simp
  id := by
    rw [lookup_readTag_reserved writable (by decide),
      lookup_reserved_identity (by decide) (by decide)]
    exact (lookup_identityAttributes h).1
  type := by
    rw [lookup_readTag_reserved writable (by decide),
      lookup_reserved_identity (by decide) (by decide)]
    exact (lookup_identityAttributes h).2.1
  label := by
    rw [lookup_readTag_reserved writable (by decide),
      lookup_reserved_identity (by decide) (by decide)]
    exact (lookup_identityAttributes h).2.2
  style := by
    have identity : h.identityAttributes.lookup "style" = none := by
      apply lookup_eq_none
      intro mem
      have names := (identityAttributes_sublist h).subset mem
      simp at names
    rw [lookup_readTag_reserved writable (by decide), reservedAttributes, List.lookup_append,
      List.lookup_append, identity, lookup_classAttribute_other (by decide)]
    unfold styleAttribute
    split <;> simp [styleText]
  own := by
    intro name other
    have none : h.reservedAttributes.lookup name = none :=
      lookup_eq_none fun mem => other ((reservedAttributes_sublist h).subset mem)
    rw [lookup_readTag writable, none, Option.none_or]

/-- The tag of a head, if it has an id. -/
def namedTag? (h : ElementHead) : Option Tag := h.address?.map fun _ => h.readTag

end ElementHead

namespace Element

theorem addresses_append (elements others : List Element) :
    addresses (elements ++ others) = addresses elements ++ addresses others :=
  seen_append ElementHead.address? elements others

theorem addresses_cons (element : Element) (elements : List Element) :
    addresses (element :: elements) = addresses [element] ++ addresses elements :=
  addresses_append [element] elements

theorem addresses_node (head : ElementHead) (children : List Element) :
    addresses [.node head children] = head.address?.toList ++ addresses children :=
  seen_node ElementHead.address? head children

theorem exists_of_mem_walkAll {h : ElementHead} {elements : List Element}
    (mem : h ∈ walkAll elements) : ∃ element ∈ elements, h ∈ element.walk := by
  induction elements with
  | nil => simp [walkAll] at mem
  | cons element elements ih =>
    rw [walkAll, List.mem_append] at mem
    rcases mem with mem | mem
    · exact ⟨element, by simp, mem⟩
    · obtain ⟨e, inside, mem⟩ := ih mem
      exact ⟨e, List.mem_cons_of_mem _ inside, mem⟩

/-- Every head in an element that can be read back can be read back. -/
theorem IsWritable.of_mem_walk {element : Element} (h : element.IsWritable) :
    ∀ head ∈ element.walk, head.IsWritable := by
  induction h with
  | node head children names void each ih =>
    intro other mem
    rw [walk, List.mem_cons] at mem
    rcases mem with rfl | mem
    · exact names
    · obtain ⟨child, inside, mem⟩ := exists_of_mem_walkAll mem
      exact ih child inside other mem

theorem tagsWithAll_of_each {elements : List Element}
    (h : ∀ element ∈ elements,
      Html.tagsWith "data-element-id" element.read = seen ElementHead.namedTag? [element]) :
    Html.tagsWithAll "data-element-id" (elements.map read)
      = seen ElementHead.namedTag? elements := by
  induction elements with
  | nil => rfl
  | cons element elements ih =>
    have others := ih fun e mem => h e (List.mem_cons_of_mem _ mem)
    rw [List.map_cons, Html.tagsWithAll, h element (by simp), others, seen_cons _ element elements]

/-- What has an id in an element are the tags of its heads that have one. -/
theorem IsWritable.tagsWith_read {element : Element} (h : element.IsWritable) :
    Html.tagsWith "data-element-id" element.read = seen ElementHead.namedTag? [element] := by
  induction h with
  | node head children names void each ih =>
    have own := (ElementHead.isFoundIn_readTag names).id
    have text : Html.tagsWithAll "data-element-id" head.textHtml = [] := by
      rw [ElementHead.textHtml_eq]
      exact Html.tagsWithAll_heldText _ _
    rw [read, Html.tagsWith, own, Html.tagsWithAll_append, text, readAll_eq_map,
      tagsWithAll_of_each ih, seen_node, ElementHead.namedTag?]
    cases head.address? <;> rfl

end Element

end Vitae
