import Vitae.Element.Markup
import Vitae.Proofs.Markup.Reading
import Vitae.Proofs.Text.Split

/-!
Elements read back. A tree of elements is found again in its markup: every element with its name,
its attributes in small letters and its text, and inside it the same elements in the same order.
-/

namespace Vitae

open Html (Writable)

theorem sortPairs_perm {α : Type} (pairs : List (String × α)) : (sortPairs pairs).Perm pairs :=
  List.mergeSort_perm pairs _

theorem pairwise_sortPairs {α : Type} (pairs : List (String × α)) :
    (sortPairs pairs).Pairwise fun a b => a.1 ≤ b.1 := by
  have sorted : (sortPairs pairs).Pairwise fun a b => decide (a.1 ≤ b.1) := by
    refine List.pairwise_mergeSort (fun a b c first second => ?_) (fun a b => ?_) pairs
    · simp only [decide_eq_true_eq] at first second ⊢
      exact String.le_trans first second
    · simpa using String.le_total a.1 b.1
  simpa using sorted

theorem sortPairs_of_pairwise {α : Type} {pairs : List (String × α)}
    (sorted : pairs.Pairwise fun a b => a.1 ≤ b.1) : sortPairs pairs = pairs :=
  List.mergeSort_of_pairwise (by simpa using sorted)

namespace ElementHead

/-- Attributes that are written for other parts of a head. -/
def reservedNames : List String :=
  ["class", "data-element-id", "data-element-type", "data-element-label", "style"]

/-- An attribute of its own whose name and value can be read back. -/
structure IsOwnAttribute (tag : String) (pair : String × String) : Prop where
  name : Token.isAttributeName pair.1
  own : Text.lower pair.1 ∉ reservedNames
  plain : Token.holdsWords tag (Text.lower pair.1) = false

/-- A head that can be read back. -/
structure IsWritable (h : ElementHead) : Prop where
  tag : if h.isVoid then Token.isTagName h.tag else Html.isOrdinary h.tag
  classes : ∀ cls ∈ h.classes, Text.isWord cls.toList
  own : ∀ pair ∈ h.attributes, IsOwnAttribute h.tag pair
  distinct : (h.attributes.map fun pair => Text.lower pair.1).Nodup

/-- The tag that a reader of a head finds. -/
def readTag (h : ElementHead) : Tag :=
  { name := h.tag
    attributes := h.allAttributes.map fun (name, value) => (Text.lower name, value)
    form := if h.isVoid then .void else .paired }

/-- Whether the own attributes of a head can have these names. -/
def ownsNames (tag : String) (names : List String) : Bool :=
  (names.all fun name => Token.isAttributeName name && !reservedNames.contains (Text.lower name)
    && !Token.holdsWords tag (Text.lower name)) && decide (names.map Text.lower).Nodup

theorem isWritable_of_ownsNames {h : ElementHead}
    (tag : if h.isVoid then Token.isTagName h.tag else Html.isOrdinary h.tag)
    (classes : ∀ cls ∈ h.classes, Text.isWord cls.toList)
    (names : ownsNames h.tag (h.attributes.map Prod.fst)) : h.IsWritable := by
  simp only [ownsNames, Bool.and_eq_true, List.all_eq_true, decide_eq_true_eq, List.mem_map,
    Bool.not_eq_true', List.contains_eq_mem, decide_eq_false_iff_not, List.map_map] at names
  refine ⟨tag, classes, fun pair mem => ?_, names.2⟩
  obtain ⟨⟨name, own⟩, plain⟩ := names.1 pair.1 ⟨pair, mem, rfl⟩
  exact ⟨name, own, plain⟩

end ElementHead

namespace Element

mutual

/-- The tree that a reader of an element finds: nothing of the element is lost or changed. -/
def read : Element → Html
  | .node head children => .element head.readTag (head.textHtml ++ readAll children)

def readAll : List Element → List Html
  | [] => []
  | element :: rest => read element :: readAll rest

end

/-- Elements that can be read back. Those without an end tag hold nothing. -/
inductive IsWritable : Element → Prop where
  | node (head : ElementHead) (children : List Element) (names : head.IsWritable)
      (void : head.isVoid = true → head.text = none ∧ children = [])
      (each : ∀ child ∈ children, child.IsWritable) : IsWritable (.node head children)

theorem readAll_eq_map (elements : List Element) : readAll elements = elements.map read := by
  induction elements with
  | nil => rfl
  | cons element elements ih => rw [readAll, ih, List.map_cons]

theorem htmlAll_eq_map (elements : List Element) : htmlAll elements = elements.map html := by
  induction elements with
  | nil => rfl
  | cons element elements ih => rw [htmlAll, ih, List.map_cons]

end Element

namespace ElementHead

/-- The attributes that stand for other parts of a head. -/
def reservedAttributes (h : ElementHead) : List (String × String) :=
  h.classAttribute ++ h.identityAttributes ++ h.styleAttribute

theorem allAttributes_perm (h : ElementHead) :
    h.allAttributes.Perm (h.reservedAttributes ++ h.attributes) := by
  unfold allAttributes reservedAttributes
  rw [List.append_assoc, List.append_assoc _ h.styleAttribute]
  apply List.Perm.append_left
  exact List.perm_append_comm.trans (List.Perm.append_left _ (sortPairs_perm h.attributes))

theorem mem_allAttributes {h : ElementHead} {pair : String × String} :
    pair ∈ h.allAttributes ↔ pair ∈ h.reservedAttributes ∨ pair ∈ h.attributes := by
  rw [(allAttributes_perm h).mem_iff, List.mem_append]

theorem textAttribute_sublist (name : String) (text : Option String) :
    ((textAttribute name text).map Prod.fst).Sublist [name] := by
  unfold textAttribute
  split
  · split <;> simp
  · simp

theorem classAttribute_sublist (h : ElementHead) :
    (h.classAttribute.map Prod.fst).Sublist ["class"] := by
  unfold classAttribute
  split <;> simp

theorem identityAttributes_sublist (h : ElementHead) :
    (h.identityAttributes.map Prod.fst).Sublist
      ["data-element-id", "data-element-type", "data-element-label"] := by
  unfold identityAttributes
  split
  · simp
  · rw [List.map_append, List.map_append]
    exact ((textAttribute_sublist _ _).append (textAttribute_sublist _ _)).append
      (textAttribute_sublist _ _)

theorem styleAttribute_sublist (h : ElementHead) :
    (h.styleAttribute.map Prod.fst).Sublist ["style"] := by
  unfold styleAttribute
  split <;> simp

theorem reservedAttributes_sublist (h : ElementHead) :
    (h.reservedAttributes.map Prod.fst).Sublist reservedNames := by
  unfold reservedAttributes
  rw [List.map_append, List.map_append]
  exact ((classAttribute_sublist h).append (identityAttributes_sublist h)).append
    (styleAttribute_sublist h)

theorem lower_of_mem_reservedNames {name : String} (h : name ∈ reservedNames) :
    Text.lower name = name := by
  have each : ∀ n ∈ reservedNames, Text.lower n = n := by decide
  exact each name h

theorem isAttributeName_of_mem_reservedNames {name : String} (h : name ∈ reservedNames) :
    Token.isAttributeName name := by
  have each : ∀ n ∈ reservedNames, Token.isAttributeName n = true := by decide
  exact each name h

theorem nodup_allAttributes {h : ElementHead} (writable : h.IsWritable) :
    (h.allAttributes.map fun pair => Text.lower pair.1).Nodup := by
  have names := reservedAttributes_sublist h
  have reserved : (h.reservedAttributes.map fun pair => Text.lower pair.1)
      = h.reservedAttributes.map Prod.fst :=
    List.map_congr_left fun pair mem =>
      lower_of_mem_reservedNames (names.subset (List.mem_map_of_mem mem))
  rw [((allAttributes_perm h).map _).nodup_iff, List.map_append, reserved, List.nodup_append]
  refine ⟨(by decide : reservedNames.Nodup).sublist names, writable.distinct, ?_⟩
  rintro name reservedName other own rfl
  obtain ⟨pair, mem, rfl⟩ := List.mem_map.mp own
  exact (writable.own pair mem).own (names.subset reservedName)

theorem holdsWords_of_mem_reservedNames (tag : String) {name : String} (h : name ∈ reservedNames) :
    Token.holdsWords tag name = false ∨ name = "class" := by
  simp only [reservedNames, List.mem_cons, List.not_mem_nil, or_false] at h
  rcases h with rfl | rfl | rfl | rfl | rfl
  · exact .inr rfl
  all_goals exact .inl (by simp [Token.holdsWords])

theorem keptValue_classes (tag : String) {classes : List String}
    (h : ∀ cls ∈ classes, Text.isWord cls.toList) :
    Token.keptValue tag "class" (" ".intercalate classes) = " ".intercalate classes := by
  have words := Text.wordsOf_intercalate
    (by simpa using h : ∀ word ∈ classes.map String.toList, Text.isWord word)
  have holds : Token.holdsWords tag "class" := by simp [Token.holdsWords]
  rw [Token.keptValue, if_pos holds, Text.words, String.toList_intercalate]
  simp only [String.reduceToList, words, List.map_map]
  simp

/-- The class of a head is the one attribute that holds words. -/
theorem eq_class_of_mem_reserved {h : ElementHead} {pair : String × String}
    (mem : pair ∈ h.reservedAttributes) (name : pair.1 = "class") :
    pair = ("class", " ".intercalate h.classes) := by
  simp only [reservedAttributes, List.mem_append] at mem
  rcases mem with (mem | mem) | mem
  · unfold classAttribute at mem
    split at mem
    · simp at mem
    · simpa using mem
  · have := (identityAttributes_sublist h).subset (List.mem_map_of_mem mem)
    simp [name] at this
  · have := (styleAttribute_sublist h).subset (List.mem_map_of_mem mem)
    simp [name] at this

theorem readAttribute_eq {h : ElementHead} (writable : h.IsWritable) {pair : String × String}
    (mem : pair ∈ h.allAttributes) :
    Token.readAttribute h.tag pair = (Text.lower pair.1, pair.2) := by
  unfold Token.readAttribute
  congr 1
  rcases mem_allAttributes.mp mem with mem | mem
  · have name := (reservedAttributes_sublist h).subset (List.mem_map_of_mem mem)
    rw [lower_of_mem_reservedNames name]
    rcases holdsWords_of_mem_reservedNames h.tag name with plain | cls
    · simp [Token.keptValue, plain]
    · rw [eq_class_of_mem_reserved mem cls]
      exact keptValue_classes h.tag writable.classes
  · simp [Token.keptValue, (writable.own pair mem).plain]

theorem isAttributeName_of_mem {h : ElementHead} (writable : h.IsWritable)
    {pair : String × String} (mem : pair ∈ h.allAttributes) : Token.isAttributeName pair.1 := by
  rcases mem_allAttributes.mp mem with mem | mem
  · exact isAttributeName_of_mem_reservedNames
      ((reservedAttributes_sublist h).subset (List.mem_map_of_mem mem))
  · exact (writable.own pair mem).name

theorem asRead_eq_readTag {h : ElementHead} (writable : h.IsWritable) {tag : Tag}
    (name : tag.name = h.tag) (attributes : tag.attributes = h.allAttributes)
    (form : tag.form = if h.isVoid then .void else .paired) : tag.asRead = h.readTag := by
  have distinct : (tag.attributes.map fun pair => Text.lower pair.1).Nodup := by
    rw [attributes]
    exact nodup_allAttributes writable
  have read : tag.attributes.map (Token.readAttribute tag.name)
      = h.allAttributes.map fun (name, value) => (Text.lower name, value) := by
    rw [attributes, name]
    exact List.map_congr_left fun pair mem => readAttribute_eq writable mem
  rw [Tag.asRead, Token.readBack_eq_map distinct, read, name, form, readTag]
  cases h.isVoid <;> rfl

theorem textHtml_eq (h : ElementHead) : h.textHtml = Html.heldText (h.text.getD "") := by
  unfold textHtml Html.heldText
  cases h.text <;> rfl

end ElementHead

namespace Element

theorem isElement_html (element : Element) : element.html.isElement := by
  cases element with
  | node head children =>
    rw [html]
    split <;> rfl

theorem contains_voidNames_of_isVoid {h : ElementHead} (void : h.isVoid) :
    Html.voidNames.contains h.tag := by
  simp only [ElementHead.isVoid, List.contains_eq_mem, decide_eq_true_eq, List.mem_cons,
    List.not_mem_nil, or_false] at void
  rcases void with void | void | void <;> rw [void] <;> decide

theorem writable_of_mem_heldText {s : String} {html : Html} (mem : html ∈ Html.heldText s) :
    Writable html := by
  unfold Html.heldText at mem
  split at mem
  · simp at mem
  · obtain rfl : html = .text s := by simpa using mem
    exact .text s

/-- The markup of an element can be written and is read as that element. -/
theorem IsWritable.html {element : Element} (h : element.IsWritable) :
    Writable element.html ∧ element.html.asRead = element.read := by
  induction h with
  | node head children names void each ih =>
    have attributes : (head.allAttributes.map Prod.fst).all Token.isAttributeName := by
      simp only [List.all_eq_true, List.mem_map]
      rintro name ⟨pair, mem, rfl⟩
      exact ElementHead.isAttributeName_of_mem names mem
    have tag := names.tag
    by_cases isVoid : head.isVoid
    · obtain ⟨text, rfl⟩ := void isVoid
      rw [if_pos isVoid] at tag
      rw [Element.html, if_pos isVoid]
      refine ⟨Html.writable_void tag (contains_voidNames_of_isVoid isVoid) attributes, ?_⟩
      rw [Html.void, Html.asRead, ElementHead.asRead_eq_readTag names rfl rfl (by simp [isVoid])]
      simp [read, readAll, ElementHead.textHtml, text, Html.asReadAll, Html.heldText]
    · rw [if_neg isVoid] at tag
      rw [Element.html, if_neg isVoid]
      rw [ElementHead.textHtml_eq, htmlAll_eq_map]
      refine ⟨Html.writable_paired tag attributes ?_, ?_⟩
      · intro child mem
        rcases List.mem_append.mp mem with mem | mem
        · exact writable_of_mem_heldText mem
        · obtain ⟨element, inside, rfl⟩ := List.mem_map.mp mem
          exact (ih element inside).1
      · have elements : ∀ html ∈ children.map Element.html, html.isElement := by
          intro html mem
          obtain ⟨element, -, rfl⟩ := List.mem_map.mp mem
          exact isElement_html element
        have same : (children.map Element.html).map Html.asRead = children.map read := by
          rw [List.map_map]
          exact List.map_congr_left fun element mem => (ih element mem).2
        rw [Html.paired, Html.asRead,
          ElementHead.asRead_eq_readTag names rfl rfl (by simp [isVoid]),
          Html.asReadAll_heldText _ elements, same, read, readAll_eq_map, ElementHead.textHtml_eq]

end Element

end Vitae
