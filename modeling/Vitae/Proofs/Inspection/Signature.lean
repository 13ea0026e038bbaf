import Vitae.Proofs.Inspection
import Vitae.Proofs.Inspection.Arrangement

/-!
Signatures against trees. Two documents have one signature exactly if their layouts are arranged
alike, and reading a signature gives that arrangement back.
-/

namespace Vitae

open Html (canonicalValue)

namespace Html

/-! Parts that are left out -/

mutual

/-- Whether a tree has no part of a kind. -/
def lacks (unwanted : Html → Bool) : Html → Bool
  | .element tag children => !unwanted (.element tag children) && lacksAll unwanted children
  | html => !unwanted html

def lacksAll (unwanted : Html → Bool) : List Html → Bool
  | [] => true
  | html :: rest => lacks unwanted html && lacksAll unwanted rest

end

theorem lacksAll_append (unwanted : Html → Bool) (htmls others : List Html) :
    lacksAll unwanted (htmls ++ others)
      = (lacksAll unwanted htmls && lacksAll unwanted others) := by
  induction htmls with
  | nil => rfl
  | cons html htmls ih => rw [List.cons_append, lacksAll, ih, lacksAll, Bool.and_assoc]

/-- A kind that a part belongs to whatever is inside it. -/
def IsShallow (unwanted : Html → Bool) : Prop :=
  ∀ tag children others, unwanted (.element tag children) = unwanted (.element tag others)

theorem isShallow_isModeLayer : IsShallow isModeLayer := fun _ _ _ => rfl

theorem isShallow_isBlank : IsShallow isBlank := fun _ _ _ => rfl

variable {unwanted : Html → Bool}

theorem lacks_of_leaf {html : Html} (leaf : html.isElement = false) :
    lacks unwanted html = !unwanted html := by
  cases html <;> first | rfl | cases leaf

theorem without_of_leaf {html : Html} (leaf : html.isElement = false) :
    without unwanted html = html := by
  cases html <;> first | rfl | cases leaf

theorem lacksAll_withoutAll (shallow : IsShallow unwanted) (htmls : List Html) :
    lacksAll unwanted (withoutAll unwanted htmls) := by
  induction htmls using leaf_induction with
  | nil => rfl
  | leaf html rest leaf later =>
    rw [withoutAll]
    split
    · exact later
    · next wanted => simp [lacksAll, without_of_leaf leaf, lacks_of_leaf leaf, wanted, later]
  | element tag children rest inside later =>
    rw [withoutAll]
    split
    · exact later
    · next wanted =>
      rw [shallow tag children (withoutAll unwanted children)] at wanted
      simp [lacksAll, without, lacks, wanted, inside, later]

theorem lacksAll_of_lacksAll (shallow : IsShallow unwanted) (others : Html → Bool)
    {htmls : List Html} (h : lacksAll unwanted htmls) :
    lacksAll unwanted (withoutAll others htmls) := by
  induction htmls using leaf_induction with
  | nil => rfl
  | leaf html rest leaf later =>
    simp only [lacksAll, Bool.and_eq_true] at h
    rw [withoutAll]
    split
    · exact later h.2
    · simp [lacksAll, without_of_leaf leaf, h.1, later h.2]
  | element tag children rest inside later =>
    simp only [lacksAll, lacks, Bool.and_eq_true] at h
    rw [withoutAll]
    split
    · exact later h.2
    · rw [shallow tag children (withoutAll others children)] at h
      simp only [lacksAll, without, lacks, h.1.1, inside h.1.2, later h.2]
      rfl

theorem withoutAll_of_lacksAll {htmls : List Html} (h : lacksAll unwanted htmls) :
    withoutAll unwanted htmls = htmls := by
  induction htmls using leaf_induction with
  | nil => rfl
  | leaf html rest leaf later =>
    simp only [lacksAll, lacks_of_leaf leaf, Bool.and_eq_true, Bool.not_eq_true'] at h
    simp [withoutAll, without_of_leaf leaf, h.1, later h.2]
  | element tag children rest inside later =>
    simp only [lacksAll, lacks, Bool.and_eq_true, Bool.not_eq_true'] at h
    simp [withoutAll, without, h.1.1, inside h.1.2, later h.2]

/-! Mode layers -/

theorem isModeLayer_canonical {tag : Tag} (found : tag.IsFound) (children others : List Html) :
    isModeLayer (.element tag.canonical children) = isModeLayer (.element tag others) := by
  have id (value : String) : canonicalValue tag ("id", value) = value := by simp [canonicalValue]
  have own : tag.canonical.attributes.lookup "id" = tag.attributes.lookup "id" := by
    simp [found.lookup_canonical, id]
  simp only [isModeLayer, isNamed, attribute?, own, found.lookup_canonical "data-protection",
    Option.isSome_map]
  rfl

theorem lacksAll_heldText (held : String) : lacksAll isModeLayer (heldText held) := by
  unfold heldText
  split <;> rfl

/-- No mode layer comes of reading canonical text. -/
theorem lacksAll_readAll (held : String) {htmls : List Html} (tagged : AreTagged htmls)
    (h : lacksAll isModeLayer htmls) : lacksAll isModeLayer (readAll held htmls) := by
  induction htmls using forest_induction generalizing held with
  | nil => exact lacksAll_heldText held
  | text s rest later =>
    simp only [lacksAll, Bool.and_eq_true] at h
    exact later _ tagged.tail h.2
  | verbatim s rest later =>
    simp only [lacksAll, Bool.and_eq_true] at h
    rw [readAll_verbatim, lacksAll_append, lacksAll_heldText, lacksAll, later _ tagged.tail h.2]
    simp [h.1]
  | bracketed bracket s rest later =>
    simp only [lacksAll, Bool.and_eq_true] at h
    rw [readAll_bracketed, lacksAll_append, lacksAll_heldText, lacksAll, later _ tagged.tail h.2]
    simp [h.1]
  | element tag children rest inside later =>
    simp only [lacksAll, lacks, Bool.and_eq_true] at h
    rw [readAll_element _ tagged.head, lacksAll_append, lacksAll_heldText, lacksAll, lacks,
      isModeLayer_canonical tagged.head _ children, later _ tagged.tail h.2,
      inside _ tagged.children h.1.2, h.1.1]
    rfl

/-! White space -/

mutual

/-- Whether no text stands directly behind a document type. -/
def isParted : Html → Bool
  | .element _ children => areParted false children
  | _ => true

def areParted (behind : Bool) : List Html → Bool
  | [] => true
  | .text _ :: rest => !behind && areParted false rest
  | .bracketed bracket _ :: rest => areParted (bracket == .doctype) rest
  | html :: rest => isParted html && areParted false rest

end

theorem isBlank_append {s t : String} (h : isBlank (.text s) = false)
    (h' : isBlank (.text t) = false) : isBlank (.text (s ++ t)) = false := by
  simp only [isBlank, Text.isBlankText, String.toList_append, List.all_append,
    Bool.and_eq_false_iff, Bool.not_eq_false', String.isEmpty_iff] at h h' ⊢
  rcases h with rfl | some
  · simpa using h'
  · exact .inr (.inl some)

/-- Of what is held back, the line feed alone is white space. -/
theorem withoutAll_heldText {behind : Bool} {held : String} (parted : behind → held = "")
    (solid : isBlank (.text held) = false) (rest : List Html) :
    withoutAll isBlank (heldText (feed behind ++ held) ++ rest)
      = heldText held ++ withoutAll isBlank rest := by
  cases behind with
  | true =>
    obtain rfl := parted rfl
    have blank : isBlank (.text "\n") := by decide
    have text : heldText (feed true ++ "") = [.text "\n"] := by simp [heldText, feed]
    rw [text, List.singleton_append, withoutAll, if_pos blank]
    rfl
  | false =>
    rw [feed_false]
    by_cases none : held.isEmpty
    · simp [heldText, none]
    · simp [heldText, none, withoutAll, solid, without]

/-- Without white space, the trees of canonical text are the arranged ones, if no text stands
directly behind a document type. -/
theorem withoutAll_readAll (behind : Bool) (held : String) {htmls : List Html}
    (tagged : AreTagged htmls) (full : lacksAll isBlank htmls) (parted : areParted behind htmls)
    (start : behind → held = "") (solid : isBlank (.text held) = false) :
    withoutAll isBlank (readAll (feed behind ++ held) htmls) = arrangedAll held htmls := by
  -- What is held back is never white space: its parts are not, and nothing is held back behind a
  -- document type.
  induction htmls using forest_induction generalizing behind held with
  | nil =>
    have alone := withoutAll_heldText start solid []
    rw [List.append_nil] at alone
    simpa [readAll, spelledAll, asReadAll, arrangedAll, withoutAll] using alone
  | text s rest later =>
    simp only [lacksAll, lacks, Bool.and_eq_true, Bool.not_eq_true'] at full
    simp only [areParted, Bool.and_eq_true, Bool.not_eq_true'] at parted
    obtain ⟨rfl, parted⟩ := parted
    rw [readAll_text, String.append_assoc, arrangedAll]
    exact later false _ tagged.tail full.2 parted (by simp) (isBlank_append solid full.1)
  | verbatim s rest later =>
    simp only [lacksAll, lacks, Bool.and_eq_true, Bool.not_eq_true'] at full
    simp only [areParted, isParted, Bool.true_and] at parted
    have later := later false "" tagged.tail full.2 parted (by simp) rfl
    rw [feed_false] at later
    rw [readAll_verbatim, withoutAll_heldText start solid]
    simp [withoutAll, full.1, without, arrangedAll, arranged, later]
  | bracketed bracket s rest later =>
    simp only [lacksAll, lacks, Bool.and_eq_true, Bool.not_eq_true'] at full
    simp only [areParted] at parted
    have later := later _ "" tagged.tail full.2 parted (fun _ => rfl) rfl
    rw [String.append_empty] at later
    rw [readAll_bracketed, withoutAll_heldText start solid]
    simp [withoutAll, full.1, without, arrangedAll, arranged, later]
  | element tag children rest inside later =>
    simp only [lacksAll, lacks, Bool.and_eq_true, Bool.not_eq_true'] at full
    simp only [areParted, isParted, Bool.and_eq_true] at parted
    have inside := inside false "" tagged.children full.1.2 parted.1 (by simp) rfl
    have later := later false "" tagged.tail full.2 parted.2 (by simp) rfl
    rw [feed_false] at inside later
    rw [readAll_element _ tagged.head, withoutAll_heldText start solid]
    simp [withoutAll, isBlank, without, arrangedAll, arranged, inside, later]

/-! Documents -/

theorem IsFound.of_mem_withoutAll {preformatted : Bool} {htmls : List Html}
    (each : ∀ html ∈ htmls, (html.without unwanted).IsFound preformatted) :
    ∀ html ∈ withoutAll unwanted htmls, html.IsFound preformatted := by
  intro html mem
  obtain ⟨other, inside, rfl⟩ := exists_of_mem_withoutAll mem
  exact each other inside

theorem IsFound.without {preformatted : Bool} {html : Html} (h : html.IsFound preformatted)
    (unwanted : Html → Bool) : (html.without unwanted).IsFound preformatted := by
  induction h with
  | text preformatted s => exact .text preformatted s
  | bracketed preformatted bracket s begun alone =>
    exact .bracketed preformatted bracket s begun alone
  | void preformatted tag found form known => exact .void preformatted tag found form known
  | hollow preformatted tag found form raw => exact .hollow preformatted tag found form raw
  | raw preformatted tag s found form raw begun fills =>
    rw [Html.without, withoutAll]
    split
    · exact .hollow preformatted tag found form raw
    · exact .raw preformatted tag s found form raw begun fills
  | paired preformatted tag children found form known notRaw each ih =>
    exact .paired preformatted tag _ found form known notRaw (of_mem_withoutAll ih)

end Html

namespace Inspection

/-- What a signature is the canonical text of. -/
def stripped (document : String) : List Html := Html.withoutAll Html.isBlank (layout document)

theorem signature_eq (document : String) :
    signature document = String.ofList (Html.canonicalAll (stripped document)) := rfl

/-- The tree of a document's layout: without what its mode adds and without white space between
elements, with attributes in order and with texts that touch made one. -/
def layoutTree (document : String) : List Html := Html.arrangedAll "" (stripped document)

theorem isFound_of_mem_stripped {document : String} {html : Html}
    (mem : html ∈ stripped document) : html.IsFound false := by
  refine Html.IsFound.of_mem_withoutAll (fun html mem => ?_) html mem
  refine (Html.IsFound.of_mem_withoutAll (fun html mem => ?_) html mem).without _
  exact (Html.isFound_of_mem_parse mem).without _

theorem areTagged_stripped (document : String) : Html.AreTagged (stripped document) :=
  Html.areTagged_of_isFound fun _ => isFound_of_mem_stripped

theorem lacksAll_isBlank_stripped (document : String) :
    Html.lacksAll Html.isBlank (stripped document) :=
  Html.lacksAll_withoutAll Html.isShallow_isBlank _

theorem lacksAll_isModeLayer_stripped (document : String) :
    Html.lacksAll Html.isModeLayer (stripped document) :=
  Html.lacksAll_of_lacksAll Html.isShallow_isModeLayer _
    (Html.lacksAll_withoutAll Html.isShallow_isModeLayer _)

variable {document : String}

theorem parse_signature (standard : Html.areStandard (stripped document)) :
    Html.parse (signature document).toList = Html.readAll "" (stripped document) := by
  rw [signature_eq, String.toList_ofList]
  exact (Html.parse_canonicalAll (fun _ => isFound_of_mem_stripped) standard).2

theorem check_signature (standard : Html.areStandard (stripped document)) :
    check (signature document) = .ok () := by
  have known := (Html.parse_canonicalAll (fun _ => isFound_of_mem_stripped) standard).1
  rw [check, signature_eq, String.toList_ofList, known]
  rfl

theorem parse_signature_eq_fedAll (standard : Html.areStandard (stripped document)) :
    Html.parse (signature document).toList = Html.fedAll false (layoutTree document) := by
  rw [parse_signature standard]
  exact Html.readAll_eq_fedAll false "" (areTagged_stripped document)

theorem unfedAll_parse_signature (standard : Html.areStandard (stripped document)) :
    Html.unfedAll false (Html.parse (signature document).toList) = layoutTree document := by
  rw [parse_signature standard]
  exact Html.unfedAll_readAll false "" (areTagged_stripped document)

theorem withoutAll_parse_signature (standard : Html.areStandard (stripped document))
    (parted : Html.areParted false (stripped document)) :
    Html.withoutAll Html.isBlank (Html.parse (signature document).toList)
      = layoutTree document := by
  rw [parse_signature standard]
  exact Html.withoutAll_readAll false "" (areTagged_stripped document)
    (lacksAll_isBlank_stripped document) parted (by simp) rfl

theorem canonicalAll_layoutTree (document : String) :
    String.ofList (Html.canonicalAll (layoutTree document)) = signature document := by
  have chars := Html.canonicalAll_arrangedAll "" (areTagged_stripped document)
  rw [String.toList_empty, List.flatMap_nil, List.nil_append] at chars
  rw [layoutTree, chars, signature_eq]

theorem signature_signature (standard : Html.areStandard (stripped document))
    (parted : Html.areParted false (stripped document)) :
    signature (signature document) = signature document := by
  have layer := Html.lacksAll_readAll "" (areTagged_stripped document)
    (lacksAll_isModeLayer_stripped document)
  rw [← parse_signature standard] at layer
  rw [signature, layout, Html.withoutAll_of_lacksAll layer,
    withoutAll_parse_signature standard parted, canonicalAll_layoutTree]

theorem signature_eq_iff {document other : String}
    (standard : Html.areStandard (stripped document))
    (standard' : Html.areStandard (stripped other)) :
    signature document = signature other ↔ layoutTree document = layoutTree other := by
  constructor
  -- A tree is read from its signature, and a signature is written from its tree.
  · intro same
    rw [← unfedAll_parse_signature standard, same, unfedAll_parse_signature standard']
  · intro same
    rw [← canonicalAll_layoutTree, same, canonicalAll_layoutTree]

/-- In standard hypertext the signature is a canonical form of the layout. Reading it gives the tree
of the layout with a line feed behind each document type, and two documents look alike exactly if
they have one tree. Where no text stands directly behind a document type, that line feed is white
space between elements, and a signature is its own signature. -/
theorem signature_isCanonical (document other : String)
    (standard : Html.areStandard (stripped document))
    (standard' : Html.areStandard (stripped other)) :
    check (signature document) = .ok ()
      ∧ Html.parse (signature document).toList = Html.fedAll false (layoutTree document)
      ∧ (Html.areParted false (stripped document) →
        Html.withoutAll Html.isBlank (Html.parse (signature document).toList) = layoutTree document
          ∧ signature (signature document) = signature document)
      ∧ (sameLayout document other ↔ layoutTree document = layoutTree other) := by
  refine ⟨check_signature standard, parse_signature_eq_fedAll standard, fun parted => ?_, ?_⟩
  · exact ⟨withoutAll_parse_signature standard parted, signature_signature standard parted⟩
  · rw [sameLayout, beq_iff_eq]
    exact signature_eq_iff standard standard'

/-- A document with a script between two texts, and one that is written otherwise without it. -/
theorem signature_isCanonical_written :
    let document := "<!DOCTYPE html>\n<p class='a  b'>1 &gt; <script>2</script>0<br></p>"
    let other := "<!DOCTYPE html><P class=\"a b\">1 > 0<br/></P>\n"
    Html.areStandard (stripped document) ∧ Html.areStandard (stripped other)
      ∧ Html.areParted false (stripped document)
      ∧ layoutTree document = layoutTree other
      ∧ signature (signature document) = signature document := by
  intro document other
  have standard : Html.areStandard (stripped document) := by decide +kernel
  have standard' : Html.areStandard (stripped other) := by decide +kernel
  have parted : Html.areParted false (stripped document) := by decide +kernel
  have alike : sameLayout document other := by decide +kernel
  obtain ⟨-, -, whole, same⟩ := signature_isCanonical document other standard standard'
  exact ⟨standard, standard', parted, same.mp alike, (whole parted).2⟩

/-- What a signature does not tell is in which letters the character set is named, and whether there
is a comment of white space. A line feed is written between a document type and the text behind it,
each time anew. What is no standard hypertext is read otherwise than it was written: a conditional
section as an instruction, and the end of an element without the white space of its name. -/
theorem signature_forgets :
    sameLayout "<!DOCTYPE html><meta charset='UTF-8'><title>x</title>"
        "<!DOCTYPE html><meta charset='utf-8'><title>x</title>"
      ∧ Html.attributeValuesAll "charset"
        (stripped "<!DOCTYPE html><meta charset='UTF-8'><title>x</title>") = ["UTF-8"]
      ∧ Html.attributeValuesAll "charset"
        (stripped "<!DOCTYPE html><meta charset='utf-8'><title>x</title>") = ["utf-8"]
      ∧ signature "<p>x<!-- --></p>" = "<p>x</p>"
      ∧ (signature "<!DOCTYPE html>x" = "<!DOCTYPE html>\nx"
        ∧ signature "<!DOCTYPE html>\nx" = "<!DOCTYPE html>\n\nx")
      ∧ (signature "<![if x>y]>z" = "<?if x>y?>z"
        ∧ signature "<?if x>y?>z" = "<?if x>y?&gt;z")
      ∧ signature "<a\u00a0>x</a\u00a0 y>z" = "<a\u00a0>x</a\u00a0>z"
      ∧ signature "<a\u00a0>x</a\u00a0>z" = "<a\u00a0>xz</a\u00a0>" := by
  refine ⟨?_, ?_, ?_, ?_, ⟨?_, ?_⟩, ⟨?_, ?_⟩, ?_, ?_⟩
  all_goals decide +kernel

end Inspection

end Vitae
