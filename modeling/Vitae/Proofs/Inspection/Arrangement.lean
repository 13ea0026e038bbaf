import Vitae.Proofs.Inspection.Canonical

/-!
Trees arranged: attributes in order with the values they are written with, and texts that touch made
one. Canonical text tells exactly how trees are arranged; what is read from it is so arranged, but
for the line feeds behind document types.
-/

namespace Vitae

open Html (canonicalValue canonicalAttributes statesContentType)

/-! Attributes in order -/

namespace Html

theorem inUtf8_cons (starts : Bool) (c : Char) (rest : List Char) : inUtf8 starts (c :: rest)
    = if starts && "charset=".toList.isPrefixOf (c :: rest) then
        "charset=utf-8".toList ++ inUtf8 false ((rest.drop 7).dropWhile (· ≠ ';'))
      else c :: inUtf8 (Text.isBlank c || c = ';') rest := by
  rw [inUtf8]

/-- Where no parameter starts, what is said of a character set is not changed up to the next
parameter. -/
theorem isPrefixOf_inUtf8 {word : List Char}
    (whole : word.all fun c => !(Text.isBlank c || c = ';')) {cs : List Char}
    (h : word.isPrefixOf (inUtf8 false cs)) : word.isPrefixOf cs := by
  induction word generalizing cs with
  | nil => simp
  | cons d word ih =>
    cases cs with
    | nil => simp [inUtf8] at h
    | cons c cs =>
      rw [inUtf8_cons, Bool.false_and, if_neg (by simp), List.isPrefixOf_cons_cons,
        Bool.and_eq_true, beq_iff_eq] at h
      obtain ⟨rfl, later⟩ := h
      rw [List.all_cons, Bool.and_eq_true, Bool.not_eq_true'] at whole
      rw [whole.1] at later
      rw [List.isPrefixOf_cons_cons, beq_self_eq_true, Bool.true_and]
      exact ih whole.2 later

/-- The next parameter is where it was. -/
theorem dropWhile_inUtf8 (cs : List Char) :
    (inUtf8 false (cs.dropWhile (· ≠ ';'))).dropWhile (· ≠ ';')
      = inUtf8 false (cs.dropWhile (· ≠ ';')) := by
  cases behind : cs.dropWhile (· ≠ ';') with
  | nil => simp [inUtf8]
  | cons c rest =>
    have mark : c = ';' := by
      have first := List.head?_dropWhile_not (· ≠ ';') cs
      rw [behind] at first
      simpa using first
    subst mark
    rw [inUtf8_cons, Bool.false_and, if_neg (by simp), List.dropWhile_cons_of_neg (by simp)]

theorem inUtf8_inUtf8 (starts : Bool) (cs : List Char) :
    inUtf8 starts (inUtf8 starts cs) = inUtf8 starts cs := by
  fun_induction inUtf8 starts cs with
  | case1 starts => simp [inUtf8]
  | case2 starts c rest named ih =>
    obtain ⟨rfl, -⟩ := Bool.and_eq_true_iff.mp named
    -- The value written here holds no semicolon, so it is passed over as the old one was.
    have behind := dropWhile_inUtf8 (rest.drop 7)
    generalize inUtf8 false ((rest.drop 7).dropWhile (· ≠ ';')) = later at ih behind
    have value : ((("harset=utf-8".toList ++ later).drop 7).dropWhile (· ≠ ';')) = later := by
      simpa using behind
    have read := inUtf8_cons true 'c' ("harset=utf-8".toList ++ later)
    rw [value, ih] at read
    exact read
  | case3 starts c rest plain ih =>
    rw [inUtf8_cons, if_neg, ih]
    -- A parameter that is found now was there before: its name is inside a word.
    intro named
    obtain ⟨rfl, begins⟩ := Bool.and_eq_true_iff.mp named
    have word : "charset=".toList = 'c' :: "harset=".toList := rfl
    rw [word, List.isPrefixOf_cons_cons, Bool.and_eq_true, beq_iff_eq] at begins
    obtain ⟨rfl, begins⟩ := begins
    have inside : (Text.isBlank 'c' || decide ('c' = ';')) = false := by decide
    rw [inside] at begins
    have before := isPrefixOf_inUtf8 (by decide) begins
    refine plain ?_
    rw [word, List.isPrefixOf_cons_cons, before]
    rfl

end Html

namespace Tag

theorem lookup_map_value (change : String × String → String) (pairs : List (String × String))
    (name : String) : (pairs.map fun pair => (pair.1, change pair)).lookup name
      = (pairs.lookup name).map fun value => change (name, value) := by
  induction pairs with
  | nil => rfl
  | cons pair pairs ih =>
    obtain ⟨key, value⟩ := pair
    rw [List.map_cons, List.lookup_cons, List.lookup_cons, ih]
    cases same : name == key with
    | true => rw [eq_of_beq same]; rfl
    | false => rfl

namespace IsFound

variable {tag : Tag}

/-- An attribute is found in a canonical tag with the value it is written with. -/
theorem lookup_canonical (h : tag.IsFound) (name : String) : tag.canonical.attributes.lookup name
    = (tag.attributes.lookup name).map fun value => canonicalValue tag (name, value) := by
  rw [Tag.canonical, lookup_map_value,
    lookup_eq_of_perm (sortPairs_perm tag.attributes).symm h.attributes.distinct]

theorem statesContentType_canonical (h : tag.IsFound) :
    statesContentType tag.canonical = statesContentType tag := by
  have equiv (value : String) : canonicalValue tag ("http-equiv", value) = value := by
    simp [canonicalValue]
  have kept :
      tag.canonical.attributes.lookup "http-equiv" = tag.attributes.lookup "http-equiv" := by
    simp [h.lookup_canonical, equiv]
  simp only [statesContentType, kept, h.lookup_canonical "charset", Option.isNone_map]
  rfl

theorem canonicalValue_canonicalValue (h : tag.IsFound) (pair : String × String) :
    canonicalValue tag.canonical (pair.1, canonicalValue tag pair) = canonicalValue tag pair := by
  have name : tag.canonical.name = tag.name := rfl
  unfold canonicalValue
  rw [h.statesContentType_canonical, name]
  simp only
  split
  · rfl
  · split
    · rw [String.toList_ofList, Html.inUtf8_inUtf8]
    · rfl

/-- What is canonical stays as it is. -/
theorem canonical_canonical (h : tag.IsFound) : tag.canonical.canonical = tag.canonical := by
  have sorted : sortPairs tag.canonical.attributes = tag.canonical.attributes := by
    refine sortPairs_of_pairwise (List.pairwise_map.mpr ?_)
    exact pairwise_sortPairs tag.attributes
  have values : (tag.canonical.attributes.map fun pair =>
      (pair.1, canonicalValue tag.canonical pair)) = tag.canonical.attributes := by
    conv => rhs; rw [Tag.canonical]
    conv => lhs; arg 2; rw [Tag.canonical]
    rw [List.map_map]
    refine List.map_congr_left fun pair _ => ?_
    exact congrArg (Prod.mk pair.1) (h.canonicalValue_canonicalValue pair)
  rw [Tag.canonical, sorted, values]

theorem canonicalAttributes_canonical (h : tag.IsFound) :
    canonicalAttributes tag.canonical = canonicalAttributes tag := by
  rw [canonicalAttributes_eq, h.canonical_canonical, canonicalAttributes_eq]

end IsFound

end Tag

namespace Html

/-! Lists of trees -/

mutual

theorem tree_induction {p : List Html → Prop} (nil : p [])
    (text : ∀ s rest, p rest → p (.text s :: rest))
    (verbatim : ∀ s rest, p rest → p (.verbatim s :: rest))
    (bracketed : ∀ bracket s rest, p rest → p (.bracketed bracket s :: rest))
    (element : ∀ tag children rest, p children → p rest → p (.element tag children :: rest))
    (html : Html) {rest : List Html} (later : p rest) : p (html :: rest) := by
  match html with
  | .text s => exact text s rest later
  | .verbatim s => exact verbatim s rest later
  | .bracketed bracket s => exact bracketed bracket s rest later
  | .element tag children =>
    exact element tag children rest
      (forest_induction nil text verbatim bracketed element children) later

/-- What holds of a list of trees if it holds of what follows the first one and of the children of
that one. -/
theorem forest_induction {p : List Html → Prop} (nil : p [])
    (text : ∀ s rest, p rest → p (.text s :: rest))
    (verbatim : ∀ s rest, p rest → p (.verbatim s :: rest))
    (bracketed : ∀ bracket s rest, p rest → p (.bracketed bracket s :: rest))
    (element : ∀ tag children rest, p children → p rest → p (.element tag children :: rest))
    (htmls : List Html) : p htmls := by
  match htmls with
  | [] => exact nil
  | html :: rest =>
    exact tree_induction nil text verbatim bracketed element html
      (forest_induction nil text verbatim bracketed element rest)

end

/-- The same where all that is no element is alike. -/
theorem leaf_induction {p : List Html → Prop} (nil : p [])
    (leaf : ∀ html rest, html.isElement = false → p rest → p (html :: rest))
    (element : ∀ tag children rest, p children → p rest → p (.element tag children :: rest))
    (htmls : List Html) : p htmls :=
  forest_induction nil (fun _ _ => leaf _ _ rfl) (fun _ _ => leaf _ _ rfl)
    (fun _ _ _ => leaf _ _ rfl) element htmls

mutual

/-- The tags of a tree in document order. -/
def tags : Html → List Tag
  | .element tag children => tag :: tagsAll children
  | _ => []

def tagsAll : List Html → List Tag
  | [] => []
  | html :: rest => tags html ++ tagsAll rest

end

theorem mem_tagsAll {tag : Tag} {htmls : List Html} :
    tag ∈ tagsAll htmls ↔ ∃ html ∈ htmls, tag ∈ html.tags := by
  induction htmls with
  | nil => simp [tagsAll]
  | cons html htmls ih => simp [tagsAll, ih]

theorem IsFound.tags {preformatted : Bool} {html : Html} (h : html.IsFound preformatted) :
    ∀ tag ∈ html.tags, tag.IsFound := by
  induction h with
  | text preformatted s => simp [Html.tags]
  | bracketed preformatted bracket s begun alone => simp [Html.tags]
  | void preformatted tag found form known => simpa [Html.tags, tagsAll] using found
  | hollow preformatted tag found form raw => simpa [Html.tags, tagsAll] using found
  | raw preformatted tag s found form raw begun fills => simpa [Html.tags, tagsAll] using found
  | paired preformatted tag children found form known notRaw each ih =>
    intro own mem
    rcases List.mem_cons.mp mem with rfl | mem
    · exact found
    · obtain ⟨child, inside, mem⟩ := mem_tagsAll.mp mem
      exact ih child inside own mem

/-- Lists of trees whose tags are as a reader finds them. -/
def AreTagged (htmls : List Html) : Prop := ∀ tag ∈ tagsAll htmls, tag.IsFound

theorem areTagged_of_isFound {preformatted : Bool} {htmls : List Html}
    (found : ∀ html ∈ htmls, html.IsFound preformatted) : AreTagged htmls := by
  intro tag mem
  obtain ⟨html, inside, mem⟩ := mem_tagsAll.mp mem
  exact (found html inside).tags tag mem

theorem AreTagged.tail {html : Html} {rest : List Html} (h : AreTagged (html :: rest)) :
    AreTagged rest :=
  fun tag mem => h tag (List.mem_append_right _ mem)

theorem AreTagged.head {tag : Tag} {children rest : List Html}
    (h : AreTagged (.element tag children :: rest)) : tag.IsFound :=
  h tag (List.mem_append_left _ List.mem_cons_self)

theorem AreTagged.children {tag : Tag} {children rest : List Html}
    (h : AreTagged (.element tag children :: rest)) : AreTagged children :=
  fun tag mem => h tag (List.mem_append_left _ (List.mem_cons_of_mem _ mem))

/-! Arranged trees -/

mutual

/-- A tree with its attributes in order, as they are written, and with texts that touch made one. -/
def arranged : Html → Html
  | .element tag children => .element tag.canonical (arrangedAll "" children)
  | html => html

/-- The trees behind some text. -/
def arrangedAll (held : String) : List Html → List Html
  | [] => heldText held
  | .text s :: rest => arrangedAll (held ++ s) rest
  | html :: rest => heldText held ++ arranged html :: arrangedAll "" rest

end

theorem canonicalAll_append (htmls others : List Html) :
    canonicalAll (htmls ++ others) = canonicalAll htmls ++ canonicalAll others := by
  induction htmls with
  | nil => rfl
  | cons html htmls ih => simp only [List.cons_append, canonicalAll, ih, List.append_assoc]

theorem canonicalAll_heldText (held : String) :
    canonicalAll (heldText held) = held.toList.flatMap escapeText := by
  unfold heldText
  split
  · next none => simp [String.isEmpty_iff.mp none, canonicalAll]
  · simp [canonicalAll, canonical]

/-- Canonical text tells no more than an arranged tree does. -/
theorem canonicalAll_arrangedAll (held : String) {htmls : List Html} (tagged : AreTagged htmls) :
    canonicalAll (arrangedAll held htmls)
      = held.toList.flatMap escapeText ++ canonicalAll htmls := by
  induction htmls using forest_induction generalizing held with
  | nil => simp [arrangedAll, canonicalAll_heldText, canonicalAll]
  | text s rest later =>
    rw [arrangedAll, later _ tagged.tail, canonicalAll, canonical]
    simp
  | verbatim s rest later =>
    simp [arrangedAll, arranged, canonicalAll_append, canonicalAll_heldText, canonicalAll,
      later "" tagged.tail]
  | bracketed bracket s rest later =>
    simp [arrangedAll, arranged, canonicalAll_append, canonicalAll_heldText, canonicalAll,
      later "" tagged.tail]
  | element tag children rest inside later =>
    have own : canonical (.element tag.canonical (arrangedAll "" children))
        = canonical (.element tag children) := by
      rw [canonical, canonical, tagged.head.canonicalAttributes_canonical,
        inside "" tagged.children]
      rfl
    simp [arrangedAll, arranged, canonicalAll_append, canonicalAll_heldText, canonicalAll, own,
      later "" tagged.tail]

/-! Trees read from canonical text -/

/-- What is written behind a document type, and nowhere else. -/
def feed (behind : Bool) : String := if behind then "\n" else ""

theorem feed_false (held : String) : feed false ++ held = held := String.empty_append

/-- The trees that a reader of canonical text finds behind some text. -/
def readAll (held : String) (htmls : List Html) : List Html := asReadAll held (spelledAll htmls)

theorem readAll_text (held s : String) (rest : List Html) :
    readAll held (.text s :: rest) = readAll (held ++ s) rest := rfl

theorem readAll_verbatim (held s : String) (rest : List Html) :
    readAll held (.verbatim s :: rest) = heldText held ++ .verbatim s :: readAll "" rest := rfl

theorem readAll_bracketed (held : String) (bracket : Bracket) (s : String) (rest : List Html) :
    readAll held (.bracketed bracket s :: rest)
      = heldText held ++ .bracketed bracket s :: readAll (feed (bracket == .doctype)) rest := by
  cases bracket <;> rfl

theorem readAll_element (held : String) {tag : Tag} (found : tag.IsFound)
    (children rest : List Html) : readAll held (.element tag children :: rest)
      = heldText held ++ .element tag.canonical (readAll "" children) :: readAll "" rest := by
  have same : tag.canonical.asRead = tag.canonical := found.canonical.isKept.asRead_eq
  simp only [readAll, spelledAll, spelled, List.singleton_append, asReadAll, asRead, same]

mutual

/-- A tree with a line feed behind each of its document types. -/
def fed : Html → Html
  | .element tag children => .element tag (fedAll false children)
  | html => html

/-- The trees of a list, behind a document type or not. The line feed joins the text that stands
there. -/
def fedAll (behind : Bool) : List Html → List Html
  | [] => heldText (feed behind)
  | .text s :: rest => .text (feed behind ++ s) :: fedAll false rest
  | .bracketed bracket s :: rest =>
    heldText (feed behind) ++ .bracketed bracket s :: fedAll (bracket == .doctype) rest
  | html :: rest => heldText (feed behind) ++ fed html :: fedAll false rest

end

/-- What is held back takes the line feed. -/
theorem fedAll_heldText (behind : Bool) (held : String) (rest : List Html)
    (apart : fedAll behind rest = heldText (feed behind) ++ fedAll false rest) :
    fedAll behind (heldText held ++ rest)
      = heldText (feed behind ++ held) ++ fedAll false rest := by
  by_cases none : held.isEmpty
  · obtain rfl := String.isEmpty_iff.mp none
    rw [String.append_empty, ← apart]
    rfl
  · have begun : held ≠ "" := by simpa using none
    have text : heldText (feed behind ++ held) = [.text (feed behind ++ held)] := by
      simp [heldText, begun]
    rw [text, heldText, if_neg none, List.singleton_append, fedAll]
    rfl

/-- Reading canonical text gives the arranged trees with a line feed behind each document type. -/
theorem readAll_eq_fedAll (behind : Bool) (held : String) {htmls : List Html}
    (tagged : AreTagged htmls) :
    readAll (feed behind ++ held) htmls = fedAll behind (arrangedAll held htmls) := by
  induction htmls using forest_induction generalizing behind held with
  | nil =>
    have alone := fedAll_heldText behind held [] (List.append_nil _).symm
    rw [List.append_nil] at alone
    rw [arrangedAll, alone]
    exact (List.append_nil _).symm
  | text s rest later =>
    rw [readAll_text, String.append_assoc, later _ _ tagged.tail, arrangedAll]
  | verbatim s rest later =>
    have later := later false "" tagged.tail
    rw [feed_false] at later
    simp only [arrangedAll, arranged]
    rw [readAll_verbatim, later, fedAll_heldText behind held _ rfl]
    rfl
  | bracketed bracket s rest later =>
    have later := later (bracket == .doctype) "" tagged.tail
    rw [String.append_empty] at later
    simp only [arrangedAll, arranged]
    rw [readAll_bracketed, later, fedAll_heldText behind held _ rfl]
    rfl
  | element tag children rest inside later =>
    have inside := inside false "" tagged.children
    have later := later false "" tagged.tail
    rw [feed_false] at inside later
    simp only [arrangedAll, arranged]
    rw [readAll_element _ tagged.head, inside, later, fedAll_heldText behind held _ rfl]
    rfl

mutual

/-- A tree without the line feeds behind its document types. -/
def unfed : Html → Html
  | .element tag children => .element tag (unfedAll false children)
  | html => html

/-- The trees of a list, behind a document type or not. -/
def unfedAll (behind : Bool) : List Html → List Html
  | [] => []
  | .text s :: rest =>
    heldText (String.ofList (if behind then s.toList.tail else s.toList)) ++ unfedAll false rest
  | .bracketed bracket s :: rest => .bracketed bracket s :: unfedAll (bracket == .doctype) rest
  | html :: rest => unfed html :: unfedAll false rest

end

theorem unfedAll_heldText (behind : Bool) (held : String) (rest : List Html) :
    unfedAll behind (heldText (feed behind ++ held) ++ rest)
      = heldText held ++ unfedAll false rest := by
  cases behind with
  | true =>
    have text : heldText (feed true ++ held) = [.text ("\n" ++ held)] := by
      simp [heldText, feed]
    rw [text, List.singleton_append, unfedAll]
    simp
  | false =>
    rw [feed_false]
    by_cases none : held.isEmpty
    · simp [heldText, none]
    · simp [heldText, none, unfedAll]

/-- Without the line feeds behind document types, the trees of canonical text are the arranged
ones. -/
theorem unfedAll_readAll (behind : Bool) (held : String) {htmls : List Html}
    (tagged : AreTagged htmls) :
    unfedAll behind (readAll (feed behind ++ held) htmls) = arrangedAll held htmls := by
  induction htmls using forest_induction generalizing behind held with
  | nil =>
    have alone := unfedAll_heldText behind held []
    rw [List.append_nil] at alone
    simpa [readAll, spelledAll, asReadAll, arrangedAll, unfedAll] using alone
  | text s rest later =>
    rw [readAll_text, String.append_assoc, later _ _ tagged.tail, arrangedAll]
  | verbatim s rest later =>
    have later := later false "" tagged.tail
    rw [feed_false] at later
    rw [readAll_verbatim, unfedAll_heldText]
    simp only [unfedAll, unfed, arrangedAll, arranged, later]
  | bracketed bracket s rest later =>
    have later := later (bracket == .doctype) "" tagged.tail
    rw [String.append_empty] at later
    rw [readAll_bracketed, unfedAll_heldText]
    simp only [unfedAll, arrangedAll, arranged, later]
  | element tag children rest inside later =>
    have inside := inside false "" tagged.children
    have later := later false "" tagged.tail
    rw [feed_false] at inside later
    rw [readAll_element _ tagged.head, unfedAll_heldText]
    simp only [unfedAll, unfed, arrangedAll, arranged, inside, later]

end Html

end Vitae
