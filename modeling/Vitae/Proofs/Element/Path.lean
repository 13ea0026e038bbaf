import Vitae.Document.Identity
import Vitae.Proofs.Decimal.Digits
import Vitae.Proofs.Text.Split

/-!
Paths and ids. An id tells the path of its element as long as no piece of a path holds a hyphen, and
by the path what kind of element it is. A list of ids is refused only if one of them stands in it
twice.
-/

namespace Vitae

namespace ElementId

/-- A path that can be told from the id it gives. -/
structure IsPlain (path : List String) : Prop where
  some : path ≠ []
  pieces : ∀ piece ∈ path, Lacks '-' piece

theorem splitChars_ofPath {path : List String} (h : IsPlain path) :
    Text.splitChars '-' (ofPath path).toList = path.map String.toList := by
  have hyphen : "-".toList = ['-'] := rfl
  rw [ofPath, String.toList_intercalate, hyphen]
  apply Text.splitChars_intercalate
  · simpa using h.some
  · intro piece mem
    obtain ⟨s, inside, rfl⟩ := List.mem_map.mp mem
    exact h.pieces s inside

theorem ofPath_injective {path other : List String} (h : IsPlain path) (h' : IsPlain other)
    (same : ofPath path = ofPath other) : path = other := by
  have pieces : path.map String.toList = other.map String.toList := by
    rw [← splitChars_ofPath h, ← splitChars_ofPath h', same]
  exact (List.map_inj_right fun _ _ => String.toList_inj.mp).mp pieces

/-- Only a path of one piece is written without a hyphen. -/
theorem ofPath_ne {first second : String} {rest : List String}
    (plain : IsPlain (first :: second :: rest)) {word : String} (bare : Lacks '-' word) :
    ofPath (first :: second :: rest) ≠ word := by
  intro same
  have pieces := splitChars_ofPath plain
  rw [same, Text.splitChars_of_not_mem bare] at pieces
  simp at pieces

end ElementId

namespace ElementType

open ElementId (IsPlain ofPath splitChars_ofPath)

/-- Outside the sections themselves, the type that an id suggests is told by its pieces. -/
theorem infer_ofPath {first second : String} {rest : List String}
    (plain : IsPlain (first :: second :: rest)) (apart : first ≠ "section") :
    infer (ofPath (first :: second :: rest))
      = inferFromPieces (ofPath (first :: second :: rest)) (first :: second :: rest) := by
  have pieces := splitChars_ofPath plain
  have bare (word : String) (none : word.toList.all (· != '-')) :
      ofPath (first :: second :: rest) ≠ word := by
    apply ElementId.ofPath_ne plain
    simp only [List.all_eq_true, bne_iff_ne] at none
    exact fun mem => none '-' mem rfl
  have section' : "section-".toList.isPrefixOf (ofPath (first :: second :: rest)).toList = false := by
    rw [Bool.eq_false_iff]
    intro isPrefix
    obtain ⟨tail, whole⟩ := List.isPrefixOf_iff_prefix.mp isPrefix
    have begun : "section-".toList ++ tail = "section".toList ++ '-' :: tail := rfl
    rw [← whole, begun, Text.splitChars_append (by decide)] at pieces
    simp only [List.map_cons, List.cons.injEq] at pieces
    exact apart (String.toList_inj.mp pieces.1.symm)
  have words : (Text.splitChars '-' (ofPath (first :: second :: rest)).toList).map String.ofList
      = first :: second :: rest := by
    simp [pieces, Function.comp_def]
  rw [infer, if_neg (bare "header" (by decide)), section', if_neg (by simp),
    if_neg (bare "summary" (by decide)), words]

theorem isNumeral_natText (n : Nat) : isNumeral (Decimal.natText n) := by
  have digits : ∀ d < 10, Text.isDigitLike (Decimal.digitChar d) := by decide
  rw [isNumeral, Bool.and_eq_true, List.all_eq_true]
  refine ⟨by simpa using Decimal.natText_ne_empty n, fun c mem => ?_⟩
  rw [Decimal.natText, String.toList_ofList] at mem
  obtain ⟨d, inside, rfl⟩ := List.mem_map.mp mem
  exact digits d (Decimal.decimalDigits_lt n d inside)

end ElementType

/-- Nothing is repeated in a list whose texts are distinct, and new to what was seen before. -/
theorem firstRepeated?_eq_none {seen texts : List String} (distinct : texts.Nodup)
    (fresh : ∀ s ∈ texts, s ∉ seen) : firstRepeated? seen texts = none := by
  induction texts generalizing seen with
  | nil => rfl
  | cons s texts ih =>
    rw [List.nodup_cons] at distinct
    have unseen : seen.contains s = false := by simpa using fresh s (by simp)
    rw [firstRepeated?, unseen, if_neg (by simp)]
    apply ih distinct.2
    intro t mem
    rw [List.mem_cons, not_or]
    constructor
    · rintro rfl
      exact distinct.1 mem
    · exact fresh t (List.mem_cons_of_mem _ mem)

/-- Only a list whose texts are distinct has nothing repeated. -/
theorem nodup_of_firstRepeated?_eq_none {seen texts : List String}
    (none : firstRepeated? seen texts = none) : texts.Nodup ∧ ∀ s ∈ texts, s ∉ seen := by
  induction texts generalizing seen with
  | nil => simp
  | cons s texts ih =>
    rw [firstRepeated?] at none
    split at none
    · simp at none
    · next unseen =>
      obtain ⟨distinct, fresh⟩ := ih none
      have absent : s ∉ seen := by simpa using unseen
      refine ⟨List.nodup_cons.mpr ⟨fun mem => fresh s mem (by simp), distinct⟩, ?_⟩
      rintro t mem inside
      rcases List.mem_cons.mp mem with rfl | mem
      · exact absent inside
      · exact fresh t mem (by simp [inside])

end Vitae
