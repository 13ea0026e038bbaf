import Vitae.Document.Script
import Vitae.Proofs.Decimal.Digits

/-!
Scripts hold no angle bracket that could end them, whatever channel they are made for.
-/

namespace Vitae

namespace ScriptLine

mutual

/-- The texts a line is made of, without its indentation. -/
def pieces : ScriptLine → List String
  | .blank => []
  | .line text => [text]
  | .block opening body closing => opening :: closing :: piecesAll body

def piecesAll : List ScriptLine → List String
  | [] => []
  | first :: rest => pieces first ++ piecesAll rest

end

theorem lacks_indentation (depth : Nat) : Lacks '<' (indentation depth) := by
  rw [Lacks, indentation, String.toList_ofList, List.mem_replicate]
  rintro ⟨-, same⟩
  exact absurd same (by decide)

mutual

theorem lacks_texts (line : ScriptLine) (h : ∀ piece ∈ line.pieces, Lacks '<' piece) (depth : Nat) :
    ∀ text ∈ line.texts depth, Lacks '<' text := by
  match line with
  | .blank =>
    simp only [texts, List.forall_mem_singleton]
    exact .of_chars rfl rfl
  | .line text =>
    simp only [texts, List.forall_mem_singleton]
    exact (lacks_indentation depth).append (h text (by simp [pieces]))
  | .block opening body closing =>
    have inner := lacks_textsAll body
      (fun piece mem => h piece (by simp [pieces, mem])) (depth + 1)
    have first := ((lacks_indentation depth).append (h opening (by simp [pieces]))).append
      (.of_chars rfl rfl : Lacks '<' "\x7b")
    have last := ((lacks_indentation depth).append (.of_chars rfl rfl : Lacks '<' "\x7d")).append
      (h closing (by simp [pieces]))
    intro text mem
    simp only [texts, List.mem_append, List.mem_cons, List.not_mem_nil, or_false] at mem
    rcases mem with (rfl | mem) | rfl
    · exact first
    · exact inner text mem
    · exact last

theorem lacks_textsAll (lines : List ScriptLine)
    (h : ∀ piece ∈ piecesAll lines, Lacks '<' piece) (depth : Nat) :
    ∀ text ∈ textsAll depth lines, Lacks '<' text := by
  match lines with
  | [] => simp [textsAll]
  | first :: rest =>
    have one := lacks_texts first
      (fun piece mem => h piece (by simp [piecesAll, mem])) depth
    have others := lacks_textsAll rest
      (fun piece mem => h piece (by simp [piecesAll, mem])) depth
    intro text mem
    rw [textsAll, List.mem_append] at mem
    rcases mem with mem | mem
    · exact one text mem
    · exact others text mem

end

end ScriptLine

open ScriptLine (piecesAll pieces)

theorem lacks_scriptOf {body : List ScriptLine} (h : ∀ piece ∈ piecesAll body, Lacks '<' piece) :
    Lacks '<' (scriptOf body) := by
  apply Lacks.intercalate (.of_chars rfl rfl)
  apply ScriptLine.lacks_texts
  intro piece mem
  simp only [pieces, List.mem_cons] at mem
  rcases mem with rfl | rfl | mem
  · exact .of_chars rfl rfl
  · exact .of_chars rfl rfl
  · exact h piece mem

theorem lacks_protectionScript : Lacks '<' protectionScript := by
  apply lacks_scriptOf
  simp only [piecesAll, pieces, List.cons_append, List.nil_append, List.append_nil,
    List.forall_mem_cons, List.not_mem_nil, false_implies, implies_true, and_true,
    Lacks.append_iff]
  and_intros <;> exact .of_chars rfl rfl

namespace Json

theorem not_mem_codeEscape (n : Nat) : '<' ∉ codeEscape n := by
  have digits := Text.not_mem_hexDigits (by decide : ∀ d < 16, Text.lowerHexDigit d ≠ '<') 4
  unfold codeEscape
  split <;> simp [unitEscape, digits]

/-- A value in a script holds no angle bracket, whatever it is. -/
theorem lacks_scriptText (value : Json) : Lacks '<' value.scriptText := by
  rw [Lacks, scriptText, String.toList_ofList, List.mem_flatMap]
  rintro ⟨c, -, mem⟩
  split at mem
  · exact not_mem_codeEscape _ mem
  · next safe =>
    obtain rfl : '<' = c := by simpa using mem
    exact safe (by decide)

end Json

theorem lacks_editScript (channel : Json) (limit : Nat) :
    Lacks '<' (editScript channel (Decimal.natText limit)) := by
  have value := channel.lacks_scriptText
  have numeral := Decimal.lacks_natText (by decide : Decimal.isDecimalDigit '<' = false) limit
  apply lacks_scriptOf
  simp only [piecesAll, pieces, reportSelection, List.cons_append, List.nil_append, List.append_nil,
    List.forall_mem_cons, List.not_mem_nil, false_implies, implies_true, and_true,
    Lacks.append_iff, value, numeral]
  and_intros <;> exact .of_chars rfl rfl

end Vitae
