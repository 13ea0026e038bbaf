import Vitae.Proofs.Json.Reading
import Vitae.Proofs.Source.Loading
import Vitae.Proofs.Text.Utf8

/-!
What a file on this machine is loaded as. Bytes that are no text, whole numbers that are too long
and values that are nested too deeply are the only faults in a file that are not reported. A text in
which half of a surrogate pair stands alone is not loaded, as no value here has room for it.
-/

namespace Vitae

namespace Source

open Json (HasLoneHalf HasLongNumber IsDocument IsJson nestingLimit openers readChars)
open Text.Utf8 (Bytes encode decode? decode?_eq_some_iff unifyLineEnds)

variable {source : String} {world : World} {text : List Char} {bytes : Bytes} {v : Json}
  {fault : Fault}

theorem parse_eq_ok_iff :
    parse source text = .ok v ↔ IsDocument .reader nestingLimit text v := by
  rw [← Json.readChars_eq_ok_iff, parse]
  cases readChars text with
  | ok value =>
    exact ⟨fun same => congrArg _ (Except.ok.inj same), fun same => congrArg _ (Except.ok.inj same)⟩
  | error e =>
    refine ⟨fun same => ?_, fun same => by cases same⟩
    dsimp only at same
    split at same <;> cases same

/-- Why a text is not loaded. -/
theorem parse_faults (refused : parse source text = .error fault) :
    (∃ reason, fault = .source (.notJson source reason)) ∧ ¬ IsJson text
      ∨ fault = .misuse .badValue ∧ HasLongNumber text
      ∨ fault = .misuse .tooDeep ∧ nestingLimit < openers text
      ∨ fault = .misuse .loneSurrogate ∧ HasLoneHalf text := by
  rw [parse] at refused
  cases read : readChars text with
  | ok value =>
    rw [read] at refused
    cases refused
  | error e =>
    have excuse := Json.excused_of_readChars read
    rw [read] at refused
    dsimp only at refused
    split at refused
    · next long =>
      cases refused
      exact .inr (.inl ⟨rfl, excuse.digits long⟩)
    · next deep =>
      cases refused
      exact .inr (.inr (.inl ⟨rfl, excuse.nesting deep⟩))
    · next halved =>
      cases refused
      exact .inr (.inr (.inr ⟨rfl, excuse.halves halved⟩))
    · next short shallow whole =>
      cases refused
      refine .inl ⟨⟨_, rfl⟩, ?_⟩
      rintro ⟨limits, depth, v, document⟩
      rcases document.readChars with same | ⟨⟨e', same, isLimit⟩, -⟩
      · rw [read] at same
        cases same
      · obtain rfl := Except.error.inj (read.symm.trans same)
        exact isLimit.elim short (Or.rec shallow whole)

/-- Bytes that are refused as no text are those of none. -/
theorem parseFile_notUtf8_iff :
    parseFile source bytes = .error (.misuse .notUtf8) ↔ ∀ text, bytes ≠ encode text := by
  rw [parseFile]
  cases read : decode? bytes with
  | none =>
    refine ⟨fun _ text same => ?_, fun _ => rfl⟩
    rw [decode?_eq_some_iff.mpr same] at read
    cases read
  | some text =>
    refine ⟨fun refused => ?_, fun none => absurd (decode?_eq_some_iff.mp read) (none text)⟩
    rcases parse_faults refused with ⟨⟨reason, same⟩, -⟩ | ⟨same, -⟩ | ⟨same, -⟩ | ⟨same, -⟩
    all_goals cases same

theorem parseFile_encode (source text : String) :
    parseFile source (encode text) = parse source (unifyLineEnds text.toList) := by
  rw [parseFile, decode?_eq_some_iff.mpr rfl]

theorem value_loadJson (address : isUrl source = false) (name : hasNull source = false) :
    (loadJson source).value world = match world.file source with
      | .ok bytes => parseFile source bytes
      | .error problem => .error (.source (.unreadable source (problem.message source))) := by
  rw [loadJson, address, if_neg Bool.false_ne_true]
  refine (Loading.value_ofChecked _ world).trans ?_
  rw [fileBytes, name, if_neg Bool.false_ne_true]
  cases world.file source <;> rfl

/-- A file is loaded as the value that its text stands for, whenever its bytes are a text and the
text is JSON within the limits of the reader, one of which is that its strings consist of
characters. Otherwise it is reported as unreadable or as no JSON, but for bytes that are no text,
for whole numbers that are too long, for values that are nested too deeply, and for strings in which
half of a surrogate pair stands alone. Those are refused only because no value has room for them. -/
theorem loadJson_of_local (address : isUrl source = false) (name : hasNull source = false) :
    (∀ problem, world.file source = .error problem → (loadJson source).value world
        = .error (.source (.unreadable source (problem.message source))))
      ∧ ∀ bytes, world.file source = .ok bytes →
        ((loadJson source).value world = .error (.misuse .notUtf8) ↔ ∀ text, bytes ≠ encode text)
        ∧ ∀ text, bytes = encode text →
          (∀ v, (loadJson source).value world = .ok v
            ↔ IsDocument .reader nestingLimit (unifyLineEnds text.toList) v)
          ∧ ∀ fault, (loadJson source).value world = .error fault →
            (∃ reason, fault = .source (.notJson source reason))
                ∧ ¬ IsJson (unifyLineEnds text.toList)
              ∨ fault = .misuse .badValue ∧ HasLongNumber (unifyLineEnds text.toList)
              ∨ fault = .misuse .tooDeep
                ∧ nestingLimit < openers (unifyLineEnds text.toList)
              ∨ fault = .misuse .loneSurrogate
                ∧ HasLoneHalf (unifyLineEnds text.toList) := by
  rw [value_loadJson address name]
  refine ⟨fun problem unreadable => by rw [unreadable], fun bytes file => ?_⟩
  rw [file]
  dsimp only
  refine ⟨parseFile_notUtf8_iff, ?_⟩
  rintro text rfl
  rw [parseFile_encode]
  exact ⟨fun v => parse_eq_ok_iff, fun fault => parse_faults⟩

/-- A file that holds a list of one number. -/
def listedOne : World where
  file _ := .ok (encode "[1]")
  reply _ := .error "unreachable"

theorem loadJson_of_local_list :
    isUrl "list.json" = false ∧ hasNull "list.json" = false
      ∧ (loadJson "list.json").value listedOne = .ok (.list [.int 1]) := by
  have address : isUrl "list.json" = false := rfl
  have name : hasNull "list.json" = false := rfl
  obtain ⟨-, loads⟩ := @loadJson_of_local "list.json" listedOne address name
  have number : Json.IsNumber Json.Limits.reader.digits ['1'] (.int 1) :=
    .whole .none (Json.isWhole_singleton rfl) (by decide)
  have blank : Json.IsBlanks [] := fun _ found => absurd found List.not_mem_nil
  have document : IsDocument .reader nestingLimit (unifyLineEnds "[1]".toList)
      (.list [.int 1]) :=
    ⟨[], "[1]".toList, [], rfl, blank, .list blank (.lastItem (.number number) blank), blank⟩
  exact ⟨address, name, (((loads _ rfl).2 _ rfl).1 _).mpr document⟩

/-- A file of one byte that is no text. -/
def strayByte : World where
  file _ := .ok [0xff]
  reply _ := .error "unreachable"

/-- A file whose only byte begins no text is neither loaded nor reported. -/
theorem loadJson_of_stray_byte :
    ¬ ∀ (world : World) (source : String) (bytes : Bytes), isUrl source = false →
      hasNull source = false → world.file source = .ok bytes →
        (∃ v, (loadJson source).value world = .ok v)
          ∨ ∃ cause, (loadJson source).value world = .error (.source cause) := by
  intro every
  have wrong : (loadJson "bad.json").value strayByte = .error (.misuse .notUtf8) := rfl
  rcases every strayByte "bad.json" [0xff] rfl rfl rfl with ⟨v, same⟩ | ⟨cause, same⟩
  · rw [wrong] at same
    cases same
  · rw [wrong] at same
    cases same

end Source

end Vitae
