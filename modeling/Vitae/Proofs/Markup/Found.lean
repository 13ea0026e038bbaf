import Vitae.Proofs.Markup.Ending
import Vitae.Proofs.Markup.Reading
import Vitae.Proofs.Text.Case
import Vitae.Proofs.Text.Split

/-!
What a reader finds, whatever the text. Names are in small letters and hold none of the marks that
end them, attributes are told apart by their names, and what was found between brackets can be
written between brackets.
-/

namespace Vitae

namespace Token

/-! Names -/

theorem isMark_of_endsTagName {c : Char} (h : endsTagName c) : Text.isMark c := by
  simp only [endsTagName, Bool.or_eq_true, beq_iff_eq] at h
  rcases h with ((((((rfl | rfl) | rfl) | rfl) | rfl) | rfl) | rfl) | rfl <;> decide

theorem isMark_of_not_startsAttribute {c : Char} (h : startsAttribute c = false) :
    Text.isMark c := by
  simp only [startsAttribute, Bool.not_eq_false', Bool.or_eq_true, beq_iff_eq] at h
  rcases h with (blank | rfl) | rfl
  · simp [Text.isMark, blank]
  · decide
  · decide

/-- The name of an element as it is found. -/
structure IsFoundName (name : String) : Prop where
  small : Text.lower name = name
  letter : name.toList.head?.any isLetter
  whole : ∀ c ∈ name.toList, endsTagName c = false

theorem toNat_lt_of_isLetter {c : Char} (h : isLetter c) : c.toNat < 128 := by
  have : (97 ≤ c.toNat ∧ c.toNat ≤ 122) ∨ (65 ≤ c.toNat ∧ c.toNat ≤ 90) := by
    simpa [isLetter, Char.le_def, UInt32.le_iff_toNat_le] using h
  omega

theorem isFoundName_lower {cs : List Char} (letter : cs.head?.any isLetter)
    (whole : ∀ c ∈ cs, endsTagName c = false) :
    IsFoundName (Text.lower (String.ofList cs)) := by
  refine ⟨Text.lower_lower _, ?_, fun c mem => ?_⟩
  · cases cs with
    | nil => cases letter
    | cons c cs =>
      have first : isLetter c := by simpa using letter
      have ascii := toNat_lt_of_isLetter first
      rw [Text.lower, String.toList_ofList, String.toList_ofList,
        Text.lowerFrom_cons_ascii [] ascii, List.head?_cons, Option.any_some]
      exact Text.ascii_induction (p := fun c => isLetter c → isLetter c.toLower) (by decide) ascii
        first
  · rw [Text.lower, String.toList_ofList, String.toList_ofList] at mem
    rw [← Bool.not_eq_true]
    intro ends
    rw [whole c (Text.mem_of_mem_lowerFrom mem (isMark_of_endsTagName ends))] at ends
    cases ends

/-- The name of an attribute as it is found. -/
structure IsFoundKey (key : String) : Prop where
  small : Text.lower key = key
  begun : key.toList ≠ []
  whole : ∀ c ∈ key.toList, startsAttribute c
  equals : '=' ∉ key.toList.tail

theorem isFoundKey_lower {c : Char} {cs : List Char} (first : startsAttribute c)
    (each : ∀ d ∈ cs, isAttributeChar d) :
    IsFoundKey (Text.lower (String.ofList (c :: cs))) := by
  have starts : ∀ d ∈ c :: cs, startsAttribute d := by
    simpa [first] using fun d mem => startsAttribute_of_isAttributeChar (each d mem)
  have unequal : '=' ∉ cs := fun mem => absurd (each _ mem) (by decide)
  have text : (Text.lower (String.ofList (c :: cs))).toList = Text.lowerFrom [] (c :: cs) := by
    rw [Text.lower, String.toList_ofList, String.toList_ofList]
  refine ⟨Text.lower_lower _, text ▸ Text.lowerFrom_cons_ne_nil [] c cs, fun d mem => ?_,
    fun mem => ?_⟩
  · rw [text] at mem
    cases found : startsAttribute d with
    | true => rfl
    | false =>
      rw [starts d (Text.mem_of_mem_lowerFrom mem (isMark_of_not_startsAttribute found))] at found
      cases found
  · rw [text] at mem
    have mark : Text.isMark '=' := by decide
    by_cases ascii : c.toNat < 128
    · rw [Text.lowerFrom_cons_ascii [] ascii, List.tail_cons] at mem
      exact unequal (Text.mem_of_mem_lowerFrom mem mark)
    · have there := Text.mem_of_mem_lowerFrom (List.mem_of_mem_tail mem) mark
      rcases List.mem_cons.mp there with rfl | there
      · exact ascii (by decide)
      · exact unequal there

/-! Attributes -/

theorem keptValue_valueOf (tag key : String) (value : List Char) :
    keptValue tag key (valueOf tag key value) = valueOf tag key value := by
  unfold keptValue valueOf
  split
  · rw [Text.words_intercalate_words]
  · rfl

/-- An attribute as it is found in the tag of an element. -/
structure IsFoundAttribute (tag : String) (pair : String × String) : Prop where
  key : IsFoundKey pair.1
  value : keptValue tag pair.1 pair.2 = pair.2

/-- Attributes as they are found. -/
structure AreFoundAttributes (tag : String) (attributes : List (String × String)) : Prop where
  each : ∀ pair ∈ attributes, IsFoundAttribute tag pair
  distinct : (attributes.map Prod.fst).Nodup

theorem eq_or_mem_of_mem_putMember {key : String} {value : String}
    {members : List (String × String)} {pair : String × String}
    (mem : pair ∈ putMember key value members) : pair = (key, value) ∨ pair ∈ members := by
  induction members with
  | nil => exact .inl (List.mem_singleton.mp mem)
  | cons member members ih =>
    rw [putMember] at mem
    split at mem
    · rcases List.mem_cons.mp mem with same | mem
      · exact .inl same
      · exact .inr (List.mem_cons_of_mem _ mem)
    · rcases List.mem_cons.mp mem with rfl | mem
      · exact .inr List.mem_cons_self
      · exact (ih mem).imp_right (List.mem_cons_of_mem _)

theorem map_fst_putMember {key value : String} {members : List (String × String)}
    (known : key ∈ members.map Prod.fst) :
    (putMember key value members).map Prod.fst = members.map Prod.fst := by
  induction members with
  | nil => cases known
  | cons member members ih =>
    rw [putMember]
    split
    · next same => simp [same]
    · next other =>
      rcases List.mem_cons.mp known with same | known
      · exact absurd same.symm other
      · rw [List.map_cons, ih known, List.map_cons]

theorem nodup_putMember {key value : String} {members : List (String × String)}
    (distinct : (members.map Prod.fst).Nodup) :
    ((putMember key value members).map Prod.fst).Nodup := by
  by_cases known : key ∈ members.map Prod.fst
  · rwa [map_fst_putMember known]
  · rw [putMember_of_not_mem known, List.map_append, List.nodup_append]
    refine ⟨distinct, by simp, ?_⟩
    rintro other mem _ own rfl
    obtain rfl : other = key := by simpa using own
    exact known mem

theorem AreFoundAttributes.put {tag : String} {attributes : List (String × String)}
    (h : AreFoundAttributes tag attributes) {c : Char} {cs : List Char} (first : startsAttribute c)
    (each : ∀ d ∈ cs, isAttributeChar d) (value : List Char) :
    AreFoundAttributes tag (putAttribute tag (c :: cs) value attributes) where
  each := by
    intro pair mem
    rcases eq_or_mem_of_mem_putMember mem with rfl | mem
    · exact ⟨isFoundKey_lower first each, keptValue_valueOf tag _ value⟩
    · exact h.each pair mem
  distinct := nodup_putMember h.distinct

theorem areFoundAttributes_readAttributes (tag : String) (fuel : Nat)
    {attributes : List (String × String)} (h : AreFoundAttributes tag attributes) (last : Char)
    (cs : List Char) : AreFoundAttributes tag (readAttributes tag fuel attributes last cs).1 := by
  induction fuel generalizing attributes last cs with
  | zero => exact h
  | succ fuel ih =>
    cases cs with
    | nil => exact h
    | cons c cs =>
      rw [readAttributes]
      split
      · next starts =>
        have first : startsAttribute c := by
          simp only [startsName, Bool.and_eq_true] at starts
          exact starts.2
        exact ih (h.put first (List.all_eq_true.mp List.all_takeWhile) _) _ _
      · exact h

/-! Brackets -/

/-- Something in brackets that is read back, whatever follows it. -/
def StandsAlone (bracket : Bracket) (s : String) : Prop :=
  ∀ more, step {} (Html.bracketChars bracket s ++ more) = ({}, [.bracketed bracket s], more)

theorem standsAlone_comment {content : List Char} (free : HoldsNo commentEnd? content) :
    StandsAlone .comment (String.ofList content) := by
  intro more
  have split := free.splitEnding? stopsAtBracket_commentEnd? isEnding_comment more
  have markup : markup? ('<' :: '!' :: '-' :: '-' :: (content ++ ['-', '-'] ++ '>' :: more))
      = some ([.bracketed .comment (String.ofList content)], more) := by
    rw [markup?, List.drop_one, List.tail_cons]
    simp only [declaration?, split, Option.map_some]
  have step := step_markup markup
  simpa [Html.bracketChars, Bracket.opening, Bracket.ending, rawIn] using step

theorem section?_characters (tail : List Char) : section?
    ('C' :: 'D' :: 'A' :: 'T' :: 'A' :: '[' :: tail)
      = (splitEnding? sectionEnd? ('C' :: 'D' :: 'A' :: 'T' :: 'A' :: '[' :: tail)).map
        fun (content, rest) => ([sectionToken content], rest) := rfl

theorem sectionToken_characters (content : List Char) :
    sectionToken ('C' :: 'D' :: 'A' :: 'T' :: 'A' :: '[' :: content)
      = .bracketed .section (String.ofList content) := by
  have word : lowerAscii ['C', 'D', 'A', 'T', 'A', '['] = "cdata[" := by decide
  exact if_pos word

theorem standsAlone_section {content : List Char} (free : HoldsNo sectionEnd? content) :
    StandsAlone .section (String.ofList content) := by
  intro more
  have free' : HoldsNo sectionEnd? ('C' :: 'D' :: 'A' :: 'T' :: 'A' :: '[' :: content) :=
    (((((free.cons rfl).cons rfl).cons rfl).cons rfl).cons rfl).cons rfl
  have split := free'.splitEnding? stopsAtBracket_sectionEnd? isEnding_section more
  have markup : markup? ('<' :: '!' :: '[' :: 'C' :: 'D' :: 'A' :: 'T' :: 'A' :: '['
        :: (content ++ [']', ']'] ++ '>' :: more))
      = some ([.bracketed .section (String.ofList content)], more) := by
    rw [markup?, List.drop_one, List.tail_cons]
    simp only [List.cons_append] at split
    simp only [declaration?, section?_characters, split, Option.map_some, sectionToken_characters]
  have step := step_markup markup
  simpa [Html.bracketChars, Bracket.opening, Bracket.ending, rawIn] using step

theorem standsAlone_doctype {content : List Char} (free : '>' ∉ content) :
    StandsAlone .doctype (String.ofList content) :=
  fun more => step_doctype (by simpa using free) more

theorem standsAlone_instruction {content : List Char} (free : '>' ∉ content) :
    StandsAlone .instruction (String.ofList content) := by
  intro more
  have markup : markup? ('<' :: '?' :: (content ++ '>' :: more))
      = some ([.bracketed .instruction (String.ofList content)], more) := by
    rw [markup?, List.drop_one, List.tail_cons]
    simp only [splitAt?_of_not_mem free, Option.map_some]
  have step := step_markup markup
  simpa [Html.bracketChars, Bracket.opening, Bracket.ending, rawIn] using step

/-- Without a closing bracket anything can be put between brackets. -/
theorem standsAlone_of_not_mem {bracket : Bracket} (known : bracket ≠ .declaration)
    {content : List Char} (free : '>' ∉ content) : StandsAlone bracket (String.ofList content) := by
  cases bracket with
  | comment => exact standsAlone_comment (.of_not_mem stopsAtBracket_commentEnd? free)
  | doctype => exact standsAlone_doctype free
  | instruction => exact standsAlone_instruction free
  | declaration => exact absurd rfl known
  | «section» => exact standsAlone_section (.of_not_mem stopsAtBracket_sectionEnd? free)

/-! Tokens -/

/-- A token as it is found outside raw elements. -/
inductive IsFound : Token → Prop where
  | text (s : String) : IsFound (.text s)
  | bracketed (bracket : Bracket) (s : String)
      (alone : bracket ≠ .declaration → StandsAlone bracket s) : IsFound (.bracketed bracket s)
  | opening (name : String) (attributes : List (String × String)) (closed : Bool)
      (named : IsFoundName name) (found : AreFoundAttributes name attributes) :
      IsFound (.opening name attributes closed)
  | closing (name : String) : IsFound (.closing name)
  | unknownSection : IsFound .unknownSection

/-- What one step finds outside raw elements: a token at most. -/
inductive Finds : List Token → Prop where
  | nothing : Finds []
  | one (token : Token) (found : IsFound token) : Finds [token]

/-- A text, or nothing. -/
def AreText (tokens : List Token) : Prop := tokens = [] ∨ ∃ s, tokens = [.text s]

theorem AreText.finds {tokens : List Token} (h : AreText tokens) : Finds tokens := by
  rcases h with rfl | ⟨s, rfl⟩
  · exact .nothing
  · exact .one _ (.text s)

theorem AreText.rawIn_eq {tokens : List Token} (h : AreText tokens) : rawIn tokens = none := by
  rcases h with rfl | ⟨s, rfl⟩ <;> rfl

theorem areText_textOf (cs : List Char) : AreText (textOf cs) := by
  unfold textOf
  split
  · exact .inl rfl
  · exact .inr ⟨_, rfl⟩

theorem areFoundAttributes_nil (tag : String) : AreFoundAttributes tag [] :=
  ⟨fun _ mem => absurd mem List.not_mem_nil, List.nodup_nil⟩

theorem finds_opening? {cs rest : List Char} {tokens : List Token}
    (letter : (cs.drop 1).head?.any isLetter) (h : opening? cs = some (tokens, rest)) :
    Finds tokens := by
  have whole : ∀ c ∈ (readName (cs.drop 1)).1, endsTagName c = false := by
    intro c mem
    simpa using List.all_eq_true.mp List.all_takeWhile c mem
  have letter' : (readName (cs.drop 1)).1.head?.any isLetter := by
    cases text : cs.drop 1 with
    | nil => simp [text] at letter
    | cons c inner =>
      have first : isLetter c := by simpa [text] using letter
      have inside : endsTagName c = false :=
        Text.ascii_induction (p := fun c => isLetter c → endsTagName c = false) (by decide)
          (toNat_lt_of_isLetter first) first
      rw [readName, List.takeWhile_cons_of_pos (by simp [inside]), List.head?_cons]
      exact first
  have named := isFoundName_lower letter' whole
  unfold opening? at h
  simp only at h
  have found := areFoundAttributes_readAttributes
    (Text.lower (String.ofList (readName (cs.drop 1)).1))
    (skipGap ((readName (cs.drop 1)).1.getLast?.getD '<') (readName (cs.drop 1)).2).2.length
    (areFoundAttributes_nil _)
    (skipGap ((readName (cs.drop 1)).1.getLast?.getD '<') (readName (cs.drop 1)).2).1
    (skipGap ((readName (cs.drop 1)).1.getLast?.getD '<') (readName (cs.drop 1)).2).2
  split at h
  · next attributes rest' read =>
    rw [read] at found
    cases h
    exact .one _ (.opening _ _ _ named found)
  · next attributes rest' read =>
    rw [read] at found
    cases h
    exact .one _ (.opening _ _ _ named found)
  · cases h
  · split at h
    · cases h
    · cases h
      exact (areText_textOf _).finds

theorem finds_closingTokens {content : List Char} (free : '>' ∉ content) :
    Finds (closingTokens content) := by
  unfold closingTokens
  split
  · exact .one _ (.closing _)
  · split
    · exact .nothing
    · split
      · exact .one _ (.closing _)
      · exact .one _ (.bracketed _ _ fun known => standsAlone_of_not_mem known free)

theorem isFound_sectionToken {content : List Char} (free : HoldsNo sectionEnd? content) :
    IsFound (sectionToken content) := by
  unfold sectionToken
  split
  · exact .bracketed _ _ fun _ => standsAlone_section (free.mono (List.drop_suffix 6 content))
  · exact .bracketed _ _ fun known => absurd rfl known

/-- Where no condition ends, no section does. -/
theorem HoldsNo.sectionEnd? {content : List Char} (h : HoldsNo conditionEnd? content) :
    HoldsNo sectionEnd? content := by
  intro cs part
  cases found : Token.sectionEnd? cs with
  | none => rfl
  | some rest =>
    unfold Token.sectionEnd? at found
    split at found
    · next inner =>
      have inside : inner.dropWhile Text.isBlank <:+ content :=
        (List.dropWhile_suffix _).trans ((List.suffix_cons _ inner).trans part)
      rw [h _ inside] at found
      cases found
    · cases found

theorem finds_section? {cs rest : List Char} {tokens : List Token}
    (h : section? cs = some (tokens, rest)) : Finds tokens := by
  unfold section? at h
  simp only at h
  split at h
  · cases h
  split at h
  · cases h
    exact .one _ .unknownSection
  split at h
  · cases h
  split at h
  · obtain ⟨⟨content, after⟩, split, same⟩ := Option.map_eq_some_iff.mp h
    cases same
    exact .one _ (isFound_sectionToken (exists_of_splitEnding? stopsAtBracket_sectionEnd? split).1)
  split at h
  · obtain ⟨⟨content, after⟩, split, same⟩ := Option.map_eq_some_iff.mp h
    cases same
    have free := (exists_of_splitEnding? stopsAtBracket_conditionEnd? split).1
    exact .one _ (isFound_sectionToken free.sectionEnd?)
  · cases h
    exact .one _ .unknownSection

theorem finds_declaration? {cs rest : List Char} {tokens : List Token}
    (h : declaration? cs = some (tokens, rest)) : Finds tokens := by
  unfold declaration? at h
  split at h
  · obtain ⟨⟨content, after⟩, split, same⟩ := Option.map_eq_some_iff.mp h
    cases same
    have free := (exists_of_splitEnding? stopsAtBracket_commentEnd? split).1
    exact .one _ (.bracketed _ _ fun _ => standsAlone_comment free)
  · exact finds_section? h
  · obtain ⟨⟨content, after⟩, split, same⟩ := Option.map_eq_some_iff.mp h
    have free := (exists_of_splitAt? split).2
    simp only at same
    split at same
    · cases same
      have free' : '>' ∉ content.drop 8 := fun mem => free (List.mem_of_mem_drop mem)
      exact .one _ (.bracketed _ _ fun known => standsAlone_of_not_mem known free')
    · cases same
      exact .one _ (.bracketed _ _ fun known => standsAlone_of_not_mem known free)

theorem finds_markup? {cs rest : List Char} {tokens : List Token}
    (h : markup? cs = some (tokens, rest)) : Finds tokens := by
  unfold markup? at h
  split at h
  · obtain ⟨⟨content, after⟩, split, same⟩ := Option.map_eq_some_iff.mp h
    cases same
    exact finds_closingTokens (exists_of_splitAt? split).2
  · exact finds_declaration? h
  · obtain ⟨⟨content, after⟩, split, same⟩ := Option.map_eq_some_iff.mp h
    cases same
    have free := (exists_of_splitAt? split).2
    exact .one _ (.bracketed _ _ fun known => standsAlone_of_not_mem known free)
  · split at h
    · next letter => exact finds_opening? letter h
    · cases h
      exact .one _ (.text _)

/-! Text -/

theorem areText_numbered? {cs rest : List Char} {tokens : List Token}
    (h : numbered? cs = some (tokens, rest)) : AreText tokens := by
  unfold numbered? at h
  simp only at h
  split at h
  · cases h
  · split at h
    · cases h
    · obtain ⟨n, -, same⟩ := Option.map_eq_some_iff.mp h
      cases same
      exact .inr ⟨_, rfl⟩

theorem areText_lastName (name : List Char) : AreText (lastName name).1 := by
  unfold lastName
  split <;> exact areText_textOf _

theorem areText_reference? {cs rest : List Char} {tokens : List Token}
    (h : reference? cs = some (tokens, rest)) : AreText tokens := by
  unfold reference? at h
  split at h
  · exact areText_numbered? h
  · split at h
    · simp only at h
      split at h
      · have same : (lastName _).1 = tokens := congrArg Prod.fst (Option.some.inj h)
        exact same ▸ areText_lastName _
      · cases h
        exact areText_textOf _
    · cases h
      exact .inr ⟨_, rfl⟩

theorem areText_unfinished (cs : List Char) : AreText (unfinished cs).1 := by
  unfold unfinished
  simp only
  split
  · exact areText_textOf _
  · split <;> exact areText_textOf _

theorem malformed_cases (s : State) (cs : List Char) :
    (malformed s cs).1.raw = s.raw ∧ AreText (malformed s cs).2.1 := by
  unfold malformed
  split
  · exact ⟨rfl, .inr ⟨_, rfl⟩⟩
  · exact ⟨rfl, areText_textOf cs⟩

/-- Outside raw elements a step finds one token at most, and is in a raw element behind the tag
that opens it. -/
theorem step_finds {s : State} (plain : s.raw = none) (cs : List Char) :
    Finds (step s cs).2.1 ∧ (step s cs).1.raw = rawIn (step s cs).2.1 := by
  have text {s' : State} {tokens : List Token} (raw : s'.raw = none) (h : AreText tokens) :
      Finds tokens ∧ s'.raw = rawIn tokens := ⟨h.finds, raw.trans h.rawIn_eq.symm⟩
  unfold step
  rw [plain]
  simp only
  split
  · split
    · next piece found => exact ⟨finds_markup? found, rfl⟩
    · exact text rfl (areText_unfinished cs)
  · split
    · next piece found => exact text plain (areText_reference? found)
    · obtain ⟨raw, h⟩ := malformed_cases s cs
      exact text (raw.trans plain) h
  · exact text plain (areText_textOf _)

end Token

end Vitae
