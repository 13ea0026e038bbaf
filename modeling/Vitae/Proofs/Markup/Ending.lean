import Vitae.Proofs.Markup.Tree

/-!
What stands between a beginning and an end. Every ending is read up to its only closing bracket, so
whether a place is one is decided there, whatever follows. What was read up to an ending can
therefore be written with any other of its kind, and is read back.
-/

namespace Vitae.Token

/-- A reader of endings that goes no further than the first closing bracket. -/
def StopsAtBracket (ending? : List Char → Option (List Char)) : Prop :=
  ∀ cs rest, ending? cs = some rest → ∃ body, '>' ∉ body ∧ cs = body ++ '>' :: rest
    ∧ ∀ more, ending? (body ++ '>' :: more) = some more

/-- A text that no ending begins in. -/
def HoldsNo (ending? : List Char → Option (List Char)) (content : List Char) : Prop :=
  ∀ cs, cs <:+ content → ending? cs = none

/-- An ending that is found where it begins, and not in front of that. -/
structure IsEnding (ending? : List Char → Option (List Char)) (mark : List Char) : Prop where
  plain : '>' ∉ mark
  found : ∀ more, ending? (mark ++ '>' :: more) = some more
  alone : ∀ cs more, ending? (cs ++ mark ++ '>' :: more) = some more → cs = []

variable {ending? : List Char → Option (List Char)} {cs content mark rest : List Char}

/-- A text is split at its first closing bracket in one way only. -/
theorem split_at_bracket {before before' after after' : List Char} (plain : '>' ∉ before)
    (plain' : '>' ∉ before') (same : before ++ '>' :: after = before' ++ '>' :: after') :
    before = before' ∧ after = after' := by
  have split := splitAt?_of_not_mem plain after
  rw [same, splitAt?_of_not_mem plain' after'] at split
  cases split
  exact ⟨rfl, rfl⟩

theorem exists_of_splitAt? {c : Char} {before after : List Char}
    (h : splitAt? c cs = some (before, after)) : cs = before ++ c :: after ∧ c ∉ before := by
  induction cs generalizing before with
  | nil => cases h
  | cons d cs ih =>
    by_cases same : d = c
    · simp only [splitAt?, same, ne_eq, not_true, decide_false, Bool.false_eq_true,
        not_false_eq_true, List.takeWhile_cons_of_neg, List.length_nil, List.drop_zero] at h
      cases h
      exact ⟨by rw [same, List.nil_append], List.not_mem_nil⟩
    · have run : (d :: cs).takeWhile (· ≠ c) = d :: cs.takeWhile (· ≠ c) :=
        List.takeWhile_cons_of_pos (by simpa using same)
      have later : splitAt? c cs = some (cs.takeWhile (· ≠ c), after)
          ∧ before = d :: cs.takeWhile (· ≠ c) := by
        simp only [splitAt?, run, List.length_cons, List.drop_succ_cons] at h ⊢
        split at h
        · cases h
        · next left =>
          cases h
          exact ⟨rfl, rfl⟩
      obtain ⟨whole, free⟩ := ih later.1
      rw [later.2]
      exact ⟨by rw [List.cons_append, ← whole], by simpa [Ne.symm same] using free⟩

/-- Whether there is an ending does not depend on what follows the first closing bracket. -/
theorem StopsAtBracket.uniform (stops : StopsAtBracket ending?) {before : List Char}
    (plain : '>' ∉ before) : (∀ more, ending? (before ++ '>' :: more) = some more)
      ∨ ∀ more, ending? (before ++ '>' :: more) = none := by
  by_cases some : ∃ more rest, ending? (before ++ '>' :: more) = some rest
  · obtain ⟨more, rest, found⟩ := some
    obtain ⟨body, plain', whole, again⟩ := stops _ rest found
    obtain ⟨rfl, -⟩ := split_at_bracket plain plain' whole
    exact .inl again
  · right
    intro more
    cases found : ending? (before ++ '>' :: more) with
    | none => rfl
    | some rest => exact absurd ⟨more, rest, found⟩ some

namespace HoldsNo

theorem mono (h : HoldsNo ending? content) (part : cs <:+ content) : HoldsNo ending? cs :=
  fun _ suffix => h _ (suffix.trans part)

theorem cons (h : HoldsNo ending? content) {c : Char} (first : ending? (c :: content) = none) :
    HoldsNo ending? (c :: content) := by
  intro cs part
  rcases List.suffix_cons_iff.mp part with rfl | part
  · exact first
  · exact h cs part

theorem of_not_mem (stops : StopsAtBracket ending?) (plain : '>' ∉ content) :
    HoldsNo ending? content := by
  intro cs part
  cases found : ending? cs with
  | none => rfl
  | some rest =>
    obtain ⟨body, -, whole, -⟩ := stops cs rest found
    have inside : '>' ∈ cs := by simp [whole]
    exact absurd (part.subset inside) plain

/-- In a text without endings none begins when something is written behind it, unless one that does
not close there. -/
theorem none_of_append (h : HoldsNo ending? content) (stops : StopsAtBracket ending?)
    (plain : '>' ∉ mark)
    (open_ : ¬∀ more, ending? (content ++ mark ++ '>' :: more) = some more) (more : List Char) :
    ending? (content ++ mark ++ '>' :: more) = none := by
  by_cases bracket : '>' ∈ content
  · obtain ⟨before, behind, rfl, first⟩ := List.eq_append_cons_of_mem bracket
    rcases stops.uniform first with found | none
    · have early := h _ (List.suffix_refl _)
      rw [found] at early
      cases early
    · rw [List.append_assoc, List.append_assoc, List.cons_append]
      exact none _
  · have plain' : '>' ∉ content ++ mark := by simp [bracket, plain]
    rcases stops.uniform plain' with found | none
    · exact absurd found open_
    · exact none more

/-- A text without endings is what is read up to an ending that is written behind it. -/
theorem splitEnding? (h : HoldsNo ending? content) (stops : StopsAtBracket ending?)
    (ends : IsEnding ending? mark) (more : List Char) :
    splitEnding? ending? (content ++ mark ++ '>' :: more) = some (content, more) := by
  induction content with
  | nil =>
    have found := ends.found more
    rw [List.nil_append]
    cases text : mark ++ '>' :: more with
    | nil => simp at text
    | cons c cs => rw [Token.splitEnding?, ← text, found]
  | cons c content ih =>
    have none := h.none_of_append stops ends.plain
      (fun found => List.cons_ne_nil _ _ (ends.alone _ more (found more))) more
    rw [List.cons_append, List.cons_append] at none ⊢
    rw [Token.splitEnding?, none, ih (h.mono (List.suffix_cons c content))]
    rfl

end HoldsNo

/-- What is found up to an ending holds none, and the ending is found there whatever follows. -/
theorem exists_of_splitEnding? (stops : StopsAtBracket ending?)
    (h : splitEnding? ending? cs = some (content, rest)) :
    HoldsNo ending? content ∧ ∃ mark, '>' ∉ mark ∧ cs = content ++ mark ++ '>' :: rest
      ∧ ending? (mark ++ '>' :: rest) = some rest
      ∧ ∀ more, splitEnding? ending? (content ++ mark ++ '>' :: more) = some (content, more) := by
  induction cs generalizing content with
  | nil => cases h
  | cons c cs ih =>
    rw [splitEnding?] at h
    cases found : ending? (c :: cs) with
    | some after =>
      rw [found] at h
      cases h
      obtain ⟨mark, plain, whole, again⟩ := stops _ rest found
      refine ⟨.of_not_mem stops (by simp), mark, plain, whole, again rest, fun more => ?_⟩
      rw [List.nil_append]
      cases text : mark ++ '>' :: more with
      | nil => simp at text
      | cons c cs => rw [splitEnding?, ← text, again]
    | none =>
      rw [found] at h
      obtain ⟨⟨content, after⟩, split, same⟩ := Option.map_eq_some_iff.mp h
      cases same
      obtain ⟨free, mark, plain, rfl, ends, again⟩ := ih split
      have begun : ending? (c :: content) = none := by
        cases early : ending? (c :: content) with
        | none => rfl
        | some left =>
          obtain ⟨body, -, whole, again⟩ := stops _ left early
          rw [← List.cons_append, ← List.cons_append, whole, List.append_assoc, List.append_assoc,
            List.cons_append, again] at found
          cases found
      have free' : HoldsNo ending? (c :: content) := free.cons begun
      refine ⟨free', mark, plain, rfl, ends, fun more => ?_⟩
      have late : ¬∀ more, ending? (c :: content ++ mark ++ '>' :: more) = some more := by
        intro every
        have now := every rest
        rw [List.cons_append, List.cons_append, found] at now
        cases now
      have none := free'.none_of_append stops plain late more
      rw [List.cons_append, List.cons_append] at none ⊢
      rw [splitEnding?, none, again more]
      rfl

/-! Blanks -/

/-- White space up to something that is not. -/
theorem dropWhile_blanks {blanks : List Char} (blank : ∀ c ∈ blanks, Text.isBlank c) {c : Char}
    (solid : Text.isBlank c = false) (cs : List Char) :
    (blanks ++ c :: cs).dropWhile Text.isBlank = c :: cs := by
  rw [List.dropWhile_append_of_pos blank, List.dropWhile_cons_of_neg (by simp [solid])]

theorem exists_blanks {c : Char} (h : cs.dropWhile Text.isBlank = c :: rest) :
    ∃ blanks, (∀ c ∈ blanks, Text.isBlank c) ∧ cs = blanks ++ c :: rest
      ∧ Text.isBlank c = false := by
  induction cs with
  | nil => cases h
  | cons d cs ih =>
    cases blank : Text.isBlank d with
    | true =>
      rw [List.dropWhile_cons_of_pos blank] at h
      obtain ⟨blanks, all, rfl, solid⟩ := ih h
      exact ⟨d :: blanks, by simpa [blank] using all, rfl, solid⟩
    | false =>
      rw [List.dropWhile_cons_of_neg (by simp [blank])] at h
      cases h
      exact ⟨[], by simp, rfl, blank⟩

theorem not_mem_of_blank {blanks : List Char} (blank : ∀ c ∈ blanks, Text.isBlank c) {c : Char}
    (solid : Text.isBlank c = false) : c ∉ blanks := by
  intro mem
  rw [blank c mem] at solid
  cases solid

theorem exists_of_bracketEnd? (h : bracketEnd? cs = some rest) :
    ∃ blanks, (∀ c ∈ blanks, Text.isBlank c) ∧ cs = blanks ++ '>' :: rest := by
  unfold bracketEnd? at h
  split at h
  · next after left =>
    cases h
    obtain ⟨blanks, blank, whole, -⟩ := exists_blanks left
    exact ⟨blanks, blank, whole⟩
  · cases h

theorem bracketEnd?_append {blanks : List Char} (blank : ∀ c ∈ blanks, Text.isBlank c)
    (more : List Char) : bracketEnd? (blanks ++ '>' :: more) = some more := by
  rw [bracketEnd?, dropWhile_blanks blank (by decide)]
  rfl

/-- White space is not the last of a text that ends in something else. -/
theorem eq_nil_of_concat {before behind blanks : List Char}
    (blank : ∀ c ∈ blanks, Text.isBlank c) {c : Char} (solid : Text.isBlank c = false)
    (same : before ++ [c] = behind ++ blanks) : blanks = [] := by
  rcases List.eq_nil_or_concat blanks with none | ⟨init, last, rfl⟩
  · exact none
  · rw [List.concat_eq_append, ← List.append_assoc] at same
    obtain ⟨-, rfl⟩ := List.append_inj' same rfl |>.imp_right List.singleton_inj.mp
    rw [blank c (by simp)] at solid
    cases solid

/-! Comments -/

theorem exists_of_commentEnd? (h : commentEnd? cs = some rest) :
    ∃ blanks, (∀ c ∈ blanks, Text.isBlank c) ∧ cs = '-' :: '-' :: (blanks ++ '>' :: rest) := by
  unfold commentEnd? at h
  split at h
  · obtain ⟨blanks, blank, rfl⟩ := exists_of_bracketEnd? h
    exact ⟨blanks, blank, rfl⟩
  · cases h

theorem stopsAtBracket_commentEnd? : StopsAtBracket commentEnd? := by
  intro cs rest h
  obtain ⟨blanks, blank, rfl⟩ := exists_of_commentEnd? h
  exact ⟨'-' :: '-' :: blanks, by simpa using not_mem_of_blank blank (by decide), rfl,
    fun more => bracketEnd?_append blank more⟩

theorem isEnding_comment : IsEnding commentEnd? ['-', '-'] where
  plain := by decide
  found := fun more => rfl
  alone := by
    intro cs more h
    obtain ⟨blanks, blank, whole⟩ := exists_of_commentEnd? h
    have same : (cs ++ ['-']) ++ ['-'] = ['-', '-'] ++ blanks :=
      List.append_cancel_right (by simpa using whole)
    obtain rfl := eq_nil_of_concat blank (by decide) same
    exact List.length_eq_zero_iff.mp (by simpa using congrArg List.length same)

/-! Sections -/

theorem exists_of_conditionEnd? (h : conditionEnd? cs = some rest) :
    ∃ blanks, (∀ c ∈ blanks, Text.isBlank c) ∧ cs = ']' :: (blanks ++ '>' :: rest) := by
  unfold conditionEnd? at h
  split at h
  · obtain ⟨blanks, blank, rfl⟩ := exists_of_bracketEnd? h
    exact ⟨blanks, blank, rfl⟩
  · cases h

theorem stopsAtBracket_conditionEnd? : StopsAtBracket conditionEnd? := by
  intro cs rest h
  obtain ⟨blanks, blank, rfl⟩ := exists_of_conditionEnd? h
  exact ⟨']' :: blanks, by simpa using not_mem_of_blank blank (by decide), rfl,
    fun more => bracketEnd?_append blank more⟩

theorem exists_of_sectionEnd? (h : sectionEnd? cs = some rest) :
    ∃ blanks blanks', (∀ c ∈ blanks, Text.isBlank c) ∧ (∀ c ∈ blanks', Text.isBlank c)
      ∧ cs = ']' :: (blanks ++ ']' :: (blanks' ++ '>' :: rest)) := by
  unfold sectionEnd? at h
  split at h
  · obtain ⟨blanks', blank', left⟩ := exists_of_conditionEnd? h
    obtain ⟨blanks, blank, rfl, -⟩ := exists_blanks left
    exact ⟨blanks, blanks', blank, blank', rfl⟩
  · cases h

theorem sectionEnd?_append {blanks blanks' : List Char} (blank : ∀ c ∈ blanks, Text.isBlank c)
    (blank' : ∀ c ∈ blanks', Text.isBlank c) (more : List Char) :
    sectionEnd? (']' :: (blanks ++ ']' :: (blanks' ++ '>' :: more))) = some more := by
  rw [sectionEnd?, dropWhile_blanks blank (by decide)]
  exact bracketEnd?_append blank' more

theorem stopsAtBracket_sectionEnd? : StopsAtBracket sectionEnd? := by
  intro cs rest h
  obtain ⟨blanks, blanks', blank, blank', rfl⟩ := exists_of_sectionEnd? h
  refine ⟨']' :: (blanks ++ ']' :: blanks'), ?_, by simp, fun more => ?_⟩
  · have solid : Text.isBlank '>' = false := by decide
    simp [not_mem_of_blank blank solid, not_mem_of_blank blank' solid]
  · simpa using sectionEnd?_append blank blank' more

theorem isEnding_section : IsEnding sectionEnd? [']', ']'] where
  plain := by decide
  found := fun more => rfl
  alone := by
    intro cs more h
    obtain ⟨blanks, blanks', blank, blank', whole⟩ := exists_of_sectionEnd? h
    have same : (cs ++ [']']) ++ [']'] = (']' :: (blanks ++ [']'])) ++ blanks' :=
      List.append_cancel_right (by simpa using whole)
    obtain rfl := eq_nil_of_concat blank' (by decide) same
    have same' : cs ++ [']'] = [']'] ++ blanks := List.append_cancel_right (by simpa using same)
    obtain rfl := eq_nil_of_concat blank (by decide) same'
    exact List.length_eq_zero_iff.mp (by simpa using congrArg List.length same')

/-! Raw elements -/

/-- What looks like a name is as long, holds no angle bracket and looks like it wherever it is. -/
theorem exists_of_dropName? {name : List Char} (plain : ∀ c ∈ name, isPlain c)
    (h : dropName? name cs = some rest) :
    ∃ word, word.length = name.length ∧ '<' ∉ word ∧ '>' ∉ word ∧ cs = word ++ rest
      ∧ ∀ more, dropName? name (word ++ more) = some more := by
  induction name generalizing cs with
  | nil =>
    rw [dropName?] at h
    cases h
    exact ⟨[], rfl, by simp, by simp, rfl, fun more => by cases more <;> rfl⟩
  | cons letter name ih =>
    cases cs with
    | nil => cases h
    | cons c cs =>
      rw [dropName?] at h
      split at h
      · next alike =>
        obtain ⟨word, length, opens, closes, rfl, again⟩ :=
          ih (fun d mem => plain d (List.mem_cons_of_mem _ mem)) h
        have own := plain letter List.mem_cons_self
        have bracket : c ≠ '<' ∧ c ≠ '>' := by
          have none : resembles letter '<' = false ∧ resembles letter '>' = false :=
            isPlain_induction (by decide) own
          constructor <;> (rintro rfl; simp [none] at alike)
        refine ⟨c :: word, by rw [List.length_cons, length, List.length_cons],
          by simp [opens, bracket.1.symm], by simp [closes, bracket.2.symm], rfl, fun more => ?_⟩
        rw [List.cons_append, dropName?, if_pos alike, again]
      · cases h

/-- What looks like the end of a raw element: white space, what looks like its name, and white space
again. -/
structure RawMark (name : String) where
  before : List Char
  word : List Char
  behind : List Char
  blank : ∀ c ∈ before, Text.isBlank c
  blank' : ∀ c ∈ behind, Text.isBlank c
  length : word.length = name.length
  opens : '<' ∉ word
  closes : '>' ∉ word
  solid : ∀ c ∈ word.head?, Text.isBlank c = false
  begun : word ≠ []
  found : ∀ more, dropName? name.toList (word ++ more) = some more

namespace RawMark

variable {name : String} (m : RawMark name)

/-- The mark up to its closing bracket. -/
def chars : List Char := '<' :: '/' :: (m.before ++ m.word ++ m.behind)

theorem not_mem_chars : '>' ∉ m.chars := by
  have solid : Text.isBlank '>' = false := by decide
  simp [chars, not_mem_of_blank m.blank solid, not_mem_of_blank m.blank' solid, m.closes]

theorem not_mem_tail : '<' ∉ m.chars.tail := by
  have solid : Text.isBlank '<' = false := by decide
  simp [chars, not_mem_of_blank m.blank solid, not_mem_of_blank m.blank' solid, m.opens]

theorem dropWhile_blanks (more : List Char) :
    ((m.chars ++ '>' :: more).drop 2).dropWhile Text.isBlank
      = m.word ++ (m.behind ++ '>' :: more) := by
  have begun := m.begun
  have solid := m.solid
  cases word : m.word with
  | nil => exact absurd word begun
  | cons c cs =>
    rw [word] at solid
    have first := Token.dropWhile_blanks m.blank (solid c rfl) (cs ++ (m.behind ++ '>' :: more))
    simpa [chars, word] using first

theorem rawEnd?_append (more : List Char) : rawEnd? name (m.chars ++ '>' :: more) = some more := by
  have left := m.dropWhile_blanks more
  rw [chars, List.cons_append, List.cons_append, List.drop_succ_cons, List.drop_succ_cons,
    List.drop_zero] at left
  rw [chars, List.cons_append, List.cons_append, rawEnd?, left, m.found, Option.bind_some,
    bracketEnd?_append m.blank']

/-- Only the word decides whether an element truly ends. -/
theorem isTrueEnd_append (more : List Char) :
    isTrueEnd name (m.chars ++ '>' :: more) = m.word.all isLetter := by
  rw [isTrueEnd, m.dropWhile_blanks, ← m.length, List.take_left]

end RawMark

theorem exists_of_rawEnd? {name : String} (named : isTagName name)
    (h : rawEnd? name cs = some rest) : ∃ m : RawMark name, cs = m.chars ++ '>' :: rest := by
  obtain ⟨first, others, spelled, -, plain⟩ := exists_cons_of_isTagName named
  unfold rawEnd? at h
  split at h
  · next inner =>
    obtain ⟨after, word?, bracket⟩ := Option.bind_eq_some_iff.mp h
    obtain ⟨word, length, opens, closes, left, found⟩ := exists_of_dropName? (spelled ▸ plain) word?
    obtain ⟨behind, blank', rfl⟩ := exists_of_bracketEnd? bracket
    cases word with
    | nil => simp [spelled] at length
    | cons c word =>
      obtain ⟨before, blank, whole, solid⟩ := exists_blanks left
      refine ⟨⟨before, c :: word, behind, blank, blank', length.trans String.length_toList, opens,
        closes, by simpa using solid, by simp, found⟩, ?_⟩
      simp [RawMark.chars, whole]
  · cases h

theorem stopsAtBracket_rawEnd? {name : String} (named : isTagName name) :
    StopsAtBracket (rawEnd? name) := by
  intro cs rest h
  obtain ⟨m, whole⟩ := exists_of_rawEnd? named h
  exact ⟨m.chars, m.not_mem_chars, whole, m.rawEnd?_append⟩

theorem isEnding_raw {name : String} (named : isTagName name) :
    IsEnding (rawEnd? name) ('<' :: '/' :: name.toList) where
  plain := by
    obtain ⟨first, others, spelled, -, plain⟩ := exists_cons_of_isTagName named
    have absent : '>' ∉ name.toList := fun mem => not_close_of_isPlain (plain _ (spelled ▸ mem)) rfl
    simp [absent]
  found := by simpa using rawEnd?_closing named
  alone := by
    intro cs more h
    obtain ⟨m, whole⟩ := exists_of_rawEnd? named h
    have same : cs ++ '<' :: '/' :: name.toList = m.chars := List.append_cancel_right whole
    -- A mark begins with its only opening bracket.
    cases cs with
    | nil => rfl
    | cons c cs =>
      have inside : '<' ∈ m.chars.tail := by
        rw [← same]
        simp
      exact absurd inside m.not_mem_tail

/-! The content of raw elements -/

theorem alike_textOf (cs : List Char) (more : List Token) :
    Alike (textOf cs ++ more) (.text (String.ofList cs) :: more) := by
  unfold textOf
  cases cs with
  | nil => exact .text_nil more
  | cons c cs => exact .refl _

/-- A text that is passed over in a raw element, whatever follows. -/
def PassesRaw (name : String) (cs : List Char) : Prop :=
  ∀ more tokens, Reads { raw := some name } more tokens →
    Reads { raw := some name } (cs ++ more) (.text (String.ofList cs) :: tokens)

/-- A text that is the content of a raw element when the end of the element follows. -/
def FillsRaw (name : String) (cs : List Char) : Prop :=
  ∀ more tokens, Reads {} more tokens →
    Reads { raw := some name } (cs ++ ('<' :: '/' :: name.toList) ++ '>' :: more)
      (.text (String.ofList cs) :: .closing name :: tokens)

variable {name : String}

theorem passesRaw_nil (name : String) : PassesRaw name [] :=
  fun _ tokens later => later.like (.text_nil tokens)

theorem PassesRaw.append {cs others : List Char} (h : PassesRaw name cs)
    (h' : PassesRaw name others) : PassesRaw name (cs ++ others) := by
  intro more tokens later
  rw [List.append_assoc]
  exact (h _ _ (h' _ _ later)).like (.text_append cs others tokens)

theorem PassesRaw.append_fills {cs others : List Char} (h : PassesRaw name cs)
    (h' : FillsRaw name others) : FillsRaw name (cs ++ others) := by
  intro more tokens later
  rw [List.append_assoc, List.append_assoc, ← List.append_assoc others]
  exact (h _ _ (h' _ _ later)).like (.text_append cs others _)

theorem isTrueEnd_closing (raw : isRaw name) (more : List Char) :
    isTrueEnd name ('<' :: '/' :: name.toList ++ '>' :: more) := by
  simp only [isRaw, Bool.or_eq_true, beq_iff_eq] at raw
  rcases raw with rfl | rfl <;> rfl

theorem textUpTo_append (passed rest : List Char) :
    textUpTo (passed ++ rest) rest = (textOf passed, rest) := by
  rw [textUpTo, List.length_append, Nat.add_sub_cancel, List.take_left]

theorem rawStep_of_split (s : State) {ending : List Char}
    (split : splitEnding? (rawEnd? name) (content ++ ending) = some (content, rest)) :
    rawStep s name (content ++ ending)
      = if isTrueEnd name ending
        then ({ s with raw := none }, textOf content ++ [.closing name], rest)
        else (s, textUpTo (content ++ ending) rest) := by
  rw [rawStep, split]
  simp only [List.drop_left]

theorem HoldsNo.fillsRaw (raw : isRaw name) (h : HoldsNo (rawEnd? name) content) :
    FillsRaw name content := by
  intro more tokens later
  have named := isTagName_of_isRaw raw
  have split := h.splitEnding? (stopsAtBracket_rawEnd? named) (isEnding_raw named) more
  rw [List.append_assoc] at split ⊢
  have step : step { raw := some name } (content ++ ('<' :: '/' :: name.toList ++ '>' :: more))
      = ({}, textOf content ++ [.closing name], more) :=
    (rawStep_of_split _ split).trans (if_pos (isTrueEnd_closing raw more))
  have read := reads_step step (by simp; omega) later
  rw [List.append_assoc] at read
  exact read.like (alike_textOf content _)

theorem fillsRaw_nil (raw : isRaw name) : FillsRaw name [] :=
  (HoldsNo.of_not_mem (stopsAtBracket_rawEnd? (isTagName_of_isRaw raw)) List.not_mem_nil).fillsRaw
    raw

/-- What looks like an end but is none is passed over together with what is in front of it. -/
theorem passesRaw_of_split (m : RawMark name) (untrue : m.word.all isLetter = false)
    (split : ∀ more, splitEnding? (rawEnd? name) (content ++ m.chars ++ '>' :: more)
      = some (content, more)) : PassesRaw name (content ++ m.chars ++ ['>']) := by
  intro more tokens later
  have split := split more
  rw [List.append_assoc] at split
  have whole : content ++ (m.chars ++ '>' :: more) = (content ++ m.chars ++ ['>']) ++ more := by
    simp
  have step : step { raw := some name } (content ++ (m.chars ++ '>' :: more))
      = ({ raw := some name }, textOf (content ++ m.chars ++ ['>']), more) := by
    refine (rawStep_of_split _ split).trans ?_
    rw [m.isTrueEnd_append, untrue, if_neg (by simp), whole, textUpTo_append]
  rw [← whole]
  exact (reads_step step (by simp; omega) later).like (alike_textOf _ _)

/-- What happens in a raw element. -/
theorem rawStep_cases (raw : isRaw name) (s : State) (cs : List Char) :
    rawStep s name cs = (s, [], [])
      ∨ (∃ content rest, FillsRaw name content
        ∧ rawStep s name cs = ({ s with raw := none }, textOf content ++ [.closing name], rest))
      ∨ ∃ passed rest, PassesRaw name passed ∧ rawStep s name cs = (s, textOf passed, rest) := by
  have named := isTagName_of_isRaw raw
  cases split : splitEnding? (rawEnd? name) cs with
  | none =>
    rw [rawStep, split]
    exact .inl rfl
  | some piece =>
    obtain ⟨content, rest⟩ := piece
    obtain ⟨free, mark, plain, rfl, ends, again⟩ :=
      exists_of_splitEnding? (stopsAtBracket_rawEnd? named) split
    obtain ⟨m, whole⟩ := exists_of_rawEnd? named ends
    obtain rfl := List.append_cancel_right whole
    rw [List.append_assoc] at split
    rw [List.append_assoc, rawStep_of_split s split, m.isTrueEnd_append]
    cases true? : m.word.all isLetter with
    | true => exact .inr (.inl ⟨content, rest, free.fillsRaw raw, if_pos rfl⟩)
    | false =>
      have whole : content ++ (m.chars ++ '>' :: rest)
          = (content ++ m.chars ++ ['>']) ++ rest := by simp
      refine .inr (.inr ⟨_, rest, passesRaw_of_split m true? again, ?_⟩)
      rw [if_neg (by simp), whole, textUpTo_append]

end Vitae.Token
