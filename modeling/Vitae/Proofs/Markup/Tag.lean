import Vitae.Proofs.Markup.Escape

/-!
Tags read back. An opening tag gives the name it was written with and its attributes in their order,
their names in small letters and their values without escapes.
-/

namespace Vitae

open Html (escapeMarkup)

namespace Token

/-- Small letters and digits, of which the names of elements are made. -/
def isPlain (c : Char) : Bool := ('a' ≤ c && c ≤ 'z') || ('0' ≤ c && c ≤ '9')

def isTagName (name : String) : Bool := name.toList.head?.any isLetter && name.toList.all isPlain

theorem toNat_lt_of_isPlain {c : Char} (h : isPlain c) : c.toNat < 128 := by
  have : (97 ≤ c.toNat ∧ c.toNat ≤ 122) ∨ (48 ≤ c.toNat ∧ c.toNat ≤ 57) := by
    simpa [isPlain, Char.le_def, UInt32.le_iff_toNat_le] using h
  omega

/-- What holds of the plain characters among the first 128 holds of all plain ones. -/
@[elab_as_elim]
theorem isPlain_induction {p : Char → Prop} (each : ∀ n < 128, isPlain (.ofNat n) → p (.ofNat n))
    {c : Char} (h : isPlain c) : p c := by
  have small := each c.toNat (toNat_lt_of_isPlain h)
  rw [Char.ofNat_toNat] at small
  exact small h

theorem endsTagName_of_isPlain {c : Char} (h : isPlain c) : endsTagName c = false :=
  isPlain_induction (by decide) h

theorem isClosingChar_of_isPlain {c : Char} (h : isPlain c) : isClosingChar c :=
  isPlain_induction (by decide) h

theorem isBlank_of_isPlain {c : Char} (h : isPlain c) : Text.isBlank c = false :=
  isPlain_induction (by decide) h

theorem not_close_of_isPlain {c : Char} (h : isPlain c) : c ≠ '>' :=
  isPlain_induction (by decide) h

theorem lowerFrom_of_isPlain (passed : List Char) {cs : List Char} (h : ∀ c ∈ cs, isPlain c) :
    Text.lowerFrom passed cs = cs := by
  induction cs generalizing passed with
  | nil => rfl
  | cons c cs ih =>
    have plain := h c (by simp)
    have sigma : c ≠ 'Σ' := isPlain_induction (by decide) plain
    have lower : Text.lowerChar c = [c] := isPlain_induction (by decide) plain
    rw [Text.lowerFrom, ih _ fun d hd => h d (by simp [hd])]
    simp [sigma, lower]

/-- A name of an element as a list: a letter and plain characters. -/
theorem exists_cons_of_isTagName {name : String} (h : isTagName name) :
    ∃ c cs, name.toList = c :: cs ∧ isLetter c ∧ ∀ d ∈ c :: cs, isPlain d := by
  simp only [isTagName, Bool.and_eq_true, List.all_eq_true] at h
  obtain ⟨first, plain⟩ := h
  cases hn : name.toList with
  | nil => simp [hn] at first
  | cons c cs => exact ⟨c, cs, rfl, by simpa [hn] using first, by simpa [hn] using plain⟩

theorem not_close_mem_of_isTagName {name : String} (h : isTagName name) : '>' ∉ name.toList := by
  simp only [isTagName, Bool.and_eq_true, List.all_eq_true] at h
  exact fun mem => not_close_of_isPlain (h.2 _ mem) rfl

theorem lower_of_isTagName {name : String} (h : isTagName name) : Text.lower name = name := by
  simp only [isTagName, Bool.and_eq_true, List.all_eq_true] at h
  rw [Text.lower, lowerFrom_of_isPlain [] h.2, String.ofList_toList]

theorem takeWhile_append_stop {α : Type} {p : α → Bool} {xs : List α} {y : α} {ys : List α}
    (all : ∀ x ∈ xs, p x) (stop : p y = false) : (xs ++ y :: ys).takeWhile p = xs := by
  rw [List.takeWhile_append_of_pos all, List.takeWhile_cons_of_neg (by simp [stop]),
    List.append_nil]

/-- What an attribute of a name means, once its escapes are read. -/
def keptValue (tag name value : String) : String :=
  if holdsWords tag name then " ".intercalate (Text.words value) else value

theorem valueOf_escaped (tag name value : String) :
    valueOf tag name (value.toList.flatMap escapeMarkup) = keptValue tag name value := by
  simp [valueOf, keptValue, Reference.resolveValue_escaped]

def isAttributeName (name : String) : Bool :=
  !name.toList.isEmpty && name.toList.all isAttributeChar

theorem splitAt?_of_not_mem {mark : Char} {before : List Char} (h : mark ∉ before)
    (after : List Char) : splitAt? mark (before ++ mark :: after) = some (before, after) := by
  have run : (before ++ mark :: after).takeWhile (· ≠ mark) = before :=
    takeWhile_append_stop (fun c hc => by simpa using ne_of_mem_of_not_mem hc h) (by simp)
  simp only [splitAt?, run, List.drop_left]

theorem readValue?_quoted {quote : Char} (known : isQuote quote) {value : List Char}
    (free : quote ∉ value) (rest : List Char) :
    readValue? ('=' :: quote :: (value ++ quote :: rest)) = some ⟨value, quote, rest⟩ := by
  have equals : Text.isBlank '=' = false := by decide
  have both : quote = '"' ∨ quote = '\'' := by simpa [isQuote] using known
  have solid : Text.isBlank quote = false ∧ quote ≠ '=' := by
    rcases both with rfl | rfl <;> decide
  simp [readValue?, valueAfter?, equals, solid.1, solid.2, known, splitAt?_of_not_mem free]

/-- Where the attributes of a tag end. -/
def Ends (cs : List Char) : Prop := cs.head? = some '>' ∨ ∃ rest, cs = '/' :: '>' :: rest

theorem skipGap_of_ends (last : Char) {cs : List Char} (h : Ends cs) :
    skipGap last cs = (last, cs) := by
  rcases h with h | ⟨rest, rfl⟩
  · cases cs with
    | nil => simp at h
    | cons c cs =>
      obtain rfl : c = '>' := by simpa using h
      have blank : Text.isBlank '>' = false := by decide
      simp [skipGap, blank]
  · have blank : Text.isBlank '/' = false := by decide
    simp [skipGap, blank]

theorem readAttributes_of_ends (tag : String) (fuel : Nat) (attributes : List (String × String))
    (last : Char) {cs : List Char} (h : Ends cs) :
    readAttributes tag fuel attributes last cs = (attributes, cs) := by
  cases fuel with
  | zero => cases cs <;> rfl
  | succ fuel =>
    rcases h with h | ⟨rest, rfl⟩
    · cases cs with
      | nil => rfl
      | cons c cs =>
        obtain rfl : c = '>' := by simpa using h
        simp [readAttributes, startsName]
    · simp [readAttributes, startsName]

/-- A character that the name of an attribute can begin with. -/
def startsAttribute (c : Char) : Bool := !(Text.isBlank c || c == '/' || c == '>')

theorem startsAttribute_of_isAttributeChar {c : Char} (h : isAttributeChar c) :
    startsAttribute c := by
  simp only [isAttributeChar, Bool.not_eq_true', Bool.or_eq_false_iff] at h
  simp [startsAttribute, h]

/-- An attribute as it stands in a tag, its value in quotes. -/
structure Quoted where
  first : Char
  others : List Char
  quote : Char
  value : List Char
  starts : startsAttribute first
  each : ∀ c ∈ others, isAttributeChar c
  known : isQuote quote
  free : quote ∉ value

namespace Quoted

def name (q : Quoted) : List Char := q.first :: q.others

def chars (q : Quoted) : List Char := ' ' :: q.name ++ '=' :: q.quote :: q.value ++ [q.quote]

/-- An attribute that is put among those read before. -/
def put (tag : String) (attributes : List (String × String)) (q : Quoted) :
    List (String × String) :=
  putAttribute tag q.name q.value attributes

theorem chars_append (q : Quoted) (rest : List Char) : q.chars ++ rest
    = ' ' :: q.first :: (q.others ++ '=' :: q.quote :: (q.value ++ q.quote :: rest)) := by
  simp [chars, name]

/-- An attribute is read behind the space that parts it from what is in front of it. -/
theorem skipGap_chars (last : Char) (q : Quoted) (rest : List Char) :
    skipGap last (q.chars ++ rest) = (' ', (q.chars ++ rest).tail) := by
  have first := q.starts
  simp only [startsAttribute, Bool.not_eq_true', Bool.or_eq_false_iff] at first
  have space : Text.isBlank ' ' = true := by decide
  have slash : q.first ≠ '/' := by simpa using first.1.2
  rw [chars_append, skipGap, if_pos (by simp [space]), skipGap, if_neg (by simp [first.1.1, slash])]
  rfl

theorem readAttributes_append (tag : String) {ending : List Char} (ends : Ends ending)
    (written : List Quoted) (before : List (String × String)) (last : Char) (fuel : Nat)
    (enough : written.length ≤ fuel) :
    readAttributes tag fuel before (skipGap last (written.flatMap chars ++ ending)).1
        (skipGap last (written.flatMap chars ++ ending)).2
      = (written.foldl (put tag) before, ending) := by
  induction written generalizing before last fuel with
  | nil =>
    simp only [List.flatMap_nil, List.nil_append, skipGap_of_ends last ends]
    exact readAttributes_of_ends tag fuel before last ends
  | cons q written ih =>
    rw [List.flatMap_cons, List.append_assoc, skipGap_chars, chars_append, List.tail_cons]
    have first := q.starts
    simp only [startsAttribute, Bool.not_eq_true', Bool.or_eq_false_iff] at first
    have space : Text.isBlank ' ' = true := by decide
    have starts : startsName ' ' q.first = true := by simp [startsName, first, space]
    cases fuel with
    | zero => simp at enough
    | succ fuel =>
      have run : (q.others ++ '=' :: q.quote :: (q.value
          ++ q.quote :: (written.flatMap chars ++ ending))).takeWhile isAttributeChar = q.others :=
        takeWhile_append_stop q.each (by decide)
      rw [readAttributes, if_pos starts, run]
      simp only [List.length_cons, Nat.add_sub_cancel, List.drop_left,
        readValue?_quoted q.known q.free, Option.getD_some, List.foldl_cons]
      exact ih _ _ _ (by simpa using enough)

/-- A name ends where the attributes begin, or where the tag ends. -/
theorem exists_cons_append (written : List Quoted) {ending : List Char} (ends : Ends ending) :
    ∃ c cs, written.flatMap chars ++ ending = c :: cs ∧ endsTagName c := by
  cases written with
  | nil =>
    rcases ends with h | ⟨rest, rfl⟩
    · cases ending with
      | nil => simp at h
      | cons c cs =>
        obtain rfl : c = '>' := by simpa using h
        exact ⟨_, _, rfl, by decide⟩
    · exact ⟨_, _, rfl, by decide⟩
  | cons q written =>
    rw [List.flatMap_cons, List.append_assoc, chars_append]
    exact ⟨_, _, rfl, by decide⟩

theorem length_le_append (written : List Quoted) (rest : List Char) :
    written.length ≤ (written.flatMap chars ++ rest).length := by
  induction written with
  | nil => simp
  | cons q written ih =>
    rw [List.flatMap_cons, List.append_assoc, chars_append]
    simp only [List.length_cons, List.length_append] at ih ⊢
    omega

theorem length_le_skipGap (last : Char) (written : List Quoted) (rest : List Char) :
    written.length ≤ (skipGap last (written.flatMap chars ++ rest)).2.length := by
  cases written with
  | nil => simp
  | cons q written =>
    have later := length_le_append written rest
    rw [List.flatMap_cons, List.append_assoc, skipGap_chars, chars_append]
    simp only [List.tail_cons, List.length_cons, List.length_append] at later ⊢
    omega

end Quoted

/-- The end of a tag, which may be closed in itself. -/
def tagEnd (closed : Bool) : List Char := if closed then ['/', '>'] else ['>']

theorem ends_tagEnd (closed : Bool) (rest : List Char) : Ends (tagEnd closed ++ rest) := by
  cases closed with
  | true => exact .inr ⟨rest, rfl⟩
  | false => exact .inl rfl

/-- A tag is read up to its end, which tells whether it is closed in itself. -/
theorem opening?_quoted {name : List Char} (whole : ∀ c ∈ name, endsTagName c = false)
    (written : List Quoted) (closed : Bool) (rest : List Char) :
    opening? ('<' :: (name ++ (written.flatMap Quoted.chars ++ (tagEnd closed ++ rest))))
      = some ([.opening (Text.lower (String.ofList name))
        (written.foldl (Quoted.put (Text.lower (String.ofList name))) []) closed], rest) := by
  have ends := ends_tagEnd closed rest
  obtain ⟨c, cs, begun, stop⟩ := Quoted.exists_cons_append written ends
  have named : readName (name ++ (written.flatMap Quoted.chars ++ (tagEnd closed ++ rest)))
      = (name, written.flatMap Quoted.chars ++ (tagEnd closed ++ rest)) := by
    have run : (name ++ c :: cs).takeWhile (fun c => !endsTagName c) = name :=
      takeWhile_append_stop (fun d mem => by simp [whole d mem]) (by simp [stop])
    simp only [begun, readName, run, List.drop_left]
  have attributes := Quoted.readAttributes_append (Text.lower (String.ofList name)) ends written []
    (name.getLast?.getD '<') _
    (Quoted.length_le_skipGap (name.getLast?.getD '<') written (tagEnd closed ++ rest))
  simp only [opening?, List.drop_one, List.tail_cons, named, attributes]
  cases closed <;> rfl

theorem step_markup {cs rest : List Char} {tokens : List Token}
    (h : markup? ('<' :: cs) = some (tokens, rest)) :
    step {} ('<' :: cs) = ({ raw := rawIn tokens }, tokens, rest) := by
  simp [step, h]

theorem step_quoted {name : List Char} (letter : name.head?.any isLetter)
    (whole : ∀ c ∈ name, endsTagName c = false) (written : List Quoted) (closed : Bool)
    (rest : List Char) {token : Token}
    (same : .opening (Text.lower (String.ofList name))
      (written.foldl (Quoted.put (Text.lower (String.ofList name))) []) closed = token) :
    step {} ('<' :: (name ++ (written.flatMap Quoted.chars ++ (tagEnd closed ++ rest))))
      = ({ raw := rawIn [token] }, [token], rest) := by
  have read := opening?_quoted whole written closed rest
  cases name with
  | nil => cases letter
  | cons c cs =>
    have first : isLetter c := by simpa using letter
    apply step_markup
    rw [List.cons_append] at read ⊢
    rw [markup?, List.drop_one, List.tail_cons, ← same]
    split
    case h_1 mark => exact absurd first (by rw [(List.cons.inj mark).1]; decide)
    case h_2 mark => exact absurd first (by rw [(List.cons.inj mark).1]; decide)
    case h_3 mark => exact absurd first (by rw [(List.cons.inj mark).1]; decide)
    case h_4 => rw [if_pos (by simp [first]), read]

/-! Tags that are written -/

/-- An attribute as it is put among those read before. -/
def putWritten (tag : String) (attributes : List (String × String)) (pair : String × String) :
    List (String × String) :=
  putMember (Text.lower pair.1) (keptValue tag (Text.lower pair.1) pair.2) attributes

theorem exists_cons_of_isAttributeName {name : String} (h : isAttributeName name) :
    ∃ c cs, name.toList = c :: cs ∧ ∀ d ∈ c :: cs, isAttributeChar d := by
  simp only [isAttributeName, Bool.and_eq_true, List.all_eq_true] at h
  cases hn : name.toList with
  | nil => simp [hn] at h
  | cons c cs => exact ⟨c, cs, rfl, by simpa [hn] using h.2⟩

theorem exists_quoted {pair : String × String} (h : isAttributeName pair.1) :
    ∃ q : Quoted, q.chars = Html.attributeChars escapeMarkup pair
      ∧ ∀ tag attributes, q.put tag attributes = putWritten tag attributes pair := by
  obtain ⟨name, value⟩ := pair
  obtain ⟨c, cs, hn, each⟩ := exists_cons_of_isAttributeName h
  refine ⟨⟨c, cs, '"', value.toList.flatMap escapeMarkup,
    startsAttribute_of_isAttributeChar (each c List.mem_cons_self),
    fun d mem => each d (List.mem_cons_of_mem _ mem), rfl, quote_not_mem_escaped _⟩, ?_, ?_⟩
  · simp only at hn
    simp [Quoted.chars, Quoted.name, Html.attributeChars, hn]
  · intro tag attributes
    simp only at hn
    simp only [Quoted.put, Quoted.name, putAttribute, putWritten, ← hn, String.ofList_toList,
      valueOf_escaped]

/-- A tag whose name and attribute names can be read back. -/
structure IsWritable (tag : Tag) : Prop where
  name : isTagName tag.name
  names : ∀ pair ∈ tag.attributes, isAttributeName pair.1

theorem exists_quotedAll {attributes : List (String × String)}
    {chars : String × String → List Char}
    (each : ∀ pair ∈ attributes, ∃ q : Quoted, q.chars = chars pair
      ∧ ∀ tag before, q.put tag before = putWritten tag before pair) :
    ∃ written : List Quoted, written.flatMap Quoted.chars = attributes.flatMap chars
      ∧ ∀ tag before, written.foldl (Quoted.put tag) before
        = attributes.foldl (putWritten tag) before := by
  induction attributes with
  | nil => exact ⟨[], rfl, fun _ _ => rfl⟩
  | cons pair attributes ih =>
    obtain ⟨q, own, put⟩ := each pair List.mem_cons_self
    obtain ⟨written, others, putAll⟩ := ih fun p mem => each p (List.mem_cons_of_mem _ mem)
    refine ⟨q :: written, by simp only [List.flatMap_cons, own, others], fun tag before => ?_⟩
    rw [List.foldl_cons, List.foldl_cons, putAll, put]

/-- The attributes that a reader of a tag finds. -/
def readBack (tag : Tag) : List (String × String) := tag.attributes.foldl (putWritten tag.name) []

theorem step_opening {tag : Tag} (h : IsWritable tag) (rest : List Char) :
    step {} (Html.openChars escapeMarkup tag ++ rest)
      = ({ raw := rawIn [.opening tag.name (readBack tag) (tag.form = .selfClosed)] },
        [.opening tag.name (readBack tag) (tag.form = .selfClosed)], rest) := by
  have name := h.name
  simp only [isTagName, Bool.and_eq_true, List.all_eq_true] at name
  have whole : ∀ c ∈ tag.name.toList, endsTagName c = false :=
    fun c mem => endsTagName_of_isPlain (name.2 c mem)
  obtain ⟨written, chars, put⟩ := exists_quotedAll fun pair mem => exists_quoted (h.names pair mem)
  have token : Token.opening (Text.lower (String.ofList tag.name.toList))
      (written.foldl (Quoted.put (Text.lower (String.ofList tag.name.toList))) [])
        (tag.form = .selfClosed)
      = .opening tag.name (readBack tag) (tag.form = .selfClosed) := by
    rw [String.ofList_toList, lower_of_isTagName h.name, put, readBack]
  have read := step_quoted name.1 whole written (tag.form = .selfClosed) rest token
  rw [chars] at read
  rw [← read, Html.openChars, tagEnd]
  simp

theorem closingTokens_of_isTagName {name : String} (h : isTagName name) :
    closingTokens name.toList = [.closing name] := by
  obtain ⟨c, cs, hn, letter, plain⟩ := exists_cons_of_isTagName h
  have sole : soleName? name.toList = some name.toList := by
    have start : (c :: cs).dropWhile Text.isBlank = c :: cs :=
      List.dropWhile_cons_of_neg (by simp [isBlank_of_isPlain (plain c (by simp))])
    have run : (c :: cs).takeWhile isClosingChar = c :: cs := by
      have whole : ((c :: cs) ++ []).takeWhile isClosingChar = _ :=
        List.takeWhile_append_of_pos fun d hd => isClosingChar_of_isPlain (plain d hd)
      simpa using whole
    simp [hn, soleName?, start, run, letter]
  simp [closingTokens, sole, lower_of_isTagName h]

theorem step_closing {name : String} (absent : '>' ∉ name.toList)
    (sole : closingTokens name.toList = [.closing name]) (rest : List Char) :
    step {} ('<' :: '/' :: (name.toList ++ '>' :: rest)) = ({}, [.closing name], rest) := by
  have markup : markup? ('<' :: '/' :: (name.toList ++ '>' :: rest))
      = some ([.closing name], rest) := by
    simp [markup?, splitAt?_of_not_mem absent, sole]
  exact step_markup markup

theorem step_doctype {s : String} (h : '>' ∉ s.toList) (rest : List Char) :
    step {} (Html.bracketChars .doctype s ++ rest) = ({}, [.bracketed .doctype s], rest) := by
  have word : lowerAscii ['D', 'O', 'C', 'T', 'Y', 'P', 'E'] = "doctype" := by decide
  have absent : '>' ∉ ['D', 'O', 'C', 'T', 'Y', 'P', 'E', ' '] ++ s.toList := by simp [h]
  have content := splitAt?_of_not_mem absent rest
  simp only [List.cons_append, List.nil_append] at content
  simp only [Html.bracketChars, Bracket.opening, Bracket.ending, String.reduceToList,
    List.cons_append, List.nil_append, List.append_assoc]
  have markup : markup? ('<' :: '!' :: 'D' :: 'O' :: 'C' :: 'T' :: 'Y' :: 'P' :: 'E' :: ' '
      :: (s.toList ++ '>' :: rest)) = some ([.bracketed .doctype s], rest) := by
    simp [markup?, declaration?, content, word]
  exact step_markup markup

/-! The content of raw elements -/

theorem dropName?_self {name : List Char} (h : ∀ c ∈ name, isPlain c) (rest : List Char) :
    dropName? name (name ++ rest) = some rest := by
  induction name with
  | nil => cases rest <;> rfl
  | cons c name ih =>
    have same : resembles c c := isPlain_induction (by decide) (h c (by simp))
    rw [List.cons_append, dropName?, if_pos same, ih fun d hd => h d (by simp [hd])]

theorem rawEnd?_closing {name : String} (h : isTagName name) (rest : List Char) :
    rawEnd? name ('<' :: '/' :: (name.toList ++ '>' :: rest)) = some rest := by
  obtain ⟨c, cs, hn, -, plain⟩ := exists_cons_of_isTagName h
  have start : (name.toList ++ '>' :: rest).dropWhile Text.isBlank
      = name.toList ++ '>' :: rest := by
    rw [hn, List.cons_append]
    exact List.dropWhile_cons_of_neg (by simp [isBlank_of_isPlain (plain c (by simp))])
  have bracket : bracketEnd? ('>' :: rest) = some rest := by
    have : Text.isBlank '>' = false := by decide
    simp [bracketEnd?, this]
  rw [rawEnd?, start, dropName?_self (hn ▸ plain), Option.bind_some, bracket]

theorem splitEnding?_rawEnd? {name : String} (h : isTagName name) {content : List Char}
    (free : '<' ∉ content) (rest : List Char) :
    splitEnding? (rawEnd? name) (content ++ '<' :: '/' :: (name.toList ++ '>' :: rest))
      = some (content, rest) := by
  induction content with
  | nil => rw [List.nil_append, splitEnding?, rawEnd?_closing h]
  | cons c content ih =>
    have less : c ≠ '<' := fun same => free (by simp [same])
    have none : rawEnd? name (c :: (content ++ '<' :: '/' :: (name.toList ++ '>' :: rest)))
        = none := by
      rw [rawEnd?]
      rintro rest' same
      exact less (List.cons.inj same).1
    rw [List.cons_append, splitEnding?, none, ih fun mem => free (by simp [mem])]
    rfl

theorem isTagName_of_isRaw {name : String} (h : isRaw name) : isTagName name := by
  simp only [isRaw, Bool.or_eq_true, beq_iff_eq] at h
  rcases h with rfl | rfl <;> decide

/-- The content of a raw element is read as it stands up to the end of the element, if it holds no
angle bracket. -/
theorem step_raw {name : String} (h : isRaw name) {content : List Char} (free : '<' ∉ content)
    (rest : List Char) :
    step { raw := some name } (content ++ '<' :: '/' :: (name.toList ++ '>' :: rest))
      = ({}, textOf content ++ [.closing name], rest) := by
  have trueEnd : isTrueEnd name ('<' :: '/' :: (name.toList ++ '>' :: rest)) := by
    simp only [isRaw, Bool.or_eq_true, beq_iff_eq] at h
    rcases h with rfl | rfl <;> rfl
  simp [step, rawStep, splitEnding?_rawEnd? (isTagName_of_isRaw h) free, trueEnd]

end Token

end Vitae
