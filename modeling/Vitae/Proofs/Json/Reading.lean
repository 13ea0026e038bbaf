import Vitae.Proofs.Json.Lexical

/-!
The reader and the grammar. What is read as a value is that value, and whatever is JSON is read, up
to the limits of the reader. A text that is refused for a limit has a number that is too long in it,
too many brackets, or half of a surrogate pair, whether it is JSON or not.
-/

namespace Vitae.Json

/-! What is read -/

section Soundness

variable {depth inner fuel : Nat} {cs front rest acc : List Char}
  {ok inside : List Char → Json → Prop}

def isOpener (c : Char) : Bool := c == '[' || c == '\x7b'

/-- How many lists and objects a text can open. -/
def openers (cs : List Char) : Nat := cs.countP isOpener

/-- A limit that a reader gives up at is reached in the text. -/
structure Excused (depth : Nat) (cs : List Char) (e : ReadFault) : Prop where
  digits : e.problem = .digitLimit → HasLongNumber cs
  nesting : e.problem = .nestingLimit → depth < openers cs
  halves : e.problem = .loneSurrogate → HasLoneHalf cs

/-- What is read of a text is as it should be, and a fault is excused. -/
def IsRight (depth : Nat) (cs : List Char) (ok : List Char → Json → Prop) : Read Json → Prop
  | .ok (v, after) => ∃ piece, cs = piece ++ after.rest ∧ ok piece v
  | .error e => Excused depth cs e

theorem HasLongNumber.append (long : HasLongNumber rest) (front : List Char) :
    HasLongNumber (front ++ rest) := by
  obtain ⟨before, ds, after, rfl, all, many⟩ := long
  exact ⟨front ++ before, ds, after, by rw [List.append_assoc], all, many⟩

theorem HasLoneHalf.append (lone : HasLoneHalf rest) (front : List Char) :
    HasLoneHalf (front ++ rest) := by
  obtain ⟨before, body, codes, after, rfl, half⟩ := lone
  exact ⟨front ++ before, body, codes, after, by rw [List.append_assoc], half⟩

theorem excused_of_not_isLimit {e : ReadFault} (other : ¬ e.IsLimit) : Excused depth cs e :=
  ⟨fun digits => absurd (.inl digits) other, fun nesting => absurd (.inr (.inl nesting)) other,
    fun halves => absurd (.inr (.inr halves)) other⟩

/-- A string can only be refused for half of a surrogate pair. -/
theorem excused_of_readString {e : ReadFault} {start : Nat}
    (read : readString start rest = .error e) : Excused depth ('"' :: rest) e := by
  by_cases limit : e.IsLimit
  · obtain ⟨problem, lone⟩ := hasLoneHalf_of_readString read limit
    exact ⟨fun digits => by simp [problem] at digits, fun nesting => by simp [problem] at nesting,
      fun _ => lone⟩
  · exact excused_of_not_isLimit limit

/-- An excuse further on in a text is one for the whole of it. -/
theorem Excused.append {e : ReadFault} (excuse : Excused inner rest e) (same : cs = front ++ rest)
    (deeper : depth ≤ inner + openers front) : Excused depth cs e := by
  subst same
  refine ⟨fun digits => (excuse.digits digits).append front, fun nesting => ?_,
    fun halves => (excuse.halves halves).append front⟩
  have inside := excuse.nesting nesting
  rw [openers, List.countP_append]
  exact Nat.lt_of_le_of_lt deeper (Nat.add_comm .. ▸ Nat.add_lt_add_left inside _)

theorem IsRight.append {r : Read Json} (right : IsRight inner rest inside r)
    (same : cs = front ++ rest) (deeper : depth ≤ inner + openers front)
    (whole : ∀ piece v, inside piece v → ok (front ++ piece) v) : IsRight depth cs ok r := by
  cases r with
  | error e => exact Excused.append right same deeper
  | ok found =>
    obtain ⟨piece, rfl, means⟩ := right
    exact ⟨front ++ piece, by rw [same, List.append_assoc], whole piece found.1 means⟩

/-- The pieces that the reader looks for. -/
def ReadsValue (fuel : Nat) : Prop := ∀ depth (c : Cursor), 2 * c.rest.length + 1 ≤ fuel →
  IsRight depth c.rest (fun piece v => Means .reader depth piece (.value v))
    (readValue fuel depth c)

def ReadsItems (fuel : Nat) : Prop := ∀ depth (c : Cursor) acc, 2 * c.rest.length + 2 ≤ fuel →
  IsRight depth c.rest (fun piece v => ∃ items, Means .reader depth piece (.items items)
    ∧ v = .list (acc.reverse ++ items)) (readItems fuel depth c acc)

def ReadsMembers (fuel : Nat) : Prop := ∀ depth (c : Cursor) acc, 2 * c.rest.length + 2 ≤ fuel →
  IsRight depth c.rest (fun piece v => ∃ members, Means .reader depth piece (.members members)
    ∧ v = .object (members.foldl (fun all member => putMember member.1 member.2 all) acc))
    (readMembers fuel depth c acc)

/-- What is read behind an opening bracket is nested one deeper. -/
theorem IsRight.opened {r : Read Json} {opener : Char} {bs : List Char}
    (right : IsRight inner rest inside r) (opens : isOpener opener)
    (same : cs = opener :: (bs ++ rest))
    (whole : ∀ piece v, inside piece v → ok (opener :: (bs ++ piece)) v) :
    IsRight (inner + 1) cs ok r := by
  have front : cs = (opener :: bs) ++ rest := same
  refine right.append front ?_ whole
  rw [openers, List.countP_cons_of_pos opens]
  omega

theorem isRight_of_deepest {opener : Char} (opens : isOpener opener) (same : cs = opener :: rest)
    (p : Nat) : IsRight 0 cs ok (faultAt .nestingLimit p) := by
  refine ⟨fun digits => (by cases digits), fun _ => ?_, fun halves => (by cases halves)⟩
  rw [same, openers, List.countP_cons_of_pos opens]
  omega

theorem readsValue_succ (items : ReadsItems fuel) (members : ReadsMembers fuel) :
    ReadsValue (fuel + 1) := by
  intro depth c enough
  rw [readValue]
  split
  · next rest same =>
    split
    · next s after read =>
      obtain ⟨body, rfl, said⟩ := exists_said_of_readString read
      exact ⟨'"' :: (body ++ ['"']), by rw [same]; simp, .string (said _)⟩
    · next e read =>
      rw [same]
      exact excused_of_readString read
  · next rest same =>
    cases depth with
    | zero => exact isRight_of_deepest rfl same _
    | succ inner =>
      rw [if_neg (Nat.succ_ne_zero inner)]
      obtain ⟨bs, blank, behind⟩ := Cursor.exists_blanks ⟨rest, c.position + 1⟩
      dsimp only at behind ⊢
      generalize Cursor.skipBlank ⟨rest, c.position + 1⟩ = after at behind ⊢
      rw [behind] at same
      have length := congrArg List.length same
      simp only [List.length_cons, List.length_append] at length
      split
      · next rest' close =>
        exact ⟨'\x7b' :: (bs ++ ['\x7d']), by rw [same, close]; simp, .emptyObject blank⟩
      · refine (members inner after [] (by omega)).opened rfl same ?_
        rintro piece v ⟨members, means, rfl⟩
        exact .object blank means
  · next rest same =>
    cases depth with
    | zero => exact isRight_of_deepest rfl same _
    | succ inner =>
      rw [if_neg (Nat.succ_ne_zero inner)]
      obtain ⟨bs, blank, behind⟩ := Cursor.exists_blanks ⟨rest, c.position + 1⟩
      dsimp only at behind ⊢
      generalize Cursor.skipBlank ⟨rest, c.position + 1⟩ = after at behind ⊢
      rw [behind] at same
      have length := congrArg List.length same
      simp only [List.length_cons, List.length_append] at length
      split
      · next rest' close =>
        exact ⟨'[' :: (bs ++ [']']), by rw [same, close]; simp, .emptyList blank⟩
      · refine (items inner after [] (by omega)).opened rfl same ?_
        rintro piece v ⟨items, means, rfl⟩
        exact .list blank means
  · split
    · next found known =>
      obtain ⟨v, after⟩ := found
      obtain ⟨word, known, same⟩ := exists_literal_of_readLiteral? known
      exact ⟨word, same, .literal known⟩
    · cases read : readNumber c with
      | error e =>
        by_cases limit : e.IsLimit
        · obtain ⟨problem, long⟩ := hasLongNumber_of_readNumber read limit
          exact ⟨fun _ => long, fun nesting => by simp [problem] at nesting,
            fun halves => by simp [problem] at halves⟩
        · exact excused_of_not_isLimit limit
      | ok found =>
        obtain ⟨v, after⟩ := found
        obtain ⟨piece, same, number⟩ := exists_number_of_readNumber read
        exact ⟨piece, same, .number number⟩

theorem readsItems_succ (value : ReadsValue fuel) (items : ReadsItems fuel) :
    ReadsItems (fuel + 1) := by
  intro depth c acc enough
  have first := value depth c (by omega)
  rw [readItems]
  generalize readValue fuel depth c = read at first ⊢
  rcases read with e | ⟨item, after⟩
  · exact first
  obtain ⟨piece, same, means⟩ := first
  obtain ⟨bs, blank, behind⟩ := after.exists_blanks
  dsimp only
  generalize after.skipBlank = after at behind ⊢
  rw [behind] at same
  split
  · next rest close =>
    refine ⟨piece ++ (bs ++ [']']), ?_, [item], .lastItem means blank, by simp⟩
    rw [same, close]
    simp
  · next rest comma =>
    obtain ⟨bs', blank', behind'⟩ := Cursor.exists_blanks ⟨rest, after.position + 1⟩
    dsimp only at behind' ⊢
    generalize Cursor.skipBlank ⟨rest, after.position + 1⟩ = next at behind' ⊢
    have whole : c.rest = (piece ++ (bs ++ ',' :: bs')) ++ next.rest := by
      rw [same, comma, behind']
      simp
    have length := congrArg List.length whole
    simp only [List.length_append, List.length_cons] at length
    refine (items depth next (item :: acc) (by omega)).append whole (Nat.le_add_right _ _) ?_
    rintro more v ⟨items, means', rfl⟩
    refine ⟨item :: items, ?_, by simp⟩
    simpa only [List.append_assoc, List.cons_append] using .item means blank blank' means'
  · exact excused_of_not_isLimit (by simp [ReadFault.IsLimit])

theorem readsMembers_succ (value : ReadsValue fuel) (members : ReadsMembers fuel) :
    ReadsMembers (fuel + 1) := by
  intro depth c acc enough
  rw [readMembers]
  split
  case h_2 => exact excused_of_not_isLimit (by simp [ReadFault.IsLimit])
  next rest same =>
  split
  · next e read =>
    rw [same]
    exact excused_of_readString read
  next key after read =>
  obtain ⟨name, rfl, said⟩ := exists_said_of_readString read
  obtain ⟨bs, blank, behind⟩ := after.exists_blanks
  dsimp only
  generalize after.skipBlank = after at behind ⊢
  split
  case h_2 => exact excused_of_not_isLimit (by simp [ReadFault.IsLimit])
  next rest colon =>
  obtain ⟨bs', blank', behind'⟩ := Cursor.exists_blanks ⟨rest, after.position + 1⟩
  dsimp only at behind'
  generalize Cursor.skipBlank ⟨rest, after.position + 1⟩ = start at behind' ⊢
  have front : c.rest = ('"' :: (name ++ '"' :: (bs ++ ':' :: bs'))) ++ start.rest := by
    rw [same, behind, colon, behind']
    simp
  have length := congrArg List.length front
  simp only [List.length_append, List.length_cons] at length
  have first := value depth start (by omega)
  generalize readValue fuel depth start = read at first ⊢
  rcases read with e | ⟨v, after'⟩
  · exact Excused.append first front (Nat.le_add_right _ _)
  obtain ⟨piece, same', means⟩ := first
  obtain ⟨bs'', blank'', behind''⟩ := after'.exists_blanks
  dsimp only
  generalize after'.skipBlank = after' at behind'' ⊢
  rw [same', behind''] at front
  split
  · next rest close =>
    refine ⟨_, ?_, [_], .lastMember (said _) blank blank' means blank'', rfl⟩
    rw [front, close]
    simp
  · next rest comma =>
    obtain ⟨gap, spaced, behindGap⟩ := Cursor.exists_blanks ⟨rest, after'.position + 1⟩
    dsimp only at behindGap ⊢
    generalize Cursor.skipBlank ⟨rest, after'.position + 1⟩ = next at behindGap ⊢
    have whole : c.rest = ('"' :: (name ++ '"' :: (bs ++ ':' :: (bs'
        ++ (piece ++ (bs'' ++ ',' :: gap)))))) ++ next.rest := by
      rw [front, comma, behindGap]
      simp
    have length := congrArg List.length whole
    simp only [List.length_append, List.length_cons] at length
    refine (members depth next _ (by omega)).append whole (Nat.le_add_right _ _) ?_
    rintro more v' ⟨members, means', rfl⟩
    refine ⟨(_, v) :: members, ?_, rfl⟩
    simpa only [List.append_assoc, List.cons_append] using
      .member (said _) blank blank' means blank'' spaced means'
  · exact excused_of_not_isLimit (by simp [ReadFault.IsLimit])

/-- The fuel of the reader is enough, so that all it can give up at is a limit. -/
theorem reads (fuel : Nat) : ReadsValue fuel ∧ ReadsItems fuel ∧ ReadsMembers fuel := by
  induction fuel with
  | zero =>
    exact ⟨fun _ _ enough => absurd enough (by omega), fun _ _ _ enough => absurd enough (by omega),
      fun _ _ _ enough => absurd enough (by omega)⟩
  | succ fuel ih =>
    obtain ⟨value, items, members⟩ := ih
    exact ⟨readsValue_succ items members, readsItems_succ value items,
      readsMembers_succ value members⟩

end Soundness

/-! What is JSON -/

section Completeness

variable {limits : Limits} {depth depth' fuel n p : Nat} {cs rest bs : List Char} {v : Json}
  {meaning : Meaning}

theorem Means.exists_start (means : Means limits depth cs meaning) :
    ∃ c more, cs = c :: more ∧ startsValue c := by
  induction means with
  | string => exact ⟨_, _, rfl, rfl⟩
  | literal known =>
    obtain ⟨c, more, same, start, -⟩ := startsPlain_of_literal known
    exact ⟨c, more, same, start⟩
  | number number =>
    obtain ⟨c, more, same, start, -⟩ := number.startsPlain
    exact ⟨c, more, same, start⟩
  | emptyList | list | emptyObject | object | lastMember | member => exact ⟨_, _, rfl, rfl⟩
  | lastItem _ _ ih | item _ _ _ _ ih =>
    obtain ⟨c, more, rfl, start⟩ := ih
    exact ⟨c, _, rfl, start⟩

theorem startsValue_spec {c : Char} (start : startsValue c) :
    ¬ isJsonBlank c ∧ c ≠ ']' ∧ c ≠ '\x7d' ∧ c ≠ '\ufeff' := by
  refine ⟨fun blank => ?_, ?_, ?_, ?_⟩
  · simp only [isJsonBlank, Bool.or_eq_true, beq_iff_eq, or_assoc] at blank
    rcases blank with rfl | rfl | rfl | rfl <;> exact absurd start (by decide)
  all_goals
    rintro rfl
    exact absurd start (by decide)

theorem Means.stop (means : Means limits depth cs meaning) (rest : List Char) :
    ∀ c ∈ (cs ++ rest).head?, ¬ isJsonBlank c ∧ c ≠ ']' ∧ c ≠ '\x7d' := by
  obtain ⟨first, more, rfl, start⟩ := means.exists_start
  intro c head
  obtain rfl : first = c := by simpa using head
  exact ⟨(startsValue_spec start).1, (startsValue_spec start).2.1, (startsValue_spec start).2.2.1⟩

/-- A value ends in front of blanks and of what may follow them. -/
theorem IsBlanks.ends (blank : IsBlanks bs) {c : Char} (next : c = ',' ∨ c = ']' ∨ c = '\x7d') :
    Ends (bs ++ c :: rest) := by
  intro first head
  cases bs with
  | nil =>
    obtain rfl : c = first := by simpa using head
    exact .inr next
  | cons b bs =>
    obtain rfl : b = first := by simpa using head
    exact .inl (blank b List.mem_cons_self)

/-- What a reader comes to at a text with a limited number of digits and of nested values: the value
and what is left of the text, or a limit of its own, if that is lower. -/
def Meets (limits : Limits) (depth depth' : Nat) (v : Json) (rest : List Char) (r : Read Json) :
    Prop :=
  (∃ q, r = .ok (v, ⟨rest, q⟩))
    ∨ (∃ e, r = .error e ∧ e.IsLimit) ∧ ¬ (limits.AreKept ∧ depth ≤ depth')

def MeetsMeaning (limits : Limits) (depth : Nat) (cs : List Char) : Meaning → Prop
  | .value v => ∀ fuel depth' p rest, 2 * (cs ++ rest).length + 1 ≤ fuel → Ends rest →
    Meets limits depth depth' v rest (readValue fuel depth' ⟨cs ++ rest, p⟩)
  | .items items => ∀ fuel depth' p rest acc, 2 * (cs ++ rest).length + 2 ≤ fuel →
    Meets limits depth depth' (.list (acc.reverse ++ items)) rest
      (readItems fuel depth' ⟨cs ++ rest, p⟩ acc)
  | .members members => ∀ fuel depth' p rest acc, 2 * (cs ++ rest).length + 2 ≤ fuel →
    Meets limits depth depth'
      (.object (members.foldl (fun all member => putMember member.1 member.2 all) acc)) rest
      (readMembers fuel depth' ⟨cs ++ rest, p⟩ acc)

theorem Meets.deeper {r : Read Json} (meets : Meets limits depth depth' v rest r) :
    Meets limits (depth + 1) (depth' + 1) v rest r :=
  meets.imp_right fun ⟨limit, other⟩ =>
    ⟨limit, fun both => other ⟨both.1, Nat.le_of_succ_le_succ both.2⟩⟩

theorem meets_of_deepest : Meets limits (depth + 1) 0 v rest (faultAt .nestingLimit p) :=
  .inr ⟨⟨_, rfl, .inr (.inl rfl)⟩, fun both => absurd both.2 (Nat.not_succ_le_zero depth)⟩

/-- Half of a surrogate pair is a limit that a text without one keeps. -/
theorem meets_of_lone (allowed : limits.halves) :
    Meets limits depth depth' v rest (faultAt .loneSurrogate p) :=
  .inr ⟨⟨_, rfl, .inr (.inr rfl)⟩, fun both => by simp [both.1.halves] at allowed⟩

/-- A text that begins with neither a quote nor a bracket is read as a word or a number. -/
theorem readValue_of_startsPlain (plain : StartsPlain cs) (rest : List Char) :
    readValue (fuel + 1) depth ⟨cs ++ rest, p⟩ = match readLiteral? ⟨cs ++ rest, p⟩ with
      | some found => .ok found
      | none => readNumber ⟨cs ++ rest, p⟩ := by
  obtain ⟨c, more, rfl, -, quote, brace, bracket⟩ := plain
  rw [List.cons_append, readValue]
  split
  · next same => exact absurd (List.cons.inj same).1 quote
  · next same => exact absurd (List.cons.inj same).1 brace
  · next same => exact absurd (List.cons.inj same).1 bracket
  · rfl

theorem meets_string {s : String} (said : IsSaid limits.halves cs s) :
    MeetsMeaning limits depth ('"' :: (cs ++ ['"'])) (.value (.string s)) := by
  rintro (_ | fuel) depth' p rest enough -
  · omega
  have text : '"' :: (cs ++ ['"']) ++ rest = '"' :: (cs ++ '"' :: rest) := by simp
  rw [readValue, text]
  rcases said.readString p rest with ⟨q, read⟩ | ⟨read, allowed⟩
  · exact .inl ⟨q, by simp only [read]⟩
  · simp only [read]
    exact meets_of_lone allowed

theorem meets_literal (known : (cs, v) ∈ literals) : MeetsMeaning limits depth cs (.value v) := by
  rintro (_ | fuel) depth' p rest enough -
  · omega
  obtain ⟨q, found⟩ := readLiteral?_append known rest p
  refine .inl ⟨q, ?_⟩
  rw [readValue_of_startsPlain (startsPlain_of_literal known), found]

theorem meets_number (number : IsNumber limits.digits cs v) :
    MeetsMeaning limits depth cs (.value v) := by
  rintro (_ | fuel) depth' p rest enough ends
  · omega
  rw [readValue_of_startsPlain number.startsPlain, number.readLiteral?_append rest p]
  rcases number.readNumber ends p with ⟨q, read⟩ | ⟨read, long⟩
  · exact .inl ⟨q, read⟩
  · exact .inr ⟨⟨_, read, .inl rfl⟩, fun both => absurd both.1.digits (Nat.not_le_of_lt long)⟩

theorem meets_emptyList (blank : IsBlanks bs) :
    MeetsMeaning limits (depth + 1) ('[' :: (bs ++ [']'])) (.value (.list [])) := by
  rintro (_ | fuel) (_ | depth') p rest enough -
  · omega
  · omega
  · exact meets_of_deepest
  obtain ⟨q, skip⟩ := blank.skipBlank_cons (c := ']') (by decide) rest (p + 1)
  have text : '[' :: (bs ++ [']']) ++ rest = '[' :: (bs ++ ']' :: rest) := by simp
  refine .inl ⟨q + 1, ?_⟩
  rw [readValue, text]
  simp only [skip, Nat.succ_ne_zero, if_false]

theorem meets_list {items : List Json} (blank : IsBlanks bs)
    (inner : Means limits depth cs (.items items))
    (meets : MeetsMeaning limits depth cs (.items items)) :
    MeetsMeaning limits (depth + 1) ('[' :: (bs ++ cs)) (.value (.list items)) := by
  rintro (_ | fuel) (_ | depth') p rest enough -
  · omega
  · omega
  · exact meets_of_deepest
  have start := inner.stop rest
  obtain ⟨q, skip⟩ := blank.skipBlank (fun c head => (start c head).1) (p + 1)
  have text : '[' :: (bs ++ cs) ++ rest = '[' :: (bs ++ (cs ++ rest)) := by simp
  simp only [text, List.length_append, List.length_cons] at enough
  rw [readValue, text]
  simp only [skip, Nat.succ_ne_zero, if_false]
  split
  · next more close => exact absurd rfl (start ']' (by rw [close]; rfl)).2.1
  · exact (meets fuel depth' q rest [] (by rw [List.length_append]; omega)).deeper

theorem meets_emptyObject (blank : IsBlanks bs) :
    MeetsMeaning limits (depth + 1) ('\x7b' :: (bs ++ ['\x7d'])) (.value (.object [])) := by
  rintro (_ | fuel) (_ | depth') p rest enough -
  · omega
  · omega
  · exact meets_of_deepest
  obtain ⟨q, skip⟩ := blank.skipBlank_cons (c := '\x7d') (by decide) rest (p + 1)
  have text : '\x7b' :: (bs ++ ['\x7d']) ++ rest = '\x7b' :: (bs ++ '\x7d' :: rest) := by simp
  refine .inl ⟨q + 1, ?_⟩
  rw [readValue, text]
  simp only [skip, Nat.succ_ne_zero, if_false]

theorem meets_object {members : List (String × Json)} (blank : IsBlanks bs)
    (inner : Means limits depth cs (.members members))
    (meets : MeetsMeaning limits depth cs (.members members)) :
    MeetsMeaning limits (depth + 1) ('\x7b' :: (bs ++ cs))
      (.value (.object (collectMembers members))) := by
  rintro (_ | fuel) (_ | depth') p rest enough -
  · omega
  · omega
  · exact meets_of_deepest
  have start := inner.stop rest
  obtain ⟨q, skip⟩ := blank.skipBlank (fun c head => (start c head).1) (p + 1)
  have text : '\x7b' :: (bs ++ cs) ++ rest = '\x7b' :: (bs ++ (cs ++ rest)) := by simp
  simp only [text, List.length_append, List.length_cons] at enough
  rw [readValue, text]
  simp only [skip, Nat.succ_ne_zero, if_false]
  split
  · next more close => exact absurd rfl (start '\x7d' (by rw [close]; rfl)).2.2
  · exact (meets fuel depth' q rest [] (by rw [List.length_append]; omega)).deeper

theorem meets_lastItem (first : MeetsMeaning limits depth cs (.value v)) (blank : IsBlanks bs) :
    MeetsMeaning limits depth (cs ++ (bs ++ [']'])) (.items [v]) := by
  rintro (_ | fuel) depth' p rest acc enough
  · omega
  have text : cs ++ (bs ++ [']']) ++ rest = cs ++ (bs ++ ']' :: rest) := by simp
  rw [text] at enough ⊢
  rw [readItems]
  rcases first fuel depth' p (bs ++ ']' :: rest) (by omega) (blank.ends (.inr (.inl rfl)))
    with ⟨q, read⟩ | ⟨⟨e, read, isLimit⟩, lower⟩
  · obtain ⟨q', skip⟩ := blank.skipBlank_cons (c := ']') (by decide) rest q
    refine .inl ⟨q' + 1, ?_⟩
    simp only [read, skip, List.reverse_cons]
  · exact .inr ⟨⟨e, by rw [read], isLimit⟩, lower⟩

theorem meets_item {bs' more : List Char} {items : List Json}
    (first : MeetsMeaning limits depth cs (.value v)) (blank : IsBlanks bs) (blank' : IsBlanks bs')
    (others : Means limits depth more (.items items))
    (meets : MeetsMeaning limits depth more (.items items)) :
    MeetsMeaning limits depth (cs ++ (bs ++ ',' :: (bs' ++ more))) (.items (v :: items)) := by
  rintro (_ | fuel) depth' p rest acc enough
  · omega
  have text : cs ++ (bs ++ ',' :: (bs' ++ more)) ++ rest
      = cs ++ (bs ++ ',' :: (bs' ++ (more ++ rest))) := by simp
  rw [text] at enough ⊢
  rw [readItems]
  rcases first fuel depth' p (bs ++ ',' :: (bs' ++ (more ++ rest))) (by omega)
      (blank.ends (.inl rfl))
    with ⟨q, read⟩ | ⟨⟨e, read, isLimit⟩, lower⟩
  · obtain ⟨q', skip⟩ := blank.skipBlank_cons (c := ',') (by decide) (bs' ++ (more ++ rest)) q
    obtain ⟨q'', skip'⟩ := blank'.skipBlank (fun c head => (others.stop rest c head).1) (q' + 1)
    simp only [List.length_append, List.length_cons] at enough
    have after := meets fuel depth' q'' rest (v :: acc) (by rw [List.length_append]; omega)
    rw [List.reverse_cons, List.append_assoc, List.singleton_append] at after
    simp only [read, skip, skip']
    exact after
  · exact .inr ⟨⟨e, by rw [read], isLimit⟩, lower⟩

/-- A member is read up to its value: past its key, then to the colon, and then past it. Or else its
key is refused. -/
theorem exists_read_key {key bs' text : List Char} {s : String} (said : IsSaid limits.halves key s)
    (blank : IsBlanks bs) (blank' : IsBlanks bs') (start : ∀ c ∈ text.head?, ¬ isJsonBlank c)
    (p : Nat) :
    readString p (key ++ '"' :: (bs ++ ':' :: (bs' ++ text))) = faultAt .loneSurrogate p
        ∧ limits.halves
      ∨ ∃ q q' q'', readString p (key ++ '"' :: (bs ++ ':' :: (bs' ++ text)))
          = .ok (s, ⟨bs ++ ':' :: (bs' ++ text), q⟩)
        ∧ Cursor.skipBlank ⟨bs ++ ':' :: (bs' ++ text), q⟩ = ⟨':' :: (bs' ++ text), q'⟩
        ∧ Cursor.skipBlank ⟨bs' ++ text, q' + 1⟩ = ⟨text, q''⟩ := by
  refine (said.readString p (bs ++ ':' :: (bs' ++ text))).symm.imp_right ?_
  rintro ⟨q, read⟩
  obtain ⟨q', colon⟩ := blank.skipBlank_cons (c := ':') (by decide) (bs' ++ text) q
  obtain ⟨q'', value⟩ := blank'.skipBlank start (q' + 1)
  exact ⟨q, q', q'', read, colon, value⟩

theorem meets_lastMember {key bs' bs'' : List Char} {s : String}
    (said : IsSaid limits.halves key s) (blank : IsBlanks bs) (blank' : IsBlanks bs')
    (value : Means limits depth cs (.value v))
    (first : MeetsMeaning limits depth cs (.value v)) (blank'' : IsBlanks bs'') :
    MeetsMeaning limits depth
      ('"' :: (key ++ '"' :: (bs ++ ':' :: (bs' ++ (cs ++ (bs'' ++ ['\x7d']))))))
      (.members [(s, v)]) := by
  rintro (_ | fuel) depth' p rest acc enough
  · omega
  have text : '"' :: (key ++ '"' :: (bs ++ ':' :: (bs' ++ (cs ++ (bs'' ++ ['\x7d']))))) ++ rest
      = '"' :: (key ++ '"' :: (bs ++ ':' :: (bs' ++ (cs ++ (bs'' ++ '\x7d' :: rest))))) := by simp
  rw [text] at enough ⊢
  rw [readMembers]
  rcases exists_read_key said blank blank'
      (fun c head => (value.stop (bs'' ++ '\x7d' :: rest) c head).1) p
    with ⟨name, allowed⟩ | ⟨_, _, q, name, colon, start⟩
  · simp only [name]
    exact meets_of_lone allowed
  simp only [name, colon, start]
  simp only [List.length_append, List.length_cons] at enough
  rcases first fuel depth' q (bs'' ++ '\x7d' :: rest)
      (by simp only [List.length_append, List.length_cons]; omega) (blank''.ends (.inr (.inr rfl)))
    with ⟨q, read⟩ | ⟨⟨e, read, isLimit⟩, lower⟩
  · obtain ⟨q', skip⟩ := blank''.skipBlank_cons (c := '\x7d') (by decide) rest q
    refine .inl ⟨q' + 1, ?_⟩
    simp only [read, skip, List.foldl_cons, List.foldl_nil]
  · exact .inr ⟨⟨e, by rw [read], isLimit⟩, lower⟩

theorem meets_member {key bs' bs'' gap more : List Char} {s : String}
    {members : List (String × Json)} (said : IsSaid limits.halves key s) (blank : IsBlanks bs)
    (blank' : IsBlanks bs')
    (value : Means limits depth cs (.value v)) (first : MeetsMeaning limits depth cs (.value v))
    (blank'' : IsBlanks bs'') (spaced : IsBlanks gap)
    (others : Means limits depth more (.members members))
    (meets : MeetsMeaning limits depth more (.members members)) :
    MeetsMeaning limits depth
      ('"' :: (key ++ '"' :: (bs ++ ':' :: (bs' ++ (cs ++ (bs'' ++ ',' :: (gap ++ more)))))))
      (.members ((s, v) :: members)) := by
  rintro (_ | fuel) depth' p rest acc enough
  · omega
  have text : '"' :: (key ++ '"' :: (bs ++ ':' :: (bs' ++ (cs ++ (bs''
        ++ ',' :: (gap ++ more)))))) ++ rest
      = '"' :: (key ++ '"' :: (bs ++ ':' :: (bs' ++ (cs ++ (bs''
        ++ ',' :: (gap ++ (more ++ rest))))))) := by simp
  rw [text] at enough ⊢
  rw [readMembers]
  rcases exists_read_key said blank blank'
      (fun c head => (value.stop (bs'' ++ ',' :: (gap ++ (more ++ rest))) c head).1) p
    with ⟨name, allowed⟩ | ⟨_, _, q, name, colon, start⟩
  · simp only [name]
    exact meets_of_lone allowed
  simp only [name, colon, start]
  simp only [List.length_append, List.length_cons] at enough
  rcases first fuel depth' q (bs'' ++ ',' :: (gap ++ (more ++ rest)))
      (by simp only [List.length_append, List.length_cons]; omega) (blank''.ends (.inl rfl))
    with ⟨q, read⟩ | ⟨⟨e, read, isLimit⟩, lower⟩
  · obtain ⟨q', skip⟩ := blank''.skipBlank_cons (c := ',') (by decide) (gap ++ (more ++ rest)) q
    obtain ⟨q'', skip'⟩ := spaced.skipBlank (fun c head => (others.stop rest c head).1) (q' + 1)
    have after := meets fuel depth' q'' rest (putMember s v acc)
      (by rw [List.length_append]; omega)
    simp only [read, skip, skip']
    exact after
  · exact .inr ⟨⟨e, by rw [read], isLimit⟩, lower⟩

/-- Whatever is JSON is read up to the limits of the reader. -/
theorem Means.meets (means : Means limits depth cs meaning) :
    MeetsMeaning limits depth cs meaning := by
  induction means with
  | string said => exact meets_string said
  | literal known => exact meets_literal known
  | number number => exact meets_number number
  | emptyList blank => exact meets_emptyList blank
  | list blank inner ih => exact meets_list blank inner ih
  | emptyObject blank => exact meets_emptyObject blank
  | object blank inner ih => exact meets_object blank inner ih
  | lastItem first blank ih => exact meets_lastItem ih blank
  | item first blank blank' others ih ih' => exact meets_item ih blank blank' others ih'
  | lastMember said blank blank' first blank'' ih =>
    exact meets_lastMember said blank blank' first ih blank''
  | member said blank blank' first blank'' spaced others ih ih' =>
    exact meets_member said blank blank' first ih blank'' spaced others ih'

end Completeness

/-! Whole texts -/

section Documents

variable {limits : Limits} {depth : Nat} {text : List Char} {v : Json} {e : ReadFault}

/-- What the first value of a text is read as. -/
theorem exists_blanks_isRight (text : List Char) : ∃ bs rest, IsBlanks bs ∧ text = bs ++ rest
    ∧ IsRight nestingLimit rest (fun piece v => Means .reader nestingLimit piece (.value v))
      (readValue (2 * text.length + 2) nestingLimit (Cursor.skipBlank ⟨text, 0⟩)) := by
  obtain ⟨bs, blank, same⟩ := Cursor.exists_blanks ⟨text, 0⟩
  have length : text.length = bs.length + (Cursor.skipBlank ⟨text, 0⟩).rest.length := by
    rw [← List.length_append, ← same]
  exact ⟨bs, _, blank, same, (reads _).1 nestingLimit _ (by omega)⟩

theorem isDocument_of_readChars (read : readChars text = .ok v) :
    IsDocument .reader nestingLimit text v := by
  obtain ⟨bs, rest, blank, same, right⟩ := exists_blanks_isRight text
  unfold readChars at read
  split at read
  · cases read
  generalize readValue _ _ _ = first at read right
  rcases first with e | ⟨v', after⟩
  · cases read
  obtain ⟨piece, same', means⟩ := right
  obtain ⟨bs', blank', behind⟩ := after.exists_blanks
  dsimp only at read
  split at read
  · next done =>
    cases read
    rw [List.isEmpty_iff.mp done, List.append_nil] at behind
    exact ⟨bs, piece, bs', by rw [same, same', behind], blank, means, blank'⟩
  · cases read

/-- A text that is refused for a limit reaches it. -/
theorem excused_of_readChars (read : readChars text = .error e) : Excused nestingLimit text e := by
  obtain ⟨bs, rest, blank, same, right⟩ := exists_blanks_isRight text
  unfold readChars at read
  split at read
  · cases read
    exact excused_of_not_isLimit (by simp [ReadFault.IsLimit])
  generalize readValue _ _ _ = first at read right
  rcases first with e' | ⟨v', after⟩
  · cases read
    exact Excused.append right same (Nat.le_add_right _ _)
  · dsimp only at read
    split at read
    · cases read
    · cases read
      exact excused_of_not_isLimit (by simp [ReadFault.IsLimit])

/-- A text that is JSON does not begin with a byte order mark. -/
theorem IsDocument.ne_cons (document : IsDocument limits depth text v) (more : List Char) :
    text ≠ '\ufeff' :: more := by
  obtain ⟨before, cs, after, rfl, blank, means, -⟩ := document
  intro mark
  cases before with
  | nil =>
    obtain ⟨c, rest, rfl, start⟩ := means.exists_start
    exact (startsValue_spec start).2.2.2 (List.cons.inj mark).1
  | cons b before =>
    have isBlank := blank b List.mem_cons_self
    rw [(List.cons.inj mark).1] at isBlank
    exact absurd isBlank (by decide)

/-- A text that is JSON is read, but for the limits of the reader. -/
theorem IsDocument.readChars (document : IsDocument limits depth text v) : readChars text = .ok v
    ∨ (∃ e, readChars text = .error e ∧ e.IsLimit)
      ∧ ¬ (limits.AreKept ∧ depth ≤ nestingLimit) := by
  have unmarked := document.ne_cons
  obtain ⟨before, cs, after, rfl, blank, means, blank'⟩ := document
  obtain ⟨q, skip⟩ := blank.skipBlank (fun c head => (means.stop after c head).1) 0
  have ends : Ends after := by
    intro c head
    exact .inl (blank' c (List.mem_of_mem_head? head))
  have meets := means.meets (2 * (before ++ (cs ++ after)).length + 2) nestingLimit q after
    (by simp only [List.length_append]; omega) ends
  unfold Json.readChars
  split
  · next more mark => exact absurd mark (unmarked more)
  rw [skip]
  rcases meets with ⟨q', read⟩ | ⟨⟨e, read, isLimit⟩, lower⟩
  · have nothing : ∀ c ∈ ([] : List Char).head?, ¬ isJsonBlank c := by nofun
    obtain ⟨q'', skip'⟩ := blank'.skipBlank nothing q'
    rw [List.append_nil] at skip'
    rw [read]
    dsimp only
    rw [skip']
    exact .inl rfl
  · rw [read]
    exact .inr ⟨⟨e, rfl, isLimit⟩, lower⟩

theorem readChars_eq_ok_iff :
    Json.readChars text = .ok v ↔ IsDocument .reader nestingLimit text v := by
  refine ⟨isDocument_of_readChars, fun document => ?_⟩
  exact document.readChars.resolve_right fun ⟨_, lower⟩ =>
    lower ⟨⟨Nat.le_refl _, rfl⟩, Nat.le_refl _⟩

end Documents

end Vitae.Json
