import Vitae.Proofs.Json.Grammar

/-!
The leaves of JSON text: strings, numbers and words. What is read as one of them is one of them, and
each of them is read up to its end. For the second, what follows must not go on with it.
-/

namespace Vitae.Json

open Decimal (Binary64)
open Text (CodePoint Points)

/-- What the reader takes. -/
def Limits.reader : Limits := ⟨digitLimit, false⟩

/-- Limits that the reader goes as far as. -/
structure Limits.AreKept (limits : Limits) : Prop where
  digits : limits.digits ≤ digitLimit
  halves : limits.halves = false

/-- A text that is refused for a limit of the reader, whether it is JSON or not. -/
def ReadFault.IsLimit (e : ReadFault) : Prop :=
  e.problem = .digitLimit ∨ e.problem = .nestingLimit ∨ e.problem = .loneSurrogate

/-! Blanks -/

theorem Cursor.exists_blanks (c : Cursor) :
    ∃ bs, IsBlanks bs ∧ c.rest = bs ++ c.skipBlank.rest :=
  ⟨_, fun _ found => List.all_eq_true.mp List.all_takeWhile _ found,
    List.takeWhile_append_dropWhile.symm⟩

theorem IsBlanks.skipBlank {bs rest : List Char} (blank : IsBlanks bs)
    (stop : ∀ c ∈ rest.head?, ¬ isJsonBlank c) (p : Nat) :
    ∃ q, Cursor.skipBlank ⟨bs ++ rest, p⟩ = ⟨rest, q⟩ := by
  refine ⟨_, congrArg (Cursor.mk · _) ?_⟩
  rw [List.dropWhile_append_of_pos blank]
  cases rest with
  | nil => rfl
  | cons c rest => rw [List.dropWhile_cons_of_neg (stop c rfl)]

theorem IsBlanks.skipBlank_cons {bs : List Char} (blank : IsBlanks bs) {c : Char}
    (stop : ¬ isJsonBlank c) (rest : List Char) (p : Nat) :
    ∃ q, Cursor.skipBlank ⟨bs ++ c :: rest, p⟩ = ⟨c :: rest, q⟩ := by
  refine blank.skipBlank (fun first head => ?_) p
  obtain rfl : c = first := by simpa using head
  exact stop

/-! Strings -/

section Strings

variable {start p : Nat} {cs body : List Char} {acc tail : List CodePoint} {points : Points}
  {s : String} {after : Cursor}

/-- An escaped unit in front of a quoted text. -/
theorem IsQuoted.exists_unit {a b c d : Char} {n : Nat} {more rest : List Char}
    (quoted : IsQuoted body tail) (hex : hexValue? [a, b, c, d] = some n)
    (alone : isHighSurrogate n → ¬ StartsLow body) (same : more = body ++ '"' :: rest) :
    ∃ body' tail', '\\' :: 'u' :: a :: b :: c :: d :: more = body' ++ '"' :: rest
      ∧ IsQuoted body' tail'
      ∧ Points.ofCodes ((.ofNat n :: acc).reverse ++ tail) = .ofCodes (acc.reverse ++ tail') :=
  ⟨'\\' :: 'u' :: a :: b :: c :: d :: body, .ofNat n :: tail, by rw [same]; rfl,
    .unit hex alone quoted, by simp⟩

/-- What a string that is read looks like. -/
theorem exists_quoted_of_readStringFrom
    (read : readStringFrom start cs p acc = .ok (points, after)) :
    ∃ body tail, cs = body ++ '"' :: after.rest ∧ IsQuoted body tail
      ∧ points = .ofCodes (acc.reverse ++ tail) := by
  fun_induction readStringFrom start cs p acc with
  | case1 | case3 | case4 | case5 | case9 | case11 | case12 | case14 => cases read
  | case2 rest p acc =>
    cases read
    exact ⟨[], [], rfl, .nil, by rw [List.append_nil]⟩
  | case6 a b c d e f g h rest p acc n hex both m hex' low ih =>
    obtain ⟨body, tail, rfl, quoted, rfl⟩ := ih read
    have high : isHighSurrogate n := (Bool.and_eq_true_iff.mp both).1
    exact ⟨_, _, rfl, .pair hex high hex' low quoted, by simp⟩
  | case7 a b c d e f g h rest p acc n hex both m hex' other ih =>
    obtain ⟨body, tail, same, quoted, rfl⟩ := ih read
    refine quoted.exists_unit hex ?_ same
    rintro - ⟨e', f', g', h', m', rest', rfl, hex'', low⟩
    simp only [List.cons_append, List.cons.injEq, true_and] at same
    obtain ⟨rfl, rfl, rfl, rfl, -⟩ := same
    rw [hex'] at hex''
    exact other (Option.some.inj hex'' ▸ low)
  | case8 a b c d e f g h rest p acc n hex both ih =>
    obtain ⟨body, tail, same, quoted, rfl⟩ := ih read
    refine quoted.exists_unit hex ?_ same
    -- The second half would be the last of the text, where no closing quote follows.
    rintro high ⟨e', f', g', h', m', rest', rfl, -⟩
    have short : rest = [] := by simpa [high] using both
    simp [short] at same
  | case10 a b c d x rest p acc single n hex ih =>
    obtain ⟨body, tail, same, quoted, rfl⟩ := ih read
    refine quoted.exists_unit hex ?_ same
    rintro - ⟨e, f, g, h, m, rest', rfl, -⟩
    simp only [List.cons_append, List.cons.injEq] at same
    exact single _ _ _ _ _ same.1 same.2
  | case13 c rest p acc _ _ _ e simple ih =>
    obtain ⟨body, tail, rfl, quoted, rfl⟩ := ih read
    exact ⟨_, _, rfl, .escape simple quoted, by simp⟩
  | case15 c rest p acc quote _ _ _ _ escape control ih =>
    obtain ⟨body, tail, rfl, quoted, rfl⟩ := ih read
    have plain : c ≠ '\\' := by
      rintro rfl
      cases body with
      | nil => exact escape _ _ rfl rfl
      | cons x body => exact escape _ _ rfl rfl
    exact ⟨_, _, rfl, .plain quote plain (by omega) quoted, by simp⟩

/-- Between the quotes there are no limits. -/
theorem not_isLimit_of_readStringFrom {e : ReadFault}
    (read : readStringFrom start cs p acc = .error e) : ¬ e.IsLimit := by
  fun_induction readStringFrom start cs p acc with
  | case2 => cases read
  | case1 | case3 | case4 | case5 | case9 | case11 | case12 | case14 =>
    cases read
    simp [ReadFault.IsLimit]
  | case6 | case7 | case8 | case10 | case13 | case15 => simp_all

/-- An escaped unit that is no first half of a pair with what follows is a character of its own. -/
theorem readStringFrom_unit {a b c d : Char} {n : Nat} {more : List Char} (start p : Nat)
    (acc : List CodePoint) (hex : hexValue? [a, b, c, d] = some n) (goesOn : more ≠ [])
    (alone : isHighSurrogate n → ∀ e f g h later, more = '\\' :: 'u' :: e :: f :: g :: h :: later →
      ∃ m, hexValue? [e, f, g, h] = some m ∧ ¬ isLowSurrogate m) :
    readStringFrom start ('\\' :: 'u' :: a :: b :: c :: d :: more) p acc
      = readStringFrom start more (p + 6) (.ofNat n :: acc) := by
  by_cases pair : ∃ e f g h later, more = '\\' :: 'u' :: e :: f :: g :: h :: later
  · obtain ⟨e, f, g, h, later, rfl⟩ := pair
    rw [readStringFrom]
    simp only [hex]
    split
    · next both =>
      obtain ⟨m, hex', other⟩ := alone (Bool.and_eq_true_iff.mp both).1 e f g h later rfl
      simp only [hex', other, if_false, Bool.false_eq_true]
    · rfl
  · cases more with
    | nil => exact absurd rfl goesOn
    | cons x more =>
      rw [readStringFrom]
      · simp only [hex]
      · rintro e f g h later rfl rfl
        exact pair ⟨e, f, g, h, later, rfl⟩

/-- Escaped units in a quoted text are four hexadecimal digits. -/
theorem IsQuoted.exists_hexValue? {e f g h : Char} {later rest : List Char}
    (quoted : IsQuoted body tail)
    (head : body ++ '"' :: rest = '\\' :: 'u' :: e :: f :: g :: h :: later) :
    ∃ m, hexValue? [e, f, g, h] = some m ∧ (isLowSurrogate m → StartsLow body) := by
  cases quoted with
  | nil => simp at head
  | plain _ escape => exact absurd (List.cons.inj head).1 escape
  | escape simple =>
    simp only [List.cons_append, List.cons.injEq, true_and] at head
    rw [head.1] at simple
    cases simple
  | unit hex =>
    simp only [List.cons_append, List.cons.injEq, true_and] at head
    obtain ⟨rfl, rfl, rfl, rfl, -⟩ := head
    exact ⟨_, hex, fun low => ⟨_, _, _, _, _, _, rfl, hex, low⟩⟩
  | pair hex =>
    simp only [List.cons_append, List.cons.injEq, true_and] at head
    obtain ⟨rfl, rfl, rfl, rfl, -⟩ := head
    exact ⟨_, hex, fun low => ⟨_, _, _, _, _, _, rfl, hex, low⟩⟩

/-- A quoted text is read up to its closing quote. -/
theorem IsQuoted.readStringFrom (quoted : IsQuoted body tail) (start p : Nat)
    (acc : List CodePoint) (rest : List Char) :
    ∃ q, readStringFrom start (body ++ '"' :: rest) p acc
      = .ok (.ofCodes (acc.reverse ++ tail), ⟨rest, q⟩) := by
  induction quoted generalizing p acc with
  | nil => exact ⟨p + 1, by rw [List.append_nil]; rfl⟩
  | @plain c cs s quote escape control quoted ih =>
    obtain ⟨q, read⟩ := ih (p + 1) (.char c :: acc)
    refine ⟨q, ?_⟩
    rw [List.cons_append, Json.readStringFrom, if_neg (by omega), read]
    · simp
    all_goals simp_all
  | @escape c e cs s simple quoted ih =>
    obtain ⟨q, read⟩ := ih (p + 2) (.char e :: acc)
    have other : c ≠ 'u' := by
      rintro rfl
      cases simple
    refine ⟨q, ?_⟩
    simp only [List.cons_append]
    rw [Json.readStringFrom]
    · simp [simple, read]
    all_goals simp_all
  | @unit a b c d n cs s hex alone quoted ih =>
    obtain ⟨q, read⟩ := ih (p + 6) (.ofNat n :: acc)
    refine ⟨q, ?_⟩
    simp only [List.cons_append]
    rw [readStringFrom_unit start p acc hex (by simp), read]
    · simp
    · intro high e f g h later head
      obtain ⟨m, hex', low⟩ := quoted.exists_hexValue? head
      exact ⟨m, hex', fun isLow => alone high (low isLow)⟩
  | @pair a b c d e f g h n m cs s hex high hex' low quoted ih =>
    obtain ⟨q, read⟩ := ih (p + 12) (.char (joinSurrogates n m) :: acc)
    have more : (cs ++ '"' :: rest).isEmpty = false := by simp
    refine ⟨q, ?_⟩
    simp only [List.cons_append]
    rw [Json.readStringFrom]
    simp [hex, high, more, hex', low, read]

/-- Half of a surrogate pair stands alone in a string. -/
def HasLoneHalf (cs : List Char) : Prop :=
  ∃ before body codes after, cs = before ++ '"' :: (body ++ '"' :: after) ∧ IsQuoted body codes
    ∧ (Points.ofCodes codes).hasHalf

theorem exists_said_of_readString (read : readString start cs = .ok (s, after)) :
    ∃ body, cs = body ++ '"' :: after.rest ∧ ∀ halves, IsSaid halves body s := by
  unfold readString at read
  split at read
  · cases read
  · next s c found =>
    cases read
    obtain ⟨body, codes, rfl, quoted, chars⟩ := exists_quoted_of_readStringFrom found
    exact ⟨body, rfl, fun _ => .text quoted chars.symm⟩
  · cases read

/-- A string is refused for one limit only. -/
theorem hasLoneHalf_of_readString {e : ReadFault} (read : readString start cs = .error e)
    (limit : e.IsLimit) : e.problem = .loneSurrogate ∧ HasLoneHalf ('"' :: cs) := by
  unfold readString at read
  split at read
  · next e' found =>
    cases read
    exact absurd limit (not_isLimit_of_readStringFrom found)
  · cases read
  · next before offset rest c found =>
    cases read
    obtain ⟨body, codes, rfl, quoted, halved⟩ := exists_quoted_of_readStringFrom found
    exact ⟨rfl, [], body, codes, c.rest, rfl, quoted, congrArg Points.hasHalf halved.symm⟩

/-- A string is read up to its closing quote, unless it has half of a pair in it. -/
theorem IsSaid.readString {halves : Bool} (said : IsSaid halves body s) (start : Nat)
    (rest : List Char) :
    (∃ q, readString start (body ++ '"' :: rest) = .ok (s, ⟨rest, q⟩))
      ∨ readString start (body ++ '"' :: rest) = faultAt .loneSurrogate start ∧ halves := by
  cases said with
  | @text codes quoted chars =>
    obtain ⟨q, read⟩ := quoted.readStringFrom start (start + 1) [] rest
    have text : Points.ofCodes ([].reverse ++ codes) = .chars s := chars
    exact .inl ⟨q, by simp only [Json.readString, read, text]⟩
  | @halved codes quoted lone allowed =>
    obtain ⟨q, read⟩ := quoted.readStringFrom start (start + 1) [] rest
    refine .inr ⟨?_, allowed⟩
    cases text : Points.ofCodes ([].reverse ++ codes) with
    | chars s' =>
      rw [List.reverse_nil, List.nil_append] at text
      simp [text, Points.hasHalf] at lone
    | halved => simp only [Json.readString, read, text]

end Strings

/-! Numbers -/

section Numbers

variable {cs ds ds' rest sign fraction exponent : List Char} {negative : Bool} {power : Option Int}

/-- What may stand behind a value. -/
def Ends (rest : List Char) : Prop :=
  ∀ c ∈ rest.head?, isJsonBlank c ∨ c = ',' ∨ c = ']' ∨ c = '\x7d'

def signOf (cs : List Char) : Bool × List Char :=
  match cs with
  | '-' :: rest => (true, rest)
  | rest => (false, rest)

def wholeOf (body : List Char) : List Char :=
  match body with
  | '0' :: _ => ['0']
  | _ => body.takeWhile isDigit

/-- What is left behind a fraction. -/
def afterFraction (cs : List Char) : List Char :=
  if (fractionOf cs).isEmpty then cs else cs.drop ((fractionOf cs).length + 1)

/-- What is left behind an exponent. -/
def afterExponent (cs : List Char) : List Char :=
  cs.drop (((exponentOf cs).map (·.1)).getD 0)

/-- The value of a number whose parts are known. -/
def numberOf (position : Nat) (negative : Bool) (whole fraction : List Char)
    (power : Option (Nat × Int)) (here : Cursor) : Read Json :=
  if fraction.isEmpty && power.isNone then
    if digitLimit < whole.length then faultAt .digitLimit position
    else .ok (.int (if negative then -(digitsValue whole : Int) else digitsValue whole), here)
  else .ok (.float (Binary64.ofDecimal negative (digitsValue (whole ++ fraction))
    ((power.map (·.2)).getD 0 - fraction.length)), here)

theorem readNumber_eq {c : Cursor} {body : List Char} (signed : signOf c.rest = (negative, body)) :
    readNumber c =
      if (wholeOf body).isEmpty then faultAt .value c.position
      else
        let behind := body.drop (wholeOf body).length
        let rest := afterExponent (afterFraction behind)
        numberOf c.position negative (wholeOf body) (fractionOf behind)
          (exponentOf (afterFraction behind))
          ⟨rest, c.position + (c.rest.length - rest.length)⟩ := by
  unfold readNumber
  split
  next negative' body' signed' =>
  obtain ⟨rfl, rfl⟩ := Prod.mk.inj (signed.symm.trans signed')
  rfl

theorem takeWhile_isDigit (all : ∀ d ∈ ds, isDigit d) (stop : ∀ c ∈ rest.head?, ¬ isDigit c) :
    (ds ++ rest).takeWhile isDigit = ds := by
  rw [List.takeWhile_append_of_pos all]
  cases rest with
  | nil => simp
  | cons c rest => simp [stop c rfl]

theorem isDigits_takeWhile (some : cs.takeWhile isDigit ≠ []) : IsDigits (cs.takeWhile isDigit) :=
  ⟨some, fun _ found => List.all_eq_true.mp List.all_takeWhile _ found⟩

theorem IsDigits.isDigit_of_mem_head? {c : Char} (digits : IsDigits ds)
    (head : c ∈ (ds ++ rest).head?) : isDigit c := by
  cases ds with
  | nil => exact absurd rfl digits.some
  | cons d ds =>
    obtain rfl : d = c := by simpa using head
    exact digits.all d (List.mem_cons_self)

theorem exists_sign (cs : List Char) :
    ∃ sign, IsSign sign (signOf cs).1 ∧ cs = sign ++ (signOf cs).2 := by
  unfold signOf
  split
  · exact ⟨_, .minus, rfl⟩
  · exact ⟨_, .none, rfl⟩

theorem IsSign.signOf_append {body : List Char} (signed : IsSign sign negative)
    (digit : ∀ c ∈ body.head?, isDigit c) : signOf (sign ++ body) = (negative, body) := by
  cases signed with
  | minus => rfl
  | none =>
    rw [List.nil_append]
    unfold signOf
    split
    · next rest => exact absurd (digit '-' rfl) (by decide)
    · rfl

theorem isWhole_singleton {d : Char} (digit : isDigit d) : IsWhole [d] :=
  ⟨⟨List.cons_ne_nil d [], List.forall_mem_singleton.mpr digit⟩,
    fun _ same => (List.cons.inj same).2.symm⟩

theorem isWhole_wholeOf (some : wholeOf cs ≠ []) :
    IsWhole (wholeOf cs) ∧ cs = wholeOf cs ++ cs.drop (wholeOf cs).length := by
  unfold wholeOf at some ⊢
  split at some
  · next rest => exact ⟨isWhole_singleton rfl, rfl⟩
  · next other =>
    refine ⟨⟨isDigits_takeWhile some, fun rest same => ?_⟩, ?_⟩
    · cases cs with
      | nil => cases same
      | cons c cs =>
        rw [List.takeWhile_cons] at same
        split at same
        · exact absurd (List.cons.inj same).1 fun zero => other cs (by rw [zero])
        · cases same
    · exact (List.prefix_iff_eq_append.mp (List.takeWhile_prefix isDigit)).symm

theorem IsWhole.wholeOf_append (whole : IsWhole ds) (stop : ∀ c ∈ rest.head?, ¬ isDigit c) :
    wholeOf (ds ++ rest) = ds := by
  unfold wholeOf
  split
  · next more same =>
    cases ds with
    | nil => exact absurd rfl whole.digits.some
    | cons d ds =>
      obtain ⟨rfl, -⟩ := List.cons.inj same
      rw [whole.lead ds rfl]
  · exact takeWhile_isDigit whole.digits.all stop

theorem exists_fraction (cs : List Char) :
    ∃ fraction, IsFraction fraction (fractionOf cs) ∧ cs = fraction ++ afterFraction cs := by
  by_cases none : fractionOf cs = []
  · exact ⟨[], none ▸ .none, by simp [afterFraction, none]⟩
  obtain ⟨rest, rfl⟩ : ∃ rest, cs = '.' :: rest := by
    unfold fractionOf at none
    split at none
    · next rest => exact ⟨rest, rfl⟩
    · exact absurd rfl none
  have digits : IsDigits (fractionOf ('.' :: rest)) := isDigits_takeWhile none
  refine ⟨_, .some digits, ?_⟩
  rw [afterFraction, if_neg (by simpa using none), List.cons_append, List.drop_succ_cons]
  exact congrArg _ (List.prefix_iff_eq_append.mp (List.takeWhile_prefix isDigit)).symm

theorem IsFraction.fractionOf_append (fractional : IsFraction fraction ds')
    (stop : ∀ c ∈ rest.head?, ¬ isDigit c ∧ c ≠ '.') :
    fractionOf (fraction ++ rest) = ds' ∧ afterFraction (fraction ++ rest) = rest := by
  cases fractional with
  | none =>
    have nothing : fractionOf rest = [] := by
      unfold fractionOf
      split
      · next later => exact absurd rfl (stop '.' rfl).2
      · rfl
    exact ⟨nothing, by simp [afterFraction, nothing]⟩
  | some digits =>
    have taken : fractionOf ('.' :: (ds' ++ rest)) = ds' :=
      takeWhile_isDigit digits.all fun c head => (stop c head).1
    refine ⟨taken, ?_⟩
    rw [List.cons_append, afterFraction, taken, if_neg (by simp [digits.some]), List.drop_succ_cons,
      List.drop_left]

/-- The digits of an exponent, its sign, and how long the sign is. -/
def exponentSign (cs : List Char) : Nat × Bool × List Char :=
  match cs with
  | '-' :: r => (1, true, r.takeWhile isDigit)
  | '+' :: r => (1, false, r.takeWhile isDigit)
  | r => (0, false, r.takeWhile isDigit)

theorem exponentOf_cons {e : Char} {signLength : Nat}
    (signed : exponentSign cs = (signLength, negative, ds)) : exponentOf (e :: cs) =
      if e = 'e' ∨ e = 'E' then
        if ds.isEmpty then none
        else some (1 + signLength + ds.length,
          if negative then -(digitsValue ds : Int) else digitsValue ds)
      else none := by
  have step (parts : Nat × Bool × List Char) (same : exponentSign cs = parts) :
      exponentOf (e :: cs) =
        if e == 'e' || e == 'E' then
          if parts.2.2.isEmpty then none
          else some (1 + parts.1 + parts.2.2.length,
            if parts.2.1 then -(digitsValue parts.2.2 : Int) else digitsValue parts.2.2)
        else none := by
    rw [← same]
    rfl
  rw [step _ signed]
  simp

/-- An exponent whose sign is known. -/
theorem exponentOf_append (sign : List Char) {e : Char} {signLength : Nat}
    (mark : e = 'e' ∨ e = 'E') (digits : IsDigits ds)
    (signed : exponentSign (sign ++ (ds ++ rest)) = (signLength, negative, ds))
    (length : sign.length = signLength) :
    exponentOf (e :: (sign ++ (ds ++ rest))) = some ((e :: (sign ++ ds)).length,
      if negative then -(digitsValue ds : Int) else digitsValue ds) := by
  rw [exponentOf_cons signed, if_pos mark, if_neg (by simpa using digits.some), List.length_cons,
    List.length_append, length]
  congr 2
  omega

/-- Every text begins with the digits of an exponent, with a sign or without, if only with none. -/
theorem exists_exponentSign (cs : List Char) : ∃ mark ds more, cs = mark ++ (ds ++ more)
    ∧ (∀ d ∈ ds, isDigit d)
    ∧ ∃ negative, exponentSign cs = (mark.length, negative, ds)
      ∧ ∀ e, e = 'e' ∨ e = 'E' → IsDigits ds → IsExponent (e :: (mark ++ ds))
        (some (if negative then -(digitsValue ds : Int) else digitsValue ds)) := by
  have parts (r : List Char) : r = r.takeWhile isDigit ++ r.dropWhile isDigit :=
    List.takeWhile_append_dropWhile.symm
  have all (r : List Char) : ∀ d ∈ r.takeWhile isDigit, isDigit d := fun d found =>
    List.all_eq_true.mp List.all_takeWhile d found
  by_cases minus : ∃ r, cs = '-' :: r
  · obtain ⟨r, rfl⟩ := minus
    exact ⟨['-'], _, _, congrArg _ (parts r), all r, true, rfl,
      fun _ mark digits => .minus mark digits⟩
  by_cases plus : ∃ r, cs = '+' :: r
  · obtain ⟨r, rfl⟩ := plus
    exact ⟨['+'], _, _, congrArg _ (parts r), all r, false, rfl,
      fun _ mark digits => .plus mark digits⟩
  refine ⟨[], _, _, parts cs, all cs, false, ?_, fun _ mark digits => .bare mark digits⟩
  unfold exponentSign
  split
  · next r => exact absurd ⟨r, rfl⟩ minus
  · next r => exact absurd ⟨r, rfl⟩ plus
  · rfl

theorem exists_exponent (cs : List Char) : ∃ exponent,
    IsExponent exponent ((exponentOf cs).map (·.2)) ∧ cs = exponent ++ afterExponent cs := by
  cases cs with
  | nil => exact ⟨[], .none, rfl⟩
  | cons e cs =>
    obtain ⟨mark, ds, more, same, all, negative, signed, exponent⟩ := exists_exponentSign cs
    by_cases isMark : e = 'e' ∨ e = 'E'
    · cases ds with
      | nil =>
        have none : exponentOf (e :: cs) = none := by simp [exponentOf_cons signed]
        exact ⟨[], none ▸ .none, by simp [afterExponent, none]⟩
      | cons d ds =>
        have found := exponentOf_cons (e := e) signed
        rw [if_pos isMark, if_neg (by simp)] at found
        refine ⟨_, by rw [found]; exact exponent e isMark ⟨by simp, all⟩, ?_⟩
        have length : 1 + mark.length + (d :: ds).length = (e :: (mark ++ (d :: ds))).length := by
          simp only [List.length_cons, List.length_append]
          omega
        rw [afterExponent, found, Option.map_some, Option.getD_some, length, same,
          ← List.append_assoc, ← List.cons_append, List.drop_left]
    · have none : exponentOf (e :: cs) = none := by rw [exponentOf_cons signed, if_neg isMark]
      exact ⟨[], none ▸ .none, by simp [afterExponent, none]⟩

theorem IsExponent.exponentOf_append (powered : IsExponent exponent power)
    (stop : ∀ c ∈ rest.head?, ¬ isDigit c ∧ c ≠ 'e' ∧ c ≠ 'E') :
    exponentOf (exponent ++ rest) = power.map (exponent.length, ·) := by
  have taken {ds : List Char} (digits : IsDigits ds) : (ds ++ rest).takeWhile isDigit = ds :=
    takeWhile_isDigit digits.all fun c head => (stop c head).1
  cases powered with
  | none =>
    cases rest with
    | nil => rfl
    | cons c rest => simp [exponentOf, (stop c rfl).2]
  | @bare e ds mark digits =>
    have digit (c : Char) (head : c ∈ (ds ++ rest).head?) : isDigit c :=
      digits.isDigit_of_mem_head? head
    have signed : exponentSign (ds ++ rest) = (0, false, ds) := by
      unfold exponentSign
      split
      · next later same => exact absurd (digit '-' (by rw [same]; rfl)) (by decide)
      · next later same => exact absurd (digit '+' (by rw [same]; rfl)) (by decide)
      · rw [taken digits]
    exact Json.exponentOf_append [] mark digits signed rfl
  | @plus e ds mark digits =>
    have signed : exponentSign ('+' :: (ds ++ rest)) = (1, false, ds) := by
      simp [exponentSign, taken digits]
    exact Json.exponentOf_append ['+'] mark digits signed rfl
  | @minus e ds mark digits =>
    have signed : exponentSign ('-' :: (ds ++ rest)) = (1, true, ds) := by
      simp [exponentSign, taken digits]
    exact Json.exponentOf_append ['-'] mark digits signed rfl

theorem IsExponent.afterExponent_append (powered : IsExponent exponent power)
    (stop : ∀ c ∈ rest.head?, ¬ isDigit c ∧ c ≠ 'e' ∧ c ≠ 'E') :
    afterExponent (exponent ++ rest) = rest := by
  rw [afterExponent, powered.exponentOf_append stop]
  cases powered with
  | none => rfl
  | bare | plus | minus => simp

theorem IsFraction.eq_nil_iff (fractional : IsFraction fraction ds') :
    fraction = [] ↔ ds' = [] := by
  cases fractional with
  | none => simp
  | some digits => simp [digits.some]

theorem IsExponent.eq_nil_iff (powered : IsExponent exponent power) :
    exponent = [] ↔ power = Option.none := by
  cases powered <;> simp

/-- A run of digits that is longer than a whole number may be. -/
def HasLongNumber (cs : List Char) : Prop :=
  ∃ before ds after, cs = before ++ (ds ++ after) ∧ (∀ d ∈ ds, isDigit d) ∧ digitLimit < ds.length

variable {c after : Cursor} {v : Json} {e : ReadFault} {limit : Nat}

/-- The parts of a number that is read, or that is refused for its length. -/
theorem exists_parts_of_readNumber (begun : readNumber c ≠ faultAt .value c.position) :
    ∃ negative sign ds fraction ds' exponent power here,
      c.rest = (sign ++ (ds ++ (fraction ++ exponent))) ++ here.rest
      ∧ IsSign sign negative ∧ IsWhole ds ∧ IsFraction fraction ds'
      ∧ IsExponent exponent (power.map Prod.snd)
      ∧ readNumber c = numberOf c.position negative ds ds' power here := by
  rcases signed : signOf c.rest with ⟨negative, body⟩
  obtain ⟨sign, isSign, same⟩ := exists_sign c.rest
  rw [signed] at isSign same
  rw [readNumber_eq signed] at begun ⊢
  by_cases none : (wholeOf body).isEmpty
  · exact absurd (if_pos none) begun
  have some : wholeOf body ≠ [] := by simpa using none
  obtain ⟨isWhole, whole⟩ := isWhole_wholeOf some
  obtain ⟨fraction, isFraction, behind⟩ := exists_fraction (body.drop (wholeOf body).length)
  obtain ⟨exponent, isExponent, left⟩ :=
    exists_exponent (afterFraction (body.drop (wholeOf body).length))
  refine ⟨negative, sign, _, fraction, _, exponent, _, _, ?_, isSign, isWhole, isFraction,
    isExponent, if_neg none⟩
  calc c.rest = sign ++ body := same
    _ = sign ++ (wholeOf body ++ (fraction ++ (exponent
          ++ afterExponent (afterFraction (body.drop (wholeOf body).length))))) := by
        rw [← left, ← behind, ← whole]
    _ = _ := by simp only [List.append_assoc]

theorem exists_number_of_readNumber (read : readNumber c = .ok (v, after)) :
    ∃ piece, c.rest = piece ++ after.rest ∧ IsNumber digitLimit piece v := by
  obtain ⟨negative, sign, ds, fraction, ds', exponent, power, here, same, isSign, isWhole,
    isFraction, isExponent, number⟩ := exists_parts_of_readNumber (c := c) (by rw [read]; nofun)
  rw [read, numberOf] at number
  split at number
  · next plain =>
    obtain ⟨rfl, rfl⟩ : ds' = [] ∧ power = none := by simpa using plain
    obtain rfl := isFraction.eq_nil_iff.mpr rfl
    obtain rfl := isExponent.eq_nil_iff.mpr rfl
    split at number
    · cases number
    · next short =>
      cases number
      exact ⟨_, same, by simpa using .whole isSign isWhole (by omega)⟩
  · next marked =>
    cases number
    refine ⟨_, same, .binary isSign isWhole isFraction isExponent fun none => marked ?_⟩
    obtain ⟨rfl, rfl⟩ := List.append_eq_nil_iff.mp none
    simpa using And.intro (isFraction.eq_nil_iff.mp rfl)
      (Option.map_eq_none_iff.mp (isExponent.eq_nil_iff.mp rfl))

/-- Numbers are refused only for being none, or for being too long. -/
theorem hasLongNumber_of_readNumber (read : readNumber c = .error e) (limit : e.IsLimit) :
    e.problem = .digitLimit ∧ HasLongNumber c.rest := by
  obtain ⟨negative, sign, ds, fraction, ds', exponent, power, here, same, -, isWhole, -, -,
    number⟩ := exists_parts_of_readNumber (c := c) (by
      rw [read]
      rintro ⟨⟩
      simp [ReadFault.IsLimit] at limit)
  rw [read, numberOf] at number
  split at number
  · split at number
    · next long =>
      cases number
      exact ⟨rfl, sign, ds, _, by simpa using same, isWhole.digits.all, long⟩
    · cases number
  · cases number

/-- Nothing that ends a number goes on with it. -/
theorem Ends.stop (ends : Ends rest) :
    ∀ c ∈ rest.head?, ¬ isDigit c ∧ c ≠ '.' ∧ c ≠ 'e' ∧ c ≠ 'E' := by
  intro c head
  have mark : c = ' ' ∨ c = '\t' ∨ c = '\n' ∨ c = '\r' ∨ c = ',' ∨ c = ']' ∨ c = '\x7d' := by
    simpa [isJsonBlank, or_assoc] using ends c head
  rcases mark with rfl | rfl | rfl | rfl | rfl | rfl | rfl <;> decide

theorem IsExponent.stop (powered : IsExponent exponent power) (ends : Ends rest) :
    ∀ c ∈ (exponent ++ rest).head?, ¬ isDigit c ∧ c ≠ '.' := by
  intro c head
  cases powered with
  | none => exact ⟨(ends.stop c head).1, (ends.stop c head).2.1⟩
  | bare mark | plus mark | minus mark =>
    cases head
    rcases mark with rfl | rfl <;> decide

theorem IsFraction.stop (fractional : IsFraction fraction ds')
    (stop : ∀ c ∈ rest.head?, ¬ isDigit c) : ∀ c ∈ (fraction ++ rest).head?, ¬ isDigit c := by
  cases fractional with
  | none => exact stop
  | some digits =>
    intro c head
    cases head
    decide

/-- A number is read part by part. -/
theorem readNumber_of_parts (signed : IsSign sign negative) (whole : IsWhole ds)
    (fractional : IsFraction fraction ds') (powered : IsExponent exponent power) (ends : Ends rest)
    (p : Nat) : ∃ q power', power'.map Prod.snd = power
      ∧ readNumber ⟨sign ++ (ds ++ (fraction ++ (exponent ++ rest))), p⟩
        = numberOf p negative ds ds' power' ⟨rest, q⟩ := by
  have powerStop := powered.stop ends
  obtain ⟨isFraction, afterIsFraction⟩ := fractional.fractionOf_append powerStop
  have isWhole := whole.wholeOf_append (fractional.stop fun c head => (powerStop c head).1)
  have exponentStop (c : Char) (head : c ∈ rest.head?) : ¬ isDigit c ∧ c ≠ 'e' ∧ c ≠ 'E' :=
    ⟨(ends.stop c head).1, (ends.stop c head).2.2⟩
  have read := readNumber_eq (c := ⟨sign ++ (ds ++ (fraction ++ (exponent ++ rest))), p⟩)
    (signed.signOf_append fun c head => whole.digits.isDigit_of_mem_head? head)
  rw [isWhole, if_neg (by simpa using whole.digits.some), List.drop_left] at read
  dsimp only at read
  rw [isFraction, afterIsFraction, powered.exponentOf_append exponentStop,
    powered.afterExponent_append exponentStop] at read
  exact ⟨_, power.map (exponent.length, ·), by simp [Function.comp_def], read⟩

/-- A number is read up to where it ends, or refused where more digits are allowed than the reader
allows. -/
theorem IsNumber.readNumber (number : IsNumber limit cs v) (ends : Ends rest) (p : Nat) :
    (∃ q, readNumber ⟨cs ++ rest, p⟩ = .ok (v, ⟨rest, q⟩))
      ∨ readNumber ⟨cs ++ rest, p⟩ = faultAt .digitLimit p ∧ digitLimit < limit := by
  cases number with
  | @whole sign ds negative signed whole short =>
    obtain ⟨q, power, none, read⟩ := readNumber_of_parts signed whole .none .none ends p
    obtain rfl := Option.map_eq_none_iff.mp none
    rw [List.append_assoc]
    by_cases long : digitLimit < ds.length
    · exact .inr ⟨read.trans (if_pos long), by omega⟩
    · exact .inl ⟨q, read.trans (if_neg long)⟩
  | @binary sign ds fraction ds' exponent negative power signed whole fractional powered marked =>
    obtain ⟨q, power, rfl, read⟩ := readNumber_of_parts signed whole fractional powered ends p
    have plain : ¬ (ds'.isEmpty && power.isNone) = true := by
      intro plain
      obtain ⟨rfl, rfl⟩ : ds' = [] ∧ power = none := by simpa using plain
      exact marked (List.append_eq_nil_iff.mpr
        ⟨fractional.eq_nil_iff.mpr rfl, powered.eq_nil_iff.mpr rfl⟩)
    refine .inl ⟨q, ?_⟩
    simp only [List.append_assoc]
    exact read.trans (if_neg plain)

end Numbers

/-! Words -/

section Words

variable {word rest : List Char} {v : Json} {c after : Cursor}

/-- The characters that values begin with. -/
def startsValue (c : Char) : Bool := isDigit c || "\"-[\x7bntfNI".toList.contains c

/-- Texts that begin like a value, but like no string, list or object. -/
def StartsPlain (cs : List Char) : Prop :=
  ∃ c more, cs = c :: more ∧ startsValue c ∧ c ≠ '"' ∧ c ≠ '\x7b' ∧ c ≠ '['

theorem exists_literal_of_readLiteral? (found : readLiteral? c = some (v, after)) :
    ∃ word, (word, v) ∈ literals ∧ c.rest = word ++ after.rest := by
  obtain ⟨⟨word, v'⟩, known, taken⟩ := List.exists_of_findSome?_eq_some found
  dsimp only at taken
  split at taken
  · next begins =>
    cases taken
    exact ⟨word, known, (List.prefix_iff_eq_append.mp (List.isPrefixOf_iff_prefix.mp begins)).symm⟩
  · cases taken

theorem startsPlain_of_literal (known : (word, v) ∈ literals) : StartsPlain word := by
  simp only [literals, List.mem_cons, Prod.mk.injEq, List.not_mem_nil, or_false] at known
  rcases known with ⟨rfl, -⟩ | ⟨rfl, -⟩ | ⟨rfl, -⟩ | ⟨rfl, -⟩ | ⟨rfl, -⟩ | ⟨rfl, -⟩
  all_goals exact ⟨_, _, rfl, rfl, by decide, by decide, by decide⟩

/-- No word begins with another one, so each of them is found. -/
theorem readLiteral?_append (known : (word, v) ∈ literals) (rest : List Char) (p : Nat) :
    ∃ q, readLiteral? ⟨word ++ rest, p⟩ = some (v, ⟨rest, q⟩) := by
  simp only [literals, List.mem_cons, Prod.mk.injEq, List.not_mem_nil, or_false] at known
  rcases known with ⟨rfl, rfl⟩ | ⟨rfl, rfl⟩ | ⟨rfl, rfl⟩ | ⟨rfl, rfl⟩ | ⟨rfl, rfl⟩ | ⟨rfl, rfl⟩
  all_goals exact ⟨_, rfl⟩

theorem IsNumber.exists_digit {limit : Nat} (number : IsNumber limit word v) :
    ∃ d more, isDigit d ∧ (word = d :: more ∨ word = '-' :: d :: more) := by
  have begins {sign ds : List Char} {negative : Bool} (signed : IsSign sign negative)
      (whole : IsWhole ds) (more : List Char) : ∃ d more', isDigit d
        ∧ (sign ++ (ds ++ more) = d :: more' ∨ sign ++ (ds ++ more) = '-' :: d :: more') := by
    obtain ⟨d, ds, rfl⟩ := List.exists_cons_of_ne_nil whole.digits.some
    have digit : isDigit d := whole.digits.all d List.mem_cons_self
    cases signed with
    | none => exact ⟨d, _, digit, .inl rfl⟩
    | minus => exact ⟨d, _, digit, .inr rfl⟩
  cases number with
  | whole signed whole => simpa using begins signed whole []
  | binary signed whole => exact begins signed whole _

theorem IsNumber.startsPlain {limit : Nat} (number : IsNumber limit word v) :
    StartsPlain word := by
  obtain ⟨d, more, digit, rfl | rfl⟩ := number.exists_digit
  · refine ⟨d, more, rfl, by simp [startsValue, digit], ?_, ?_, ?_⟩
    all_goals
      rintro rfl
      exact absurd digit (by decide)
  · exact ⟨_, _, rfl, rfl, by decide, by decide, by decide⟩

/-- No number is a word, nor does it begin with one. -/
theorem IsNumber.readLiteral?_append {limit : Nat} (number : IsNumber limit word v)
    (rest : List Char) (p : Nat) : readLiteral? ⟨word ++ rest, p⟩ = none := by
  obtain ⟨d, more, digit, same⟩ := number.exists_digit
  have other (c : Char) (letter : isDigit c = false) : (c == d) = false := by
    rw [beq_eq_false_iff_ne]
    rintro rfl
    rw [letter] at digit
    cases digit
  have known : ∀ known ∈ literals, known.1.isPrefixOf (word ++ rest) = false := by
    rcases same with rfl | rfl
    all_goals
      simp [literals, List.isPrefixOf, other 'n' rfl, other 't' rfl, other 'f' rfl, other 'N' rfl,
        other 'I' rfl, other '-' rfl]
  exact List.findSome?_eq_none_iff.mpr fun word found =>
    if_neg (by rw [known word found]; decide)

end Words

end Vitae.Json
