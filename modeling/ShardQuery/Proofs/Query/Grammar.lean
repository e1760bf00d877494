import ShardQuery.Query.Parser
import ShardQuery.Decimal.Fixed
import ShardQuery.Proofs.Except
import Mathlib.Data.Set.Subsingleton

namespace ShardQuery

def Comparison.token : Comparison → Token
  | eq => .equal
  | ne => .notEqual
  | lt => .less
  | le => .lessEqual
  | gt => .greater
  | ge => .greaterEqual

namespace Grammar

/-- Digits, and the number that they write. -/
structure Numeral (cs : List Char) (n : Nat) : Prop where
  nonempty : cs ≠ []
  digits : ∀ c ∈ cs, c.isDigit = true
  value : Nat.ofDigitChars 10 cs 0 = n

/-- What digits and points denote, after a minus sign or without one. -/
inductive Number (negative : Bool) : List Char → Literal → Prop where
  /-- Without a point, an integer that eight bytes hold. -/
  | integer (h : Numeral cs n) (hleast : -2 ^ (63 : Nat) ≤ Decimal.withSign negative n)
      (hgreatest : Decimal.withSign negative n < 2 ^ (63 : Nat)) :
    Number negative cs (.integer (Decimal.withSign negative n))
  /-- With one point and a digit on either side of it, the double nearest to the decimal. -/
  | real (hwhole : ∀ c ∈ whole, c.isDigit = true) (hfraction : ∀ c ∈ fraction, c.isDigit = true)
      (h : ¬ (whole = [] ∧ fraction = [])) :
    Number negative (whole ++ '.' :: fraction)
      (.real (Binary.Parts.round ⟨negative, whole, fraction, 0⟩ Binary.double))

inductive Names : List Token → List String → Prop where
  | one (n : String) : Names [.name n] [n]
  | more (n : String) (h : Names ts ns) : Names (.name n :: .comma :: ts) (n :: ns)

inductive Projects : List Token → Projection → Prop where
  | all : Projects [.star] .all
  | columns (h : Names ts ns) : Projects ts (.columns ns)

/-- Constants; a minus sign stands before a number only. -/
inductive Constant : List Token → Literal → Prop where
  | text (s : String) : Constant [.text s] (.text s)
  | yes : Constant [.trueWord] (.truth true)
  | no : Constant [.falseWord] (.truth false)
  | number (digits : String) (h : Number false digits.toList v) : Constant [.number digits] v
  | negative (digits : String) (h : Number true digits.toList v) :
    Constant [.minus, .number digits] v

inductive Compares : List Token → Predicate → Prop where
  | intro (column : String) (op : Comparison) (h : Constant ts v) :
    Compares (.name column :: op.token :: ts) ⟨column, op, v⟩

inductive Conjunction : List Token → List Predicate → Prop where
  | one (h : Compares ts p) : Conjunction ts [p]
  | more (h : Compares ts p) (hs : Conjunction us ps) : Conjunction (ts ++ .and :: us) (p :: ps)

inductive Selects : List Token → List Predicate → Prop where
  | all : Selects [] []
  | only (h : Conjunction ts ps) : Selects (.whereWord :: ts) ps

inductive Limits : List Token → Option Nat → Prop where
  | none : Limits [] none
  | some (digits : String) (h : Numeral digits.toList n) (hn : n < UInt64.size) :
    Limits [.limit, .number digits] (some n)

inductive Ends : List Token → Prop where
  | plain : Ends [.eof]
  | semicolon : Ends [.semicolon, .eof]

/-- The tokens of a whole query. -/
inductive Denotes : List Token → SelectQuery → Prop where
  | intro (hp : Projects ps projection) (table : String) (hs : Selects ss selection)
      (hl : Limits ls limit) (he : Ends es) :
    Denotes (.select :: (ps ++ .fromWord :: .name table :: (ss ++ (ls ++ es))))
      ⟨projection, table, selection, limit⟩

end Grammar

open Grammar

section Numbers

def signed (negative : Bool) (cs : List Char) : List Char := if negative then '-' :: cs else cs

variable {cs whole rest : List Char} {negative : Bool}

theorem splitSign_of_unsigned (hminus : ∀ ds, cs ≠ '-' :: ds) (hplus : ∀ ds, cs ≠ '+' :: ds) :
    Decimal.splitSign cs = (false, cs) := by
  unfold Decimal.splitSign
  split
  · exact absurd rfl (hminus _)
  · exact absurd rfl (hplus _)
  · rfl

theorem splitSign_signed (h : ∀ c ∈ cs, Lexer.isNumberChar c = true) :
    Decimal.splitSign (signed negative cs) = (negative, cs) := by
  cases negative with
  | true => rfl
  | false =>
    refine splitSign_of_unsigned ?_ ?_
    · rintro ds rfl
      exact absurd (h _ (List.mem_cons_self ..)) (by decide)
    · rintro ds rfl
      exact absurd (h _ (List.mem_cons_self ..)) (by decide)

theorem toInt?_eq_splitSign (cs : List Char) : Decimal.toInt? cs =
    (Decimal.toNat? (Decimal.splitSign cs).2).map (Decimal.withSign (Decimal.splitSign cs).1) := by
  unfold Decimal.toInt?
  split
  · next ds => cases hd : Decimal.toNat? ds <;> simp [Decimal.splitSign, Decimal.withSign, hd]
  · next ds => cases hd : Decimal.toNat? ds <;> simp [Decimal.splitSign, Decimal.withSign, hd]
  · next hminus hplus =>
    rw [splitSign_of_unsigned hminus hplus]
    cases Decimal.toNat? cs <;> rfl

theorem read?_eq_splitSign (f : Binary.Format) (cs : List Char) : Binary.read? f cs =
    Binary.readUnsigned? f (Decimal.splitSign cs).1 (Decimal.splitSign cs).2 := by
  unfold Binary.read?
  split
  · rfl
  · rfl
  · next hminus hplus => rw [splitSign_of_unsigned hminus hplus]

theorem numeral_iff {n : Nat} : Numeral cs n ↔ Decimal.toNat? cs = some n := by
  rw [Decimal.toNat?]
  constructor
  · intro h
    rw [if_pos ⟨h.nonempty, List.all_eq_true.2 h.digits⟩, h.value]
  · intro h
    split at h
    · next hd =>
      exact ⟨hd.1, List.all_eq_true.1 hd.2, Option.some.inj h⟩
    · cases h

theorem isNumberChar_of_isDigit {c : Char} (h : c.isDigit = true) :
    Lexer.isNumberChar c = true := by
  rw [Lexer.isNumberChar, h, Bool.true_or]

/-- A character of a number that is no digit is a point. -/
theorem eq_point {c : Char} (h : Lexer.isNumberChar c = true) (hd : ¬ c.isDigit = true) :
    c = '.' := by
  rw [Lexer.isNumberChar, Bool.or_eq_true] at h
  exact beq_iff_eq.1 (h.resolve_left hd)

theorem readWord?_of_point (f : Binary.Format) (h : '.' ∈ cs) :
    Binary.readWord? f negative cs = none := by
  have hpoint : '.' ∈ (String.ofList (cs.map Char.toLower)).toList := by
    rw [String.toList_ofList]
    exact List.mem_map.2 ⟨'.', h, rfl⟩
  have hne : ∀ word : String, '.' ∉ word.toList → String.ofList (cs.map Char.toLower) ≠ word := by
    rintro word hw he
    exact hw (he ▸ hpoint)
  have hnan := hne "nan" (by decide)
  have hinf := hne "inf" (by decide)
  have hinfinity := hne "infinity" (by decide)
  simp [Binary.readWord?, hnan, hinf, hinfinity]

/-- Digits up to a point are divided there. -/
theorem spanDigits_point (hw : ∀ c ∈ whole, c.isDigit = true) :
    Binary.spanDigits (whole ++ '.' :: rest) = (whole, '.' :: rest) := by
  rw [Binary.spanDigits, List.takeWhile_append_of_pos hw, List.dropWhile_append_of_pos hw]
  have hstop : ¬ Char.isDigit '.' = true := by decide
  rw [List.takeWhile_cons_of_neg hstop, List.dropWhile_cons_of_neg hstop, List.append_nil]

theorem spanDigits_of_digits (hd : ∀ c ∈ cs, c.isDigit = true) :
    Binary.spanDigits cs = (cs, []) := by
  have htake : (cs ++ []).takeWhile Char.isDigit = cs ++ [].takeWhile Char.isDigit :=
    List.takeWhile_append_of_pos hd
  have hdrop : (cs ++ []).dropWhile Char.isDigit = [].dropWhile Char.isDigit :=
    List.dropWhile_append_of_pos hd
  rw [List.takeWhile_nil, List.append_nil] at htake
  rw [List.append_nil, List.dropWhile_nil] at hdrop
  rw [Binary.spanDigits, htake, hdrop]

/-- What follows the digits of a number, if anything does, starts with a point. -/
theorem spanDigits_of_not_digits (hc : ∀ c ∈ cs, Lexer.isNumberChar c = true)
    (hd : ¬ ∀ c ∈ cs, c.isDigit = true) : ∃ rest, (Binary.spanDigits cs).2 = '.' :: rest := by
  induction cs with
  | nil => exact absurd (fun c hc => by cases hc) hd
  | cons c cs ih =>
    by_cases hdigit : c.isDigit = true
    · have htail : ¬ ∀ c ∈ cs, c.isDigit = true := fun h => hd fun d hmem =>
        (List.mem_cons.1 hmem).elim (fun he => he ▸ hdigit) (h d)
      obtain ⟨rest, hrest⟩ := ih (fun d hmem => hc d (List.mem_cons_of_mem _ hmem)) htail
      exact ⟨rest, (List.dropWhile_cons_of_pos hdigit).trans hrest⟩
    · obtain rfl := eq_point (hc c (List.mem_cons_self ..)) hdigit
      exact ⟨cs, List.dropWhile_cons_of_neg hdigit⟩

theorem readParts?_point (hw : ∀ c ∈ whole, c.isDigit = true) :
    Binary.readParts? negative (whole ++ '.' :: rest) =
      if whole = [] ∧ (Binary.spanDigits rest).1 = [] then none
      else (Binary.readExponent? (Binary.spanDigits rest).2).map
        fun e => ⟨negative, whole, (Binary.spanDigits rest).1, e⟩ := by
  rw [Binary.readParts?, spanDigits_point hw]
  rfl

/-- A decimal with a point is read if all else are digits and there is one. -/
theorem readUnsigned?_point_eq_some_iff (f : Binary.Format) (hw : ∀ c ∈ whole, c.isDigit = true)
    (hr : ∀ c ∈ rest, Lexer.isNumberChar c = true) :
    Binary.readUnsigned? f negative (whole ++ '.' :: rest) = some bits ↔
      (∀ c ∈ rest, c.isDigit = true) ∧ ¬ (whole = [] ∧ rest = []) ∧
        Binary.Parts.round ⟨negative, whole, rest, 0⟩ f = bits := by
  have hword : Binary.readWord? f negative (whole ++ '.' :: rest) = none :=
    readWord?_of_point f (List.mem_append_right _ (List.mem_cons_self ..))
  have hno : ∀ {p : Prop}, ¬ p →
      (Binary.readWord? f negative (whole ++ '.' :: rest) = some bits ↔ p) := by
    intro p hp
    rw [hword]
    exact iff_of_false (fun h => by cases h) hp
  rw [Binary.readUnsigned?, readParts?_point hw]
  by_cases hdigits : ∀ c ∈ rest, c.isDigit = true
  · rw [spanDigits_of_digits hdigits]
    by_cases hnone : whole = [] ∧ rest = []
    · rw [if_pos hnone]
      exact hno fun h => h.2.1 hnone
    · rw [if_neg hnone]
      exact ⟨fun h => ⟨hdigits, hnone, Option.some.inj h⟩, fun h => congrArg some h.2.2⟩
  · obtain ⟨tail, htail⟩ := spanDigits_of_not_digits hr hdigits
    have hexponent : Binary.readExponent? ('.' :: tail) = none := by
      simp [Binary.readExponent?]
    rw [htail, hexponent, Option.map_none, ite_self]
    exact hno fun h => hdigits h.1

/-- A number with a point is digits up to one. -/
theorem exists_point (hc : ∀ c ∈ cs, Lexer.isNumberChar c = true) (hp : '.' ∈ cs) :
    ∃ whole rest, cs = whole ++ '.' :: rest ∧ ∀ c ∈ whole, c.isDigit = true := by
  obtain ⟨rest, hrest⟩ := spanDigits_of_not_digits hc fun h => absurd (h _ hp) (by decide)
  refine ⟨cs.takeWhile Char.isDigit, rest, ?_, fun c h => List.all_eq_true.1 List.all_takeWhile c h⟩
  rw [← hrest]
  exact (List.takeWhile_append_dropWhile ..).symm

/-- The characters of what the grammar takes for a number. -/
theorem Grammar.Number.isNumberChar (h : Number negative cs v) :
    ∀ c ∈ cs, Lexer.isNumberChar c = true := by
  intro c hc
  cases h with
  | integer hn => exact isNumberChar_of_isDigit (hn.digits c hc)
  | real hw hf =>
    rcases List.mem_append.1 hc with hc | hc
    · exact isNumberChar_of_isDigit (hw c hc)
    · rcases List.mem_cons.1 hc with rfl | hc
      · decide
      · exact isNumberChar_of_isDigit (hf c hc)

theorem number_iff_of_point (hc : ∀ c ∈ cs, Lexer.isNumberChar c = true) (hp : '.' ∈ cs) :
    Number negative cs v ↔
      ∃ bits, Binary.readUnsigned? Binary.double negative cs = some bits ∧ v = .real bits := by
  constructor
  · intro h
    cases h with
    | integer hn => exact absurd (hn.digits _ hp) (by decide)
    | real hw hf hne =>
      have hr := fun c h => isNumberChar_of_isDigit (hf c h)
      exact ⟨_, (readUnsigned?_point_eq_some_iff _ hw hr).2 ⟨hf, hne, rfl⟩, rfl⟩
  · rintro ⟨bits, h, rfl⟩
    obtain ⟨whole, rest, rfl, hw⟩ := exists_point hc hp
    have hr := fun c h => hc c (List.mem_append_right _ (List.mem_cons_of_mem _ h))
    obtain ⟨hf, hne, rfl⟩ := (readUnsigned?_point_eq_some_iff _ hw hr).1 h
    exact .real hw hf hne

theorem number_iff_of_no_point (hc : ∀ c ∈ cs, Lexer.isNumberChar c = true) (hp : '.' ∉ cs) :
    Number negative cs v ↔
      ∃ i, Parser.readInt64? (signed negative cs) = some i ∧ v = .integer i := by
  rw [Parser.readInt64?, Decimal.toIntWithin?, toInt?_eq_splitSign, splitSign_signed hc]
  constructor
  · intro h
    cases h with
    | integer hn hleast hgreatest =>
      refine ⟨_, ?_, rfl⟩
      rw [numeral_iff.1 hn, Option.map_some, Option.filter_some, if_pos]
      simp only [Bool.and_eq_true, decide_eq_true_eq]
      omega
    | real => exact absurd (List.mem_append_right _ (List.mem_cons_self ..)) hp
  · rintro ⟨i, h, rfl⟩
    obtain ⟨hmap, hbounds⟩ := Option.filter_eq_some_iff.1 h
    obtain ⟨n, hn, rfl⟩ := Option.map_eq_some_iff.1 hmap
    simp only [Bool.and_eq_true, decide_eq_true_eq] at hbounds
    exact .integer (numeral_iff.2 hn) (by omega) (by omega)

/-- The constant of a number's text is what the grammar takes it to denote. -/
theorem number_eq_ok_iff {digits : String} {v : Literal}
    (ht : digits.toList = signed negative cs) (hc : ∀ c ∈ cs, Lexer.isNumberChar c = true) :
    Parser.number digits = .ok v ↔ Number negative cs v := by
  have hpoint : '.' ∈ signed negative cs ↔ '.' ∈ cs := by
    cases negative <;> simp [signed]
  by_cases hp : '.' ∈ cs
  · rw [Parser.number, ht, if_pos (hpoint.2 hp), number_iff_of_point hc hp, read?_eq_splitSign,
      splitSign_signed hc]
    cases Binary.readUnsigned? Binary.double negative cs <;> simp [eq_comm]
  · rw [Parser.number, ht, if_neg fun h => hp (hpoint.1 h), number_iff_of_no_point hc hp]
    cases Parser.readInt64? (signed negative cs) <;> simp [eq_comm]

end Numbers

section Lexing

/-- A token of some characters: not the end, and a number of the characters that numbers have. -/
def Token.IsWritten : Token → Prop
  | eof => False
  | number digits => ∀ c ∈ digits.toList, Lexer.isNumberChar c = true
  | _ => True

/-- Tokens into which a text splits. -/
inductive Lexed : List Token → Prop where
  | eof : Lexed [.eof]
  | cons (ht : t.IsWritten) (h : Lexed ts) : Lexed (t :: ts)

theorem isWritten_wordToken (cs : List Char) : (Lexer.wordToken cs).IsWritten := by
  rw [Lexer.wordToken]
  split
  · next t ht =>
    obtain ⟨l₁, l₂, hk, -⟩ := List.lookup_eq_some_iff.1 ht
    have hmem : t ∈ Lexer.keywords.map Prod.snd := by
      rw [hk]
      simp
    have hall : ∀ u ∈ Lexer.keywords.map Prod.snd, u.IsWritten := by
      simp [Lexer.keywords, Token.IsWritten]
    exact hall t hmem
  · trivial

theorem isWritten_next {c : Char} {rest r : List Char} {t : Token}
    (h : Lexer.next c rest = .ok (t, r)) : t.IsWritten := by
  unfold Lexer.next at h
  split at h
  case h_15 =>
    split at h
    · next hc =>
      cases h
      intro d hd
      rw [String.toList_ofList] at hd
      rcases List.mem_cons.1 hd with rfl | hd
      · exact hc
      · exact List.all_eq_true.1 List.all_takeWhile d hd
    · split at h
      · cases h
        exact isWritten_wordToken _
      · cases h
  case h_13 =>
    split at h <;> cases h
    trivial
  case h_14 =>
    split at h <;> cases h
    trivial
  all_goals
    cases h
  all_goals
    trivial

theorem lexed_of_tokens {cs : List Char} {ts : List Token} (h : Lexer.tokens cs = .ok ts) :
    Lexed ts := by
  fun_induction Lexer.tokens cs generalizing ts with
  | case1 =>
    cases h
    exact .eof
  | case2 c rest hc ih => exact ih h
  | case3 => cases h
  | case4 c rest hc t r hnext hlt ih =>
    obtain ⟨us, hus, rfl⟩ := Except.map_eq_ok_iff.1 h
    exact .cons (isWritten_next hnext) (ih hus)

end Lexing

section Sound

variable {ts rest : List Token}

theorem Lexed.tail (h : Lexed (t :: ts)) (ht : t ≠ .eof) : Lexed ts := by
  cases h with
  | eof => exact absurd rfl ht
  | cons _ h => exact h

theorem Lexed.isNumberChar (h : Lexed (.number digits :: ts)) :
    ∀ c ∈ digits.toList, Lexer.isNumberChar c = true := by
  cases h with
  | cons ht => exact ht

namespace Parser

theorem readName_eq_ok_iff : readName ts = .ok (n, rest) ↔ ts = .name n :: rest := by
  constructor
  · intro h
    unfold readName at h
    split at h
    · cases h
      rfl
    · cases h
  · rintro rfl
    rfl

theorem expect_eq_ok (h : expect t ts = .ok rest) (ht : t ≠ .eof) : ts = t :: rest := by
  rw [expect] at h
  split at h
  · next hcurrent =>
    cases h
    cases ts with
    | nil => exact absurd hcurrent.symm ht
    | cons u us => exact congrArg (· :: us) hcurrent
  · cases h

theorem comparison?_eq_some_iff : comparison? t = some op ↔ t = op.token := by
  cases op <;> cases t <;> simp [comparison?, Comparison.token]

theorem names_of_readNames (h : readNames ts = .ok (ns, rest)) (hl : Lexed ts) :
    Lexed rest ∧ ∃ us, ts = us ++ rest ∧ Names us ns := by
  fun_induction readNames ts generalizing ns rest with
  | case1 n ts ih =>
    obtain ⟨⟨ms, rest'⟩, hrec, he⟩ := Except.bind_eq_ok_iff.1 h
    cases he
    have hcomma : Lexed ts := (hl.tail (by simp)).tail (by simp)
    obtain ⟨hlast, us, rfl, hus⟩ := ih hrec hcomma
    exact ⟨hlast, .name n :: .comma :: us, rfl, .more n hus⟩
  | case2 n ts =>
    cases h
    exact ⟨hl.tail (by simp), [.name n], rfl, .one n⟩
  | case3 => cases h

theorem projects_of_readProjection (h : readProjection ts = .ok (p, rest)) (hl : Lexed ts) :
    Lexed rest ∧ ∃ us, ts = us ++ rest ∧ Projects us p := by
  unfold readProjection at h
  split at h
  · cases h
    exact ⟨hl.tail (by simp), [.star], rfl, .all⟩
  · obtain ⟨⟨ns, rest'⟩, hnames, he⟩ := Except.bind_eq_ok_iff.1 h
    cases he
    obtain ⟨hlast, us, hus, hns⟩ := names_of_readNames hnames hl
    exact ⟨hlast, us, hus, .columns hns⟩

theorem constant_of_readLiteral (h : readLiteral ts = .ok (v, rest)) (hl : Lexed ts) :
    Lexed rest ∧ ∃ us, ts = us ++ rest ∧ Constant us v := by
  unfold readLiteral at h
  split at h
  · next digits us =>
    obtain ⟨w, hw, he⟩ := Except.map_eq_ok_iff.1 h
    cases he
    have hnumber := hl.tail (by simp)
    refine ⟨hnumber.tail (by simp), [.minus, .number digits], rfl, .negative digits ?_⟩
    refine (number_eq_ok_iff ?_ hnumber.isNumberChar).1 hw
    simp [signed]
  · cases h
  · next digits us =>
    obtain ⟨w, hw, he⟩ := Except.map_eq_ok_iff.1 h
    cases he
    refine ⟨hl.tail (by simp), [.number digits], rfl, .number digits ?_⟩
    exact (number_eq_ok_iff rfl hl.isNumberChar).1 hw
  · next s us =>
    cases h
    exact ⟨hl.tail (by simp), [.text s], rfl, .text s⟩
  · cases h
    exact ⟨hl.tail (by simp), [.trueWord], rfl, .yes⟩
  · cases h
    exact ⟨hl.tail (by simp), [.falseWord], rfl, .no⟩
  · cases h

theorem compares_of_readPredicate (h : readPredicate ts = .ok (p, rest)) (hl : Lexed ts) :
    Lexed rest ∧ ∃ us, ts = us ++ rest ∧ Compares us p := by
  obtain ⟨⟨column, us⟩, hname, hcompare⟩ := Except.bind_eq_ok_iff.1 h
  obtain rfl := readName_eq_ok_iff.1 hname
  dsimp only at hcompare
  split at hcompare
  · cases hcompare
  · next op hop =>
    obtain ⟨⟨value, rest'⟩, hvalue, he⟩ := Except.bind_eq_ok_iff.1 hcompare
    cases he
    have hcurrent := comparison?_eq_some_iff.1 hop
    have hus := hl.tail (by simp)
    cases us with
    | nil =>
      cases op <;> cases hcurrent
    | cons t us =>
      obtain rfl : t = op.token := hcurrent
      have hne : op.token ≠ .eof := by cases op <;> simp [Comparison.token]
      obtain ⟨hlast, vs, rfl, hv⟩ := constant_of_readLiteral hvalue (hus.tail hne)
      exact ⟨hlast, .name column :: op.token :: vs, rfl, .intro column op hv⟩

theorem conjunction_of_readPredicates (h : readPredicates fuel ts = .ok (ps, rest))
    (hl : Lexed ts) : Lexed rest ∧ ∃ us, ts = us ++ rest ∧ Conjunction us ps := by
  induction fuel generalizing ts ps rest with
  | zero => cases h
  | succ fuel ih =>
    obtain ⟨⟨p, us⟩, hp, hmore⟩ := Except.bind_eq_ok_iff.1 h
    obtain ⟨hus, vs, rfl, hv⟩ := compares_of_readPredicate hp hl
    dsimp only at hmore
    split at hmore
    · next us =>
      obtain ⟨⟨qs, rest'⟩, hrec, he⟩ := Except.bind_eq_ok_iff.1 hmore
      cases he
      obtain ⟨hlast, ws, rfl, hws⟩ := ih hrec (hus.tail (by simp))
      exact ⟨hlast, vs ++ .and :: ws, by simp, .more hv hws⟩
    · cases hmore
      exact ⟨hus, vs, rfl, .one hv⟩

theorem selects_of_readSelection (h : readSelection ts = .ok (ps, rest)) (hl : Lexed ts) :
    Lexed rest ∧ ∃ us, ts = us ++ rest ∧ Selects us ps := by
  unfold readSelection at h
  split at h
  · obtain ⟨hlast, us, rfl, hus⟩ := conjunction_of_readPredicates h (hl.tail (by simp))
    exact ⟨hlast, .whereWord :: us, rfl, .only hus⟩
  · cases h
    exact ⟨hl, [], rfl, .all⟩

theorem readCount?_eq_some_iff {cs : List Char} {n : Nat}
    (hc : ∀ c ∈ cs, Lexer.isNumberChar c = true) :
    readCount? cs = some n ↔ Numeral cs n ∧ n < UInt64.size := by
  have hplain : readCount? cs = (Decimal.toNat? cs).filter fun n => n < UInt64.size := by
    unfold readCount? Decimal.toNatBelow?
    split
    · exact absurd (hc _ (List.mem_cons_self ..)) (by decide)
    · rfl
  rw [hplain, numeral_iff, Option.filter_eq_some_iff, decide_eq_true_eq]

theorem limits_of_readLimit (h : readLimit ts = .ok (limit, rest)) (hl : Lexed ts) :
    Lexed rest ∧ ∃ us, ts = us ++ rest ∧ Limits us limit := by
  unfold readLimit at h
  split at h
  · next digits us =>
    have hnumber := hl.tail (by simp)
    split at h
    · next n hn =>
      cases h
      obtain ⟨hnumeral, hlt⟩ := (readCount?_eq_some_iff hnumber.isNumberChar).1 hn
      exact ⟨hnumber.tail (by simp), [.limit, .number digits], rfl, .some digits hnumeral hlt⟩
    · cases h
  · cases h
  · cases h
    exact ⟨hl, [], rfl, .none⟩

theorem ends_of_current (h : current (skipSemicolon ts) = .eof) (hl : Lexed ts) : Ends ts := by
  cases hl with
  | eof => exact .plain
  | cons ht hus =>
    unfold skipSemicolon at h
    split at h
    · next he =>
      cases he
      cases hus with
      | eof => exact .semicolon
      | cons ht' =>
        cases h
        exact ht'.elim
    · cases h
      exact ht.elim

theorem denotes_of_readQuery (h : readQuery ts = .ok q) (hl : Lexed ts) : Denotes ts q := by
  obtain ⟨ts₁, hselect, h₁⟩ := Except.bind_eq_ok_iff.1 h
  obtain rfl := expect_eq_ok hselect (by simp)
  obtain ⟨⟨projection, ts₂⟩, hprojection, h₂⟩ := Except.bind_eq_ok_iff.1 h₁
  obtain ⟨hl₂, ps, rfl, hp⟩ := projects_of_readProjection hprojection (hl.tail (by simp))
  obtain ⟨ts₃, hfrom, h₃⟩ := Except.bind_eq_ok_iff.1 h₂
  obtain rfl := expect_eq_ok hfrom (by simp)
  obtain ⟨⟨table, ts₄⟩, htable, h₄⟩ := Except.bind_eq_ok_iff.1 h₃
  obtain rfl := readName_eq_ok_iff.1 htable
  obtain ⟨⟨selection, ts₅⟩, hselection, h₅⟩ := Except.bind_eq_ok_iff.1 h₄
  obtain ⟨hl₅, ss, rfl, hs⟩ :=
    selects_of_readSelection hselection ((hl₂.tail (by simp)).tail (by simp))
  obtain ⟨⟨limit, ts₆⟩, hlimit, h₆⟩ := Except.bind_eq_ok_iff.1 h₅
  obtain ⟨hl₆, ls, rfl, hlim⟩ := limits_of_readLimit hlimit hl₅
  dsimp only at h₆
  split at h₆
  · next hlast =>
    cases h₆
    exact .intro hp table hs hlim (ends_of_current hlast hl₆)
  · cases h₆

end Parser

end Sound

section Complete

variable {ts us rest : List Token}

namespace Parser

theorem expect_cons (t : Token) (ts : List Token) : expect t (t :: ts) = .ok ts := if_pos rfl

theorem readNames_of_names (h : Names us ns) (hr : ∀ ts, rest ≠ .comma :: ts) :
    readNames (us ++ rest) = .ok (ns, rest) := by
  induction h with
  | one n =>
    unfold readNames
    split
    · next he =>
      cases he
      exact absurd rfl (hr _)
    · next he =>
      cases he
      rfl
    · next hno => exact absurd rfl (hno _ _)
  | more n h ih =>
    show readNames (.name n :: .comma :: (_ ++ rest)) = _
    rw [readNames, ih]
    rfl

theorem readProjection_of_projects (h : Projects us p) (hr : ∀ ts, rest ≠ .comma :: ts) :
    readProjection (us ++ rest) = .ok (p, rest) := by
  cases h with
  | all => rfl
  | columns hn =>
    have hnames := readNames_of_names hn hr
    unfold readProjection
    split
    · next he => cases hn <;> cases he
    · rw [hnames]
      rfl

theorem readLiteral_of_constant (h : Constant us v) (rest : List Token) :
    readLiteral (us ++ rest) = .ok (v, rest) := by
  cases h with
  | text => rfl
  | yes => rfl
  | no => rfl
  | number digits h =>
    have hnumber : number digits = .ok v := (number_eq_ok_iff rfl h.isNumberChar).2 h
    show (number digits).map _ = _
    rw [hnumber]
    rfl
  | negative digits h =>
    have hnumber : number ("-" ++ digits) = .ok v :=
      (number_eq_ok_iff (by simp [signed]) h.isNumberChar).2 h
    show (number ("-" ++ digits)).map _ = _
    rw [hnumber]
    rfl

theorem readPredicate_of_compares (h : Compares us p) (rest : List Token) :
    readPredicate (us ++ rest) = .ok (p, rest) := by
  cases h with
  | intro column op h =>
    have hop : comparison? op.token = some op := comparison?_eq_some_iff.2 rfl
    have hvalue := readLiteral_of_constant h rest
    simp only [List.cons_append, readPredicate, readName, current, List.headD_cons, Except.ok_bind,
      hop, List.tail_cons, hvalue]

/-- There are fewer comparisons than tokens. -/
theorem readPredicates_of_conjunction (h : Conjunction us ps) (hr : ∀ ts, rest ≠ .and :: ts)
    (hfuel : us.length < fuel) : readPredicates fuel (us ++ rest) = .ok (ps, rest) := by
  induction h generalizing fuel with
  | one h =>
    obtain ⟨fuel, rfl⟩ := Nat.exists_eq_add_one_of_ne_zero (Nat.ne_zero_of_lt hfuel)
    rw [readPredicates, readPredicate_of_compares h, Except.ok_bind]
    dsimp only
    split
    · exact absurd rfl (hr _)
    · rfl
  | more h hs ih =>
    obtain ⟨fuel, rfl⟩ := Nat.exists_eq_add_one_of_ne_zero (Nat.ne_zero_of_lt hfuel)
    have hrec : readPredicates fuel _ = .ok (_, rest) := ih (by
      simp only [List.length_append, List.length_cons] at hfuel
      omega)
    rw [List.append_assoc, readPredicates, readPredicate_of_compares h, Except.ok_bind,
      List.cons_append]
    dsimp only
    rw [hrec]
    rfl

theorem readSelection_of_selects (h : Selects us ps) (hwhere : ∀ ts, rest ≠ .whereWord :: ts)
    (hand : ∀ ts, rest ≠ .and :: ts) : readSelection (us ++ rest) = .ok (ps, rest) := by
  cases h with
  | all =>
    unfold readSelection
    split
    · next he => exact absurd he (hwhere _)
    · rfl
  | only h =>
    refine readPredicates_of_conjunction h hand (Nat.lt_succ_of_le ?_)
    exact (List.sublist_append_left ..).length_le

theorem readLimit_of_limits (h : Limits us limit) (hr : ∀ ts, rest ≠ .limit :: ts) :
    readLimit (us ++ rest) = .ok (limit, rest) := by
  cases h with
  | none =>
    unfold readLimit
    split
    · next he => exact absurd he (hr _)
    · next he => exact absurd he (hr _)
    · rfl
  | some digits h hn =>
    have hc : ∀ c ∈ digits.toList, Lexer.isNumberChar c = true :=
      fun c hc => isNumberChar_of_isDigit (h.digits c hc)
    have hcount := (readCount?_eq_some_iff hc).2 ⟨h, hn⟩
    simp only [List.cons_append, List.nil_append, readLimit, hcount]

theorem current_of_ends (h : Ends ts) : current (skipSemicolon ts) = .eof := by
  cases h <;> rfl

theorem ne_of_ends (h : Ends ts) (ht : t ≠ .eof ∧ t ≠ .semicolon) (us : List Token) :
    ts ≠ t :: us := by
  rintro rfl
  cases h with
  | plain => exact ht.1 rfl
  | semicolon => exact ht.2 rfl

theorem ne_of_limits (h : Limits us limit) (he : Ends ts)
    (ht : t ≠ .eof ∧ t ≠ .semicolon) (hlimit : t ≠ .limit) (vs : List Token) :
    us ++ ts ≠ t :: vs := by
  cases h with
  | none => exact ne_of_ends he ht vs
  | some =>
    intro hcons
    cases hcons
    exact hlimit rfl

theorem readQuery_of_denotes (h : Denotes ts q) : readQuery ts = .ok q := by
  cases h with
  | @intro ps projection ss selection ls limit es hp table hs hl he =>
    have hprojection : readProjection (ps ++ .fromWord :: .name table :: (ss ++ (ls ++ es))) =
        .ok (projection, .fromWord :: .name table :: (ss ++ (ls ++ es))) :=
      readProjection_of_projects hp (by simp)
    have hselection : readSelection (ss ++ (ls ++ es)) = .ok (selection, ls ++ es) :=
      readSelection_of_selects hs (ne_of_limits hl he (by simp) (by simp))
        (ne_of_limits hl he (by simp) (by simp))
    have hlimit : readLimit (ls ++ es) = .ok (limit, es) :=
      readLimit_of_limits hl (ne_of_ends he (by simp))
    rw [readQuery, expect_cons, Except.ok_bind, hprojection, Except.ok_bind]
    dsimp only
    rw [expect_cons, Except.ok_bind, readName, Except.ok_bind]
    dsimp only
    rw [hselection, Except.ok_bind]
    dsimp only
    rw [hlimit, Except.ok_bind]
    exact if_pos (current_of_ends he)

theorem readQuery_eq_ok_iff (hl : Lexed ts) : readQuery ts = .ok q ↔ Denotes ts q :=
  ⟨fun h => denotes_of_readQuery h hl, readQuery_of_denotes⟩

end Parser

end Complete

/--
A text is read as a query exactly if its tokens denote it; they denote no other query, and a text
that is not read as one is refused for its form.
-/
theorem parseQuery_eq_ok_iff (text : String) :
    (∀ q, parseQuery text = .ok q ↔ ∃ ts, tokenize text = .ok ts ∧ Denotes ts q) ∧
    (∀ ts, {q | Denotes ts q}.Subsingleton) ∧
    ((∃ q, parseQuery text = .ok q) ∨ ∃ message, parseQuery text = .error (.parse message)) := by
  refine ⟨fun q => ?_, fun ts q hq r hr => ?_, ?_⟩
  · rw [parseQuery, SelectQuery.read]
    cases ht : tokenize text with
    | error e => simp [Except.mapError]
    | ok ts =>
      have hread := Parser.readQuery_eq_ok_iff (q := q) (lexed_of_tokens ht)
      cases hq : Parser.readQuery ts with
      | error e => simp_all [Except.mapError]
      | ok r => simp_all [Except.mapError]
  · have hread := Parser.readQuery_of_denotes hq
    rw [Parser.readQuery_of_denotes hr] at hread
    exact (Except.ok.inj hread).symm
  · rw [parseQuery]
    cases SelectQuery.read text with
    | error e => exact .inr ⟨e.message, rfl⟩
    | ok q => exact .inl ⟨q, rfl⟩

-- The least integer is written with its sign only.
example : (parseQuery "select a from t where a >= -9223372036854775808 limit 07;").toOption =
    some ⟨.columns ["a"], "t", [⟨"a", .ge, .integer (-2 ^ (63 : Nat))⟩], some 7⟩ := by
  decide +kernel

end ShardQuery
