import ShardQuery.Proofs.Query.Grammar
import Mathlib.Data.List.TakeWhile

namespace ShardQuery

namespace Text

def blanks : List Char :=
  blankRanges.flatMap fun r => (List.range' r.1 (r.2 + 1 - r.1)).map Char.ofNat

theorem mem_blanks {c : Char} (h : isBlank c = true) : c ∈ blanks := by
  obtain ⟨r, hr, hlo, hhi⟩ := exists_mem_of_inRanges h
  apply List.mem_flatMap.2
  refine ⟨r, hr, List.mem_map.2 ⟨c.toNat, ?_, Char.ofNat_toNat c⟩⟩
  rw [List.mem_range'_1]
  omega

end Text

section Letters

variable {c : Char}

theorem isAlpha_iff : c.isAlpha = true ↔
    65 ≤ c.toNat ∧ c.toNat ≤ 90 ∨ 97 ≤ c.toNat ∧ c.toNat ≤ 122 := by
  have ht : c.val.toNat = c.toNat := rfl
  show (decide (c.val ≥ 65 ∧ c.val ≤ 90) ||
    (decide (c.val ≥ 97) && decide (c.val ≤ 122))) = true ↔ _
  simp only [Bool.or_eq_true, Bool.and_eq_true, decide_eq_true_eq, ge_iff_le,
    UInt32.le_iff_toNat_le, ht, UInt32.reduceToNat]

theorem isAlpha_of_isUpper_toUpper (h : c.toUpper.isUpper = true) : c.isAlpha = true := by
  by_cases hc : c.val ≥ 97 ∧ c.val ≤ 122
  · have hlower : c.isLower = true :=
      Bool.and_eq_true_iff.2 ⟨decide_eq_true hc.1, decide_eq_true hc.2⟩
    exact Bool.or_eq_true_iff.2 (.inr hlower)
  · have hsame : c.toUpper = c := dif_neg hc
    rw [hsame] at h
    exact Bool.or_eq_true_iff.2 (.inl h)

theorem lt_of_isAlpha (h : c.isAlpha = true) : c.toNat < 128 := by
  have hc := isAlpha_iff.1 h
  omega

theorem isNumberChar_of_isAlpha (h : c.isAlpha = true) : Lexer.isNumberChar c = false := by
  have ht : c.val.toNat = c.toNat := rfl
  have hp : c ≠ '.' := by
    rintro rfl
    cases h
  have hc := isAlpha_iff.1 h
  have hd : c.isDigit = false := by
    simp [Char.isDigit, UInt32.le_iff_toNat_le]
    omega
  rw [Lexer.isNumberChar, hd, Bool.false_or]
  exact beq_false_of_ne hp

theorem isWordStart_of_isAlpha (h : c.isAlpha = true) : Lexer.isWordStart c = true := by
  rw [Lexer.isWordStart, Text.isLetter_of_isAlpha (lt_of_isAlpha h), h, Bool.true_or]

theorem isWordChar_of_isAlpha (h : c.isAlpha = true) : Lexer.isWordChar c = true := by
  rw [Lexer.isWordChar, Text.isLetter_of_isAlpha (lt_of_isAlpha h), h, Bool.true_or, Bool.true_or]

theorem upperAscii_of_isAlpha (h : c.isAlpha = true) : Text.upperAscii c = c.toUpper := by
  rw [Text.upperAscii, if_neg, if_neg]
  · rintro rfl
    exact absurd h (by decide)
  · rintro rfl
    exact absurd h (by decide)

end Letters

namespace Lexer

/-- Nothing, or what starts with white space or a semicolon. -/
def Clear : List Char → Prop
  | [] => True
  | c :: _ => Text.isBlank c = true ∨ c = ';'

/-- A character with which no token goes on. -/
structure Separates (c : Char) : Prop where
  number : isNumberChar c = false
  word : isWordChar c = false
  quote : c ≠ '\''
  equal : c ≠ '='
  greater : c ≠ '>'

theorem separates_of_clear (h : Clear (c :: cs)) : Separates c := by
  have hall : (';' :: Text.blanks).all (fun c => decide (isNumberChar c = false ∧
      isWordChar c = false ∧ c ≠ '\'' ∧ c ≠ '=' ∧ c ≠ '>')) = true := by
    decide +kernel
  have hc : c ∈ ';' :: Text.blanks := by
    obtain hb | rfl := h
    · exact List.mem_cons_of_mem _ (Text.mem_blanks hb)
    · exact List.mem_cons_self
  obtain ⟨hn, hw, hq, he, hg⟩ := of_decide_eq_true (List.all_eq_true.1 hall c hc)
  exact ⟨hn, hw, hq, he, hg⟩

variable {after : List Char}

theorem takeWhile_append_clear {p : Char → Bool} (ha : ∀ c ∈ after.head?, p c = false)
    (cs : List Char) : (cs ++ after).takeWhile p = cs.takeWhile p ∧
      (cs ++ after).dropWhile p = cs.dropWhile p ++ after := by
  induction cs with
  | nil =>
    cases after with
    | nil => exact ⟨rfl, rfl⟩
    | cons c after =>
      have hc : ¬ p c = true := by
        rw [ha c rfl]
        exact Bool.false_ne_true
      exact ⟨List.takeWhile_cons_of_neg hc, List.dropWhile_cons_of_neg hc⟩
  | cons c cs ih =>
    rw [List.cons_append]
    by_cases hc : p c = true
    · rw [List.takeWhile_cons_of_pos hc, List.takeWhile_cons_of_pos hc,
        List.dropWhile_cons_of_pos hc, List.dropWhile_cons_of_pos hc, ih.1]
      exact ⟨rfl, ih.2⟩
    · rw [List.takeWhile_cons_of_neg hc, List.takeWhile_cons_of_neg hc,
        List.dropWhile_cons_of_neg hc, List.dropWhile_cons_of_neg hc]
      exact ⟨rfl, rfl⟩

theorem append_ne_cons {cs : List Char} {d : Char} (hc : ∀ r, cs ≠ d :: r)
    (ha : d ∉ after.head?) (r : List Char) : cs ++ after ≠ d :: r := by
  intro he
  cases cs with
  | nil =>
    rw [List.nil_append] at he
    rw [he] at ha
    exact ha rfl
  | cons e cs =>
    cases he
    exact hc cs rfl

theorem readText?_append {cs v r : List Char} (h : readText? cs = some (v, r))
    (ha : '\'' ∉ after.head?) : readText? (cs ++ after) = some (v, r ++ after) := by
  fun_induction readText? cs generalizing v r with
  | case1 => cases h
  | case2 cs ih =>
    obtain ⟨⟨v', r'⟩, hv, he⟩ := Option.map_eq_some_iff.1 h
    cases he
    show readText? ('\'' :: '\'' :: (cs ++ after)) = _
    rw [readText?, ih hv]
    rfl
  | case3 cs hcs =>
    cases h
    show readText? ('\'' :: (cs ++ after)) = _
    rw [readText?]
    exact append_ne_cons hcs ha
  | case4 c cs hq hc ih =>
    obtain ⟨⟨v', r'⟩, hv, he⟩ := Option.map_eq_some_iff.1 h
    cases he
    show readText? (c :: (cs ++ after)) = _
    rw [readText?, ih hv]
    · rfl
    · exact fun _ he _ => hc he
    · exact hc

theorem readName?_append {cs v r : List Char} (h : readName? cs = some (v, r))
    (after : List Char) : readName? (cs ++ after) = some (v, r ++ after) := by
  fun_induction readName? cs generalizing v r with
  | case1 => cases h
  | case2 cs =>
    cases h
    rfl
  | case3 c cs hc ih =>
    obtain ⟨⟨v', r'⟩, hv, he⟩ := Option.map_eq_some_iff.1 h
    cases he
    show readName? (c :: (cs ++ after)) = _
    rw [readName?, ih hv]
    · rfl
    · exact hc

/-- The characters that start a token by themselves. -/
def marks : List Char := ['*', '-', '=', '<', '>', '!', ',', ';', '\'', '"']

theorem next_of_notMem_marks {c : Char} (hc : c ∉ marks) (cs : List Char) : next c cs =
    if isNumberChar c then
      .ok (.number (String.ofList (c :: cs.takeWhile isNumberChar)), cs.dropWhile isNumberChar)
    else if isWordStart c then
      .ok (wordToken (c :: cs.takeWhile isWordChar), cs.dropWhile isWordChar)
    else .error (.strayCharacter c) := by
  unfold next
  split
  case h_15 => rfl
  all_goals
    exact absurd (by decide) hc

/-- A token stays as it is when its text goes on where nothing continues it. -/
theorem next_append {c : Char} {cs r : List Char} {t : Token} (h : next c cs = .ok (t, r))
    (ha : Clear after) : next c (cs ++ after) = .ok (t, r ++ after) := by
  have hs : ∀ d ∈ after.head?, Separates d := by
    intro d hd
    cases after with
    | nil => cases hd
    | cons e after =>
      cases hd
      exact separates_of_clear ha
  unfold next at h
  split at h
  case h_6 he hg =>
    cases h
    rw [next]
    · exact append_ne_cons he fun hd => (hs _ hd).equal rfl
    · exact append_ne_cons hg fun hd => (hs _ hd).greater rfl
  case h_8 he =>
    cases h
    rw [next]
    exact append_ne_cons he fun hd => (hs _ hd).equal rfl
  case h_10 => cases h
  case h_13 =>
    split at h
    · next hv =>
      cases h
      rw [next, readText?_append hv fun hq => (hs _ hq).quote rfl]
    · cases h
  case h_14 =>
    split at h
    · next hv =>
      cases h
      rw [next, readName?_append hv]
    · cases h
  case h_15 =>
    have hc : c ∉ marks := by
      simp_all [marks]
    have hn := takeWhile_append_clear (fun d hd => (hs d hd).number) cs
    have hw := takeWhile_append_clear (fun d hd => (hs d hd).word) cs
    rw [next_of_notMem_marks hc, hn.1, hn.2, hw.1, hw.2]
    split at h
    · next hnum =>
      cases h
      rw [if_pos hnum]
    · next hnum =>
      rw [if_neg hnum]
      split at h
      · next hword =>
        cases h
        rw [if_pos hword]
      · cases h
  all_goals
    cases h
    rfl

theorem tokens_of_blank {c : Char} (hc : Text.isBlank c = true) (cs : List Char) :
    tokens (c :: cs) = tokens cs := by
  rw [tokens, if_pos hc]

theorem tokens_of_next {c : Char} {cs r : List Char} {t : Token} (hc : ¬ Text.isBlank c = true)
    (h : next c cs = .ok (t, r)) : tokens (c :: cs) = (tokens r).map (t :: ·) := by
  rw [tokens, if_neg hc]
  split
  · next he =>
    rw [h] at he
    cases he
  · next he =>
    rw [h] at he
    cases he
    rfl

theorem tokens_blanks {blanks : List Char} (hb : ∀ c ∈ blanks, Text.isBlank c = true)
    (cs : List Char) : tokens (blanks ++ cs) = tokens cs := by
  induction blanks with
  | nil => rfl
  | cons c blanks ih =>
    rw [List.cons_append, tokens_of_blank (hb c List.mem_cons_self),
      ih fun d hd => hb d (List.mem_cons_of_mem c hd)]

theorem map_map_cons (t : Token) (ts : List Token) (x : Except LexicalError (List Token)) :
    (x.map (ts ++ ·)).map (t :: ·) = x.map (t :: ts ++ ·) := by
  cases x <;> rfl

/-- The characters split into these tokens, and nothing is left over. -/
def Splits (cs : List Char) (ts : List Token) : Prop := tokens cs = .ok (ts ++ [.eof])

/-- What goes on clear of a text leaves its tokens as they are. -/
theorem Splits.tokens_append {cs : List Char} {ts : List Token} (h : Splits cs ts)
    (ha : Clear after) : tokens (cs ++ after) = (tokens after).map (ts ++ ·) := by
  unfold Splits at h
  fun_induction tokens cs generalizing ts with
  | case1 =>
    cases ts with
    | nil =>
      show tokens after = (tokens after).map fun us => us
      cases tokens after <;> rfl
    | cons t ts => cases ts <;> cases h
  | case2 c cs hc ih => rw [List.cons_append, tokens_of_blank hc, ih h]
  | case3 => cases h
  | case4 c cs hc t r hn hlt ih =>
    obtain ⟨us, hus, he⟩ := Except.map_eq_ok_iff.1 h
    cases ts with
    | nil =>
      cases he
      exact absurd (isWritten_next hn) id
    | cons u ts =>
      cases he
      rw [List.cons_append, tokens_of_next hc (next_append hn ha), ih hus]
      exact map_map_cons t ts _

theorem splits_of_next {c : Char} {cs : List Char} {t : Token} (hc : ¬ Text.isBlank c = true)
    (h : next c cs = .ok (t, [])) : Splits (c :: cs) [t] := by
  rw [Splits, tokens_of_next hc h, tokens]
  rfl

theorem readName?_quoted {n : List Char} (h : '"' ∉ n) : readName? (n ++ ['"']) = some (n, []) := by
  induction n with
  | nil => rfl
  | cons c n ih =>
    rw [List.cons_append, readName?, ih fun hn => h (List.mem_cons_of_mem c hn)]
    · rfl
    · rintro rfl
      exact h List.mem_cons_self

theorem splits_name {n : String} (h : '"' ∉ n.toList) :
    Splits ('"' :: (n.toList ++ ['"'])) [.name n] := by
  apply splits_of_next (by decide)
  rw [next, readName?_quoted h]
  simp only [String.ofList_toList]

theorem readText?_quoted (cs : List Char) :
    readText? (cs.flatMap (fun c => if c = '\'' then ['\'', '\''] else [c]) ++ ['\'']) =
      some (cs, []) := by
  induction cs with
  | nil => rfl
  | cons c cs ih =>
    rw [List.flatMap_cons, List.append_assoc]
    split
    · next hc =>
      subst hc
      show readText? ('\'' :: '\'' :: (cs.flatMap _ ++ _)) = _
      rw [readText?, ih]
      rfl
    · next hc =>
      show readText? (c :: (cs.flatMap _ ++ _)) = _
      rw [readText?, ih]
      · rfl
      · exact fun _ he _ => hc he
      · exact hc

theorem splits_text (s : String) : Splits (quoteText s).toList [.text s] := by
  rw [quoteText, String.toList_ofList]
  apply splits_of_next (by decide)
  rw [next, readText?_quoted]
  simp only [String.ofList_toList]

theorem not_blank_of_separates {c : Char} (h : isNumberChar c = true ∨ isWordChar c = true) :
    ¬ Text.isBlank c = true := by
  intro hb
  have hclear : Clear [c] := .inl hb
  have hs := separates_of_clear hclear
  obtain h | h := h
  · rw [hs.number] at h
    cases h
  · rw [hs.word] at h
    cases h

theorem notMem_marks {c : Char} (h : isNumberChar c = true ∨ isWordStart c = true) : c ∉ marks := by
  have hall : marks.all (fun d => decide (isNumberChar d = false ∧ isWordStart d = false)) =
      true := by
    decide +kernel
  intro hc
  obtain ⟨hn, hw⟩ := of_decide_eq_true (List.all_eq_true.1 hall c hc)
  rw [hn, hw] at h
  rcases h with h | h <;> cases h

theorem splits_number {cs : List Char} (hne : cs ≠ []) (hc : ∀ c ∈ cs, isNumberChar c = true) :
    Splits cs [.number (String.ofList cs)] := by
  cases cs with
  | nil => exact absurd rfl hne
  | cons c cs =>
    obtain ⟨h, hcs⟩ := List.forall_mem_cons.1 hc
    apply splits_of_next (not_blank_of_separates (.inl h))
    rw [next_of_notMem_marks (notMem_marks (.inl h)), if_pos h, List.takeWhile_eq_self_iff.2 hcs,
      List.dropWhile_eq_nil_iff.2 hcs]

theorem splits_word {cs : List Char} (hne : cs ≠ []) (hc : ∀ c ∈ cs, c.isAlpha = true) :
    Splits cs [wordToken cs] := by
  cases cs with
  | nil => exact absurd rfl hne
  | cons c cs =>
    obtain ⟨h, -⟩ := List.forall_mem_cons.1 hc
    have hcs : ∀ d ∈ cs, isWordChar d = true := fun d hd =>
      isWordChar_of_isAlpha (hc d (List.mem_cons_of_mem c hd))
    have hstart := isWordStart_of_isAlpha h
    have hnumber : ¬ isNumberChar c = true := by
      rw [isNumberChar_of_isAlpha h]
      exact Bool.false_ne_true
    apply splits_of_next (not_blank_of_separates (.inr (isWordChar_of_isAlpha h)))
    rw [next_of_notMem_marks (notMem_marks (.inr hstart)), if_neg hnumber, if_pos hstart,
      List.takeWhile_eq_self_iff.2 hcs, List.dropWhile_eq_nil_iff.2 hcs]

/-- A keyword in any mix of upper and lower case. -/
theorem splits_keyword {cs : List Char} {word : String} {t : Token}
    (ht : keywords.lookup word = some t) (h : cs.map Char.toUpper = word.toList) :
    Splits cs [t] := by
  have hmem : (word, t) ∈ keywords := by
    obtain ⟨l₁, l₂, hk, -⟩ := List.lookup_eq_some_iff.1 ht
    rw [hk]
    exact List.mem_append_right l₁ List.mem_cons_self
  have hall : ∀ k ∈ keywords, k.1.toList ≠ [] ∧ k.1.toList.all Char.isUpper = true := by
    decide
  obtain ⟨hne, hupper⟩ := hall _ hmem
  have halpha : ∀ c ∈ cs, c.isAlpha = true := by
    intro c hc
    apply isAlpha_of_isUpper_toUpper
    apply List.all_eq_true.1 hupper
    rw [← h]
    exact List.mem_map_of_mem hc
  have hword : wordToken cs = t := by
    have hm : cs.map Text.upperAscii = cs.map Char.toUpper :=
      List.map_congr_left fun c hc => upperAscii_of_isAlpha (halpha c hc)
    rw [wordToken, hm, h, String.ofList_toList, ht]
  have hcs : cs ≠ [] := by
    rintro rfl
    exact hne h.symm
  have hs := splits_word hcs halpha
  rw [hword] at hs
  exact hs

end Lexer

theorem Lexed.exists_snoc {ts : List Token} (h : Lexed ts) :
    ∃ us, ts = us ++ [.eof] ∧ .eof ∉ us := by
  induction h with
  | eof => exact ⟨[], rfl, List.not_mem_nil⟩
  | cons ht h ih =>
    obtain ⟨us, rfl, hus⟩ := ih
    refine ⟨_ :: us, rfl, ?_⟩
    intro hm
    rcases List.mem_cons.1 hm with rfl | hm
    · exact ht
    · exact hus hm

/--
After a text that splits into tokens and white space, a text has the tokens that it has alone, or
fails as it does alone.
-/
theorem tokenize_spaced {s : String} {ts : List Token} {w : Char} (hs : tokenize s = .ok ts)
    (hw : Text.isBlank w = true) (t : String) :
    ∃ us, ts = us ++ [.eof] ∧ .eof ∉ us ∧
      tokenize (s ++ String.singleton w ++ t) = (tokenize t).map (us ++ ·) := by
  obtain ⟨us, rfl, hus⟩ := (lexed_of_tokens hs).exists_snoc
  have hsplits : Lexer.Splits s.toList us := hs
  have hclear : Lexer.Clear (w :: t.toList) := .inl hw
  have hlist : (s ++ String.singleton w ++ t).toList = s.toList ++ w :: t.toList := by
    rw [String.toList_append, String.toList_append, String.toList_singleton, List.append_assoc]
    rfl
  refine ⟨us, rfl, hus, ?_⟩
  rw [tokenize, hlist, hsplits.tokens_append hclear, Lexer.tokens_of_blank hw]
  rfl

/-- A wide space keeps signs apart that are one token together, and an open text stays open. -/
theorem tokenize_spaced_signs :
    tokenize "n <" = .ok [.name "n", .less, .eof] ∧ Text.isBlank '\u3000' = true ∧
      tokenize ("n <" ++ String.singleton '\u3000' ++ "=.5") =
        .ok [.name "n", .less, .equal, .number ".5", .eof] ∧
      tokenize ("n <" ++ String.singleton '\u3000' ++ "='5") = .error .openText := by
  have hs : tokenize "n <" = .ok [.name "n", .less, .eof] := by decide +kernel
  have hw : Text.isBlank '\u3000' = true := by decide
  have hcut : ∀ t, tokenize ("n <" ++ String.singleton '\u3000' ++ t) =
      (tokenize t).map ([.name "n", .less] ++ ·) := by
    intro t
    obtain ⟨us, hus, -, ht⟩ := tokenize_spaced hs hw t
    have hus' : [.name "n", .less] = us := List.append_cancel_right hus
    rw [ht, hus']
  have hnumber : tokenize "=.5" = .ok [.equal, .number ".5", .eof] := by decide +kernel
  have hopen : tokenize "='5" = .error .openText := by decide +kernel
  refine ⟨hs, hw, ?_, ?_⟩
  · rw [hcut, hnumber]
    rfl
  · rw [hcut, hopen]
    rfl

end ShardQuery
