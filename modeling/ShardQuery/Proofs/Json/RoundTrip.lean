import ShardQuery.Proofs.Json.Spelling
import Mathlib.Data.List.DropRight
import Mathlib.Tactic.IntervalCases

namespace ShardQuery.Json

theorem hexValue?_digitChar : ∀ n < 16, hexValue? (Nat.digitChar n) = some n := by decide

theorem hexFour?_low {n : Nat} (h : n < 256) :
    hexFour? '0' '0' (Nat.digitChar (n / 16)) (Nat.digitChar (n % 16)) = some n := by
  have hz : hexValue? '0' = some 0 := by decide
  rw [hexFour?, hz, hexValue?_digitChar _ (by omega), hexValue?_digitChar _ (by omega)]
  simp only [Option.bind_eq_bind, Option.bind_some, Option.some.injEq]
  omega

theorem readText?_short {c x : Char} (hu : c ≠ 'u') (h : shortEscape? c = some x)
    (rest : List Char) :
    readText? ('\\' :: c :: rest) = (readText? rest).map (prepend (some x)) := by
  rw [readText?]
  · simp [h]
  · simp_all
  · simp_all

/-- A number that is a character by itself is read alone, even if another one follows. -/
theorem readText?_number {n : Nat} {x : Char} (h : hexFour? a b c d = some n)
    (hx : singleChar? n = some x) (rest : List Char) :
    readText? ('\\' :: 'u' :: a :: b :: c :: d :: rest) =
      (readText? rest).map (prepend (some x)) := by
  rw [readText?.eq_def]
  split <;> simp_all <;> grind

theorem readText?_plain {c : Char} (hq : c ≠ '"') (hb : c ≠ '\\') (hc : ¬ c.toNat < 32)
    (rest : List Char) : readText? (c :: rest) = (readText? rest).map (prepend (some c)) := by
  rw [readText?]
  · rw [if_neg (by simp only [hc, hb, or_self, not_false_eq_true])]
  · simp_all
  · simp_all
  · simp_all
  · simp_all

theorem readText?_escaped (c : Char) (rest : List Char) :
    readText? (escaped c ++ rest) = (readText? rest).map (prepend (some c)) := by
  unfold escaped
  split
  · subst c; exact readText?_short (by decide) (by decide) rest
  split
  · subst c; exact readText?_short (by decide) (by decide) rest
  split
  · subst c; exact readText?_short (by decide) (by decide) rest
  split
  · subst c; exact readText?_short (by decide) (by decide) rest
  split
  · subst c; exact readText?_short (by decide) (by decide) rest
  split
  · subst c; exact readText?_short (by decide) (by decide) rest
  split
  · subst c; exact readText?_short (by decide) (by decide) rest
  split
  · next hc =>
    have hx : singleChar? c.toNat = some c := by
      rw [singleChar?, if_neg (by omega), Char.ofNat_toNat]
    exact readText?_number (hexFour?_low (by omega)) hx rest
  · next hq hb _ _ _ _ _ hc => exact readText?_plain hq hb hc rest

/-- A written text reads back, and what stands after its closing quote is left. -/
theorem readText?_escapes (cs rest : List Char) :
    readText? (cs.flatMap escaped ++ '"' :: rest) = some (some cs, rest) := by
  induction cs with
  | nil =>
    rw [List.flatMap_nil, List.nil_append, readText?]
  | cons c cs ih =>
    rw [List.flatMap_cons, List.append_assoc, readText?_escaped, ih]
    rfl

theorem readText?_quoted (s : String) (rest : List Char) :
    readText? (s.toList.flatMap escaped ++ ['"'] ++ rest) = some (some s.toList, rest) := by
  rw [List.append_assoc]
  exact readText?_escapes s.toList rest

/-- Characters that cannot go on with a number that has ended. -/
def Closes (rest : List Char) : Prop :=
  ∀ c ∈ rest.head?, c.isDigit = false ∧ c ≠ '.' ∧ c ≠ 'e' ∧ c ≠ 'E'

theorem closes_nil : Closes [] := by
  intro c hc
  cases hc

theorem closes_cons {c : Char} (h : c ∈ [',', ']', '}', '\n', ' ', '\t', '\r'])
    (rest : List Char) : Closes (c :: rest) := by
  intro d hd
  cases hd
  revert h
  simp only [List.mem_cons, List.not_mem_nil, or_false]
  rintro (rfl | rfl | rfl | rfl | rfl | rfl | rfl) <;> decide

theorem Closes.blank_append (hw : Blank ws) (h : Closes rest) : Closes (ws ++ rest) := by
  cases ws with
  | nil => exact h
  | cons c ws =>
    have hc := hw c (List.mem_cons_self ..)
    apply closes_cons
    simp only [isSpace, Bool.or_eq_true, decide_eq_true_eq] at hc
    rcases hc with ((rfl | rfl) | rfl) | rfl <;> decide

theorem spanDigits_ofNat (n : Nat) {rest : List Char} (h : Closes rest) :
    Binary.spanDigits (Decimal.ofNat n ++ rest) = (Decimal.ofNat n, rest) := by
  have hall : ∀ c ∈ Decimal.ofNat n, c.isDigit = true :=
    fun _ hc => Decimal.isDigit_of_mem_ofNat hc
  have hrest : rest.takeWhile Char.isDigit = [] ∧ rest.dropWhile Char.isDigit = rest := by
    cases rest with
    | nil => exact ⟨rfl, rfl⟩
    | cons c rest =>
      have hc := (h c rfl).1
      simp [hc]
  rw [Binary.spanDigits, List.takeWhile_append_of_pos hall, List.dropWhile_append_of_pos hall,
    hrest.1, hrest.2, List.append_nil]

theorem head?_ofNat (n : Nat) (h : 0 < n) : (Decimal.ofNat n).head? ≠ some '0' := by
  induction n using Nat.strong_induction_on with
  | _ n ih =>
    rw [Decimal.ofNat, Nat.toDigits_eq_if (by decide)]
    split
    · next hn =>
      interval_cases n <;> decide
    · next hn =>
      have hd := ih (n / 10) (by omega) (by omega)
      obtain ⟨c, cs, hc⟩ := List.exists_cons_of_ne_nil (Decimal.ofNat_ne_nil (n / 10))
      rw [hc] at hd
      rw [Decimal.ofNat] at hc
      rw [hc]
      exact hd

theorem readWhole?_ofNat (n : Nat) {rest : List Char} (h : Closes rest) :
    readWhole? (Decimal.ofNat n ++ rest) = some (Decimal.ofNat n, rest) := by
  rcases Nat.eq_zero_or_pos n with rfl | hn
  · rw [Decimal.ofNat, Nat.toDigits_zero]
    rfl
  · have hs := spanDigits_ofNat n h
    have hz := head?_ofNat n hn
    have he := Decimal.ofNat_ne_nil n
    rw [readWhole?]
    · rw [hs]
      split
      · simp_all
      · simp_all
    · intro r hr
      cases hd : Decimal.ofNat n with
      | nil => exact he hd
      | cons d ds => simp_all

theorem readFraction?_of_closes {rest : List Char} (h : Closes rest) :
    readFraction? rest = some (none, rest) := by
  rw [readFraction?]
  rintro r rfl
  exact (h '.' rfl).2.1 rfl

theorem readExponent?_of_closes {rest : List Char} (h : Closes rest) :
    readExponent? rest = some (none, rest) := by
  cases rest with
  | nil => rfl
  | cons c rest =>
    have hc := h c rfl
    unfold readExponent?
    simp only [hc.2.2, or_self, ↓reduceIte]

theorem readUnsigned?_ofNat (negative : Bool) (n : Nat) {rest : List Char} (h : Closes rest) :
    readUnsigned? negative (Decimal.ofNat n ++ rest) =
      some (wholeNumber negative (Decimal.ofNat n), rest) := by
  simp only [readUnsigned?, readWhole?_ofNat n h, readFraction?_of_closes h,
    readExponent?_of_closes h, Option.bind_eq_bind, Option.bind_some, Option.isNone_none,
    and_self, ↓reduceIte]

theorem wholeNumber_ofNat {n : Nat} (h : n < UInt64.size) :
    wholeNumber false (Decimal.ofNat n) = int n := by
  simp [wholeNumber, Decimal.ofNat, h]

theorem wholeNumber_neg {n : Nat} (h : 0 < n) (hn : n ≤ 9223372036854775808) :
    wholeNumber true (Decimal.ofNat n) = int (-n) := by
  simp [wholeNumber, Decimal.ofNat, h, hn]

theorem skipSpace_cons {c : Char} (h : isSpace c = false) (cs : List Char) :
    skipSpace (c :: cs) = c :: cs := by
  rw [skipSpace, List.dropWhile_cons, h]
  rfl

theorem isSpace_of_isDigit {c : Char} (h : c.isDigit = true) : isSpace c = false := by
  unfold isSpace
  simp only [Bool.or_eq_false_iff, decide_eq_false_iff_not]
  refine ⟨⟨⟨?_, ?_⟩, ?_⟩, ?_⟩ <;> (rintro rfl; revert h; decide)

theorem exists_cons_ofInt (i : Int) :
    ∃ c cs, Decimal.ofInt i = c :: cs ∧ (c = '-' ∨ c.isDigit = true) := by
  rw [Decimal.ofInt]
  split
  · exact ⟨'-', _, rfl, .inl rfl⟩
  · obtain ⟨c, cs, hc⟩ := List.exists_cons_of_ne_nil (Decimal.ofNat_ne_nil i.natAbs)
    exact ⟨c, cs, hc, .inr (Decimal.isDigit_of_mem_ofNat (by rw [hc]; exact List.mem_cons_self))⟩

/-- A spelled value starts with neither white space nor a closing bracket. -/
theorem Spelled.exists_cons {v : Json} (h : v.Spelled cs) :
    ∃ c ds, cs = c :: ds ∧ isSpace c = false ∧ c ≠ ']' := by
  cases h with
  | null => exact ⟨'n', _, rfl, by decide, by decide⟩
  | bool b => cases b <;> exact ⟨_, _, rfl, by decide, by decide⟩
  | @int i h =>
    obtain ⟨c, ds, hc, h' | h'⟩ := exists_cons_ofInt i
    · exact ⟨c, ds, hc, by subst h'; decide, by subst h'; decide⟩
    · refine ⟨c, ds, hc, isSpace_of_isDigit h', ?_⟩
      rintro rfl
      revert h'
      decide
  | text s => exact ⟨'"', _, rfl, by decide, by decide⟩
  | noItems hw => exact ⟨'[', _, rfl, by decide, by decide⟩
  | list h => exact ⟨'[', _, rfl, by decide, by decide⟩
  | noMembers hw => exact ⟨'{', _, rfl, by decide, by decide⟩
  | object h => exact ⟨'{', _, rfl, by decide, by decide⟩

theorem skipSpace_append (hw : Blank ws) (cs : List Char) : skipSpace (ws ++ cs) = skipSpace cs :=
  List.dropWhile_append_of_pos hw

theorem skipSpace_skipSpace (cs : List Char) : skipSpace (skipSpace cs) = skipSpace cs :=
  List.dropWhile_idempotent ..

theorem skipSpace_blank_cons (hw : Blank ws) {c : Char} (h : isSpace c = false) (cs : List Char) :
    skipSpace (ws ++ c :: cs) = c :: cs := by
  rw [skipSpace_append hw, skipSpace_cons h]

theorem readValue?_skipSpace (fuel : Nat) (cs : List Char) :
    readValue? fuel (skipSpace cs) = readValue? fuel cs := by
  cases fuel with
  | zero => rw [readValue?, readValue?]
  | succ fuel => rw [readValue?, readValue?, skipSpace_skipSpace]

theorem readItems?_skipSpace (fuel : Nat) (cs : List Char) :
    readItems? fuel (skipSpace cs) = readItems? fuel cs := by
  cases fuel with
  | zero => rw [readItems?, readItems?]
  | succ fuel => rw [readItems?, readItems?, readValue?_skipSpace]

theorem readMembers?_skipSpace (fuel : Nat) (cs : List Char) :
    readMembers? fuel (skipSpace cs) = readMembers? fuel cs := by
  cases fuel with
  | zero => rw [readMembers?, readMembers?]
  | succ fuel => rw [readMembers?, readMembers?, skipSpace_skipSpace]

theorem readValue?_digit {c : Char} (h : c.isDigit = true) (fuel : Nat) (cs : List Char) :
    readValue? (fuel + 1) (c :: cs) = readUnsigned? false (c :: cs) := by
  rw [readValue?, skipSpace_cons (isSpace_of_isDigit h)]
  have hne (d : Char) (hd : d.isDigit = false) : c ≠ d := by
    rintro rfl
    rw [h] at hd
    cases hd
  split <;> simp_all

theorem readValue?_ofInt (i : Int) (h : -9223372036854775808 ≤ i ∧ i < UInt64.size) (fuel : Nat)
    {rest : List Char} (hr : Closes rest) :
    readValue? (fuel + 1) (Decimal.ofInt i ++ rest) = some (int i, rest) := by
  rw [Decimal.ofInt]
  split
  · next hi =>
    rw [List.cons_append, readValue?, skipSpace_cons (by decide)]
    simp only [readUnsigned?_ofNat true i.natAbs hr]
    rw [wholeNumber_neg (by omega) (by omega)]
    congr
    omega
  · next hi =>
    obtain ⟨c, cs, hc⟩ := List.exists_cons_of_ne_nil (Decimal.ofNat_ne_nil i.natAbs)
    have hd : c.isDigit = true :=
      Decimal.isDigit_of_mem_ofNat (by rw [hc]; exact List.mem_cons_self)
    have hu := readUnsigned?_ofNat false i.natAbs hr
    rw [hc, List.cons_append] at hu
    rw [hc, List.cons_append, readValue?_digit hd, hu, ← hc, wholeNumber_ofNat (by omega)]
    congr
    omega

theorem ofText_some (s : String) : ofText (some s.toList) = text s := by
  rw [ofText, String.ofList_toList]

/-- The members of an object as they are read. -/
def named (ms : List (String × Json)) : List (Option (List Char) × Json) :=
  ms.map fun m => (some m.1.toList, m.2)

theorem ofMembers_named (ms : List (String × Json)) : ofMembers (named ms) = object ms := by
  have h : (named ms).mapM (fun m => m.1.map fun k => (String.ofList k, m.2)) = some ms := by
    induction ms with
    | nil => rfl
    | cons m ms ih =>
      rw [named] at ih
      rw [named, List.map_cons, List.mapM_cons, ih, Option.map_some, String.ofList_toList]
      rfl
  rw [ofMembers]
  split
  · next hm =>
    cases hm.symm.trans h
    rfl
  · next hm => cases hm.symm.trans h

/-- With so much fuel, the reader gives back what it has fuel for. -/
structure Inverts (fuel : Nat) : Prop where
  value : ∀ {v : Json} {ws cs rest : List Char}, Blank ws → v.Spelled cs → 2 * cs.length ≤ fuel →
    Closes rest → readValue? fuel (ws ++ (cs ++ rest)) = some (v, rest)
  items : ∀ {vs : List Json} {cs : List Char} (rest : List Char), Separated Spelled vs cs →
    2 * cs.length < fuel → readItems? fuel (cs ++ ']' :: rest) = some (vs, rest)
  members : ∀ {ms : List (String × Json)} {cs : List Char} (rest : List Char),
    Separated (Member Spelled) ms cs →
    2 * cs.length < fuel → readMembers? fuel (cs ++ '}' :: rest) = some (named ms, rest)

/-- The first of some things that are separated is what follows white space. -/
theorem skipSpace_separated {P : α → List Char → Prop} {starts : Char → Prop}
    (hP : ∀ {a cs}, P a cs → ∃ c ds, cs = c :: ds ∧ isSpace c = false ∧ starts c)
    (h : Separated P as cs) (rest : List Char) :
    ∃ c ds, skipSpace (cs ++ rest) = c :: ds ∧ starts c := by
  cases h with
  | last hw h hw' =>
    obtain ⟨c, ds, rfl, hs, hc⟩ := hP h
    simp only [List.append_assoc, List.cons_append, skipSpace_blank_cons hw hs]
    exact ⟨c, _, rfl, hc⟩
  | more hw h hw' hs =>
    obtain ⟨c, ds, rfl, hs, hc⟩ := hP h
    simp only [List.append_assoc, List.cons_append, skipSpace_blank_cons hw hs]
    exact ⟨c, _, rfl, hc⟩

theorem Member.exists_cons {P : Json → List Char → Prop} (h : Member P m cs) :
    ∃ c ds, cs = c :: ds ∧ isSpace c = false ∧ c = '"' := by
  obtain ⟨k, -, -, -⟩ := h
  exact ⟨'"', _, rfl, by decide, rfl⟩

theorem Inverts.value_succ (ih : Inverts fuel) {v : Json} {ws cs rest : List Char} (hw : Blank ws)
    (h : v.Spelled cs) (hf : 2 * cs.length ≤ fuel + 1) (hr : Closes rest) :
    readValue? (fuel + 1) (ws ++ (cs ++ rest)) = some (v, rest) := by
  rw [← readValue?_skipSpace, skipSpace_append hw, readValue?_skipSpace]
  cases h with
  | null => rfl
  | bool b => cases b <;> rfl
  | int h => exact readValue?_ofInt _ h fuel hr
  | text s =>
    rw [quotedChars, List.cons_append, readValue?, skipSpace_cons (by decide)]
    simp only [readText?_quoted, Option.map_some, ofText_some]
  | noItems hw' =>
    rw [List.cons_append, List.append_assoc, readValue?, skipSpace_cons (by decide)]
    simp only [List.cons_append, List.nil_append,
      skipSpace_blank_cons hw' (show isSpace ']' = false by decide)]
  | list h =>
    rw [List.length_cons, List.length_append, List.length_singleton] at hf
    have hi := ih.items rest h (by omega)
    rw [List.cons_append, List.append_assoc, readValue?, skipSpace_cons (by decide)]
    obtain ⟨c, ds, hc, hne⟩ := skipSpace_separated Spelled.exists_cons h (']' :: rest)
    rw [← readItems?_skipSpace, hc] at hi
    simp only [List.cons_append, List.nil_append, hc]
    split
    · simp_all
    · rw [hi]
      rfl
  | noMembers hw' =>
    rw [List.cons_append, List.append_assoc, readValue?, skipSpace_cons (by decide)]
    simp only [List.cons_append, List.nil_append,
      skipSpace_blank_cons hw' (show isSpace '}' = false by decide)]
  | object h =>
    rw [List.length_cons, List.length_append, List.length_singleton] at hf
    have hm := ih.members rest h (by omega)
    rw [List.cons_append, List.append_assoc, readValue?, skipSpace_cons (by decide)]
    obtain ⟨c, ds, hc, rfl⟩ := skipSpace_separated Member.exists_cons h ('}' :: rest)
    rw [← readMembers?_skipSpace, hc] at hm
    simp only [List.cons_append, List.nil_append, hc]
    split
    · simp_all
    · rw [hm, Option.map_some, ofMembers_named]

theorem Inverts.items_succ (ih : Inverts fuel) {vs : List Json} {cs : List Char}
    (rest : List Char) (h : Separated Spelled vs cs) (hf : 2 * cs.length < fuel + 1) :
    readItems? (fuel + 1) (cs ++ ']' :: rest) = some (vs, rest) := by
  cases h with
  | last hw h hw' =>
    simp only [List.length_append] at hf
    have hv := ih.value hw h (by omega)
      ((closes_cons (c := ']') (by decide) rest).blank_append hw')
    rw [List.append_assoc, List.append_assoc, readItems?]
    simp only [hv, skipSpace_blank_cons hw' (show isSpace ']' = false by decide)]
  | @more _ _ _ _ _ after hw h hw' hs =>
    simp only [List.length_append, List.length_cons] at hf
    have hi := ih.items rest hs (by omega)
    have hv := ih.value hw h (by omega)
      ((closes_cons (c := ',') (by decide) (after ++ ']' :: rest)).blank_append hw')
    simp only [List.append_assoc, List.cons_append] at hv ⊢
    rw [readItems?]
    simp only [hv, skipSpace_blank_cons hw' (show isSpace ',' = false by decide), hi,
      Option.map_some]

theorem Inverts.members_succ (ih : Inverts fuel) {ms : List (String × Json)} {cs : List Char}
    (rest : List Char) (h : Separated (Member Spelled) ms cs) (hf : 2 * cs.length < fuel + 1) :
    readMembers? (fuel + 1) (cs ++ '}' :: rest) = some (named ms, rest) := by
  cases h with
  | last hw h hw' =>
    obtain ⟨k, hk, hk', h⟩ := h
    simp only [List.length_append, List.length_cons] at hf
    have hv := ih.value hk' h (by omega)
      ((closes_cons (c := '}') (by decide) rest).blank_append hw')
    simp only [quotedChars, List.append_assoc, List.cons_append, List.nil_append]
    rw [readMembers?]
    simp only [skipSpace_blank_cons hw (show isSpace '"' = false by decide), readText?_escapes,
      skipSpace_blank_cons hk (show isSpace ':' = false by decide), hv,
      skipSpace_blank_cons hw' (show isSpace '}' = false by decide)]
    rfl
  | @more _ _ _ _ _ after hw h hw' hs =>
    obtain ⟨k, hk, hk', h⟩ := h
    simp only [List.length_append, List.length_cons] at hf
    have hm := ih.members rest hs (by omega)
    have hv := ih.value hk' h (by omega)
      ((closes_cons (c := ',') (by decide) (after ++ '}' :: rest)).blank_append hw')
    simp only [quotedChars, List.append_assoc, List.cons_append, List.nil_append] at hv ⊢
    rw [readMembers?]
    simp only [skipSpace_blank_cons hw (show isSpace '"' = false by decide), readText?_escapes,
      skipSpace_blank_cons hk (show isSpace ':' = false by decide), hv,
      skipSpace_blank_cons hw' (show isSpace ',' = false by decide), hm, Option.map_some]
    rfl

theorem inverts (fuel : Nat) : Inverts fuel := by
  induction fuel with
  | zero =>
    refine ⟨fun _ h hf _ => ?_, fun _ _ hf => absurd hf (by omega),
      fun _ _ hf => absurd hf (by omega)⟩
    obtain ⟨c, ds, rfl, -, -⟩ := h.exists_cons
    rw [List.length_cons] at hf
    omega
  | succ fuel ih => exact ⟨ih.value_succ, ih.items_succ, ih.members_succ⟩

theorem readLoose?_of_isDocument {v : Json} (h : v.IsDocument cs) :
    readLoose? (String.ofList cs) = some v := by
  obtain ⟨ws, ds, ws', hw, h, hw', rfl⟩ := h
  have hcloses : Closes (ws' ++ []) := closes_nil.blank_append hw'
  have hv := (inverts (2 * (ws ++ (ds ++ ws')).length + 2)).value hw h (by
    simp only [List.length_append]
    omega) hcloses
  have hend : skipSpace (ws' ++ []) = [] := skipSpace_append hw' []
  rw [List.append_nil] at hv hend
  simp only [readLoose?, String.toList_ofList, hv, hend, ↓reduceIte]

mutual

theorem isFinite_of_exact : ∀ {v : Json}, v.Exact → v.isFinite = true
  | null, _ => rfl
  | bool _, _ => rfl
  | int _, _ => rfl
  | real _, h => h.elim
  | text _, _ => rfl
  | list _, h => finiteItems_of_exact h
  | object _, h => finiteMembers_of_exact h

theorem finiteItems_of_exact : ∀ {vs : List Json}, ExactItems vs → finiteItems vs = true
  | [], _ => rfl
  | _ :: _, h => Bool.and_eq_true_iff.2 ⟨isFinite_of_exact h.1, finiteItems_of_exact h.2⟩

theorem finiteMembers_of_exact :
    ∀ {ms : List (String × Json)}, ExactMembers ms → finiteMembers ms = true
  | [], _ => rfl
  | (_, _) :: _, h => Bool.and_eq_true_iff.2 ⟨isFinite_of_exact h.1, finiteMembers_of_exact h.2⟩

end

theorem read?_compact {v : Json} (h : v.Exact) (hd : v.depth < depthLimit) :
    read? v.compact = some v := by
  rw [read?, compact, readLoose?_of_isDocument (spelled_chars h).isDocument, Option.filter_some,
    if_pos]
  rw [Bool.and_eq_true, decide_eq_true_eq]
  exact ⟨hd, isFinite_of_exact h⟩

end ShardQuery.Json
