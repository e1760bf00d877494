import ShardQuery.Proofs.Query.Lexing

namespace ShardQuery

def Comparison.spellings : Comparison → List String
  | ne => ["!=", "<>"]
  | op => [op.symbol]

/-- Integers of eight bytes, texts and truth values. -/
def Literal.Writable : Literal → Prop
  | integer i => -2 ^ (63 : Nat) ≤ i ∧ i < 2 ^ (63 : Nat)
  | real _ => False
  | text _ | truth _ => True

def Projection.names : Projection → List String
  | all => []
  | columns ns => ns

/-- No name has a double quote in it. -/
structure SelectQuery.Writable (q : SelectQuery) : Prop where
  projection : q.projection ≠ .columns []
  columns : ∀ n ∈ q.projection.names, '"' ∉ n.toList
  table : '"' ∉ q.table.toList
  selection : ∀ p ∈ q.selection, '"' ∉ p.column.toList ∧ p.value.Writable
  limit : ∀ n ∈ q.limit, n < UInt64.size

namespace Rendering

def Keyword (word : String) (cs : List Char) : Prop := cs.map Char.toUpper = word.toList

instance (word : String) (cs : List Char) : Decidable (Keyword word cs) :=
  inferInstanceAs (Decidable (_ = _))

def quotedName (n : String) : List Char := '"' :: (n.toList ++ ['"'])

inductive Names : List (List Char) → List String → Prop where
  | one (n : String) : Names [quotedName n] [n]
  | more (n : String) (h : Names ps ns) : Names (quotedName n :: [','] :: ps) (n :: ns)

inductive Projects : List (List Char) → Projection → Prop where
  | all : Projects [['*']] .all
  | columns (h : Names ps ns) : Projects ps (.columns ns)

inductive Constant : List Char → Literal → Prop where
  | shown (v : Literal) : Constant v.shown.toList v
  | yes (h : Keyword "TRUE" cs) : Constant cs (.truth true)
  | no (h : Keyword "FALSE" cs) : Constant cs (.truth false)

inductive Compares : List (List Char) → Predicate → Prop where
  | intro (column : String) (ho : symbol ∈ op.spellings) (h : Constant cs v) :
    Compares [quotedName column, symbol.toList, cs] ⟨column, op, v⟩

inductive Conjunction : List (List Char) → List Predicate → Prop where
  | one (h : Compares ps p) : Conjunction ps [p]
  | more (h : Compares ps p) (hk : Keyword "AND" cs) (hs : Conjunction qs rest) :
    Conjunction (ps ++ cs :: qs) (p :: rest)

inductive Selects : List (List Char) → List Predicate → Prop where
  | all : Selects [] []
  | only (hk : Keyword "WHERE" cs) (h : Conjunction ps predicates) :
    Selects (cs :: ps) predicates

inductive Limits : List (List Char) → Option Nat → Prop where
  | none : Limits [] none
  | some (hk : Keyword "LIMIT" cs) (n : Nat) : Limits [cs, (Decimal.natText n).toList] (some n)

/-- The pieces of a query, in order. -/
inductive Writes : List (List Char) → SelectQuery → Prop where
  | intro (hselect : Keyword "SELECT" select) (hp : Projects ps projection)
      (hfrom : Keyword "FROM" fromWord) (table : String) (hs : Selects ss selection)
      (hl : Limits ls limit) :
    Writes (select :: (ps ++ fromWord :: quotedName table :: (ss ++ ls)))
      ⟨projection, table, selection, limit⟩

def Gap (cs : List Char) : Prop := ∀ c ∈ cs, Text.isBlank c = true

instance (cs : List Char) : Decidable (Gap cs) :=
  List.decidableBAll _ cs

/-- Pieces with white space between any two of them. -/
inductive Spaced : List (List Char) → List Char → Prop where
  | one (p : List Char) : Spaced [p] p
  | more (p : List Char) (hne : gap ≠ []) (hg : Gap gap) (h : Spaced ps cs) :
    Spaced (p :: ps) (p ++ (gap ++ cs))

/-- What may stand after the last piece. -/
inductive Ending : List Char → Prop where
  | plain (h : Gap cs) : Ending cs
  | semicolon (h : Gap cs) (h' : Gap ds) : Ending (cs ++ ';' :: ds)

end Rendering

/-- The texts of a query. -/
inductive Renders (q : SelectQuery) : String → Prop where
  | intro (hw : Rendering.Writes ps q) (hs : Rendering.Spaced ps cs) (hlead : Rendering.Gap lead)
      (he : Rendering.Ending ending) : Renders q (String.ofList (lead ++ (cs ++ ending)))

namespace Rendering

open Lexer

inductive Pieces : List (List Char) → List Token → Prop where
  | nil : Pieces [] []
  | cons (h : Splits p ts) (hs : Pieces ps us) : Pieces (p :: ps) (ts ++ us)

theorem Pieces.one (h : Splits p ts) : Pieces [p] ts := by
  have hp := Pieces.cons h .nil
  rw [List.append_nil] at hp
  exact hp

theorem Pieces.append (h : Pieces ps ts) (h' : Pieces qs us) : Pieces (ps ++ qs) (ts ++ us) := by
  induction h with
  | nil => exact h'
  | cons hp hs ih =>
    rw [List.cons_append, List.append_assoc]
    exact .cons hp ih

theorem clear_gap (hg : Gap gap) (hc : Clear cs) : Clear (gap ++ cs) := by
  cases gap with
  | nil => exact hc
  | cons c gap => exact .inl (hg c List.mem_cons_self)

theorem splits_spaced (hs : Spaced ps cs) (hp : Pieces ps ts) : Splits cs ts := by
  induction hs generalizing ts with
  | one p =>
    cases hp with
    | cons h hs =>
      cases hs
      rw [List.append_nil]
      exact h
  | @more gap ps cs p hne hg hs ih =>
    cases hp with
    | @cons p ts ps us h hps =>
      have hc : Clear (gap ++ cs) := by
        cases gap with
        | nil => exact absurd rfl hne
        | cons c gap => exact .inl (hg c List.mem_cons_self)
      rw [Splits, h.tokens_append hc, tokens_blanks hg, ih hps, List.append_assoc]
      rfl

theorem ends_of_ending (he : Ending cs) :
    Clear cs ∧ ∃ es, tokens cs = .ok es ∧ Grammar.Ends es := by
  have hgap {cs : List Char} (h : Gap cs) : tokens cs = .ok [.eof] := by
    have ht := tokens_blanks h []
    rw [List.append_nil, tokens] at ht
    exact ht
  cases he with
  | plain h =>
    have hc : Clear (cs ++ []) := clear_gap h trivial
    rw [List.append_nil] at hc
    exact ⟨hc, _, hgap h, .plain⟩
  | @semicolon cs ds h h' =>
    refine ⟨clear_gap h (.inr rfl), _, ?_, .semicolon⟩
    rw [tokens_blanks h, tokens_of_next (t := .semicolon) (r := ds) (by decide) rfl, hgap h']
    rfl

theorem pieces_names (h : Names ps ns) (hn : ∀ n ∈ ns, '"' ∉ n.toList) :
    ∃ ts, Pieces ps ts ∧ Grammar.Names ts ns := by
  induction h with
  | one n => exact ⟨_, .one (splits_name (hn n List.mem_cons_self)), .one n⟩
  | more n h ih =>
    obtain ⟨hhead, htail⟩ := List.forall_mem_cons.1 hn
    obtain ⟨ts, hp, hg⟩ := ih htail
    have hcomma : Splits [','] [.comma] := by
      apply splits_of_next (by decide)
      rfl
    exact ⟨_, .cons (splits_name hhead) (.cons hcomma hp), .more n hg⟩

theorem pieces_projection (h : Projects ps p) (hn : ∀ n ∈ p.names, '"' ∉ n.toList) :
    ∃ ts, Pieces ps ts ∧ Grammar.Projects ts p := by
  cases h with
  | all =>
    have hstar : Splits ['*'] [.star] := by
      apply splits_of_next (by decide)
      rfl
    exact ⟨_, .one hstar, .all⟩
  | columns h =>
    obtain ⟨ts, hp, hg⟩ := pieces_names h hn
    exact ⟨ts, hp, .columns hg⟩

theorem splits_symbol {op : Comparison} (h : symbol ∈ op.spellings) :
    Splits symbol.toList [op.token] := by
  cases op with
  | ne =>
    obtain rfl | rfl : symbol = "!=" ∨ symbol = "<>" := by
      simpa [Comparison.spellings] using h
    all_goals
      apply splits_of_next (by decide)
      rfl
  | _ =>
    obtain rfl := List.mem_singleton.1 h
    apply splits_of_next (by decide)
    rfl

theorem splits_natural (n : Nat) :
    Splits (Decimal.ofNat n) [.number (Decimal.natText n)] :=
  splits_number (Decimal.ofNat_ne_nil n) fun _ hc =>
    isNumberChar_of_isDigit (Decimal.isDigit_of_mem_ofNat hc)

theorem numeral_ofNat (n : Nat) : Grammar.Numeral (Decimal.natText n).toList n := by
  rw [Decimal.natText, String.toList_ofList]
  exact numeral_iff.2 (Decimal.toNat?_ofNat n)

theorem splits_integer {i : Int} (h : (Literal.integer i).Writable) :
    ∃ ts, Splits (Literal.integer i).shown.toList ts ∧ Grammar.Constant ts (.integer i) := by
  obtain ⟨hleast, hgreatest⟩ := h
  have hshown : (Literal.integer i).shown.toList = Decimal.ofInt i := String.toList_ofList
  rw [hshown, Decimal.ofInt]
  split
  · next hneg =>
    have hi : Decimal.withSign true i.natAbs = i := by
      show -(i.natAbs : Int) = i
      omega
    refine ⟨[.minus, .number (Decimal.natText i.natAbs)], ?_, ?_⟩
    · have hs := splits_natural i.natAbs
      rw [Splits] at hs
      rw [Splits, tokens_of_next (t := .minus) (by decide) rfl, hs]
      rfl
    · have hn : Grammar.Number true (Decimal.natText i.natAbs).toList
          (.integer (Decimal.withSign true i.natAbs)) :=
        .integer (numeral_ofNat _) (hi.symm ▸ hleast) (hi.symm ▸ hgreatest)
      rw [hi] at hn
      exact .negative _ hn
  · next hneg =>
    have hi : Decimal.withSign false i.natAbs = i := by
      show (i.natAbs : Int) = i
      omega
    refine ⟨_, splits_natural i.natAbs, ?_⟩
    have hn : Grammar.Number false (Decimal.natText i.natAbs).toList
        (.integer (Decimal.withSign false i.natAbs)) :=
      .integer (numeral_ofNat _) (hi.symm ▸ hleast) (hi.symm ▸ hgreatest)
    rw [hi] at hn
    exact .number _ hn

theorem splits_constant (h : Constant cs v) (hv : v.Writable) :
    ∃ ts, Splits cs ts ∧ Grammar.Constant ts v := by
  have hyes {cs : List Char} (h : Keyword "TRUE" cs) :
      ∃ ts, Splits cs ts ∧ Grammar.Constant ts (.truth true) :=
    ⟨_, splits_keyword (by decide) h, .yes⟩
  have hno {cs : List Char} (h : Keyword "FALSE" cs) :
      ∃ ts, Splits cs ts ∧ Grammar.Constant ts (.truth false) :=
    ⟨_, splits_keyword (by decide) h, .no⟩
  cases h with
  | shown v =>
    cases v with
    | integer i => exact splits_integer hv
    | real bits => exact hv.elim
    | text s => exact ⟨_, splits_text s, .text s⟩
    | truth b =>
      cases b with
      | true => exact hyes (by decide)
      | false => exact hno (by decide)
  | yes h => exact hyes h
  | no h => exact hno h

theorem pieces_predicate (h : Compares ps p) (hc : '"' ∉ p.column.toList) (hv : p.value.Writable) :
    ∃ ts, Pieces ps ts ∧ Grammar.Compares ts p := by
  cases h with
  | intro column ho h =>
    obtain ⟨ts, hs, hg⟩ := splits_constant h hv
    exact ⟨_, .cons (splits_name hc) (.cons (splits_symbol ho) (.one hs)), .intro column _ hg⟩

theorem pieces_conjunction (h : Conjunction ps predicates)
    (hp : ∀ p ∈ predicates, '"' ∉ p.column.toList ∧ p.value.Writable) :
    ∃ ts, Pieces ps ts ∧ Grammar.Conjunction ts predicates := by
  induction h with
  | one h =>
    obtain ⟨hc, hv⟩ := hp _ List.mem_cons_self
    obtain ⟨ts, hs, hg⟩ := pieces_predicate h hc hv
    exact ⟨ts, hs, .one hg⟩
  | more h hk hs ih =>
    obtain ⟨⟨hc, hv⟩, hrest⟩ := List.forall_mem_cons.1 hp
    obtain ⟨ts, hts, hg⟩ := pieces_predicate h hc hv
    obtain ⟨us, hus, hgs⟩ := ih hrest
    have hand : Splits _ [.and] := splits_keyword (by decide) hk
    exact ⟨_, hts.append (.cons hand hus), .more hg hgs⟩

theorem pieces_selection (h : Selects ps predicates)
    (hp : ∀ p ∈ predicates, '"' ∉ p.column.toList ∧ p.value.Writable) :
    ∃ ts, Pieces ps ts ∧ Grammar.Selects ts predicates := by
  cases h with
  | all => exact ⟨[], .nil, .all⟩
  | only hk h =>
    obtain ⟨ts, hs, hg⟩ := pieces_conjunction h hp
    exact ⟨_, .cons (splits_keyword (by decide) hk) hs, .only hg⟩

theorem pieces_limit (h : Limits ps limit) (hn : ∀ n ∈ limit, n < UInt64.size) :
    ∃ ts, Pieces ps ts ∧ Grammar.Limits ts limit := by
  cases h with
  | none => exact ⟨[], .nil, .none⟩
  | some hk n =>
    have hdigits : Splits (Decimal.natText n).toList [.number (Decimal.natText n)] := by
      have hs := splits_natural n
      rw [← String.toList_ofList (l := Decimal.ofNat n)] at hs
      exact hs
    exact ⟨_, .cons (splits_keyword (by decide) hk) (.one hdigits),
      .some _ (numeral_ofNat n) (hn n rfl)⟩

/-- The pieces of a query split into tokens that denote it. -/
theorem pieces_query (h : Writes ps q) (hq : q.Writable) (he : Grammar.Ends es) :
    ∃ ts, Pieces ps ts ∧ Grammar.Denotes (ts ++ es) q := by
  cases h with
  | intro hselect hp hfrom table hs hl =>
    obtain ⟨ps, hps, hgp⟩ := pieces_projection hp hq.columns
    obtain ⟨ss, hss, hgs⟩ := pieces_selection hs hq.selection
    obtain ⟨ls, hls, hgl⟩ := pieces_limit hl hq.limit
    have hselect : Splits _ [.select] := splits_keyword (by decide) hselect
    have hfrom : Splits _ [.fromWord] := splits_keyword (by decide) hfrom
    have htable := splits_name hq.table
    refine ⟨_, .cons hselect (hps.append (.cons hfrom (.cons htable (hss.append hls)))), ?_⟩
    have hd := Grammar.Denotes.intro hgp table hgs hgl he
    simpa using hd

end Rendering

theorem parseQuery_of_renders (h : Renders q text) (hq : q.Writable) :
    parseQuery text = .ok q := by
  cases h with
  | @intro ps cs lead ending hw hs hlead he =>
    obtain ⟨hclear, es, hes, hends⟩ := Rendering.ends_of_ending he
    obtain ⟨ts, hps, hdenotes⟩ := Rendering.pieces_query hw hq hends
    have hsplits := Rendering.splits_spaced hs hps
    have htokens : tokenize (String.ofList (lead ++ (cs ++ ending))) = .ok (ts ++ es) := by
      rw [tokenize, String.toList_ofList, Lexer.tokens_blanks hlead, hsplits.tokens_append hclear,
        hes]
      rfl
    rw [parseQuery, SelectQuery.read, htokens]
    simp only [Parser.readQuery_of_denotes hdenotes]
    rfl

namespace Rendering

theorem exists_names (hns : ns ≠ []) : ∃ ps, Names ps ns := by
  induction ns with
  | nil => exact absurd rfl hns
  | cons n ns ih =>
    cases ns with
    | nil => exact ⟨_, .one n⟩
    | cons m ns =>
      obtain ⟨ps, h⟩ := ih (List.cons_ne_nil m ns)
      exact ⟨_, .more n h⟩

theorem exists_projection (hp : p ≠ .columns []) : ∃ ps, Projects ps p := by
  cases p with
  | all => exact ⟨_, .all⟩
  | columns ns =>
    have hns : ns ≠ [] := by
      rintro rfl
      exact hp rfl
    obtain ⟨ps, h⟩ := exists_names hns
    exact ⟨ps, .columns h⟩

theorem exists_predicate (p : Predicate) : ∃ ps, Compares ps p := by
  have hop : p.op.symbol ∈ p.op.spellings := by
    cases p.op <;> decide
  exact ⟨_, .intro p.column hop (.shown p.value)⟩

theorem exists_selection (predicates : List Predicate) : ∃ ps, Selects ps predicates := by
  have hall : predicates ≠ [] → ∃ ps, Conjunction ps predicates := by
    intro hne
    induction predicates with
    | nil => exact absurd rfl hne
    | cons p predicates ih =>
      obtain ⟨ps, h⟩ := exists_predicate p
      cases predicates with
      | nil => exact ⟨ps, .one h⟩
      | cons q predicates =>
        obtain ⟨qs, hs⟩ := ih (List.cons_ne_nil q predicates)
        have hand : Keyword "AND" "AND".toList := by decide
        exact ⟨_, .more h hand hs⟩
  cases predicates with
  | nil => exact ⟨[], .all⟩
  | cons p predicates =>
    obtain ⟨ps, h⟩ := hall (List.cons_ne_nil p predicates)
    have hwhere : Keyword "WHERE" "WHERE".toList := by decide
    exact ⟨_, .only hwhere h⟩

theorem exists_limit (limit : Option Nat) : ∃ ps, Limits ps limit := by
  cases limit with
  | none => exact ⟨[], .none⟩
  | some n =>
    have hlimit : Keyword "LIMIT" "LIMIT".toList := by decide
    exact ⟨_, .some hlimit n⟩

/-- Pieces with a space between any two of them. -/
def joined : List (List Char) → List Char
  | [] => []
  | [p] => p
  | p :: ps => p ++ ([' '] ++ joined ps)

theorem spaced_joined (p : List Char) (ps : List (List Char)) :
    Spaced (p :: ps) (joined (p :: ps)) := by
  induction ps generalizing p with
  | nil => exact .one p
  | cons q ps ih =>
    have hgap : Gap [' '] := by decide
    exact .more p (List.cons_ne_nil _ _) hgap (ih q)

end Rendering

theorem exists_renders (hq : q.Writable) : ∃ text, Renders q text := by
  obtain ⟨ps, hp⟩ := Rendering.exists_projection hq.projection
  obtain ⟨ss, hs⟩ := Rendering.exists_selection q.selection
  obtain ⟨ls, hl⟩ := Rendering.exists_limit q.limit
  have hselect : Rendering.Keyword "SELECT" "SELECT".toList := by decide
  have hfrom : Rendering.Keyword "FROM" "FROM".toList := by decide
  have hgap : Rendering.Gap [] := by decide
  exact ⟨_, .intro (.intro hselect hp hfrom q.table hs hl) (Rendering.spaced_joined ..) hgap
    (.plain hgap)⟩

/-- A query can be written, and however it is written it is read back. -/
theorem reads_renderings (hq : q.Writable) :
    (∃ text, Renders q text) ∧ ∀ text, Renders q text → parseQuery text = .ok q := by
  constructor
  · exact exists_renders hq
  · intro text h
    exact parseQuery_of_renders h hq

/-- Odd names, the least integer, a text with a quote and a NUL in it, and the greatest limit. -/
def SelectQuery.odd : SelectQuery where
  projection := .columns ["", "from"]
  table := "a b"
  selection := [⟨"select", .ne, .text "it's\x00"⟩, ⟨"", .ge, .integer (-9223372036854775808)⟩]
  limit := some 18446744073709551615

theorem SelectQuery.writable_odd : odd.Writable where
  projection := by decide
  columns := by decide
  table := by decide
  selection p hp := by
    obtain rfl | rfl : p = _ ∨ p = _ := by simpa [odd] using hp
    · exact ⟨by decide, trivial⟩
    · exact ⟨by decide, by decide, by decide⟩
  limit n hn := by
    cases hn
    decide

def SelectQuery.oddText : String :=
  "\nsElEcT \"\" , \"from\" FROM \"a b\" where \"select\" <> 'it''s\x00' aND \"\" >= " ++
    "-9223372036854775808 LIMIT 18446744073709551615;"

theorem SelectQuery.renders_odd : Renders odd oddText := by
  have hselect : Rendering.Keyword "SELECT" "sElEcT".toList := by decide
  have hfrom : Rendering.Keyword "FROM" "FROM".toList := by decide
  have hwhere : Rendering.Keyword "WHERE" "where".toList := by decide
  have hand : Rendering.Keyword "AND" "aND".toList := by decide
  have hlimit : Rendering.Keyword "LIMIT" "LIMIT".toList := by decide
  have hne : "<>" ∈ Comparison.ne.spellings := by decide
  have hge : ">=" ∈ Comparison.ge.spellings := by decide
  have hlead : Rendering.Gap ['\n'] := by decide
  have hend : Rendering.Gap [] := by decide
  have hs : Rendering.Selects _ odd.selection :=
    .only hwhere (.more (.intro "select" hne (.shown (.text "it's\x00"))) hand
      (.one (.intro "" hge (.shown (.integer (-9223372036854775808))))))
  have hw : Rendering.Writes _ odd :=
    .intro hselect (.columns (.more "" (.one "from"))) hfrom "a b" hs (.some hlimit _)
  have hr := Renders.intro hw (Rendering.spaced_joined ..) hlead (.semicolon hend hend)
  refine Eq.mp (congrArg (Renders odd) ?_) hr
  decide +kernel

theorem reads_renderings_odd :
    SelectQuery.odd.Writable ∧ parseQuery SelectQuery.oddText = .ok SelectQuery.odd := by
  have h := reads_renderings SelectQuery.writable_odd
  exact ⟨SelectQuery.writable_odd, h.2 _ SelectQuery.renders_odd⟩

end ShardQuery
