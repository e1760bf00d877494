import ShardQuery.Text.Letter
import ShardQuery.Text.Blank
import ShardQuery.Text.Quoted

namespace ShardQuery

inductive Token where
  | select
  | fromWord
  | whereWord
  | and
  | limit
  | trueWord
  | falseWord
  | star
  | minus
  | equal
  | notEqual
  | less
  | lessEqual
  | greater
  | greaterEqual
  | comma
  | semicolon
  /-- Digits and points. -/
  | number (digits : String)
  | text (value : String)
  | name (text : String)
  /-- The end of the query. -/
  | eof
deriving DecidableEq, Repr

namespace Token

def kind : Token → String
  | select => "Select"
  | fromWord => "From"
  | whereWord => "Where"
  | and => "And"
  | limit => "Limit"
  | trueWord => "True"
  | falseWord => "False"
  | star => "Star"
  | minus => "Minus"
  | equal => "Equal"
  | notEqual => "NotEqual"
  | less => "Less"
  | lessEqual => "LessEqual"
  | greater => "Greater"
  | greaterEqual => "GreaterEqual"
  | comma => "Comma"
  | semicolon => "Semicolon"
  | number _ => "Number"
  | text _ => "String"
  | name _ => "Identifier"
  | eof => "Eof"

/-- The characters that a token carries, if its kind carries any. -/
def content? : Token → Option String
  | number s | text s | name s => some s
  | _ => none

def shown (t : Token) : String :=
  match t.content? with
  | some s => t.kind ++ "(" ++ Text.quoted s ++ ")"
  | none => t.kind

end Token

inductive LexicalError where
  | openText
  | openName
  | strayBang
  | strayCharacter (c : Char)
deriving DecidableEq, Repr

def LexicalError.message : LexicalError → String
  | openText => "Unterminated string"
  | openName => "Unterminated quoted identifier"
  | strayBang => "Unexpected character '!'"
  | strayCharacter c => "Unexpected character: '" ++ String.singleton c ++ "'"

namespace Lexer

/-- A character of a word: a letter or numeral of any script, or an underscore. -/
def isWordChar (c : Char) : Bool := Text.isLetter c || Text.isNumeral c || c == '_'

def isWordStart (c : Char) : Bool := Text.isLetter c || c == '_'

def isNumberChar (c : Char) : Bool := c.isDigit || c == '.'

def keywords : List (String × Token) :=
  [("SELECT", .select), ("FROM", .fromWord), ("WHERE", .whereWord), ("AND", .and),
   ("LIMIT", .limit), ("TRUE", .trueWord), ("FALSE", .falseWord)]

/-- The token of a word: its keyword, in any case, or a name. -/
def wordToken (cs : List Char) : Token :=
  match keywords.lookup (String.ofList (cs.map Text.upperAscii)) with
  | some t => t
  | none => .name (String.ofList cs)

/-- Reads a text up to its closing quote; a doubled quote stands for one. -/
def readText? : List Char → Option (List Char × List Char)
  | [] => none
  | '\'' :: '\'' :: rest => (readText? rest).map fun (v, r) => ('\'' :: v, r)
  | '\'' :: rest => some ([], rest)
  | c :: rest => (readText? rest).map fun (v, r) => (c :: v, r)

def readName? : List Char → Option (List Char × List Char)
  | [] => none
  | '"' :: rest => some ([], rest)
  | c :: rest => (readName? rest).map fun (v, r) => (c :: v, r)

/-- Reads the token that starts with a character, and gives what follows it. -/
def next (c : Char) (rest : List Char) : Except LexicalError (Token × List Char) :=
  match c, rest with
  | '*', r => .ok (.star, r)
  | '-', r => .ok (.minus, r)
  | '=', r => .ok (.equal, r)
  | '<', '=' :: r => .ok (.lessEqual, r)
  | '<', '>' :: r => .ok (.notEqual, r)
  | '<', r => .ok (.less, r)
  | '>', '=' :: r => .ok (.greaterEqual, r)
  | '>', r => .ok (.greater, r)
  | '!', '=' :: r => .ok (.notEqual, r)
  | '!', _ => .error .strayBang
  | ',', r => .ok (.comma, r)
  | ';', r => .ok (.semicolon, r)
  | '\'', r =>
    match readText? r with
    | some (v, r) => .ok (.text (String.ofList v), r)
    | none => .error .openText
  | '"', r =>
    match readName? r with
    | some (v, r) => .ok (.name (String.ofList v), r)
    | none => .error .openName
  | c, r =>
    if isNumberChar c then
      .ok (.number (String.ofList (c :: r.takeWhile isNumberChar)), r.dropWhile isNumberChar)
    else if isWordStart c then .ok (wordToken (c :: r.takeWhile isWordChar), r.dropWhile isWordChar)
    else .error (.strayCharacter c)

theorem length_dropWhile_le (p : Char → Bool) (cs : List Char) :
    (cs.dropWhile p).length ≤ cs.length :=
  (List.dropWhile_sublist p).length_le

theorem length_readText? {cs v r : List Char} (h : readText? cs = some (v, r)) :
    r.length ≤ cs.length := by
  fun_induction readText? cs generalizing v r with
  | case1 => simp at h
  | case2 rest ih =>
    simp only [Option.map_eq_some_iff, Prod.exists, Prod.mk.injEq] at h
    obtain ⟨v', r', h', -, rfl⟩ := h
    have := ih h'
    simp only [List.length_cons]
    omega
  | case3 =>
    simp only [Option.some.injEq, Prod.mk.injEq] at h
    simp [← h.2]
  | case4 c rest _ _ ih =>
    simp only [Option.map_eq_some_iff, Prod.exists, Prod.mk.injEq] at h
    obtain ⟨v', r', h', -, rfl⟩ := h
    have := ih h'
    simp only [List.length_cons]
    omega

theorem length_readName? {cs v r : List Char} (h : readName? cs = some (v, r)) :
    r.length ≤ cs.length := by
  fun_induction readName? cs generalizing v r with
  | case1 => simp at h
  | case2 =>
    simp only [Option.some.injEq, Prod.mk.injEq] at h
    simp [← h.2]
  | case3 c rest _ ih =>
    simp only [Option.map_eq_some_iff, Prod.exists, Prod.mk.injEq] at h
    obtain ⟨v', r', h', -, rfl⟩ := h
    have := ih h'
    simp only [List.length_cons]
    omega

/-- What follows a token is no longer than what followed its first character. -/
theorem length_next {c : Char} {rest r : List Char} {t : Token} (h : next c rest = .ok (t, r)) :
    r.length ≤ rest.length := by
  unfold next at h
  split at h
  case h_13 =>
    split at h
    · rename_i hr
      simp only [Except.ok.injEq, Prod.mk.injEq] at h
      exact h.2 ▸ length_readText? hr
    · simp at h
  case h_14 =>
    split at h
    · rename_i hr
      simp only [Except.ok.injEq, Prod.mk.injEq] at h
      exact h.2 ▸ length_readName? hr
    · simp at h
  case h_15 =>
    split at h
    · simp only [Except.ok.injEq, Prod.mk.injEq] at h
      exact h.2 ▸ length_dropWhile_le _ _
    · split at h
      · simp only [Except.ok.injEq, Prod.mk.injEq] at h
        exact h.2 ▸ length_dropWhile_le _ _
      · simp at h
  all_goals
    simp only [Except.ok.injEq, Prod.mk.injEq, reduceCtorEq] at h
  all_goals
    obtain ⟨-, rfl⟩ := h
    simp

def tokens : List Char → Except LexicalError (List Token)
  | [] => .ok [.eof]
  | c :: rest =>
    if Text.isBlank c then tokens rest
    else
      match h : next c rest with
      | .error e => .error e
      | .ok (t, r) =>
        have : r.length < rest.length + 1 := Nat.lt_succ_of_le (length_next h)
        (tokens r).map (t :: ·)
termination_by cs => cs.length

end Lexer

def tokenize (text : String) : Except LexicalError (List Token) := Lexer.tokens text.toList

end ShardQuery
