import ShardQuery.Text.Emoji
import ShardQuery.Text.Width

namespace ShardQuery.Text

/-- What a script's ligature has to its right, by the last character read. -/
inductive Ligature where
  /-- The Hebrew letter lamed. -/
  | lamed
  /-- The Buginese letter ya, -/
  | ya
  /-- and it with a vowel sign before it. -/
  | vowelYa
  | tifinagh
  /-- A Tifinagh consonant with the mark that joins it to another. -/
  | tifinaghJoined
  /-- A tone letter of Lisu that can close a pair. -/
  | tone
  /-- The Old Turkic letter i. -/
  | orkhon
  /-- A Khmer letter that can be written below another. -/
  | subscript
  /-- The vowel signs e and ai of Kirat Rai. -/
  | vowelE
  | vowelAi
deriving DecidableEq, Repr

/-- What stands to the right of a character, as far as it can take part in the same sign. -/
inductive Follower where
  | plain
  | lineFeed
  /-- An Arabic letter that a preceding lam takes in. -/
  | alef
  | ligature (l : Ligature) (joiner : Bool)
  | modifier
  /-- One flag letter, -/
  | flag
  /-- or more. -/
  | flags
  | emoji
  /-- A joiner before an emoji, -/
  | joined
  /-- and before it the mark that makes a keycap, -/
  | joinedKeycap
  /-- or some flag letters, -/
  | joinedFlags (count : Nat)
  /-- or the end of a flag's name with some of its letters and digits. -/
  | joinedTags (letters digits : Nat)
deriving DecidableEq, Repr

namespace Follower

/-- Ligatures go on across variation selectors. -/
def isKept : Follower → Bool
  | alef => true
  | ligature _ _ => true
  | _ => false

/-- Whether an emoji selector here belongs to a joined emoji. -/
def isJoined : Follower → Bool
  | joined => true
  | joinedKeycap => true
  | _ => false

end Follower

def joiner : Char := '\u200d'

/-- The marks that ligatures go on across. -/
def isIgnorableMark (c : Char) : Bool :=
  inRanges c.toNat
    [(0x34f, 0x34f), (0x17b4, 0x17b5), (0x180b, 0x180d), (0x180f, 0x180f), (0xfe00, 0xfe0f),
     (0xe0100, 0xe01ef)]

def isAlef (c : Char) : Bool :=
  inRanges c.toNat
    [(0x622, 0x623), (0x625, 0x625), (0x627, 0x627), (0x671, 0x673), (0x675, 0x675),
     (0x773, 0x774), (0x870, 0x882)]

def isLam (c : Char) : Bool :=
  inRanges c.toNat [(0x644, 0x644), (0x6b5, 0x6b8), (0x76a, 0x76a), (0x8a6, 0x8a6), (0x8c7, 0x8c7)]

/-- The Khmer letters that can be written below another. -/
def isSubscript (c : Char) : Bool :=
  inRanges c.toNat
    [(0x1780, 0x1782), (0x1784, 0x1787), (0x1789, 0x178c), (0x178e, 0x1793), (0x1795, 0x1798),
     (0x179b, 0x179d), (0x17a0, 0x17a0), (0x17a2, 0x17a2), (0x17a7, 0x17a7), (0x17ab, 0x17ac),
     (0x17af, 0x17af)]

def isTifinagh (c : Char) : Bool := inRanges c.toNat [(0x2d31, 0x2d65), (0x2d6f, 0x2d6f)]

/-- The quotation marks that a selector makes wide. -/
def isCurlyQuote (c : Char) : Bool := ['‘', '’', '“', '”'].contains c

namespace Ligature

/-- A character before a part of a ligature that it can go on. -/
def step? (l : Ligature) (joined : Bool) (c : Char) : Option (Int × Follower) :=
  match l with
  | lamed => if joined ∧ c = '\u05d0' then some (0, .plain) else none
  | ya => if joined ∧ c = '\u1a17' then some (0, .ligature vowelYa true) else none
  | vowelYa => if c = '\u1a15' then some (0, .plain) else none
  | tifinagh =>
    if c = tifinaghJoiner then some (1, .ligature tifinaghJoined true)
    else if joined ∧ isTifinagh c then some (0, .plain)
    else none
  | tifinaghJoined => if isTifinagh c then some (-1, .plain) else none
  | tone => if '\ua4f8' ≤ c ∧ c ≤ '\ua4fb' then some (0, .plain) else none
  | orkhon => if joined ∧ c = '𐰲' then some (0, .plain) else none
  | subscript => if c = '\u17d2' then some (-1, .plain) else none
  | vowelE =>
    if c.toNat = 0x16d63 ∨ c.toNat = 0x16d69 then some (0, .plain)
    else if c.toNat = 0x16d67 then some (0, .ligature vowelAi true)
    else if c.toNat = 0x16d68 then some (1, .ligature vowelE true)
    else none
  | vowelAi => if c.toNat = 0x16d63 then some (0, .plain) else none

end Ligature

/-- What a character is for one to its left. -/
def followerOf (c : Char) : Follower :=
  if isAlef c then .alef
  else if c = '\u05dc' then .ligature .lamed false
  else if isSubscript c then .ligature .subscript true
  else if c = '\u1a10' then .ligature .ya false
  else if isTifinagh c then .ligature .tifinagh false
  else if c = '\ua4fc' ∨ c = '\ua4fd' then .ligature .tone true
  else if c = '𐰃' then .ligature .orkhon false
  else if c.toNat = 0x16d67 then .ligature .vowelE true
  else if c.toNat = 0x16d68 then .ligature .vowelAi true
  else if isFlagLetter c then .flag
  else if isModifier c then .modifier
  else if isEmoji c then .emoji
  else .plain

/-- A character with its own columns. -/
def single (c : Char) : Int × Follower := (charWidth c, followerOf c)

/-- A letter or digit of the hidden name of a flag. -/
def isTagLetter (c : Char) : Bool := 0xe0061 ≤ c.toNat && c.toNat ≤ 0xe007a

def isTagDigit (c : Char) : Bool := 0xe0030 ≤ c.toNat && c.toNat ≤ 0xe0039

/-- The end of the hidden name of a flag, and the flag before it. -/
def isTagEnd (c : Char) : Bool := c.toNat = 0xe007f

def isTaggedFlag (c : Char) : Bool := c.toNat = 0x1f3f4

/-- A character before the hidden name of a joined flag. -/
def tagStep (letters digits : Nat) (c : Char) : Int × Follower :=
  if isTagLetter c ∧ digits = 0 ∧ letters < 6 then (0, .joinedTags (letters + 1) 0)
  else if isTagDigit c ∧ (digits = 0 ∧ letters ≤ 4 ∨ digits = 1 ∨ digits = 2) then
    (0, .joinedTags 0 (digits + 1))
  else if isTaggedFlag c ∧ (digits = 3 ∨ digits = 0 ∧ 3 ≤ letters) then (0, .emoji)
  else single c

/-- A character before a joiner and an emoji. -/
def joinedStep (c : Char) : Int × Follower :=
  if c = '\u20e3' then (0, .joinedKeycap)
  else if isFlagLetter c then (1, .joinedFlags 1)
  else if isModifier c then (0, .modifier)
  else if isTagEnd c then (0, .joinedTags 0 0)
  else if isEmoji c then (0, .emoji)
  else single c

namespace Follower

/-- A character before what follows it: the columns it adds, and what it is for one to its left. -/
def step (f : Follower) (c : Char) : Int × Follower :=
  match f with
  | plain | lineFeed | joinedKeycap => single c
  | alef => if isLam c then (0, plain) else if isTransparent c then (0, alef) else single c
  | ligature l joins =>
    if c = joiner then (0, ligature l true)
    else if isIgnorableMark c then (0, f)
    else (l.step? joins c).getD (single c)
  | modifier =>
    if isModifierBase c then (0, emoji) else if c = joiner then (0, joined) else single c
  | flag => if isFlagLetter c then (1, flags) else single c
  | flags => if isFlagLetter c then (1, flags) else if c = joiner then (0, joined) else single c
  | emoji => if c = joiner then (0, joined) else single c
  | joined => joinedStep c
  | joinedFlags n =>
    if isFlagLetter c then (if n % 2 = 0 then 3 else -1, joinedFlags (n + 1))
    else if c = joiner ∧ 2 ≤ n then (0, joined)
    else single c
  | joinedTags letters digits => tagStep letters digits c

end Follower

/-- A mark that chooses between the forms of the character before it. -/
inductive Selector where
  | emoji
  | text
  /-- Makes a quotation mark wide. -/
  | wide
deriving DecidableEq, Repr

/-- The selector of a mark. -/
def Selector.ofChar? (c : Char) : Option Selector :=
  if c = '\ufe0f' then some emoji
  else if c = '\ufe0e' then some text
  else if c = '\ufe01' then some wide
  else none

/-- What is to the right of a character: what follows, and a selector between the two. -/
structure Context where
  follower : Follower
  selector : Option Selector
deriving DecidableEq, Repr

namespace Context

def start : Context := ⟨.plain, none⟩

/-- What follows when a selector is passed over. -/
def passed (x : Context) : Follower :=
  if x.selector = none ∨ x.follower.isKept then x.follower else .plain

/-- What follows with a selector put before it. -/
def select (f : Follower) (s : Selector) : Context :=
  ⟨if f.isKept ∨ s = .emoji ∧ f.isJoined then f else .plain, some s⟩

def chosen? (x : Context) (c : Char) : Option (Int × Follower) :=
  match x.selector with
  | some .emoji =>
    if hasVariations c then some (if x.follower.isJoined then 0 else 2, .emoji) else none
  | some .text => if hasNarrowText c then some (1, .plain) else none
  | some .wide => if isCurlyQuote c then some (2, .plain) else none
  | none => none

/-- A character to the left of its context: the columns it adds, and the context of the next. -/
def step (c : Char) (x : Context) : Int × Context :=
  match x.chosen? c with
  | some (n, f) => (n, ⟨f, none⟩)
  | none =>
    if c ≤ lastPlain then
      if c = '\n' then (1, ⟨.lineFeed, none⟩)
      else (if c = '\r' ∧ x.passed = .lineFeed then 0 else 1, start)
    else
      match Selector.ofChar? c with
      | some s => (0, select x.passed s)
      | none =>
        let (n, f) := x.passed.step c
        (n, ⟨f, none⟩)

end Context

/-- The columns of a text, and the context that it makes for one before it. -/
def measure (cs : List Char) : Int × Context :=
  cs.foldr (fun c (n, x) => let (m, y) := Context.step c x; (n + m, y)) (0, .start)

/-- The columns of a line. It is read from its end, since a sign may go on with what follows it. -/
def width (s : String) : Nat := (measure s.toList).1.toNat

end ShardQuery.Text
