import ShardQuery.Text.Emoji
import ShardQuery.Text.Mark

namespace ShardQuery.Text

/-- Controls, line ends apart, which are clusters of their own. -/
def controlRanges : List (Nat × Nat) :=
  [(0x0, 0x9), (0xb, 0xc), (0xe, 0x1f), (0x7f, 0x9f), (0xad, 0xad), (0x61c, 0x61c),
   (0x180e, 0x180e), (0x200b, 0x200b), (0x200e, 0x200f), (0x2028, 0x202e), (0x2060, 0x206f),
   (0xfeff, 0xfeff), (0xfff0, 0xfffb), (0x13430, 0x1343f), (0x1bca0, 0x1bca3), (0x1d173, 0x1d17a),
   (0xe0000, 0xe001f), (0xe0080, 0xe00ff), (0xe01f0, 0xe0fff)]

/-- Characters that the one after them belongs to. -/
def prependedRanges : List (Nat × Nat) :=
  [(0x600, 0x605), (0x6dd, 0x6dd), (0x70f, 0x70f), (0x890, 0x891), (0x8e2, 0x8e2), (0xd4e, 0xd4e),
   (0x110bd, 0x110bd), (0x110cd, 0x110cd), (0x111c2, 0x111c3), (0x113d1, 0x113d1),
   (0x1193f, 0x1193f), (0x11941, 0x11941), (0x11a84, 0x11a89), (0x11d46, 0x11d46),
   (0x11f02, 0x11f02)]

/-- Vowel signs and other marks that take room after their base. -/
def spacingRanges : List (Nat × Nat) :=
  [(0x903, 0x903), (0x93b, 0x93b), (0x93e, 0x940), (0x949, 0x94c), (0x94e, 0x94f), (0x982, 0x983),
   (0x9bf, 0x9c0), (0x9c7, 0x9c8), (0x9cb, 0x9cc), (0xa03, 0xa03), (0xa3e, 0xa40), (0xa83, 0xa83),
   (0xabe, 0xac0), (0xac9, 0xac9), (0xacb, 0xacc), (0xb02, 0xb03), (0xb40, 0xb40), (0xb47, 0xb48),
   (0xb4b, 0xb4c), (0xbbf, 0xbbf), (0xbc1, 0xbc2), (0xbc6, 0xbc8), (0xbca, 0xbcc), (0xc01, 0xc03),
   (0xc41, 0xc44), (0xc82, 0xc83), (0xcbe, 0xcbe), (0xcc1, 0xcc1), (0xcc3, 0xcc4), (0xcf3, 0xcf3),
   (0xd02, 0xd03), (0xd3f, 0xd40), (0xd46, 0xd48), (0xd4a, 0xd4c), (0xd82, 0xd83), (0xdd0, 0xdd1),
   (0xdd8, 0xdde), (0xdf2, 0xdf3), (0xe33, 0xe33), (0xeb3, 0xeb3), (0xf3e, 0xf3f), (0xf7f, 0xf7f),
   (0x1031, 0x1031), (0x103b, 0x103c), (0x1056, 0x1057), (0x1084, 0x1084), (0x17b6, 0x17b6),
   (0x17be, 0x17c5), (0x17c7, 0x17c8), (0x1923, 0x1926), (0x1929, 0x192b), (0x1930, 0x1931),
   (0x1933, 0x1938), (0x1a19, 0x1a1a), (0x1a55, 0x1a55), (0x1a57, 0x1a57), (0x1a6d, 0x1a72),
   (0x1b04, 0x1b04), (0x1b3e, 0x1b41), (0x1b82, 0x1b82), (0x1ba1, 0x1ba1), (0x1ba6, 0x1ba7),
   (0x1be7, 0x1be7), (0x1bea, 0x1bec), (0x1bee, 0x1bee), (0x1c24, 0x1c2b), (0x1c34, 0x1c35),
   (0x1ce1, 0x1ce1), (0x1cf7, 0x1cf7), (0xa823, 0xa824), (0xa827, 0xa827), (0xa880, 0xa881),
   (0xa8b4, 0xa8c3), (0xa952, 0xa952), (0xa983, 0xa983), (0xa9b4, 0xa9b5), (0xa9ba, 0xa9bb),
   (0xa9be, 0xa9bf), (0xaa2f, 0xaa30), (0xaa33, 0xaa34), (0xaa4d, 0xaa4d), (0xaaeb, 0xaaeb),
   (0xaaee, 0xaaef), (0xaaf5, 0xaaf5), (0xabe3, 0xabe4), (0xabe6, 0xabe7), (0xabe9, 0xabea),
   (0xabec, 0xabec), (0x11000, 0x11000), (0x11002, 0x11002), (0x11082, 0x11082),
   (0x110b0, 0x110b2), (0x110b7, 0x110b8), (0x1112c, 0x1112c), (0x11145, 0x11146),
   (0x11182, 0x11182), (0x111b3, 0x111b5), (0x111bf, 0x111bf), (0x111ce, 0x111ce),
   (0x1122c, 0x1122e), (0x11232, 0x11233), (0x112e0, 0x112e2), (0x11302, 0x11303),
   (0x1133f, 0x1133f), (0x11341, 0x11344), (0x11347, 0x11348), (0x1134b, 0x1134c),
   (0x11362, 0x11363), (0x113b9, 0x113ba), (0x113ca, 0x113ca), (0x113cc, 0x113cd),
   (0x11435, 0x11437), (0x11440, 0x11441), (0x11445, 0x11445), (0x114b1, 0x114b2),
   (0x114b9, 0x114b9), (0x114bb, 0x114bc), (0x114be, 0x114be), (0x114c1, 0x114c1),
   (0x115b0, 0x115b1), (0x115b8, 0x115bb), (0x115be, 0x115be), (0x11630, 0x11632),
   (0x1163b, 0x1163c), (0x1163e, 0x1163e), (0x116ac, 0x116ac), (0x116ae, 0x116af),
   (0x1171e, 0x1171e), (0x11726, 0x11726), (0x1182c, 0x1182e), (0x11838, 0x11838),
   (0x11931, 0x11935), (0x11937, 0x11938), (0x11940, 0x11940), (0x11942, 0x11942),
   (0x119d1, 0x119d3), (0x119dc, 0x119df), (0x119e4, 0x119e4), (0x11a39, 0x11a39),
   (0x11a57, 0x11a58), (0x11a97, 0x11a97), (0x11b61, 0x11b61), (0x11b65, 0x11b65),
   (0x11b67, 0x11b67), (0x11c2f, 0x11c2f), (0x11c3e, 0x11c3e), (0x11ca9, 0x11ca9),
   (0x11cb1, 0x11cb1), (0x11cb4, 0x11cb4), (0x11d8a, 0x11d8e), (0x11d93, 0x11d94),
   (0x11d96, 0x11d96), (0x11ef5, 0x11ef6), (0x11f03, 0x11f03), (0x11f34, 0x11f35),
   (0x11f3e, 0x11f3f), (0x1612a, 0x1612c), (0x16f51, 0x16f87)]

def leadingRanges : List (Nat × Nat) := [(0x1100, 0x115f), (0xa960, 0xa97c)]

/-- The vowels of Hangul syllables, and the vowel signs of Kirat Rai, which join alike. -/
def vowelRanges : List (Nat × Nat) :=
  [(0x1160, 0x11a7), (0xd7b0, 0xd7c6), (0x16d63, 0x16d63), (0x16d67, 0x16d6a)]

def trailingRanges : List (Nat × Nat) := [(0x11a8, 0x11ff), (0xd7cb, 0xd7fb)]

def conjunctRanges : List (Nat × Nat) :=
  [(0x915, 0x939), (0x958, 0x95f), (0x978, 0x97f), (0x995, 0x9a8), (0x9aa, 0x9b0), (0x9b2, 0x9b2),
   (0x9b6, 0x9b9), (0x9dc, 0x9dd), (0x9df, 0x9df), (0x9f0, 0x9f1), (0xa95, 0xaa8), (0xaaa, 0xab0),
   (0xab2, 0xab3), (0xab5, 0xab9), (0xaf9, 0xaf9), (0xb15, 0xb28), (0xb2a, 0xb30), (0xb32, 0xb33),
   (0xb35, 0xb39), (0xb5c, 0xb5d), (0xb5f, 0xb5f), (0xb71, 0xb71), (0xc15, 0xc28), (0xc2a, 0xc39),
   (0xc58, 0xc5a), (0xd15, 0xd3a), (0x1000, 0x102a), (0x103f, 0x103f), (0x1050, 0x1055),
   (0x105a, 0x105d), (0x1061, 0x1061), (0x1065, 0x1066), (0x106e, 0x1070), (0x1075, 0x1081),
   (0x108e, 0x108e), (0x1780, 0x17b3), (0x1a20, 0x1a54), (0x1b0b, 0x1b0c), (0x1b13, 0x1b33),
   (0x1b45, 0x1b4c), (0x1b83, 0x1ba0), (0x1bae, 0x1baf), (0x1bbb, 0x1bbd), (0xa989, 0xa98b),
   (0xa98f, 0xa9b2), (0xa9e0, 0xa9e4), (0xa9e7, 0xa9ef), (0xa9fa, 0xa9fe), (0xaa60, 0xaa6f),
   (0xaa71, 0xaa73), (0xaa7a, 0xaa7a), (0xaa7e, 0xaa7f), (0xaae0, 0xaaea), (0xabc0, 0xabda),
   (0x10a00, 0x10a00), (0x10a10, 0x10a13), (0x10a15, 0x10a17), (0x10a19, 0x10a35),
   (0x11103, 0x11126), (0x11144, 0x11144), (0x11147, 0x11147), (0x11380, 0x11389),
   (0x1138b, 0x1138b), (0x1138e, 0x1138e), (0x11390, 0x113b5), (0x11900, 0x11906),
   (0x11909, 0x11909), (0x1190c, 0x11913), (0x11915, 0x11916), (0x11918, 0x1192f),
   (0x11a00, 0x11a00), (0x11a0b, 0x11a32), (0x11a50, 0x11a50), (0x11a5c, 0x11a83),
   (0x11f04, 0x11f10), (0x11f12, 0x11f33)]

/-- The marks that join two consonants into a conjunct. -/
def linkerRanges : List (Nat × Nat) :=
  [(0x94d, 0x94d), (0x9cd, 0x9cd), (0xacd, 0xacd), (0xb4d, 0xb4d), (0xc4d, 0xc4d), (0xd4d, 0xd4d),
   (0x1039, 0x1039), (0x17d2, 0x17d2), (0x1a60, 0x1a60), (0x1b44, 0x1b44), (0x1bab, 0x1bab),
   (0xa9c0, 0xa9c0), (0xaaf6, 0xaaf6), (0x10a3f, 0x10a3f), (0x11133, 0x11133), (0x113d0, 0x113d0),
   (0x1193e, 0x1193e), (0x11a47, 0x11a47), (0x11a99, 0x11a99), (0x11f42, 0x11f42)]

/-- What a character is to its neighbours in a cluster. -/
inductive Role where
  | other
  | carriageReturn
  | lineFeed
  | control
  | extending
  | joiner
  | flagLetter
  | prepended
  | spacing
  | leading
  | vowel
  | trailing
  /-- A whole Hangul syllable that ends with a vowel, -/
  | openSyllable
  /-- or with a consonant. -/
  | closedSyllable
deriving DecidableEq, Repr

namespace Role

def ofChar (c : Char) : Role :=
  let n := c.toNat
  if c = '\r' then carriageReturn
  else if c = '\n' then lineFeed
  else if n < 0x20 then control
  else if n < 0x7f then other
  else if n = 0x200d then joiner
  else if isExtending c || isModifier c then extending
  else if isFlagLetter c then flagLetter
  else if inRanges n controlRanges then control
  else if inRanges n prependedRanges then prepended
  else if inRanges n spacingRanges then spacing
  else if inRanges n leadingRanges then leading
  else if inRanges n vowelRanges then vowel
  else if inRanges n trailingRanges then trailing
  else if 0xac00 ≤ n && n ≤ 0xd7a3 then
    if (n - 0xac00) % 28 = 0 then openSyllable else closedSyllable
  else other

def isControl : Role → Bool
  | carriageReturn | lineFeed | control => true
  | _ => false

/-- Whether the parts of a Hangul syllable go together. -/
def joinsSyllable : Role → Role → Bool
  | leading, leading => true
  | leading, vowel => true
  | leading, openSyllable => true
  | leading, closedSyllable => true
  | openSyllable, vowel => true
  | openSyllable, trailing => true
  | vowel, vowel => true
  | vowel, trailing => true
  | closedSyllable, trailing => true
  | trailing, trailing => true
  | _, _ => false

/-- Whether a character belongs to the one before it by their roles alone. -/
def joins (before after : Role) : Bool :=
  if before = carriageReturn ∧ after = lineFeed then true
  else if before.isControl || after.isControl then false
  else
    joinsSyllable before after || after = extending || after = joiner || after = spacing ||
      before = prepended

end Role

/-- How much of a longer sign has been read. -/
inductive Progress where
  | none
  /-- Its first part, -/
  | opened
  /-- and what joins the second part to it. -/
  | linked
deriving DecidableEq, Repr

/-- The end of the text read so far. -/
structure Edge where
  role : Role
  /-- Consonants that form a conjunct. -/
  conjunct : Progress
  /-- Pictures that a joiner makes one. -/
  picture : Progress
  /-- Whether a flag letter waits for its second one. -/
  halfFlag : Bool
deriving DecidableEq, Repr

namespace Edge

def isConjunct (c : Char) : Bool := inRanges c.toNat conjunctRanges

def isLinker (c : Char) : Bool := inRanges c.toNat linkerRanges

def nextConjunct (p : Progress) (c : Char) (role : Role) : Progress :=
  if isConjunct c then .opened
  else if p = .none then .none
  else if isLinker c then .linked
  else if role = .joiner ∨ role = .extending ∧ c ≠ '\u200c' then p
  else .none

def nextPicture (p : Progress) (c : Char) (role : Role) : Progress :=
  if isPicture c then .opened
  else if p = .opened ∧ role = .extending then .opened
  else if p = .opened ∧ role = .joiner then .linked
  else .none

def ofChar (c : Char) : Edge :=
  let role := Role.ofChar c
  ⟨role, nextConjunct .none c role, nextPicture .none c role, role = .flagLetter⟩

/-- The end after another character. -/
def next (e : Edge) (c : Char) : Edge :=
  let role := Role.ofChar c
  ⟨role, nextConjunct e.conjunct c role, nextPicture e.picture c role,
    role = .flagLetter && !e.halfFlag⟩

/-- Whether a character belongs to the cluster that the text read so far ends with. -/
def joins (e : Edge) (c : Char) : Bool :=
  e.role.joins (Role.ofChar c) || (e.conjunct = .linked && isConjunct c) ||
    (e.picture = .linked && isPicture c) || (e.halfFlag && isFlagLetter c)

end Edge

/-- The clusters of a text after the characters of an unfinished one, which are held backwards. -/
def clustersAfter (e : Edge) (cluster : List Char) : List Char → List (List Char)
  | [] => [cluster.reverse]
  | c :: cs =>
    if e.joins c then clustersAfter (e.next c) (c :: cluster) cs
    else cluster.reverse :: clustersAfter (e.next c) [c] cs

def clusters : List Char → List (List Char)
  | [] => []
  | c :: cs => clustersAfter (Edge.ofChar c) [c] cs

theorem flatten_clustersAfter (e : Edge) (cluster cs : List Char) :
    (clustersAfter e cluster cs).flatten = cluster.reverse ++ cs := by
  induction cs generalizing e cluster with
  | nil => simp [clustersAfter]
  | cons c cs ih =>
    rw [clustersAfter]
    split <;> simp [ih]

theorem flatten_clusters (cs : List Char) : (clusters cs).flatten = cs := by
  cases cs with
  | nil => rfl
  | cons c cs => simp [clusters, flatten_clustersAfter]

end ShardQuery.Text
