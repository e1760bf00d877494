import ShardQuery.Json.Reader
import ShardQuery.Json.Writer

namespace ShardQuery.Json

/-- White space only, or nothing. -/
def Blank (ws : List Char) : Prop := ∀ c ∈ ws, isSpace c = true

theorem blank_nil : Blank [] := by
  intro c hc
  cases hc

theorem Blank.append (h : Blank ws) (h' : Blank ws') : Blank (ws ++ ws') := by
  intro c hc
  rcases List.mem_append.1 hc with hc | hc
  · exact h c hc
  · exact h' c hc

theorem blank_newLine (steps : Nat) : Blank (newLine steps) := by
  intro c hc
  rcases List.mem_cons.1 hc with rfl | hc
  · decide
  · rw [List.eq_of_mem_replicate hc]
    decide

/-- Texts of one or more things, with commas between them. -/
inductive Separated (P : α → List Char → Prop) : List α → List Char → Prop
  | last (hw : Blank ws) (h : P a cs) (hw' : Blank ws') : Separated P [a] (ws ++ cs ++ ws')
  | more (hw : Blank ws) (h : P a cs) (hw' : Blank ws') (hs : Separated P as ds) :
      Separated P (a :: as) (ws ++ cs ++ ws' ++ ',' :: ds)

inductive Member (P : Json → List Char → Prop) : String × Json → List Char → Prop
  | mk (k : String) (hw : Blank ws) (hw' : Blank ws') (h : P v cs) :
      Member P (k, v) (quotedChars k ++ ws ++ ':' :: (ws' ++ cs))

/-- The characters spell the value, whose numbers are whole and fit into eight bytes. -/
inductive Spelled : Json → List Char → Prop
  | null : Spelled null "null".toList
  | bool (b : Bool) : Spelled (bool b) (boolChars b)
  | int {i : Int} (h : -9223372036854775808 ≤ i ∧ i < UInt64.size) :
      Spelled (int i) (Decimal.ofInt i)
  | text (s : String) : Spelled (text s) (quotedChars s)
  | noItems (hw : Blank ws) : Spelled (list []) ('[' :: (ws ++ [']']))
  | list (h : Separated Spelled vs cs) : Spelled (list vs) ('[' :: (cs ++ [']']))
  | noMembers (hw : Blank ws) : Spelled (object []) ('{' :: (ws ++ ['}']))
  | object (h : Separated (Member Spelled) ms cs) : Spelled (object ms) ('{' :: (cs ++ ['}']))

/-- The text of a file that holds the value and nothing else. -/
def IsDocument (v : Json) (cs : List Char) : Prop :=
  ∃ ws ds ws', Blank ws ∧ v.Spelled ds ∧ Blank ws' ∧ cs = ws ++ (ds ++ ws')

theorem Spelled.isDocument {v : Json} (h : v.Spelled cs) : v.IsDocument cs :=
  ⟨[], cs, [], blank_nil, h, blank_nil, (List.append_nil cs).symm⟩

theorem Separated.append_blank {P : α → List Char → Prop} (h : Separated P as cs)
    (hw : Blank ws) : Separated P as (cs ++ ws) := by
  induction h with
  | last hv h hv' =>
    rw [List.append_assoc]
    exact .last hv h (hv'.append hw)
  | more hv h hv' _ ih =>
    rw [List.append_assoc, List.cons_append]
    exact .more hv h hv' ih

mutual

def Exact : Json → Prop
  | int i => -9223372036854775808 ≤ i ∧ i < UInt64.size
  | real _ => False
  | list items => ExactItems items
  | object members => ExactMembers members
  | _ => True

def ExactItems : List Json → Prop
  | [] => True
  | v :: vs => Exact v ∧ ExactItems vs

def ExactMembers : List (String × Json) → Prop
  | [] => True
  | (_, v) :: ms => Exact v ∧ ExactMembers ms

end

theorem charsItems_cons_cons (v w : Json) (vs : List Json) :
    charsItems (v :: w :: vs) = chars v ++ ',' :: charsItems (w :: vs) := by
  rw [charsItems]
  exact List.cons_ne_nil w vs

theorem charsMembers_cons_cons (k : String) (v : Json) (m : String × Json)
    (ms : List (String × Json)) :
    charsMembers ((k, v) :: m :: ms) =
      quotedChars k ++ ':' :: chars v ++ ',' :: charsMembers (m :: ms) := by
  rw [charsMembers]
  exact List.cons_ne_nil m ms

theorem prettyItems_cons_cons (steps : Nat) (v w : Json) (vs : List Json) :
    prettyItems steps (v :: w :: vs) =
      newLine steps ++ prettyChars steps v ++ ',' :: prettyItems steps (w :: vs) := by
  rw [prettyItems]
  exact List.cons_ne_nil w vs

theorem prettyMembers_cons_cons (steps : Nat) (k : String) (v : Json) (m : String × Json)
    (ms : List (String × Json)) :
    prettyMembers steps ((k, v) :: m :: ms) =
      newLine steps ++ quotedChars k ++ ':' :: ' ' :: prettyChars steps v ++ ',' ::
        prettyMembers steps (m :: ms) := by
  rw [prettyMembers]
  exact List.cons_ne_nil m ms

section Written

variable {P : α → List Char → Prop} {Q : Json → List Char → Prop}

theorem Separated.last_bare (ws : List Char) (hw : Blank ws) (h : P a cs) : Separated P [a] (ws ++ cs) := by
  have hs := Separated.last hw h blank_nil
  rwa [List.append_nil] at hs

theorem Separated.more_bare (ws : List Char) (hw : Blank ws) (h : P a cs)
    (hs : Separated P as ds) :
    Separated P (a :: as) (ws ++ cs ++ ',' :: ds) := by
  have hs := Separated.more hw h blank_nil hs
  rwa [List.append_nil] at hs

theorem Member.tight (k : String) (h : Q v cs) :
    Member Q (k, v) (quotedChars k ++ ':' :: cs) := by
  have hm := Member.mk k blank_nil blank_nil h
  rwa [List.append_nil] at hm

theorem Member.spaced (k : String) (h : Q v cs) :
    Member Q (k, v) (quotedChars k ++ ':' :: ' ' :: cs) := by
  have hspace : Blank [' '] := by
    intro c hc
    rw [List.mem_singleton.1 hc]
    decide
  have hm := Member.mk k blank_nil hspace h
  rwa [List.append_nil] at hm

end Written

mutual

theorem spelled_chars : ∀ {v : Json}, v.Exact → v.Spelled (chars v)
  | null, _ => .null
  | bool b, _ => .bool b
  | int _, h => .int h
  | real _, h => h.elim
  | text s, _ => .text s
  | list [], _ => .noItems blank_nil
  | list (_ :: _), h => .list (separated_charsItems (List.cons_ne_nil _ _) h)
  | object [], _ => .noMembers blank_nil
  | object (_ :: _), h => .object (separated_charsMembers (List.cons_ne_nil _ _) h)

theorem separated_charsItems : ∀ {vs : List Json}, vs ≠ [] → ExactItems vs →
    Separated Spelled vs (charsItems vs)
  | [_], _, h => .last_bare [] blank_nil (spelled_chars h.1)
  | v :: w :: vs, _, h => by
    rw [charsItems_cons_cons]
    exact .more_bare [] blank_nil (spelled_chars h.1)
      (separated_charsItems (List.cons_ne_nil w vs) h.2)

theorem separated_charsMembers : ∀ {ms : List (String × Json)}, ms ≠ [] → ExactMembers ms →
    Separated (Member Spelled) ms (charsMembers ms)
  | [(k, _)], _, h => .last_bare [] blank_nil (.tight k (spelled_chars h.1))
  | (k, v) :: m :: ms, _, h => by
    rw [charsMembers_cons_cons]
    exact .more_bare [] blank_nil (.tight k (spelled_chars h.1))
      (separated_charsMembers (List.cons_ne_nil m ms) h.2)

end

mutual

theorem spelled_prettyChars (steps : Nat) : ∀ {v : Json}, v.Exact →
    v.Spelled (prettyChars steps v)
  | null, _ => .null
  | bool b, _ => .bool b
  | int _, h => .int h
  | real _, h => h.elim
  | text s, _ => .text s
  | list [], _ => .noItems blank_nil
  | list (_ :: _), h => .list ((separated_prettyItems (steps + 1) (List.cons_ne_nil _ _)
      h).append_blank (blank_newLine steps))
  | object [], _ => .noMembers blank_nil
  | object (_ :: _), h => .object ((separated_prettyMembers (steps + 1) (List.cons_ne_nil _ _)
      h).append_blank (blank_newLine steps))

theorem separated_prettyItems (steps : Nat) : ∀ {vs : List Json}, vs ≠ [] → ExactItems vs →
    Separated Spelled vs (prettyItems steps vs)
  | [_], _, h => .last_bare _ (blank_newLine steps) (spelled_prettyChars steps h.1)
  | v :: w :: vs, _, h => by
    rw [prettyItems_cons_cons]
    exact .more_bare _ (blank_newLine steps) (spelled_prettyChars steps h.1)
      (separated_prettyItems steps (List.cons_ne_nil w vs) h.2)

theorem separated_prettyMembers (steps : Nat) : ∀ {ms : List (String × Json)}, ms ≠ [] →
    ExactMembers ms → Separated (Member Spelled) ms (prettyMembers steps ms)
  | [(k, v)], _, h => by
    rw [prettyMembers, List.append_assoc]
    exact .last_bare _ (blank_newLine steps) (.spaced k (spelled_prettyChars steps h.1))
  | (k, v) :: m :: ms, _, h => by
    rw [prettyMembers_cons_cons, List.append_assoc (newLine steps)]
    exact .more_bare _ (blank_newLine steps) (.spaced k (spelled_prettyChars steps h.1))
      (separated_prettyMembers steps (List.cons_ne_nil m ms) h.2)

end

end ShardQuery.Json
