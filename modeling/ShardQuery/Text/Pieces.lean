namespace ShardQuery.Text

/-- The pieces of a text between occurrences of a character; there is always one. -/
def pieces (separator : Char) : List Char → List (List Char)
  | [] => [[]]
  | c :: cs =>
    if c = separator then [] :: pieces separator cs
    else
      match pieces separator cs with
      | [] => [[c]]
      | p :: ps => (c :: p) :: ps

def joined (separator : Char) : List (List Char) → List Char
  | [] => []
  | [p] => p
  | p :: ps => p ++ separator :: joined separator ps

def split (separator : Char) (s : String) : List String :=
  (pieces separator s.toList).map String.ofList

def join (separator : Char) (ss : List String) : String :=
  String.ofList (joined separator (ss.map String.toList))

/-- The text before the first occurrence of a character that passes a test, and what follows it. -/
def splitFirst? (p : Char → Bool) : List Char → Option (List Char × List Char)
  | [] => none
  | c :: cs => if p c then some ([], cs) else (splitFirst? p cs).map fun (a, b) => (c :: a, b)

theorem pieces_ne_nil (separator : Char) (cs : List Char) : pieces separator cs ≠ [] := by
  fun_cases pieces separator cs <;> simp_all

theorem joined_cons_cons (separator c : Char) (p : List Char) (ps : List (List Char)) :
    joined separator ((c :: p) :: ps) = c :: joined separator (p :: ps) := by
  cases ps <;> simp [joined]

theorem joined_pieces (separator : Char) (cs : List Char) :
    joined separator (pieces separator cs) = cs := by
  fun_induction pieces separator cs with
  | case1 => rfl
  | case2 cs ih =>
    cases h : pieces separator cs with
    | nil => exact absurd h (pieces_ne_nil _ _)
    | cons p ps => simpa [joined, h] using ih
  | case3 c cs _ h _ => exact absurd h (pieces_ne_nil _ _)
  | case4 c cs _ p ps h ih => rw [joined_cons_cons, ← h, ih]

theorem not_mem_of_mem_pieces {separator : Char} {p cs : List Char} (h : p ∈ pieces separator cs) :
    separator ∉ p := by
  fun_induction pieces separator cs generalizing p with
  | case1 => simp_all
  | case2 cs ih => grind
  | case3 c cs _ h' _ => exact absurd h' (pieces_ne_nil _ _)
  | case4 c cs hc q ps h' ih => grind

theorem pieces_of_not_mem {separator : Char} {p : List Char} (h : separator ∉ p) :
    pieces separator p = [p] := by
  induction p with
  | nil => rfl
  | cons c p ih =>
    have hc : c ≠ separator := fun he => h (he ▸ List.mem_cons_self)
    simp [pieces, hc, ih fun hm => h (List.mem_cons_of_mem _ hm)]

theorem pieces_append (separator : Char) (p cs : List Char) :
    pieces separator (p ++ separator :: cs) = pieces separator p ++ pieces separator cs := by
  induction p with
  | nil => simp [pieces]
  | cons c p ih =>
    by_cases hc : c = separator
    · simp [pieces, hc, ih]
    · cases h : pieces separator p with
      | nil => exact absurd h (pieces_ne_nil _ _)
      | cons q ps => simp [pieces, hc, ih, h]

theorem pieces_joined (separator : Char) (p : List Char) (ps : List (List Char)) :
    pieces separator (joined separator (p :: ps)) = (p :: ps).flatMap (pieces separator) := by
  induction ps generalizing p with
  | nil => rw [joined, List.flatMap_singleton]
  | cons q ps ih =>
    rw [joined, pieces_append, ih]
    · rfl
    · simp

end ShardQuery.Text
