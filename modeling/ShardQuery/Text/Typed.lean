import ShardQuery.Text.Grapheme

namespace ShardQuery.Text

def backspace : Char := '\x08'

/-- The clusters kept so far, the last one first, after another one. -/
def typeCluster (kept : List (List Char)) (cluster : List Char) : List (List Char) :=
  if cluster = [backspace] then kept.drop 1 else cluster :: kept

def typed (s : String) : String :=
  String.ofList ((clusters s.toList).foldl typeCluster []).reverse.flatten

theorem foldl_typeCluster {gs : List (List Char)} (h : ∀ g ∈ gs, g ≠ [backspace])
    (kept : List (List Char)) : gs.foldl typeCluster kept = gs.reverse ++ kept := by
  induction gs generalizing kept with
  | nil => rfl
  | cons g gs ih =>
    have hg : typeCluster kept g = g :: kept := by simp [typeCluster, h g List.mem_cons_self]
    rw [List.foldl_cons, hg, ih fun g' hg' => h g' (List.mem_cons_of_mem g hg')]
    simp

theorem typed_of_not_mem {s : String} (h : backspace ∉ s.toList) : typed s = s := by
  have hg : ∀ g ∈ clusters s.toList, g ≠ [backspace] := by
    rintro g hg rfl
    apply h
    rw [← flatten_clusters s.toList]
    exact List.mem_flatten_of_mem hg List.mem_cons_self
  simp [typed, foldl_typeCluster hg, flatten_clusters]

end ShardQuery.Text
