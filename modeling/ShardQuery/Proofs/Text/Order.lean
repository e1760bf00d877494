import Mathlib.Data.String.Basic
import Mathlib.Tactic.SplitIfs

namespace ShardQuery.Text

def bytes (s : String) : List UInt8 := s.toUTF8.data.toList

theorem bytes_eq (s : String) : bytes s = s.toList.flatMap String.utf8EncodeChar := by
  conv => lhs; rw [← String.ofList_toList (s := s)]
  rw [bytes, String.toUTF8_eq_toByteArray, String.toByteArray_ofList, List.utf8Encode,
    List.data_toByteArray]

theorem compare_cons_eq_lt {a b : Nat} (ha : a < 256) (hb : b < 256) (xs ys : List UInt8) :
    compare (UInt8.ofNat a :: xs) (UInt8.ofNat b :: ys) = .lt ↔
      a < b ∨ a = b ∧ compare xs ys = .lt := by
  have hlt : compare (UInt8.ofNat a) (UInt8.ofNat b) = .lt ↔ a < b := by
    rw [Std.compare_eq_lt, UInt8.lt_iff_toNat_lt, UInt8.toNat_ofNat_of_lt' ha,
      UInt8.toNat_ofNat_of_lt' hb]
  have heq : compare (UInt8.ofNat a) (UInt8.ofNat b) = .eq ↔ a = b := by
    rw [Std.compare_eq_iff_eq, ← UInt8.toNat_inj, UInt8.toNat_ofNat_of_lt' ha,
      UInt8.toNat_ofNat_of_lt' hb]
  rw [List.compare_cons_cons, Ordering.then_eq_lt, hlt, heq]

theorem compare_append (zs xs ys : List UInt8) :
    compare (zs ++ xs) (zs ++ ys) = compare xs ys := by
  induction zs with
  | nil => rfl
  | cons z zs ih =>
    rw [List.cons_append, List.cons_append, List.compare_cons_cons, Std.compare_self, ih]
    rfl

/-- Shorter codes start with smaller bytes, and codes of one length are written in base 64. -/
theorem compare_encode_of_lt {c d : Char} (h : c < d) (xs ys : List UInt8) :
    compare (String.utf8EncodeChar c ++ xs) (String.utf8EncodeChar d ++ ys) = .lt := by
  have hlt : c.val.toNat < d.val.toNat := h
  have hd : d.val.toNat < 1114112 := by
    rcases d.valid with hd | hd
    · exact Nat.lt_trans hd (by decide)
    · exact hd.2
  generalize hv : c.val.toNat = v at hlt
  generalize hw : d.val.toNat = w at hlt hd
  have hsquare (n : Nat) : n / 4096 = n / 64 / 64 := by rw [Nat.div_div_eq_div_mul]
  have hcube (n : Nat) : n / 262144 = n / 64 / 64 / 64 := by
    rw [Nat.div_div_eq_div_mul, Nat.div_div_eq_div_mul]
  simp only [String.utf8EncodeChar, hv, hw, hsquare, hcube]
  split_ifs <;>
    simp (disch := omega) only [List.cons_append, List.nil_append, compare_cons_eq_lt] <;> omega

theorem compare_flatMap_of_lt {cs ds : List Char} (h : cs < ds) :
    compare (cs.flatMap String.utf8EncodeChar) (ds.flatMap String.utf8EncodeChar) = .lt := by
  induction h with
  | @nil d ds =>
    cases he : String.utf8EncodeChar d with
    | nil => exact absurd he (List.ne_nil_of_length_pos (by
        rw [String.length_utf8EncodeChar]
        exact d.utf8Size_pos))
    | cons b bs =>
      rw [List.flatMap_cons, he]
      rfl
  | rel h => exact compare_encode_of_lt h _ _
  | cons h ih =>
    rw [List.flatMap_cons, List.flatMap_cons, compare_append]
    exact ih

/-- Texts compare as their bytes do. -/
theorem compare_bytes (s t : String) : compare (bytes s) (bytes t) = compare s t := by
  have hlt {s t : String} (h : s < t) : compare (bytes s) (bytes t) = compare s t := by
    have hcompare : compare s t = .lt := compareOfLessAndEq_eq_lt.2 h
    rw [bytes_eq, bytes_eq, hcompare]
    exact compare_flatMap_of_lt h
  rcases lt_trichotomy s t with h | rfl | h
  · exact hlt h
  · rw [Std.compare_self, Std.compare_self]
  · rw [Std.OrientedOrd.eq_swap, hlt h, ← Std.OrientedOrd.eq_swap]

end ShardQuery.Text
