import ShardQuery.Proofs.Table.Plan
import ShardQuery.Shell.Command
import Mathlib.Data.List.DropRight

namespace ShardQuery

namespace Text

theorem toList_trim (s : String) :
    (trim s).toList = (s.toList.dropWhile isBlank).rdropWhile isBlank := String.toList_ofList

theorem mem_of_mem_trim {s : String} {c : Char} (h : c ∈ (trim s).toList) : c ∈ s.toList := by
  rw [toList_trim] at h
  exact (List.dropWhile_sublist _).mem ((List.rdropWhile_prefix _ _).mem h)

theorem dropWhile_of_isPrefix {p : α → Bool} {l l' : List α} (h : l.dropWhile p = l)
    (hl : l' <+: l) : l'.dropWhile p = l' := by
  rw [List.dropWhile_eq_self_iff] at h ⊢
  intro hpos
  rw [hl.getElem hpos]
  exact h _

theorem trim_trim (s : String) : trim (trim s) = trim s := by
  apply String.toList_injective
  have hstart := dropWhile_of_isPrefix (List.dropWhile_idempotent isBlank s.toList)
    (List.rdropWhile_prefix isBlank _)
  rw [toList_trim, toList_trim, hstart, List.rdropWhile_idempotent]

theorem splitFirst?_append {p : Char → Bool} {l : List Char} (hl : ∀ c ∈ l, p c = false)
    (hc : p c = true) (rest : List Char) : splitFirst? p (l ++ c :: rest) = some (l, rest) := by
  induction l with
  | nil => simp [splitFirst?, hc]
  | cons d l ih =>
    rw [List.forall_mem_cons] at hl
    simp [splitFirst?, hl.1, ih hl.2]

end Text

namespace TableReference

/-- A list with commas can hold the name of the file as it is. -/
def IsListable (name : String) : Prop :=
  name ≠ "" ∧ ',' ∉ name.toList ∧ Text.trim name = name

instance (name : String) : Decidable (IsListable name) := inferInstanceAs (Decidable (_ ∧ _ ∧ _))

theorem isListable_of_mem {name paths : String} (h : name ∈ listedFiles paths) :
    IsListable name := by
  obtain ⟨hmem, hname⟩ := List.mem_filter.1 h
  obtain ⟨piece, hpiece, rfl⟩ := List.mem_map.1 hmem
  obtain ⟨cs, hcs, rfl⟩ := List.mem_map.1 hpiece
  refine ⟨of_decide_eq_true hname, fun hcomma => ?_, Text.trim_trim _⟩
  apply Text.not_mem_of_mem_pieces hcs
  simpa using Text.mem_of_mem_trim hcomma

theorem listedFiles_of_isListable {name : String} (h : IsListable name) :
    listedFiles name = [name] := by
  obtain ⟨hname, hcomma, htrim⟩ := h
  simp [listedFiles, Text.split, Text.pieces_of_not_mem hcomma, htrim, hname]

/-- The files that some names stand for when they are written with commas between them. -/
def asListed (names : List String) : List String := names.flatMap listedFiles

theorem listedFiles_join (names : List String) :
    listedFiles (Text.join ',' names) = asListed names := by
  cases names with
  | nil => rfl
  | cons name names =>
    rw [listedFiles, Text.split, Text.join, String.toList_ofList, List.map_cons,
      Text.pieces_joined, ← List.map_cons, List.flatMap_map, List.map_flatMap, List.map_flatMap,
      List.filter_flatMap]
    rfl

theorem asListed_eq_self_iff {names : List String} :
    asListed names = names ↔ ∀ name ∈ names, IsListable name := by
  constructor
  · intro h name hname
    rw [← h] at hname
    obtain ⟨other, -, hmem⟩ := List.mem_flatMap.1 hname
    exact isListable_of_mem hmem
  · intro h
    induction names with
    | nil => rfl
    | cons name names ih =>
      rw [List.forall_mem_cons] at h
      rw [asListed] at ih ⊢
      rw [List.flatMap_cons, listedFiles_of_isListable h.1, ih h.2]
      rfl

variable {name path : String} {kind : SourceKind} {paths files : List String}
  {t : TableReference}

theorem kindOf_eq_ok_iff : kindOf path = .ok kind ↔ SourceKind.ofPath? path = some kind := by
  rw [kindOf]
  cases SourceKind.ofPath? path <;> simp

theorem checkKind_eq_ok_iff (table : String) :
    checkKind table kind path = .ok () ↔ SourceKind.ofPath? path = some kind := by
  rw [checkKind, Except.bind_eq_ok_iff, ← kindOf_eq_ok_iff]
  constructor
  · rintro ⟨other, hkind, hsame⟩
    split at hsame
    · next he => exact he ▸ hkind
    · cases hsame
  · intro hkind
    exact ⟨kind, hkind, if_pos rfl⟩

/-- There is a table of some files exactly if there are files and all are of one kind. -/
theorem ofFiles_eq_ok_iff : ofFiles name files = .ok t ↔ files ≠ [] ∧
    ∃ kind, (∀ path ∈ files, SourceKind.ofPath? path = some kind) ∧
      t = { name, kind, locations := files } := by
  cases files with
  | nil => simp [ofFiles]
  | cons path paths =>
    simp only [ofFiles, Except.bind_eq_ok_iff, kindOf_eq_ok_iff, List.forall_mem_cons,
      ← checkKind_eq_ok_iff name]
    constructor
    · rintro ⟨kind, hkind, ⟨⟩, hcheck, ht⟩
      cases ht
      exact ⟨List.cons_ne_nil _ _, kind, ⟨hkind, Except.forM_eq_ok_iff.1 hcheck⟩, rfl⟩
    · rintro ⟨-, kind, ⟨hkind, hcheck⟩, rfl⟩
      exact ⟨kind, hkind, ⟨⟩, Except.forM_eq_ok_iff.2 hcheck, rfl⟩

theorem ofDefinition_planName (names : List String) :
    ofDefinition (Slice.planName ++ "=" ++ Text.join ',' names) =
      ofFiles Slice.planName (asListed names) := by
  have hsplit : Text.splitFirst? (· = '=')
      (Slice.planName ++ "=" ++ Text.join ',' names).toList =
        some (Slice.planName.toList, (Text.join ',' names).toList) := by
    have hname : ∀ c ∈ Slice.planName.toList, decide (c = '=') = false := by
      rw [Slice.planName]
      simp
    rw [String.toList_append, String.toList_append, List.append_assoc]
    exact Text.splitFirst?_append hname rfl _
  rw [ofDefinition, hsplit, ← listedFiles_join]
  simp only [String.ofList_toList]
  rfl

end TableReference

namespace Slice

open TableReference

variable {names : List String} {kind : SourceKind} {files : List String} {parts : Nat}
  {slices : List Slice}

/-- The table of files that belong to no table. -/
def planned (kind : SourceKind) (files : List String) : TableReference :=
  { name := planName, kind, locations := files }

theorem planFiles_eq_ok_iff (hp : 1 ≤ parts) : planFiles names parts = .ok slices ↔
    asListed names ≠ [] ∧ ∃ kind,
      (∀ path ∈ asListed names, SourceKind.ofPath? path = some kind) ∧
      planEvenly (planned kind (asListed names)) parts = .ok slices := by
  have hcreate : Planner.create parts = .ok ⟨parts⟩ := if_neg (by omega)
  rw [planFiles, ofDefinition_planName, hcreate]
  simp only [Except.bind_eq_ok_iff, Except.mapError_eq_ok_iff, ofFiles_eq_ok_iff]
  constructor
  · rintro ⟨table, ⟨hfiles, kind, hkind, rfl⟩, planner, ⟨⟩, hplan⟩
    exact ⟨hfiles, kind, hkind, hplan⟩
  · rintro ⟨hfiles, kind, hkind, hplan⟩
    exact ⟨_, ⟨hfiles, kind, hkind, rfl⟩, _, rfl, hplan⟩

theorem exists_plan (kind : SourceKind) (files : List String) (hp : 1 ≤ parts) :
    ∃ slices, planEvenly (planned kind files) parts = .ok slices :=
  Planner.exists_planEvenly hp (validate_eq_ok_iff.2 ⟨rfl, rfl, rfl⟩)

/-- Slices are a plan for one list of files only. -/
theorem planned_files_inj {kind' : SourceKind} {files' : List String} (hp : 1 ≤ parts)
    (h : planEvenly (planned kind files) parts = .ok slices)
    (h' : planEvenly (planned kind' files') parts = .ok slices) : files = files' :=
  (Planner.flatMap_planEvenly hp h).symm.trans (Planner.flatMap_planEvenly hp h')

end Slice

namespace Shell

open TableReference

variable {names : List String} {parts : Nat} {slices : List Slice}

theorem showSlices_of_planned (h : Slice.planFiles names parts = .ok slices) :
    showSlices names parts =
      ⟨[.text ("Slice plan: " ++ Decimal.natText names.length ++ " files over " ++
          Decimal.natText parts ++ " participants\n"),
        .text ((Grid.ofSlices slices).draw ++ "\n")], .ok ()⟩ := by
  rw [showSlices, h]
  rfl

theorem showSlices_succeeds_iff : (showSlices names parts).result = .ok () ↔
    ∃ slices, Slice.planFiles names parts = .ok slices := by
  constructor
  · intro h
    cases hplan : Slice.planFiles names parts with
    | ok slices => exact ⟨slices, rfl⟩
    | error x =>
      rw [showSlices, hplan] at h
      cases h
  · rintro ⟨slices, h⟩
    rw [showSlices_of_planned h]

/--
What is planned for some names are the files that they stand for in a list with commas. The plan
succeeds if there are such files and all are of one kind; it is a plan for the names themselves
exactly if a list with commas can hold each of them as it is.
-/
theorem showSlices_plans_listed (names : List String) (parts : Nat) (hp : 1 ≤ parts) :
    ((showSlices names parts).result = .ok () ↔ asListed names ≠ [] ∧
      ∃ kind, ∀ path ∈ asListed names, SourceKind.ofPath? path = some kind) ∧
    (∀ kind, asListed names ≠ [] →
      (∀ path ∈ asListed names, SourceKind.ofPath? path = some kind) →
      ∃ slices, Slice.planEvenly (Slice.planned kind (asListed names)) parts = .ok slices ∧
        showSlices names parts =
          ⟨[.text ("Slice plan: " ++ Decimal.natText names.length ++ " files over " ++
              Decimal.natText parts ++ " participants\n"),
            .text ((Grid.ofSlices slices).draw ++ "\n")], .ok ()⟩ ∧
        ((∃ kind', Slice.planEvenly (Slice.planned kind' names) parts = .ok slices) ↔
          ∀ name ∈ names, IsListable name)) ∧
    ((∀ name ∈ names, IsListable name) → names ≠ [] →
      ((showSlices names parts).result = .ok () ↔
        ∃ kind, ∀ name ∈ names, SourceKind.ofPath? name = some kind)) := by
  have hsucceeds : (showSlices names parts).result = .ok () ↔ asListed names ≠ [] ∧
      ∃ kind, ∀ path ∈ asListed names, SourceKind.ofPath? path = some kind := by
    simp only [showSlices_succeeds_iff, Slice.planFiles_eq_ok_iff hp]
    constructor
    · rintro ⟨slices, hfiles, kind, hkind, -⟩
      exact ⟨hfiles, kind, hkind⟩
    · rintro ⟨hfiles, kind, hkind⟩
      obtain ⟨slices, hplan⟩ := Slice.exists_plan kind (asListed names) hp
      exact ⟨slices, hfiles, kind, hkind, hplan⟩
  refine ⟨hsucceeds, fun kind hfiles hkind => ?_, fun hlistable hnames => ?_⟩
  · obtain ⟨slices, hplan⟩ := Slice.exists_plan kind (asListed names) hp
    have hplanned := (Slice.planFiles_eq_ok_iff hp).2 ⟨hfiles, kind, hkind, hplan⟩
    refine ⟨slices, hplan, showSlices_of_planned hplanned, ?_⟩
    rw [← asListed_eq_self_iff]
    constructor
    · rintro ⟨kind', hnames⟩
      exact Slice.planned_files_inj hp hplan hnames
    · intro hsame
      exact ⟨kind, hsame ▸ hplan⟩
  · rw [hsucceeds, asListed_eq_self_iff.2 hlistable]
    exact and_iff_right hnames

/-- One name with a comma is planned as two files, though one file is counted. -/
theorem showSlices_plans_listed_comma : 1 ≤ 2 ∧
    ∃ slices, Slice.planEvenly (Slice.planned .csv ["a.csv", "b.csv"]) 2 = .ok slices ∧
      showSlices ["a.csv,b.csv"] 2 =
        ⟨[.text "Slice plan: 1 files over 2 participants\n",
          .text ((Grid.ofSlices slices).draw ++ "\n")], .ok ()⟩ ∧
      ∀ kind, Slice.planEvenly (Slice.planned kind ["a.csv,b.csv"]) 2 ≠ .ok slices := by
  have hlisted : asListed ["a.csv,b.csv"] = ["a.csv", "b.csv"] := by decide +kernel
  obtain ⟨-, hplans, -⟩ := showSlices_plans_listed ["a.csv,b.csv"] 2 (by decide)
  rw [hlisted] at hplans
  obtain ⟨slices, hplan, hshow, hiff⟩ := hplans .csv (by decide) (by decide +kernel)
  refine ⟨by decide, slices, hplan, hshow, fun kind hkind => ?_⟩
  have hlistable := hiff.1 ⟨kind, hkind⟩ _ (List.mem_singleton.2 rfl)
  exact absurd hlistable (by decide +kernel)

end Shell

end ShardQuery
