import ShardQuery.Proofs.Table.Even
import ShardQuery.Proofs.Option
import Mathlib.Data.List.Basic

namespace ShardQuery

/-- What a table lists at one position. -/
structure Listing where
  location : String
  groups : Option (List Nat)
  uri : Option String
deriving DecidableEq, Repr

namespace TableReference

variable {t : TableReference} {files : List String}

def uriAt (t : TableReference) (i : Nat) : Option String := t.uris.bind (·[i]?)

def listings (t : TableReference) : List Listing :=
  t.locations.zipIdx.map fun (path, i) => ⟨path, t.groupsAt i, t.uriAt i⟩

/-- Each row group that is listed, with its file. -/
def listedGroups (t : TableReference) : List (String × Nat) :=
  t.listings.flatMap fun l => (l.groups.getD []).map (l.location, ·)

/-- What goes with a file where it is listed first. -/
def firstListing (t : TableReference) (path : String) : Listing :=
  let i := t.locations.findIdx (· = path)
  ⟨path, t.groupsAt i, t.uriAt i⟩

/-- No file is listed in two ways. -/
def ListsAlike (t : TableReference) : Prop :=
  ∀ l ∈ t.listings, ∀ l' ∈ t.listings, l.location = l'.location → l = l'

instance : Decidable t.ListsAlike := inferInstanceAs (Decidable (∀ l ∈ t.listings, _))

theorem getElem?_listings (t : TableReference) (i : Nat) :
    t.listings[i]? = t.locations[i]?.map fun path => ⟨path, t.groupsAt i, t.uriAt i⟩ := by
  rw [listings, List.getElem?_map, List.getElem?_zipIdx, Option.map_map, Nat.zero_add]
  rfl

theorem findIdx_location (h : path ∈ t.locations) :
    ∃ i, t.locations.findIdx (· = path) = i ∧ t.locations[i]? = some path := by
  have hlt := List.findIdx_lt_length_of_exists (p := (· = path)) ⟨path, h, decide_eq_true rfl⟩
  have hfound := List.findIdx_getElem (w := hlt)
  exact ⟨_, rfl, List.getElem?_eq_some_iff.2 ⟨hlt, of_decide_eq_true hfound⟩⟩

theorem listsAlike_iff : t.ListsAlike ↔ t.listings = t.locations.map t.firstListing := by
  constructor
  · intro halike
    apply List.ext_getElem?
    intro i
    rw [getElem?_listings, List.getElem?_map]
    cases hi : t.locations[i]? with
    | none => rfl
    | some path =>
      obtain ⟨j, hfirst, hj⟩ := findIdx_location (List.mem_of_getElem? hi)
      have hl : t.listings[i]? = some ⟨path, t.groupsAt i, t.uriAt i⟩ := by
        rw [getElem?_listings, hi]
        rfl
      have hl' : t.listings[j]? = some (t.firstListing path) := by
        rw [getElem?_listings, hj, firstListing, hfirst]
        rfl
      exact congrArg some
        (halike _ (List.mem_of_getElem? hl) _ (List.mem_of_getElem? hl') rfl)
  · intro heq l hl l' hl' hpath
    rw [heq] at hl hl'
    obtain ⟨path, -, rfl⟩ := List.mem_map.1 hl
    obtain ⟨path', -, rfl⟩ := List.mem_map.1 hl'
    exact congrArg t.firstListing hpath

/-- Values that go by location follow their position. -/
theorem pick?_bind {values : Option (List α)} {ps : List Nat} {i : Nat}
    (hlen : (values.map List.length).getD n = n) (hps : ∀ p ∈ ps, p < n) (hi : ps[i]? = some p) :
    (pick? values (some ps)).bind (·[i]?) = values.bind (·[p]?) := by
  cases values with
  | none => rfl
  | some vs =>
    show (ps.mapM (vs[·]?)).bind (·[i]?) = vs[p]?
    cases hpick : ps.mapM (vs[·]?) with
    | none =>
      obtain ⟨q, hq, hnone⟩ := mapM_eq_none_iff.1 hpick
      have hlt : q < vs.length := (hps q hq).trans_eq hlen.symm
      rw [List.getElem?_eq_getElem hlt] at hnone
      cases hnone
    | some picked =>
      have hat := congrArg (·[i]?) (mapM_eq_some_iff.1 hpick)
      simp only [List.getElem?_map, hi, Option.map_some] at hat
      show picked[i]? = vs[p]?
      cases hp : picked[i]? with
      | none =>
        rw [hp] at hat
        cases hat
      | some v =>
        rw [hp] at hat
        exact (Option.some.inj hat).symm

theorem length_pick? {values : Option (List α)} {ps : List Nat} :
    ((pick? values (some ps)).map List.length).getD ps.length = ps.length := by
  cases hpick : pick? values (some ps) with
  | none => rfl
  | some picked =>
    obtain ⟨vs, -, hpicked⟩ := Option.bind_eq_some_iff.1 hpick
    exact length_of_mapM_some hpicked

theorem positions_eq (hfiles : ∀ f ∈ files, f ∈ t.locations) :
    (files.mapM fun f => t.locations.findIdx? (· = f)) =
      some (files.map fun f => t.locations.findIdx (· = f)) := by
  rw [mapM_eq_some_iff, List.map_map]
  apply List.map_congr_left
  intro f hf
  exact List.findIdx?_eq_some_of_exists ⟨f, hfiles f hf, decide_eq_true rfl⟩

/-- A file without a listing makes the others lose what goes with them. -/
theorem withLocations_foreign (hf : f ∈ files) (hforeign : f ∉ t.locations) :
    (t.withLocations files).rowGroups = none ∧ (t.withLocations files).uris = none := by
  have hnone : (files.mapM fun f => t.locations.findIdx? (· = f)) = none := by
    refine mapM_eq_none_iff.2 ⟨f, hf, List.findIdx?_eq_none_iff.2 ?_⟩
    intro path hpath
    exact decide_eq_false fun heq => hforeign (heq ▸ hpath)
  simp only [withLocations, hnone]
  constructor
  · cases t.rowGroups <;> rfl
  · cases t.uris <;> rfl

theorem validate_withLocations (hv : t.validate = .ok ()) (files : List String) :
    (t.withLocations files).validate = .ok () := by
  obtain ⟨hcolumns, -, -⟩ := validate_eq_ok_iff.1 hv
  apply validate_eq_ok_iff.2
  by_cases hknown : ∀ f ∈ files, f ∈ t.locations
  · have hlen : (files.map fun f => t.locations.findIdx (· = f)).length = files.length :=
      List.length_map ..
    simp only [withLocations, positions_eq hknown]
    rw [← hlen]
    exact ⟨hcolumns, length_pick?, length_pick?⟩
  · push Not at hknown
    obtain ⟨f, hf, hforeign⟩ := hknown
    obtain ⟨hgroups, huris⟩ := withLocations_foreign hf hforeign
    rw [hgroups, huris]
    exact ⟨hcolumns, rfl, rfl⟩

theorem listings_withLocations (hv : t.validate = .ok ()) (hfiles : ∀ f ∈ files, f ∈ t.locations) :
    (t.withLocations files).listings = files.map t.firstListing := by
  obtain ⟨-, hgroups, huris⟩ := validate_eq_ok_iff.1 hv
  have hps : ∀ p ∈ files.map (fun f => t.locations.findIdx (· = f)), p < t.locations.length := by
    intro p hp
    obtain ⟨f, hf, rfl⟩ := List.mem_map.1 hp
    exact List.findIdx_lt_length_of_exists ⟨f, hfiles f hf, decide_eq_true rfl⟩
  apply List.ext_getElem?
  intro i
  rw [getElem?_listings, List.getElem?_map]
  show files[i]?.map _ = _
  cases hi : files[i]? with
  | none => rfl
  | some path =>
    have hat : (files.map fun f => t.locations.findIdx (· = f))[i]? =
        some (t.locations.findIdx (· = path)) := by
      rw [List.getElem?_map, hi]
      rfl
    have hgroups' : (t.withLocations files).groupsAt i =
        t.groupsAt (t.locations.findIdx (· = path)) := by
      have hpick := pick?_bind hgroups hps hat
      rwa [← positions_eq hfiles] at hpick
    have huris' : (t.withLocations files).uriAt i =
        t.uriAt (t.locations.findIdx (· = path)) := by
      have hpick := pick?_bind huris hps hat
      rwa [← positions_eq hfiles] at hpick
    rw [Option.map_some, Option.map_some, hgroups', huris', firstListing]

end TableReference

namespace Slice

variable {t : TableReference} {entries : List WorkerFiles}

/-- The share of the entry at position `i`: its files with what their first listings say. -/
structure IsMapped (t : TableReference) (entries : List WorkerFiles) (i : Nat) (e : WorkerFiles)
    (s : Slice) : Prop where
  worker : s.worker = some e.worker
  offset : s.offset = ⟨((entries.take i).map (·.files.length)).sum, e.files.length⟩
  locations : s.table.locations = e.files
  listings : (∀ f ∈ e.files, f ∈ t.locations) → s.table.listings = e.files.map t.firstListing
  foreign : (∃ f ∈ e.files, f ∉ t.locations) → s.table.rowGroups = none ∧ s.table.uris = none
  akin : t.Akin s.table
  valid : s.table.validate = .ok ()

def mapped (entries : List WorkerFiles) : List (WorkerFiles × Range) :=
  entries.zip (Range.layOut 0 (entries.map (·.files.length)))

theorem map_fst_mapped (entries : List WorkerFiles) :
    (mapped entries).map Prod.fst = entries := by
  apply List.map_fst_zip
  rw [Range.length_layOut, List.length_map]

theorem map_snd_mapped (entries : List WorkerFiles) :
    (mapped entries).map Prod.snd = Range.layOut 0 (entries.map (·.files.length)) := by
  apply List.map_snd_zip
  rw [Range.length_layOut, List.length_map]

theorem length_mapped (entries : List WorkerFiles) :
    (mapped entries).length = entries.length := by
  rw [← List.length_map Prod.fst, map_fst_mapped]

def ofMapped (t : TableReference) (p : WorkerFiles × Range) : Slice := ofEntry t p.1 p.2

theorem planMapped_eq (hv : t.validate = .ok ()) (hm : t.mapping = some entries)
    (hne : entries ≠ []) (hn : 0 < n) :
    planMapped t n = .ok ((mapped entries).map (ofMapped t)) := by
  rw [planMapped, Planner.checkParts_pos hn, Except.ok_bind, hv, Except.ok_bind, hm]
  cases entries with
  | nil => exact absurd rfl hne
  | cons e entries => exact congrArg Except.ok (List.map_uncurry_zip_eq_zipWith ..).symm

theorem planTable_eq (hv : t.validate = .ok ()) (hm : t.mapping = some entries)
    (hne : entries ≠ []) :
    Planner.planTable ⟨entries.length⟩ t = .ok ((mapped entries).map (ofMapped t)) := by
  have hlen : ((mapped entries).map (ofMapped t)).length = entries.length := by
    rw [List.length_map, length_mapped]
  rw [Planner.planTable, planMapped_eq hv hm hne (List.length_pos_iff.2 hne), Except.ok_bind,
    if_pos hlen, hm]
  cases entries with
  | nil => exact absurd rfl hne
  | cons e entries => rfl

theorem isMapped_ofMapped (hv : t.validate = .ok ()) {i : Nat} (he : entries[i]? = some e) :
    ∃ s, ((mapped entries).map (ofMapped t))[i]? = some s ∧ IsMapped t entries i e s := by
  have hat : (mapped entries)[i]? =
      some (e, ⟨((entries.take i).map (·.files.length)).sum, e.files.length⟩) := by
    rw [mapped, List.getElem?_zip_eq_some, Range.getElem?_layOut, List.getElem?_map, he,
      ← List.map_take, Nat.zero_add]
    exact ⟨rfl, rfl⟩
  refine ⟨ofMapped t _, by rw [List.getElem?_map, hat]; rfl, ?_⟩
  exact {
    worker := rfl
    offset := rfl
    locations := rfl
    listings := TableReference.listings_withLocations hv
    foreign := fun ⟨_, hf, hforeign⟩ => TableReference.withLocations_foreign hf hforeign
    akin := ⟨rfl, rfl, rfl, rfl⟩
    valid := TableReference.validate_withLocations hv _ }

theorem map_offset_mapped (t : TableReference) (entries : List WorkerFiles) :
    ((mapped entries).map (ofMapped t)).map Slice.offset =
      Range.layOut 0 (entries.map (·.files.length)) := by
  rw [← map_snd_mapped, List.map_map]
  rfl

/-- Of what the shares list, each file has what its first listing says. -/
theorem flatMap_listings_mapped (hv : t.validate = .ok ())
    (hknown : ∀ e ∈ entries, ∀ f ∈ e.files, f ∈ t.locations) :
    ((mapped entries).map (ofMapped t)).flatMap (·.table.listings) =
      (entries.flatMap (·.files)).map t.firstListing := by
  have hshare : ∀ p ∈ mapped entries,
      (ofMapped t p).table.listings = p.1.files.map t.firstListing := by
    intro p hp
    have he : p.1 ∈ entries := by
      rw [← map_fst_mapped entries]
      exact List.mem_map_of_mem hp
    exact TableReference.listings_withLocations hv (hknown p.1 he)
  rw [List.flatMap_map, List.map_flatMap]
  conv_rhs => rw [← map_fst_mapped entries, List.flatMap_map]
  exact List.flatMap_congr hshare

/-- A rearrangement of the files rearranges what is listed exactly if a file's listings agree. -/
theorem perm_listings_iff (hv : t.validate = .ok ())
    (hperm : (entries.flatMap (·.files)).Perm t.locations) :
    (((mapped entries).map (ofMapped t)).flatMap (·.table.listings)).Perm t.listings ↔
      t.ListsAlike := by
  have hknown : ∀ e ∈ entries, ∀ f ∈ e.files, f ∈ t.locations := fun e he f hf =>
    hperm.subset (List.mem_flatMap_of_mem he hf)
  have hfirst := hperm.map t.firstListing
  rw [flatMap_listings_mapped hv hknown]
  constructor
  · intro hlistings l hl l' hl' hpath
    obtain ⟨path, -, rfl⟩ := List.mem_map.1 (hlistings.symm.subset hl)
    obtain ⟨path', -, rfl⟩ := List.mem_map.1 (hlistings.symm.subset hl')
    exact congrArg t.firstListing hpath
  · intro halike
    rw [TableReference.listsAlike_iff.1 halike]
    exact hfirst

/-- A mapping with an entry for each participant gives each its share. What all shares list is what
the table lists, if the entries rearrange its files, exactly when no file is listed in two ways: a
share takes what goes with a file from the file's first listing. -/
theorem planTable_rearranges (hv : t.validate = .ok ()) (hm : t.mapping = some entries)
    (hne : entries ≠ []) :
    ∃ planner slices, Planner.create entries.length = .ok planner ∧
      planner.planTable t = .ok slices ∧ slices.length = entries.length ∧
      (∀ (i : Nat) (e : WorkerFiles), entries[i]? = some e →
        ∃ s, slices[i]? = some s ∧ s.IsMapped t entries i e) ∧
      Range.Tiles 0 (slices.map Slice.offset) (entries.flatMap (·.files)).length ∧
      ((entries.flatMap (·.files)).Perm t.locations →
        ((slices.flatMap (·.table.listings)).Perm t.listings ↔ t.ListsAlike) ∧
        (t.ListsAlike → (slices.flatMap (·.table.listedGroups)).Perm t.listedGroups)) := by
  refine ⟨_, _, if_neg (mt List.eq_nil_of_length_eq_zero hne), planTable_eq hv hm hne, ?_, ?_, ?_,
    ?_⟩
  · rw [List.length_map, length_mapped]
  · intro i e he
    exact isMapped_ofMapped hv he
  · have ht := Range.tiles_layOut 0 (entries.map (·.files.length))
    rwa [Nat.zero_add, ← List.length_flatMap, ← map_offset_mapped t] at ht
  · intro hperm
    have hiff := perm_listings_iff hv hperm
    refine ⟨hiff, fun halike => ?_⟩
    have hgroups := (hiff.2 halike).flatMap_right fun l => (l.groups.getD []).map (l.location, ·)
    rwa [List.flatMap_assoc] at hgroups

def twice : TableReference :=
  { name := "t", kind := .parquet, locations := ["a", "a"], rowGroups := some [[0], [1]],
    mapping := some [⟨"w", ["a"]⟩, ⟨"v", ["a"]⟩] }

/-- The second of its row groups is never read. -/
theorem planTable_rearranges_twice : twice.validate = .ok () ∧
    ∃ slices, Planner.planTable ⟨2⟩ twice = .ok slices ∧
      slices.flatMap (·.table.listedGroups) = [("a", 0), ("a", 0)] ∧
      twice.listedGroups = [("a", 0), ("a", 1)] ∧
      ¬ (slices.flatMap (·.table.listings)).Perm twice.listings := by
  obtain ⟨planner, slices, hcreate, hplan, -, -, -, hperm⟩ :=
    planTable_rearranges (t := twice) rfl rfl (List.cons_ne_nil _ _)
  cases hcreate
  obtain ⟨hiff, -⟩ := hperm (.refl _)
  refine ⟨rfl, slices, hplan, ?_, rfl, fun h => absurd (hiff.1 h) (by decide)⟩
  have hslices := planTable_eq (t := twice) rfl rfl (List.cons_ne_nil _ _)
  rw [hslices] at hplan
  cases hplan
  rfl

end Slice

end ShardQuery
