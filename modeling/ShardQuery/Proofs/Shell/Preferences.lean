import ShardQuery.Proofs.Json.Record
import ShardQuery.Shell.Preferences

namespace ShardQuery

namespace FileContent

theorem toList_loop (bs : ByteArray) (i : Nat) (r : List UInt8) :
    ByteArray.toList.loop bs i r = r.reverse ++ bs.data.toList.drop i := by
  fun_induction ByteArray.toList.loop bs i r with
  | case1 i r h ih =>
    have hlt : i < bs.data.toList.length := h
    rw [ih, List.reverse_cons, List.append_assoc, List.singleton_append,
      List.drop_eq_getElem_cons hlt]
    congr 2
    exact getElem!_pos bs.data i h
  | case2 i r h =>
    have hle : bs.data.toList.length ≤ i := Nat.le_of_not_lt h
    rw [List.drop_eq_nil_of_le hle, List.append_nil]

theorem text?_ofText (s : String) : (ofText s).text? = some s := by
  have hbytes : (⟨s.toUTF8.toList.toArray⟩ : ByteArray) = s.toUTF8 := by
    rw [ByteArray.toList, toList_loop, List.reverse_nil, List.nil_append, List.drop_zero,
      Array.toArray_toList]
  rw [ofText, text?, hbytes]
  exact dif_pos s.isValidUTF8

end FileContent

namespace Settings

variable {s : Settings} {rest : List (String × Json)} {removed : List String}

/-- The numbers fit into their bytes: two for a port, eight for all others. -/
structure Fits (s : Settings) : Prop where
  basePort : s.basePort < UInt16.size
  timeoutMs : ∀ n ∈ s.timeoutMs, n < UInt64.size
  capacity : s.capacity < UInt64.size

/-- The settings with the defaults of some fields. -/
def reset (removed : List String) (s : Settings) : Settings where
  protocol := if "protocol" ∈ removed then default.protocol else s.protocol
  bindIp := if "bind_ip" ∈ removed then default.bindIp else s.bindIp
  basePort := if "base_port" ∈ removed then default.basePort else s.basePort
  timeoutMs := if "operation_timeout_ms" ∈ removed then default.timeoutMs else s.timeoutMs
  capacity := if "channel_capacity" ∈ removed then default.capacity else s.capacity

theorem timeoutMs_reset : (s.reset removed).timeoutMs =
    if "operation_timeout_ms" ∈ removed then some 30000 else s.timeoutMs := rfl

theorem exact_toJson (hs : s.Fits) : s.toJson.Exact :=
  ⟨trivial, trivial, (Json.plain_ofNat 0 (hs.basePort.trans (by decide))).exact,
    (Json.plain_ofOption fun n hn => Json.plain_ofNat 0 (hs.timeoutMs n hn)).exact,
    (Json.plain_ofNat 0 hs.capacity).exact, trivial⟩

theorem ofJson?_without (hs : s.Fits)
    (hrest : rest.Perm (Json.without removed s.toJson.members)) :
    ofJson? (.object rest) = some (s.reset removed) := by
  have hnames : (s.toJson.members.map Prod.fst).Nodup := show fieldNames.Nodup by decide
  have hfields := Json.leadingFields?_without hnames hrest
  have hprotocol : (Json.text s.protocol).text? = some s.protocol := rfl
  have hip : (Json.text s.bindIp).text? = some s.bindIp := rfl
  have hport : Json.natBelow? UInt16.size (.ofNat s.basePort) = some s.basePort :=
    Json.natBelow?_ofNat hs.basePort
  have htimeout : Json.option? Json.word? (.ofOption .ofNat s.timeoutMs) = some s.timeoutMs :=
    Json.option?_ofOption (fun n hn => Json.word?_ofNat (hs.timeoutMs n hn)) fun n h => by cases h
  refine Json.bind_eq_of hfields ?_
  refine Json.bind_eq_of (Json.Fields.defaulted_eq hprotocol rfl _) ?_
  refine Json.bind_eq_of (Json.Fields.defaulted_eq hip rfl _) ?_
  refine Json.bind_eq_of (Json.Fields.defaulted_eq hport rfl _) ?_
  refine Json.bind_eq_of (Json.Fields.defaulted_eq htimeout rfl _) ?_
  exact Json.bind_eq_of (Json.Fields.defaulted_eq (Json.word?_ofNat hs.capacity) rfl _) rfl

end Settings

namespace Preferences

variable {p : Preferences} {ms cs : List (String × Json)} {top inner : List String}

structure Fits (p : Preferences) : Prop where
  workers : p.workers < UInt64.size
  maxRows : p.maxRows < UInt64.size
  cluster : p.cluster.Fits

/-- The preferences with the defaults of some fields, and of some fields of their cluster. -/
def reset (top inner : List String) (p : Preferences) : Preferences where
  workers := if "workers" ∈ top then default.workers else p.workers
  showTiming := if "show_timing" ∈ top then default.showTiming else p.showTiming
  maxRows := if "max_rows" ∈ top then default.maxRows else p.maxRows
  format := if "output_format" ∈ top then default.format else p.format
  cluster := if "cluster" ∈ top then default.cluster else p.cluster.reset inner

theorem cluster_reset : (p.reset top inner).cluster =
    if "cluster" ∈ top then .default else p.cluster.reset inner := rfl

theorem exact_toJson (hp : p.Fits) : p.toJson.Exact :=
  ⟨(Json.plain_ofNat 0 hp.workers).exact, trivial, (Json.plain_ofNat 0 hp.maxRows).exact, trivial,
    Settings.exact_toJson hp.cluster, trivial⟩

theorem ofJson?_without (hp : p.Fits)
    (hcs : cs.Perm (Json.without inner p.cluster.toJson.members))
    (hms : ms.Perm (Json.without top (Json.setMember "cluster" (.object cs) p.toJson.members))) :
    ofJson? (.object ms) = some (p.reset top inner) := by
  have hnames : ((Json.setMember "cluster" (.object cs) p.toJson.members).map Prod.fst).Nodup :=
    show fieldNames.Nodup by decide
  have hfields := Json.leadingFields?_without hnames hms
  have htiming : (Json.bool p.showTiming).bool? = some p.showTiming := rfl
  have hformat : ((Json.text p.format.name).choice?.bind OutputFormat.ofName?) = some p.format :=
    OutputFormat.ofName?_name p.format
  have hcluster := Settings.ofJson?_without hp.cluster hcs
  refine Json.bind_eq_of hfields ?_
  refine Json.bind_eq_of (Json.Fields.defaulted_eq (Json.word?_ofNat hp.workers) rfl _) ?_
  refine Json.bind_eq_of (Json.Fields.defaulted_eq htiming rfl _) ?_
  refine Json.bind_eq_of (Json.Fields.defaulted_eq (Json.word?_ofNat hp.maxRows) rfl _) ?_
  refine Json.bind_eq_of (Json.Fields.defaulted_eq hformat rfl _) ?_
  exact Json.bind_eq_of (Json.Fields.defaulted_eq hcluster rfl _) rfl

/-- What was written, without some of its fields and without some of those of its cluster. -/
def remaining (top inner : List String) (p : Preferences) : Json :=
  .object (Json.without top (Json.setMember "cluster"
    (.object (Json.without inner p.cluster.toJson.members)) p.toJson.members))

theorem remaining_nil (p : Preferences) : p.remaining [] [] = p.toJson := rfl

theorem reset_nil (p : Preferences) : p.reset [] [] = p := rfl

theorem exact_remaining (hp : p.Fits) (top inner : List String) : (p.remaining top inner).Exact :=
  Json.exact_without top (Json.exact_setMember "cluster"
    (Json.exact_without inner (Settings.exact_toJson hp.cluster)) (exact_toJson hp))

theorem load_of_isDocument {files : FileStore} {path : String} {text : List Char} {v : Json}
    (hv : v.IsDocument text) (hp : ofJson? v = some p)
    (hfile : files.lookup path = .file (.ofText (String.ofList text))) :
    load files path = .ok p := by
  have hread : read? (String.ofList text) = some p := by
    rw [read?, Json.readLoose?_of_isDocument hv]
    exact hp
  rw [load, hfile]
  simp only [FileContent.text?_ofText, hread]

theorem load_pretty {files : FileStore} {path : String} (hp : p.Fits)
    (hfile : files.lookup path = .file (.ofText (p.remaining top inner).pretty)) :
    load files path = .ok (p.reset top inner) :=
  load_of_isDocument (Json.spelled_prettyChars 0 (exact_remaining hp top inner)).isDocument
    (ofJson?_without hp (.refl _) (.refl _)) hfile

/--
A file of preferences from which fields were removed has the defaults of exactly these, however
the rest is ordered and spelled: the text that is written for it is one way. In particular what was
saved is loaded, and a time limit that is null stays none while one that was removed has its default.
-/
theorem load_remaining (p : Preferences) (top inner : List String) (hp : p.Fits) :
    (∀ (files : FileStore) (path : String) (cs ms : List (String × Json)) (text : List Char),
      cs.Perm (Json.without inner p.cluster.toJson.members) →
      ms.Perm (Json.without top (Json.setMember "cluster" (.object cs) p.toJson.members)) →
      (Json.object ms).IsDocument text →
      files.lookup path = .file (.ofText (String.ofList text)) →
      load files path = .ok (p.reset top inner)) ∧
    (∀ (files : FileStore) (path : String),
      files.lookup path = .file (.ofText (p.remaining top inner).pretty) →
      load files path = .ok (p.reset top inner)) ∧
    (∀ (files : FileStore) (path : String),
      files.lookup path = .file (.ofText p.write) → load files path = .ok p) ∧
    (p.cluster.timeoutMs = none → "operation_timeout_ms" ∉ inner → "cluster" ∉ top →
      ("operation_timeout_ms", .null) ∈ Json.without inner p.cluster.toJson.members ∧
      (p.reset top inner).cluster.timeoutMs = none) ∧
    ("operation_timeout_ms" ∈ inner → (p.reset top inner).cluster.timeoutMs = some 30000) := by
  refine ⟨?_, ?_, ?_, ?_, ?_⟩
  · intro files path cs ms text hcs hms htext hfile
    exact load_of_isDocument htext (ofJson?_without hp hcs hms) hfile
  · intro files path hfile
    exact load_pretty hp hfile
  · intro files path hfile
    rw [write, ← remaining_nil] at hfile
    rw [load_pretty hp hfile, reset_nil]
  · intro hnone hinner htop
    constructor
    · rw [Json.without, List.mem_filter]
      refine ⟨?_, decide_eq_true hinner⟩
      simp [Settings.toJson, Json.members, hnone, Json.ofOption]
    · rw [cluster_reset, if_neg htop, Settings.timeoutMs_reset, if_neg hinner, hnone]
  · intro hinner
    rw [cluster_reset]
    split
    · rfl
    · rw [Settings.timeoutMs_reset, if_pos hinner]

/-- Preferences with the greatest number, characters that are escaped, and no time limit. -/
def unusual : Preferences :=
  { workers := 7, maxRows := 18446744073709551615, format := .csv,
    cluster := { protocol := "\"T\\\n", basePort := 9000, timeoutMs := none } }

/-- Without the number of workers and the port, the time limit is null and stays none. -/
theorem load_remaining_unusual : unusual.Fits ∧ ∃ files : FileStore,
    files.lookup "cli.json" =
      .file (.ofText (unusual.remaining ["workers"] ["base_port"]).pretty) ∧
    load files "cli.json" =
      .ok { unusual with workers := 2, cluster := { unusual.cluster with basePort := 4000 } } := by
  have hfits : unusual.Fits := ⟨by decide, by decide, ⟨by decide, nofun, by decide⟩⟩
  obtain ⟨-, hload, -⟩ := load_remaining unusual ["workers"] ["base_port"] hfits
  exact ⟨hfits, ⟨[("cli.json", .ofText _)]⟩, rfl, hload _ _ rfl⟩

end Preferences

end ShardQuery
