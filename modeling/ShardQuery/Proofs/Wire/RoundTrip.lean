import ShardQuery.Wire.Frame
import ShardQuery.Proofs.Json.Record

namespace ShardQuery

open Json (bind_eq_of)
open Json.Fields (required_eq optional_eq)

namespace SourceKind

theorem ofName?_shown (k : SourceKind) : ofName? k.name = some k := by
  cases k <;> decide

end SourceKind

namespace ColumnType

theorem mem_all (t : ColumnType) : t ∈ all := by
  cases t with
  | integer t =>
    obtain ⟨s, w⟩ := t
    cases s <;> cases w <;> decide
  | timestamp u => cases u <;> decide
  | duration u => cases u <;> decide
  | _ => decide

theorem ofName?_written (t : ColumnType) : ofName? t.name = some t := by
  have h : ∀ t ∈ all, ofName? t.name = some t := by decide
  exact h t (mem_all t)

end ColumnType

namespace WorkerFiles

theorem plain_toJson (w : WorkerFiles) : w.toJson.Plain (d + 2) := by
  apply Json.plain_object
  · simp
  · simp only [List.forall_mem_cons, List.not_mem_nil, false_implies, implies_true, and_true]
    exact ⟨Json.plain_text (d + 1) w.worker, Json.plain_texts d w.files⟩

theorem ofJson?_toJson (w : WorkerFiles) : ofJson? w.toJson = some w := by
  refine bind_eq_of (Json.fields?_object [] (by simp)) ?_
  refine bind_eq_of (required_eq rfl rfl) ?_
  exact bind_eq_of (required_eq (Json.list?_texts w.files) rfl) rfl

end WorkerFiles

namespace Range

def Fits (r : Range) : Prop := r.start < UInt64.size ∧ r.len < UInt64.size

theorem plain_toJson {r : Range} (h : r.Fits) : r.toJson.Plain (d + 1) := by
  apply Json.plain_object
  · simp
  · simp only [List.forall_mem_cons, List.not_mem_nil, false_implies, implies_true, and_true]
    exact ⟨Json.plain_ofNat d h.1, Json.plain_ofNat d h.2⟩

theorem ofJson?_toJson {r : Range} (h : r.Fits) : ofJson? r.toJson = some r := by
  refine bind_eq_of (Json.fields?_object [] (by simp)) ?_
  refine bind_eq_of (required_eq (Json.word?_ofNat h.1) rfl) ?_
  exact bind_eq_of (required_eq (Json.word?_ofNat h.2) rfl) rfl

end Range

namespace Address

def Fits (a : Address) : Prop := a.port < UInt16.size

theorem plain_toJson {a : Address} (h : a.Fits) : a.toJson.Plain (d + 1) := by
  have hp : a.port < UInt64.size := h.trans (by decide)
  apply Json.plain_object
  · simp
  · simp only [List.forall_mem_cons, List.not_mem_nil, false_implies, implies_true, and_true]
    exact ⟨Json.plain_text d a.workerId, Json.plain_text d a.ip, Json.plain_ofNat d hp⟩

theorem ofJson?_toJson {a : Address} (h : a.Fits) : ofJson? a.toJson = some a := by
  refine bind_eq_of (Json.fields?_object [] (by simp)) ?_
  refine bind_eq_of (required_eq rfl rfl) ?_
  refine bind_eq_of (required_eq rfl rfl) ?_
  exact bind_eq_of (required_eq (Json.natBelow?_ofNat h) rfl) rfl

end Address

namespace Membership

def Fits (m : Membership) : Prop := ∀ a ∈ m.participants, a.Fits

theorem plain_toJson {m : Membership} (h : m.Fits) : m.toJson.Plain (d + 2) :=
  Json.plain_map fun a ha => Address.plain_toJson (h a ha)

theorem ofJson?_toJson {m : Membership} (h : m.Fits) : ofJson? m.toJson = some m := by
  rw [ofJson?, toJson, Json.list?_map fun a ha => Address.ofJson?_toJson (h a ha)]
  rfl

end Membership

namespace TableReference

def Fits (t : TableReference) : Prop :=
  ∀ groups ∈ t.rowGroups, ∀ ids ∈ groups, ∀ i ∈ ids, i < UInt64.size

theorem plain_toJson {t : TableReference} (h : t.Fits) : t.toJson.Plain (d + 4) := by
  apply Json.plain_object
  · simp
  · simp only [List.forall_mem_cons, List.not_mem_nil, false_implies, implies_true, and_true]
    refine ⟨Json.plain_text _ t.name, Json.plain_text _ t.kind.name, Json.plain_texts _ t.locations,
      Json.plain_texts _ t.columnNames, Json.plain_texts _ (t.columnTypes.map ColumnType.name),
      Json.plain_ofOption fun groups hg => ?_, Json.plain_ofOption fun us _ => ?_,
      Json.plain_ofOption fun ws _ => ?_⟩
    · exact Json.plain_map fun ids hi => Json.plain_map fun i hm =>
        Json.plain_ofNat (d + 1) (h groups hg ids hi i hm)
    · exact Json.plain_texts (d + 2) us
    · exact Json.plain_map fun w _ => WorkerFiles.plain_toJson w

theorem kindOfJson?_name (k : SourceKind) : kindOfJson? (.text k.name) = some k :=
  SourceKind.ofName?_shown k

theorem list?_types (ts : List ColumnType) :
    Json.list? typeOfJson? (.texts (ts.map ColumnType.name)) = some ts := by
  rw [Json.texts, List.map_map]
  exact Json.list?_map fun t _ => ColumnType.ofName?_written t

theorem list?_groups {groups : List (List Nat)} (h : ∀ ids ∈ groups, ∀ i ∈ ids, i < UInt64.size) :
    Json.list? (Json.list? Json.word?) (groupsToJson groups) = some groups :=
  Json.list?_map fun ids hi => Json.list?_map fun i hm => Json.word?_ofNat (h ids hi i hm)

theorem ofJson?_toJson {t : TableReference} (h : t.Fits) : ofJson? t.toJson = some t := by
  have hgroups : Json.option? (Json.list? (Json.list? Json.word?))
      (Json.ofOption groupsToJson t.rowGroups) = some t.rowGroups :=
    Json.option?_ofOption (fun groups hg => list?_groups (h groups hg)) fun _ => Json.noConfusion
  have huris : Json.option? (Json.list? Json.text?) (Json.ofOption Json.texts t.uris) =
      some t.uris :=
    Json.option?_ofOption (fun us _ => Json.list?_texts us) fun _ => Json.noConfusion
  have hmapping : Json.option? (Json.list? WorkerFiles.ofJson?)
      (Json.ofOption (fun ws => .list (ws.map WorkerFiles.toJson)) t.mapping) = some t.mapping :=
    Json.option?_ofOption (fun ws _ => Json.list?_map fun w _ => WorkerFiles.ofJson?_toJson w)
      fun _ => Json.noConfusion
  refine bind_eq_of (Json.fields?_object [] (by simp)) ?_
  refine bind_eq_of (required_eq rfl rfl) ?_
  refine bind_eq_of (required_eq (kindOfJson?_name t.kind) rfl) ?_
  refine bind_eq_of (required_eq (Json.list?_texts t.locations) rfl) ?_
  refine bind_eq_of (required_eq (Json.list?_texts t.columnNames) rfl) ?_
  refine bind_eq_of (required_eq (list?_types t.columnTypes) rfl) ?_
  apply bind_eq_of (optional_eq hgroups rfl)
  apply bind_eq_of (optional_eq huris rfl)
  exact bind_eq_of (optional_eq hmapping rfl) rfl

end TableReference

namespace Slice

def Fits (s : Slice) : Prop := s.table.Fits ∧ s.offset.Fits

theorem plain_toJson {s : Slice} (h : s.Fits) : s.toJson.Plain (d + 5) := by
  apply Json.plain_object
  · simp
  · simp only [List.forall_mem_cons, List.not_mem_nil, false_implies, implies_true, and_true]
    exact ⟨TableReference.plain_toJson h.1, Range.plain_toJson h.2,
      Json.plain_ofOption fun w _ => Json.plain_text _ w⟩

theorem ofJson?_toJson {s : Slice} (h : s.Fits) : ofJson? s.toJson = some s := by
  have hworker : Json.option? Json.text? (Json.ofOption Json.text s.worker) = some s.worker :=
    Json.option?_ofOption (fun _ _ => rfl) fun _ => Json.noConfusion
  refine bind_eq_of (Json.fields?_object [] (by simp)) ?_
  refine bind_eq_of (required_eq (TableReference.ofJson?_toJson h.1) rfl) ?_
  refine bind_eq_of (required_eq (Range.ofJson?_toJson h.2) rfl) ?_
  exact bind_eq_of (optional_eq hworker rfl) rfl

end Slice

namespace ParticipantId

def Fits (p : ParticipantId) : Prop := p.number < UInt32.size

theorem plain_toJson {p : ParticipantId} (h : p.Fits) : p.toJson.Plain d :=
  Json.plain_ofNat d (h.trans (by decide))

theorem ofJson?_toJson {p : ParticipantId} (h : p.Fits) : ofJson? p.toJson = some p := by
  rw [ofJson?, toJson, Json.natBelow?_ofNat h]
  rfl

end ParticipantId

namespace CorrelationToken

def Fits (t : CorrelationToken) : Prop := t.number < UInt64.size

theorem plain_toJson {t : CorrelationToken} (h : t.Fits) : t.toJson.Plain d :=
  Json.plain_ofNat d h

theorem ofJson?_toJson {t : CorrelationToken} (h : t.Fits) : ofJson? t.toJson = some t := by
  rw [ofJson?, toJson, Json.word?_ofNat h]
  rfl

end CorrelationToken

namespace Frame

theorem parts?_write {seq : Nat} (hs : seq < UInt64.size) (operation : String)
    {fields : List (String × Json)}
    (hn : ("seq" :: "operation" :: fields.map Prod.fst).Nodup)
    (hp : ∀ f ∈ fields, f.2.Plain 100) :
    parts? (write seq operation fields) =
      some ⟨seq, .object (("operation", .text operation) :: fields)⟩ := by
  have hbody : (Json.object (("operation", .text operation) :: fields)).Plain 101 :=
    Json.plain_object hn.of_cons (List.forall_mem_cons.2 ⟨Json.plain_text 100 operation, hp⟩)
  have hall : (Json.object (("seq", .ofNat seq) :: ("operation", .text operation) :: fields)).Plain
      101 :=
    Json.plain_object hn (List.forall_mem_cons.2 ⟨Json.plain_ofNat 100 hs,
      List.forall_mem_cons.2 ⟨Json.plain_text 100 operation, hp⟩⟩)
  have hrest : (("operation", Json.text operation) :: fields).filter (·.1 ≠ "seq") =
      ("operation", .text operation) :: fields := by
    rw [List.filter_eq_self]
    intro f hf
    rw [decide_eq_true_eq]
    rintro he
    exact (List.nodup_cons.1 hn).1 (List.mem_map.2 ⟨f, hf, he⟩)
  refine bind_eq_of (Json.read?_compact hall.exact
    (lt_of_le_of_lt hall.depth_le (by decide))) ?_
  refine bind_eq_of (Json.field?_of_mem hn List.mem_cons_self) ?_
  apply bind_eq_of rfl
  refine bind_eq_of (Json.word?_ofNat hs) ?_
  rw [List.filter_cons_of_neg (by simp), hrest, hbody.lastWins_eq]

theorem read_write {ofFields? : String → Json → Option α} {seq : Nat} (hs : seq < UInt64.size)
    {operation : String} {fields : List (String × Json)}
    (hn : ("seq" :: "operation" :: fields.map Prod.fst).Nodup)
    (hp : ∀ f ∈ fields, f.2.Plain 100)
    (hm : ofFields? operation (.object (("operation", .text operation) :: fields)) = some m) :
    read ofFields? (write seq operation fields) = .ok (seq, .ok m) := by
  rw [read, parts?_write hs operation hn hp]
  have ho : operation? (.object (("operation", .text operation) :: fields)) = some operation := by
    rw [operation?, List.lookup_cons_self]
    rfl
  simp only [ho, hm]

end Frame

namespace Request

def Fits : Request → Prop
  | createContext self members => self.Fits ∧ members.Fits
  | createFromSource slice => slice.Fits
  | runQuery token _ _ => token.Fits
  | createTable _ _ | dropTable _ => True

theorem nodup_fields (r : Request) : ("seq" :: "operation" :: r.fields.map Prod.fst).Nodup := by
  cases r <;> simp [fields]

theorem plain_fields {r : Request} (h : r.Fits) : ∀ f ∈ r.fields, f.2.Plain 100 := by
  cases r with
  | createContext self members =>
    simp only [fields, List.forall_mem_cons, List.not_mem_nil, false_implies, implies_true,
      and_true]
    exact ⟨ParticipantId.plain_toJson h.1, Membership.plain_toJson h.2⟩
  | createTable name id =>
    simp only [fields, List.forall_mem_cons, List.not_mem_nil, false_implies, implies_true,
      and_true]
    exact ⟨Json.plain_text 100 name, Json.plain_text 100 id.text⟩
  | createFromSource slice =>
    simp only [fields, List.forall_mem_cons, List.not_mem_nil, false_implies, implies_true,
      and_true]
    exact Slice.plain_toJson h
  | dropTable name =>
    simp only [fields, List.forall_mem_cons, List.not_mem_nil, false_implies, implies_true,
      and_true]
    exact Json.plain_text 100 name
  | runQuery token id query =>
    simp only [fields, List.forall_mem_cons, List.not_mem_nil, false_implies, implies_true,
      and_true]
    exact ⟨CorrelationToken.plain_toJson h, Json.plain_text 100 id.text, Json.plain_text 100 query⟩

theorem ofFields?_fields {r : Request} (h : r.Fits) :
    ofFields? r.operation (.object (("operation", .text r.operation) :: r.fields)) = some r := by
  have hf := Json.fields?_object [("operation", Json.text r.operation)] (nodup_fields r).of_cons
  cases r with
  | createContext self members =>
    simp only [ofFields?, operation, ↓reduceIte]
    apply bind_eq_of hf
    refine bind_eq_of (required_eq (ParticipantId.ofJson?_toJson h.1) rfl) ?_
    exact bind_eq_of (required_eq (Membership.ofJson?_toJson h.2) rfl) rfl
  | createTable name id =>
    simp only [ofFields?, operation, String.reduceEq, ↓reduceIte]
    apply bind_eq_of hf
    refine bind_eq_of (required_eq rfl rfl) ?_
    exact bind_eq_of (required_eq rfl rfl) rfl
  | createFromSource slice =>
    simp only [ofFields?, operation, String.reduceEq, ↓reduceIte]
    apply bind_eq_of hf
    exact bind_eq_of (required_eq (Slice.ofJson?_toJson h) rfl) rfl
  | dropTable name =>
    simp only [ofFields?, operation, String.reduceEq, ↓reduceIte]
    apply bind_eq_of hf
    exact bind_eq_of (required_eq rfl rfl) rfl
  | runQuery token id query =>
    simp only [ofFields?, operation, String.reduceEq, ↓reduceIte]
    apply bind_eq_of hf
    refine bind_eq_of (required_eq (CorrelationToken.ofJson?_toJson h) rfl) ?_
    refine bind_eq_of (required_eq rfl rfl) ?_
    exact bind_eq_of (required_eq rfl rfl) rfl

end Request

namespace Reply

def Fits : Reply → Prop
  | queryRan token _ => token.Fits
  | contextCreated | tableCreated | tableDropped | failed _ => True

theorem nodup_fields (r : Reply) : ("seq" :: "operation" :: r.fields.map Prod.fst).Nodup := by
  cases r <;> simp [fields]

theorem plain_fields {r : Reply} (h : r.Fits) : ∀ f ∈ r.fields, f.2.Plain 100 := by
  cases r with
  | queryRan token id =>
    simp only [fields, List.forall_mem_cons, List.not_mem_nil, false_implies, implies_true,
      and_true]
    exact ⟨CorrelationToken.plain_toJson h, Json.plain_text 100 id.text⟩
  | failed reason =>
    simp only [fields, List.forall_mem_cons, List.not_mem_nil, false_implies, implies_true,
      and_true]
    exact Json.plain_text 100 reason
  | contextCreated | tableCreated | tableDropped =>
    intro f hf
    cases hf

theorem ofFields?_fields {r : Reply} (h : r.Fits) :
    ofFields? r.operation (.object (("operation", .text r.operation) :: r.fields)) = some r := by
  have hf := Json.fields?_object [("operation", Json.text r.operation)] (nodup_fields r).of_cons
  cases r with
  | contextCreated => simp only [ofFields?, operation, ↓reduceIte]
  | tableCreated => simp only [ofFields?, operation, String.reduceEq, ↓reduceIte]
  | tableDropped => simp only [ofFields?, operation, String.reduceEq, ↓reduceIte]
  | queryRan token id =>
    simp only [ofFields?, operation, String.reduceEq, ↓reduceIte]
    apply bind_eq_of hf
    refine bind_eq_of (required_eq (CorrelationToken.ofJson?_toJson h) rfl) ?_
    exact bind_eq_of (required_eq rfl rfl) rfl
  | failed reason =>
    simp only [ofFields?, operation, String.reduceEq, ↓reduceIte]
    apply bind_eq_of hf
    exact bind_eq_of (required_eq rfl rfl) rfl

end Reply

/-- Every message comes out of its frame as it went in, under the number it went in with. -/
theorem Frame.read_write_message :
    (∀ (seq : UInt64) (r : Request), r.Fits →
      Request.read (r.write seq.toNat) = .ok (seq.toNat, .ok r)) ∧
    ∀ (seq : UInt64) (r : Reply), r.Fits →
      Reply.read (r.write seq.toNat) = .ok (seq.toNat, .ok r) := by
  refine ⟨fun seq r h => ?_, fun seq r h => ?_⟩
  · exact Frame.read_write seq.toNat_lt r.nodup_fields (Request.plain_fields h)
      (Request.ofFields?_fields h)
  · exact Frame.read_write seq.toNat_lt r.nodup_fields (Reply.plain_fields h)
      (Reply.ofFields?_fields h)

/-- A slice with the greatest row group, and names with quotes and control characters. -/
def Slice.extreme : Slice where
  table :=
    { name := "a\"\\\n\x01é", kind := .parquet, locations := ["😀.parquet", ""]
      columnNames := ["\x7f", ""], columnTypes := [.text, .decimal]
      rowGroups := some [[18446744073709551615, 0], []]
      mapping := some [⟨"\t", ["\x00"]⟩] }
  offset := ⟨18446744073709551615, 0⟩
  worker := some "\x1f"

theorem Frame.read_write_extreme :
    (Request.createFromSource Slice.extreme).Fits ∧ (Reply.queryRan ⟨18446744073709551615⟩ ⟨"\x00"⟩).Fits ∧
    Request.read ((Request.createFromSource Slice.extreme).write 18446744073709551615) =
      .ok (18446744073709551615, .ok (.createFromSource Slice.extreme)) ∧
    Reply.read ((Reply.queryRan ⟨18446744073709551615⟩ ⟨"\x00"⟩).write 0) =
      .ok (0, .ok (.queryRan ⟨18446744073709551615⟩ ⟨"\x00"⟩)) := by
  have hs : (Request.createFromSource Slice.extreme).Fits := by
    refine ⟨?_, by decide, by decide⟩
    simp [TableReference.Fits, Slice.extreme, UInt64.size]
  have hr : (Reply.queryRan ⟨18446744073709551615⟩ ⟨"\x00"⟩).Fits := by
    change 18446744073709551615 < UInt64.size
    decide
  exact ⟨hs, hr, Frame.read_write_message.1 18446744073709551615 _ hs,
    Frame.read_write_message.2 0 _ hr⟩

end ShardQuery
