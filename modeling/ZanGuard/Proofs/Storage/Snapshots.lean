import ZanGuard.Lib.Fallible
import ZanGuard.Proofs.Storage.Live
import ZanGuard.Proofs.Storage.Reads

/-! Snapshots: when an export has every field of what is read. -/

namespace ZanGuard

open Memory Postgres

variable {V J : Type}

/-! ### Lists of tuples that are the same -/

section Same

/-- Lists whose elements are in a transitive relation. -/
theorem forall₂_trans {α : Type} {r : α → α → Prop} (trans : ∀ a b c, r a b → r b c → r a c)
    {as bs cs : List α} (first : List.Forall₂ r as bs) (second : List.Forall₂ r bs cs) :
    List.Forall₂ r as cs := by
  -- The induction is on the first relation, which gives the shape of all three lists.
  induction first generalizing cs with
  | nil =>
    cases second
    exact .nil
  | cons here _ ih =>
    cases second with
    | cons there later => exact .cons (trans _ _ _ here there) (ih later)

/-- Every element of the second list stands for one of the first. -/
theorem exists_of_forall₂ {α β : Type} {r : α → β → Prop} {as : List α} {bs : List β}
    (related : List.Forall₂ r as bs) {b : β} (member : b ∈ bs) : ∃ a ∈ as, r a b := by
  induction related with
  | nil => cases member
  | @cons a _ _ _ here _ ih =>
    rcases List.mem_cons.mp member with rfl | later
    · exact ⟨a, List.mem_cons_self, here⟩
    · obtain ⟨other, among, there⟩ := ih later
      exact ⟨other, List.mem_cons_of_mem _ among, there⟩

/-- A tuple is the same as itself. -/
theorem sameTuple_refl (t : RelationTuple V) : SameTuple t t :=
  ⟨rfl, List.Perm.refl _⟩

/-- Tuples that are the same are so the other way around. -/
theorem Postgres.SameTuple.symm {t u : RelationTuple V} (same : SameTuple t u) : SameTuple u t := by
  refine ⟨?_, same.2.symm⟩
  rw [← same.1]

/-- Tuples that are the same as a third are the same. -/
theorem Postgres.SameTuple.trans {t u v : RelationTuple V} (first : SameTuple t u)
    (second : SameTuple u v) : SameTuple t v := by
  refine ⟨?_, first.2.trans second.2⟩
  rw [← first.1, ← second.1]

/-- Tuples of the same list are the same as their own. -/
theorem sameTuples_refl (ts : List (RelationTuple V)) : SameTuples ts ts :=
  ⟨ts, List.Perm.refl _, List.forall₂_same.mpr fun t _ => sameTuple_refl t⟩

end Same

/-! ### What is exported -/

/--
An export has what a read returns: its lines are decoded into the same tuples, in any order.

Where nothing can be read, nothing is exported without an error.
-/
def SnapshotOf (decode : String → Except String (RelationTuple V))
    (read : Except Err (List (RelationTuple V)))
    (exported : Except Err (List String × Except Err Unit)) : Prop :=
  match read with
  | .error _ => ∀ lines, exported ≠ .ok (lines, .ok ())
  | .ok tuples => ∃ lines decoded, exported = .ok (lines, .ok ()) ∧
      lines.mapM decode = .ok decoded ∧ SameTuples decoded tuples

/-- A line is decoded into the tuple it was made of. -/
def Lossless (encode : RelationTuple V → Except String String)
    (decode : String → Except String (RelationTuple V)) : Prop :=
  ∀ t line, encode t = .ok line → ∃ u, decode line = .ok u ∧ SameTuple u t

variable {encode : RelationTuple V → Except String String}
  {decode : String → Except String (RelationTuple V)}

/-- Lines are decoded into the tuples they were made of. -/
theorem Lossless.decoded (lossless : Lossless encode decode) {ts : List (RelationTuple V)}
    {lines : List String} (encoded : ts.mapM encode = .ok lines) :
    ∃ decoded, lines.mapM decode = .ok decoded ∧ List.Forall₂ SameTuple decoded ts := by
  rw [Except.mapM_eq_ok_iff] at encoded
  -- The induction is on the lines, each of which stands for one tuple.
  induction encoded with
  | nil => exact ⟨[], rfl, .nil⟩
  | @cons t line _ _ one _ ih =>
    obtain ⟨u, read, same⟩ := lossless t line one
    obtain ⟨others, later, rest⟩ := ih
    refine ⟨u :: others, ?_, .cons same rest⟩
    rw [List.mapM_cons, read, later]
    rfl

/-- Lines are a snapshot when every tuple is encoded, and what was encoded is what was read. -/
theorem snapshot_iff (lossless : Lossless encode decode) (written tuples : List (RelationTuple V)) :
    (∃ lines decoded, written.mapM encode = .ok lines ∧ lines.mapM decode = .ok decoded ∧
        SameTuples decoded tuples) ↔
      (∀ t ∈ written, ∃ line, encode t = .ok line) ∧ SameTuples written tuples := by
  constructor
  · rintro ⟨lines, decoded, encoded, read, order, permuted, same⟩
    refine ⟨fun t member => Except.mapM_ok_elem encoded member, order, permuted, ?_⟩
    -- What was decoded is what was encoded, up to empty attributes.
    obtain ⟨other, again, original⟩ := lossless.decoded encoded
    obtain rfl := Except.ok.inj (again.symm.trans read)
    have back : List.Forall₂ SameTuple written other :=
      (original.imp fun _ _ one => Postgres.SameTuple.symm one).flip
    exact forall₂_trans (r := SameTuple) (fun _ _ _ => Postgres.SameTuple.trans) back same
  · rintro ⟨each, order, permuted, same⟩
    obtain ⟨lines, encoded⟩ := Except.mapM_ok_of_each each
    obtain ⟨decoded, read, original⟩ := lossless.decoded encoded
    exact ⟨lines, decoded, encoded, read, order, permuted,
      forall₂_trans (r := SameTuple) (fun _ _ _ => Postgres.SameTuple.trans) original same⟩

/-- The in-memory store encodes the live tuples, and stops where one cannot be. -/
theorem encodeTuples_ok_iff {ts : List (RelationTuple V)} {lines : List String} :
    encodeTuples encode ts = (lines, .ok ()) ↔ ts.mapM encode = .ok lines := by
  induction ts generalizing lines with
  | nil => simp [encodeTuples, pure, Except.pure]
  | cons t rest ih =>
    rw [List.mapM_cons, encodeTuples]
    cases encode t with
    | error cause => simp [bind, Except.bind]
    | ok line =>
      have later := @ih
      cases encoded : encodeTuples encode rest with
      | mk others outcome =>
        rw [encoded] at later
        cases ran : rest.mapM encode with
        | ok more =>
          obtain ⟨rfl, rfl⟩ := Prod.mk.inj (later.mpr ran)
          simp [bind, Except.bind, pure, Except.pure]
        | error e =>
          -- What is left cannot be encoded, so it ends with an error.
          have failed : outcome ≠ .ok () := by
            rintro rfl
            cases ran.symm.trans (later.mp rfl)
          simp [bind, Except.bind, failed]

/-! ### The two stores -/

/-- What is left of a tuple when the columns of its provenance are not read. -/
def withoutProvenance (t : RelationTuple V) : RelationTuple V :=
  { t with subjectTenantID := "", sourceSystem := "", externalID := "" }

/-- A tuple comes from this system and this tenant. -/
def Plain (t : RelationTuple V) : Prop :=
  t.subjectTenantID = "" ∧ t.sourceSystem = "" ∧ t.externalID = ""

/-- A plain tuple loses nothing. -/
theorem withoutProvenance_eq_iff {t : RelationTuple V} : withoutProvenance t = t ↔ Plain t := by
  constructor
  · intro same
    rw [← same]
    exact ⟨rfl, rfl, rfl⟩
  · rintro ⟨tenant, source, external⟩
    cases t
    -- The three fields are empty in both.
    cases tenant
    cases source
    cases external
    rfl

/-- Tuples without their provenance are those that were read exactly when they are all plain. -/
theorem sameTuples_withoutProvenance_iff {ts : List (RelationTuple V)} :
    SameTuples (ts.map withoutProvenance) ts ↔ ∀ t ∈ ts, Plain t := by
  constructor
  · rintro ⟨order, permuted, same⟩ t member
    -- The tuple is the same as one that was stripped.
    obtain ⟨stripped, among, alike⟩ := exists_of_forall₂ same (permuted.mem_iff.mpr member)
    obtain ⟨other, -, rfl⟩ := List.mem_map.mp among
    have fields := alike.1
    exact ⟨congrArg RelationTuple.subjectTenantID fields, congrArg RelationTuple.sourceSystem fields,
      congrArg RelationTuple.externalID fields⟩
  · intro plain
    have unchanged : ts.map withoutProvenance = ts := by
      rw [List.map_congr_left fun t member => withoutProvenance_eq_iff.mpr (plain t member),
        List.map_id']
    rw [unchanged]
    exact sameTuples_refl ts

variable {unmarshal : J → Except String (AnyMap V)}

/-- The rows of a database are scanned and encoded, up to the first that cannot be. -/
theorem encodeRows_scanned {rows : List (TupleRow J)} {ts : List (RelationTuple V)}
    (scanned : rows.mapM (TupleRow.scanExported unmarshal) = .ok ts) :
    encodeRows unmarshal encode rows = encodeTuples encode ts := by
  rw [Except.mapM_eq_ok_iff] at scanned
  induction scanned with
  | nil => rfl
  | @cons row t rest others one _ ih =>
    -- A row that is scanned is encoded like its tuple.
    cases encoded : encode t with
    | error cause => simp only [encodeRows, one, encodeTuples, encoded]
    | ok line => simp only [encodeRows, one, encodeTuples, encoded, ih]

/-- A row that cannot be scanned ends an export with an error. -/
theorem encodeRows_error {rows : List (TupleRow J)} {e : Err}
    (failed : rows.mapM (TupleRow.scanExported unmarshal) = .error e) (lines : List String) :
    encodeRows unmarshal encode rows ≠ (lines, .ok ()) := by
  induction rows generalizing lines with
  | nil => cases failed
  | cons row rest ih =>
    rw [List.mapM_cons] at failed
    rw [encodeRows]
    cases scanned : row.scanExported unmarshal with
    | error other => simp
    | ok t =>
      rw [scanned] at failed
      -- The rows before the one that fails may have been written.
      have later : rest.mapM (TupleRow.scanExported unmarshal) = .error e := by
        cases ran : rest.mapM (TupleRow.scanExported unmarshal) with
        | error other => rw [ran] at failed; exact failed
        | ok ts => rw [ran] at failed; cases failed
      cases encoded : encode t with
      | error cause => simp [encoded]
      | ok line =>
        intro whole
        simp only [encoded] at whole
        exact ih later _ (Prod.ext rfl (Prod.mk.inj whole).2)

/-- A row of an export is scanned like one of a read, but for the provenance. -/
theorem scanExported_eq (row : TupleRow J) :
    row.scanExported unmarshal = withoutProvenance <$> row.scan unmarshal := by
  unfold TupleRow.scanExported TupleRow.scan
  -- Both scans fail at the attributes only.
  cases unmarshal row.attributes with
  | ok attributes => rfl
  | error cause => rfl

/-- The rows of a tenant that are neither deleted nor expired. -/
def Postgres.Database.liveRows (db : Database J) (tenantID : String) (now : Time) :
    List (TupleRow J) :=
  db.tuples.rows.filter fun row => row.liveFor tenantID && !row.expired now

/-- A read without a filter and an export select these. -/
theorem select_liveRows (db : Database J) (tenantID : String) (now : Time) :
    db.select now (readTuplesQuery tenantID none) = .ok (db.liveRows tenantID now) ∧
      db.select now (exportQuery tenantID) = .ok (db.liveRows tenantID now) := by
  have each : ∀ query : TupleQuery, query.placeholders = List.range' 1 query.args.length →
      (∀ row : TupleRow J, query.selects tupleColumns now row = true ↔
        row.liveFor tenantID = true ∧ row.expired now = false) →
      db.select now query = .ok (db.liveRows tenantID now) := by
    intro query counted selects
    -- Both queries ask for the rows of the tenant that are neither deleted nor expired.
    refine select_of_counted counted (fun row => ?_) db
    rw [Bool.eq_iff_iff, selects row]
    simp
  obtain ⟨counted, selects⟩ := readTuplesQuery_means (J := J) now tenantID none
  refine ⟨each _ counted fun row => ?_, each _ rfl fun row => countTuplesQuery_selects⟩
  rw [selects]
  simp

/-- Rows that are scanned for a read are scanned for an export as well, up to the provenance. -/
theorem mapM_scanExported (rows : List (TupleRow J)) :
    rows.mapM (TupleRow.scanExported unmarshal) =
      List.map withoutProvenance <$> rows.mapM (TupleRow.scan unmarshal) := by
  induction rows with
  | nil => rfl
  | cons row rest ih =>
    rw [List.mapM_cons, List.mapM_cons, ih, scanExported_eq]
    -- Both passes end at the same row, if at any.
    cases row.scan unmarshal with
    | error e => rfl
    | ok t =>
      cases rest.mapM (TupleRow.scan unmarshal) with
      | error e => rfl
      | ok ts => rfl

/-- Where both the read and the export are refused, nothing is exported. -/
theorem snapshotOf_refused {e : Err} {exported : Except Err (List String × Except Err Unit)}
    (refused : exported = .error e) : SnapshotOf decode (.error e) exported := by
  intro lines
  rw [refused]
  exact nofun

/-- What a readable tenant has in memory is read and exported. -/
theorem memory_reads (encode : RelationTuple V → Except String String) {s : Memory.Store V}
    {tc : TenantContext V} (clock : Clock)
    (readable : s.checkTenantReadable tc.tenantID = .ok ()) :
    s.readTuples (some tc) none clock = .ok (s.live tc.tenantID (clock 0)) ∧
      s.exportTenantSnapshot encode (some tc) clock =
        .ok (encodeTuples encode (s.live tc.tenantID (clock 0))) := by
  constructor
  · simp [Store.readTuples, Store.reading, tenantIDFromCtx, bind, Except.bind, readable, Store.live,
      matchesTupleFilter]
  · simp [Store.exportTenantSnapshot, Store.reading, tenantIDFromCtx, bind, Except.bind, readable,
      Store.live]

/-- An export of the in-memory store is a snapshot when every live tuple can be encoded. -/
theorem memory_snapshot_iff (lossless : Lossless encode decode) (s : Memory.Store V)
    (ctx : Context V) (clock : Clock) :
    SnapshotOf decode (s.readTuples ctx none clock) (s.exportTenantSnapshot encode ctx clock) ↔
      ∀ tc ∈ ctx, s.checkTenantReadable tc.tenantID = .ok () →
        ∀ t ∈ s.live tc.tenantID (clock 0), ∃ line, encode t = .ok line := by
  -- Both methods pass the same guard before they read.
  cases ctx with
  | none =>
    refine ⟨fun _ tc given => ?_, fun _ => snapshotOf_refused rfl⟩
    cases given
  | some tc =>
    cases readable : s.checkTenantReadable tc.tenantID with
    | error e =>
      have refused : ∀ {α : Type} (body : String → Except Err α),
          s.reading (some tc) body = .error e := by
        intro α body
        simp only [Store.reading, tenantIDFromCtx, bind, Except.bind, readable]
      rw [Store.readTuples, refused]
      refine ⟨fun _ other given passed => ?_, fun _ => snapshotOf_refused (refused _)⟩
      obtain rfl := Option.some.inj given
      cases readable.symm.trans passed
    | ok _ =>
      obtain ⟨read, exported⟩ := memory_reads encode clock readable
      -- What is exported is the very list that is read.
      have core := snapshot_iff lossless (s.live tc.tenantID (clock 0)) (s.live tc.tenantID (clock 0))
      rw [read, exported]
      simp only [SnapshotOf, Except.ok.injEq, encodeTuples_ok_iff, core, sameTuples_refl, and_true,
        Option.mem_def, Option.some.injEq, forall_eq', readable, forall_const]

/-- A row whose tuple comes from this system and this tenant. -/
def Postgres.TupleRow.Plain (row : TupleRow J) : Prop :=
  Varchar.coalesce row.subjectTenantID = "" ∧ Varchar.coalesce row.sourceSystem = "" ∧
    Varchar.coalesce row.externalID = ""

/-- A row is scanned when its attributes are decoded, and it is as plain as its tuple. -/
theorem scan_ok {row : TupleRow J} {t : RelationTuple V} (scanned : row.scan unmarshal = .ok t) :
    (∃ attrs, unmarshal row.attributes = .ok attrs) ∧ (ZanGuard.Plain t ↔ row.Plain) := by
  obtain ⟨attrs, decoded, made⟩ := Except.of_bind_ok scanned
  rw [← Except.ok.inj made]
  exact ⟨⟨attrs, Except.of_mapError_ok decoded⟩, Iff.rfl⟩

/-- What a readable tenant has in a database is read and exported. -/
theorem postgres_reads (unmarshal : J → Except String (AnyMap V))
    (encode : RelationTuple V → Except String String) {db : Database J} {tc : TenantContext V}
    (now : Time)
    (readable : db.ensureTenantReadable tc.tenantID = .ok ()) :
    db.readTuples unmarshal (some tc) none now =
        (db.liveRows tc.tenantID now).mapM (TupleRow.scan unmarshal) ∧
      db.exportTenantSnapshot unmarshal encode (some tc) now =
        .ok (encodeRows unmarshal encode (db.liveRows tc.tenantID now)) := by
  obtain ⟨read, exported⟩ := select_liveRows db tc.tenantID now
  constructor
  · simp [Database.readTuples, tenantIDFromCtx, bind, Except.bind, readable, read]
  · simp [Database.exportTenantSnapshot, tenantIDFromCtx, bind, Except.bind, pure, Except.pure,
      readable, exported]

/-- And that of a database is one when every live row can be, and has no provenance. -/
theorem postgres_snapshot_iff (lossless : Lossless encode decode) (db : Database J)
    (ctx : Context V) (now : Time) :
    SnapshotOf decode (db.readTuples unmarshal ctx none now)
        (db.exportTenantSnapshot unmarshal encode ctx now) ↔
      ∀ tc ∈ ctx, db.ensureTenantReadable tc.tenantID = .ok () →
        (∀ row ∈ db.liveRows tc.tenantID now, ∃ attrs, unmarshal row.attributes = .ok attrs) →
        ∀ row ∈ db.liveRows tc.tenantID now, row.Plain ∧
          ∀ t, row.scanExported unmarshal = .ok t → ∃ line, encode t = .ok line := by
  cases ctx with
  | none =>
    refine ⟨fun _ tc given => ?_, fun _ => snapshotOf_refused rfl⟩
    cases given
  | some tc =>
    cases readable : db.ensureTenantReadable tc.tenantID with
    | error e =>
      have refused : db.exportTenantSnapshot unmarshal encode (some tc) now = .error e := by
        simp only [Database.exportTenantSnapshot, tenantIDFromCtx, bind, Except.bind, readable]
      have read : db.readTuples unmarshal (some tc) none now = .error e := by
        simp only [Database.readTuples, tenantIDFromCtx, bind, Except.bind, readable]
      rw [read]
      refine ⟨fun _ other given passed => ?_, fun _ => snapshotOf_refused refused⟩
      obtain rfl := Option.some.inj given
      cases readable.symm.trans passed
    | ok _ =>
      obtain ⟨read, exported⟩ := postgres_reads unmarshal encode now readable
      rw [read, exported]
      simp only [Option.mem_def, Option.some.injEq, forall_eq', readable, forall_const]
      generalize db.liveRows tc.tenantID now = rows
      cases scanned : rows.mapM (TupleRow.scan unmarshal) with
      | error e =>
        -- Some row has attributes that are no JSON object.
        obtain ⟨row, member, _, failed⟩ := Except.mapM_error_iff.mp ⟨e, scanned⟩
        refine ⟨fun _ every => ?_, fun _ lines => ?_⟩
        · obtain ⟨attrs, decoded⟩ := every row member
          rw [TupleRow.scan, decoded] at failed
          cases failed
        · have stripped : rows.mapM (TupleRow.scanExported unmarshal) = .error e := by
            rw [mapM_scanExported, scanned]
            rfl
          simpa using encodeRows_error stripped lines
      | ok ts =>
        have stripped : rows.mapM (TupleRow.scanExported unmarshal) =
            .ok (ts.map withoutProvenance) := by
          rw [mapM_scanExported, scanned]
          rfl
        -- What is exported is what is read, with three fields left out.
        have core := snapshot_iff lossless (ts.map withoutProvenance) ts
        simp only [SnapshotOf, Except.ok.injEq, encodeRows_scanned stripped, encodeTuples_ok_iff,
          core, sameTuples_withoutProvenance_iff]
        rw [Except.mapM_ok_forall_iff stripped, Except.mapM_ok_forall_iff scanned]
        have every : ∀ row ∈ rows, ∃ t, row.scan unmarshal = .ok t :=
          fun row member => Except.mapM_ok_elem scanned member
        constructor
        · rintro ⟨lines, plain⟩ - row member
          obtain ⟨t, one⟩ := every row member
          exact ⟨(scan_ok one).2.mp (plain row member t one), lines row member⟩
        · intro each
          have whole := each fun row member => by
            obtain ⟨t, one⟩ := every row member
            exact (scan_ok one).1
          exact ⟨fun row member => (whole row member).2,
            fun row member t one => (scan_ok one).2.mpr (whole row member).1⟩

/--
An export has every field of what is read exactly when it can be encoded and nothing is left out.

The in-memory store exports whole tuples, a database leaves out where they come from.
-/
theorem snapshots_exact_iff (unmarshal : J → Except String (AnyMap V))
    (encode : RelationTuple V → Except String String)
    (decode : String → Except String (RelationTuple V)) (lossless : Lossless encode decode) :
    (∀ (s : Memory.Store V) (ctx : Context V) (clock : Clock),
      SnapshotOf decode (s.readTuples ctx none clock) (s.exportTenantSnapshot encode ctx clock) ↔
        ∀ tc ∈ ctx, s.checkTenantReadable tc.tenantID = .ok () →
          ∀ t ∈ s.live tc.tenantID (clock 0), ∃ line, encode t = .ok line) ∧
    ∀ (db : Database J) (ctx : Context V) (now : Time),
      SnapshotOf decode (db.readTuples unmarshal ctx none now)
          (db.exportTenantSnapshot unmarshal encode ctx now) ↔
        ∀ tc ∈ ctx, db.ensureTenantReadable tc.tenantID = .ok () →
          (∀ row ∈ db.liveRows tc.tenantID now, ∃ attrs, unmarshal row.attributes = .ok attrs) →
          ∀ row ∈ db.liveRows tc.tenantID now, row.Plain ∧
            ∀ t, row.scanExported unmarshal = .ok t → ∃ line, encode t = .ok line :=
  ⟨memory_snapshot_iff lossless, postgres_snapshot_iff lossless⟩

/-- The line of a grant that expires; empty attributes are left out like nil ones. -/
def annLine : String :=
  "\x7b\"tenant_id\":\"acme\",\"object_type\":\"doc\",\"object_id\":\"1\",\"relation\":\"viewer\"," ++
    "\"subject_type\":\"user\",\"subject_id\":\"ann\"," ++
    "\"expires_at\":\"0001-01-01T00:00:00.000000005Z\"," ++
    "\"created_at\":\"0001-01-01T00:00:00Z\",\"updated_at\":\"0001-01-01T00:00:00Z\"\x7d\n"

/-- An encoder that knows the lines of that grant. -/
def annEncode (t : RelationTuple Bool) : Except String String :=
  if { t with attributes := none } = annTuple ∧ t.attributes.getD ∅ = ∅ then .ok annLine
  else .error "unsupported value"

/-- And its decoder. -/
def annDecode (line : String) : Except String (RelationTuple Bool) :=
  if line = annLine then .ok annTuple else .error "invalid character"

/-- A line of that encoder is decoded into the tuple it was made of. -/
theorem annEncode_lossless : Lossless annEncode annDecode := by
  intro t line encoded
  unfold annEncode at encoded
  split at encoded
  · rename_i same
    -- The one tuple that is encoded comes back.
    obtain rfl := Except.ok.inj encoded
    refine ⟨annTuple, if_pos rfl, ?_, ?_⟩
    · rw [← same.1]
    · rw [SameAttrs, same.2]
      exact List.Perm.refl _
  · cases encoded

/-- The grant is exported whole, from memory and from the database. -/
theorem snapshots_exact_iff_ann :
    SnapshotOf annDecode ((acmeStore [annTuple]).readTuples (some acme) none fun _ => 4)
        ((acmeStore [annTuple]).exportTenantSnapshot annEncode (some acme) fun _ => 4) ∧
      SnapshotOf annDecode (annDatabase.readTuples (fun _ => .ok (some ∅)) (some acme) none 4)
        (annDatabase.exportTenantSnapshot (fun _ => .ok (some ∅)) annEncode (some acme) 4) := by
  obtain ⟨memory, postgres⟩ := snapshots_exact_iff (J := Unit) (fun _ => .ok (some ∅)) annEncode
    annDecode annEncode_lossless
  constructor
  · refine (memory (acmeStore [annTuple]) (some acme) fun _ => 4).mpr ?_
    rintro _ ⟨⟩ - t member
    have listed : (acmeStore [annTuple]).live acme.tenantID 4 = [annTuple] := by decide +kernel
    obtain rfl := List.mem_singleton.mp (listed ▸ member)
    exact ⟨annLine, if_pos ⟨rfl, rfl⟩⟩
  · refine (postgres annDatabase (some acme) 4).mpr ?_
    rintro _ ⟨⟩ - - row member
    have listed : annDatabase.liveRows acme.tenantID 4 = [annRow] := by decide +kernel
    obtain rfl := List.mem_singleton.mp (listed ▸ member)
    refine ⟨⟨rfl, rfl, rfl⟩, fun t scanned => ?_⟩
    obtain rfl := Except.ok.inj scanned
    exact ⟨annLine, if_pos ⟨rfl, rfl⟩⟩

/-- The row of the same grant, taken over from another system. -/
def sourcedRow : TupleRow Unit :=
  { annRow with externalID := some ⟨"hr-17", by decide⟩ }

/-- The database with that row. -/
def sourcedDatabase : Database Unit :=
  { annDatabase with tuples := ⟨[sourcedRow], List.pairwise_singleton _ _⟩ }

/-- Its identifier in the other system is read, but not exported. -/
theorem external_id_not_exported :
    ¬ SnapshotOf annDecode (sourcedDatabase.readTuples (fun _ => .ok (some ∅)) (some acme) none 4)
      (sourcedDatabase.exportTenantSnapshot (fun _ => .ok (some ∅)) annEncode (some acme) 4) := by
  rw [postgres_snapshot_iff annEncode_lossless]
  intro exact
  have listed : sourcedDatabase.liveRows acme.tenantID 4 = [sourcedRow] := by decide +kernel
  have live := exact acme rfl (by decide +kernel) fun row _ => ⟨some ∅, rfl⟩
  rw [listed] at live
  obtain ⟨⟨-, -, external⟩, -⟩ := live sourcedRow (List.mem_singleton_self _)
  exact absurd external (by decide)

end ZanGuard
