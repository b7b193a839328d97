import Mathlib.Data.Fintype.Basic
import ZanGuard.Lib.Sessions
import ZanGuard.Storage.Postgres
import ZanGuard.Tenant.Manager

/-! Several sessions on one Postgres database, with the transactions they have open. -/

namespace ZanGuard.Postgres

variable {V J ι : Type}

/-! ### What a transaction has changed -/

/-- One change that a statement of a transaction has made. -/
inductive Change (J : Type) where
  | insertTuple (row : TupleRow J)
  | refresh (identity : Identity) (now : Time) (columns : Refresh J)
  | markDeleted (identity : Identity) (now : Time)
  | insertChangelog (row : ChangelogRow J)

/-- Make a change; a row whose identity is taken is left out, and nothing is drawn. -/
def Change.apply (db : Database J) : Change J → Database J
  | .insertTuple row =>
    match db.tuples.insert row with
    | .ok tuples => { db with tuples }
    | .error _ => db
  | .refresh identity now columns =>
    { db with tuples := db.tuples.refresh identity now columns }
  | .markDeleted identity now => { db with tuples := db.tuples.markDeleted identity now }
  | .insertChangelog row =>
    { db with changelog := db.changelog ++ [row] }

/-- The changes a statement makes when it succeeds; a row it does not find is not changed. -/
def Statement.changes (codec : Codec V J) (now : Time) (db : Database J) :
    Statement V → List (Change J)
  | .insertTuple tenantID tuple attrsJSON =>
    match TupleRow.build codec now tenantID tuple attrsJSON with
    | .ok row => [.insertTuple row]
    | .error _ => []
  | .refreshExpiredTuple tenantID tuple attrsJSON =>
    let identity := identityOf tenantID tuple
    match Refresh.build codec now tuple attrsJSON with
    | .ok columns =>
      if db.tuples.rows.any fun row => row.holds identity && row.expired now then
        [.refresh identity now columns]
      else []
    | .error _ => []
  | .insertChangelog tenantID entry metaJSON =>
    match ChangelogRow.build codec now (db.sequence + 1) tenantID entry metaJSON with
    | .ok row => [.insertChangelog row]
    | .error _ => []
  | .deleteTuple tenantID tuple =>
    let identity := identityOf tenantID tuple
    if db.tuples.holds identity then [.markDeleted identity now] else []
  | _ => []

/-- Whether a statement draws a value from the sequence of the changelog. -/
def Statement.draws : Statement V → Bool
  | .insertChangelog _ _ _ => true
  | _ => false

/-- Run a statement; a sequence of 64 bits with a sign ends at some point. -/
def Statement.run (codec : Codec V J) (now : Time) (statement : Statement V) (db : Database J) :
    Except Err (statement.Answer × Database J) :=
  if statement.draws && db.sequence + 1 ≥ 2 ^ 63 then .error (.postgres "2200H")
  else statement.exec codec now db

/-- The server with a sequence that ends, for one client. -/
def boundedServer (codec : Codec V J) (now : Time) :
    Transaction.Server (Statement V) (Database J) Err Statement.Answer :=
  { server codec now with exec := Statement.run codec now }

/-- Run a method alone on that server, and see what it returns and what it has committed. -/
def callAlone {α : Type} (codec : Codec V J) (now : Time) (db : Database J) (method : StoreM V α) :
    Except Err α × Database J :=
  let outcome := Transaction.Client.from (boundedServer codec now) method (.idle db)
  (outcome.1, outcome.2.committed)

/-! ### Sessions -/

/-- The open transaction of a session: when it began, what it has changed, and whether it failed. -/
structure OpenWork (J : Type) where
  began : Time
  changes : List (Change J)
  failed : Bool

/-- What a transaction sees: what is committed by now, and its own changes. -/
def OpenWork.visible (work : OpenWork J) (committed : Database J) : Database J :=
  work.changes.foldl Change.apply committed

/-- What is committed, with the last value drawn from the sequence, and the open transactions. -/
structure Cluster (ι J : Type) where
  committed : Database J
  work : ι → Option (OpenWork J)

/-- The open transaction of a session, unless it has failed and lost its locks. -/
def Cluster.changesOf (g : Cluster ι J) (i : ι) : List (Change J) :=
  match g.work i with
  | none => []
  | some work => if work.failed then [] else work.changes

/-- Whether a change inserts or has locked a row of an identity. -/
def Change.concerns (identity : Identity) : Change J → Bool
  | .insertTuple row => row.identity = identity
  | .refresh changed _ _ => changed = identity
  | .markDeleted changed _ => changed = identity
  | .insertChangelog _ => false

/-- Whether a change has locked a row that was there before. -/
def Change.locks (identity : Identity) : Change J → Bool
  | .insertTuple _ => false
  | change => change.concerns identity

/--
Whether a statement has to wait for the transaction of another session.

An insert waits for whoever has the identity at hand, and an update for whoever has locked its row.
-/
def Statement.waitsFor (committed : Database J) (theirs : List (Change J)) : Statement V → Bool
  | .insertTuple tenantID tuple _ => theirs.any (·.concerns (identityOf tenantID tuple))
  | .refreshExpiredTuple tenantID tuple _ =>
    committed.tuples.holds (identityOf tenantID tuple) &&
      theirs.any (·.locks (identityOf tenantID tuple))
  | .deleteTuple tenantID tuple =>
    committed.tuples.holds (identityOf tenantID tuple) &&
      theirs.any (·.locks (identityOf tenantID tuple))
  | _ => false

/-- What a session does not choose: the time of the server, and whether a request fails. -/
structure Choice where
  now : Time
  failure : Option Err := none

section Serve

variable [DecidableEq ι] (codec : Codec V J) (i : ι) (choice : Choice) (g : Cluster ι J)

/-- Replace the open transaction of a session. -/
def Cluster.setWork (work : Option (OpenWork J)) : Cluster ι J :=
  { g with work := Function.update g.work i work }

/-- Run a statement on its own and commit it. -/
def Cluster.execAuto (statement : Statement V) : Except Err statement.Answer × Cluster ι J :=
  match statement.run codec choice.now g.committed with
  | .error e => (.error e, g)
  | .ok (answer, committed) => (.ok answer, { g with committed })

/-- Run a statement in the open transaction; a value it draws is drawn for everybody. -/
def Cluster.execWithin (work : OpenWork J) (statement : Statement V) :
    Except Err statement.Answer × Cluster ι J :=
  -- Each statement sees what others have committed by now.
  let visible := work.visible g.committed
  match statement.run codec work.began visible with
  | .error e => (.error e, g.setWork i (some { work with failed := true }))
  | .ok (answer, after) =>
    let changes := work.changes ++ statement.changes codec work.began visible
    (.ok answer, { g.setWork i (some { work with changes }) with
      committed := { g.committed with sequence := after.sequence } })

/-- Whether a statement has to wait for somebody else. -/
def Cluster.blocks [Fintype ι] (statement : Statement V) : Bool :=
  decide (∃ j, j ≠ i ∧ statement.waitsFor g.committed (g.changesOf j) = true)

/-- The answer to a request of a session; none while it has to wait. -/
def Cluster.serve [Fintype ι] :
    (request : Transaction.Request (Statement V)) →
      Option (request.Reply Statement.Answer Err × Cluster ι J)
  | .auto statement =>
    match choice.failure with
    | some e => some (.error e, g)
    | none => some (g.execAuto codec choice statement)
  | .start =>
    match choice.failure with
    | some e => some (.error e, g)
    | none =>
      some (.ok (), g.setWork i (some { began := choice.now, changes := [], failed := false }))
  | .exec statement =>
    match g.work i with
    | none => some (.error .txClosed, g)
    | some work =>
      -- After a failure the server accepts nothing but the end of the transaction.
      if work.failed then some (.error (.postgres "25P02"), g)
      else
        match choice.failure with
        | some e => some (.error e, g.setWork i (some { work with failed := true }))
        | none =>
          if g.blocks i statement then none else some (g.execWithin codec i work statement)
  | .commit =>
    match g.work i with
    | none => some (.error .txClosed, g)
    | some work =>
      -- Committing a failed transaction rolls it back.
      if work.failed then some (.error .txCommitRollback, g.setWork i none)
      else
        match choice.failure with
        | some e => some (.error e, g.setWork i none)
        | none =>
          some (.ok (), { g.setWork i none with committed := work.visible g.committed })
  | .rollback =>
    match g.work i with
    | none => some (.error .txClosed, g)
    | some _ => some (.ok (), g.setWork i none)

end Serve

/-! ### Calls -/

/-- The store as the tenant manager sees it, with the clock reading that a creation makes. -/
def tupleStore (config : ConfigCodec V) (now : Time := 0) :
    TupleStore (Transaction.Script (Statement V) Statement.Answer Err) V where
  createTenant tenant := createTenant config tenant now
  getTenant tenantID := getTenant config tenantID
  updateTenant tenant := updateTenant config tenant

/-- What a session does next. -/
inductive Call (V : Type) where
  | writeTuple (ctx : Context V) (tuple : RelationTuple V)
  | writeTuples (ctx : Context V) (tuples : List (RelationTuple V))
  | deleteTuple (ctx : Context V) (tuple : RelationTuple V)
  | appendChangelog (ctx : Context V) (entry : ChangelogEntry V)
  /-- Read what has come after the last entry that was received. -/
  | poll (limit : Int)
  | create (tenantID displayName : String) (mode : SchemaMode) (now : Time)
  | activate (tenantID : String)
  | suspend (tenantID : String)
  | delete (tenantID : String)

/-- What comes of it. -/
inductive CallResult (V : Type) where
  | done (outcome : Except Err Unit)
  | created (outcome : Except Err (Tenant V))
  | entries (outcome : Except Err (List (ChangelogEntry V)))

/-- What a session remembers: whose changelog it reads, where it is, and what it has received. -/
structure Reader (V : Type) where
  ctx : Context V
  lastSeq : UInt64
  received : List (ChangelogEntry V)

/-- What a call asks of the server. -/
def Call.script (codec : Codec V J) (config : ConfigCodec V) (reader : Reader V) :
    Call V → Transaction.Script (Statement V) Statement.Answer Err (CallResult V)
  | .writeTuple ctx tuple => .done <$> (Postgres.writeTuple codec ctx tuple).run
  | .writeTuples ctx tuples => .done <$> (Postgres.writeTuples codec ctx tuples).run
  | .deleteTuple ctx tuple => .done <$> (Postgres.deleteTuple codec ctx tuple).run
  | .appendChangelog ctx entry => .done <$> (Postgres.appendChangelog codec ctx entry).run
  | .poll limit => .entries <$> (readChangelog reader.ctx reader.lastSeq limit).run
  | .create tenantID displayName mode now =>
    .created <$> (Manager.create (tupleStore config now) tenantID displayName mode now).run
  | .activate tenantID => .done <$> (Manager.activate (tupleStore config) tenantID).run
  | .suspend tenantID => .done <$> (Manager.suspend (tupleStore config) tenantID).run
  | .delete tenantID => .done <$> (Manager.delete (tupleStore config) tenantID).run

/-- Take in the entries of a page; the last one of them says where the reader is. -/
def Reader.take (reader : Reader V) : CallResult V → Reader V
  | .entries (.ok page) =>
    -- An empty page leaves the reader where it is.
    { reader with
      lastSeq := page.getLast?.elim reader.lastSeq (·.sequence)
      received := reader.received ++ page }
  | _ => reader

/-- Any number of sessions on one database. -/
def sessions [Fintype ι] [DecidableEq ι] (codec : Codec V J) (config : ConfigCodec V) :
    Transaction.Protocol ι Choice (Statement V) (Cluster ι J) Err (Reader V) (Call V) (CallResult V)
      Statement.Answer where
  serve i choice g request := g.serve codec i choice request
  script reader call := call.script codec config reader
  finish reader _ result := reader.take result

end ZanGuard.Postgres
