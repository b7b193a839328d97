import ZanGuard.Api.Management
import ZanGuard.Engine.Engine
import ZanGuard.Lib.Sessions

/-! The schema endpoints of the API server, which keeps a registry beside the engine's. -/

namespace ZanGuard.Api

/-- The engine, and the server's own registry of sources and compiled schemas. -/
structure Server (P : Type) where
  eng : Engine P
  schemas : StringMap (List UInt8)
  compiled : StringMap (CompiledSchema P)

/-- What both schema endpoints answer with. -/
structure SchemaResponse where
  tenantID : String
  hash : String
  version : String
  source : List UInt8
  /-- The instant, before it is formatted. -/
  compiledAt : Time
  deriving DecidableEq

variable {V P : Type}

/-- A server that was just started. -/
def Server.new (cfg : Config) : Server P :=
  { eng := .new cfg, schemas := ∅, compiled := ∅ }

/-- The answer for a source and the schema it was compiled to. -/
def schemaResponse (tenantID : String) (data : List UInt8) (cs : CompiledSchema P) :
    SchemaResponse :=
  { tenantID, hash := cs.hash, version := cs.version, source := data, compiledAt := cs.compiledAt }

/-- `GET /api/v1/tenants/{tenantID}/schema`: both maps are read under one lock. -/
def handleGetSchema (server : Server P) (tenantID : String) : Except Failure SchemaResponse :=
  match server.schemas.lookup tenantID, server.compiled.lookup tenantID with
  | none, _ => .error (.text 404 ("no schema loaded for tenant " ++ tenantID))
  -- The two maps are set together, so the handler reads the second one unchecked.
  | some _, none => .error .nilPointer
  | some data, some cs => .ok (schemaResponse tenantID data cs)

/-- What a handler asks of the store, the engine and the registry, each under a lock of its own. -/
inductive ServerCall (P : Type) where
  | getTenant (tenantID : String)
  | loadSchema (tenantID : String) (cs : CompiledSchema P)
  | register (tenantID : String) (data : List UInt8) (cs : CompiledSchema P)

/-- What such a call returns. -/
def ServerCall.Answer (V : Type) : ServerCall P → Type
  | .getTenant _ => Tenant V
  | .loadSchema _ _ => Unit
  | .register _ _ _ => Unit

/-- Parse, compile and validate an uploaded source. -/
def compileUpload (yaml : YamlDecoder) (lang : ExprLang V P) (data : List UInt8) (now : Time) :
    Except Failure (CompiledSchema P) := do
  let raw ← (parse yaml data).mapError (.schema 422 "parse error: ")
  let cs ← (compile lang raw data now).mapError (.schema 422 "compile error: ")
  match validate cs with
  | [] => return cs
  | causes => throw (.details 422 "schema validation failed" causes)

/-- The body of an upload, the tenant it is for, and the clock reading of its compilation. -/
structure Upload where
  tenantID : String
  data : List UInt8
  now : Time

/-- Handlers of the server, one call after the other. -/
abbrev HandlerM (V P : Type) :=
  ExceptT Failure (Transaction.Script (ServerCall P) (ServerCall.Answer V) Err)

/-- Send a call, and answer with the status of its error when it fails. -/
def ask (call : ServerCall P) : HandlerM V P (call.Answer V) :=
  (Transaction.auto call).adapt fun cause => .err (errStatus cause) cause

/-- `PUT /api/v1/tenants/{tenantID}/schema`: the engine is told first, and the registry after it. -/
def handleLoadSchema (yaml : YamlDecoder) (lang : ExprLang V P) (upload : Upload) :
    HandlerM V P SchemaResponse := do
  let _ ← ask (.getTenant upload.tenantID)
  -- Compiling takes no lock, and other uploads may get ahead meanwhile.
  let cs ← ExceptT.mk (pure (compileUpload yaml lang upload.data upload.now))
  let _ ← ask (.loadSchema upload.tenantID cs)
  let _ ← ask (.register upload.tenantID upload.data cs)
  return schemaResponse upload.tenantID upload.data cs

/-- Answer one call; whether the store knows the tenant is up to the environment. -/
def Server.answer (found : Except Err (Tenant V)) (server : Server P) :
    (request : Transaction.Request (ServerCall P)) →
      Option (request.Reply (ServerCall.Answer V) Err × Server P)
  | .auto (.getTenant _) => some (found, server)
  | .auto (.loadSchema tenantID cs) =>
    some (.ok (), { server with eng := server.eng.loadSchema tenantID cs })
  | .auto (.register tenantID data cs) =>
    some (.ok (), { server with
      schemas := server.schemas.insert tenantID data
      compiled := server.compiled.insert tenantID cs })
  -- Nothing here is done in a transaction.
  | .start | .exec _ | .commit | .rollback => none

/-- Any number of uploads at once. -/
def uploads (yaml : YamlDecoder) (lang : ExprLang V P) (ι : Type) :
    Transaction.Protocol ι (Except Err (Tenant V)) (ServerCall P) (Server P) Err Unit Upload
      (Except Failure SchemaResponse) (ServerCall.Answer V) where
  serve _ found server request := server.answer found request
  script _ upload := (handleLoadSchema yaml lang upload).run
  finish _ _ _ := ()

end ZanGuard.Api
