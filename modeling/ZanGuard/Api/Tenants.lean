import ZanGuard.Api.Changelog

/-! The tenant listing endpoint on the in-memory store. -/

namespace ZanGuard.Api

variable {V : Type}

/-- The query of `GET /api/v1/tenants`; an absent parameter reads as an empty text. -/
structure ListTenantsQuery where
  status : String := ""
  parentID : String := ""
  limit : String := ""
  offset : String := ""

/-- An integer parameter that must not be negative, and is zero when it is absent. -/
def optionalInt (raw name : String) : Except Failure Int :=
  if raw = "" then .ok 0 else parseNonNegativeInt raw name

/-- The filter a query asks for. -/
def ListTenantsQuery.filter (query : ListTenantsQuery) : Except Failure TenantFilter := do
  let limit ← optionalInt query.limit "limit"
  let offset ← optionalInt query.offset "offset"
  return { status := .ofText query.status, parentID := query.parentID, limit, offset }

/-- `GET /api/v1/tenants`: list the tenants a query asks for. -/
def handleListTenants (s : Memory.Store V) (query : ListTenantsQuery) :
    Except Failure (List (Tenant V)) := do
  let filter ← query.filter
  match s.listTenants (some filter) with
  | .ok tenants => return tenants
  -- The panic of the store ends the handler as well.
  | .error .sliceBounds => throw .sliceBounds
  | .error cause => throw (.err 500 cause)

end ZanGuard.Api
