import SchemaRest.Catalog.Reader

/-!
# Registration

Reading the catalog and registering the endpoints of its tables. A reading that fails leaves the
registry and the last snapshot as they were. Endpoints of tables that are gone stay registered.
-/

namespace SchemaRest.Service

/-- What a registration did: the tables served, and the endpoints that were not there before. -/
structure Report where
  tables : Nat
  added : Nat
  deriving DecidableEq, Repr

/-- The state a registration that fails goes back to. -/
def settled (w : World) : Registration :=
  if w.registry.isEmpty then .unregistered else .registered

/-- Registers the endpoints of a snapshot and keeps it as the last one. -/
def registerSnapshot (s : Catalog.Snapshot) (w : World) : Report × World :=
  let s := s.served
  let (added, registry) := w.registry.registerAll s.endpoints
  (⟨s.tables.length, added⟩,
    { w with registry, catalog := s, registration := .registered })

/-- Reads the catalog and registers what is there. -/
def registerAll (settings : Settings) : Effect Failure Report := fun w =>
  match settings.client.ensureSupported with
  | .error e => (.error e, w)
  | .ok () =>
    match Catalog.readSnapshot (.ofSettings settings) { w with registration := .registering } with
    | (.error e, w) => (.error e, { w with registration := settled w })
    | (.ok s, w) =>
      let (report, w) := registerSnapshot s w
      (.ok report, w)

end SchemaRest.Service
