import Warabi.Json.Text

/-! The collaborators the provider calls and never implements: backends and their regions,
transfer managers, migration handles, the factories that create them, the engine's address
lookup and the REMI file-set calls. Their answers come from an environment `Env`; each call a
handler makes is also recorded as a `Call`, with the registry locks held at that moment. -/
namespace Warabi

/-- A backend object as the registry holds it (`std::shared_ptr<Backend>`): its identity,
and what its `name()` and `getConfig()` return. -/
structure Backend where
  ident : Nat
  name : String
  config : String
deriving DecidableEq, Repr

/-- A transfer manager object, with what its `name()` and `getConfig()` return. -/
structure TransferManager where
  ident : Nat
  name : String
  config : String
deriving DecidableEq, Repr

/-- A region handle returned by a backend, with the length the region was created with. -/
structure Region where
  id : RegionID
  size : UInt64
deriving DecidableEq, Repr

/-- What a migration handle exposes: the root its files are relative to, and the files (a
trailing `/` marks a directory). -/
structure MigrationHandle where
  root : String
  files : List String
deriving DecidableEq, Repr

structure Endpoint where
  address : String
deriving DecidableEq, Repr

/-- A client's exposed memory (`thallium::bulk`), passed through to a transfer manager. -/
structure Bulk where
  handle : Nat
deriving DecidableEq, Repr

/-- `TargetFactory`: what each registered backend type does with a configuration. -/
structure TargetFactory where
  validateConfig : String → Json → Except String Unit
  createTarget : String → Json → Except String Backend
  recoverTarget : String → Json → List String → Except String Backend

structure TransferManagerFactory where
  validateConfig : String → Json → Except String Unit
  createTransferManager : String → Json → Except String TransferManager

/-- A REMI file set as the source driver builds it: its migration class, its root, the
entries registered in it, its metadata and its block transfer size. -/
structure Fileset where
  cls : String
  root : String
  files : List String
  metadata : List (String × String)
  xferSize : UInt64
deriving DecidableEq, Repr

/-- The return codes of the REMI calls of the source driver; `0` is `REMI_SUCCESS`. The
migration answers both the return code and the status the destination reported. -/
structure Remi where
  providerHandleCreate : Endpoint → UInt16 → Int
  filesetCreate : String → String → Int
  registerDirectory : String → Int
  registerFile : String → Int
  registerMetadata : String → String → Int
  setXferSize : UInt64 → Int
  migrate : Fileset → String → Int × Int

/-- The answers of every collaborator. A backend or transfer manager call may throw. -/
structure Env where
  targetFactory : TargetFactory
  transferManagerFactory : TransferManagerFactory
  lookup : String → Except Exception Endpoint
  destroy : Backend → Except Exception (Result Bool)
  create : Backend → UInt64 → Except Exception (Result (Option Region))
  write : Backend → RegionID → Bool → Except Exception (Result (Option Region))
  read : Backend → RegionID → Except Exception (Result (Option Region))
  erase : Backend → RegionID → Except Exception (Result Bool)
  startMigration : Backend → Bool → Except Exception (Result (Option MigrationHandle))
  regionWrite : Region → List Span → List UInt8 → Bool → Except Exception (Result Bool)
  regionRead : Region → List Span → Nat → Except Exception (Result Bool × List UInt8)
  regionPersist : Region → List Span → Except Exception (Result Bool)
  pull : TransferManager → Region → List Span → Bulk → Endpoint → UInt64 → Bool →
    Except Exception (Result Bool)
  push : TransferManager → Region → List Span → Bulk → Endpoint → UInt64 →
    Except Exception (Result Bool)
  remi : Remi

/-- A reference environment in which every collaborator succeeds. The target factory knows
the type `memory` and the manager factory the type `__default__`; both accept any
configuration and create objects that report their type and configuration back. Regions have
the largest length a `size_t` holds. -/
def Env.accepting : Env where
  targetFactory :=
    { validateConfig := fun type _ => if type = "memory" then .ok () else .error "unknown target type"
      createTarget := fun type config =>
        if type = "memory" then .ok ⟨0,type,config.dump⟩ else .error "unknown target type"
      recoverTarget := fun type config files =>
        if type = "memory" then .ok ⟨files.length,type,config.dump⟩ else .error "unknown target type" }
  transferManagerFactory :=
    { validateConfig := fun type _ =>
        if type = "__default__" then .ok () else .error "unknown transfer manager type"
      createTransferManager := fun type config =>
        if type = "__default__" then .ok ⟨0,type,config.dump⟩ else .error "unknown transfer manager type" }
  lookup := fun address => .ok ⟨address⟩
  destroy := fun _ => .ok default
  create := fun _ size => .ok (.ok (some ⟨⟨[]⟩,size⟩))
  write := fun _ region _ => .ok (.ok (some ⟨region,UInt64.ofNat (2 ^ 64 - 1)⟩))
  read := fun _ region => .ok (.ok (some ⟨region,UInt64.ofNat (2 ^ 64 - 1)⟩))
  erase := fun _ _ => .ok default
  startMigration := fun b _ => .ok (.ok (some ⟨"/tmp/" ++ b.name,[]⟩))
  regionWrite := fun _ _ _ _ => .ok default
  regionRead := fun _ _ capacity => .ok (default,List.replicate capacity 0)
  regionPersist := fun _ _ => .ok default
  pull := fun _ _ _ _ _ _ _ => .ok default
  push := fun _ _ _ _ _ _ => .ok default
  remi := ⟨fun _ _ => 0,fun _ _ => 0,fun _ => 0,fun _ => 0,fun _ _ => 0,fun _ => 0,fun _ _ => (0,0)⟩

inductive Mutex where
  | targets
  | transferManagers
deriving DecidableEq, Repr

/-- A call to a collaborator. `regionWrite` records the bytes behind the pointer it is given,
and `regionRead` the capacity of the buffer it writes into. -/
inductive Call where
  | lookup (address : String)
  | name (b : Backend)
  | getConfig (b : Backend)
  | destroy (b : Backend)
  | create (b : Backend) (size : UInt64)
  | write (b : Backend) (region : RegionID) (persist : Bool)
  | read (b : Backend) (region : RegionID)
  | erase (b : Backend) (region : RegionID)
  | startMigration (b : Backend) (removeSource : Bool)
  | regionWrite (r : Region) (spans : List Span) (source : List UInt8) (persist : Bool)
  | regionRead (r : Region) (spans : List Span) (capacity : Nat)
  | regionPersist (r : Region) (spans : List Span)
  | pull (tm : TransferManager) (r : Region) (spans : List Span) (persist : Bool)
  | push (tm : TransferManager) (r : Region) (spans : List Span)
  | managerName (tm : TransferManager)
  | managerConfig (tm : TransferManager)
  | cancel (mh : MigrationHandle)
  | releaseHandle (mh : MigrationHandle)
  | providerHandleCreate (dest : Endpoint) (providerId : UInt16)
  | providerHandleRelease
  | filesetCreate (cls root : String)
  | registerDirectory (dir : String)
  | registerFile (file : String)
  | registerMetadata (key value : String)
  | setXferSize (size : UInt64)
  | migrate (fileset : Fileset) (newRoot : String)
  | filesetFree
deriving DecidableEq, Repr

inductive FactoryCall where
  | validateTarget (type : String) (config : Json)
  | createTarget (type : String) (config : Json)
  | validateTransferManager (type : String) (config : Json)
  | createTransferManager (type : String) (config : Json)
deriving DecidableEq, Repr

end Warabi
