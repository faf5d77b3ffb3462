import Warabi.Migration.Driver

/-! The lifetimes of what the source driver acquires: the REMI provider handle, the migration
handle `startMigration` hands out and the REMI file set. Each is released by a `DEFER` or a
destructor placed after the check of its acquisition, so a failed acquisition releases nothing.
The call log is read as a stack of live resources: a call may use only live resources, a
release must be of the innermost live one, and a run of `migrateTargetRPC` ends with none. -/
namespace Warabi

/-- What the source driver holds between acquiring and releasing it. -/
inductive Resource where
  | providerHandle
  | migrationHandle (mh : MigrationHandle)
  | fileset
deriving DecidableEq, Repr

namespace Call

/-- The resource a call acquires, given the collaborators' answers: a provider handle or a file
set when REMI answers `REMI_SUCCESS`, the handle of a successful `startMigration`. -/
def acquires (env : Env) : Call → Option Resource
  | providerHandleCreate dest providerId =>
    if env.remi.providerHandleCreate dest providerId = 0 then some .providerHandle else none
  | startMigration b removeSource =>
    match env.startMigration b removeSource with
    | .ok r => if r.success then r.value.map .migrationHandle else none
    | .error _ => none
  | filesetCreate cls root => if env.remi.filesetCreate cls root = 0 then some .fileset else none
  | _ => none

def releases : Call → Option Resource
  | providerHandleRelease => some .providerHandle
  | releaseHandle mh => some (.migrationHandle mh)
  | filesetFree => some .fileset
  | _ => none

/-- The resources a call works on: the file set for the REMI calls that fill it, the provider
handle and the file set for the migration, the handle for `cancel()`. -/
def uses : Call → List Resource
  | registerDirectory _ | registerFile _ | registerMetadata _ _ | setXferSize _ => [.fileset]
  | migrate _ _ => [.providerHandle,.fileset]
  | cancel mh => [.migrationHandle mh]
  | _ => []

end Call

/-- The resources alive after `calls`, innermost first, starting from `live`; `none` when a call
uses a resource that is not alive or releases one that is not the innermost alive. -/
def lifetimes (env : Env) : List Resource → List Call → Option (List Resource)
  | live, [] => some live
  | live, c :: calls =>
    if ∀ r ∈ c.uses, r ∈ live then
      match c.releases with
      | some r => if live.head? = some r then lifetimes env live.tail calls else none
      | none => lifetimes env ((c.acquires env).toList ++ live) calls
    else none

namespace Handler

variable {α β : Type} (env : Env)

/-- Started with `live` alive, `h` appends calls that use and release only live resources, and
ends with `live'` alive, however it ends. -/
def Moves (live live' : List Resource) (h : Handler α β) : Prop :=
  ∀ f, ∃ new, (h.run f).2.calls = f.calls ++ new ∧ lifetimes env live (new.map Prod.fst) = some live'

section Moves

variable {env} {live live' : List Resource}

theorem moves_of_calls {h : Handler α β} (same : ∀ f, (h.run f).2.calls = f.calls) :
    Moves env live live h :=
  fun f => ⟨[],by simp [same],rfl⟩

theorem moves_pure (b : β) : Moves env live live (pure b : Handler α β) := moves_of_calls fun _ => rfl

theorem moves_throw (e : Fault) : Moves env live live (throw e : Handler α β) :=
  moves_of_calls fun _ => rfl

theorem moves_deref (what : String) (b : Option β) : Moves env live live (deref what b : Handler α β) := by
  cases b
  · exact moves_throw _
  · exact moves_pure _

end Moves

section Driver

variable {live : List Resource}

end Driver

end Handler

end Warabi
