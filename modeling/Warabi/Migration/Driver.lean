import Warabi.Provider.Data

/-! The source side of a migration, `migrateTargetRPC`. The REMI provider handle, the migration
handle and the file set are released by `DEFER` or by a destructor on every way out of their
scopes, innermost first; `HANDLE_REMI_ERROR` fails the result and returns. `cancel()` is called
only when the transfer reports a non-zero status. -/
namespace Warabi

/-- `MigrationOptions` (modelled from the spec: `MigrationOptions.hpp` is not among the
sources). -/
structure MigrationOptions where
  newRoot : String
  transferSize : UInt64
  extraConfig : String
  removeSource : Bool
deriving DecidableEq, Repr

namespace Handler

variable {α : Type} (env : Env)

def attempt {β : Type} (c : Call) (answer : Except Exception β) : Handler α (Except Exception β) := do
  modify fun f => { f with calls := f.calls ++ [(c,f.held)] }
  return answer

def remi (c : Call) (rret : Int) : Handler α Int := do
  modify fun f => { f with calls := f.calls ++ [(c,f.held)] }
  return rret

/-- `HANDLE_REMI_ERROR(func, rret, message)` for a failed call: the result is failed with the
message and the call's name and code. The caller then returns. -/
def remiError (func : String) (rret : Int) (message : String) : Handler α Unit :=
  fail (message ++ " (" ++ func ++ " returned " ++ toString rret ++ ")")

/-- A REMI call followed by `HANDLE_REMI_ERROR`: `false` after a failed one. -/
def checked (c : Call) (rret : Int) (func message : String) : Handler α Bool := do
  let rret ← remi c rret
  if rret ≠ 0 then
    remiError func rret message
    return false
  return true

/-- A stage whose failure makes the caller return `stop`: `rest` runs after a successful one. -/
def andThen {β : Type} (stage : Handler α Bool) (stop : β) (rest : Handler α β) : Handler α β := do
  if ← stage then rest else pure stop

def registerEntry (file : String) : Handler Bool Bool :=
  if !file.isEmpty && file.back = '/' then
    checked (.registerDirectory file) (env.remi.registerDirectory file) "remi_fileset_register_directory"
      ("Failed to register directory " ++ file ++ " in REMI fileset")
  else
    checked (.registerFile file) (env.remi.registerFile file) "remi_fileset_register_file"
      ("Failed to register file " ++ file ++ " in REMI fileset")

def registerFiles : List String → Handler Bool Bool
  | [] => return true
  | file :: files => andThen (registerEntry env file) false (registerFiles files)

def registerMetadata (key value : String) : Handler Bool Bool :=
  checked (.registerMetadata key value) (env.remi.registerMetadata key value)
    "remi_fileset_register_metadata" "Failed to register metadata in REMI fileset"

def setXferSize (transferSize : UInt64) : Handler Bool Bool :=
  if transferSize ≠ 0 then
    checked (.setXferSize transferSize) (env.remi.setXferSize transferSize) "remi_fileset_set_xfer_size"
      "Failed to set transfer size for REMI fileset"
  else return true

/-- The file set `remi_fileset_migrate` sends, every registration before it having succeeded:
the handle's root and files, the four metadata fields, and the transfer size (`0`, the
default, when none is set). -/
def builtFileset (remi_class : String) (target_id : UUID) (tg : Backend) (options : MigrationOptions)
    (mh : MigrationHandle) : Fileset :=
  ⟨remi_class,mh.root,mh.files,
    [("uuid",target_id.to_string),("config",tg.config),("type",tg.name),
      ("migration_config",options.extraConfig)],options.transferSize⟩

/-- `remi_fileset_migrate`, then `cancel()` when the destination reports a non-zero status. -/
def transfer (fileset : Fileset) (newRoot : String) (mh : MigrationHandle) : Handler Bool Unit :=
  andThen (checked (.migrate fileset newRoot) (env.remi.migrate fileset newRoot).1 "remi_fileset_migrate"
      "REMI failed to migrate fileset") () do
    let remi_status := (env.remi.migrate fileset newRoot).2
    if remi_status ≠ 0 then
      fail ("Migration failed with status " ++ toString remi_status)
      let _ ← call (.cancel mh) (pure ())

def migrateFileset (remi_class : String) (target_id : UUID) (tg : Backend) (options : MigrationOptions)
    (mh : MigrationHandle) : Handler Bool Unit :=
  andThen (registerFiles env mh.files) () <|
  andThen (registerMetadata env "uuid" target_id.to_string) () <|
  andThen (do registerMetadata env "config" (← call (.getConfig tg) (pure tg.config))) () <|
  andThen (do registerMetadata env "type" (← call (.name tg) (pure tg.name))) () <|
  andThen (registerMetadata env "migration_config" options.extraConfig) () <|
  andThen (setXferSize env options.transferSize) () <|
  transfer env (builtFileset remi_class target_id tg options mh) options.newRoot mh

/-- The part after `startMigration` handed out the handle `mh`, which is released on every way
out of it. -/
def migrateHandle (remi_class : String) (target_id : UUID) (tg : Backend) (options : MigrationOptions)
    (mh : MigrationHandle) : Handler Bool Unit :=
  withCleanup (do let _ ← call (.releaseHandle mh) (pure ())) <|
    andThen (checked (.filesetCreate remi_class mh.root) (env.remi.filesetCreate remi_class mh.root)
        "remi_fileset_create" "Failed to create REMI fileset") () <|
      withCleanup (do let _ ← remi .filesetFree 0) (migrateFileset env remi_class target_id tg options mh)

/-- The part after the REMI provider handle was created, which is released on every way out. -/
def migrateTarget (target_id : UUID) (dest_provider_id : UInt16) (options : MigrationOptions) :
    Handler Bool Unit :=
  withCleanup (do let _ ← remi .providerHandleRelease 0) do
    let some target ← findTarget target_id | return
    let tg := target.target
    let startMigration ← call (.startMigration tg options.removeSource)
      (env.startMigration tg options.removeSource)
    if !startMigration.success then
      fail startMigration.error
    else
      migrateHandle env ("warabi/" ++ toString dest_provider_id) target_id tg options
        (← deref "startMigration.value()" startMigration.value)

def migrateTargetRPC (target_id : UUID) (dest_address : String) (dest_provider_id : UInt16)
    (options : MigrationOptions) : Handler Bool Unit := do
  match ← attempt (.lookup dest_address) (env.lookup dest_address) with
  | .error ex => fail ("Failed to lookup destination address: " ++ ex.what)
  | .ok dest_endpoint =>
    andThen (checked (.providerHandleCreate dest_endpoint dest_provider_id)
        (env.remi.providerHandleCreate dest_endpoint dest_provider_id) "remi_provider_handle_create"
        "Failed to create REMI provider handle") () <|
      migrateTarget env target_id dest_provider_id options

theorem keepsProvider_remi (c : Call) (rret : Int) : KeepsProvider (remi c rret : Handler α Int) :=
  fun _ => rfl

theorem keepsProvider_attempt {β : Type} (c : Call) (answer : Except Exception β) :
    KeepsProvider (attempt c answer : Handler α (Except Exception β)) := fun _ => rfl

theorem keepsProvider_checked (c : Call) (rret : Int) (func message : String) :
    KeepsProvider (checked c rret func message : Handler α Bool) :=
  keepsProvider_bind (keepsProvider_remi c rret) fun _ => by
    unfold remiError
    split
    · exact keepsProvider_bind (keepsProvider_fail _) fun _ => keepsProvider_pure _
    · exact keepsProvider_pure _

theorem keepsProvider_andThen {β : Type} {stage : Handler α Bool} {stop : β} {rest : Handler α β}
    (hs : KeepsProvider stage) (hr : KeepsProvider rest) : KeepsProvider (andThen stage stop rest) :=
  keepsProvider_bind hs fun ok => by
    cases ok
    · exact keepsProvider_pure _
    · exact hr

theorem keepsProvider_registerFiles (files : List String) : KeepsProvider (registerFiles env files) := by
  induction files with
  | nil => exact keepsProvider_pure _
  | cons file files ih =>
    refine keepsProvider_andThen ?_ ih
    unfold registerEntry
    split <;> exact keepsProvider_checked _ _ _ _

theorem keepsProvider_setXferSize (transferSize : UInt64) : KeepsProvider (setXferSize env transferSize) := by
  unfold setXferSize
  split
  · exact keepsProvider_checked _ _ _ _
  · exact keepsProvider_pure _

theorem keepsProvider_transfer (fileset : Fileset) (newRoot : String) (mh : MigrationHandle) :
    KeepsProvider (transfer env fileset newRoot mh) := by
  refine keepsProvider_andThen (keepsProvider_checked _ _ _ _) ?_
  dsimp only
  split
  · exact keepsProvider_bind (keepsProvider_fail _) fun _ =>
      keepsProvider_bind (keepsProvider_call _ _) fun _ => keepsProvider_pure _
  · exact keepsProvider_pure _

theorem keepsProvider_migrateFileset (remi_class : String) (target_id : UUID) (tg : Backend)
    (options : MigrationOptions) (mh : MigrationHandle) :
    KeepsProvider (migrateFileset env remi_class target_id tg options mh) :=
  have metadata := keepsProvider_checked (α := Bool)
  keepsProvider_andThen (keepsProvider_registerFiles env _) <|
  keepsProvider_andThen (metadata _ _ _ _) <|
  keepsProvider_andThen (keepsProvider_bind (keepsProvider_call _ _) fun _ => metadata _ _ _ _) <|
  keepsProvider_andThen (keepsProvider_bind (keepsProvider_call _ _) fun _ => metadata _ _ _ _) <|
  keepsProvider_andThen (metadata _ _ _ _) <|
  keepsProvider_andThen (keepsProvider_setXferSize env _) (keepsProvider_transfer env _ _ _)

theorem keepsProvider_migrateHandle (remi_class : String) (target_id : UUID) (tg : Backend)
    (options : MigrationOptions) (mh : MigrationHandle) :
    KeepsProvider (migrateHandle env remi_class target_id tg options mh) :=
  keepsProvider_withCleanup (keepsProvider_bind (keepsProvider_call _ _) fun _ => keepsProvider_pure _) <|
    keepsProvider_andThen (keepsProvider_checked _ _ _ _) <|
      keepsProvider_withCleanup (keepsProvider_bind (keepsProvider_remi _ _) fun _ => keepsProvider_pure _)
        (keepsProvider_migrateFileset env _ _ _ _ _)

theorem keepsProvider_migrateTarget (target_id : UUID) (dest_provider_id : UInt16)
    (options : MigrationOptions) : KeepsProvider (migrateTarget env target_id dest_provider_id options) := by
  refine keepsProvider_withCleanup (keepsProvider_bind (keepsProvider_remi _ _) fun _ => keepsProvider_pure _) ?_
  refine keepsProvider_bind (keepsProvider_findTarget _) fun target => ?_
  split
  · refine keepsProvider_bind (keepsProvider_call _ _) fun _ => ?_
    split
    · exact keepsProvider_fail _
    · exact keepsProvider_bind (keepsProvider_deref _ _) fun _ => keepsProvider_migrateHandle env _ _ _ _ _
  · exact keepsProvider_pure _

theorem keepsProvider_migrateTargetRPC (target_id : UUID) (dest_address : String)
    (dest_provider_id : UInt16) (options : MigrationOptions) :
    KeepsProvider (migrateTargetRPC env target_id dest_address dest_provider_id options) := by
  refine keepsProvider_bind (keepsProvider_attempt _ _) fun answer => ?_
  split
  · exact keepsProvider_fail _
  · exact keepsProvider_andThen (keepsProvider_checked _ _ _ _) (keepsProvider_migrateTarget env _ _ _)

section LogsFrom

variable {p : ProviderImpl} {Q : Call → Prop}

theorem logsFrom_remi (c : Call) (rret : Int) (hc : Q c) : LogsFrom p Q (remi c rret : Handler α Int) :=
  logsFrom_call c (.ok rret) hc

theorem logsFrom_attempt {β : Type} (c : Call) (answer : Except Exception β) (hc : Q c) :
    LogsFrom p Q (attempt c answer : Handler α (Except Exception β)) :=
  logsFrom_call c (.ok answer) hc

theorem logsFrom_checked (c : Call) (rret : Int) (func message : String) (hc : Q c) :
    LogsFrom p Q (checked c rret func message : Handler α Bool) :=
  logsFrom_bind (logsFrom_remi c rret hc) (keepsProvider_remi c rret) fun _ => by
    unfold remiError
    split
    · exact logsFrom_bind (logsFrom_fail _) (keepsProvider_fail _) fun _ => logsFrom_pure _
    · exact logsFrom_pure _

theorem logsFrom_andThen {β : Type} {stage : Handler α Bool} {stop : β} {rest : Handler α β}
    (hs : LogsFrom p Q stage) (ks : KeepsProvider stage) (hr : LogsFrom p Q rest) :
    LogsFrom p Q (andThen stage stop rest) :=
  logsFrom_bind hs ks fun ok => by
    cases ok
    · exact logsFrom_pure _
    · exact hr

theorem logsFrom_registerFiles (files : List String)
    (registered : ∀ file ∈ files, Q (.registerDirectory file) ∧ Q (.registerFile file)) :
    LogsFrom p Q (registerFiles env files) := by
  induction files with
  | nil => exact logsFrom_pure _
  | cons file files ih =>
    have here := registered file (List.mem_cons_self _ _)
    refine logsFrom_andThen ?_ ?_ (ih fun file' mem => registered file' (List.mem_cons_of_mem _ mem))
    all_goals unfold registerEntry; split
    · exact logsFrom_checked _ _ _ _ here.1
    · exact logsFrom_checked _ _ _ _ here.2
    all_goals exact keepsProvider_checked _ _ _ _

end LogsFrom

/-- The spec's rollback, for one run of the source driver: a handle released under a failed
response was cancelled first. -/
def CancelsOnFailure (run : Except Fault Unit × Frame Bool) : Prop :=
  ∀ mh, .releaseHandle mh ∈ run.2.calls.map Prod.fst → run.2.result.success = false →
    ∃ before after, run.2.calls.map Prod.fst = before ++ .releaseHandle mh :: after ∧ .cancel mh ∈ before

/-- When `remi_fileset_create` fails after `startMigration` handed out its handle,
`HANDLE_REMI_ERROR` returns without `cancel()`, and the handle is released uncancelled. -/
theorem migrateTargetRPC_releases_uncancelled :
    ¬ CancelsOnFailure ((migrateTargetRPC { Env.accepting with remi := { Env.accepting.remi with filesetCreate := fun _ _ => 1 } }
      default "dest" 1 ⟨"/tmp/x",0,"\x7b\x7d",true⟩).run (.start (ProviderImpl.singleTarget default))) := by
  intro cancels
  obtain ⟨before,after,split,cancelled⟩ := cancels ⟨"/tmp/memory",[]⟩ (by decide) (by decide)
  have logged := split ▸ List.mem_append_left _ cancelled
  revert logged
  decide

end Handler

end Warabi
