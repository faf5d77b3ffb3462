import Warabi.Locking

/-! The collaborators a request reaches. `FIND_TARGET` copies out the entry of the UUID the
request names, and the handler calls that entry's backend and the transfer manager it is bound
to, and no other: a request for one target never reaches another target's backend or manager. -/
namespace Warabi

def Request.target : Request → Option UUID
  | .addTransferManager .. => none
  | .addTarget target_id .. | .removeTarget target_id | .destroyTarget target_id
  | .migrateTarget target_id .. | .checkTarget target_id | .create target_id .. | .write target_id ..
  | .writeEager target_id .. | .persist target_id .. | .createWrite target_id ..
  | .createWriteEager target_id .. | .read target_id .. | .readEager target_id ..
  | .erase target_id .. => some target_id

/-- The calls of the source driver that reach no backend: the address lookup, the REMI calls
but the migration, and the migration handle's. -/
@[reducible] def Call.Plain : Call → Prop
  | .lookup _ | .providerHandleCreate _ _ | .providerHandleRelease | .filesetCreate _ _ | .filesetFree
  | .registerDirectory _ | .registerFile _ | .registerMetadata _ _ | .setXferSize _ | .cancel _
  | .releaseHandle _ => True
  | _ => False

namespace Handler

variable {α β : Type} (env : Env)

/-- A call to a backend is to the one the registries `p` hold under `target_id`, and a call to a
transfer manager to the one that target is bound to. -/
@[reducible] def Addressed (p : ProviderImpl) (target_id : UUID) : Call → Prop
  | .name b | .getConfig b | .destroy b | .create b _ | .write b _ _ | .read b _ | .erase b _
  | .startMigration b _ => ∃ entry, p.targets.lookup target_id = some entry ∧ entry.target = b
  | .pull tm _ _ _ | .push tm _ _ | .managerName tm | .managerConfig tm =>
    ∃ entry, p.targets.lookup target_id = some entry ∧ entry.transferManager = some tm
  | _ => True

section LogsFrom

variable {p : ProviderImpl} {Q : Call → Prop}

theorem logsFrom_deref_bind {γ : Type} {what : String} {b : Option β} {k : β → Handler α γ}
    (hk : ∀ v, b = some v → LogsFrom p Q (k v)) : LogsFrom p Q (deref what b >>= k) := by
  cases b with
  | none => exact fun f _ c logged => .inl (by simpa [deref] using logged)
  | some v => simpa [deref] using hk v rfl

theorem logsFrom_call_bind {γ : Type} {c : Call} {answer : Except Exception β} {k : β → Handler α γ}
    (hc : Q c) (hk : ∀ b, LogsFrom p Q (k b)) : LogsFrom p Q (call c answer >>= k) :=
  logsFrom_bind (logsFrom_call c answer hc) (keepsProvider_call c answer) hk

theorem logsFrom_modify_bind {γ : Type} {g : Frame α → Frame α} {k : Unit → Handler α γ}
    (hg : ∀ f, (g f).provider = f.provider ∧ (g f).calls = f.calls) (hk : LogsFrom p Q (k ())) :
    LogsFrom p Q (modify g >>= k) :=
  logsFrom_bind (logsFrom_modify fun f => (hg f).2) (keepsProvider_modify fun f => (hg f).1) fun _ => hk

theorem logsFrom_source (origin : Endpoint) (address : String) (hc : Q (.lookup address)) :
    LogsFrom p Q (source env origin address : Handler α Endpoint) := by
  unfold source
  split
  · exact logsFrom_pure _
  · exact logsFrom_call _ _ hc

theorem logsFrom_source_bind {γ : Type} {origin : Endpoint} {address : String} {k : Endpoint → Handler α γ}
    (hc : Q (.lookup address)) (hk : ∀ b, LogsFrom p Q (k b)) : LogsFrom p Q (source env origin address >>= k) :=
  logsFrom_bind (logsFrom_source env origin address hc) (keepsProvider_source env origin address) hk

end LogsFrom

section Driver

variable {p : ProviderImpl} {Q : Call → Prop} {target_id : UUID} {entry : TargetEntry}
  {options : MigrationOptions} (plain : ∀ c : Call, c.Plain → Q c)

include plain

theorem logsFrom_transfer_of {fileset : Fileset} {newRoot : String} (mh : MigrationHandle)
    (migrated : Q (.migrate fileset newRoot)) : LogsFrom p Q (transfer env fileset newRoot mh) := by
  refine logsFrom_andThen (logsFrom_checked _ _ _ _ migrated) (keepsProvider_checked _ _ _ _) ?_
  dsimp only
  split
  · exact logsFrom_bind (logsFrom_fail _) (keepsProvider_fail _) fun _ =>
      logsFrom_bind (logsFrom_call _ _ (plain _ trivial)) (keepsProvider_call _ _) fun _ => logsFrom_pure _
  · exact logsFrom_pure _

theorem logsFrom_migrateHandle_of (remi_class : String) (tg : Backend) (mh : MigrationHandle)
    (named : Q (.getConfig tg) ∧ Q (.name tg))
    (migrated : Q (.migrate (builtFileset remi_class target_id tg options mh) options.newRoot)) :
    LogsFrom p Q (migrateHandle env remi_class target_id tg options mh) := by
  have registered : ∀ (c : Call) (value key : String), Q c →
      LogsFrom p Q (do registerMetadata env key (← call c (pure value))) ∧
      KeepsProvider (do registerMetadata env key (← call c (pure value))) := fun _ _ _ hc =>
    ⟨logsFrom_bind (logsFrom_call _ _ hc) (keepsProvider_call _ _) fun _ =>
      logsFrom_checked _ _ _ _ (plain _ trivial),
      keepsProvider_bind (keepsProvider_call _ _) fun _ => keepsProvider_checked _ _ _ _⟩
  have xfer : LogsFrom p Q (setXferSize env options.transferSize) := by
    unfold setXferSize
    split
    · exact logsFrom_checked _ _ _ _ (plain _ trivial)
    · exact logsFrom_pure _
  refine logsFrom_withCleanup (fun _ => logsFrom_bind (logsFrom_call _ _ (plain _ trivial))
      (keepsProvider_call _ _) fun _ => logsFrom_pure _) <|
    logsFrom_andThen (logsFrom_checked _ _ _ _ (plain _ trivial)) (keepsProvider_checked _ _ _ _) <|
      logsFrom_withCleanup (fun _ => logsFrom_bind (logsFrom_remi _ _ (plain _ trivial)) (keepsProvider_remi _ _)
        fun _ => logsFrom_pure _) ?_
  exact logsFrom_andThen (logsFrom_registerFiles env _ fun _ _ => ⟨plain _ trivial,plain _ trivial⟩)
      (keepsProvider_registerFiles env _) <|
    logsFrom_andThen (logsFrom_checked _ _ _ _ (plain _ trivial)) (keepsProvider_checked _ _ _ _) <|
    logsFrom_andThen (registered _ _ _ named.1).1 (registered _ _ _ named.1).2 <|
    logsFrom_andThen (registered _ _ _ named.2).1 (registered _ _ _ named.2).2 <|
    logsFrom_andThen (logsFrom_checked _ _ _ _ (plain _ trivial)) (keepsProvider_checked _ _ _ _) <|
    logsFrom_andThen xfer (keepsProvider_setXferSize env _) (logsFrom_transfer_of env plain mh migrated)

/-- Every call of the source driver, run on the registries `p`, satisfies `Q`, given that
`Q` holds of the calls that reach no backend, and of the calls to the backend `p` holds under
`target_id` and of its migration. -/
theorem logsFrom_migrateTargetRPC_of (dest_address : String) (dest_provider_id : UInt16)
    (backend : ∀ entry, p.targets.lookup target_id = some entry →
      Q (.startMigration entry.target options.removeSource) ∧ Q (.getConfig entry.target) ∧
      Q (.name entry.target) ∧ ∀ mh, Q (.migrate (builtFileset ("warabi/" ++ toString dest_provider_id)
        target_id entry.target options mh) options.newRoot)) :
    LogsFrom p Q (migrateTargetRPC env target_id dest_address dest_provider_id options) := by
  refine logsFrom_bind (logsFrom_attempt _ _ (plain _ trivial)) (keepsProvider_attempt _ _) fun answer => ?_
  split
  · exact logsFrom_fail _
  refine logsFrom_andThen (logsFrom_checked _ _ _ _ (plain _ trivial)) (keepsProvider_checked _ _ _ _) ?_
  unfold migrateTarget
  refine logsFrom_withCleanup (fun _ => logsFrom_bind (logsFrom_remi _ _ (plain _ trivial))
    (keepsProvider_remi _ _) fun _ => logsFrom_pure _) ?_
  refine logsFrom_findTarget_bind (fun entry found => ?_) (logsFrom_pure _)
  obtain ⟨started,configured,named,migrated⟩ := backend entry found
  refine logsFrom_bind (logsFrom_call _ _ started) (keepsProvider_call _ _) fun _ => ?_
  split
  · exact logsFrom_fail _
  · exact logsFrom_bind (logsFrom_deref _ _) (keepsProvider_deref _ _) fun mh =>
      logsFrom_migrateHandle_of env plain _ _ mh ⟨configured,named⟩ (migrated mh)

end Driver

/-- Run on the registries `p`, `h` does not end in the undefined operation `what`. -/
def Avoids (p : ProviderImpl) (what : String) (h : Handler α β) : Prop :=
  ∀ f, f.provider = p → (h.run f).1 ≠ .error (.undefined what)

section Avoids

variable {p : ProviderImpl} {what : String}

theorem avoids_pure (b : β) : Avoids p what (pure b : Handler α β) := fun _ _ => nofun

theorem avoids_modify (g : Frame α → Frame α) : Avoids p what (modify g : Handler α Unit) := fun _ _ => nofun

theorem avoids_call (c : Call) (answer : Except Exception β) : Avoids p what (call c answer : Handler α β) := by
  intro f _
  cases answer <;> simp [Except.mapError]

theorem avoids_remi (c : Call) (rret : Int) : Avoids p what (remi c rret : Handler α Int) :=
  avoids_call c (.ok rret)

theorem avoids_attempt {γ : Type} (c : Call) (answer : Except Exception γ) :
    Avoids p what (attempt c answer : Handler α (Except Exception γ)) :=
  avoids_call c (.ok answer)

theorem avoids_deref {what' : String} (b : Option β) (other : what' ≠ what) :
    Avoids p what (deref what' b : Handler α β) := by
  cases b <;> simp [Avoids,deref,other]

theorem avoids_deref_of_isSome {b : Option β} (present : b.isSome) : Avoids p what (deref what b : Handler α β) := by
  obtain ⟨v,rfl⟩ := Option.isSome_iff_exists.mp present
  exact avoids_pure v

theorem avoids_bind {γ : Type} {x : Handler α β} {g : β → Handler α γ} (hx : Avoids p what x)
    (keeps : KeepsProvider x) (hg : ∀ b, Avoids p what (g b)) : Avoids p what (x >>= g) := by
  intro f held
  simp only [run_bind]
  rcases h : x.run f with ⟨_ | b,f'⟩
  · simpa [h] using hx f held
  · exact hg b f' (by simpa [h,held] using keeps f)

theorem avoids_findTarget_bind {γ : Type} {target_id : UUID} {k : Option TargetEntry → Handler α γ}
    (found : ∀ entry, p.targets.lookup target_id = some entry → Avoids p what (k (some entry)))
    (missing : Avoids p what (k none)) : Avoids p what (findTarget target_id >>= k) := by
  intro f held
  subst held
  rw [run_bind,run_findTarget]
  cases found_entry : f.provider.targets.lookup target_id with
  | none => exact missing _ rfl
  | some entry => exact found entry found_entry f rfl

theorem avoids_call_bind {γ : Type} {c : Call} {answer : Except Exception β} {k : β → Handler α γ}
    (hk : ∀ b, Avoids p what (k b)) : Avoids p what (call c answer >>= k) :=
  avoids_bind (avoids_call c answer) (keepsProvider_call c answer) hk

theorem avoids_modify_bind {γ : Type} {g : Frame α → Frame α} {k : Unit → Handler α γ}
    (hg : ∀ f, (g f).provider = f.provider) (hk : Avoids p what (k ())) : Avoids p what (modify g >>= k) :=
  avoids_bind (avoids_modify g) (keepsProvider_modify hg) fun _ => hk

theorem avoids_deref_bind {γ : Type} {what' : String} {b : Option β} {k : β → Handler α γ}
    (checked : b.isSome ∨ what' ≠ what) (hk : ∀ v, Avoids p what (k v)) : Avoids p what (deref what' b >>= k) := by
  cases b with
  | none =>
    have other : what' ≠ what := checked.resolve_left Bool.false_ne_true
    exact avoids_bind (avoids_deref none other) (keepsProvider_deref _ _) hk
  | some v => simpa [deref] using hk v

theorem avoids_withCleanup {cleanup : Handler α Unit} {body : Handler α β} (hc : ∀ p', Avoids p' what cleanup)
    (hb : Avoids p what body) : Avoids p what (withCleanup cleanup body) := by
  intro f held
  have cleaned := hc _ (body.run f).2 rfl
  rw [run_withCleanup]
  rcases ended : (cleanup.run (body.run f).2).1 with e | _
  · rw [ended] at cleaned
    simpa [SeqRight.seqRight,Except.bind] using cleaned
  · simpa [SeqRight.seqRight,Except.bind] using hb f held

theorem avoids_fail (message : String) : Avoids p what (fail message : Handler α Unit) := avoids_modify _

theorem avoids_setResult (r : Result α) : Avoids p what (setResult r) := avoids_modify _

theorem avoids_source (origin : Endpoint) (address : String) :
    Avoids p what (source env origin address : Handler α Endpoint) := by
  unfold source
  split
  · exact avoids_pure _
  · exact avoids_call _ _

theorem avoids_source_bind {γ : Type} {origin : Endpoint} {address : String} {k : Endpoint → Handler α γ}
    (hk : ∀ b, Avoids p what (k b)) : Avoids p what (source env origin address >>= k) :=
  avoids_bind (avoids_source env origin address) (keepsProvider_source env origin address) hk

theorem avoids_checked (c : Call) (rret : Int) (func message : String) :
    Avoids p what (checked c rret func message : Handler α Bool) :=
  avoids_bind (avoids_call c (.ok rret)) (keepsProvider_remi c rret) fun _ => by
    unfold remiError
    split
    · exact avoids_bind (avoids_fail _) (keepsProvider_fail _) fun _ => avoids_pure _
    · exact avoids_pure _

theorem avoids_andThen {stage : Handler α Bool} {stop : β} {rest : Handler α β} (hs : Avoids p what stage)
    (ks : KeepsProvider stage) (hr : Avoids p what rest) : Avoids p what (andThen stage stop rest) :=
  avoids_bind hs ks fun ok => by
    cases ok
    · exact avoids_pure _
    · exact hr

theorem avoids_registerFiles (files : List String) : Avoids p what (registerFiles env files) := by
  induction files with
  | nil => exact avoids_pure _
  | cons file files ih =>
    refine avoids_andThen ?_ ?_ ih
    all_goals unfold registerEntry; split
    all_goals first | exact avoids_checked _ _ _ _ | exact keepsProvider_checked _ _ _ _

/-- The source driver dereferences one pointer only, the handle of a successful
`startMigration`. -/
theorem avoids_migrateTargetRPC (other : "startMigration.value()" ≠ what) (target_id : UUID)
    (dest_address : String) (dest_provider_id : UInt16) (options : MigrationOptions) :
    Avoids p what (migrateTargetRPC env target_id dest_address dest_provider_id options) := by
  have released : ∀ c, ∀ p', Avoids p' what (do let _ ← remi c 0 : Handler Bool Unit) := fun _ _ =>
    avoids_bind (avoids_remi _ _) (keepsProvider_remi _ _) fun _ => avoids_pure _
  have registered : ∀ (c : Call) (value key : String),
      Avoids p what (do registerMetadata env key (← call c (pure value))) :=
    fun _ _ _ => avoids_call_bind fun _ => avoids_checked _ _ _ _
  have keeps : ∀ (c : Call) (value key : String),
      KeepsProvider (do registerMetadata env key (← call c (pure value))) :=
    fun _ _ _ => keepsProvider_bind (keepsProvider_call _ _) fun _ => keepsProvider_checked _ _ _ _
  have xfer : Avoids p what (setXferSize env options.transferSize) := by
    unfold setXferSize
    split
    · exact avoids_checked _ _ _ _
    · exact avoids_pure _
  refine avoids_bind (avoids_attempt _ _) (keepsProvider_attempt _ _) fun answer => ?_
  split
  · exact avoids_fail _
  refine avoids_andThen (avoids_checked _ _ _ _) (keepsProvider_checked _ _ _ _) ?_
  refine avoids_withCleanup (released _) (avoids_findTarget_bind (fun entry found => ?_) (avoids_pure _))
  refine avoids_call_bind fun _ => ?_
  split
  · exact avoids_fail _
  refine avoids_deref_bind (.inr other) fun mh => ?_
  refine avoids_withCleanup (fun _ => avoids_call_bind fun _ => avoids_pure _) <|
    avoids_andThen (avoids_checked _ _ _ _) (keepsProvider_checked _ _ _ _) <|
    avoids_withCleanup (released _) <|
    avoids_andThen (avoids_registerFiles env _) (keepsProvider_registerFiles env _) <|
    avoids_andThen (avoids_checked _ _ _ _) (keepsProvider_checked _ _ _ _) <|
    avoids_andThen (registered _ _ _) (keeps _ _ _) <| avoids_andThen (registered _ _ _) (keeps _ _ _) <|
    avoids_andThen (avoids_checked _ _ _ _) (keepsProvider_checked _ _ _ _) <|
    avoids_andThen xfer (keepsProvider_setXferSize env _) <|
    avoids_andThen (avoids_checked _ _ _ _) (keepsProvider_checked _ _ _ _) ?_
  dsimp only
  split
  · exact avoids_modify_bind (fun _ => rfl) (avoids_call_bind fun _ => avoids_pure _)
  · exact avoids_pure _

end Avoids

theorem log_of_logsFrom [Inhabited α] {p : ProviderImpl} {Q : Call → Prop} {h : Handler α β}
    (logged : LogsFrom p Q h) : ∀ c ∈ log h p, Q c.1 := fun c mem =>
  (logged (.start p) rfl c mem).resolve_left (List.not_mem_nil _)

end Handler

namespace Request

variable (env : Env) (origin : Endpoint)

/-- Every backend a request calls is the one the registries hold under the UUID the request
names, and every transfer manager it calls is the one that target is bound to. -/
theorem calls_addressed (p : ProviderImpl) (req : Request) :
    ∀ c ∈ req.calls env origin p, ∃ target_id, req.target = some target_id ∧ Handler.Addressed p target_id c.1 := by
  cases req
  case addTransferManager => simp [calls,Handler.log,Handler.addTransferManagerRPC_calls]
  case addTarget => simp [calls,Handler.log,Handler.addTargetRPC_calls]
  case removeTarget =>
    simp only [calls,Handler.log,Handler.removeTargetRPC_run]
    split <;> simp [Frame.start]
  case destroyTarget target_id =>
    intro c logged
    obtain ⟨entry,found,rfl⟩ := destroyTarget_calls env origin p target_id c logged
    exact ⟨target_id,rfl,entry,found,rfl⟩
  case migrateTarget target_id dest_address dest_provider_id options =>
    refine fun c logged => ⟨target_id,rfl,Handler.log_of_logsFrom ?_ c logged⟩
    refine Handler.logsFrom_migrateTargetRPC_of env (fun c plain => ?_) _ _ fun entry found =>
      ⟨⟨entry,found,rfl⟩,⟨entry,found,rfl⟩,⟨entry,found,rfl⟩,fun _ => trivial⟩
    cases c <;> first | exact True.intro | exact plain.elim
  all_goals
    refine fun c logged => ⟨_,rfl,Handler.log_of_logsFrom ?_ c logged⟩
    simp only [Handler.checkTargetRPC,Handler.createRPC,Handler.writeRPC,Handler.writeEagerRPC,
      Handler.persistRPC,Handler.createWriteRPC,Handler.createWriteEagerRPC,Handler.readRPC,
      Handler.readEagerRPC,Handler.eraseRPC,Handler.fail,Handler.setResult]
    repeat' with_reducible first
      | refine Handler.logsFrom_findTarget_bind (fun entry found => ?_) ?_
      | refine Handler.logsFrom_deref_bind fun _ bound => ?_
      | refine Handler.logsFrom_modify_bind (fun _ => ⟨rfl,rfl⟩) ?_
      | refine Handler.logsFrom_source_bind env True.intro fun _ => ?_
      | refine Handler.logsFrom_call_bind ⟨_,found,rfl⟩ fun _ => ?_
      | refine Handler.logsFrom_call_bind ⟨_,found,by assumption⟩ fun _ => ?_
      | refine Handler.logsFrom_call_bind True.intro fun _ => ?_
      | exact Handler.logsFrom_modify fun _ => rfl
      | exact Handler.logsFrom_pure _
      | rw [pure_bind]
      | dsimp only
      | split

theorem calls_addressed_write :
    (Call.pull ⟨0,"__default__","\x7b\x7d"⟩ ⟨⟨[]⟩,UInt64.ofNat (2 ^ 64 - 1)⟩ [(0,1)] false,([] : List Mutex)) ∈
      (write default ⟨[]⟩ [(0,1)] ⟨0⟩ "" 0 false).calls Env.accepting ⟨""⟩ (ProviderImpl.singleTarget default) ∧
    ∃ target_id, (write default ⟨[]⟩ [(0,1)] ⟨0⟩ "" 0 false).target = some target_id ∧
      Handler.Addressed (ProviderImpl.singleTarget default) target_id
        (.pull ⟨0,"__default__","\x7b\x7d"⟩ ⟨⟨[]⟩,UInt64.ofNat (2 ^ 64 - 1)⟩ [(0,1)] false) := by
  have logged : (Call.pull ⟨0,"__default__","\x7b\x7d"⟩ ⟨⟨[]⟩,UInt64.ofNat (2 ^ 64 - 1)⟩ [(0,1)] false,
      ([] : List Mutex)) ∈ (write default ⟨[]⟩ [(0,1)] ⟨0⟩ "" 0 false).calls Env.accepting ⟨""⟩
        (ProviderImpl.singleTarget default) := by
    decide
  exact ⟨logged,calls_addressed Env.accepting ⟨""⟩ _ _ _ logged⟩

/-- In every reachable state no request dereferences a null transfer manager: the entry
`FIND_TARGET` copies out is bound to the manager registered under its name, which is not null. -/
theorem serve_avoids_null_manager
    (created : ∃ tm, env.transferManagerFactory.createTransferManager "__default__" (.object []) = .ok tm)
    {s : System} (reachable : System.Reachable env s) (req : Request) :
    (req.serve env origin s.provider).outcome ≠ .error (.undefined "m_transfer_manager") := by
  have bound := (reachable.consistent env created).bound
  have present : ∀ target_id entry, s.provider.targets.lookup target_id = some entry →
      entry.transferManager.isSome := fun _ _ found => bound.nonnull _ _ (bound.bound _ _ found)
  cases req
  case addTarget target_id type config =>
    obtain ⟨log,ran⟩ := Handler.addTargetRPC_run env s.provider target_id type config
    simp only [serve,Handler.serve,ran]
    rcases s.provider.addTarget env target_id type config with _ | _ <;> simp [Frame.ofMember]
  case removeTarget =>
    simp only [serve,Handler.serve,Handler.removeTargetRPC_run]
    split <;> simp
  case destroyTarget =>
    simp only [serve,Handler.serve,Handler.destroyTargetRPC_run]
    repeat' split
    all_goals simp
  case addTransferManager name type config =>
    obtain ⟨log,ran⟩ := Handler.addTransferManagerRPC_run env s.provider name type config
    simp only [serve,Handler.serve,ran]
    rcases s.provider.addTransferManager env name type config with _ | _ <;> simp [Frame.ofMember]
  case migrateTarget => exact Handler.avoids_migrateTargetRPC env (by decide) _ _ _ _ _ rfl
  all_goals
    refine (?_ : Handler.Avoids s.provider "m_transfer_manager" _) _ rfl
    simp only [Handler.checkTargetRPC,Handler.createRPC,Handler.writeRPC,Handler.writeEagerRPC,
      Handler.persistRPC,Handler.createWriteRPC,Handler.createWriteEagerRPC,Handler.readRPC,
      Handler.readEagerRPC,Handler.eraseRPC,Handler.fail,Handler.setResult]
    repeat' with_reducible first
      | refine Handler.avoids_findTarget_bind (fun entry found => ?_) ?_
      | refine Handler.avoids_deref_bind (.inl (present _ _ found)) fun _ => ?_
      | refine Handler.avoids_deref_bind (.inr (by decide)) fun _ => ?_
      | refine Handler.avoids_modify_bind (fun _ => rfl) ?_
      | refine Handler.avoids_call_bind fun _ => ?_
      | refine Handler.avoids_source_bind env fun _ => ?_
      | exact Handler.avoids_modify _ | exact Handler.avoids_pure _
      | rw [pure_bind]
      | dsimp only
      | split

theorem serve_avoids_null_manager_single_target :
    (∃ tm, Env.accepting.transferManagerFactory.createTransferManager "__default__" (.object []) = .ok tm) ∧
    System.Reachable Env.accepting ⟨ProviderImpl.singleTarget default,[]⟩ ∧
    ∀ req : Request, (req.serve Env.accepting ⟨""⟩ (ProviderImpl.singleTarget default)).outcome ≠
      .error (.undefined "m_transfer_manager") :=
  ⟨⟨_,rfl⟩,System.reachable_singleTarget,
    fun req => serve_avoids_null_manager Env.accepting ⟨""⟩ ⟨_,rfl⟩ System.reachable_singleTarget req⟩

end Request

end Warabi
