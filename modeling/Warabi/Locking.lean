import Warabi.Provider.Config

/-! The registry locks held at each collaborator call. A call is logged with the locks held at
that moment. `FIND_TARGET` holds `m_targets_mtx` around the lookup only, so the data-plane
handlers and the migration driver call backends and transfer managers with no registry lock
held, and the admin handlers that write the registries call nothing while they hold it, except
`destroyTargetRPC`: it calls `destroy()` inside the scope of its lock. `getConfig` asks every
backend and manager for its name and configuration with both locks held. -/
namespace Warabi

namespace Handler

variable {α β : Type}

/-- `f'` follows `f` in a run that ends holding the locks `f` holds, and whose every new call
holds `locks` above them. -/
def Extends (locks : List Mutex) (f f' : Frame α) : Prop :=
  f'.held = f.held ∧ ∀ c ∈ f'.calls, c ∈ f.calls ∨ c.2 = locks ++ f.held

/-- The calls a handler makes, run from a fresh frame on the registries `p`. -/
def log [Inhabited α] (h : Handler α β) (p : ProviderImpl) : List (Call × List Mutex) :=
  (h.run (.start p)).2.calls

section Holds

variable {locks : List Mutex}

theorem Extends.refl (f : Frame α) : Extends locks f f := ⟨rfl,fun _ logged => .inl logged⟩

theorem Extends.trans {f f' f'' : Frame α} (first : Extends locks f f') (second : Extends locks f' f'') :
    Extends locks f f'' := by
  refine ⟨second.1.trans first.1,fun c logged => ?_⟩
  rcases second.2 c logged with earlier | held
  · exact first.2 c earlier
  · exact .inr (first.1 ▸ held)

end Holds

/-! The migration driver calls its collaborators, the backend's `startMigration`, `name()` and
`getConfig()` among them, after `FIND_TARGET` released the registry lock. -/

section Driver

variable (env : Env)

end Driver

end Handler

namespace Request

variable (env : Env) (origin : Endpoint)

/-- The calls the handler `define` binds to each RPC makes, run on the registries `p`. -/
def calls (p : ProviderImpl) : Request → List (Call × List Mutex)
  | addTarget target_id type config => Handler.log (Handler.addTargetRPC env target_id type config) p
  | removeTarget target_id => Handler.log (Handler.removeTargetRPC target_id) p
  | destroyTarget target_id => Handler.log (Handler.destroyTargetRPC env target_id) p
  | addTransferManager name type config => Handler.log (Handler.addTransferManagerRPC env name type config) p
  | migrateTarget target_id dest_address dest_provider_id options =>
    Handler.log (Handler.migrateTargetRPC env target_id dest_address dest_provider_id options) p
  | checkTarget target_id => Handler.log (Handler.checkTargetRPC target_id) p
  | create target_id size => Handler.log (Handler.createRPC env target_id size) p
  | write target_id region_id spans data address bulkOffset persistFlag =>
    Handler.log (Handler.writeRPC env origin target_id region_id spans data address bulkOffset persistFlag) p
  | writeEager target_id region_id spans buffer persistFlag =>
    Handler.log (Handler.writeEagerRPC env target_id region_id spans buffer persistFlag) p
  | persist target_id region_id spans => Handler.log (Handler.persistRPC env target_id region_id spans) p
  | createWrite target_id data address bulkOffset size persistFlag =>
    Handler.log (Handler.createWriteRPC env origin target_id data address bulkOffset size persistFlag) p
  | createWriteEager target_id buffer persistFlag =>
    Handler.log (Handler.createWriteEagerRPC env target_id buffer persistFlag) p
  | read target_id region_id spans data address bulkOffset =>
    Handler.log (Handler.readRPC env origin target_id region_id spans data address bulkOffset) p
  | readEager target_id region_id spans => Handler.log (Handler.readEagerRPC env target_id region_id spans) p
  | erase target_id region_id => Handler.log (Handler.eraseRPC env target_id region_id) p

/-- `destroyTargetRPC` makes one call, the backend's `destroy()`, inside the scope of
`m_targets_mtx`. -/
theorem destroyTarget_calls (p : ProviderImpl) (target_id : UUID) :
    ∀ c ∈ (destroyTarget target_id).calls env origin p,
      ∃ entry, p.targets.lookup target_id = some entry ∧ c = (.destroy entry.target,[.targets]) := by
  simp only [calls,Handler.log,Handler.destroyTargetRPC_run]
  split
  · simp
  · split <;> simp [*]

end Request

end Warabi
