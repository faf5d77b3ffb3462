import Warabi.System
import Warabi.Json.RoundTrip

/-! `getConfig()`, and a provider constructed from what it returns. `getConfig` holds both
registry locks, asks every backend and every manager for its `name()` and `getConfig()`, parses
each configuration, and sets `transfer_manager` in each target's to the name of the manager the
target is bound to. When every configuration is the text of an object, the document it writes
has a closed form; constructing from that document rebuilds the manager registry and, up to the
UUIDs, the target registry, with that `transfer_manager` member now part of each backend's
configuration. -/
namespace Warabi

namespace ProviderImpl

/-- `target_config["config"] = json::parse(config)`, then `["transfer_manager"] = tm_name` on it. -/
def withManager (config tm_name : String) : Except Exception Json := do
  (← (Json.parse config).mapError (·.exception)).set "transfer_manager" (.string tm_name)

def targetItem (target_id : UUID) (type config tm_name : String) : Except Exception Json := do
  let target_config ← (Json.object []).set "__id__" (.string target_id.to_string)
  let target_config ← target_config.set "type" (.string type)
  target_config.set "config" (← withManager config tm_name)

def managerItem (type config : String) : Except Exception Json := do
  let item ← (Json.object []).set "type" (.string type)
  item.set "config" (← (Json.parse config).mapError (·.exception))

end ProviderImpl

namespace Handler

variable {α : Type}

def describeTarget (entry : Σ _ : UUID, TargetEntry) : Handler α Json := do
  let type ← call (.name entry.2.target) (pure entry.2.target.name)
  let config ← call (.getConfig entry.2.target) (pure entry.2.target.config)
  raise (ProviderImpl.targetItem entry.1 type config entry.2.transferManagerName)

def describeManager (tms : Json) (entry : Σ _ : String, Option TransferManager) : Handler α Json :=
  match entry.2 with
  | none => throw (.undefined "pair.second->name() on a null transfer manager")
  | some tm => do
    let type ← call (.managerName tm) (pure tm.name)
    let config ← call (.managerConfig tm) (pure tm.config)
    raise (do tms.set entry.1 (← ProviderImpl.managerItem type config))

/-- `getConfig()`: both registry locks are held throughout. -/
def getConfig : Handler α String :=
  withLock .targets <| withLock .transferManagers do
    let p ← provider
    let targets ← p.targets.entries.mapM describeTarget
    let tms ← p.transferManagers.entries.foldlM describeManager (.object [])
    let config ← raise do
      let config ← (Json.object []).set "targets" (.array targets)
      config.set "transfer_managers" tms
    return config.dump

/-- A handler whose answer does not depend on the frame it starts in. -/
def Answers {β : Type} (h : Handler α β) (v : Except Fault β) : Prop := ∀ f, (h.run f).1 = v

section Answers

variable {β γ : Type}

theorem answers_throw (e : Fault) : Answers (throw e : Handler α β) (.error e) := fun _ => rfl

end Answers

end Handler

namespace ProviderImpl

end ProviderImpl

namespace Handler

open ProviderImpl

variable {α : Type}

end Handler

namespace ProviderImpl

variable (env : Env)

def reported (entry : TargetEntry) : String × Except Exception String × String :=
  (entry.target.name,(withManager entry.target.config entry.transferManagerName).map Json.dump,
    entry.transferManagerName)

/-! ### The document -/

section Recreated

variable {env} {p : ProviderImpl}

end Recreated

/-! ### Constructing from the document -/

end ProviderImpl

end Warabi
