import Warabi.Provider.Data

/-! The regions a backend holds across a create-and-write. The backends are not among the
sources, so what a call does to the set of regions is taken from the spec's description of a
backend, and the two handlers are read against it. `createWriteRPC` and `createWriteEagerRPC`
call `create()`, put the new region's ID in the result, then write the payload over the region;
when the write fails they fail the result and return, and the region stays. -/
namespace Warabi

/-- Modelled from the spec (the backends are not among the sources): the regions `b` holds
after a call it answered, from `regions` before it. `create(size)` allocates the region it
returns and `erase(regionID)` removes the one it names; no other call adds or removes one. -/
def Call.holds (env : Env) (b : Backend) (regions : List RegionID) : Call → List RegionID
  | .create b' size =>
    if b' = b then
      match env.create b size with
      | .ok ⟨true,_,some r⟩ => r.id :: regions
      | _ => regions
    else regions
  | .erase b' region =>
    if b' = b then
      match env.erase b region with
      | .ok ⟨true,_,_⟩ => regions.erase region
      | _ => regions
    else regions
  | _ => regions

/-- The regions `b` holds after the calls of a run, from `regions` before it. -/
def holdsAfter (env : Env) (b : Backend) (regions : List RegionID) (calls : List (Call × List Mutex)) :
    List RegionID :=
  calls.foldl (fun regions c => c.1.holds env b regions) regions

/-- How a create-and-write run on the backend `b` can end, from the regions `regions` it held.
`written r` is the answer of the write of the payload into a region `r` that `create(size)`
returned. A response that reports failure carries the error of a failed `create`, with the
regions as they were, or of a failed write, with `r` still allocated. A body that completes with a
successful response returns the ID of `r` after a successful write, and `r` is the one region
added. -/
structure CreateWriteOutcome (env : Env) (b : Backend) (size : UInt64)
    (written : Region → Option (Result Bool)) (regions : List RegionID)
    (run : Except Fault Unit × Frame RegionID) : Prop where
  failed : run.2.result.success = false →
    (∃ region, env.create b size = .ok region ∧ region.success = false ∧ run.2.result.error = region.error ∧
      holdsAfter env b regions run.2.calls = regions) ∨
    (∃ r e w, env.create b size = .ok ⟨true,e,some r⟩ ∧ written r = some w ∧ w.success = false ∧
      run.2.result.error = w.error ∧ holdsAfter env b regions run.2.calls = r.id :: regions)
  succeeded : run.1 = .ok () → run.2.result.success = true →
    ∃ r e w, env.create b size = .ok ⟨true,e,some r⟩ ∧ run.2.result.value = r.id ∧
      written r = some w ∧ w.success = true ∧ holdsAfter env b regions run.2.calls = r.id :: regions

@[simp] theorem holdsAfter_nil (env : Env) (b : Backend) (regions : List RegionID) :
    holdsAfter env b regions [] = regions := rfl

@[simp] theorem holdsAfter_cons (env : Env) (b : Backend) (regions : List RegionID) (c : Call × List Mutex)
    (calls : List (Call × List Mutex)) :
    holdsAfter env b regions (c :: calls) = holdsAfter env b (c.1.holds env b regions) calls := rfl

namespace CreateWriteOutcome

variable {env : Env} {b : Backend} {size : UInt64} {written : Region → Option (Result Bool)}
  {regions : List RegionID}

/-- A body a fault leaves while the result is still successful: neither clause applies. -/
theorem of_fault {fault : Fault} {f : Frame RegionID} (reported : f.result.success = true) :
    CreateWriteOutcome env b size written regions (.error fault,f) :=
  ⟨fun failed => absurd (reported.symm.trans failed) Bool.noConfusion,fun completed => nomatch completed⟩

/-- `create` refused: the result is failed and nothing else was called. -/
theorem of_refused {region : Result (Option Region)} (created : env.create b size = .ok region)
    (refused : region.success = false) {f : Frame RegionID} (reported : f.result.success = false)
    (error : f.result.error = region.error) (calls : f.calls = [(.create b size,[])]) :
    CreateWriteOutcome env b size written regions (.ok (),f) := by
  refine ⟨fun _ => .inl ⟨region,created,refused,error,?_⟩,
    fun _ succeeded => absurd (reported.symm.trans succeeded) Bool.noConfusion⟩
  obtain ⟨_ | _,_,_⟩ := region
  · simp [calls,Call.holds,created]
  · exact absurd refused Bool.noConfusion

/-- `create` returned `r` and the write into it answered `w`: the result is `r`'s ID, failed
with the write's error when `w` reports failure. -/
theorem of_written {r : Region} {e : String} (w : Result Bool) (created : env.create b size = .ok ⟨true,e,some r⟩)
    (write : written r = some w) {f : Frame RegionID}
    (result : f.result = if w.success then .ok r.id else (Result.ok r.id).fail w.error)
    (held : holdsAfter env b regions f.calls = r.id :: regions) :
    CreateWriteOutcome env b size written regions (.ok (),f) := by
  constructor
  · intro failed
    cases succeeded : w.success
    · exact .inr ⟨r,e,w,created,write,succeeded,by simp [result,succeeded,Result.fail],held⟩
    · simp [result,succeeded] at failed
  · intro _ reported
    cases succeeded : w.success
    · simp [result,succeeded] at reported
    · exact ⟨r,e,w,created,by simp [result,succeeded,Result.ok],write,succeeded,held⟩

end CreateWriteOutcome

namespace Handler

variable (env : Env) {p : ProviderImpl} {target_id : UUID} {entry : TargetEntry}

theorem createWriteRPC_outcome (origin : Endpoint) (found : p.targets.lookup target_id = some entry) (data : Bulk)
    (address : String) (bulkOffset size : UInt64) (persist : Bool) (regions : List RegionID) :
    CreateWriteOutcome env entry.target size
      (fun r => do
        let from_ ← (if address.isEmpty then .ok origin else env.lookup address).toOption
        let tm ← entry.transferManager
        (env.pull tm r [(0,size)] data from_ bulkOffset persist).toOption)
      regions ((createWriteRPC env origin target_id data address bulkOffset size persist).run (.start p)) := by
  simp only [createWriteRPC,findTarget,provider,Frame.start,found,deref,fail,setResult,run_bind,
    run_withLock,run_get,run_pure,run_modify,run_call,Except.mapError,List.nil_append,List.tail_cons]
  rcases created : env.create entry.target size with _ | ⟨_ | _,e,_ | r⟩
  all_goals simp only [Bool.not_true,Bool.not_false,Bool.false_eq_true,↓reduceIte,run_bind,run_pure,
    run_throw,run_modify,run_call,run_source,Except.mapError]
  · exact .of_fault rfl
  · exact .of_refused created rfl rfl rfl rfl
  · exact .of_refused created rfl rfl rfl rfl
  · exact .of_fault rfl
  have held : ∀ tm : TransferManager, holdsAfter env entry.target regions
      (([(.create entry.target size,[])] ++ if address.isEmpty then [] else [(.lookup address,[])]) ++
        [(.pull tm r [(0,size)] persist,[])]) = r.id :: regions := by
    intro tm
    split <;> simp [Call.holds,created]
  generalize (if address.isEmpty = true then Except.ok origin else env.lookup address) = answer
  rcases answer with _ | from_
  · exact .of_fault rfl
  cases tm_def : entry.transferManager with
  | none => exact .of_fault rfl
  | some tm =>
    simp only [run_pure]
    rcases pulled : env.pull tm r [(0,size)] data from_ bulkOffset persist with _ | w
    · exact .of_fault rfl
    · cases success : w.success
      all_goals simp only [success,run_modify,run_pure,Bool.false_eq_true,↓reduceIte]
      all_goals refine .of_written w created ?_ ?_ (held tm)
      all_goals simp [pulled,success,Except.toOption,Result.fail]

theorem createWriteEagerRPC_outcome (found : p.targets.lookup target_id = some entry) (buffer : BufferWrapper)
    (persist : Bool) (regions : List RegionID) :
    CreateWriteOutcome env entry.target (UInt64.ofNat buffer.data.length)
      (fun r => (env.regionWrite r [(0,UInt64.ofNat buffer.data.length)] buffer.data persist).toOption)
      regions ((createWriteEagerRPC env target_id buffer persist).run (.start p)) := by
  simp only [createWriteEagerRPC,findTarget,provider,Frame.start,found,deref,fail,setResult,run_bind,
    run_withLock,run_get,run_pure,run_modify,run_call,Except.mapError,List.nil_append,List.tail_cons]
  rcases created : env.create entry.target (UInt64.ofNat buffer.data.length) with _ | ⟨_ | _,e,_ | r⟩
  all_goals simp only [Bool.not_true,Bool.not_false,Bool.false_eq_true,↓reduceIte,run_bind,run_pure,
    run_throw,run_modify,run_call,Except.mapError]
  · exact .of_fault rfl
  · exact .of_refused created rfl rfl rfl rfl
  · exact .of_refused created rfl rfl rfl rfl
  · exact .of_fault rfl
  · rcases write : env.regionWrite r [(0,UInt64.ofNat buffer.data.length)] buffer.data persist with _ | w
    · exact .of_fault rfl
    · cases success : w.success
      all_goals simp only [success,run_modify,run_pure,Bool.false_eq_true,↓reduceIte]
      all_goals refine .of_written w created ?_ ?_ (by simp [Call.holds,created])
      all_goals simp [write,success,Except.toOption,Result.fail]

/-- `create_write` and `create_write_eager` on a registered target: a failed response carries
the error of a failed `create()`, with the backend's regions as they were, or of a failed write,
with the region `create()` returned still allocated. A body that completes with a successful response
returns the ID of the region `create(size)` returned, written by a successful transfer of the
payload over `(0, size)`. -/
theorem create_write_outcomes (origin : Endpoint) (found : p.targets.lookup target_id = some entry)
    (regions : List RegionID) :
    (∀ data address bulkOffset size persist,
      CreateWriteOutcome env entry.target size
        (fun r => do
          let from_ ← (if address.isEmpty then .ok origin else env.lookup address).toOption
          let tm ← entry.transferManager
          (env.pull tm r [(0,size)] data from_ bulkOffset persist).toOption)
        regions ((createWriteRPC env origin target_id data address bulkOffset size persist).run (.start p))) ∧
    (∀ buffer persist,
      CreateWriteOutcome env entry.target (UInt64.ofNat buffer.data.length)
        (fun r => (env.regionWrite r [(0,UInt64.ofNat buffer.data.length)] buffer.data persist).toOption)
        regions ((createWriteEagerRPC env target_id buffer persist).run (.start p))) :=
  ⟨fun data address bulkOffset size persist =>
    createWriteRPC_outcome env origin found data address bulkOffset size persist regions,
    fun buffer persist => createWriteEagerRPC_outcome env found buffer persist regions⟩

theorem create_write_outcomes_single_target :
    let entry : TargetEntry := ⟨⟨0,"memory","\x7b\x7d"⟩,some ⟨0,"__default__","\x7b\x7d"⟩,"__default__"⟩
    (ProviderImpl.singleTarget default).targets.lookup default = some entry ∧
    (∀ data address bulkOffset size persist,
      CreateWriteOutcome Env.accepting entry.target size
        (fun r => do
          let from_ ← (if address.isEmpty then .ok ⟨""⟩ else Env.accepting.lookup address).toOption
          let tm ← entry.transferManager
          (Env.accepting.pull tm r [(0,size)] data from_ bulkOffset persist).toOption)
        [] ((createWriteRPC Env.accepting ⟨""⟩ default data address bulkOffset size persist).run
          (.start (ProviderImpl.singleTarget default)))) ∧
    (∀ buffer persist,
      CreateWriteOutcome Env.accepting entry.target (UInt64.ofNat buffer.data.length)
        (fun r => (Env.accepting.regionWrite r [(0,UInt64.ofNat buffer.data.length)] buffer.data persist).toOption)
        [] ((createWriteEagerRPC Env.accepting default buffer persist).run
          (.start (ProviderImpl.singleTarget default)))) :=
  ⟨AList.lookup_insert _,create_write_outcomes Env.accepting ⟨""⟩ (AList.lookup_insert _) []⟩

/-- A pull that fails after `create()` returned a region: the response reports failure and the
backend holds one region more. -/
theorem create_write_failure_leaves_region :
    let env : Env := { Env.accepting with pull := fun _ _ _ _ _ _ _ => .ok ((default : Result Bool).fail "") }
    let run := (createWriteRPC env ⟨""⟩ default ⟨0⟩ "" 0 8 false).run (.start (ProviderImpl.singleTarget default))
    run.2.result.success = false ∧ holdsAfter env ⟨0,"memory","\x7b\x7d"⟩ [] run.2.calls = [⟨[]⟩] := by
  decide

end Handler

end Warabi
