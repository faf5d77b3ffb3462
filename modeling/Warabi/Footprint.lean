import Warabi.Requests
import Warabi.Runs

/-! The footprint of a request that names a target. Its handler reads the registries only at
that target's entry and at the transfer managers, and writes only that entry. Two requests for
different targets therefore do not interfere: each answers the same and makes the same calls in
either order, and both orders leave the same registries. -/
namespace Warabi

namespace ProviderImpl

/-- `p` and `q` hold the same entry for `target_id` and the same transfer managers. -/
structure AgreeAt (target_id : UUID) (p q : ProviderImpl) : Prop where
  entry : p.targets.lookup target_id = q.targets.lookup target_id
  managers : p.transferManagers = q.transferManagers

/-- `p'` is `p` but for the entry of `target_id`. -/
structure ExceptAt (target_id : UUID) (p p' : ProviderImpl) : Prop where
  managers : p'.transferManagers = p.transferManagers
  others : ∀ v, v ≠ target_id → p'.targets.lookup v = p.targets.lookup v

variable {target_id : UUID} {p q : ProviderImpl}

theorem ExceptAt.of_eq {p' : ProviderImpl} (same : p' = p) : ExceptAt target_id p p' :=
  same ▸ ⟨rfl,fun _ _ => rfl⟩

theorem ExceptAt.trans {p' p'' : ProviderImpl} (first : ExceptAt target_id p p')
    (second : ExceptAt target_id p' p'') : ExceptAt target_id p p'' :=
  ⟨second.managers.trans first.managers,fun v other => (second.others v other).trans (first.others v other)⟩

theorem exceptAt_insert (p : ProviderImpl) (entry : TargetEntry) :
    ExceptAt target_id p { p with targets := p.targets.insert target_id entry } :=
  ⟨rfl,fun _ other => AList.lookup_insert_ne other⟩

theorem exceptAt_erase (p : ProviderImpl) : ExceptAt target_id p { p with targets := p.targets.erase target_id } :=
  ⟨rfl,fun _ other => AList.lookup_erase_ne other⟩

theorem AgreeAt.refl (p : ProviderImpl) : AgreeAt target_id p p := ⟨rfl,rfl⟩

theorem AgreeAt.trans {r : ProviderImpl} (first : AgreeAt target_id p q) (second : AgreeAt target_id q r) :
    AgreeAt target_id p r :=
  ⟨first.entry.trans second.entry,first.managers.trans second.managers⟩

theorem ExceptAt.agreeAt {p' : ProviderImpl} {other : UUID} (outside : ExceptAt target_id p p')
    (distinct : other ≠ target_id) : AgreeAt other p' p :=
  ⟨outside.others other distinct,outside.managers⟩

theorem AgreeAt.insert (agree : AgreeAt target_id p q) (entry : TargetEntry) :
    AgreeAt target_id { p with targets := p.targets.insert target_id entry }
      { q with targets := q.targets.insert target_id entry } :=
  ⟨by simp only [AList.lookup_insert],agree.managers⟩

theorem AgreeAt.erase (agree : AgreeAt target_id p q) :
    AgreeAt target_id { p with targets := p.targets.erase target_id } { q with targets := q.targets.erase target_id } :=
  ⟨by simp only [AList.lookup_erase],agree.managers⟩

variable (env : Env)

theorem addTarget_local (p : ProviderImpl) (target_id : UUID) (target_type target_config : String) :
    ∃ (answer : Except Exception (Result UUID)) (installed : Option TargetEntry), ∀ q : ProviderImpl,
      q.transferManagers = p.transferManagers → q.addTarget env target_id target_type target_config =
        answer.map fun r => (r,installed.elim q fun entry => { q with targets := q.targets.insert target_id entry }) := by
  unfold addTarget addTargetJson
  rcases parsed : Json.parse target_config with e | json_config
  · exact ⟨e.caught.map fun what => (default : Result UUID).fail what,none,fun q _ => by
      simp only [parsed]; cases e <;> rfl⟩
  rcases valid : env.targetFactory.validateConfig target_type json_config with e | ⟨⟩
  · exact ⟨.ok _,none,fun q _ => by simp only [parsed,valid]; rfl⟩
  rcases created : env.targetFactory.createTarget target_type json_config with e | target
  · exact ⟨.ok _,none,fun q _ => by simp only [parsed,valid,created]; rfl⟩
  rcases named : json_config.valueString "transfer_manager" "__default__" with e | tm_name
  · exact ⟨.error e,none,fun q _ => by simp only [parsed,valid,created,named]; rfl⟩
  rcases found : p.transferManagers.lookup tm_name with _ | tm
  · exact ⟨.ok _,none,fun q managers => by simp only [parsed,valid,created,named,bind,Except.bind,managers,found]; rfl⟩
  · exact ⟨.ok _,some ⟨target,tm,tm_name⟩,fun q managers => by
      simp only [parsed,valid,created,named,bind,Except.bind,managers,found]; rfl⟩

end ProviderImpl

namespace Handler

variable {α β : Type} (env : Env) {target_id : UUID}

/-- Two frames a handler for `target_id` cannot tell apart. -/
structure Alike (target_id : UUID) (f g : Frame α) : Prop where
  result : f.result = g.result
  held : f.held = g.held
  calls : f.calls = g.calls
  registries : f.provider.AgreeAt target_id g.provider

/-- `h` reads the registries only at the entry of `target_id` and at the transfer managers, and
writes only that entry. -/
def Footprint (target_id : UUID) (h : Handler α β) : Prop :=
  ∀ f g, Alike target_id f g → (h.run f).1 = (h.run g).1 ∧ Alike target_id (h.run f).2 (h.run g).2 ∧
    f.provider.ExceptAt target_id (h.run f).2.provider

section Footprint

theorem Alike.log {f g : Frame α} (alike : Alike target_id f g) (c : Call) :
    Alike target_id { f with calls := f.calls ++ [(c,f.held)] } { g with calls := g.calls ++ [(c,g.held)] } :=
  { alike with calls := by rw [alike.calls,alike.held] }

theorem footprint_pure (b : β) : Footprint target_id (pure b : Handler α β) :=
  fun _ _ alike => ⟨rfl,alike,.of_eq rfl⟩

theorem footprint_bind {γ : Type} {x : Handler α β} {g : β → Handler α γ} (hx : Footprint target_id x)
    (hg : ∀ b, Footprint target_id (g b)) : Footprint target_id (x >>= g) := by
  intro f f' alike
  obtain ⟨same,alike₁,outside₁⟩ := hx f f' alike
  simp only [run_bind]
  generalize x.run f = r at same alike₁ outside₁ ⊢
  generalize x.run f' = r' at same alike₁ outside₁ ⊢
  obtain ⟨_ | b,f₁⟩ := r <;> obtain ⟨_ | b',f₁'⟩ := r' <;> cases same
  · exact ⟨rfl,alike₁,outside₁⟩
  · obtain ⟨same₂,alike₂,outside₂⟩ := hg b f₁ f₁' alike₁
    exact ⟨same₂,alike₂,outside₁.trans outside₂⟩

theorem footprint_modify {φ : Frame α → Frame α} (hφ : ∀ f g, Alike target_id f g → Alike target_id (φ f) (φ g))
    (keeps : ∀ f, (φ f).provider = f.provider) : Footprint target_id (modify φ : Handler α Unit) :=
  fun f g alike => ⟨rfl,hφ f g alike,.of_eq (keeps f)⟩

theorem footprint_call (c : Call) (answer : Except Exception β) : Footprint target_id (call c answer : Handler α β) := by
  intro f g alike
  rw [run_call,run_call]
  exact ⟨rfl,alike.log c,.of_eq rfl⟩

theorem footprint_withLock {m : Mutex} {body : Handler α β} (hb : Footprint target_id body) :
    Footprint target_id (withLock m body) := by
  intro f g alike
  obtain ⟨same,alike',outside⟩ := hb { f with held := m :: f.held } { g with held := m :: g.held }
    { alike with held := by rw [alike.held] }
  exact ⟨same,{ alike' with held := congrArg List.tail alike'.held },outside⟩

theorem footprint_withCleanup {cleanup : Handler α Unit} {body : Handler α β} (hc : Footprint target_id cleanup)
    (hb : Footprint target_id body) : Footprint target_id (withCleanup cleanup body) := by
  intro f g alike
  obtain ⟨same,alike₁,outside₁⟩ := hb f g alike
  obtain ⟨same₂,alike₂,outside₂⟩ := hc _ _ alike₁
  simp only [run_withCleanup]
  exact ⟨by rw [same,same₂],alike₂,outside₁.trans outside₂⟩

theorem footprint_findTarget : Footprint target_id (findTarget target_id : Handler α (Option TargetEntry)) := by
  intro f g alike
  simp only [run_findTarget,← alike.registries.entry]
  split
  · exact ⟨rfl,alike,.of_eq rfl⟩
  · exact ⟨rfl,{ alike with result := by rw [alike.result] },.of_eq rfl⟩

theorem footprint_fail (message : String) : Footprint target_id (fail message : Handler α Unit) :=
  footprint_modify (fun _ _ alike => { alike with result := by rw [alike.result] }) fun _ => rfl

theorem footprint_setResult (r : Result α) : Footprint target_id (setResult r) :=
  footprint_modify (fun _ _ alike => { alike with result := rfl }) fun _ => rfl

theorem footprint_deref (what : String) (b : Option β) : Footprint target_id (deref what b : Handler α β) := by
  cases b
  · exact fun _ _ alike => ⟨rfl,alike,.of_eq rfl⟩
  · exact footprint_pure _

theorem footprint_source (origin : Endpoint) (address : String) :
    Footprint target_id (source env origin address : Handler α Endpoint) := by
  unfold source
  split
  · exact footprint_pure _
  · exact footprint_call _ _

theorem footprint_remi (c : Call) (rret : Int) : Footprint target_id (remi c rret : Handler α Int) :=
  footprint_bind (footprint_modify (fun _ _ alike => alike.log c) fun _ => rfl) fun _ => footprint_pure _

theorem footprint_attempt {γ : Type} (c : Call) (answer : Except Exception γ) :
    Footprint target_id (attempt c answer : Handler α (Except Exception γ)) :=
  footprint_bind (footprint_modify (fun _ _ alike => alike.log c) fun _ => rfl) fun _ => footprint_pure _

theorem footprint_checked (c : Call) (rret : Int) (func message : String) :
    Footprint target_id (checked c rret func message : Handler α Bool) :=
  footprint_bind (footprint_remi c rret) fun _ => by
    split
    · exact footprint_bind (footprint_fail _) fun _ => footprint_pure _
    · exact footprint_pure _

theorem footprint_andThen {stage : Handler α Bool} {stop : β} {rest : Handler α β}
    (hs : Footprint target_id stage) (hr : Footprint target_id rest) : Footprint target_id (andThen stage stop rest) :=
  footprint_bind hs fun ok => by
    cases ok
    · exact footprint_pure _
    · exact hr

theorem footprint_registerFiles (files : List String) : Footprint target_id (registerFiles env files) := by
  induction files with
  | nil => exact footprint_pure _
  | cons file files ih =>
    refine footprint_andThen ?_ ih
    unfold registerEntry
    split <;> exact footprint_checked _ _ _ _

theorem footprint_migrateTargetRPC (dest_address : String) (dest_provider_id : UInt16)
    (options : MigrationOptions) :
    Footprint target_id (migrateTargetRPC env target_id dest_address dest_provider_id options) := by
  unfold migrateTargetRPC migrateTarget migrateHandle migrateFileset transfer registerMetadata setXferSize
  repeat' with_reducible first
    | exact footprint_checked _ _ _ _ | exact footprint_registerFiles env _
    | exact footprint_pure _ | exact footprint_fail _ | exact footprint_findTarget
    | exact footprint_call _ _ | exact footprint_remi _ _ | exact footprint_attempt _ _
    | exact footprint_deref _ _
    | refine footprint_andThen ?_ ?_
    | refine footprint_withCleanup ?_ ?_
    | refine footprint_bind ?_ fun _ => ?_
    | split
    | dsimp only

theorem Footprint.serve [Inhabited α] [ToPayload α] {h : Handler α Unit} (fp : Footprint target_id h)
    {p q : ProviderImpl} (agree : p.AgreeAt target_id q) :
    ((h.serve p).outcome = (h.serve q).outcome ∧ (h.serve p).success = (h.serve q).success ∧
      (h.serve p).answer = (h.serve q).answer ∧ log h p = log h q) ∧
      (h.serve p).provider.AgreeAt target_id (h.serve q).provider ∧ p.ExceptAt target_id (h.serve p).provider := by
  obtain ⟨same,alike,outside⟩ := fp (.start p) (.start q) ⟨rfl,rfl,rfl,agree⟩
  exact ⟨⟨same,congrArg Result.success alike.result,congrArg Result.valueOrError alike.result,alike.calls⟩,
    alike.registries,outside⟩

end Footprint

end Handler

/-- `p` and `q` hold the same managers, and the same entry under every UUID. -/
structure ProviderImpl.Agree (p q : ProviderImpl) : Prop where
  managers : p.transferManagers = q.transferManagers
  entries : ∀ target_id, p.targets.lookup target_id = q.targets.lookup target_id

namespace Request

variable (env : Env) (origin : Endpoint)

/-- Serving `req` from `p` and from `q` ends the same way, sends the same answer (the success
flag, then the value or the error) and makes the same calls. -/
def SameAnswer (req : Request) (p q : ProviderImpl) : Prop :=
  (req.serve env origin p).outcome = (req.serve env origin q).outcome ∧
    (req.serve env origin p).success = (req.serve env origin q).success ∧
    (req.serve env origin p).answer = (req.serve env origin q).answer ∧
    req.calls env origin p = req.calls env origin q

/-- A request that names a target reads the registries only at that target's entry and at the
managers, and writes only that entry. -/
theorem footprint_serve {req : Request} {target_id : UUID} (named : req.target = some target_id)
    {p q : ProviderImpl} (agree : p.AgreeAt target_id q) :
    req.SameAnswer env origin p q ∧ (req.serve env origin p).provider.AgreeAt target_id (req.serve env origin q).provider ∧
      p.ExceptAt target_id (req.serve env origin p).provider := by
  cases req <;> cases named
  case addTarget type config =>
    obtain ⟨answer,installed,answered⟩ := ProviderImpl.addTarget_local env p target_id type config
    obtain ⟨log₁,ran₁⟩ := Handler.addTargetRPC_run env p target_id type config
    obtain ⟨log₂,ran₂⟩ := Handler.addTargetRPC_run env q target_id type config
    simp only [SameAnswer,serve,calls,Handler.serve,Handler.log,ran₁,ran₂,answered p rfl,
      answered q agree.managers.symm]
    cases answer with
    | error e => exact ⟨⟨rfl,rfl,rfl,rfl⟩,agree,.of_eq rfl⟩
    | ok r =>
      cases installed with
      | none => exact ⟨⟨rfl,rfl,rfl,rfl⟩,agree,.of_eq rfl⟩
      | some entry => exact ⟨⟨rfl,rfl,rfl,rfl⟩,agree.insert entry,ProviderImpl.exceptAt_insert p entry⟩
  case removeTarget =>
    simp only [SameAnswer,serve,calls,Handler.serve,Handler.log,Handler.removeTargetRPC_run]
    have member : target_id ∈ p.targets ↔ target_id ∈ q.targets := by
      rw [← AList.lookup_isSome,← AList.lookup_isSome,agree.entry]
    by_cases present : target_id ∈ p.targets
    · rw [if_pos present,if_pos (member.mp present)]
      exact ⟨⟨rfl,rfl,rfl,rfl⟩,agree.erase,ProviderImpl.exceptAt_erase p⟩
    · rw [if_neg present,if_neg (mt member.mpr present)]
      exact ⟨⟨rfl,rfl,rfl,rfl⟩,agree,.of_eq rfl⟩
  case destroyTarget =>
    simp only [SameAnswer,serve,calls,Handler.serve,Handler.log,Handler.destroyTargetRPC_run,agree.entry]
    split
    · exact ⟨⟨rfl,rfl,rfl,rfl⟩,agree,.of_eq rfl⟩
    · split
      · exact ⟨⟨rfl,rfl,rfl,rfl⟩,agree.erase,ProviderImpl.exceptAt_erase p⟩
      · exact ⟨⟨rfl,rfl,rfl,rfl⟩,agree,.of_eq rfl⟩
  case migrateTarget => exact (Handler.footprint_migrateTargetRPC env _ _ _).serve agree
  case checkTarget => exact (Handler.footprint_bind Handler.footprint_findTarget fun _ => Handler.footprint_pure _).serve agree
  all_goals
    refine Handler.Footprint.serve ?_ agree
    simp only [Handler.createRPC,Handler.writeRPC,Handler.writeEagerRPC,Handler.persistRPC,Handler.createWriteRPC,
      Handler.createWriteEagerRPC,Handler.readRPC,Handler.readEagerRPC,Handler.eraseRPC]
    repeat' with_reducible first
      | refine Handler.footprint_bind ?_ fun _ => ?_
      | exact Handler.footprint_pure _ | exact Handler.footprint_findTarget | exact Handler.footprint_call _ _
      | exact Handler.footprint_deref _ _ | exact Handler.footprint_fail _ | exact Handler.footprint_setResult _
      | exact Handler.footprint_source env _ _
      | exact Handler.footprint_modify (fun _ _ alike => { alike with result := by rw [alike.result] }) fun _ => rfl
      | split

theorem serve_serve_agree {origin₁ origin₂ : Endpoint} {req₁ req₂ : Request} {u₁ u₂ : UUID}
    (named₁ : req₁.target = some u₁) (named₂ : req₂.target = some u₂) (distinct : u₁ ≠ u₂) (p : ProviderImpl) :
    ProviderImpl.Agree (req₂.serve env origin₂ (req₁.serve env origin₁ p).provider).provider
      (req₁.serve env origin₁ (req₂.serve env origin₂ p).provider).provider := by
  have first₁ := (footprint_serve env origin₁ named₁ (.refl p)).2.2
  have first₂ := (footprint_serve env origin₂ named₂ (.refl p)).2.2
  obtain ⟨-,agree₁,outside₁⟩ := footprint_serve env origin₁ named₁ (first₂.agreeAt distinct)
  obtain ⟨-,agree₂,outside₂⟩ := footprint_serve env origin₂ named₂ (first₁.agreeAt distinct.symm)
  refine ⟨(outside₂.managers.trans first₁.managers).trans (outside₁.managers.trans first₂.managers).symm,fun v => ?_⟩
  by_cases at₁ : v = u₁
  · subst at₁
    exact (outside₂.others v distinct).trans agree₁.entry.symm
  by_cases at₂ : v = u₂
  · subst at₂
    exact agree₂.entry.trans (outside₁.others v at₁).symm
  calc _ = _ := outside₂.others v at₂
    _ = _ := first₁.others v at₁
    _ = _ := (first₂.others v at₂).symm
    _ = _ := (outside₁.others v at₁).symm

/-- `req₁` and `req₂` commute from `p`: each ends the same way, sends the same answer and makes
the same calls whether it is served first or second, and both orders end in registries that hold
the same managers and the same entry under every UUID. -/
structure Commute (req₁ req₂ : Request) (p : ProviderImpl) : Prop where
  first : req₁.SameAnswer env origin (req₂.serve env origin p).provider p
  second : req₂.SameAnswer env origin (req₁.serve env origin p).provider p
  registries : ProviderImpl.Agree (req₂.serve env origin (req₁.serve env origin p).provider).provider
    (req₁.serve env origin (req₂.serve env origin p).provider).provider

/-- Two requests for different targets commute, from any registries. -/
theorem serve_commute {req₁ req₂ : Request} {u₁ u₂ : UUID} (named₁ : req₁.target = some u₁)
    (named₂ : req₂.target = some u₂) (distinct : u₁ ≠ u₂) (p : ProviderImpl) :
    Commute env origin req₁ req₂ p := by
  have first₁ := (footprint_serve env origin named₁ (.refl p)).2.2
  have first₂ := (footprint_serve env origin named₂ (.refl p)).2.2
  exact ⟨(footprint_serve env origin named₁ (first₂.agreeAt distinct)).1,
    (footprint_serve env origin named₂ (first₁.agreeAt distinct.symm)).1,serve_serve_agree env named₁ named₂ distinct p⟩

theorem serve_commute_write_add :
    (write default ⟨[]⟩ [(0,1)] ⟨0⟩ "" 0 false).target = some default ∧
      (addTarget ⟨1#128⟩ "memory" "\x7b\x7d").target = some ⟨1#128⟩ ∧ (default : UUID) ≠ ⟨1#128⟩ ∧
      Commute Env.accepting ⟨""⟩ (write default ⟨[]⟩ [(0,1)] ⟨0⟩ "" 0 false) (addTarget ⟨1#128⟩ "memory" "\x7b\x7d")
        (ProviderImpl.singleTarget default) :=
  have named₁ : (write default ⟨[]⟩ [(0,1)] ⟨0⟩ "" 0 false).target = some default := rfl
  have named₂ : (addTarget ⟨1#128⟩ "memory" "\x7b\x7d").target = some ⟨1#128⟩ := rfl
  have distinct : (default : UUID) ≠ ⟨1#128⟩ := by decide
  ⟨named₁,named₂,distinct,serve_commute Env.accepting ⟨""⟩ named₁ named₂ distinct _⟩

end Request

/-- The events of other clients than those of `target_id`: a request for another target, the
arrival of a file set that does not carry it, any after-callback, and two of these in progress
at once. -/
def Event.Other (target_id : UUID) : Event → Prop
  | .request _ req => ∃ v, req.target = some v ∧ v ≠ target_id
  | .before fileset => ¬ fileset.Carries target_id
  | .after _ => True
  | .overlap first second => first.Other target_id ∧ second.Other target_id

theorem Event.Other.unnamed {e : Event} {target_id : UUID} (other : e.Other target_id) : ¬ e.Names target_id := by
  induction e with
  | request origin req =>
    obtain ⟨v,named,distinct⟩ := other
    cases req <;> cases named <;> first | exact distinct | exact id
  | before fileset => exact other
  | after _ => exact id
  | overlap first second ih₁ ih₂ => exact fun named => named.elim (ih₁ other.1) (ih₂ other.2)

namespace System

variable (env : Env) {target_id : UUID}

theorem step_managers_of_other {s s' : System} {e : Event} (registered : "__default__" ∈ s.provider.transferManagers)
    (other : e.Other target_id) (h : step env s e = some s') :
    s'.provider.transferManagers = s.provider.transferManagers := by
  induction e generalizing s s' with
  | request origin req =>
    cases h
    obtain ⟨v,named,-⟩ := other
    exact (Request.footprint_serve env origin named (.refl _)).2.2.managers
  | before fileset => rcases step_before env h with rfl | ⟨-,rfl⟩ <;> rfl
  | after index =>
    obtain ⟨_,_,_,-,called,rfl⟩ := step_after env h
    exact ProviderImpl.afterMigrationCallback_managers env registered called
  | overlap first second ih₁ ih₂ =>
    obtain ⟨s₁,h₁,h₂⟩ := step_overlap env h
    have kept := ih₁ registered other.1 h₁
    exact (ih₂ (kept ▸ registered) other.2 h₂).trans kept

theorem step_agreeAt {s s' : System} {e : Event} (registered : "__default__" ∈ s.provider.transferManagers)
    (pending : ∀ fileset ∈ s.accepted, ¬ fileset.Carries target_id) (other : e.Other target_id)
    (h : step env s e = some s') :
    s'.provider.AgreeAt target_id s.provider ∧ ∀ fileset ∈ s'.accepted, ¬ fileset.Carries target_id :=
  let ⟨entry,pending'⟩ := step_keeps_entry env pending other.unnamed h
  ⟨⟨entry,step_managers_of_other env registered other h⟩,pending'⟩

theorem replay_agreeAt {s s' : System} {events : List Event} (registered : "__default__" ∈ s.provider.transferManagers)
    (pending : ∀ fileset ∈ s.accepted, ¬ fileset.Carries target_id) (others : ∀ e ∈ events, e.Other target_id)
    (h : replay env s events = some s') : s'.provider.AgreeAt target_id s.provider := by
  induction events generalizing s with
  | nil => cases h; exact .refl _
  | cons e events ih =>
    obtain ⟨s₁,stepped,h⟩ := Option.bind_eq_some.mp h
    obtain ⟨agree,pending₁⟩ := step_agreeAt env registered pending (others e (List.mem_cons_self _ _)) stepped
    have kept : "__default__" ∈ s₁.provider.transferManagers := by rw [agree.managers]; exact registered
    exact (ih kept pending₁ (fun e member => others e (List.mem_cons_of_mem _ member)) h).trans agree

/-- A request for `target_id` ends the same way, sends the same answer, makes the same calls and
leaves the same entry, whatever other clients did before it: any interleaving of requests for
other targets, arrivals of file sets that do not carry it, and after-callbacks. -/
theorem serve_isolated {s s' : System} {events : List Event}
    (registered : "__default__" ∈ s.provider.transferManagers)
    (pending : ∀ fileset ∈ s.accepted, ¬ fileset.Carries target_id)
    (others : ∀ e ∈ events, e.Other target_id) (replayed : replay env s events = some s')
    (origin : Endpoint) {req : Request} (named : req.target = some target_id) :
    req.SameAnswer env origin s'.provider s.provider ∧
      (req.serve env origin s'.provider).provider.targets.lookup target_id =
        (req.serve env origin s.provider).provider.targets.lookup target_id := by
  obtain ⟨answer,agree,-⟩ :=
    Request.footprint_serve env origin named (replay_agreeAt env registered pending others replayed)
  exact ⟨answer,agree.entry⟩

theorem serve_isolated_after_add :
    (∀ e ∈ [Event.request ⟨""⟩ (.addTarget ⟨1#128⟩ "memory" "\x7b\x7d")], e.Other default) ∧
    ∃ s', replay Env.accepting ⟨ProviderImpl.singleTarget default,[]⟩
        [.request ⟨""⟩ (.addTarget ⟨1#128⟩ "memory" "\x7b\x7d")] = some s' ∧
      (Request.write default ⟨[]⟩ [(0,1)] ⟨0⟩ "" 0 false).SameAnswer Env.accepting ⟨""⟩ s'.provider
        (ProviderImpl.singleTarget default) ∧
      ((Request.write default ⟨[]⟩ [(0,1)] ⟨0⟩ "" 0 false).serve Env.accepting ⟨""⟩ s'.provider).provider.targets.lookup
          default =
        ((Request.write default ⟨[]⟩ [(0,1)] ⟨0⟩ "" 0 false).serve Env.accepting ⟨""⟩
          (ProviderImpl.singleTarget default)).provider.targets.lookup default := by
  have others : ∀ e ∈ [Event.request ⟨""⟩ (.addTarget ⟨1#128⟩ "memory" "\x7b\x7d")], e.Other default := by
    simp only [List.mem_singleton,forall_eq]
    exact ⟨⟨1#128⟩,rfl,by decide⟩
  have replayed : replay Env.accepting ⟨ProviderImpl.singleTarget default,[]⟩
      [.request ⟨""⟩ (.addTarget ⟨1#128⟩ "memory" "\x7b\x7d")] = some _ := rfl
  exact ⟨others,_,replayed,serve_isolated Env.accepting (by decide) (by exact fun _ => nofun) others replayed ⟨""⟩ rfl⟩

end System

end Warabi
