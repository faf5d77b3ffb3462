import Warabi.Footprint
import Warabi.Migration.Success

/-! Interleavings of the provider's events. Two states that hold the same pending file sets, the
same managers and the same entry under every UUID cannot be told apart by any later event: the
order in which a registry holds its entries (`m_targets` is an `unordered_map`) is never
observed. Two events that touch different targets commute: requests for different targets, a
request and a callback of a file set that does not carry its target, the arrival of a file set
and the after-callback of a pending one that carries another UUID, and the after-callbacks of
two pending file sets that carry different UUIDs. So swapping two adjacent independent events
anywhere in a run changes nothing a later event can observe. A `remove_target` right after the
`add_target` of a fresh UUID gives back the registries exactly. -/
namespace Warabi

namespace ProviderImpl

variable {p q r : ProviderImpl}

theorem Agree.refl (p : ProviderImpl) : Agree p p := ⟨rfl,fun _ => rfl⟩

theorem Agree.symm (agree : Agree p q) : Agree q p :=
  ⟨agree.managers.symm,fun target_id => (agree.entries target_id).symm⟩

theorem Agree.agreeAt (agree : Agree p q) (target_id : UUID) : AgreeAt target_id p q :=
  ⟨agree.entries target_id,agree.managers⟩

theorem Agree.of_exceptAt {p' q' : ProviderImpl} {target_id : UUID} (agree : Agree p q)
    (p_out : ExceptAt target_id p p') (q_out : ExceptAt target_id q q') (at_target : AgreeAt target_id p' q') :
    Agree p' q' := by
  refine ⟨at_target.managers,fun v => ?_⟩
  by_cases same : v = target_id
  · exact same ▸ at_target.entry
  · rw [p_out.others v same,q_out.others v same,agree.entries v]

variable (env : Env)

theorem addTransferManager_local (p : ProviderImpl) (name type config : String) :
    ∃ (answer : Except Exception (Result Bool)) (added : Option TransferManager), ∀ q : ProviderImpl,
      q.transferManagers = p.transferManagers → q.addTransferManager env name type config = answer.map fun r =>
        (r,added.elim q fun tm => { q with transferManagers := q.transferManagers.insert name (some tm) }) := by
  unfold addTransferManager addTransferManagerJson
  rcases parsed : Json.parse config with e | json_config
  · exact ⟨e.caught.map fun what => (default : Result Bool).fail what,none,fun q _ => by
      simp only [parsed]; cases e <;> rfl⟩
  rcases valid : env.transferManagerFactory.validateConfig type json_config with e | ⟨⟩
  · exact ⟨.ok _,none,fun q _ => by simp only [parsed,valid]; rfl⟩
  by_cases taken : name ∈ p.transferManagers
  · exact ⟨.ok _,none,fun q managers => by simp only [parsed,valid,managers,if_pos taken]; rfl⟩
  rcases created : env.transferManagerFactory.createTransferManager type json_config with e | tm
  · exact ⟨.ok _,none,fun q managers => by simp only [parsed,valid,managers,if_neg taken,created]; rfl⟩
  · exact ⟨.ok _,some tm,fun q managers => by simp only [parsed,valid,managers,if_neg taken,created]; rfl⟩

theorem beforeMigrationCallback_local {fileset : IncomingFileset} (managers : p.transferManagers = q.transferManagers)
    (carried : ∀ target_id, fileset.Carries target_id → p.targets.lookup target_id = q.targets.lookup target_id) :
    beforeMigrationCallback env fileset p = beforeMigrationCallback env fileset q := by
  unfold beforeMigrationCallback
  rcases merged : prologue fileset with e | (code | ⟨target_id,type,config_json⟩)
  · rfl
  · rfl
  · have member : target_id ∈ p.targets ↔ target_id ∈ q.targets := by
      rw [← AList.lookup_isSome,← AList.lookup_isSome,carried target_id ⟨type,config_json,merged⟩]
    simp only [bind,Except.bind,checkIncoming,managers,member]

theorem lookup_installEntry_of_ne {installed : Option (UUID × TargetEntry)} {target_id : UUID}
    (other : ∀ e ∈ installed, e.1 ≠ target_id) (targets : AList fun _ : UUID => TargetEntry) :
    (installEntry installed targets).lookup target_id = targets.lookup target_id := by
  cases installed with
  | none => rfl
  | some e => exact AList.lookup_insert_ne (other e rfl).symm

theorem lookup_installEntry_congr (installed : Option (UUID × TargetEntry)) {target_id : UUID}
    {t₁ t₂ : AList fun _ : UUID => TargetEntry} (same : t₁.lookup target_id = t₂.lookup target_id) :
    (installEntry installed t₁).lookup target_id = (installEntry installed t₂).lookup target_id := by
  cases installed with
  | none => exact same
  | some e =>
    by_cases here : target_id = e.1
    · subst here
      simp only [installEntry,Option.elim,AList.lookup_insert]
    · simp only [installEntry,Option.elim,AList.lookup_insert_ne here,same]

/-- Once `__default__` is registered, the after-callback run on registries with the same managers
answers the same, and installs the same entry under the UUID its file set carries. -/
theorem afterMigrationCallback_of_managers {fileset : IncomingFileset} {code : Int} {p' : ProviderImpl}
    (registered : "__default__" ∈ p.transferManagers) (managers : q.transferManagers = p.transferManagers)
    (h : afterMigrationCallback env fileset p = .ok (code,p')) :
    ∃ installed : Option (UUID × TargetEntry), (∀ e ∈ installed, fileset.Carries e.1) ∧
      p' = ⟨installEntry installed p.targets,p.transferManagers⟩ ∧
      afterMigrationCallback env fileset q = .ok (code,⟨installEntry installed q.targets,p.transferManagers⟩) := by
  obtain ⟨installed,carried,answered⟩ := afterMigrationCallback_local env registered h
  refine ⟨installed,carried,?_,?_⟩
  · exact (Prod.mk.inj (Except.ok.inj (h.symm.trans (answered p.targets)))).2
  · rw [← answered,← managers]

theorem afterMigrationCallback_error_of_managers {fileset : IncomingFileset} {e : Fault}
    (registered : "__default__" ∈ q.transferManagers) (managers : q.transferManagers = p.transferManagers)
    (h : afterMigrationCallback env fileset p = .error e) : ∃ e', afterMigrationCallback env fileset q = .error e' := by
  rcases answered : afterMigrationCallback env fileset q with e' | ⟨code,q'⟩
  · exact ⟨e',rfl⟩
  · obtain ⟨_,-,-,back⟩ := afterMigrationCallback_of_managers env registered managers.symm answered
    exact nomatch back.symm.trans h

end ProviderImpl

theorem erase_insert_of_not_mem {β : UUID → Type} {s : AList β} {a : UUID} {b : β a} (absent : a ∉ s) :
    (s.insert a b).erase a = s :=
  AList.ext ((congrArg (List.kerase a) (AList.insert_entries_of_neg absent)).trans (List.kerase_cons_eq rfl))

namespace Request

variable (env : Env) (origin : Endpoint) {p q : ProviderImpl}

/-- Every request, from agreeing registries, answers the same and leaves agreeing registries. -/
theorem serve_agree (agree : p.Agree q) (req : Request) :
    req.SameAnswer env origin p q ∧ (req.serve env origin p).provider.Agree (req.serve env origin q).provider := by
  cases named : req.target with
  | some target_id =>
    obtain ⟨answer,at_target,p_out⟩ := footprint_serve env origin named (agree.agreeAt target_id)
    exact ⟨answer,agree.of_exceptAt p_out (footprint_serve env origin named (.refl q)).2.2 at_target⟩
  | none =>
    cases req <;> cases named
    rename_i name type config
    obtain ⟨answer,added,answered⟩ := ProviderImpl.addTransferManager_local env p name type config
    obtain ⟨log₁,ran₁⟩ := Handler.addTransferManagerRPC_run env p name type config
    obtain ⟨log₂,ran₂⟩ := Handler.addTransferManagerRPC_run env q name type config
    simp only [SameAnswer,serve,calls,Handler.serve,Handler.log,ran₁,ran₂,answered p rfl,
      answered q agree.managers.symm]
    cases answer with
    | error e => exact ⟨⟨rfl,rfl,rfl,rfl⟩,agree⟩
    | ok r =>
      cases added with
      | none => exact ⟨⟨rfl,rfl,rfl,rfl⟩,agree⟩
      | some tm =>
        exact ⟨⟨rfl,rfl,rfl,rfl⟩,show p.transferManagers.insert name (some tm) = q.transferManagers.insert name (some tm)
          by rw [agree.managers],agree.entries⟩

theorem serve_addTarget_cases (p : ProviderImpl) (target_id : UUID) (type config : String) :
    ((serve env origin p (.addTarget target_id type config)).Succeeded ∧ ∃ entry,
      (serve env origin p (.addTarget target_id type config)).provider =
        { p with targets := p.targets.insert target_id entry }) ∨
    (¬ (serve env origin p (.addTarget target_id type config)).Succeeded ∧
      (serve env origin p (.addTarget target_id type config)).provider = p ∧
      ((serve env origin p (.addTarget target_id type config)).success = true ↔
        ∃ e, (serve env origin p (.addTarget target_id type config)).outcome = .error e)) := by
  obtain ⟨log,ran⟩ := Handler.addTargetRPC_run env p target_id type config
  simp only [serve,Handler.serve,ran]
  rcases added : p.addTarget env target_id type config with e | ⟨result,p'⟩
  · exact .inr ⟨(fun ⟨outcome,_⟩ => nomatch outcome),rfl,iff_of_true rfl ⟨_,rfl⟩⟩
  rcases ProviderImpl.addTarget_cases env added with ⟨failed,rfl⟩ | ⟨succeeded,entry,-,rfl⟩
  · exact .inr ⟨fun ⟨_,success⟩ => Bool.false_ne_true (failed ▸ success),rfl,
      iff_of_false (fun success => Bool.false_ne_true (failed ▸ success)) fun ⟨_,h⟩ => nomatch h⟩
  · exact .inl ⟨⟨rfl,succeeded⟩,entry,rfl⟩

theorem serve_removeTarget (p : ProviderImpl) (target_id : UUID) :
    serve env origin p (.removeTarget target_id) =
      if target_id ∈ p.targets then ⟨.ok (),true,.ok (.flag default),{ p with targets := p.targets.erase target_id }⟩
      else ⟨.ok (),false,.error ("Target " ++ target_id.to_string ++ " not found"),p⟩ := by
  simp only [serve,Handler.serve,Handler.removeTargetRPC_run]
  split <;> rfl

theorem serve_checkTarget (p : ProviderImpl) (target_id : UUID) :
    (serve env origin p (.checkTarget target_id)).outcome = .ok () ∧
      ((serve env origin p (.checkTarget target_id)).success = true ↔ target_id ∈ p.targets) := by
  rw [← AList.lookup_isSome]
  rcases found : p.targets.lookup target_id with _ | entry <;>
    simp [serve,Handler.serve,Handler.checkTargetRPC,Handler.run_findTarget,Frame.start,found,Result.fail]
  rfl

/-- `remove_target` right after an `add_target` of a UUID the registry did not hold undoes it. A
`check_target` of the UUID then answers success exactly when the removal does, exactly when the
target was added. The addition answers success also when an exception left `addTarget` (a
`transfer_manager` that is not a string, a number out of range), and then added nothing. The
removal gives back the registries as they were. -/
theorem removeTarget_undoes_addTarget (origin₁ origin₂ : Endpoint) {p : ProviderImpl} {target_id : UUID}
    (type config : String) (fresh : target_id ∉ p.targets) :
    let added := serve env origin₁ p (.addTarget target_id type config)
    ((serve env origin₂ added.provider (.checkTarget target_id)).success = true ↔ added.Succeeded) ∧
      ((serve env origin₂ added.provider (.removeTarget target_id)).success = true ↔ added.Succeeded) ∧
      (added.success = true ↔ added.Succeeded ∨ ∃ e, added.outcome = .error e) ∧
      (serve env origin₂ added.provider (.removeTarget target_id)).provider = p := by
  intro added
  rw [(serve_checkTarget env origin₂ _ target_id).2,serve_removeTarget]
  rcases serve_addTarget_cases env origin₁ p target_id type config with ⟨succeeded,entry,inserted⟩ |
    ⟨failed,same,faulted⟩
  · have present : target_id ∈ added.provider.targets := inserted ▸ (AList.mem_insert _).mpr (.inl rfl)
    rw [if_pos present]
    refine ⟨iff_of_true present succeeded,iff_of_true rfl succeeded,iff_of_true succeeded.2 (.inl succeeded),?_⟩
    rw [inserted]
    exact congrArg (fun targets => { p with targets }) (erase_insert_of_not_mem fresh)
  · have absent : target_id ∉ added.provider.targets := same ▸ fresh
    rw [if_neg absent]
    exact ⟨iff_of_false absent failed,iff_of_false Bool.false_ne_true failed,
      faulted.trans (or_iff_right failed).symm,same⟩

theorem removeTarget_undoes_addTarget_unnamed :
    ⟨1#128⟩ ∉ (ProviderImpl.singleTarget default).targets ∧
      let added := serve Env.accepting ⟨""⟩ (ProviderImpl.singleTarget default)
        (.addTarget ⟨1#128⟩ "memory" "\x7b\"transfer_manager\":1\x7d")
      ((serve Env.accepting ⟨""⟩ added.provider (.checkTarget ⟨1#128⟩)).success = true ↔ added.Succeeded) ∧
        ((serve Env.accepting ⟨""⟩ added.provider (.removeTarget ⟨1#128⟩)).success = true ↔ added.Succeeded) ∧
        (added.success = true ↔ added.Succeeded ∨ ∃ e, added.outcome = .error e) ∧
        (serve Env.accepting ⟨""⟩ added.provider (.removeTarget ⟨1#128⟩)).provider =
          ProviderImpl.singleTarget default :=
  have fresh : ⟨1#128⟩ ∉ (ProviderImpl.singleTarget default).targets := by decide
  ⟨fresh,removeTarget_undoes_addTarget Env.accepting ⟨""⟩ ⟨""⟩ "memory" "\x7b\"transfer_manager\":1\x7d" fresh⟩

end Request

namespace System

variable (env : Env)

/-- Two states no event can tell apart: the same pending file sets, the same managers and the
same entry under every UUID. -/
structure Agree (s t : System) : Prop where
  accepted : s.accepted = t.accepted
  registries : s.provider.Agree t.provider

theorem Agree.refl (s : System) : Agree s s := ⟨rfl,.refl _⟩

theorem Agree.symm {s t : System} (agree : Agree s t) : Agree t s := ⟨agree.accepted.symm,agree.registries.symm⟩

theorem rel_agree_symm {a b : Option System} (related : Option.Rel Agree a b) : Option.Rel Agree b a := by
  cases related with
  | some agree => exact .some agree.symm
  | none => exact .none

theorem rel_agree_bind {a b : Option System} {f g : System → Option System} (related : Option.Rel Agree a b)
    (next : ∀ s t, a = some s → Agree s t → Option.Rel Agree (f s) (g t)) :
    Option.Rel Agree (a.bind f) (b.bind g) := by
  cases related with
  | none => exact .none
  | some agree => exact next _ _ rfl agree

theorem step_registered {s s' : System} {e : Event} (registered : "__default__" ∈ s.provider.transferManagers)
    (h : step env s e = some s') : "__default__" ∈ s'.provider.transferManagers := by
  obtain ⟨tm,found⟩ := Option.isSome_iff_exists.mp (AList.lookup_isSome.mpr registered)
  exact AList.lookup_isSome.mp (by rw [step_keeps_managers env h _ _ found]; rfl)

/-- One step from agreeing states: both have a successor or neither, and the successors agree. -/
theorem step_agree {s t : System} (registered : "__default__" ∈ s.provider.transferManagers) (agree : Agree s t)
    (e : Event) : Option.Rel Agree (step env s e) (step env t e) := by
  induction e generalizing s t with
  | overlap first second ih₁ ih₂ =>
    simp only [step]
    split
    · exact .none
    · exact rel_agree_bind (ih₁ registered agree) fun s₁ _ stepped agree₁ =>
        ih₂ (step_registered env registered stepped) agree₁
  | request origin req => exact .some ⟨agree.accepted,(Request.serve_agree env origin agree.registries req).2⟩
  | before fileset =>
    simp only [step,ProviderImpl.beforeMigrationCallback_local env agree.registries.managers
      fun target_id _ => agree.registries.entries target_id,agree.accepted]
    split
    · exact .some ⟨rfl,agree.registries⟩
    · exact .some agree
    · exact .none
  | after index =>
    simp only [step,agree.accepted]
    cases t.accepted[index]? with
    | none => exact .none
    | some fileset =>
      dsimp only
      rcases hs : ProviderImpl.afterMigrationCallback env fileset s.provider with _ | ⟨code,p'⟩
      · obtain ⟨_,ht⟩ := ProviderImpl.afterMigrationCallback_error_of_managers env
          (agree.registries.managers ▸ registered) agree.registries.managers.symm hs
        rw [ht]
        exact .none
      · obtain ⟨installed,-,rfl,ht⟩ :=
          ProviderImpl.afterMigrationCallback_of_managers env registered agree.registries.managers.symm hs
        rw [ht]
        exact .some ⟨rfl,rfl,fun target_id =>
          ProviderImpl.lookup_installEntry_congr _ (agree.registries.entries target_id)⟩

theorem replay_registered {s s' : System} {events : List Event}
    (registered : "__default__" ∈ s.provider.transferManagers) (h : replay env s events = some s') :
    "__default__" ∈ s'.provider.transferManagers := by
  induction events generalizing s with
  | nil => cases h; exact registered
  | cons e events ih =>
    obtain ⟨s₁,stepped,h⟩ := Option.bind_eq_some.mp h
    exact ih (step_registered env registered stepped) h

/-- Runs from two agreeing states, once `__default__` is registered: both go through or neither
does, and they end agreeing. The order in which a registry holds its entries is never observed. -/
theorem replay_agree {s t : System} (registered : "__default__" ∈ s.provider.transferManagers) (agree : Agree s t)
    (events : List Event) : Option.Rel Agree (replay env s events) (replay env t events) := by
  induction events generalizing s t with
  | nil => exact .some agree
  | cons e events ih =>
    exact rel_agree_bind (step_agree env registered agree e) fun _ _ stepped agree₁ =>
      ih (step_registered env registered stepped) agree₁

theorem replay_agree_reordered :
    let entry : TargetEntry := ⟨⟨0,"memory","\x7b\x7d"⟩,some ⟨0,"__default__","\x7b\x7d"⟩,"__default__"⟩
    let s : System := ⟨⟨(ProviderImpl.singleTarget default).targets.insert ⟨1#128⟩ entry,
      (ProviderImpl.singleTarget default).transferManagers⟩,[]⟩
    let t : System := ⟨⟨(AList.insert ⟨1#128⟩ entry ∅).insert default entry,
      (ProviderImpl.singleTarget default).transferManagers⟩,[]⟩
    "__default__" ∈ s.provider.transferManagers ∧ Agree s t ∧
      Option.Rel Agree (replay Env.accepting s [.request ⟨""⟩ (.removeTarget default)])
        (replay Env.accepting t [.request ⟨""⟩ (.removeTarget default)]) := by
  intro entry s t
  have registered : "__default__" ∈ s.provider.transferManagers := by decide
  have agree : Agree s t := ⟨rfl,rfl,fun _ => AList.perm_lookup (AList.insert_insert_of_ne _ (by decide))⟩
  exact ⟨registered,agree,replay_agree Env.accepting registered agree _⟩

theorem replay_append (s : System) (pre post : List Event) :
    replay env s (pre ++ post) = (replay env s pre).bind (replay env · post) := by
  induction pre generalizing s with
  | nil => rfl
  | cons e pre ih => simp only [List.cons_append,replay,Option.bind_assoc,List.append_eq,ih]

theorem replay_pair (s : System) (e₁ e₂ : Event) : replay env s [e₁,e₂] = (step env s e₁).bind (step env · e₂) := by
  simp only [replay,Option.bind_some]

@[simp] theorem step_request (s : System) (origin : Endpoint) (req : Request) :
    step env s (.request origin req) = some ⟨(req.serve env origin s.provider).provider,s.accepted⟩ := rfl

section Commute

variable {s : System}

theorem requests_commute {origin₁ origin₂ : Endpoint} {req₁ req₂ : Request} {u₁ u₂ : UUID}
    (named₁ : req₁.target = some u₁) (named₂ : req₂.target = some u₂) (distinct : u₁ ≠ u₂) :
    Option.Rel Agree (replay env s [.request origin₁ req₁,.request origin₂ req₂])
      (replay env s [.request origin₂ req₂,.request origin₁ req₁]) :=
  .some ⟨rfl,Request.serve_serve_agree env named₁ named₂ distinct s.provider⟩

theorem request_before_commute {origin : Endpoint} {req : Request} {fileset : IncomingFileset} {u : UUID}
    (named : req.target = some u) (other : ¬ fileset.Carries u) :
    Option.Rel Agree (replay env s [.request origin req,.before fileset])
      (replay env s [.before fileset,.request origin req]) := by
  have outside := (Request.footprint_serve env origin named (.refl s.provider)).2.2
  have same : ProviderImpl.beforeMigrationCallback env fileset (req.serve env origin s.provider).provider =
      ProviderImpl.beforeMigrationCallback env fileset s.provider :=
    ProviderImpl.beforeMigrationCallback_local env outside.managers fun v carried =>
      outside.others v fun here => other (here ▸ carried)
  rw [replay_pair,replay_pair,step_request,Option.some_bind]
  simp only [step,same]
  split
  · exact .some (.refl _)
  · exact .some (.refl _)
  · exact .none

theorem request_after_commute {origin : Endpoint} {req : Request} {index : Nat} {fileset : IncomingFileset}
    {u : UUID} (registered : "__default__" ∈ s.provider.transferManagers) (named : req.target = some u)
    (found : s.accepted[index]? = some fileset) (other : ¬ fileset.Carries u) :
    Option.Rel Agree (replay env s [.request origin req,.after index])
      (replay env s [.after index,.request origin req]) := by
  have outside := (Request.footprint_serve env origin named (.refl s.provider)).2.2
  have registered₁ : "__default__" ∈ (req.serve env origin s.provider).provider.transferManagers := by
    rw [outside.managers]
    exact registered
  rw [replay_pair,replay_pair,step_request,Option.some_bind]
  rcases called : ProviderImpl.afterMigrationCallback env fileset s.provider with e | ⟨code,p'⟩
  · obtain ⟨_,called₁⟩ := ProviderImpl.afterMigrationCallback_error_of_managers env registered₁ outside.managers called
    simp only [step,found,called,called₁]
    exact .none
  · obtain ⟨installed,carried,rfl,answered⟩ :=
      ProviderImpl.afterMigrationCallback_of_managers env registered outside.managers called
    have found₁ : (System.mk (req.serve env origin s.provider).provider s.accepted).accepted[index]? = some fileset :=
      found
    rw [step_after_of env found₁ answered,step_after_of env found called,Option.some_bind,step_request]
    have elsewhere : ∀ e ∈ installed, e.1 ≠ u := fun e mem here => other (here ▸ carried e mem)
    obtain ⟨-,agree,outside'⟩ := Request.footprint_serve env origin named
      (show ProviderImpl.AgreeAt u ⟨ProviderImpl.installEntry installed s.provider.targets,s.provider.transferManagers⟩
        s.provider from ⟨ProviderImpl.lookup_installEntry_of_ne elsewhere _,rfl⟩)
    refine .some ⟨rfl,outside'.managers.symm,fun v => ?_⟩
    by_cases here : v = u
    · subst here
      exact (ProviderImpl.lookup_installEntry_of_ne elsewhere _).trans agree.entry.symm
    · exact (ProviderImpl.lookup_installEntry_congr installed (outside.others v here)).trans (outside'.others v here).symm

theorem before_after_commute {fileset pending : IncomingFileset} {index : Nat}
    (registered : "__default__" ∈ s.provider.transferManagers) (found : s.accepted[index]? = some pending)
    (distinct : ∀ u, pending.Carries u → ¬ fileset.Carries u) :
    Option.Rel Agree (replay env s [.before fileset,.after index]) (replay env s [.after index,.before fileset]) := by
  have bound : index < s.accepted.length := (List.getElem?_eq_some_iff.mp found).1
  have found' : (s.accepted ++ [fileset])[index]? = some pending := by
    rw [List.getElem?_append_left bound,found]
  rw [replay_pair,replay_pair]
  rcases called : ProviderImpl.afterMigrationCallback env pending s.provider with e | ⟨code,p'⟩
  · simp only [step]
    split
    all_goals
      simp only [Option.some_bind,Option.none_bind,found,found',called]
      exact .none
  · have same : ProviderImpl.beforeMigrationCallback env fileset p' =
        ProviderImpl.beforeMigrationCallback env fileset s.provider :=
      ProviderImpl.beforeMigrationCallback_local env (ProviderImpl.afterMigrationCallback_managers env registered called)
        fun u carries => (ProviderImpl.afterMigrationCallback_keeps env called).2 u fun c => distinct u c carries
    rw [step_after_of env found called,Option.some_bind]
    simp only [step,same]
    split
    · simp only [Option.some_bind,found',called]
      exact .some ⟨List.eraseIdx_append_of_lt_length bound _,.refl _⟩
    · simp only [Option.some_bind,found,called]
      exact .some (.refl _)
    · exact .none

theorem step_after_error {index : Nat} {fileset : IncomingFileset} {e : Fault} (found : s.accepted[index]? = some fileset)
    (h : ProviderImpl.afterMigrationCallback env fileset s.provider = .error e) : step env s (.after index) = none := by
  simp only [step,found,h]

theorem afters_commute {i j : Nat} {f₁ f₂ : IncomingFileset} (registered : "__default__" ∈ s.provider.transferManagers)
    (le : i ≤ j) (at_i : s.accepted[i]? = some f₁) (at_j : s.accepted[j + 1]? = some f₂)
    (distinct : ∀ u, f₁.Carries u → ¬ f₂.Carries u) :
    Option.Rel Agree (replay env s [.after i,.after j]) (replay env s [.after (j + 1),.after i]) := by
  have at_j' : (s.accepted.eraseIdx i)[j]? = some f₂ := by rw [List.getElem?_eraseIdx_of_ge _ _ _ le,at_j]
  have at_i' : (s.accepted.eraseIdx (j + 1))[i]? = some f₁ := by
    rw [List.getElem?_eraseIdx_of_lt _ _ _ (Nat.lt_succ_of_le le),at_i]
  rw [replay_pair,replay_pair]
  rcases first : ProviderImpl.afterMigrationCallback env f₁ s.provider with _ | ⟨c₁,p₁⟩ <;>
    rcases second : ProviderImpl.afterMigrationCallback env f₂ s.provider with _ | ⟨c₂,p₂⟩
  · rw [step_after_error env at_i first,step_after_error env at_j second]
    exact .none
  · obtain ⟨b,-,rfl,-⟩ := ProviderImpl.afterMigrationCallback_of_managers env registered rfl second
    obtain ⟨_,again⟩ : ∃ e, ProviderImpl.afterMigrationCallback env f₁
        ⟨ProviderImpl.installEntry b s.provider.targets,s.provider.transferManagers⟩ = .error e :=
      ProviderImpl.afterMigrationCallback_error_of_managers env registered (by rfl) first
    rw [step_after_error env at_i first,step_after_of env at_j second,Option.some_bind,
      step_after_error env at_i' again]
    exact .none
  · obtain ⟨a,-,rfl,-⟩ := ProviderImpl.afterMigrationCallback_of_managers env registered rfl first
    obtain ⟨_,again⟩ : ∃ e, ProviderImpl.afterMigrationCallback env f₂
        ⟨ProviderImpl.installEntry a s.provider.targets,s.provider.transferManagers⟩ = .error e :=
      ProviderImpl.afterMigrationCallback_error_of_managers env registered (by rfl) second
    rw [step_after_of env at_i first,Option.some_bind,step_after_error env at_j' again,
      step_after_error env at_j second]
    exact .none
  · obtain ⟨a,carries_a,local_a⟩ := ProviderImpl.afterMigrationCallback_local env registered first
    obtain ⟨b,carries_b,local_b⟩ := ProviderImpl.afterMigrationCallback_local env registered second
    have at_j'' : (System.mk ⟨ProviderImpl.installEntry a s.provider.targets,s.provider.transferManagers⟩
      (s.accepted.eraseIdx i)).accepted[j]? = some f₂ := at_j'
    have at_i'' : (System.mk ⟨ProviderImpl.installEntry b s.provider.targets,s.provider.transferManagers⟩
      (s.accepted.eraseIdx (j + 1))).accepted[i]? = some f₁ := at_i'
    rw [step_after_of env at_i (local_a _),step_after_of env at_j (local_b _),Option.some_bind,Option.some_bind,
      step_after_of env at_j'' (local_b _),step_after_of env at_i'' (local_a _)]
    refine .some ⟨eraseIdx_eraseIdx_of_le _ le,rfl,fun target_id => ?_⟩
    refine lookup_installEntry_comm (fun x mem_x y mem_y same => ?_) _ _
    exact distinct x.1 (carries_a x mem_x) (same ▸ carries_b y mem_y)

end Commute

/-- Two events whose order does not matter from `s`: requests for different targets, a request
and a callback of a file set that does not carry its target, and the arrival of a file set and
the after-callback of a pending one that carries another UUID. Two arrivals do not commute (the
pending list keeps their order), nor does `add_transfer_manager` with anything. -/
def Independent (s : System) : Event → Event → Prop
  | .request _ req₁, .request _ req₂ => ∃ u₁ u₂, req₁.target = some u₁ ∧ req₂.target = some u₂ ∧ u₁ ≠ u₂
  | .request _ req, .before fileset | .before fileset, .request _ req =>
    ∃ u, req.target = some u ∧ ¬ fileset.Carries u
  | .request _ req, .after index | .after index, .request _ req =>
    ∃ u fileset, req.target = some u ∧ s.accepted[index]? = some fileset ∧ ¬ fileset.Carries u
  | .before fileset, .after index | .after index, .before fileset =>
    ∃ pending, s.accepted[index]? = some pending ∧ ∀ u, pending.Carries u → ¬ fileset.Carries u
  | _, _ => False

/-- Two independent events, once `__default__` is registered, run in either order: both orders
go through or neither does, and they end in states no later event can tell apart. -/
theorem steps_commute {s : System} {e₁ e₂ : Event} (registered : "__default__" ∈ s.provider.transferManagers)
    (independent : Independent s e₁ e₂) : Option.Rel Agree (replay env s [e₁,e₂]) (replay env s [e₂,e₁]) := by
  cases e₁ <;> cases e₂
  case request.request =>
    obtain ⟨u₁,u₂,named₁,named₂,distinct⟩ := independent
    exact requests_commute env named₁ named₂ distinct
  case request.before =>
    obtain ⟨u,named,other⟩ := independent
    exact request_before_commute env named other
  case before.request =>
    obtain ⟨u,named,other⟩ := independent
    exact rel_agree_symm (request_before_commute env named other)
  case request.after =>
    obtain ⟨u,fileset,named,found,other⟩ := independent
    exact request_after_commute env registered named found other
  case after.request =>
    obtain ⟨u,fileset,named,found,other⟩ := independent
    exact rel_agree_symm (request_after_commute env registered named found other)
  case before.after =>
    obtain ⟨pending,found,distinct⟩ := independent
    exact before_after_commute env registered found distinct
  case after.before =>
    obtain ⟨pending,found,distinct⟩ := independent
    exact rel_agree_symm (before_after_commute env registered found distinct)
  all_goals exact independent.elim

/-- A file set carrying the `memory` target `target_id`, with empty configurations and no file. -/
def incoming (target_id : UUID) : IncomingFileset :=
  ⟨fun key => (0,if key = "uuid" then target_id.to_string else if key = "type" then "memory" else "\x7b\x7d"),
    (0,[]),(0,"/")⟩

theorem steps_commute_write_after :
    let s : System := ⟨ProviderImpl.singleTarget default,[incoming ⟨1#128⟩]⟩
    let write := Event.request ⟨""⟩ (.write default ⟨[]⟩ [(0,1)] ⟨0⟩ "" 0 false)
    "__default__" ∈ s.provider.transferManagers ∧ Independent s write (.after 0) ∧
      (∃ s', step Env.accepting s (.after 0) = some s' ∧ ⟨1#128⟩ ∈ s'.provider.targets) ∧
      Option.Rel Agree (replay Env.accepting s [write,.after 0]) (replay Env.accepting s [.after 0,write]) := by
  intro s write
  have registered : "__default__" ∈ s.provider.transferManagers := by decide
  obtain ⟨_,_,carries⟩ : (incoming ⟨1#128⟩).Carries ⟨1#128⟩ := ⟨_,_,rfl⟩
  have independent : Independent s write (.after 0) := ⟨default,incoming ⟨1#128⟩,rfl,rfl,fun ⟨_,_,h⟩ =>
    absurd (Prologue.merged.inj (Except.ok.inj (carries.symm.trans h))).1 (by decide)⟩
  exact ⟨registered,independent,⟨_,rfl,by decide⟩,steps_commute Env.accepting registered independent⟩

theorem replay_replace {s s₀ : System} {pre mid mid' post : List Event}
    (registered : "__default__" ∈ s.provider.transferManagers) (reached : replay env s pre = some s₀)
    (replaced : Option.Rel Agree (replay env s₀ mid) (replay env s₀ mid')) :
    Option.Rel Agree (replay env s (pre ++ (mid ++ post))) (replay env s (pre ++ (mid' ++ post))) := by
  have registered₀ := replay_registered env registered reached
  rw [replay_append,replay_append,reached,Option.some_bind,Option.some_bind,replay_append,replay_append]
  rcases h₁ : replay env s₀ mid with _ | s₁ <;> rcases h₂ : replay env s₀ mid' with _ | s₂ <;>
    rw [h₁,h₂] at replaced <;> cases replaced
  · exact .none
  · exact replay_agree env (replay_registered env registered₀ h₁) ‹_› post

/-- Swapping two adjacent independent events anywhere in a run, once `__default__` is registered,
changes nothing a later event can observe: both runs go through or neither does, and they end
agreeing. -/
theorem replay_swap {s s₀ : System} {pre post : List Event} {e₁ e₂ : Event}
    (registered : "__default__" ∈ s.provider.transferManagers) (reached : replay env s pre = some s₀)
    (independent : Independent s₀ e₁ e₂) :
    Option.Rel Agree (replay env s (pre ++ e₁ :: e₂ :: post)) (replay env s (pre ++ e₂ :: e₁ :: post)) :=
  replay_replace env registered reached (steps_commute env (replay_registered env registered reached) independent)

theorem replay_swap_write_remove :
    let add := Event.request ⟨""⟩ (.addTarget ⟨1#128⟩ "memory" "\x7b\x7d")
    let write := Event.request ⟨""⟩ (.write default ⟨[]⟩ [(0,1)] ⟨0⟩ "" 0 false)
    let remove := Event.request ⟨""⟩ (.removeTarget ⟨1#128⟩)
    let check := Event.request ⟨""⟩ (.checkTarget ⟨1#128⟩)
    "__default__" ∈ (ProviderImpl.singleTarget default).transferManagers ∧
      ∃ s₀, replay Env.accepting ⟨ProviderImpl.singleTarget default,[]⟩ [add] = some s₀ ∧
        Independent s₀ write remove ∧
        Option.Rel Agree (replay Env.accepting ⟨ProviderImpl.singleTarget default,[]⟩ ([add] ++ write :: remove :: [check]))
          (replay Env.accepting ⟨ProviderImpl.singleTarget default,[]⟩ ([add] ++ remove :: write :: [check])) := by
  intro add write remove check
  have registered : "__default__" ∈ (ProviderImpl.singleTarget default).transferManagers := by decide
  obtain ⟨s₀,reached⟩ : ∃ s₀, replay Env.accepting ⟨ProviderImpl.singleTarget default,[]⟩ [add] = some s₀ :=
    ⟨_,rfl⟩
  have independent : Independent s₀ write remove := ⟨default,⟨1#128⟩,rfl,rfl,by decide⟩
  exact ⟨registered,s₀,reached,independent,replay_swap Env.accepting registered reached independent⟩

/-- The after-callbacks of two pending file sets that carry different UUIDs, at positions `i` and
`j+1` of the pending list, run in either order anywhere in a run once `__default__` is registered
(the later index shifts by the earlier removal): both runs go through or neither does, and they
end agreeing. -/
theorem replay_swap_afters {s s₀ : System} {pre post : List Event} {i j : Nat} {f₁ f₂ : IncomingFileset}
    (registered : "__default__" ∈ s.provider.transferManagers) (reached : replay env s pre = some s₀)
    (le : i ≤ j) (at_i : s₀.accepted[i]? = some f₁) (at_j : s₀.accepted[j + 1]? = some f₂)
    (distinct : ∀ u, f₁.Carries u → ¬ f₂.Carries u) :
    Option.Rel Agree (replay env s (pre ++ .after i :: .after j :: post))
      (replay env s (pre ++ .after (j + 1) :: .after i :: post)) :=
  replay_replace env registered reached
    (afters_commute env (replay_registered env registered reached) le at_i at_j distinct)

theorem replay_swap_afters_two_targets :
    let s : System := ⟨ProviderImpl.singleTarget default,[incoming ⟨1#128⟩,incoming ⟨2#128⟩]⟩
    "__default__" ∈ s.provider.transferManagers ∧ replay Env.accepting s [] = some s ∧ 0 ≤ 0 ∧
      s.accepted[0]? = some (incoming ⟨1#128⟩) ∧ s.accepted[0 + 1]? = some (incoming ⟨2#128⟩) ∧
      (∀ u, (incoming ⟨1#128⟩).Carries u → ¬ (incoming ⟨2#128⟩).Carries u) ∧
      (∃ s', replay Env.accepting s [.after 0,.after 0] = some s' ∧
        ⟨1#128⟩ ∈ s'.provider.targets ∧ ⟨2#128⟩ ∈ s'.provider.targets) ∧
      Option.Rel Agree (replay Env.accepting s ([] ++ .after 0 :: .after 0 :: []))
        (replay Env.accepting s ([] ++ .after (0 + 1) :: .after 0 :: [])) := by
  intro s
  have registered : "__default__" ∈ s.provider.transferManagers := by decide
  obtain ⟨_,_,first⟩ : (incoming ⟨1#128⟩).Carries ⟨1#128⟩ := ⟨_,_,rfl⟩
  obtain ⟨_,_,second⟩ : (incoming ⟨2#128⟩).Carries ⟨2#128⟩ := ⟨_,_,rfl⟩
  have distinct : ∀ u, (incoming ⟨1#128⟩).Carries u → ¬ (incoming ⟨2#128⟩).Carries u :=
    fun _ ⟨_,_,h₁⟩ ⟨_,_,h₂⟩ => absurd ((Prologue.merged.inj (Except.ok.inj (first.symm.trans h₁))).1.trans
      (Prologue.merged.inj (Except.ok.inj (second.symm.trans h₂))).1.symm) (by decide)
  exact ⟨registered,rfl,le_rfl,rfl,rfl,distinct,⟨_,rfl,by decide,by decide⟩,
    replay_swap_afters Env.accepting registered rfl le_rfl rfl rfl distinct⟩

end System

end Warabi
