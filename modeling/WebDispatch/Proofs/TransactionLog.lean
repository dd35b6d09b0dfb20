import WebDispatch.Proofs.ChainLogs
import WebDispatch.Proofs.Requests
import WebDispatch.Proofs.UnitOfWork

namespace WebDispatch

open Http

variable {σ : Type} {log : σ → List TransactionEvent}

namespace Registry

/-- User code other than the managers adds nothing to the log of transactions, which the managers
keep. -/
structure Quiet (log : σ → List TransactionEvent) (r : Registry σ)
    (enclosures : List (Enclosure σ)) : Prop where
  handlerWrappers : r.handlerWrappers = enclosures.map Enclosure.wrap
  predicates : ∀ p ∈ r.routes, ∀ predicate ∈ p.predicate, ∀ x a, log (predicate x a).2 = log a
  wrappers : ∀ w ∈ r.wrappers, ∀ place, w.Logs log (fun _ ↦ []) place
  enclosures : ∀ e ∈ enclosures, ∀ place, e.Logs log (fun _ ↦ []) place
  terminals : ∀ p ∈ r.routes, p.terminal.Quiet log
  managers : ∀ p ∈ r.routes, ∀ m o, p.terminal.transactions = some (m, o) → m.Records log

variable {r : Registry σ} {enclosures : List (Enclosure σ)} {q : Request} {w : World σ}

theorem Quiet.layers (hq : r.Quiet log enclosures) :
    LayersLog log (fun _ ↦ []) (layers r.wrappers enclosures).reverse :=
  layersLog_layers (fun i w hw ↦ hq.wrappers w (List.mem_of_getElem? hw) i)
    fun i e he ↦ hq.enclosures e (List.mem_of_getElem? he) (r.wrappers.length + i)

theorem Quiet.ask (hq : r.Quiet log enclosures) (x : Exchange) (i : Nat) (a : σ) :
    log (RouteEntry.ask (RouteEntry.questions x (r.dispatcher.routes.take i)) a) = log a := by
  refine RouteEntry.ask_keeps (fun p hp ↦ ?_) a
  obtain ⟨e, he, hpe⟩ := RouteEntry.exists_of_mem_questions hp
  obtain ⟨p', hp', rfl⟩ := List.mem_map.1 (List.mem_of_mem_take he)
  exact hq.predicates p' hp' p.1 hpe

/-- The events that a request adds. -/
inductive Bracket (r : Registry σ) (enclosures : List (Enclosure σ)) (q : Request) (w : World σ) :
    List TransactionEvent → Prop
  | elsewhere (h : ∀ i s, ¬ r.Reaches enclosures q w i s) : Bracket r enclosures q w []
  | reached {i p s events} (hp : r.routes[i]? = some p) (hs : r.Reaches enclosures q w i s)
      (h : p.terminal.Bracket s events) : Bracket r enclosures q w events

theorem exists_bracket (r : Registry σ) (enclosures : List (Enclosure σ)) (q : Request)
    (w : World σ) : ∃ events, r.Bracket enclosures q w events := by
  by_cases h : ∃ i s, r.Reaches enclosures q w i s
  · obtain ⟨i, s, hs⟩ := h
    obtain ⟨e, u, he, ha⟩ := hs
    obtain ⟨p, hp, -⟩ := r.dispatcher_place he.place
    obtain ⟨events, hb⟩ := p.terminal.exists_bracket s
    exact ⟨events, .reached hp ⟨e, u, he, ha⟩ hb⟩
  · exact ⟨[], .elsewhere fun i s hs ↦ h ⟨i, s, hs⟩⟩

theorem Bracket.events_eq {events : List TransactionEvent} (h : r.Bracket enclosures q w events) :
    events = [] ∨ events = [.begun] ∨ events = [.begun, .committed] ∨
      events = [.begun, .rolledBack] := by
  cases h with
  | elsewhere h => exact .inl rfl
  | reached hp hs h => exact h.events_eq

theorem Quiet.enters (hq : r.Quiet log enclosures) {i : Nat} {e : RouteEntry σ} {s : Scene σ}
    (h : r.dispatcher.Enters q w i e s) : log s.world.app = log w.app := by
  cases h with
  | intro channel route body => exact hq.ask _ (i + 1) w.app

theorem Quiet.dispatch_of_enters (hq : r.Quiet log enclosures) {i : Nat} {e : RouteEntry σ}
    {u : Scene σ} (h : r.dispatcher.Enters q w i e u) (isUpgradable : Bool) :
    ∃ p, r.routes[i]? = some p ∧ (r.dispatcher.dispatch isUpgradable q w).2.app =
      ((approach r.wrappers enclosures u).finish p.terminal.handler).2.world.app := by
  obtain ⟨p, hp, hh⟩ := r.dispatcher_place h.place
  refine ⟨p, hp, ?_⟩
  rw [Dispatcher.dispatch_of_enters h, Dispatcher.execute_app, hh, hq.handlerWrappers,
    composeChain_apply]

theorem Bracket.logs (hq : r.Quiet log enclosures) {events : List TransactionEvent}
    (h : r.Bracket enclosures q w events) (isUpgradable : Bool) :
    log (r.dispatcher.dispatch isUpgradable q w).2.app = log w.app ++ events := by
  cases h with
  | elsewhere h =>
    rw [List.append_nil]
    by_cases he : ∃ i e u, r.dispatcher.Enters q w i e u
    -- A layer stops the request, or else it enters no chain at all.
    · obtain ⟨i, e, u, he⟩ := he
      have ha : (approach r.wrappers enclosures u).arrival = none := by
        cases ha : (approach r.wrappers enclosures u).arrival with
        | none => rfl
        | some s => exact absurd ⟨e, u, he, ha⟩ (h i s)
      obtain ⟨p, -, hd⟩ := hq.dispatch_of_enters he isUpgradable
      rw [hd, approach, finish_logs_of_not_arrival hq.layers ha, hq.enters he]
      simp
    · obtain ⟨i, hd⟩ := Dispatcher.dispatch_of_forall_not_enters
        (fun i e u hu ↦ he ⟨i, e, u, hu⟩) isUpgradable
      rw [hd]
      exact hq.ask _ i w.app
  | @reached i p s events hp hs h =>
    obtain ⟨e, u, he, ha⟩ := hs
    obtain ⟨p', hp', hd⟩ := hq.dispatch_of_enters he isUpgradable
    obtain rfl : p = p' := Option.some.inj (hp.symm.trans hp')
    have hmem := List.mem_of_getElem? hp
    have hs : log s.world.app = log w.app := by
      rw [arrival_logs hq.layers ha, hq.enters he]
      simp
    rw [hd, approach, finish_logs_of_arrival hq.layers ha,
      h.logs (hq.terminals p hmem) (hq.managers p hmem), hs]

end Registry

/-! ### Runs -/

namespace Registry

variable {r : Registry σ} {enclosures : List (Enclosure σ)}

theorem Quiet.after_request (hq : r.Quiet log enclosures) (w : World σ) (thread : Thread)
    (isUpgradable : Bool) (q : Request) :
    ∃ events, r.Bracket enclosures q { w with thread } events ∧
      log (r.dispatcher.after w (.request thread isUpgradable q)).app = log w.app ++ events := by
  obtain ⟨events, h⟩ := r.exists_bracket enclosures q { w with thread }
  exact ⟨events, h, h.logs hq isUpgradable⟩

theorem Quiet.run_logs (hq : r.Quiet log enclosures) (w : World σ) (stimuli : List Stimulus) :
    ∃ brackets : List (List TransactionEvent),
      (∀ b ∈ brackets, b = [.begun] ∨ b = [.begun, .committed] ∨ b = [.begun, .rolledBack]) ∧
      brackets.length ≤ stimuli.countP Stimulus.isRequest ∧
      log (r.dispatcher.run w stimuli).app = log w.app ++ brackets.flatten := by
  induction stimuli generalizing w with
  | nil => exact ⟨[], by simp, by simp, by simp [Dispatcher.run]⟩
  | cons stimulus stimuli ih =>
    obtain ⟨brackets, hb, hlen, hlog⟩ := ih (r.dispatcher.after w stimulus)
    rw [Dispatcher.run, List.foldl_cons, ← Dispatcher.run, hlog]
    cases stimulus with
    | wait ms => exact ⟨brackets, hb, hlen, rfl⟩
    | evict => exact ⟨brackets, hb, hlen, rfl⟩
    | request thread isUpgradable q =>
      obtain ⟨events, he, hl⟩ := hq.after_request w thread isUpgradable q
      rw [hl, List.append_assoc, List.countP_cons_of_pos rfl]
      rcases he.events_eq with rfl | hne
      · exact ⟨brackets, hb, by omega, rfl⟩
      · refine ⟨events :: brackets, ?_, by simpa using hlen, rfl⟩
        intro b hm
        rcases List.mem_cons.1 hm with rfl | hm
        · exact hne
        · exact hb b hm

/-- Units of work. Every outcome of a route in a transaction follows one of the rules: the log has the
events of that rule, and the wrappers see the end that it gives. A request adds the events of one unit
of work at most, and the log of a run is a sequence of these. -/
theorem units_of_work (hq : r.Quiet log enclosures) :
    (∀ p ∈ r.routes, ∀ m o, p.terminal.transactions = some (m, o) →
      ∀ s u, p.terminal.authorize s = (.ok true, u) →
      let v := { u with exchange := Terminal.putHeaders p.terminal.headers u.exchange }
      (∃ events result, p.terminal.UnitOfWork m o v events result) ∧
      ∀ events result, p.terminal.UnitOfWork m o v events result →
        log (p.terminal.handler s).2.world.app = log s.world.app ++ events ∧
        (∀ answer x, result = (.ok answer, x) →
          p.terminal.handler s = p.terminal.respond answer x) ∧
        (∀ f x, result = (.error f, x) → p.terminal.handler s = (.error f, x)) ∧
        ∀ panic x, result = (.panic panic, x) → p.terminal.handler s = (.panic panic, x)) ∧
    (∀ isUpgradable q w, (∃ events, r.Bracket enclosures q w events) ∧
      ∀ events, r.Bracket enclosures q w events →
        log (r.dispatcher.dispatch isUpgradable q w).2.app = log w.app ++ events) ∧
    ∀ w stimuli, ∃ brackets : List (List TransactionEvent),
      (∀ b ∈ brackets, b = [.begun] ∨ b = [.begun, .committed] ∨ b = [.begun, .rolledBack]) ∧
      brackets.length ≤ stimuli.countP Stimulus.isRequest ∧
      log (r.dispatcher.run w stimuli).app = log w.app ++ brackets.flatten := by
  refine ⟨fun p hp m o ht s u h ↦ ⟨Terminal.exists_unitOfWork .., fun events result hu ↦ ?_⟩,
    fun isUpgradable q w ↦ ⟨r.exists_bracket enclosures q w, fun events h ↦ h.logs hq isUpgradable⟩,
    hq.run_logs⟩
  have hb : p.terminal.Bracket s events := .unit ht h hu
  exact ⟨hb.logs (hq.terminals p hp) (hq.managers p hp), Terminal.handler_of_unitOfWork ht h hu⟩

end Registry

/-! ### A manager whose rollbacks fail -/

def TransactionManager.lossy : TransactionManager (List TransactionEvent) where
  start _ := fun log ↦ (.ok
    { commit := fun log ↦ (.ok (), log ++ [.committed])
      rollback := fun log ↦ (.error (.transaction "connection lost"), log ++ [.rolledBack]) },
    log ++ [.begun])

theorem TransactionManager.lossy_records : lossy.Records id where
  start _ _ := rfl
  commit := by
    rintro o a t ⟨⟩ b
    rfl
  rollback := by
    rintro o a t ⟨⟩ b
    rfl

def Terminal.failing : Terminal (List TransactionEvent) :=
  { Terminal.plain fun _ ↦ Run.fail (.other "insert failed") with
    transactions := some (.lossy, {}) }

theorem Registry.single_failing_quiet : (single .failing).Quiet id [] where
  handlerWrappers := rfl
  predicates := by
    intro p hp predicate hm
    obtain rfl := List.mem_singleton.1 hp
    cases hm
  wrappers := by
    intro w hw
    cases hw
  enclosures := by
    intro e he
    cases he
  terminals := by
    intro p hp
    obtain rfl := List.mem_singleton.1 hp
    refine ⟨?_, fun _ _ ↦ rfl, fun _ _ ↦ rfl, ?_⟩
    · rintro auth ⟨⟩
    · rintro template ⟨⟩
  managers := by
    intro p hp m o h
    obtain rfl := List.mem_singleton.1 hp
    cases h
    exact TransactionManager.lossy_records

theorem Registry.units_of_work_of_failing :
    (single .failing).Quiet id [] ∧
    (Terminal.failing.handler ⟨.ofRequest rootRequest.head, freshWorld []⟩).1 =
      .error (.other "insert failed") ∧
    (∃ brackets : List (List TransactionEvent),
      (∀ b ∈ brackets, b = [.begun] ∨ b = [.begun, .committed] ∨ b = [.begun, .rolledBack]) ∧
      brackets.length ≤ 2 ∧
      ((single .failing).dispatcher.run (freshWorld [])
        (.replicate 2 (.request .worker true rootRequest))).app = [] ++ brackets.flatten) ∧
    ((single .failing).dispatcher.run (freshWorld [])
      (.replicate 2 (.request .worker true rootRequest))).app =
        [.begun, .rolledBack, .begun, .rolledBack] := by
  obtain ⟨hterminal, -, hrun⟩ := units_of_work single_failing_quiet
  refine ⟨single_failing_quiet, ?_,
    hrun (freshWorld []) (.replicate 2 (.request .worker true rootRequest)), rfl⟩
  have h := (hterminal _ List.mem_cons_self .lossy {} rfl
    ⟨.ofRequest rootRequest.head, freshWorld []⟩ _ rfl).2 _ _ (.failed rfl rfl rfl)
  rw [h.2.2.1 _ _ rfl]

end WebDispatch
