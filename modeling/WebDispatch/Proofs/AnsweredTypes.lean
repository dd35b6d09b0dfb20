import WebDispatch.Proofs.Courses

namespace WebDispatch

open Http

variable {σ : Type}

namespace Setup

theorem exists_route {s : Setup σ} {past : List (Registration σ)} {method : Method} {path : String}
    {options : Options σ} {spec : HandlerSpec (RouteFunction σ)}
    (h : (s.afterAll past).accepts (.route method path options spec) = true)
    (later : List (Registration σ)) :
    ∃ config p, (s.registry.inForce past).Makes (s.afterAll past).app method path options spec
        config p ∧
      (s.afterAll (past ++ .route method path options spec :: later)).registry.routes[
        (s.afterAll past).registry.routes.length]? = some p := by
  obtain ⟨entries, -, hpast⟩ := s.registry_afterAll past
  rcases (s.afterAll past).after_cases (.route method path options spec) with
    ⟨-, e, he, hafter⟩ | ⟨hn, -⟩
  · rw [hpast] at he
    have he' := Registration.adds_extend_iff.1 he
    cases he' with
    | @route _ _ _ _ config p hmakes =>
      refine ⟨config, p, hmakes, ?_⟩
      obtain ⟨added, -, hall⟩ :=
        ((s.afterAll past).after (.route method path options spec)).registry_afterAll later
      have hsplit : (s.afterAll (past ++ .route method path options spec :: later)).registry =
          (((s.afterAll past).after (.route method path options spec)).registry.inForce
            later).extend added := by
        rw [afterAll_append, ← hall]
        rfl
      rw [hsplit, hafter, Registry.extend_route]
      simp only [Registry.extend, Registry.inForce]
      rw [List.append_assoc, List.getElem?_append_right (Nat.le_refl _), Nat.sub_self]
      rfl
  · rw [h] at hn
    cases hn

variable {s : Setup σ} {past : List (Registration σ)} {method : Method} {path : String}
  {options : Options σ} {spec : HandlerSpec (RouteFunction σ)}

def stamp (type : String) : Run (Scene Unit) Unit :=
  Run.tryExchange fun x ↦ x.setHeader HeaderName.contentType.text type

def stampAround : Enclosure Unit where
  enter := do
    stamp "image/gif"
    return some Run.ofOutcome

def stamping : Setup Unit where
  registry := Collaborators.registry
    { settings := { workerThreads := 1 }
      templates := { path := "" }
      handlerWrappers := [stampAround.wrap] }
  app := ()

def emptyObject : HandlerSpec (RouteFunction Unit) where
  function _ := pure (.structured (.object []))

def objectTerminal (headers : List (HeaderName × HeaderValue)) (default : Option HeaderValue) :
    Terminal Unit :=
  { Terminal.plain emptyObject.function with
    injections := stamping.registry.injector.bind []
    headers
    defaultContentType := default }

/-- A structured answer has the content type of the serializer if the first of the default types is
also the last; otherwise the last default type stays. Where the defaults name none there is nothing to
replace, so that nothing names the type of the answer. -/
theorem structured_typed_over_single_default
    (h : (s.afterAll past).accepts (.route method path options spec) = true)
    (hown : options.ownTypes = []) (later : List (Registration σ)) :
    let r := (s.afterAll (past ++ .route method path options spec :: later)).registry
    let i := (s.afterAll past).registry.routes.length
    let types := (s.registry.inForce past).defaults.types
    ∃ config p, (s.registry.inForce past).Makes (s.afterAll past).app method path options spec
        config p ∧ r.routes[i]? = some p ∧
      (config.template = none → ∀ q w (C : r.Course q w i p.terminal) isUpgradable v x text value,
        p.terminal.invokeInTransaction (p.terminal.opened C.admitted) = (.ok (.structured v), x) →
        x.exchange.ended = false → p.terminal.serializer.serialize v = .ok text →
        HeaderValue.parse? p.terminal.serializer.contentType = some value → ∃ response,
          (r.dispatcher.dispatch isUpgradable q w).1 = .answered response ∧
          (types ≠ [] → types.head? = types.getLast? →
            response.headers.getAll .contentType = [value]) ∧
          (types.head? ≠ types.getLast? →
            response.headers.getAll .contentType = types.getLast?.toList) ∧
          (types = [] → C.admitted.types = C.start.types →
            response.headers.getAll .contentType = [])) := by
  intro r i types
  obtain ⟨config, p, hmakes, hp⟩ := exists_route h later
  refine ⟨config, p, hmakes, hp, fun ht q w C isUpgradable v x text value hr hended htext hvalue ↦ ?_⟩
  obtain ⟨response, hresponse, htypes⟩ := C.answered hp isUpgradable
  have htemplate : p.terminal.template = none := by
    have hsome := (Registry.findTemplate_eq_ok hmakes.template).1
    rw [ht] at hsome
    exact Option.not_isSome_iff_eq_none.1 (by rw [← hsome]; exact Bool.false_ne_true)
  obtain ⟨hdefault, hconf⟩ := hmakes.contentType_of_default hown htemplate
  rw [Terminal.types_handler_structured C.authorized C.function hr htemplate hended htext hvalue,
    Terminal.types_structured_over_defaults value C.admitted hdefault hconf] at htypes
  refine ⟨response, hresponse, fun hne heq ↦ ?_, fun hne ↦ ?_, fun hnil hkept ↦ ?_⟩
  · rw [htypes, if_neg hne, if_pos heq]
  · have hnil : types ≠ [] := fun hnil ↦ hne (by rw [hnil]; rfl)
    rw [htypes, if_neg hnil, if_neg hne]
  · rw [htypes, if_pos hnil, hkept, C.types_start]

/-! ### A route without headers of its own -/

def bare : Setup Unit where
  registry := Collaborators.registry
    { settings := { workerThreads := 1 }
      templates := { path := "" } }
  app := ()

def objectRoute : Registration Unit :=
  .route .get "/" .empty emptyObject

def jsonType : HeaderValue :=
  ⟨Text.Utf8.encode "application/json"⟩

def objectOver (headers : List (String × String)) : Registry Unit :=
  (bare.afterAll [.setDefault "headers" (.map headers), objectRoute]).registry

def csvType : HeaderValue :=
  ⟨Text.Utf8.encode "text/csv"⟩

def objectCourse : (objectOver [("Content-Type", "text/csv")]).Course rootRequest (freshWorld ()) 0
    (objectTerminal [(.contentType, csvType)] (some csvType)) :=
  Registry.directCourse ⟨.get, ⟨"/", []⟩, none, _⟩
    (.intro (c := []) rfl
      ⟨⟨rfl, rfl, rfl, fun _ hp ↦ (nomatch hp)⟩, fun j hj ↦ absurd hj (Nat.not_lt_zero j)⟩ rfl)
    rfl rfl rfl (fun _ _ ↦ rfl) rfl

theorem structured_typed_over_csv :
    ∃ response, ((objectOver [("Content-Type", "text/csv")]).dispatcher.dispatch true rootRequest
        (freshWorld ())).1 = .answered response ∧
      response.headers.getAll .contentType = [jsonType] := by
  have haccepts : (bare.afterAll [.setDefault "headers" (.map [("Content-Type", "text/csv")])]).accepts
      objectRoute = true := rfl
  obtain ⟨config, p, hmakes, hp, htyped⟩ := structured_typed_over_single_default haccepts rfl []
  obtain rfl : ⟨.get, ⟨"/", []⟩, none, objectTerminal [(.contentType, csvType)] (some csvType)⟩ = p :=
    Option.some.inj hp
  have hplain : config.template = none := by
    obtain rfl : _ = config := Except.ok.inj hmakes.validated
    rfl
  obtain ⟨response, hresponse, hsame, -⟩ := htyped hplain rootRequest (freshWorld ()) objectCourse
    true (.object []) _ "\x7b\x7d" jsonType rfl rfl rfl rfl
  exact ⟨response, hresponse, hsame (List.cons_ne_nil _ _) rfl⟩

/-- No wrapper is there to write a content type, yet an object is sent without any where the defaults
name none, and with the last one where they name two. -/
theorem structured_not_typed_by_serializer :
    let r := objectOver [("X-Served-By", "edge")]
    let r' := objectOver [("content-type", "text/plain"), ("Content-Type", "text/csv")]
    (r.wrappers = [] ∧ r.handlerWrappers = [] ∧
      HeaderValue.parse? r.serializer.contentType = some jsonType ∧
      ∃ response, (r.dispatcher.dispatch true rootRequest (freshWorld ())).1 = .answered response ∧
        response.content = .bytes (Text.Utf8.encode "\x7b\x7d") ∧
          response.headers.getAll .contentType = []) ∧
    r'.wrappers = [] ∧ r'.handlerWrappers = [] ∧
      HeaderValue.parse? r'.serializer.contentType = some jsonType ∧
      ∃ response, (r'.dispatcher.dispatch true rootRequest (freshWorld ())).1 = .answered response ∧
        response.content = .bytes (Text.Utf8.encode "\x7b\x7d") ∧
          response.headers.getAll .contentType = [csvType] :=
  ⟨⟨rfl, rfl, rfl, _, rfl, rfl, rfl⟩, rfl, rfl, rfl, _, rfl, rfl, rfl⟩

end Setup

end WebDispatch
