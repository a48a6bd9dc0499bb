import StoreQuery.Proofs.Backend.Uses
import StoreQuery.Proofs.Find.Limit

/-! # Reuse — a request is what its last finish made of it

    A request may be rendered into more than once, node by node, by whole
    builds, or finished with any text, and any of these may fail.  Text,
    filter and options are set together by a finish that succeeds, and by
    nothing else.

    What one finish does is `finish_cases`.  So requests are a steady backend,
    and a request in use is at its last finish (`AtLastFinish`). -/

namespace StoreQuery.Find

/-- A predicate text holds an object, the empty one if it is empty and what it reads as otherwise;
    or it is refused for what it is. -/
theorem readFilter_cases (text : String) :
    (∃ members, Request.readFilter text = .ok (.obj members) ∧ (text = "" → members = [])
      ∧ (text ≠ "" → Json.parse text = .ok (.obj members)))
    ∨ ∃ why, Request.readFilter text = .error (.malformedPredicate why) := by
  rw [Request.readFilter]
  by_cases hempty : text = ""
  · rw [if_pos hempty]
    exact Or.inl ⟨[], rfl, fun _ => rfl, fun hne => absurd hempty hne⟩
  · rw [if_neg hempty]
    cases Json.parse text with
    | error why => exact Or.inr ⟨_, rfl⟩
    | ok j =>
      cases j with
      | obj members =>
        exact Or.inl ⟨members, rfl, fun hempty' => absurd hempty' hempty, fun _ => rfl⟩
      | null | bool | num | str | arr => exact Or.inr ⟨_, rfl⟩

theorem readFilter_of_object {text : String} {members : List (String × Json)}
    (h : if text = "" then members = [] else Json.parse text = .ok (.obj members)) :
    Request.readFilter text = .ok (.obj members) := by
  rw [Request.readFilter]
  by_cases hempty : text = ""
  · rw [if_pos hempty] at h ⊢
    rw [h]
  · rw [if_neg hempty] at h ⊢
    rw [h]

theorem readFilter_ok {text : String} {filter : Json} (h : Request.readFilter text = .ok filter) :
    (∃ members, filter = .obj members) ∧ (text = "" → filter = .obj [])
      ∧ (text ≠ "" → Json.parse text = .ok filter) := by
  rcases readFilter_cases text with ⟨members, hread, hempty, hparse⟩ | ⟨why, hread⟩
  · obtain rfl := Except.ok.inj (hread.symm.trans h)
    exact ⟨⟨members, rfl⟩, fun htext => congrArg Json.obj (hempty htext), hparse⟩
  · exact nomatch hread.symm.trans h

theorem readFilter_error {text : String} {e : QueryError}
    (h : Request.readFilter text = .error e) : ∃ why, e = .malformedPredicate why := by
  rcases readFilter_cases text with ⟨members, hread, -⟩ | ⟨why, hread⟩
  · exact nomatch hread.symm.trans h
  · exact ⟨why, Except.error.inj (h.symm.trans hread)⟩

/-- A query is refused only for its token. -/
theorem optionsOf_error {q : Query} {e : QueryError} (h : Request.optionsOf q = .error e) :
    e = .invalidToken q.page.token := by
  by_cases htoken : q.page.token = "" ∨ ∃ n, parseOffset q.page.token = .ok (some n)
  · obtain ⟨options, hoptions⟩ := exists_optionsOf htoken
    exact nomatch hoptions.symm.trans h
  · exact Except.error.inj (h.symm.trans (optionsOf_refused htoken))

theorem finish_of_ok {text : String} {q : Query} {filter : Json} {options : Options}
    (hfilter : Request.readFilter text = .ok filter) (hoptions : Request.optionsOf q = .ok options)
    (r : Request) : (Request.finish text q r).result = .ok ()
      ∧ (Request.finish text q r).state = ⟨text, filter, options⟩ := by
  rw [Request.finish, hfilter, Act.bind_ok_silent (Act.ofExcept_run _ r), hoptions]
  exact ⟨rfl, rfl⟩

/-- A finish sets text, filter and options, or it is refused and sets nothing. -/
theorem finish_cases (text : String) (q : Query) (r : Request) :
    (∃ filter options, Request.readFilter text = .ok filter ∧ Request.optionsOf q = .ok options
      ∧ (Request.finish text q r).result = .ok ()
      ∧ (Request.finish text q r).state = ⟨text, filter, options⟩)
    ∨ ∃ e, (Request.readFilter text = .error e
        ∨ ∃ filter, Request.readFilter text = .ok filter ∧ Request.optionsOf q = .error e)
      ∧ (Request.finish text q r).result = .error e ∧ (Request.finish text q r).state = r := by
  cases hfilter : Request.readFilter text with
  | error e =>
    rw [Request.finish, hfilter]
    exact Or.inr ⟨e, Or.inl rfl, rfl, rfl⟩
  | ok filter =>
    cases hoptions : Request.optionsOf q with
    | error e =>
      rw [Request.finish, hfilter, Act.bind_ok_silent (Act.ofExcept_run _ r), hoptions]
      exact Or.inr ⟨e, Or.inr ⟨filter, rfl, rfl⟩, rfl, rfl⟩
    | ok options => exact Or.inl ⟨filter, options, rfl, rfl, finish_of_ok hfilter hoptions r⟩

theorem finish_accepted {text : String} {q : Query} {r : Request}
    (h : (Request.finish text q r).result = .ok ()) :
    (Request.finish text q r).state.text = text
      ∧ Request.readFilter text = .ok (Request.finish text q r).state.filter
      ∧ Request.optionsOf q = .ok (Request.finish text q r).state.options := by
  rcases finish_cases text q r with
    ⟨filter, options, hfilter, hoptions, -, hset⟩ | ⟨e, -, herror, -⟩
  · rw [hset]
    exact ⟨rfl, hfilter, hoptions⟩
  · exact nomatch h.symm.trans herror

theorem finish_refused {text : String} {q : Query} {r : Request} {e : QueryError}
    (h : (Request.finish text q r).result = .error e) :
    (Request.finish text q r).state = r
      ∧ ((∃ why, e = .malformedPredicate why) ∨ e = .invalidToken q.page.token) := by
  rcases finish_cases text q r with ⟨-, -, -, -, hok, -⟩ | ⟨e', hwhy, herror, hstate⟩
  · exact nomatch hok.symm.trans h
  · obtain rfl := Except.error.inj (herror.symm.trans h)
    exact ⟨hstate, hwhy.imp readFilter_error fun ⟨_, _, hoptions⟩ => optionsOf_error hoptions⟩

theorem backend_steady : Request.backend.Steady where
  visit visit r := by cases visit <;> rfl
  finish h := (finish_refused h).1

/-- What the predicate of a query is does not hang on the request, and the request stays. -/
theorem exists_predicate (q : Query) : ∃ (text : String) (refusal : Option QueryError),
    ∀ r, Request.backend.predicate q r = ⟨refusal.elim (.ok text) .error, r, []⟩ := by
  obtain ⟨filter, sort, page⟩ := q
  cases filter with
  | none => exact ⟨"", none, fun r => rfl⟩
  | some f =>
    refine ⟨predicate f, f.leaves.findSome? offence, fun r => ?_⟩
    show (Request.backend.render f >>= _) r = _
    rw [Act.bind_elim (render_run f r)]
    cases f.leaves.findSome? offence <;> rfl

/-- A build on any request gives what compiling gives. -/
theorem build_eq_compile {σ : Type} (q : Query) (r : Request) (s : σ) :
    ((Request.backend.build q r).result.map fun _ => (Request.backend.build q r).state)
      = (Request.compile q s).result := by
  obtain ⟨text, refusal, hpredicate⟩ := exists_predicate q
  rw [compile_result text refusal (hpredicate {}) s]
  cases refusal with
  | some e =>
    rw [Backend.build_failed (hpredicate r)]
    rfl
  | none =>
    -- the predicate is the same on both, so the two differ in the request they finish only
    rw [Backend.build_finished (hpredicate r)]
    show ((Request.finish text q r).result.map fun _ => (Request.finish text q r).state) = _
    rcases finish_cases text q r with
      ⟨filter, options, hfilter, hoptions, hresult, hstate⟩ | ⟨e, hwhy, hresult, -⟩
    · rw [hresult, hstate, hfilter, hoptions]
      rfl
    · rw [hresult]
      rcases hwhy with hfilter | ⟨filter, hfilter, hoptions⟩
      · rw [hfilter]
        rfl
      · rw [hfilter, hoptions]
        rfl

/-- A request that has been put to any uses, some of which may have failed, is the one that its last
    successful finish left, with the text, the filter and the options of that finish, or the empty
    one if none succeeded.  A finish succeeds with every text that is empty or reads as an object,
    if the query has options; one that is refused leaves the request, and is refused for its text or
    its token only.  The filter is an object at all times, the one that the text reads as, or the
    empty one if the text is empty.  So whatever has been done with it, a build comes to what
    compiling comes to. -/
theorem reused_request_is_last_finished (uses : List Backend.Use) :
    let r := Request.backend.used {} uses
    let run := Request.backend.recorded.used ({}, []) uses
    let finished := Backend.finishedOf run.2
    run.1 = r
    ∧ (finished = [] → r = {})
    ∧ (∀ last ∈ finished.getLast?, r = last.state ∧ r.text = last.text
        ∧ Request.readFilter last.text = .ok r.filter
        ∧ Request.optionsOf last.query = .ok r.options)
    ∧ (∀ text members q options,
        (if text = "" then members = [] else Json.parse text = .ok (.obj members)) →
        Request.optionsOf q = .ok options → (Request.finish text q r).result = .ok ()
        ∧ (Request.finish text q r).state = ⟨text, .obj members, options⟩)
    ∧ (∀ text q e, (Request.finish text q r).result = .error e →
        (Request.finish text q r).state = r
        ∧ ((∃ why, e = .malformedPredicate why) ∨ e = .invalidToken q.page.token))
    ∧ (∃ members, r.filter = .obj members)
    ∧ (r.text = "" → r.filter = .obj []) ∧ (r.text ≠ "" → Json.parse r.text = .ok r.filter)
    ∧ ∀ q : Query, ((Request.backend.build q r).result.map fun _ =>
        (Request.backend.build q r).state) = (Request.compile q ()).result := by
  intro r run finished
  have hrun : run.1 = r := Backend.used_recorded Request.backend ({}, []) uses
  have hat : Request.backend.AtLastFinish {} run := backend_steady.atLastFinish_used {} uses
  have hnone : finished = [] → r = {} := fun hempty => hrun.symm.trans (hat.eq_start hempty)
  -- the last finish succeeded on some request, and what it set does not depend on which
  have hlast : ∀ last ∈ finished.getLast?, r = last.state ∧ r.text = last.text
      ∧ Request.readFilter last.text = .ok r.filter
      ∧ Request.optionsOf last.query = .ok r.options := by
    intro last hmem
    have hstate : r = last.state := hrun.symm.trans (hat.eq_last hmem)
    obtain ⟨s, hok, hfinish⟩ := hat.made last (List.mem_of_getLast? hmem)
    have hset := finish_accepted hok
    rw [hstate]
    exact ⟨rfl, hfinish ▸ hset⟩
  -- text and filter belong together at all times: in the empty request, and as a finish sets them
  have hfilter : Request.readFilter r.text = .ok r.filter := by
    cases hfinished : finished.getLast? with
    | none =>
      rw [hnone (List.getLast?_eq_none_iff.mp hfinished)]
      rfl
    | some last =>
      obtain ⟨-, htext, hfilter, -⟩ := hlast last hfinished
      rw [htext]
      exact hfilter
  obtain ⟨hobject, hempty, hparse⟩ := readFilter_ok hfilter
  refine ⟨hrun, hnone, hlast, ?_, fun text q e he => finish_refused he, hobject, hempty, hparse,
    fun q => build_eq_compile q r ()⟩
  intro text members q options hread hoptions
  exact finish_of_ok (readFilter_of_object hread) hoptions r

/-- A request stays what a build made of it, through a finish with a text that is no object, one
    with a token that is no offset, a visit and a build that fail. -/
theorem reused_request_is_last_finished_refused :
    ∃ (q : Query) (uses : List Backend.Use) (r : Request),
      uses = [.build q, .finish "[]" q, .finish "" { page := ⟨0, "x"⟩ }, .visit (.isIn "k" []),
        .build { filter := some (.isIn "k" []) }]
      ∧ Request.backend.used {} uses = r
      ∧ r.text = "\x7b \"k\": \"v\" \x7d" ∧ r.filter = .obj [("k", .str "v")]
      ∧ r.options = ⟨[], some 2, some 7⟩
      ∧ (∃ last ∈ (Backend.finishedOf
        (Request.backend.recorded.used ({}, []) uses).2).getLast?, last.state = r)
      ∧ (Request.finish "" { page := ⟨0, "x"⟩ } r).state = r
      ∧ Json.parse r.text = .ok r.filter
      ∧ ((Request.backend.build q r).result.map fun _ => (Request.backend.build q r).state)
        = (Request.compile q ()).result := by
  let f : Filter := .eq "k" (.text "v")
  let q : Query := { filter := some f, page := ⟨2, "7"⟩ }
  let uses : List Backend.Use := [.build q, .finish "[]" q, .finish "" { page := ⟨0, "x"⟩ },
    .visit (.isIn "k" []), .build { filter := some (.isIn "k" []) }]
  -- what the build makes of the empty request, and what the four uses behind it leave
  let r : Request := ⟨predicate f, document f, ⟨[], some 2, some 7⟩⟩
  have hoptions : Request.optionsOf { filter := some (.eq "k" (.text "v")), page := ⟨2, "7"⟩ }
      = .ok ⟨[], some 2, some 7⟩ := by rfl
  have hoffence : f.leaves.findSome? offence = none := by decide
  have hdepth : (document f).depth ≤ Json.maxDepth := by decide
  have hcompile : (Request.compile q ()).result = .ok r := by
    rw [compile_filtered (q := q) rfl, hoffence, Option.elim_none, if_pos hdepth, hoptions]
    rfl
  have hbuild : Request.backend.use {} (.build q) = r := by
    obtain ⟨-, -, hstate⟩ := map_eq_ok_iff.mp ((build_eq_compile q {} ()).trans hcompile)
    exact hstate
  have harray : Json.parse "[]" = .ok (.arr []) := by
    rw [show "[]" = (Json.arr []).compact by decide,
      Json.parse_compact (.arr (List.forall_mem_nil _)), if_pos (by decide)]
  have hread : Request.readFilter "[]" = .error (.malformedPredicate (.notDocument "[]")) := by
    rw [Request.readFilter, if_neg (by decide), harray]
  have hfinish : Request.backend.use r (.finish "[]" q) = r := by
    show (Request.finish "[]" q r).state = r
    rw [Request.finish, hread]
    rfl
  have hrest : ∀ r, Request.backend.used r [.finish "" { page := ⟨0, "x"⟩ },
      .visit (.isIn "k" []), .build { filter := some (.isIn "k" []) }] = r := fun _ => rfl
  have hused : Request.backend.used {} uses = r := by
    rw [Backend.used, List.foldl_cons, List.foldl_cons, hbuild, hfinish]
    exact hrest r
  obtain ⟨-, hnone, hlast, -, hrefused, -, -, hparse, hreuse⟩ :=
    reused_request_is_last_finished uses
  rw [hused] at hnone hlast hrefused hparse hreuse
  have htext : r.text ≠ "" := by decide
  have htoken := hrefused "" { page := ⟨0, "x"⟩ } (.invalidToken "x") rfl
  refine ⟨q, uses, r, rfl, hused, by decide, rfl, rfl, ?_, htoken.1, hparse htext, hreuse q⟩
  cases hfinished : (Backend.finishedOf
    (Request.backend.recorded.used ({}, []) uses).2).getLast? with
  | none =>
    exact absurd (congrArg Request.text (hnone (List.getLast?_eq_none_iff.mp hfinished))) htext
  | some last => exact ⟨last, rfl, (hlast last hfinished).1.symm⟩

end StoreQuery.Find
