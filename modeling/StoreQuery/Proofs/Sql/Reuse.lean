import StoreQuery.Proofs.Backend.Uses
import StoreQuery.Proofs.Sql.ReadBack

/-! # Reuse — the parameters of a statement that is used again and again

    A statement may be rendered into more than once, node by node or by whole
    builds, and any of these may fail.  Whatever is done, its parameters only
    grow, and each is named by its place.

    Every use binds some texts behind the parameters that are there and
    leaves everything else but text and options (`use_binds`).  What is said
    of all uses is what that step keeps; what is said of one that fails comes
    from the outcome that the rendering of any filter has. -/

namespace StoreQuery.Sql

/-! ## Leaves before an offence -/

/-- Only texts are accepted. -/
theorem text_of_mem_accepted {leaves : List (String × List Value)} :
    ∀ v ∈ accepted leaves, ∃ t, v = .text t := by
  induction leaves with
  | nil => exact List.forall_mem_nil _
  | cons leaf rest ih =>
    rw [accepted]
    cases hleaf : offence leaf with
    | some e => exact List.forall_mem_nil _
    | none => exact List.forall_mem_append.mpr ⟨(offence_eq_none_iff.mp hleaf).2, ih⟩

/-- What is accepted are the values of the leaves before the one that gives the first offence. -/
theorem accepted_of_offence {leaves : List (String × List Value)} {e : QueryError}
    (h : leaves.findSome? offence = some e) :
    ∃ before leaf behind, leaves = before ++ leaf :: behind ∧ (∀ l ∈ before, offence l = none)
      ∧ offence leaf = some e ∧ accepted leaves = before.flatMap Prod.snd := by
  obtain ⟨before, leaf, behind, rfl, hleaf, hbefore⟩ := List.findSome?_eq_some_iff.mp h
  have hnone : before.findSome? offence = none := List.findSome?_eq_none_iff.mpr hbefore
  refine ⟨before, leaf, behind, rfl, hbefore, hleaf, ?_⟩
  rw [accepted_append_of_none hnone, accepted_eq_flatMap hnone, accepted, hleaf]
  exact List.append_nil _

/-! ## What one use does -/

section Use

variable (d : Dialect)

/-- The leaves of a query are those of its filter. -/
def leavesOf (q : Query) : List (String × List Value) :=
  q.filter.elim [] Filter.leaves

/-- Rendering the predicate of a query binds values up to the first offence. -/
theorem predicate_run (q : Query) (s : Statement) :
    ∃ text, (Statement.backend d).predicate q s =
      ⟨((leavesOf q).findSome? offence).elim (.ok text) .error,
        s.binding d (accepted (leavesOf q)), []⟩ := by
  obtain ⟨filter, sort, page⟩ := q
  cases filter with
  | none => exact ⟨"", congrArg (Outcome.mk _ · []) (binding_nil d s).symm⟩
  | some f =>
    refine ⟨(place d s.parameters.length f).text, ?_⟩
    show ((Statement.backend d).render f >>= _) s = _
    rw [Act.bind_elim (render_run d f s), leavesOf, Option.elim_some]
    cases f.leaves.findSome? offence <;> rfl

/-- A build gives the first offence and leaves the values before it bound; without an offence it
    binds all values and finishes the statement. -/
theorem build_run (q : Query) (s : Statement) :
    ∃ text, ((Statement.backend d).build q s).result
        = ((leavesOf q).findSome? offence).elim (.ok ()) .error
      ∧ ((Statement.backend d).build q s).state
        = ((leavesOf q).findSome? offence).elim
          { s.binding d (accepted (leavesOf q)) with
            text := text, options := Statement.optionsOf q.page }
          fun _ => s.binding d (accepted (leavesOf q)) := by
  obtain ⟨predicate, hpredicate⟩ := predicate_run d q s
  refine ⟨Statement.selectText d s.collection predicate q.sort, ?_⟩
  rw [Backend.build, Act.bind_elim hpredicate]
  cases (leavesOf q).findSome? offence <;> exact ⟨rfl, rfl⟩

/-- A leaf that gives offence binds nothing. -/
theorem binding_of_offence {leaf : String × List Value} {text : String} {e : QueryError}
    (h : (offence leaf).elim (.ok text) .error = Except.error e) (s : Statement) :
    s.binding d (accepted [leaf]) = s := by
  rw [accepted]
  cases hleaf : offence leaf with
  | none =>
    rw [hleaf, Option.elim_none] at h
    cases h
  | some e' => exact binding_nil d s

/-- A build fails at the first leaf that gives offence, with the values before it bound. -/
theorem build_failed {q : Query} {s : Statement} {e : QueryError}
    (h : ((Statement.backend d).build q s).result = .error e) :
    ∃ f before leaf behind, q.filter = some f ∧ f.leaves = before ++ leaf :: behind
      ∧ (∀ l ∈ before, offence l = none) ∧ offence leaf = some e
      ∧ ((Statement.backend d).build q s).state = s.binding d (before.flatMap Prod.snd) := by
  obtain ⟨text, hresult, hstate⟩ := build_run d q s
  rw [h] at hresult
  cases hoffence : (leavesOf q).findSome? offence with
  | none =>
    rw [hoffence] at hresult
    exact nomatch hresult
  | some e' =>
    rw [hoffence] at hresult hstate
    obtain ⟨before, leaf, behind, hleaves, hbefore, hleaf, haccepted⟩ :=
      accepted_of_offence hoffence
    -- without a filter there would be no leaf
    have hfilter : ∃ f, q.filter = some f ∧ f.leaves = leavesOf q := by
      rw [leavesOf] at hoffence ⊢
      cases hq : q.filter with
      | none =>
        rw [hq] at hoffence
        exact nomatch hoffence
      | some f => exact ⟨f, rfl, rfl⟩
    obtain ⟨f, hq, hf⟩ := hfilter
    refine ⟨f, before, leaf, behind, hq, hf.trans hleaves, hbefore, ?_, ?_⟩
    · rw [hleaf, Except.error.inj hresult]
    · rw [hstate, haccepted]
      rfl

/-- Whatever a statement is used for, texts are bound behind its parameters, and nothing else but
    text and options is changed. -/
theorem use_binds (s : Statement) (u : Backend.Use) :
    ∃ values text options, (∀ v ∈ values, ∃ t, v = Value.text t)
      ∧ (Statement.backend d).use s u = { s.binding d values with text, options } := by
  cases u with
  | visit visit =>
    cases visit with
    | eq key value =>
      refine ⟨accepted [(key, [value])], s.text, s.options, text_of_mem_accepted, ?_⟩
      exact congrArg Outcome.state (renderEq_run d key value s)
    | isIn key values =>
      refine ⟨accepted [(key, values)], s.text, s.options, text_of_mem_accepted, ?_⟩
      exact congrArg Outcome.state (renderIn_run d key values s)
    | all children | any children =>
      exact ⟨[], s.text, s.options, List.forall_mem_nil _, (binding_nil d s).symm⟩
  | finish predicate q =>
    refine ⟨[], Statement.selectText d s.collection predicate q.sort, Statement.optionsOf q.page,
      List.forall_mem_nil _, ?_⟩
    rw [binding_nil]
    rfl
  | build q =>
    -- values are bound up to the first offence, if there is one; only without does a finish follow
    obtain ⟨text, -, hstate⟩ := build_run d q s
    rw [Backend.use, hstate]
    cases (leavesOf q).findSome? offence with
    | some e => exact ⟨_, s.text, s.options, text_of_mem_accepted, rfl⟩
    | none => exact ⟨_, text, Statement.optionsOf q.page, text_of_mem_accepted, rfl⟩

end Use

/-! ## Many uses -/

section Uses

variable (d : Dialect)

/-- Parameters that are texts, bound one after the other from the first placeholder on. -/
def Numbered (parameters : List Parameter) : Prop :=
  ∃ values, (∀ v ∈ values, ∃ t, v = Value.text t) ∧ parameters = bound d 0 values

/-- Texts that are bound go on with the numbers. -/
theorem numbered_binding {s : Statement} (h : Numbered d s.parameters) {values : List Value}
    (hvalues : ∀ v ∈ values, ∃ t, v = Value.text t) :
    Numbered d (s.binding d values).parameters := by
  obtain ⟨earlier, hearlier, hparameters⟩ := h
  refine ⟨earlier ++ values, List.forall_mem_append.mpr ⟨hearlier, hvalues⟩, ?_⟩
  rw [Statement.binding, hparameters, length_bound, bound_append, Nat.zero_add]

theorem numbered_used (collection : String) (uses : List Backend.Use) :
    Numbered d ((Statement.backend d).used { collection } uses).parameters := by
  apply Backend.used_preserves (P := fun s : Statement => Numbered d s.parameters)
  · intro s u hs
    obtain ⟨values, text, options, hvalues, huse⟩ := use_binds d s u
    rw [huse]
    exact numbered_binding d hs hvalues
  · exact ⟨[], List.forall_mem_nil _, rfl⟩

/-- No use changes, removes or reorders the parameters that are there. -/
theorem prefix_parameters_used (s : Statement) (uses : List Backend.Use) :
    s.parameters <+: ((Statement.backend d).used s uses).parameters := by
  apply Backend.used_preserves (P := fun t : Statement => s.parameters <+: t.parameters)
  · intro t u ht
    obtain ⟨values, text, options, -, huse⟩ := use_binds d t u
    rw [huse]
    exact ht.trans (List.prefix_append _ _)
  · exact List.prefix_rfl

theorem getElem?_bound (k i : Nat) (values : List Value) :
    (bound d k values)[i]? = values[i]?.map (Parameter.mk (d.placeholder (k + i))) := by
  induction values generalizing k i with
  | nil => rfl
  | cons value rest ih =>
    cases i with
    | zero => rfl
    | succ i =>
      rw [bound, List.getElem?_cons_succ, ih, List.getElem?_cons_succ, Nat.add_assoc,
        Nat.add_comm 1]

/-- The parameter with an index is a text under the placeholder of that index. -/
theorem Numbered.at {parameters : List Parameter} (h : Numbered d parameters) {i : Nat}
    {p : Parameter} (hp : parameters[i]? = some p) :
    p.name = d.placeholder i ∧ ∃ t, p.value = .text t := by
  obtain ⟨values, hvalues, rfl⟩ := h
  rw [getElem?_bound, Nat.zero_add] at hp
  obtain ⟨v, hv, rfl⟩ := Option.map_eq_some_iff.mp hp
  exact ⟨rfl, hvalues v (List.mem_of_getElem? hv)⟩

end Uses

/-- Named parameters have different names. -/
theorem Numbered.nodup {n : Named} {parameters : List Parameter}
    (h : Numbered n.dialect parameters) : (parameters.map Parameter.name).Nodup := by
  obtain ⟨values, -, rfl⟩ := h
  exact n.nodup_name_bound 0 values

/-- However a statement is used, at any time its parameters are texts, each under the placeholder of
    its index, so that named ones have different names; later uses only put others behind them.  A
    leaf that fails leaves the statement, compounds never change it, and finishing sets text and
    options only.  A build that fails has bound the values of the leaves before the one that gives
    offence, in their order, and done nothing else. -/
theorem parameters_stand_through_reuse (d : Dialect) (collection : String)
    (uses : List Backend.Use) :
    let s := (Statement.backend d).used { collection } uses
    (∀ i p, s.parameters[i]? = some p → p.name = d.placeholder i ∧ ∃ t, p.value = .text t)
    ∧ (∀ n : Named, d = n.dialect → (s.parameters.map Parameter.name).Nodup)
    ∧ (∀ more, s.parameters
        <+: ((Statement.backend d).used { collection } (uses ++ more)).parameters)
    ∧ (∀ key value e, ((Statement.backend d).eq key value s).result = .error e →
        ((Statement.backend d).eq key value s).state = s)
    ∧ (∀ key values e, ((Statement.backend d).isIn key values s).result = .error e →
        ((Statement.backend d).isIn key values s).state = s)
    ∧ (∀ children, ((Statement.backend d).all children s).state = s
        ∧ ((Statement.backend d).any children s).state = s)
    ∧ (∀ predicate q, ∃ text options,
        ((Statement.backend d).finish predicate q s).state = { s with text, options })
    ∧ ∀ q e, ((Statement.backend d).build q s).result = .error e →
        ∃ f before leaf behind, q.filter = some f ∧ f.leaves = before ++ leaf :: behind
          ∧ (∀ l ∈ before, offence l = none) ∧ offence leaf = some e
          ∧ ((Statement.backend d).build q s).state
            = { s with
                parameters :=
                  s.parameters ++ bound d s.parameters.length (before.flatMap Prod.snd) } := by
  intro s
  have hnumbered : Numbered d s.parameters := numbered_used d collection uses
  refine ⟨fun i p hp => hnumbered.at d hp, ?_, ?_, ?_, ?_, fun children => ⟨rfl, rfl⟩, ?_,
    fun q e he => build_failed d he⟩
  · rintro n rfl
    exact hnumbered.nodup
  · intro more
    rw [Backend.used_append]
    exact prefix_parameters_used d s more
  · -- a leaf binds its values only if all of them are accepted
    intro key value e he
    have hrun : (Statement.backend d).eq key value s = _ := renderEq_run d key value s
    rw [hrun] at he ⊢
    exact binding_of_offence d he s
  · intro key values e he
    have hrun : (Statement.backend d).isIn key values s = _ := renderIn_run d key values s
    rw [hrun] at he ⊢
    exact binding_of_offence d he s
  · intro predicate q
    exact ⟨_, _, rfl⟩

/-- A leaf, a list that is refused at its second value and a build that is refused at its second
    leaf bind two values under two names; the same build again is refused at the same leaf. -/
theorem parameters_stand_through_reuse_refused :
    ∃ (uses : List Backend.Use) (q : Query),
      let d := Named.dialect ⟨some "c"⟩
      let s := (Statement.backend d).used { collection := "items" } uses
      uses = [.visit (.eq "a" (.text "x")), .visit (.isIn "b" [.text "y", .null]), .build q]
      ∧ s.parameters = [⟨d.placeholder 0, .text "x"⟩, ⟨d.placeholder 1, .text "z"⟩]
      ∧ (s.parameters.map Parameter.name).Nodup
      ∧ s.parameters <+:
        ((Statement.backend d).used { collection := "items" } (uses ++ [.build q])).parameters
      ∧ ((Statement.backend d).isIn "b" [.text "y", .null] s).state = s
      ∧ ∃ f before leaf behind, q.filter = some f ∧ f.leaves = before ++ leaf :: behind
        ∧ offence leaf = some (.unsupportedValue "d" "int")
        ∧ ((Statement.backend d).build q s).state = s.binding d (before.flatMap Prod.snd) := by
  let q : Query :=
    { filter := some (.all [.eq "c" (.text "z"), .any [.eq "d" (.int 1), .eq "e" (.text "w")]]) }
  let d : Dialect := Named.dialect ⟨some "c"⟩
  let uses : List Backend.Use :=
    [.visit (.eq "a" (.text "x")), .visit (.isIn "b" [.text "y", .null]), .build q]
  obtain ⟨-, hnames, hgrows, -, hrefused, -, -, hbuild⟩ :=
    parameters_stand_through_reuse d "items" uses
  obtain ⟨f, before, leaf, behind, hf, hleaves, -, hleaf, hstate⟩ :=
    hbuild q (.unsupportedValue "d" "int") rfl
  exact ⟨uses, q, rfl, rfl, hnames _ rfl, hgrows [.build q],
    hrefused "b" _ (.unsupportedValue "b" "null") rfl, f, before, leaf, behind, hf, hleaves, hleaf,
    hstate⟩

end StoreQuery.Sql
