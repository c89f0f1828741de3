import TypedId.Proofs.CommandLine.Rendering
import TypedId.Proofs.Emit.Marker

/-!
# Calls for the marker attribute

A call for the source of the marker attribute is accepted with every dotted path for its namespace (`readCall_marker`) and
with no other text (`isDottedPath_of_readCall`), and so it is with the empty path. The source that it delivers has nested
brackets and a legal namespace, unless the namespace is the global one (`marker_has_legal_namespace_unless_global`).
-/

set_option autoImplicit false

namespace TypedId.CommandLine

open Text Emit Files

variable {environment : String → Option String} {status : String → Status} {arguments : List String} {store : Store}
  {verbose : Bool} {space : String} {output : Option String}

/-! ## Namespaces that are accepted -/

/-- A call for the marker that is read has a dotted path for its namespace, or an empty one. -/
theorem isDottedPath_of_readCall
    (h : readCall environment status arguments = .request verbose (.attributeSource space output)) :
    isDottedPath space = true := by
  obtain ⟨command, given, hcheck, hrequest⟩ := of_readCall h
  cases command with
  | gen => exact absurd hrequest (by simp [requestOf])
  | render => exact absurd hrequest (by simp [requestOf])
  | info => exact absurd hrequest (by simp [requestOf])
  | attributeSource =>
    rw [requestOf] at hrequest
    obtain ⟨rfl, -⟩ := Request.attributeSource.inj hrequest
    have hspace := objection?_space_eq_none_iff.1 (objection?_eq_none hcheck rfl)
    cases hvalue : (Setting.mk (some .attributeSource) given environment status).value? spaceOption with
    | none => decide
    | some space => exact hspace space hvalue

/-- The arguments of a call for the marker attribute in a namespace. -/
def markerArguments (space : String) : List String :=
  ["attribute", "--namespace", space]

/-- Where no variable has a say, the arguments for the marker are read as the request for it. -/
theorem readCall_marker (hfree : SetsNothing environment) (h : isDottedPath space = true) :
    readCall environment status (markerArguments space) = .request false (.attributeSource space none) := by
  have hread : readCommand environment status .attributeSource ["--namespace", space]
      = .ok (.attributeSource space none) := by
    refine readCommand_eq_ok_iff.2 ⟨⟨[(.space, some space)], []⟩, rfl, rfl, ?_, ?_⟩
    · refine checkOptions_eq_ok rfl fun spec hspec => ?_
      simp only [Command.options, List.mem_cons, List.not_mem_nil, or_false] at hspec
      rcases hspec with rfl | rfl | rfl
      · refine objection?_space_eq_none_iff.2 fun other hother => ?_
        rwa [← Option.some.inj (show some space = some other from hother)]
      · rfl
      · exact objection?_flag hfree (Or.inr (Or.inr rfl))
    · have houtput : (Setting.mk (some .attributeSource) ⟨[(.space, some space)], []⟩ environment status).value?
          outputFileOption = none := fromEnvironment?_eq_none hfree
      rw [requestOf, houtput]
      rfl
  exact readCall_command hfree hread

/-! ## The source that is delivered -/

/-- A call for the marker prints or writes its source. -/
theorem delivers_marker
    (h : readCall environment store.status arguments = .request verbose (.attributeSource space output)) :
    Delivers (runCall environment arguments store) store (Marker.render space) output := by
  have hplan : planCall environment store.status arguments = deliver output (Marker.render space) := by
    rw [planCall, h, replyPlan, requestPlan]
  rw [runCall, hplan]
  exact delivers_run output _ store

/-- A call for the marker attribute is accepted with a dotted path for its namespace only. It delivers a source with nested
brackets, whose declarations stand in the block of that namespace or which has no keyword for one, unless the namespace is
the global one. -/
theorem marker_has_legal_namespace_unless_global
    (hcall : readCall environment store.status arguments = .request verbose (.attributeSource space output)) :
    isDottedPath space = true ∧ ∃ text, Delivers (runCall environment arguments store) store text output ∧
      Nested text.toList ∧ (Marker.HasLegalNamespace space text ↔ space ≠ "") := by
  have hspace := isDottedPath_of_readCall hcall
  exact ⟨hspace, Marker.render space, delivers_marker hcall, Marker.nested_render hspace,
    Marker.hasLegalNamespace_render_iff hspace⟩

/-- The marker attribute in a namespace of two parts. -/
theorem marker_of_two_parts_has_legal_namespace :
    readCall (fun _ => none) (Store.mk []).status (markerArguments "Acme.Ids")
      = .request false (.attributeSource "Acme.Ids" none) ∧
    ∃ text, runCall (fun _ => none) (markerArguments "Acme.Ids") ⟨[]⟩ = ⟨.exit 0, ⟨text, "", [], ⟨[]⟩⟩⟩ ∧
      Nested text.toList ∧ Marker.HasLegalNamespace "Acme.Ids" text := by
  have hcall : readCall (fun _ => none) (Store.mk []).status (markerArguments "Acme.Ids")
      = .request false (.attributeSource "Acme.Ids" none) := readCall_marker setsNothing_none (by decide)
  obtain ⟨-, text, hdelivers, hnested, hlegal⟩ := marker_has_legal_namespace_unless_global hcall
  exact ⟨hcall, text, hdelivers, hnested, hlegal.2 (by decide)⟩

/-- Not every source that is delivered has a legal namespace: for the global one the line for a namespace names none. -/
theorem not_every_marker_has_legal_namespace :
    ¬ ∀ (environment : String → Option String) (arguments : List String) (store : Store) (verbose : Bool) (space : String)
      (output : Option String),
      readCall environment store.status arguments = .request verbose (.attributeSource space output) →
        ∃ text, Delivers (runCall environment arguments store) store text output ∧ Nested text.toList ∧
          Marker.HasLegalNamespace space text := by
  intro h
  have hcall : readCall (fun _ => none) (Store.mk []).status (markerArguments "")
      = .request false (.attributeSource "" none) := readCall_marker setsNothing_none (by decide)
  obtain ⟨text, hdelivers, -, hlegal⟩ := h _ _ _ _ _ _ hcall
  have hsame : (⟨.exit 0, ⟨Marker.render "", "", [], ⟨[]⟩⟩⟩ : Outcome) = ⟨.exit 0, ⟨text, "", [], ⟨[]⟩⟩⟩ :=
    (delivers_marker hcall).symm.trans hdelivers
  obtain rfl : Marker.render "" = text := congrArg (fun outcome => outcome.trace.output) hsame
  exact (Marker.hasLegalNamespace_render_iff (by decide)).1 hlegal rfl

end TypedId.CommandLine
