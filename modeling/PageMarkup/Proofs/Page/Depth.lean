import PageMarkup.Page.Module
import PageMarkup.Proofs.Page.Unseen
import PageMarkup.Proofs.Render.Calls
import PageMarkup.Template.Source

/-!
# Pages and the maximum depth

A page that can be generated stays the same when the maximum depth is raised, and a node is rendered
alike at every depth as long as it is as far from the maximum. Whatever hooks make up, a page is
settled by finitely many nested calls of the renderer, each of which is one level deeper than the
one before, and which stop at the maximum depth.

## Main definitions

* `renderRootBy`, `pageTreeBy` : the tree of a document, with the calls of the renderer left open.

## Main results

* `maxDepth_only_guards` : what the maximum depth and the depth of a node have a part in.
* `pageTree_settled` : how calls nest, and how many of them settle a page.
-/

namespace PageMarkup

open Render (Refines)

section

variable {table : ComponentTable} {settings : Settings} {limit limit' : Int}

/-! ### A greater maximum depth -/

theorem refines_renderRoot_limited (h : limit ≤ limit') (nodes : List Value) :
    Refines Eq (renderRoot table (settings.limited limit) nodes)
      (renderRoot table (settings.limited limit') nodes) := by
  have hroom : limit - 0 ≤ limit' - 0 := by omega
  have htop : Refines Eq (renderSiblings (renderer table (settings.limited limit) 0) true nodes)
      (renderSiblings (renderer table (settings.limited limit') 0) true nodes) :=
    related_renderSiblings Refines.isCongruence.isSequential true fun node _ place =>
      refines_renderer_of_le table settings hroom node place
  rw [renderRoot, renderRoot, Settings.requestFramework_limited, Settings.requestFramework_limited]
  exact .bind_same _ fun _ => htop.bind fun _ _ heq => .pure (heq ▸ rfl)

theorem pageTree_limited_of_le (h : limit ≤ limit') {document : Value} {schema : Definition}
    {base : Int} {page : PageTree}
    (hpage : pageTree (settings.limited limit) document schema base = .ok page) :
    pageTree (settings.limited limit') document schema base = .ok page := by
  obtain ⟨nodes, hnodes, htree⟩ := bind_eq_ok_iff.mp hpage
  obtain ⟨table, htable, -⟩ := bind_eq_ok_iff.mp htree
  obtain ⟨root, run, text, ds, hrun, hwritten⟩ := (pageTree_eq_ok_iff hnodes htable).mp hpage
  obtain ⟨_, hrun', rfl⟩ := refines_renderRoot_limited h nodes _ root run hrun
  exact (pageTree_eq_ok_iff hnodes htable).mpr ⟨root, run, text, ds, hrun', hwritten⟩

theorem pageModule_limited_of_le (h : limit ≤ limit') {engine : TemplateEngine} {document : Value}
    {schema : Definition} {made : PageModule}
    (hmade : pageModule engine (settings.limited limit) document schema = .ok made) :
    pageModule engine (settings.limited limit') document schema = .ok made := by
  obtain ⟨tree, htree, hrest⟩ := bind_eq_ok_iff.mp hmade
  exact bind_eq_ok_iff.mpr ⟨tree, pageTree_limited_of_le h htree, hrest⟩

end

/-- **The maximum depth is only a guard.** Take any components, with arbitrary hooks, and a node in
any state of a run. Its markup and the state it leaves, or that it has none, do not depend on how
deep it stands, as long as the maximum depth moves along. What can be rendered is rendered alike
under every greater maximum depth, and so a tree or a module never changes when this is raised. -/
theorem maxDepth_only_guards (table : ComponentTable) (settings : Settings) (limit depth : Int)
    (node : Value) (place : Place) (st : RunState) :
    (∀ k m st', (renderer table (settings.limited limit) depth node place).outcome st =
        (.ok m, st') ↔
      (renderer table (settings.limited (limit + k)) (depth + k) node place).outcome st =
        (.ok m, st')) ∧
    ∀ limit', limit ≤ limit' →
      (∀ m st', (renderer table (settings.limited limit) depth node place).outcome st =
          (.ok m, st') →
        (renderer table (settings.limited limit') depth node place).outcome st = (.ok m, st')) ∧
      (∀ document schema base page,
        pageTree (settings.limited limit) document schema base = .ok page →
          pageTree (settings.limited limit') document schema base = .ok page) ∧
      ∀ engine document schema made,
        pageModule engine (settings.limited limit) document schema = .ok made →
          pageModule engine (settings.limited limit') document schema = .ok made := by
  have hkeeps : ∀ {limit limit' depth depth' : Int}, limit - depth ≤ limit' - depth' → ∀ m st',
      (renderer table (settings.limited limit) depth node place).outcome st = (.ok m, st') →
        (renderer table (settings.limited limit') depth' node place).outcome st = (.ok m, st') := by
    intro limit limit' depth depth' h m st' hrun
    obtain ⟨_, hrun', rfl⟩ := refines_renderer_of_le table settings h node place st m st' hrun
    exact hrun'
  refine ⟨fun k m st' => ⟨hkeeps (by omega) m st', hkeeps (by omega) m st'⟩, fun limit' h => ?_⟩
  refine ⟨hkeeps (by omega), fun document schema base page hpage => ?_, fun _ _ _ _ hmade => ?_⟩
  · exact pageTree_limited_of_le h hpage
  · exact pageModule_limited_of_le h hmade

theorem Render.exists_outcome_of_isOk {α : Type} {r : Render α} {st : RunState}
    (h : (r.outcome st).1.isOk = true) : ∃ a st', r.outcome st = (.ok a, st') := by
  obtain ⟨a, ha⟩ := exists_of_isOk h
  exact ⟨a, (r.outcome st).2, Prod.ext ha rfl⟩

/-- A section with two texts, which stand one level deeper. -/
def plainSection : Value :=
  sectionNode [] [textNode [], textNode []]

/-- The texts of a section may be as deep as the maximum, and a greater maximum depth changes
neither the markup of the section nor its page. -/
theorem plainSection_limited :
    (∃ m st', (renderer sectionTable (Settings.default.limited 1) 0 plainSection
        ⟨false, true⟩).outcome .initial = (.ok m, st') ∧
      (renderer sectionTable (Settings.default.limited 7) 6 plainSection
        ⟨false, true⟩).outcome .initial = (.ok m, st') ∧
      (renderer sectionTable (Settings.default.limited 9) 0 plainSection
        ⟨false, true⟩).outcome .initial = (.ok m, st')) ∧
    (∃ page, pageTree (Settings.default.limited 1) (.list [plainSection]) sectionSchema 0 =
        .ok page ∧
      pageTree (Settings.default.limited 9) (.list [plainSection]) sectionSchema 0 = .ok page) ∧
    ∃ made, pageModule .reading (Settings.default.limited 1) (.list [plainSection]) sectionSchema =
        .ok made ∧
      pageModule .reading (Settings.default.limited 9) (.list [plainSection]) sectionSchema =
        .ok made := by
  obtain ⟨hshift, hraise⟩ := maxDepth_only_guards sectionTable .default 1 0 plainSection
    ⟨false, true⟩ .initial
  obtain ⟨hnode, htree, hmodule⟩ := hraise 9 (by decide)
  obtain ⟨m, st', hrun⟩ : ∃ m st', (renderer sectionTable (Settings.default.limited 1) 0
      plainSection ⟨false, true⟩).outcome .initial = (.ok m, st') :=
    Render.exists_outcome_of_isOk (by decide)
  obtain ⟨page, hpage⟩ : ∃ page, pageTree (Settings.default.limited 1) (.list [plainSection])
      sectionSchema 0 = .ok page := exists_of_isOk (by decide +kernel)
  obtain ⟨made, hmade⟩ : ∃ made, pageModule .reading (Settings.default.limited 1)
      (.list [plainSection]) sectionSchema = .ok made := exists_of_isOk (by decide +kernel)
  exact ⟨⟨m, st', hrun, (hshift 6 m st').mp hrun, hnode m st' hrun⟩,
    ⟨page, hpage, htree _ _ _ _ hpage⟩, ⟨made, hmade, hmodule _ _ _ _ hmade⟩⟩

/-- Without room for the texts there is no page. -/
example : (pageTree (Settings.default.limited 0) (.list [plainSection]) sectionSchema 0).isOk =
    false := by decide

/-! ### How many calls settle a page -/

section

variable (answers : ComponentTable → CallAnswers) (settings : Settings)

/-- The markup of the top-level nodes, the calls for them answered in a given way. -/
def renderRootBy (table : ComponentTable) (nodes : List Value) : Render Markup := do
  requestFramework settings
  let root ← renderSiblings (fun node place => answers table ⟨0, node, place⟩) true nodes
  return root.getD (.fragment [])

/-- The tree of a document, the calls for its top-level nodes answered in a given way. -/
def pageTreeBy (document : Value) (schema : Definition) (depth : Int) : Except Fault PageTree := do
  let nodes ← contentNodes document
  let table ← schema.asTable
  let (outcome, run) := (renderRootBy answers settings table nodes).outcome .initial
  let root ← outcome
  let text ← liftMisuse (root.printWith settings.indentSize settings.printWidth depth)
  let imports ← liftMisuse run.imports.declarations
  return ⟨root, String.ofList text, orderImports settings imports, run.appended⟩

end

section

variable (settings : Settings) (limit : Int)

theorem pageTreeBy_renderCall : pageTreeBy (fun table => renderCall table settings limit)
    (settings.limited limit) = pageTree (settings.limited limit) := rfl

theorem pageTreeBy_congr {answers answers' : ComponentTable → CallAnswers}
    (h : ∀ table call, call.depth = 0 → answers table call = answers' table call) :
    pageTreeBy answers settings = pageTreeBy answers' settings := by
  have htop : ∀ table, (fun node place => answers table ⟨0, node, place⟩) =
      fun node place => answers' table ⟨0, node, place⟩ := fun table =>
    funext fun node => funext fun place => h table ⟨0, node, place⟩ rfl
  unfold pageTreeBy renderRootBy
  simp only [htop]

/-- **A page is settled by finitely many nested calls.** Take any components, with hooks that may
make up any nodes, and any maximum depth. A page comes out the same, be it a tree or a fault,
whatever is answered to calls that are nested more deeply than there are levels; so these are never
made. The renderer is the one solution of its recursion. Along a chain of nested calls the depths
increase strictly, and there are no more calls below the first than levels. A call beyond the
maximum depth raises a fault and does nothing else. -/
theorem pageTree_settled :
    (∀ (answers : ComponentTable → CallAnswers) n, (limit + 1).toNat < n →
      pageTreeBy (fun table => (answerCall table settings limit)^[n] (answers table))
        (settings.limited limit) = pageTree (settings.limited limit)) ∧
    ∀ table : ComponentTable,
      (∀ answers, answerCall table settings limit answers = answers ↔
        answers = renderCall table settings limit) ∧
      (∀ outer calls, (outer :: calls).IsChain (CallsFor table settings limit) →
        (outer :: calls).Pairwise (fun call inner => call.depth < inner.depth) ∧
          calls.length ≤ (limit - outer.depth + 1).toNat) ∧
      ∀ answers call st, limit < call.depth →
        (answerCall table settings limit answers call).outcome st =
          (.error (.content (.tooDeep (.int limit))), st) := by
  refine ⟨fun answers n hn => ?_, fun table => ⟨fun answers => ⟨?_, ?_⟩, ?_, ?_⟩⟩
  · rw [← pageTreeBy_renderCall]
    exact pageTreeBy_congr _ fun table call hdepth =>
      iterate_answerCall (by rwa [hdepth, Int.sub_zero]) (answers table)
  · exact eq_renderCall_of_fixed
  · rintro rfl
    exact funext answerCall_renderCall
  · exact fun outer calls h => ⟨pairwise_depth_of_isChain h, length_le_of_isChain h⟩
  · intro answers call st hdeep
    rw [answerCall_of_lt hdeep]
    rfl

end

/-! ### A node that makes up others of its kind -/

/-- A node of the type of echoes, without properties. -/
def echoNode : Value := typedNode "Echo" []

/-- A hook that puts another echo into the slot of each. -/
def echoHook : Hook where
  identity _ _ _ := .place 0
  call given := .ok ⟨.entries (.ok [(.str "body", ⟨.place 1, .list [echoNode]⟩)]), given, []⟩

def echoComponent : Component :=
  { Component.plain with
    fields := [(.str "body", .mk .slot none none)]
    hook := some echoHook }

def echoTable : ComponentTable := [(.str "Echo", echoComponent)]

/-- The call for the one echo in another. -/
def echoCall (depth : Int) : RenderCall := ⟨depth, echoNode, ⟨false, false⟩⟩

private theorem mapProps_echoComponent (stripped : List Value) :
    mapProps echoComponent stripped false [] [(.str "body", none)] =
      pure ([(.str "body", ⟨.list [echoNode], none⟩)], []) := rfl

private theorem assemble_echoComponent (render : NodeRenderer) (depth : Int) :
    assemble render depth false echoComponent [(.str "body", ⟨.list [echoNode], none⟩)] = do
      let body ← renderSlot render depth false [echoNode]
      return ((body.map fun m => (.str "body", m)).toList ++ [], []) := by
  rw [assemble, if_neg (by decide)]
  rfl

theorem renderTyped_echoNode (render : NodeRenderer) (depth : Int) :
    renderTyped echoTable .default render depth echoNode ⟨false, false⟩ = (do
      let body ← renderSlot render depth false [echoNode]
      return some (.element (.str "Echo")
        ((body.map fun m => (.str "body", m)).toList ++ []) [])) := by
  have hprops : ownProps echoNode = .ok [] := rfl
  have hslots : renderSlots render depth false echoComponent [] = pure [(.str "body", none)] := rfl
  have hstripped : strippedNames echoComponent .default = .ok (internalNames ++ [idName]) := rfl
  change some <$> renderElement .default render depth echoComponent (.str "Echo") echoNode
    ⟨false, false⟩ = _
  rw [renderElement, hprops, Render.ofMisuse_ok, pure_bind, hslots, pure_bind, hstripped,
    Render.ofMisuse_ok, pure_bind, mapProps_echoComponent, pure_bind]
  dsimp only
  rw [assemble_echoComponent]
  simp only [bind_assoc, pure_bind, map_bind]
  rfl

theorem answerCall_echoCall {limit depth : Int} (h : depth ≤ limit) (answers : CallAnswers) :
    answerCall echoTable .default limit answers (echoCall depth) =
      renderTyped echoTable .default (fun _ _ _ => answers (echoCall (depth + 1))) depth echoNode
        ⟨false, false⟩ := by
  have hwithin : ¬ limit < (echoCall depth).depth := Int.not_lt.mpr h
  rw [answerCall, renderNode_limited, if_neg hwithin,
    renderTyped_echoNode fun _ _ _ => answers (echoCall (depth + 1))]
  exact renderTyped_echoNode _ depth

theorem callsFor_echoCall {limit depth : Int} (h : depth ≤ limit) :
    CallsFor echoTable .default limit (echoCall depth) (echoCall (depth + 1)) := by
  classical
  let refusal : Render (Option Markup) := Render.fail (.unknownType .null)
  -- the call goes well if all calls in it do, and fails if the one in question fails
  refine ⟨fun _ => pure none, Function.update (fun _ => pure none) (echoCall (depth + 1)) refusal,
    fun call hcall => by rw [Function.update_of_ne hcall], fun heq => ?_⟩
  rw [answerCall_echoCall h, answerCall_echoCall h, Function.update_self] at heq
  have hgood : ((renderTyped echoTable .default (fun _ _ _ => pure none) depth echoNode
      ⟨false, false⟩).outcome .initial).1.isOk = true := rfl
  have hbad : ((renderTyped echoTable .default (fun _ _ _ => refusal) depth echoNode
      ⟨false, false⟩).outcome .initial).1.isOk = false := rfl
  rw [heq, hbad] at hgood
  cases hgood

/-- Under a maximum depth of three, echoes are called for up to a depth of four, where they are
refused. What would be answered to calls nested more deeply does not matter. -/
theorem echoes_settled :
    (∀ answers : ComponentTable → CallAnswers,
      pageTreeBy (fun table => (answerCall table .default 3)^[5] (answers table))
        (Settings.default.limited 3) = pageTree (Settings.default.limited 3)) ∧
    ([0, 1, 2, 3, 4].map echoCall).IsChain (CallsFor echoTable .default 3) ∧
    ([0, 1, 2, 3, 4].map echoCall).Pairwise (fun call inner => call.depth < inner.depth) ∧
    ([1, 2, 3, 4].map echoCall).length ≤ 4 ∧
    ∀ answers st, (answerCall echoTable .default 3 answers (echoCall 4)).outcome st =
      (.error (.content (.tooDeep (.int 3))), st) := by
  obtain ⟨hsettled, hcalls⟩ := pageTree_settled .default 3
  obtain ⟨-, hchains, hdeep⟩ := hcalls echoTable
  have hchain : ([0, 1, 2, 3, 4].map echoCall).IsChain (CallsFor echoTable .default 3) := by
    simp only [List.map_cons, List.map_nil, List.isChain_cons_cons, List.isChain_singleton,
      and_true]
    exact ⟨callsFor_echoCall (by decide), callsFor_echoCall (by decide),
      callsFor_echoCall (by decide), callsFor_echoCall (by decide)⟩
  obtain ⟨hincreasing, hlength⟩ := hchains (echoCall 0) _ hchain
  exact ⟨fun answers => hsettled answers 5 (by decide), hchain, hincreasing, hlength,
    fun answers st => hdeep answers (echoCall 4) st (by decide)⟩

/-- So a page with an echo ends in a fault. -/
example : (pageTree (Settings.default.limited 3) (.list [echoNode])
    (.map [(.str "Echo", .component echoComponent)]) 0).isOk = false := by decide

end PageMarkup
