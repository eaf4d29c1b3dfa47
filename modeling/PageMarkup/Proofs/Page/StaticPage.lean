import PageMarkup.Proofs.Imports.Merge
import PageMarkup.Proofs.Render.Levels

/-!
# Pages that are all data

A page is all data if no component of its schema has a hook, its nodes are plain data, and the names
of the components and of the framework are texts. A run on such a page meets requests that are just
those of the document, in some order, and the import table decides whether they can be met. So the
run either leaves markup of the outline of the document and a table of what was requested, or it
fails, because of an entry that cannot be rendered, of requests that clash, or of an integer that
has no text.

## Main definitions

* `StaticPage` : a page that is all data.
* `WithinReach`, `RequestsClash`, `AllShowable` : what lets a run succeed, and what keeps it from
  it.
* `RunLeaves` : what a successful run leaves.

## Main results

* `renderRoot_meets` : the markup of the nodes at the top, and the requests that are met for it.
* `StaticPage.outcome` : what a run on the nodes of a page leaves.
* `StaticPage.pageTree_of_ok`, `StaticPage.pageTree_of_error` : the tree of a page, given the run.
-/

namespace PageMarkup

open ImportSpec (Clashing not_clashing_nil)

/-- A page that is all data: no component of its schema has a hook, its nodes are plain data, and
the framework is imported by texts. -/
structure StaticPage (settings : Settings) (document : Value) (schema : Definition)
    (nodes : List Value) (table : ComponentTable) : Prop where
  nodes_eq : contentNodes document = .ok nodes
  table_eq : schema.asTable = .ok table
  static : table.IsStatic
  data : ∀ v ∈ nodes, v.IsData
  framework : (frameworkSpec settings).isTextual = true

section

variable (table : ComponentTable) (settings : Settings) (nodes : List Value)

/-- Every entry that is visited lies within the maximum depth and can be rendered. -/
def WithinReach : Prop :=
  ∀ d v, Visited table settings nodes d v → d < topLevels settings ∧ Renderable table v

/-- The requests of a document cannot all be met. -/
def RequestsClash : Prop :=
  (∃ spec, Requested table settings nodes spec ∧ spec.Nameless) ∨
    ∃ a b, Requested table settings nodes a ∧ Requested table settings nodes b ∧ a.Disagrees b

/-- All integers in the nodes have texts. -/
def AllShowable : Prop :=
  ∀ v ∈ nodes, v.isShowable = true

/-- What a successful run on the nodes of a page leaves: markup that shows the nodes, and
declarations of just what they request. -/
structure RunLeaves (root : Markup) (ds : List ImportDeclaration) : Prop where
  withinReach : WithinReach table settings nodes
  noClash : ¬ RequestsClash table settings nodes
  written : Written table settings nodes [root]
  declares : ∃ specs, (∀ spec, spec ∈ specs ↔ Requested table settings nodes spec) ∧
    DeclaresExactly specs ds
  ascending : PathsAscending ds

end

variable {settings : Settings} {document : Value} {schema : Definition} {nodes : List Value}
  {table : ComponentTable}

theorem withinReach_iff : WithinReach table settings nodes ↔
    ∀ v ∈ nodes, FineWithin table settings (topLevels settings) v := by
  simp only [WithinReach, visited_iff_reaches]
  constructor
  · exact fun h v hv d w hreach => h d w ⟨v, hv, hreach⟩
  · rintro h d w ⟨v, hv, hreach⟩
    exact h v hv d w hreach

theorem clashing_iff {specs : List ImportSpec}
    (hmem : ∀ spec, spec ∈ specs ↔ Requested table settings nodes spec) :
    Clashing specs ↔ RequestsClash table settings nodes := by
  simp only [Clashing, RequestsClash, hmem]
  refine or_congr Iff.rfl ⟨?_, ?_⟩
  · rintro ⟨a, ha, b, hb, hdis⟩
    exact ⟨a, b, ha, hb, hdis⟩
  · rintro ⟨a, b, ha, hb, hdis⟩
    exact ⟨a, ha, b, hb, hdis⟩

theorem requestFramework_meets (settings : Settings) :
    ∃ specs, (requestFramework settings).Meets specs (.ok ()) ∧
    ∀ spec, spec ∈ specs ↔
      settings.includeFrameworkImport.truthy = true ∧ spec = frameworkSpec settings := by
  unfold requestFramework
  by_cases henabled : settings.includeFrameworkImport.truthy = true
  · refine ⟨[frameworkSpec settings], ?_, fun spec => by simp [henabled]⟩
    rw [if_pos henabled]
    exact .register _
  · refine ⟨[], ?_, fun spec => by simp [henabled]⟩
    rw [if_neg henabled]
    exact .pure ()

/-- The markup of the top-level nodes: if there is any, then all that is visited can be rendered, it
shows the nodes, and the requests of the document are met for it. Where all integers have texts,
there is none only if something that is visited cannot be rendered. -/
theorem renderRoot_meets (settings : Settings) (hstatic : table.IsStatic)
    (hdata : ∀ v ∈ nodes, v.IsData) :
    (∃ specs root, (renderRoot table settings nodes).Meets specs (.ok root) ∧
      WithinReach table settings nodes ∧
      (∀ spec, spec ∈ specs ↔ Requested table settings nodes spec) ∧
      Written table settings nodes [root]) ∨
    ∃ specs f, (renderRoot table settings nodes).Meets specs (.error f) ∧
      (AllShowable nodes → ¬ WithinReach table settings nodes) := by
  obtain ⟨first, hfirst, hframework⟩ := requestFramework_meets settings
  have hshow : ∀ v ∈ nodes, AllShowable nodes → v.isShowable = true := fun v hv h => h v hv
  have hslot := visits_renderSiblings true fun v hv =>
    visits_renderer settings hstatic v (hdata v hv) (hshow v hv)
  unfold renderRoot
  rcases hslot with ⟨specs, m, hmeets, hfine, hasks, hwritten⟩ | ⟨specs, f, hmeets, hnot⟩
  · refine .inl ⟨_, _, hfirst.bind (hmeets.bind (.pure _)), withinReach_iff.mpr hfine,
      fun spec => ?_, ?_⟩
    · rw [List.mem_append, List.append_nil, hframework, hasks]
      exact or_congr Iff.rfl exists_visited_iff.symm
    · cases m with
      | none => exact ⟨by simp [Markup.hasTextTags, Markup.allTextTags], hwritten.outline⟩
      | some m => exact hwritten
  · refine .inr ⟨_, f, hfirst.bind (hmeets.bind_error _), fun hshow hreach => ?_⟩
    obtain ⟨v, hv, hbad⟩ := hnot hshow
    exact hbad (withinReach_iff.mp hreach v hv)

namespace StaticPage

variable (h : StaticPage settings document schema nodes table)

include h

/-- What a run on the nodes of a page leaves. -/
theorem outcome :
    (∃ root run ds, (renderRoot table settings nodes).outcome .initial = (.ok root, run) ∧
      run.imports.declarations = .ok ds ∧ RunLeaves table settings nodes root ds) ∨
    ∃ f run, (renderRoot table settings nodes).outcome .initial = (.error f, run) ∧
      (AllShowable nodes →
        ¬ (WithinReach table settings nodes ∧ ¬ RequestsClash table settings nodes)) := by
  rcases renderRoot_meets settings h.static h.data with
    ⟨specs, root, hmeets, hreach, hmem, hwritten⟩ | ⟨specs, f, hmeets, hnot⟩
  · have htext : ∀ spec ∈ specs, spec.isTextual = true := fun spec hspec =>
      ((hmem spec).mp hspec).isTextual h.static h.framework
    have hrun := hmeets .initial
    rcases ImportTable.registerAll_holds ImportTable.Holds.empty not_clashing_nil htext with
      ⟨t, ht, hholds, hfree⟩ | ⟨f, t, ht, hclash⟩
    · rw [List.append_nil] at hholds hfree
      obtain ⟨ds, hds, hdeclares, hascending⟩ := ImportTable.declarations_of_holds hholds hfree
      rw [RunState.initial, ht] at hrun
      rw [clashing_iff hmem] at hfree
      exact .inl ⟨root, _, ds, hrun, hds,
        ⟨hreach, hfree, hwritten, ⟨specs, hmem, hdeclares⟩, hascending⟩⟩
    · rw [List.append_nil, clashing_iff hmem] at hclash
      rw [RunState.initial, ht] at hrun
      exact .inr ⟨f, _, hrun, fun _ hok => hok.2 hclash⟩
  · have hrun := hmeets .initial
    cases hregister : RunState.initial.imports.registerAll specs with
    | mk result t =>
      rw [hregister] at hrun
      cases result with
      | ok _ => exact .inr ⟨f, _, hrun, fun hshow hok => hnot hshow hok.1⟩
      | error f' => exact .inr ⟨f', _, hrun, fun hshow hok => hnot hshow hok.1⟩

/-- The tree of a page whose nodes have markup. -/
theorem pageTree_of_ok {root : Markup} {run : RunState} {ds : List ImportDeclaration}
    (hrun : (renderRoot table settings nodes).outcome .initial = (.ok root, run))
    (hds : run.imports.declarations = .ok ds) (depth : Int) :
    pageTree settings document schema depth = do
      let text ← liftMisuse (root.printWith settings.indentSize settings.printWidth depth)
      return ⟨root, String.ofList text, orderImports settings ds, run.appended⟩ := by
  unfold pageTree
  rw [h.nodes_eq, h.table_eq]
  simp only [bind, Except.bind, hrun, hds]
  rfl

/-- A page whose nodes have no markup has no tree. -/
theorem pageTree_of_error {f : Fault} {run : RunState}
    (hrun : (renderRoot table settings nodes).outcome .initial = (.error f, run)) (depth : Int) :
    pageTree settings document schema depth = .error f := by
  unfold pageTree
  rw [h.nodes_eq, h.table_eq]
  simp only [bind, Except.bind, hrun]

end StaticPage

end PageMarkup
