import PageMarkup.Proofs.Page.Outcome
import PageMarkup.Proofs.Page.StaticPage
import PageMarkup.Proofs.Render.ShownMarkup

/-!
# When a page succeeds

A page that is all data, with integers that can be written, becomes a module exactly if all its
visited entries lie within the maximum depth and have a component, and no two of its import requests
ask for different things.

## Main results

* `StaticPage.exists_pageTree_iff` : when a page that is all data has a tree.
* `pageTree_succeeds_iff` : the same for pages whose nodes hold properties as maps.
-/

namespace PageMarkup

open ImportSpec (Clashing)

variable {settings : Settings} {document : Value} {schema : Definition} {nodes : List Value}
  {table : ComponentTable}

theorem Settings.reach_of_int {limit : Int} (hlimit : settings.maxDepth = .int limit) (n : Nat)
    (depth : Int) : settings.reach n depth = min n (limit - depth + 1).toNat := by
  have hbeyond : ∀ depth, settings.isBeyond depth = .ok (decide (limit < depth)) := by
    simp [Settings.isBeyond, hlimit]
  induction n generalizing depth with
  | zero => exact (Nat.zero_min _).symm
  | succ n ih =>
    rw [Settings.reach, hbeyond]
    by_cases hdeep : limit < depth
    · simp only [hdeep, decide_true]
      omega
    · simp only [hdeep, decide_false, ih]
      omega

theorem topLevels_of_int {limit : Int} (hlimit : settings.maxDepth = .int limit) :
    topLevels settings = (limit + 1).toNat := by
  have hlevels : settings.levels 0 = (limit - 0 + 1).toNat := by simp [Settings.levels, hlimit]
  rw [topLevels, Settings.reach_of_int hlimit, hlevels]
  omega

/-- A page that is all data, with integers that can be written, has a tree exactly if all that is
visited can be rendered and the requests do not clash. -/
theorem StaticPage.exists_pageTree_iff (h : StaticPage settings document schema nodes table)
    (hshow : AllShowable nodes) {indent width : Int} (hindent : settings.indentSize = .int indent)
    (hwidth : settings.printWidth = .int width) (depth : Int) :
    (∃ page, pageTree settings document schema depth = .ok page) ↔
      WithinReach table settings nodes ∧ ¬ RequestsClash table settings nodes := by
  rcases h.outcome with ⟨root, run, ds, hrun, hds, hleaves⟩ | ⟨f, run, hrun, hnot⟩
  · have htags := hleaves.written.textTags root (List.mem_singleton_self root)
    have hroot := isShowable_renderRoot h.static hshow _ root run hrun
    have htree := h.pageTree_of_ok hrun hds depth
    rw [hindent, hwidth, Markup.printWith_eq htags hroot] at htree
    exact iff_of_true ⟨_, htree⟩ ⟨hleaves.withinReach, hleaves.noClash⟩
  · refine iff_of_false ?_ (hnot hshow)
    rintro ⟨page, hpage⟩
    rw [h.pageTree_of_error hrun] at hpage
    cases hpage

theorem exists_ownProps {node : Value}
    (hprops : ∀ p, node.get? "props" = some p → p = .null ∨ ∃ es, p = .map es) :
    ∃ props, ownProps node = .ok props := by
  unfold ownProps
  cases hp : node.get? "props" with
  | none => exact ⟨[], rfl⟩
  | some p =>
    rcases hprops p hp with rfl | ⟨es, rfl⟩
    · exact ⟨[], rfl⟩
    · cases htruthy : (Value.map es).truthy with
      | true => exact ⟨es, by simp only [htruthy]; rfl⟩
      | false => exact ⟨[], by simp only [htruthy]; rfl⟩

/-- A node whose properties can be read is rendered if it is a map whose type is a text that names a
component. -/
theorem renderable_iff {node : Value} (hprops : ∃ props, ownProps node = .ok props) :
    Renderable table node ↔
      ∃ s c, node.get? "type" = some (.str s) ∧ table.component? (.str s) = some c := by
  constructor
  · rintro ⟨type, c, hc, -⟩
    obtain ⟨htype, hcomponent⟩ := nodeComponent?_eq_some_iff.mp hc
    have hstr : type.isStr = true := by
      by_contra hfalse
      rw [ComponentTable.component?, if_neg hfalse] at hcomponent
      cases hcomponent
    obtain ⟨s, rfl⟩ := Value.isStr_iff.mp hstr
    exact ⟨s, c, htype, hcomponent⟩
  · rintro ⟨s, c, htype, hcomponent⟩
    exact ⟨.str s, c, nodeComponent?_eq_some_iff.mpr ⟨htype, hcomponent⟩, fun _ => hprops⟩

/-- **When a page succeeds.** Take a page that is all data, whose integers can be written, with
integers as maximum depth, width of an indentation level and print width, whose visited entries hold
no properties other than maps. It has a tree if and only if every visited entry lies within the
maximum depth and is a map whose type names a component, no request of the document lacks a name,
and no two of them disagree. -/
theorem pageTree_succeeds_iff (h : StaticPage settings document schema nodes table)
    (hshow : AllShowable nodes) {limit indent width : Int} (hlimit : settings.maxDepth = .int limit)
    (hindent : settings.indentSize = .int indent) (hwidth : settings.printWidth = .int width)
    (hprops : ∀ d v, Visited table settings nodes d v →
      ∀ p, v.get? "props" = some p → p = .null ∨ ∃ es, p = .map es) (depth : Int) :
    (∃ page, pageTree settings document schema depth = .ok page) ↔
      (∀ d v, Visited table settings nodes d v → (d : Int) ≤ limit ∧
        ∃ s c, v.get? "type" = some (.str s) ∧ table.component? (.str s) = some c) ∧
      (∀ spec, Requested table settings nodes spec → ¬ spec.Nameless) ∧
      ∀ a b, Requested table settings nodes a → Requested table settings nodes b →
        ¬ a.Disagrees b := by
  rw [h.exists_pageTree_iff hshow hindent hwidth]
  refine and_congr (forall_congr' fun d => forall_congr' fun v => forall_congr' fun hv => ?_) ?_
  · have hdepth : d < (limit + 1).toNat ↔ (d : Int) ≤ limit := by omega
    rw [topLevels_of_int hlimit, hdepth, renderable_iff (exists_ownProps (hprops d v hv))]
  · simp only [RequestsClash, not_or, not_exists, not_and]

/-! ### An integer that cannot be written -/

/-- A text with a property that has too many digits. -/
def longNode : Value :=
  .map [(.str "type", .str "Text"),
    (.str "props", .map [(.str "n", .int (10 ^ Decimal.maxDigits))])]

/-- The components of texts without fields. -/
def longTable : ComponentTable := [(.str "Text", .plain)]

theorem longPage : StaticPage .default (.list [longNode])
    (.map [(.str "Text", .component .plain)]) [longNode] longTable where
  nodes_eq := rfl
  table_eq := rfl
  static := List.forall_mem_singleton.mpr
    ⟨rfl, List.forall_mem_nil _, rfl, List.forall_mem_nil _, rfl⟩
  data := by
    have hprops := Value.IsData.ofTexts [("n", .int (10 ^ Decimal.maxDigits))] (by simp)
      (List.forall_mem_singleton.mpr (.int _))
    refine List.forall_mem_singleton.mpr (.ofTexts [("type", .str "Text"), ("props", _)] ?_ ?_)
    · decide
    · exact List.forall_mem_cons.mpr ⟨.str _, List.forall_mem_singleton.mpr hprops⟩
  framework := rfl

theorem longPage_visited {d : Nat} {v : Value} (h : Visited longTable .default [longNode] d v) :
    d = 0 ∧ v = longNode := by
  have htext : nodeComponent? longTable longNode = some (.str "Text", .plain) := rfl
  induction h with
  | top h => exact ⟨rfl, List.mem_singleton.mp h⟩
  | step _ hw ih =>
    obtain ⟨rfl, rfl⟩ := ih
    cases (hangsBelow_iff htext rfl rfl rfl).mp hw

/-- The text is visited within the maximum depth, has a component and requests nothing, and still
has no tree. -/
theorem not_exists_pageTree_longPage :
    StaticPage .default (.list [longNode]) (.map [(.str "Text", .component .plain)]) [longNode]
      longTable ∧
    (∀ d v, Visited longTable .default [longNode] d v → (d : Int) ≤ 50 ∧
      (∃ es, v.get? "props" = some (.map es)) ∧
      ∃ s c, v.get? "type" = some (.str s) ∧ longTable.component? (.str s) = some c) ∧
    (∀ spec, ¬ Requested longTable .default [longNode] spec) ∧
    ¬ ∃ page, pageTree .default (.list [longNode]) (.map [(.str "Text", .component .plain)]) 0 =
      .ok page := by
  refine ⟨longPage, fun d v hv => ?_, fun spec hspec => ?_, ?_⟩
  · obtain ⟨rfl, rfl⟩ := longPage_visited hv
    exact ⟨by decide, ⟨_, rfl⟩, "Text", .plain, rfl, rfl⟩
  · rcases hspec with ⟨hframework, -⟩ | ⟨d, v, hv, hasks⟩
    · cases hframework
    · obtain ⟨rfl, rfl⟩ := longPage_visited hv
      have htext : nodeComponent? longTable longNode = some (.str "Text", .plain) := rfl
      obtain ⟨-, unbound, hunbound, -⟩ := (asksFor_iff htext).mp hasks
      cases hunbound
  · rintro ⟨page, hpage⟩
    have hroot : (renderRoot longTable .default [longNode]).outcome .initial =
        (.ok (.element (.str "Text") [(.str "n", .oversized)] []), .initial) := rfl
    have hshow :
        Markup.isShowable (.element (.str "Text") [(.str "n", .oversized)] []) = false := by
      simp [Markup.isShowable, Markup.attributesShowable, Markup.isShowable_oversized]
    obtain ⟨root, run, text, -, hrun, htext, -⟩ :=
      (pageTree_eq_ok_iff longPage.nodes_eq longPage.table_eq).mp hpage
    obtain rfl : _ = root := Except.ok.inj (Prod.mk.inj (hroot.symm.trans hrun)).1
    exact Bool.false_ne_true (hshow.symm.trans (Markup.layout_eq_ok htext).2.1)

/-! ### A panel with buttons -/

/-- A component whose nodes hold others in a slot. -/
def panelComponent : Component :=
  { Component.plain with
    fields := [(.str "body", .mk .slot none none)]
    outputName := .str "Ui.Panel"
    imports := [.default (.str "@/ui") .null] }

/-- A component that is imported under the type of its nodes. -/
def buttonComponent : Component :=
  { Component.plain with imports := [.named (.str "antd") .null .null] }

/-- The components of panels and buttons. -/
def panelTable : ComponentTable :=
  [(.str "Panel", panelComponent), (.str "Button", buttonComponent)]

/-- The schema of panels and buttons. -/
def panelSchema : Definition :=
  .map [(.str "Panel", .component panelComponent), (.str "Button", .component buttonComponent)]

def buttonNode : Value :=
  .map [(.str "type", .str "Button"), (.str "props", .map [(.str "label", .str "Go")])]

/-- A panel that shows the same button twice. -/
def panelNode : Value :=
  .map [(.str "type", .str "Panel"),
    (.str "props", .map [
      (.str "title", .str "Start"), (.str "body", .list [buttonNode, buttonNode])])]

/-- Settings with the import of the framework and just as many levels as panels need. -/
def panelSettings : Settings :=
  { includeFrameworkImport := .bool true, maxDepth := .int 1 }

/-- What a panel with buttons requests. -/
def panelRequests : List ImportSpec := [
  .default (.str "react") (.str "React"), .default (.str "@/ui") (.str "Ui"),
  .named (.str "antd") (.str "Button") .null]

theorem panelTable_isStatic : panelTable.IsStatic := by
  have hfields : Entries.HasTextKeys panelComponent.fields := by
    simp [Entries.HasTextKeys, panelComponent, Value.isStr]
  have hpanel : panelComponent.IsStatic := ⟨rfl, hfields, rfl, by decide, rfl⟩
  have hbutton : buttonComponent.IsStatic := ⟨rfl, List.forall_mem_nil _, rfl, by decide, rfl⟩
  exact List.forall_mem_cons.mpr ⟨hpanel, List.forall_mem_singleton.mpr hbutton⟩

theorem isData_buttonNode : buttonNode.IsData := by
  have hprops := Value.IsData.ofTexts [("label", .str "Go")] (by decide)
    (List.forall_mem_singleton.mpr (.str _))
  refine .ofTexts [("type", .str "Button"), ("props", _)] (by decide) ?_
  exact List.forall_mem_cons.mpr ⟨.str _, List.forall_mem_singleton.mpr hprops⟩

theorem isData_panelNode : panelNode.IsData := by
  have hbody : (Value.list [buttonNode, buttonNode]).IsData := .list <| List.forall_mem_cons.mpr
    ⟨isData_buttonNode, List.forall_mem_singleton.mpr isData_buttonNode⟩
  have hprops := Value.IsData.ofTexts [("title", .str "Start"), ("body", _)] (by decide)
    (List.forall_mem_cons.mpr ⟨.str _, List.forall_mem_singleton.mpr hbody⟩)
  refine .ofTexts [("type", .str "Panel"), ("props", _)] (by decide) ?_
  exact List.forall_mem_cons.mpr ⟨.str _, List.forall_mem_singleton.mpr hprops⟩

theorem panelPage :
    StaticPage panelSettings (.list [panelNode]) panelSchema [panelNode] panelTable where
  nodes_eq := rfl
  table_eq := rfl
  static := panelTable_isStatic
  data := List.forall_mem_singleton.mpr isData_panelNode
  framework := rfl

theorem allShowable_panelPage : AllShowable [panelNode] := by
  rw [AllShowable, List.forall_mem_singleton]
  decide

theorem panelPage_visited {d : Nat} {v : Value}
    (h : Visited panelTable panelSettings [panelNode] d v) :
    (d = 0 ∧ v = panelNode) ∨ (d = 1 ∧ v = buttonNode) := by
  have hpanel : nodeComponent? panelTable panelNode = some (.str "Panel", panelComponent) := rfl
  have hbutton : nodeComponent? panelTable buttonNode = some (.str "Button", buttonComponent) := rfl
  induction h with
  | top h => exact .inl ⟨rfl, List.mem_singleton.mp h⟩
  | step _ hw ih =>
    rcases ih with ⟨rfl, rfl⟩ | ⟨rfl, rfl⟩
    · have hmem := (hangsBelow_iff hpanel rfl rfl rfl).mp hw
      have hbelow : _ ∈ [buttonNode, buttonNode] := hmem
      exact .inr ⟨rfl, by simpa using hbelow⟩
    · have hmem := (hangsBelow_iff hbutton rfl rfl rfl).mp hw
      cases hmem

theorem panelPage_requested {spec : ImportSpec}
    (h : Requested panelTable panelSettings [panelNode] spec) : spec ∈ panelRequests := by
  have hpanel : nodeComponent? panelTable panelNode = some (.str "Panel", panelComponent) := rfl
  have hbutton : nodeComponent? panelTable buttonNode = some (.str "Button", buttonComponent) := rfl
  rcases h with ⟨-, rfl⟩ | ⟨d, v, hv, hasks⟩
  · exact List.mem_cons_self
  · rcases panelPage_visited hv with ⟨-, rfl⟩ | ⟨-, rfl⟩
    · obtain ⟨-, unbound, hunbound, hbound⟩ := (asksFor_iff hpanel).mp hasks
      obtain rfl := List.mem_singleton.mp hunbound
      obtain rfl : ImportSpec.default (.str "@/ui") (.str "Ui") = spec := Except.ok.inj hbound
      exact List.mem_cons_of_mem _ List.mem_cons_self
    · obtain ⟨-, unbound, hunbound, hbound⟩ := (asksFor_iff hbutton).mp hasks
      obtain rfl := List.mem_singleton.mp hunbound
      obtain rfl : ImportSpec.named (.str "antd") (.str "Button") .null = spec :=
        Except.ok.inj hbound
      exact List.mem_cons_of_mem _ (List.mem_cons_of_mem _ List.mem_cons_self)

theorem not_clashing_panelRequests : ¬ Clashing panelRequests := by
  simp [Clashing, ImportSpec.Nameless, ImportSpec.Disagrees, panelRequests, Value.truthy]

theorem panelPage_withinReach : WithinReach panelTable panelSettings [panelNode] := by
  intro d v hv
  rcases panelPage_visited hv with ⟨rfl, rfl⟩ | ⟨rfl, rfl⟩
  · exact ⟨by decide, .str "Panel", panelComponent, rfl, fun _ => ⟨_, rfl⟩⟩
  · exact ⟨by decide, .str "Button", buttonComponent, rfl, fun _ => ⟨_, rfl⟩⟩

theorem not_requestsClash_panelPage : ¬ RequestsClash panelTable panelSettings [panelNode] := by
  rintro (⟨spec, hspec, hnameless⟩ | ⟨a, b, ha, hb, hdisagrees⟩)
  · exact not_clashing_panelRequests (.inl ⟨spec, panelPage_requested hspec, hnameless⟩)
  · exact not_clashing_panelRequests
      (.inr ⟨a, panelPage_requested ha, b, panelPage_requested hb, hdisagrees⟩)

/-- A panel with buttons has a tree if two levels are allowed. -/
theorem exists_pageTree_panelPage :
    ∃ page, pageTree panelSettings (.list [panelNode]) panelSchema 0 = .ok page := by
  have hprops : ∀ d v, Visited panelTable panelSettings [panelNode] d v →
      ∀ p, v.get? "props" = some p → p = .null ∨ ∃ es, p = .map es := by
    intro d v hv p hp
    rcases panelPage_visited hv with ⟨-, rfl⟩ | ⟨-, rfl⟩
    · exact .inr ⟨_, (Option.some.inj hp).symm⟩
    · exact .inr ⟨_, (Option.some.inj hp).symm⟩
  have hlimit : panelSettings.maxDepth = .int 1 := rfl
  refine (pageTree_succeeds_iff panelPage allShowable_panelPage hlimit rfl rfl hprops 0).mpr
    ⟨?_, ?_, ?_⟩
  · intro d v hv
    rcases panelPage_visited hv with ⟨rfl, rfl⟩ | ⟨rfl, rfl⟩
    · exact ⟨by decide, "Panel", panelComponent, rfl, rfl⟩
    · exact ⟨by decide, "Button", buttonComponent, rfl, rfl⟩
  · exact fun spec hspec hnameless =>
      not_clashing_panelRequests (.inl ⟨spec, panelPage_requested hspec, hnameless⟩)
  · exact fun a b ha hb hdisagrees => not_clashing_panelRequests
      (.inr ⟨a, panelPage_requested ha, b, panelPage_requested hb, hdisagrees⟩)

end PageMarkup
