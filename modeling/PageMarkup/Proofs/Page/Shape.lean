import PageMarkup.Proofs.Page.Unseen
import PageMarkup.Proofs.Render.Shape

/-!
# The shape of a page

Whatever is in a document and wherever hooks put the slots that they are given, the elements and
fragments of its tree have one shape. Only the fragment at the root may be empty, and it is exactly
if there is nothing to show.

## Main results

* `pageTree_wellShaped` : the shape of the tree of a document.
-/

namespace PageMarkup

open Markup (WellShaped)

variable {table : ComponentTable} {settings : Settings}

/-- The markup of the top-level nodes has the right shape, unless all of them are skipped. -/
theorem leaves_renderRoot_wellShaped (htable : ∀ e ∈ table, e.2.KeepsShape) {nodes : List Value}
    (hdata : ∀ v ∈ nodes, v.MadeOf fun _ => False) :
    (renderRoot table settings nodes).Leaves fun root =>
      (root.WellShaped ∨ root = .fragment []) ∧
        (root = .fragment [] ↔ ∀ v ∈ nodes, IsSkipped table v) := by
  refine (Describes.leaves_renderRoot (fun _ => describes_wellShaped table)
    (fun _ _ _ _ => nodeShaped_of_nodeOf htable) nodes).mono ?_
  rintro _ ⟨ms, rfl, hms⟩
  obtain ⟨hshaped, hskipped⟩ :=
    shaped_of_nodes hms fun v hv => (hdata v hv).mono fun _ => False.elim
  rw [← hskipped]
  cases hlist : ms.filterMap id with
  | nil => exact ⟨.inr rfl, iff_of_true rfl rfl⟩
  | cons m rest =>
    rw [hlist] at hshaped
    obtain ⟨root, hroot⟩ : ∃ root, Markup.group (m :: rest) = some root := by
      cases rest <;> exact ⟨_, rfl⟩
    have hwell := WellShaped.group hshaped root hroot
    rw [hroot, Option.getD_some]
    refine ⟨.inl hwell, iff_of_false (fun hempty => ?_) (List.cons_ne_nil _ _)⟩
    cases hempty ▸ hwell with
    | fragment hlength => exact Nat.not_lt_zero 1 hlength

/-- **The shape of rendered markup.** Take components whose hooks make no markup of their own, and a
document without markup in it that has a tree. Then every element in the tree has its attributes
under distinct names, none of them the name of the content, each with a value, and at most one piece
of content. Every fragment in it is of at least two elements, except that the tree is the empty
fragment exactly if all top-level nodes are of skipped types. -/
theorem pageTree_wellShaped {document : Value} {schema : Definition} {nodes : List Value}
    (hnodes : contentNodes document = .ok nodes) (htable : schema.asTable = .ok table)
    (hkeeps : ∀ e ∈ table, e.2.KeepsShape) (hdata : ∀ v ∈ nodes, v.MadeOf fun _ => False)
    {depth : Int} {page : PageTree} (hpage : pageTree settings document schema depth = .ok page) :
    (page.root.WellShaped ∨ page.root = .fragment []) ∧
      (page.root = .fragment [] ↔ ∀ v ∈ nodes, IsSkipped table v) := by
  obtain ⟨root, run, text, ds, hrun, -, -, rfl⟩ := (pageTree_eq_ok_iff hnodes htable).mp hpage
  exact leaves_renderRoot_wellShaped hkeeps hdata _ _ _ hrun

/-! ### Posters that put their body elsewhere -/

/-- Makes the body of a poster its content and its title its key, and puts the body among its icons,
too. -/
def posterScript : HookScript where
  steps := [.append (.str "icons") (.entry .slots (.str "body") false), .spread .props,
    .set .out childrenName (.entry .slots (.str "body") false),
    .set .out keyName (.entry .props (.str "title") true), .delete .out (.str "title")]
  result := .map .out

/-- Posters with a body and icons. -/
def posterComponent : Component :=
  { Component.plain with
    fields := [(.str "body", .mk .slot none none),
      (.str "icons", .mk .array (some [(.str "icon", .mk .slot none none)]) none)]
    hook := some posterScript.hook }

/-- The components of posters, texts and notes. -/
def posterTable : ComponentTable :=
  [(.str "Poster", posterComponent), (.str "Text", .plain), (.str "Note", noteComponent)]

/-- The schema of posters, texts and notes. -/
def posterSchema : Definition :=
  .map (posterTable.map fun e => (e.1, .component e.2))

/-- A poster with a title, icons and a body. -/
def posterNode (title : String) (icons body : List Value) : Value :=
  typedNode "Poster" [(.str "title", .str title), (.str "icons", .list icons),
    (.str "body", .list body)]

/-- A note, a poster with two texts, and a poster with icons and a note. -/
def posterNodes : List Value :=
  [typedNode "Note" [], posterNode "One" [] [textNode [], textNode []],
    posterNode "Two" [.map [(.str "icon", .list [textNode []])], textNode []] [typedNode "Note" []]]

theorem posterTable_keepsShape : ∀ e ∈ posterTable, e.2.KeepsShape := by
  have hplain : ∀ c : Component, c.fields = [] → c.hook = none → c.KeepsShape := by
    intro c hfields hhook
    refine ⟨?_, ?_, ?_⟩
    · exact hfields ▸ List.forall_mem_nil _
    · exact hfields ▸ List.nodup_nil
    · exact hhook ▸ fun _ h => nomatch h
  have hscript : posterScript.OnlyPlain := by
    refine ⟨?_, trivial⟩
    simp only [posterScript, List.forall_mem_cons, HookStep.IsPlain, HookSource.IsPlain]
    exact ⟨trivial, trivial, ⟨.str _, trivial⟩, ⟨.str _, trivial⟩, trivial, List.forall_mem_nil _⟩
  have hposter : posterComponent.KeepsShape := by
    refine ⟨by simp [Entries.HasTextKeys, posterComponent, Value.isStr],
      by simp [Entries.keys, posterComponent], ?_⟩
    rintro _ ⟨⟩
    exact hscript.keepsMarkup
  exact List.forall_mem_cons.mpr ⟨hposter, List.forall_mem_cons.mpr ⟨hplain _ rfl rfl,
    List.forall_mem_singleton.mpr (hplain _ rfl rfl)⟩⟩

theorem typedNode_madeOf {fine : Markup → Prop} (type : String) {props : Entries Value}
    (hprops : (Value.map props).MadeOf fine) : (typedNode type props).MadeOf fine := by
  refine .ofTextKeys (by simp [Entries.HasTextKeys, Value.isStr]) (by simp [Entries.keys]) ?_
  exact List.forall_mem_cons.mpr ⟨.str type, List.forall_mem_singleton.mpr hprops⟩

theorem posterNode_madeOf {fine : Markup → Prop} (title : String) {icons body : List Value}
    (hicons : ∀ v ∈ icons, v.MadeOf fine) (hbody : ∀ v ∈ body, v.MadeOf fine) :
    (posterNode title icons body).MadeOf fine := by
  refine typedNode_madeOf "Poster" (.ofTextKeys (by simp [Entries.HasTextKeys, Value.isStr])
    (by simp [Entries.keys]) ?_)
  simp only [List.forall_mem_cons]
  exact ⟨.str title, .list hicons, .list hbody, List.forall_mem_nil _⟩

theorem posterNodes_madeOf (fine : Markup → Prop) : ∀ v ∈ posterNodes, v.MadeOf fine := by
  have hnote : (typedNode "Note" []).MadeOf fine :=
    typedNode_madeOf "Note"
      (.ofTextKeys (List.forall_mem_nil _) List.nodup_nil (List.forall_mem_nil _))
  have htext : (textNode []).MadeOf fine :=
    typedNode_madeOf "Text" (.ofTextKeys (List.forall_mem_singleton.mpr rfl)
      (List.nodup_singleton _) (List.forall_mem_singleton.mpr (.str "Hi")))
  have hicon : (Value.map [(.str "icon", .list [textNode []])]).MadeOf fine :=
    .ofTextKeys (List.forall_mem_singleton.mpr rfl) (List.nodup_singleton _)
      (List.forall_mem_singleton.mpr (.list (List.forall_mem_singleton.mpr htext)))
  have hone := posterNode_madeOf "One" (List.forall_mem_nil _)
    (List.forall_mem_cons.mpr ⟨htext, List.forall_mem_singleton.mpr htext⟩)
  have htwo := posterNode_madeOf "Two"
    (List.forall_mem_cons.mpr ⟨hicon, List.forall_mem_singleton.mpr htext⟩)
    (List.forall_mem_singleton.mpr hnote)
  exact List.forall_mem_cons.mpr ⟨hnote, List.forall_mem_cons.mpr ⟨hone,
    List.forall_mem_singleton.mpr htwo⟩⟩

theorem exists_pageTree_posterNodes :
    ∃ page, pageTree {} (.list posterNodes) posterSchema 0 = .ok page :=
  exists_of_isOk (by decide +kernel)

/-- The tree of posters has the shape, and it is not empty. -/
theorem pageTree_wellShaped_posters :
    ∃ page, pageTree {} (.list posterNodes) posterSchema 0 = .ok page ∧ page.root.WellShaped := by
  obtain ⟨page, hpage⟩ := exists_pageTree_posterNodes
  obtain ⟨hshape, hempty⟩ := pageTree_wellShaped rfl rfl posterTable_keepsShape
    (posterNodes_madeOf _) hpage
  refine ⟨page, hpage, hshape.resolve_right fun h => ?_⟩
  obtain ⟨type, c, hc, hskip⟩ := hempty.mp h _ (List.mem_cons_of_mem _ List.mem_cons_self)
  cases hc
  cases hskip

end PageMarkup
