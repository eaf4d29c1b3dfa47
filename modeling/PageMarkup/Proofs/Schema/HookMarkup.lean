import PageMarkup.Proofs.Content.PlainData
import PageMarkup.Schema.HookScript

/-!
# Markup in the hands of hooks

The content of a document holds no markup. A hook is given markup, that of the slots of a node, and
may put it anywhere: under other names, into lists and maps, into the properties of new nodes. Most
hooks do no more than that. They make no markup of their own, so whatever holds of all markup that
they are given holds of all markup that they hand on. It is asked for every property of markup here,
so that a hook need not be known in order to carry one through it.

Scripts are such hooks if they have no markup among their constants.

## Main definitions

* `Value.MadeOf` : values in which all markup has a property, and whose maps have distinct keys.
* `Hook.KeepsMarkup` : hooks that make no markup of their own.
* `HookScript.OnlyPlain` : scripts without markup among their constants.

## Main results

* `Value.MadeOf.ownProps` : the properties of a node.
* `HookOutcome.MadeOf.hookedProps` : what is written after such a hook.
* `HookScript.OnlyPlain.keepsMarkup` : scripts are such hooks.
-/

namespace PageMarkup

/-- Values in which all markup has a property, and whose maps have no two equal keys. -/
inductive Value.MadeOf (fine : Markup → Prop) : Value → Prop
  | null : MadeOf fine .null
  | bool (b : Bool) : MadeOf fine (.bool b)
  | int (n : Int) : MadeOf fine (.int n)
  | float (x : Float) : MadeOf fine (.float x)
  | str (s : String) : MadeOf fine (.str s)
  | foreign (kind text : String) : MadeOf fine (.foreign kind text)
  | markup {m : Markup} (h : fine m) : MadeOf fine (.markup m)
  | list {xs : List Value} (h : ∀ x ∈ xs, MadeOf fine x) : MadeOf fine (.list xs)
  | tuple {xs : List Value} (h : ∀ x ∈ xs, MadeOf fine x) : MadeOf fine (.tuple xs)
  | map {es : Entries Value} (hdistinct : es.Distinct) (hkeys : ∀ e ∈ es, MadeOf fine e.1)
      (hvalues : ∀ e ∈ es, MadeOf fine e.2) : MadeOf fine (.map es)

namespace Value.MadeOf

variable {fine : Markup → Prop} {v : Value}

theorem ofTextKeys {es : Entries Value} (htexts : es.HasTextKeys) (hnodup : es.keys.Nodup)
    (hvalues : ∀ e ∈ es, e.2.MadeOf fine) : (Value.map es).MadeOf fine := by
  refine .map (htexts.distinct hnodup) (fun e he => ?_) hvalues
  obtain ⟨s, hs⟩ := Value.isStr_iff.mp (htexts e he)
  exact hs ▸ .str s

theorem handedDown (fine : Markup → Prop) : HandedDown (MadeOf fine) where
  list h := by
    cases h
    assumption
  tuple h := by
    cases h
    assumption
  keys h := by
    cases h
    assumption
  values h := by
    cases h
    assumption
  character c := .str _

theorem mono (h : v.MadeOf fine) {fine' : Markup → Prop} (himp : ∀ m, fine m → fine' m) :
    v.MadeOf fine' := by
  induction h with
  | null => exact .null
  | bool b => exact .bool b
  | int n => exact .int n
  | float x => exact .float x
  | str s => exact .str s
  | foreign kind text => exact .foreign kind text
  | markup h => exact .markup (himp _ h)
  | list _ ih => exact .list ih
  | tuple _ ih => exact .tuple ih
  | map hdistinct _ _ hkeys hvalues => exact .map hdistinct hkeys hvalues

theorem distinct {es : Entries Value} (h : (Value.map es).MadeOf fine) : es.Distinct := by
  cases h
  assumption

/-- Entries that are read out of a value have distinct keys, and are made of the same markup. -/
theorem readEntries (h : v.MadeOf fine) {es : Entries Value} (hes : v.readEntries = .ok es) :
    es.Distinct ∧ ∀ e ∈ es, e.1.MadeOf fine ∧ e.2.MadeOf fine := by
  obtain ⟨hkeys, hentries⟩ := (handedDown fine).readEntries h hes
  refine ⟨?_, hentries⟩
  rcases hkeys with rfl | hdistinct
  · exact h.distinct
  · exact hdistinct

/-- The properties of a node have distinct names, and are made of the same markup. -/
theorem ownProps (h : v.MadeOf fine) {props : Entries Value}
    (hprops : PageMarkup.ownProps v = .ok props) :
    props.Distinct ∧ ∀ e ∈ props, e.1.MadeOf fine ∧ e.2.MadeOf fine := by
  obtain ⟨hkeys, hentries⟩ := (handedDown fine).ownProps h hprops
  refine ⟨?_, hentries⟩
  rcases hkeys with hmap | hdistinct
  · exact ((handedDown fine).get? h hmap).distinct
  · exact hdistinct

theorem append (h : v.MadeOf fine) {item : Value} (hitem : item.MadeOf fine) :
    (v.append item).MadeOf fine := by
  unfold Value.append
  split
  · exact .list (List.forall_mem_append.mpr
      ⟨(handedDown fine).list h, List.forall_mem_singleton.mpr hitem⟩)
  · exact h

end Value.MadeOf

/-! ### Hooks -/

variable {fine : Markup → Prop}

/-- Objects under distinct names, which are made of some markup. -/
structure Entries.MadeOf (fine : Markup → Prop) (es : Entries Object) : Prop where
  distinct : es.Distinct
  keys : ∀ e ∈ es, e.1.MadeOf fine
  values : ∀ e ∈ es, e.2.value.MadeOf fine

/-- What a hook is given is made of some markup. -/
structure HookInput.MadeOf (fine : Markup → Prop) (given : HookInput) : Prop where
  props : given.props.MadeOf fine
  slots : given.slots.MadeOf fine

/-- What a hook gives back is made of some markup, and has distinct names. -/
inductive HookResult.MadeOf (fine : Markup → Prop) : HookResult → Prop
  | nothing : MadeOf fine .nothing
  | unread (how : Misuse) : MadeOf fine (.entries (.error how))
  | entries {es : Entries Object} (hdistinct : es.Distinct)
      (h : ∀ e ∈ es, e.2.value.MadeOf fine) : MadeOf fine (.entries (.ok es))

/-- What a hook brings about is made of some markup. -/
structure HookOutcome.MadeOf (fine : Markup → Prop) (outcome : HookOutcome) : Prop where
  result : outcome.result.MadeOf fine
  appended : ∀ a ∈ outcome.appended, a.2.MadeOf fine

/-- A hook makes no markup of its own: what it brings about is made of the markup that it was
given. -/
def Hook.KeepsMarkup (hook : Hook) : Prop :=
  ∀ (fine : Markup → Prop) (given : HookInput) (outcome : HookOutcome),
    given.MadeOf fine → hook.call given = .ok outcome → outcome.MadeOf fine

theorem Hook.given_madeOf (hook : Hook) {props : Entries Value} (hprops : props.Distinct)
    (hvalues : ∀ e ∈ props, e.1.MadeOf fine ∧ e.2.MadeOf fine) {slots : Entries (Option Markup)}
    (hslots : slots.Distinct) (hnames : ∀ e ∈ slots, e.1.MadeOf fine)
    (hmarkup : ∀ e ∈ slots, ∀ m ∈ e.2, fine m) : (hook.given props slots).MadeOf fine where
  props := {
    distinct := List.pairwise_map.mpr hprops
    keys := List.forall_mem_map.mpr fun e he => (hvalues e he).1
    values := List.forall_mem_map.mpr fun e he => (hvalues e he).2 }
  slots := {
    distinct := List.pairwise_map.mpr hslots
    keys := List.forall_mem_map.mpr hnames
    values := List.forall_mem_map.mpr fun e he => by
      have hm := hmarkup e he
      unfold slotValue
      cases hslot : e.2 with
      | none => exact .null
      | some m => exact .markup (hm m hslot) }

/-- Properties to whose lists a hook has appended keep their names, and are made of the same
markup. -/
theorem appendItems_madeOf {props : Entries Value} {appended : List (Value × Value)}
    (hprops : ∀ e ∈ props, e.2.MadeOf fine) (happended : ∀ a ∈ appended, a.2.MadeOf fine) :
    (appendItems props appended).keys = props.keys ∧
      ∀ e ∈ appendItems props appended, e.2.MadeOf fine := by
  induction appended generalizing props with
  | nil => exact ⟨rfl, hprops⟩
  | cons a appended ih =>
    rw [List.forall_mem_cons] at happended
    let step : Value × Value → Value × Value := fun e =>
      if e.1.same a.1 then (e.1, e.2.append a.2) else e
    have hname : ∀ e, (step e).1 = e.1 := fun e => by
      unfold step
      split <;> rfl
    have hvalue : ∀ e ∈ props.map step, e.2.MadeOf fine := by
      refine List.forall_mem_map.mpr fun e he => ?_
      unfold step
      split
      · exact (hprops e he).append happended.1
      · exact hprops e he
    obtain ⟨hkeys, hvalues⟩ := ih hvalue happended.2
    refine ⟨hkeys.trans ?_, hvalues⟩
    rw [Entries.keys, List.map_map]
    exact List.map_congr_left fun e _ => hname e

/-- What is written after a hook that makes no markup of its own has distinct names and is made of
the markup that the hook was given. -/
theorem HookOutcome.MadeOf.hookedProps {outcome : HookOutcome} (h : outcome.MadeOf fine)
    {plain : Entries Value} (hdistinct : plain.Distinct) (hplain : ∀ e ∈ plain, e.2.MadeOf fine)
    {given : HookInput} {written : Entries Sourced}
    (hwritten : PageMarkup.hookedProps plain given outcome = .ok written) :
    written.Distinct ∧ ∀ e ∈ written, e.2.value.MadeOf fine := by
  obtain ⟨result, left, appended⟩ := outcome
  obtain ⟨hresult, happended⟩ := h
  cases hresult with
  | nothing =>
    obtain rfl := Except.ok.inj hwritten
    obtain ⟨hkeys, hvalues⟩ := appendItems_madeOf hplain happended
    have hdistinct' := hdistinct.of_keys (by rw [hkeys])
    exact ⟨List.pairwise_map.mpr hdistinct', List.forall_mem_map.mpr hvalues⟩
  | unread how => cases hwritten
  | entries hdistinct h =>
    obtain rfl := Except.ok.inj hwritten
    exact ⟨List.pairwise_map.mpr hdistinct, List.forall_mem_map.mpr h⟩

/-! ### Scripts -/

/-- A source that is no constant with markup in it. -/
def HookSource.IsPlain : HookSource → Prop
  | .constant v => v.MadeOf fun _ => False
  | _ => True

/-- A step without markup in its names and constants. -/
def HookStep.IsPlain : HookStep → Prop
  | .set _ key source => key.MadeOf (fun _ => False) ∧ source.IsPlain
  | .append _ source => source.IsPlain
  | _ => True

/-- What is given back has no markup among its constants. -/
def HookReturn.IsPlain : HookReturn → Prop
  | .source s => s.IsPlain
  | _ => True

/-- A script without markup among its constants. -/
structure HookScript.OnlyPlain (script : HookScript) : Prop where
  steps : ∀ step ∈ script.steps, step.IsPlain
  result : script.result.IsPlain

namespace HookState

variable {st st' : HookState}

/-- All that a script has in its hands is made of some markup, and its maps have distinct names. -/
structure MadeOf (fine : Markup → Prop) (st : HookState) : Prop where
  store : ∀ object ∈ st.store, object.value.MadeOf fine
  maps : ∀ which, (st.get which).Distinct ∧ ∀ e ∈ st.get which, e.1.MadeOf fine
  appended : ∀ a ∈ st.appended, a.2.MadeOf fine

theorem get_put (st : HookState) (into which : HookMap) (es : Entries Nat) :
    (st.put into es).get which = if which = into then es else st.get which := by
  cases into <;> cases which <;> rfl

namespace MadeOf

theorem stored (h : st.MadeOf fine) (place : Nat) : (st.stored place).value.MadeOf fine := by
  rw [HookState.stored, List.getD_eq_getElem?_getD]
  cases hplace : st.store[place]? with
  | none => exact .null
  | some object => exact h.store object (List.mem_of_getElem? hplace)

private theorem madeOf_mapIdx {α : Type} {es : Entries α} (hdistinct : es.Distinct)
    (hkeys : ∀ e ∈ es, e.1.MadeOf fine) (number : Nat → Nat) :
    Entries.Distinct (es.mapIdx fun i e => (e.1, number i)) ∧
      ∀ e ∈ es.mapIdx fun i e => (e.1, number i), e.1.MadeOf fine := by
  have hsame : Entries.keys (es.mapIdx fun i e => (e.1, number i)) = es.keys := by
    exact List.ext_getElem (by simp [Entries.keys]) (by simp [Entries.keys])
  refine ⟨hdistinct.of_keys (by rw [hsame]), fun e he => ?_⟩
  obtain ⟨f, hf, hfe⟩ := List.mem_map.mp (hsame ▸ Entries.mem_keys_of_mem he)
  exact hfe ▸ hkeys f hf

theorem start {given : HookInput} (h : given.MadeOf fine) :
    (HookState.start given).MadeOf fine where
  store := List.forall_mem_map.mpr
    (List.forall_mem_append.mpr ⟨h.props.values, h.slots.values⟩)
  maps which := by
    cases which with
    | out => exact ⟨List.Pairwise.nil, List.forall_mem_nil _⟩
    | props => exact madeOf_mapIdx h.props.distinct h.props.keys id
    | slots => exact madeOf_mapIdx h.slots.distinct h.slots.keys _
  appended := List.forall_mem_nil _

theorem put (h : st.MadeOf fine) (into : HookMap) {es : Entries Nat} (hdistinct : es.Distinct)
    (hkeys : ∀ e ∈ es, e.1.MadeOf fine) : (st.put into es).MadeOf fine where
  store := by
    cases into <;> exact h.store
  maps which := by
    rw [get_put]
    split
    · exact ⟨hdistinct, hkeys⟩
    · exact h.maps which
  appended := by
    cases into <;> exact h.appended

theorem alloc (h : st.MadeOf fine) {v : Value} (hv : v.MadeOf fine) :
    (st.alloc v).2.MadeOf fine where
  store := List.forall_mem_append.mpr ⟨h.store, List.forall_mem_singleton.mpr hv⟩
  maps := h.maps
  appended := h.appended

theorem eval (h : st.MadeOf fine) {source : HookSource} (hsource : source.IsPlain) {place : Nat}
    (heval : st.eval source = .ok (place, st')) : st'.MadeOf fine := by
  cases source with
  | entry which key required =>
    rw [HookState.eval] at heval
    split at heval
    · cases heval
      exact h
    · split at heval
      · cases heval
      · cases heval
        exact h.alloc .null
  | names which =>
    cases heval
    exact h.alloc (.list (List.forall_mem_map.mpr (h.maps which).2))
  | constant v =>
    cases heval
    exact h.alloc (hsource.mono fun _ => False.elim)

/-- **A step makes no markup.** -/
theorem step (h : st.MadeOf fine) {step : HookStep} (hplain : step.IsPlain)
    (hstep : st.step step = .ok st') : st'.MadeOf fine := by
  cases step with
  | set into key source =>
    obtain ⟨⟨place, mid⟩, heval, hput⟩ := bind_eq_ok_iff.mp hstep
    obtain rfl := Except.ok.inj hput
    have hmid := h.eval hplain.2 heval
    obtain ⟨hdistinct, hkeys⟩ := hmid.maps into
    refine hmid.put into (hdistinct.put key place) fun e he => ?_
    rcases (Entries.mem_put he).1 with hkey | hkey
    · obtain ⟨f, hf, hfe⟩ := List.mem_map.mp hkey
      exact hfe ▸ hkeys f hf
    · exact hkey ▸ hplain.1.mono fun _ => False.elim
  | delete which key =>
    rw [HookState.step] at hstep
    split at hstep
    · cases hstep
      obtain ⟨hdistinct, hkeys⟩ := h.maps which
      exact h.put which (hdistinct.sublist List.filter_sublist)
        fun e he => hkeys e (List.mem_of_mem_filter he)
    · cases hstep
  | spread which =>
    cases hstep
    obtain ⟨hdistinct, hmem⟩ := Entries.distinct_putAll (h.maps .out).1 (st.get which)
    refine h.put .out hdistinct fun e he => ?_
    rcases (hmem e he).1 with hkey | ⟨f, hf, hfe⟩
    · obtain ⟨f, hf, hfe⟩ := List.mem_map.mp hkey
      exact hfe ▸ (h.maps .out).2 f hf
    · exact hfe ▸ (h.maps which).2 f hf
  | append prop source =>
    rw [HookState.step] at hstep
    split at hstep
    · cases hstep
    · rename_i place _
      split at hstep
      · rename_i id xs owner hlist
        obtain ⟨⟨item, mid⟩, heval, hset⟩ := bind_eq_ok_iff.mp hstep
        obtain rfl := Except.ok.inj hset
        have hmid := h.eval hplain heval
        have hitems := (Value.MadeOf.handedDown fine).list (hlist ▸ h.stored place)
        have hv := hmid.stored item
        refine ⟨fun object hobject => ?_, hmid.maps, List.forall_mem_append.mpr
          ⟨hmid.appended, fun a ha => ?_⟩⟩
        · rcases List.mem_or_eq_of_mem_set hobject with hobject | rfl
          · exact hmid.store object hobject
          · exact .list (List.forall_mem_append.mpr ⟨hitems, List.forall_mem_singleton.mpr hv⟩)
        · obtain ⟨name, -, rfl⟩ := Option.map_eq_some_iff.mp (Option.mem_toList.mp ha)
          exact hv
      · cases hstep
  | fail text => cases hstep

theorem run (h : st.MadeOf fine) {steps : List HookStep} (hplain : ∀ step ∈ steps, step.IsPlain)
    (hrun : steps.foldlM HookState.step st = .ok st') : st'.MadeOf fine := by
  induction steps generalizing st with
  | nil =>
    cases hrun
    exact h
  | cons step steps ih =>
    rw [List.forall_mem_cons] at hplain
    rw [List.foldlM_cons] at hrun
    obtain ⟨mid, hstep, hrun⟩ := bind_eq_ok_iff.mp hrun
    exact ih (h.step hplain.1 hstep) hplain.2 hrun

/-- A value that is given back is read as entries that are made of the same markup. -/
private theorem readResult (st : HookState) {v : Value} (hv : v.MadeOf fine) :
    (HookResult.entries (st.readResult v)).MadeOf fine := by
  unfold HookState.readResult
  cases hread : v.readEntries with
  | error how => exact .unread how
  | ok es =>
    obtain ⟨hdistinct, hentries⟩ := hv.readEntries hread
    let objects : Entries Object :=
      es.mapIdx fun i e => (e.1, ⟨.ofValue e.2 (st.store.length + i), e.2⟩)
    have hkeys : objects.keys = es.keys :=
      List.ext_getElem (by simp [objects, Entries.keys]) (by simp [objects, Entries.keys])
    refine .entries (hdistinct.of_keys (by rw [hkeys])) fun e he => ?_
    obtain ⟨i, hi, rfl⟩ := List.mem_mapIdx.mp he
    exact (hentries _ (List.getElem_mem hi)).2

theorem finish (h : st.MadeOf fine) {result : HookReturn} (hplain : result.IsPlain)
    {outcome : HookOutcome} (hfinish : st.finish result = .ok outcome) : outcome.MadeOf fine := by
  cases result with
  | map which =>
    cases hfinish
    refine ⟨.entries (List.pairwise_map.mpr (h.maps which).1) ?_, h.appended⟩
    exact List.forall_mem_map.mpr fun e _ => h.stored e.2
  | nothing =>
    cases hfinish
    exact ⟨.nothing, h.appended⟩
  | source source =>
    obtain ⟨⟨place, last⟩, heval, hvalue⟩ := bind_eq_ok_iff.mp hfinish
    have hlast := h.eval hplain heval
    dsimp only at hvalue
    split at hvalue
    · cases hvalue
      exact ⟨.nothing, hlast.appended⟩
    · cases hvalue
      exact ⟨readResult last (hlast.stored place), hlast.appended⟩

end MadeOf

end HookState

/-- **Scripts without markup among their constants make no markup.** -/
theorem HookScript.OnlyPlain.keepsMarkup {script : HookScript} (h : script.OnlyPlain) :
    script.hook.KeepsMarkup := by
  intro fine given outcome hgiven houtcome
  obtain ⟨st, hrun, hfinish⟩ := bind_eq_ok_iff.mp houtcome
  exact ((HookState.MadeOf.start hgiven).run h.steps hrun).finish h.result hfinish

end PageMarkup
