import PageMarkup.Page.Tree
import PageMarkup.Proofs.Render.Congruence

/-!
# The maximum depth is only a guard

A node is refused below the maximum depth, and nothing else in its rendering looks at this setting
or at the depth. So what matters is only how far the depth is from its maximum, and where a
rendering succeeds it does so at every greater distance, with the same markup and the same state.
Every route on which the depth is handed on adds one where it comes to a node, and adds as much on
both sides; the two inductions below are on the number of levels that are carried out.

## Main definitions

* `Settings.limited` : settings with another maximum depth.

## Main results

* `renderWithin_eq_renderer` : more levels than there are up to the maximum depth change nothing.
* `renderer_limited` : the renderer is one step of itself.
* `refines_renderWithin_of_le` : more levels keep what succeeds within fewer.
* `refines_renderer_of_le` : a greater distance from the maximum depth does.
-/

namespace PageMarkup

open Render (Refines)

/-- Settings with a maximum depth of their own. -/
def Settings.limited (s : Settings) (limit : Int) : Settings :=
  s.set .maxDepth (.int limit)

namespace Settings

variable (s : Settings) (limit : Int)

@[simp] theorem levels_limited (depth : Int) :
    (s.limited limit).levels depth = (limit - depth + 1).toNat := rfl

@[simp] theorem renderTyped_limited (table : ComponentTable) (render : NodeRenderer) :
    renderTyped table (s.limited limit) render = renderTyped table s render := rfl

@[simp] theorem requestFramework_limited :
    requestFramework (s.limited limit) = requestFramework s := rfl

end Settings

variable (table : ComponentTable) (settings : Settings)

theorem renderNode_limited (limit depth : Int) (render : NodeRenderer) (node : Value)
    (place : Place) :
    renderNode table (settings.limited limit) render depth node place =
      if limit < depth then Render.fail (.content (.tooDeep (.int limit)))
      else renderTyped table settings render depth node place := by
  have hbeyond : (settings.limited limit).isBeyond depth = .ok (decide (limit < depth)) := rfl
  rw [renderNode, hbeyond, Render.ofMisuse_ok, pure_bind, Settings.renderTyped_limited]
  by_cases hdeep : limit < depth
  · rw [if_pos hdeep, if_pos (decide_eq_true hdeep)]
    rfl
  · rw [if_neg hdeep, if_neg (by simpa using hdeep)]

theorem renderTyped_eq_of_deeper {render render' : NodeRenderer} {depth : Int}
    (h : render (depth + 1) = render' (depth + 1)) :
    renderTyped table settings render depth = renderTyped table settings render' depth :=
  funext fun node => funext fun place =>
    renderTyped_congr Render.isCongruence_eq (fun v p => by rw [h]) (fun _ _ => trivial) node place

/-! ### Enough levels -/

/-- Beyond the levels up to the maximum depth it does not matter how many are carried out. -/
theorem renderWithin_eq_of_lt {limit depth : Int} {n n' : Nat}
    (h : (limit - depth + 1).toNat < n) (h' : (limit - depth + 1).toNat < n') :
    renderWithin table (settings.limited limit) n depth =
      renderWithin table (settings.limited limit) n' depth := by
  induction n generalizing n' depth with
  | zero => exact absurd h (Nat.not_lt_zero _)
  | succ n ih =>
    obtain ⟨m, rfl⟩ : ∃ m, n' = m + 1 := ⟨n' - 1, by omega⟩
    funext node place
    rw [renderWithin, renderWithin, renderNode_limited, renderNode_limited]
    split
    · rfl
    · have hdeeper : renderWithin table (settings.limited limit) n (depth + 1) =
          renderWithin table (settings.limited limit) m (depth + 1) := ih (by omega) (by omega)
      rw [renderTyped_eq_of_deeper table settings hdeeper]

theorem renderWithin_eq_renderer {limit depth : Int} {n : Nat}
    (h : (limit - depth + 1).toNat < n) :
    renderWithin table (settings.limited limit) n depth =
      renderer table (settings.limited limit) depth :=
  renderWithin_eq_of_lt table settings h (Nat.lt_succ_self _)

/-- The renderer is one step of itself. -/
theorem renderer_limited (limit depth : Int) :
    renderer table (settings.limited limit) depth =
      renderNode table (settings.limited limit)
        (renderer table (settings.limited limit)) depth := by
  funext node place
  rw [renderer, Settings.levels_limited, renderWithin, renderNode_limited, renderNode_limited]
  split
  · rfl
  · have hdeeper := renderWithin_eq_renderer table settings
      (show (limit - (depth + 1) + 1).toNat < (limit - depth + 1).toNat by omega)
    rw [renderTyped_eq_of_deeper table settings hdeeper]

/-! ### More levels -/

/-- Where a node can be rendered within some levels, it is rendered alike within more, if it is as
far from the maximum depth or farther. -/
theorem refines_renderWithin_of_le {limit limit' : Int} {n n' : Nat} (hn : n ≤ n')
    {depth depth' : Int} (h : limit - depth ≤ limit' - depth') (node : Value) (place : Place) :
    Refines Eq (renderWithin table (settings.limited limit) n depth node place)
      (renderWithin table (settings.limited limit') n' depth' node place) := by
  induction n generalizing n' depth depth' node place with
  | zero => exact .fail _ _
  | succ n ih =>
    obtain ⟨m, rfl⟩ : ∃ m, n' = m + 1 := ⟨n' - 1, by omega⟩
    rw [renderWithin, renderWithin, renderNode_limited, renderNode_limited]
    by_cases hdeep : limit < depth
    · rw [if_pos hdeep]
      exact .fail _ _
    · rw [if_neg hdeep, if_neg (by omega)]
      exact renderTyped_congr Refines.isCongruence (fun v p => ih (by omega) (by omega) v p)
        (fun _ _ => trivial) node place

/-- Where a node can be rendered at some distance from the maximum depth, it is rendered alike at
every greater distance. -/
theorem refines_renderer_of_le {limit limit' depth depth' : Int}
    (h : limit - depth ≤ limit' - depth') (node : Value) (place : Place) :
    Refines Eq (renderer table (settings.limited limit) depth node place)
      (renderer table (settings.limited limit') depth' node place) := by
  have hlevels : (limit - depth + 1).toNat + 1 ≤ (limit' - depth' + 1).toNat + 1 := by omega
  exact refines_renderWithin_of_le table settings hlevels h node place

end PageMarkup
