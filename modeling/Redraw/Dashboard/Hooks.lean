import Redraw.Json.Value

/-!
# Hooks

A drawn chart calls back into the page: it adds filters, sets control values and opens or closes filter
menus. Each of the four calls reaches the page only while its hook is set.
-/

namespace Redraw

/-- A filter on a column. It is merged with the filter already there, or replaces it, and the
dashboard is refreshed, or not. -/
structure AddFilterRequest where
  column : String
  values : List Value
  merge : Bool := true
  refresh : Bool := true

/-- A call into the page. -/
inductive HookCall where
  | addFilter (request : AddFilterRequest)
  | setControlValue (arguments : List Value)
  | filterMenuOpen (column : String)
  | filterMenuClose (column : String)

/-- Which hooks are set. -/
structure Hooks where
  addFilter : Bool := false
  setControlValue : Bool := false
  filterMenuOpen : Bool := false
  filterMenuClose : Bool := false
deriving DecidableEq, Repr

namespace Hooks

/-- The hook of a call is set. -/
def reaches (h : Hooks) : HookCall → Bool
  | .addFilter _ => h.addFilter
  | .setControlValue _ => h.setControlValue
  | .filterMenuOpen _ => h.filterMenuOpen
  | .filterMenuClose _ => h.filterMenuClose

/-- The calls that reach the page when one is made. -/
def call (h : Hooks) (c : HookCall) : List HookCall := if h.reaches c then [c] else []

/-- Which hooks are set, in words. -/
def summary (h : Hooks) : String :=
  let flag := fun (b : Bool) => if b then "true" else "false"
  "RenderHooks \x7b add_filter: " ++ flag h.addFilter
    ++ ", set_control_value: " ++ flag h.setControlValue
    ++ ", filter_menu_open: " ++ flag h.filterMenuOpen
    ++ ", filter_menu_close: " ++ flag h.filterMenuClose ++ " \x7d"

end Hooks

end Redraw
